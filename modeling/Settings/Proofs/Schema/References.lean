import Settings.Proofs.Schema.Definitions
import Settings.Schema.Document

/-!
# When there is a document

What stops a document are texts under `$ref` and values under `$defs` in the defaults and examples of
fields.  A schema in which no map has these keys has a document, whatever else its defaults are.
-/

namespace Settings

/-! ## Entries added one after another -/

section

variable {key value k v : Value}

theorem Entries.mem_put {entries : Entries} (h : (k, v) ∈ put entries key value) :
    (k = key ∨ ∃ w, (k, w) ∈ entries) ∧ (v = value ∨ ∃ j, (j, v) ∈ entries) := by
  induction entries with
  | nil =>
      rw [put_nil] at h
      cases List.mem_singleton.1 h
      exact ⟨.inl rfl, .inl rfl⟩
  | cons e rest ih =>
      obtain ⟨k', v'⟩ := e
      rw [put_cons] at h
      split at h
      · rcases List.mem_cons.1 h with h | h
        · cases h
          exact ⟨.inr ⟨v', List.mem_cons_self⟩, .inl rfl⟩
        · exact ⟨.inr ⟨v, List.mem_cons_of_mem _ h⟩, .inr ⟨k, List.mem_cons_of_mem _ h⟩⟩
      · rcases List.mem_cons.1 h with h | h
        · cases h
          exact ⟨.inr ⟨v, List.mem_cons_self⟩, .inr ⟨k, List.mem_cons_self⟩⟩
        · obtain ⟨hk, hv⟩ := ih h
          constructor
          · exact hk.imp_right fun ⟨w, hw⟩ ↦ ⟨w, List.mem_cons_of_mem _ hw⟩
          · exact hv.imp_right fun ⟨j, hj⟩ ↦ ⟨j, List.mem_cons_of_mem _ hj⟩

/-- The keys and the values of a map are those of the pairs that it has been made from. -/
theorem Entries.mem_ofList {pairs : List (Value × Value)} (h : (k, v) ∈ ofList pairs) :
    (∃ w, (k, w) ∈ pairs) ∧ ∃ j, (j, v) ∈ pairs := by
  have hall (start : Entries) (hmem : (k, v) ∈ pairs.foldl (fun es e ↦ put es e.1 e.2) start) :
      ((∃ w, (k, w) ∈ start) ∨ ∃ w, (k, w) ∈ pairs) ∧
        ((∃ j, (j, v) ∈ start) ∨ ∃ j, (j, v) ∈ pairs) := by
    clear h
    induction pairs generalizing start with
    | nil => exact ⟨.inl ⟨v, hmem⟩, .inl ⟨k, hmem⟩⟩
    | cons e rest ih =>
        obtain ⟨k', v'⟩ := e
        obtain ⟨hk, hv⟩ := ih _ hmem
        constructor
        · rcases hk with ⟨w, hw⟩ | ⟨w, hw⟩
          · rcases (mem_put hw).1 with rfl | hw
            · exact .inr ⟨v', List.mem_cons_self⟩
            · exact .inl hw
          · exact .inr ⟨w, List.mem_cons_of_mem _ hw⟩
        · rcases hv with ⟨j, hj⟩ | ⟨j, hj⟩
          · rcases (mem_put hj).2 with rfl | hj
            · exact .inr ⟨k', List.mem_cons_self⟩
            · exact .inl hj
          · exact .inr ⟨j, List.mem_cons_of_mem _ hj⟩
  obtain ⟨hk, hv⟩ := hall [] h
  constructor
  · exact hk.resolve_left fun ⟨_, hw⟩ ↦ List.not_mem_nil hw
  · exact hv.resolve_left fun ⟨_, hj⟩ ↦ List.not_mem_nil hj

end

namespace Schema

open Settings.Field

/-! ## Keys -/

/-- Whether a value is or contains a map with a key. -/
inductive HasKey (key : String) : Value → Prop
  | here {k v : Value} {entries : Entries} (h : (k, v) ∈ entries) (hk : keyText k = key) :
      HasKey key (.map entries)
  | entry {k v : Value} {entries : Entries} (h : (k, v) ∈ entries) (hv : HasKey key v) :
      HasKey key (.map entries)
  | item {v : Value} {items : List Value} (h : v ∈ items) (hv : HasKey key v) :
      HasKey key (.list items)

variable {key : String}

theorem HasKey.cons {e : Value × Value} {entries : Entries} (h : HasKey key (.map entries)) :
    HasKey key (.map (e :: entries)) := by
  cases h with
  | here h hk => exact .here (List.mem_cons_of_mem e h) hk
  | entry h hv => exact .entry (List.mem_cons_of_mem e h) hv

theorem keyText_of_isText {k : Value} (h : isText key k = true) : keyText k = key := by
  cases k with
  | str s => exact eq_of_beq h
  | _ => cases h

mutual

theorem hasKey_of_plain : ∀ v : Value, HasKey key (plain v) → HasKey key v
  | .list items, h => by
      rw [plain] at h
      cases h with
      | item hmem hv =>
          obtain ⟨v, hv'⟩ := hasKey_of_mem_plainItems items hmem hv
          exact .item hv'.1 hv'.2
  | .map entries, h => by
      rw [plain] at h
      cases h with
      | here hmem hk =>
          obtain ⟨w, hw⟩ := (Entries.mem_ofList hmem).1
          exact (hasKey_of_mem_plainEntries entries hw).1 hk
      | entry hmem hv =>
          obtain ⟨j, hj⟩ := (Entries.mem_ofList hmem).2
          exact (hasKey_of_mem_plainEntries entries hj).2 hv
  | .duration _, h => by
      rw [plain] at h
      cases h
  | .null, h | .bool _, h | .int _, h | .float _, h | .str _, h | .date _, h | .moment _, h
  | .bytes _, h | .set _, h => by
      simpa only [plain] using h

theorem hasKey_of_mem_plainItems {w : Value} : ∀ items : List Value, w ∈ plainItems items →
    HasKey key w → ∃ v, v ∈ items ∧ HasKey key v
  | [], h, _ => by
      rw [plainItems] at h
      cases h
  | v :: rest, h, hw => by
      rw [plainItems] at h
      rcases List.mem_cons.1 h with rfl | h
      · exact ⟨v, List.mem_cons_self, hasKey_of_plain v hw⟩
      · obtain ⟨u, hu, hkey⟩ := hasKey_of_mem_plainItems rest h hw
        exact ⟨u, List.mem_cons_of_mem v hu, hkey⟩

theorem hasKey_of_mem_plainEntries {k w : Value} : ∀ entries : Entries,
    (k, w) ∈ plainEntries entries →
      (keyText k = key → HasKey key (.map entries)) ∧ (HasKey key w → HasKey key (.map entries))
  | [], h => by
      rw [plainEntries] at h
      cases h
  | (k', v) :: rest, h => by
      rw [plainEntries] at h
      rcases List.mem_cons.1 h with h | h
      · cases h
        constructor
        · intro hk
          exact .here List.mem_cons_self hk
        · intro hv
          exact .entry List.mem_cons_self (hasKey_of_plain v hv)
      · obtain ⟨hk, hv⟩ := hasKey_of_mem_plainEntries rest h
        exact ⟨fun h ↦ (hk h).cons, fun h ↦ (hv h).cons⟩

end

/-! ## References and definitions -/

mutual

theorem hasKey_of_mem_references {r : String} : ∀ v : Value, r ∈ references v → HasKey "$ref" v
  | .list items, h => by
      rw [references] at h
      obtain ⟨v, hv, hkey⟩ := hasKey_of_mem_referencesOfItems items h
      exact .item hv hkey
  | .map entries, h => by
      rw [references] at h
      exact hasKey_of_mem_referencesOfEntries entries h
  | .null, h | .bool _, h | .int _, h | .float _, h | .str _, h | .duration _, h | .date _, h
  | .moment _, h | .bytes _, h | .set _, h => by
      rw [references] at h
      · cases h
      all_goals simp

theorem hasKey_of_mem_referencesOfItems {r : String} : ∀ items : List Value,
    r ∈ referencesOfItems items → ∃ v, v ∈ items ∧ HasKey "$ref" v
  | [], h => by
      rw [referencesOfItems] at h
      cases h
  | v :: rest, h => by
      rw [referencesOfItems] at h
      rcases List.mem_append.1 h with h | h
      · exact ⟨v, List.mem_cons_self, hasKey_of_mem_references v h⟩
      · obtain ⟨u, hu, hkey⟩ := hasKey_of_mem_referencesOfItems rest h
        exact ⟨u, List.mem_cons_of_mem v hu, hkey⟩

theorem hasKey_of_mem_referencesOfEntries {r : String} : ∀ entries : Entries,
    r ∈ referencesOfEntries entries → HasKey "$ref" (.map entries)
  | [], h => by
      rw [referencesOfEntries] at h
      cases h
  | (k, v) :: rest, h => by
      unfold referencesOfEntries at h
      rcases List.mem_append.1 h with h | h
      · split at h
        · split at h
          · next hk => exact .here List.mem_cons_self (keyText_of_isText hk)
          · cases h
        · split at h
          · cases h
          · obtain ⟨u, hu, hkey⟩ := hasKey_of_mem_referencesOfItems _ h
            exact .entry List.mem_cons_self (.item hu hkey)
        · exact .entry List.mem_cons_self (hasKey_of_mem_references v h)
      · exact (hasKey_of_mem_referencesOfEntries rest h).cons

end

mutual

theorem hasKey_of_mem_strays {w : Value} : ∀ v : Value, w ∈ strays v → HasKey "$defs" v
  | .list items, h => by
      rw [strays] at h
      obtain ⟨v, hv, hkey⟩ := hasKey_of_mem_straysOfItems items h
      exact .item hv hkey
  | .map entries, h => by
      rw [strays] at h
      exact hasKey_of_mem_straysOfEntries entries h
  | .null, h | .bool _, h | .int _, h | .float _, h | .str _, h | .duration _, h | .date _, h
  | .moment _, h | .bytes _, h | .set _, h => by
      rw [strays] at h
      · cases h
      all_goals simp

theorem hasKey_of_mem_straysOfItems {w : Value} : ∀ items : List Value,
    w ∈ straysOfItems items → ∃ v, v ∈ items ∧ HasKey "$defs" v
  | [], h => by
      rw [straysOfItems] at h
      cases h
  | v :: rest, h => by
      rw [straysOfItems] at h
      rcases List.mem_append.1 h with h | h
      · exact ⟨v, List.mem_cons_self, hasKey_of_mem_strays v h⟩
      · obtain ⟨u, hu, hkey⟩ := hasKey_of_mem_straysOfItems rest h
        exact ⟨u, List.mem_cons_of_mem v hu, hkey⟩

theorem hasKey_of_mem_straysOfEntries {w : Value} : ∀ entries : Entries,
    w ∈ straysOfEntries entries → HasKey "$defs" (.map entries)
  | [], h => by
      rw [straysOfEntries] at h
      cases h
  | (k, v) :: rest, h => by
      rw [straysOfEntries] at h
      rcases List.mem_append.1 h with h | h
      · split at h
        · next hk => exact .here List.mem_cons_self (keyText_of_isText hk)
        · exact .entry List.mem_cons_self (hasKey_of_mem_strays v h)
      · exact (hasKey_of_mem_straysOfEntries rest h).cons

end

/-! ## Schemas with documents -/

theorem mem_defaultReferences_iff {d : Option Value} {r : String} :
    r ∈ (d.map fun v => references (plain v)).getD [] ↔
      ∃ v, d = some v ∧ r ∈ references (plain v) := by
  cases d <;> simp

mutual

theorem exists_field_of_mem_fieldReferences {r : String} : ∀ (f : Field) {fields : List Field},
    f ∈ fields → r ∈ fieldReferences f → ∃ path level, Level fields path level ∧
      ∃ g ∈ level, ∃ v, g.info.defaultValue = some v ∧ r ∈ references (plain v)
  | .scalar info kind, fields, hf, h => by
      rw [fieldReferences] at h
      exact ⟨[], fields, .root, _, hf, mem_defaultReferences_iff.1 h⟩
  | .object info children rules, fields, hf, h => by
      rw [fieldReferences] at h
      rcases List.mem_append.1 h with h | h
      · obtain ⟨path, level, hlevel, hg⟩ :=
          exists_field_of_mem_allReferences children (fun c hc ↦ hc) h
        exact ⟨_, level, .inside hf hlevel, hg⟩
      · exact ⟨[], fields, .root, _, hf, mem_defaultReferences_iff.1 h⟩

theorem exists_field_of_mem_allReferences {r : String} : ∀ (part : List Field)
    {fields : List Field}, (∀ f ∈ part, f ∈ fields) → r ∈ allReferences part →
      ∃ path level, Level fields path level ∧
        ∃ g ∈ level, ∃ v, g.info.defaultValue = some v ∧ r ∈ references (plain v)
  | [], _, _, h => by
      rw [allReferences] at h
      cases h
  | f :: rest, fields, hpart, h => by
      rw [allReferences] at h
      rcases List.mem_append.1 h with h | h
      · exact exists_field_of_mem_fieldReferences f (hpart f List.mem_cons_self) h
      · exact exists_field_of_mem_allReferences rest
          (fun c hc ↦ hpart c (List.mem_cons_of_mem f hc)) h

end

/-- Whether no map in the defaults and examples of a schema has a key of documents. -/
structure PlainlyIllustrated (s : Schema) : Prop where
  default_ref : ∀ path level, Level s.fields path level → ∀ f ∈ level, ∀ v,
    f.info.defaultValue = some v → ¬HasKey "$ref" v
  default_defs : ∀ path level, Level s.fields path level → ∀ f ∈ level, ∀ v,
    f.info.defaultValue = some v → ¬HasKey "$defs" v
  example_defs : ∀ path level, Level s.fields path level → ∀ f ∈ level,
    ∀ v ∈ f.info.examples, ¬HasKey "$defs" v

variable {s : Schema}

theorem PlainlyIllustrated.unknownReference? (h : s.PlainlyIllustrated) :
    s.unknownReference? = none := by
  have hnil : allReferences s.fields = [] := by
    rw [List.eq_nil_iff_forall_not_mem]
    intro r hr
    obtain ⟨path, level, hlevel, f, hf, v, hv, hmem⟩ :=
      exists_field_of_mem_allReferences s.fields (fun f hf ↦ hf) hr
    exact h.default_ref path level hlevel f hf v hv
      (hasKey_of_plain v (hasKey_of_mem_references _ hmem))
  rw [Schema.unknownReference?, hnil]
  rfl

theorem belongs_of_mem_described {x : ObjectType Nat} (hx : x ∈ s.found ++ [s.rootType]) :
    Belongs s.found rootModel s.fields x := by
  rcases List.mem_append.1 hx with hx | hx
  · exact belongs_of_mem_found hx
  · rw [List.mem_singleton.1 hx]
    exact ⟨[], s.fields, .root, rfl, rfl, (describeAll_spec rootModel [] s.fields).2⟩

theorem PlainlyIllustrated.stray? (h : s.PlainlyIllustrated) : s.stray? = none := by
  rw [Schema.stray?, List.head?_eq_none_iff, List.eq_nil_iff_forall_not_mem]
  intro w hw
  obtain ⟨x, hx, hw⟩ := List.mem_flatMap.1 hw
  obtain ⟨p, hp, hw⟩ := List.mem_flatMap.1 hw
  obtain ⟨path, level, hlevel, hportrays⟩ := belongs_of_mem_described hx
  obtain ⟨f, hf, t, rfl, -⟩ := hportrays.properties.exists_field hp
  rcases List.mem_append.1 hw with hw | hw
  · cases hnull : f.isNullable with
    | true => simp [property, hnull, strays] at hw
    | false =>
        cases hdefault : f.info.defaultValue with
        | none => simp [property, hnull, hdefault] at hw
        | some v =>
            have hkey : HasKey "$defs" (plain v) := by
              apply hasKey_of_mem_strays (w := w)
              simpa [property, hnull, hdefault] using hw
            exact h.default_defs path level hlevel f hf v hdefault (hasKey_of_plain v hkey)
  · obtain ⟨u, hu, hkey⟩ := hasKey_of_mem_straysOfItems _ hw
    obtain ⟨v, hv, hkey⟩ := hasKey_of_mem_plainItems f.info.examples hu hkey
    exact h.example_defs path level hlevel f hf v hv hkey

theorem document_eq_ok (hreference : s.unknownReference? = none) (hstray : s.stray? = none) :
    s.document = .ok (s.documentNamed (lastNames s.found)) := by
  rw [document, hreference, hstray, settledNames?_eq]

theorem PlainlyIllustrated.document_eq_ok (h : s.PlainlyIllustrated) :
    s.document = .ok (s.documentNamed (lastNames s.found)) :=
  Schema.document_eq_ok h.unknownReference? h.stray?

/-- In a document, if there is one, the definitions have names of their own. -/
theorem exists_naming {d : Document String} (h : s.document = .ok d) :
    ∃ names, IsNaming s.found names ∧ d = s.documentNamed names := by
  refine ⟨_, (sound_found s).isNaming, ?_⟩
  rw [document, settledNames?_eq] at h
  split at h
  · cases h
  · cases h
  · next hnone => cases hnone
  · next names _ _ hsome =>
      cases hsome
      exact (Except.ok.inj h).symm

/-! ## Names that are references -/

theorem Renaming.text_eq_self {text : String} (h : text ∉ s.internalNames.map referenceTo)
    (names : List String) : (Renaming.ofNames s names).text text = text := by
  have hnone : (Renaming.ofNames s names).references.lookup text = none := by
    rw [List.lookup_eq_none_iff]
    intro p hp
    rw [bne_iff_ne]
    intro heq
    apply h
    rw [heq]
    exact (List.of_mem_zip hp).1
  rw [Renaming.text, hnone]
  rfl

end Schema

end Settings
