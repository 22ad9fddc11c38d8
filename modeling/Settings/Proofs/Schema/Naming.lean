import Settings.Proofs.Duration.Digits
import Settings.Proofs.Schema.Description
import Settings.Schema.Naming

/-!
# Names of definitions

Two descriptions get the same name only if they are one, or if they have the same title and are
equal but for the order of their properties.  The titles are no obstacle to that: they have no
underscore in them, so a longer name shows the title that it was made from.  Names settle after two
rounds, because all references have got their names in the first one.
-/

namespace Settings

/-! ## Titles -/

theorem toUpper_ne_underscore {c : Char} (h : c.isAlphanum = true) : c.toUpper ≠ '_' := by
  have hne : c ≠ '_' := by
    rintro rfl
    cases h
  unfold Char.toUpper
  split
  · next hlower =>
      intro heq
      have hval := congrArg (fun d ↦ d.val.toNat) heq
      have hlow : 97 ≤ c.val.toNat := hlower.1
      have hhigh : c.val.toNat ≤ 122 := hlower.2
      have hdiff : ('A'.val - 'a'.val).toNat = 4294967264 := by decide
      have hunder : '_'.val.toNat = 95 := by decide
      simp only [UInt32.toNat_add, hdiff, hunder] at hval
      omega
  · exact hne

theorem underscore_not_mem_camelName (name : String) : '_' ∉ (camelName name).toList := by
  unfold camelName
  extract_lets capitalised text
  split
  · decide
  · rw [String.toList_ofList, List.mem_flatMap]
    rintro ⟨part, hpart, hmem⟩
    have hall := (List.mem_filter.1 hpart).2
    rw [List.all_eq_true] at hall
    cases part with
    | nil => cases hmem
    | cons c cs =>
        rcases List.mem_cons.1 hmem with heq | hmem
        · exact toUpper_ne_underscore (hall c List.mem_cons_self) heq.symm
        · cases hall _ (List.mem_cons_of_mem c hmem)

theorem append_underscore_inj {s t u v : List Char} (hs : '_' ∉ s) (ht : '_' ∉ t)
    (h : s ++ '_' :: u = t ++ '_' :: v) : s = t ∧ u = v := by
  induction s generalizing t with
  | nil =>
      cases t with
      | nil => exact ⟨rfl, (List.cons.inj h).2⟩
      | cons c t => exact absurd (List.cons.inj h).1 fun hc ↦ ht (hc ▸ List.mem_cons_self)
  | cons c s ih =>
      cases t with
      | nil => exact absurd (List.cons.inj h).1 fun hc ↦ hs (hc ▸ List.mem_cons_self)
      | cons d t =>
          obtain ⟨rfl, hrest⟩ := List.cons.inj h
          obtain ⟨rfl, huv⟩ := ih (fun hm ↦ hs (List.mem_cons_of_mem _ hm))
            (fun hm ↦ ht (List.mem_cons_of_mem _ hm)) hrest
          exact ⟨rfl, huv⟩

namespace Schema

theorem underscore_not_mem_modelAt {model : String} (h : '_' ∉ model.toList)
    (path : List String) : '_' ∉ (modelAt model path).toList := by
  induction path generalizing model with
  | nil => exact h
  | cons name path ih =>
      apply ih
      rw [String.toList_append, List.mem_append, not_or]
      exact ⟨h, underscore_not_mem_camelName name⟩

theorem toList_longName (title : String) (n : Nat) :
    (s!"ConfigSpec__spec__{title}__{n}").toList =
      "ConfigSpec__spec__".toList ++ (title.toList ++ '_' :: '_' :: Nat.toDigits 10 n) := by
  simp [toString, String.toList_append, Nat.repr]

/-- A longer name shows the title and the turn that it was made from. -/
theorem longName_inj {s t : String} {m n : Nat} (hs : '_' ∉ s.toList) (ht : '_' ∉ t.toList)
    (h : s!"ConfigSpec__spec__{s}__{m}" = s!"ConfigSpec__spec__{t}__{n}") : s = t ∧ m = n := by
  have hlists := congrArg String.toList h
  rw [toList_longName, toList_longName] at hlists
  obtain ⟨htitle, hdigits⟩ := append_underscore_inj hs ht (List.append_cancel_left hlists)
  have hvalue := congrArg Text.digitsValue (List.cons.inj hdigits).2
  rw [Text.digitsValue_toDigits, Text.digitsValue_toDigits] at hvalue
  exact ⟨String.toList_inj.1 htitle, hvalue⟩

theorem longName_ne_title {s t : String} {n : Nat} (ht : '_' ∉ t.toList) :
    s!"ConfigSpec__spec__{s}__{n}" ≠ t := by
  rintro rfl
  rw [toList_longName] at ht
  simp at ht

/-! ## Equal descriptions -/

theorem ObjectType.mapReferences_mapReferences {ρ σ τ : Type} (g : ρ → σ) (h : σ → τ)
    (x : ObjectType ρ) : (x.mapReferences g).mapReferences h = x.mapReferences (h ∘ g) := by
  have htype (t : PropertyType ρ) : (t.mapReferences g).mapReferences h =
      t.mapReferences (h ∘ g) := by
    cases t <;> rfl
  simp [mapReferences, Property.mapReferences, htype]

theorem ObjectType.mapReferences_id {ρ : Type} (x : ObjectType ρ) : x.mapReferences id = x := by
  have htype (t : PropertyType ρ) : t.mapReferences id = t := by
    cases t <;> rfl
  have hproperty (p : Property ρ) : p.mapReferences id = p := by
    rw [Property.mapReferences, htype]
  obtain ⟨title, properties, required⟩ := x
  simp [mapReferences, hproperty]

section

variable {ρ : Type} [BEq ρ]

theorem ObjectType.same_iff {x y : ObjectType ρ} :
    x.same y = true ↔ x.title = y.title ∧ x.required = y.required ∧
      x.properties.length = y.properties.length ∧
      ∀ p ∈ x.properties, ∃ q ∈ y.properties, p.same q = true := by
  simp [same, and_assoc]

theorem Property.name_eq_of_same {p q : Property ρ} (h : p.same q = true) : p.name = q.name := by
  simp only [same, Bool.and_eq_true, beq_iff_eq] at h
  exact h.1.1.1.1.1.1

theorem Property.type_same_of_same {p q : Property ρ} (h : p.same q = true) :
    p.type.same q.type = true := by
  simp only [same, Bool.and_eq_true] at h
  exact h.1.1.1.1.1.2

end

section

variable {ρ σ τ : Type} [BEq σ] [LawfulBEq σ] [BEq τ] [LawfulBEq τ] {g : ρ → σ} {h : ρ → τ}

theorem Property.same_mapReferences {p q : Property ρ}
    (hgh : ∀ r s, p.type = .reference r → q.type = .reference s → g r = g s → h r = h s)
    (hsame : (p.mapReferences g).same (q.mapReferences g) = true) :
    (p.mapReferences h).same (q.mapReferences h) = true := by
  have htypes : (p.type.mapReferences h).same (q.type.mapReferences h) = true := by
    have htype := type_same_of_same hsame
    rw [mapReferences, mapReferences] at htype
    cases hp : p.type with
    | scalar k =>
        cases hq : q.type with
        | scalar l =>
            rw [hp, hq] at htype
            exact htype
        | reference s =>
            rw [hp, hq] at htype
            cases htype
    | reference r =>
        cases hq : q.type with
        | scalar l =>
            rw [hp, hq] at htype
            cases htype
        | reference s =>
            rw [hp, hq] at htype
            exact beq_iff_eq.2 (hgh r s hp hq (eq_of_beq htype))
  simp only [same, Bool.and_eq_true] at hsame ⊢
  obtain ⟨⟨⟨⟨⟨⟨hname, -⟩, hnull⟩, htitle⟩, hdescription⟩, hexamples⟩, hdefault⟩ := hsame
  exact ⟨⟨⟨⟨⟨⟨hname, htypes⟩, hnull⟩, htitle⟩, hdescription⟩, hexamples⟩, hdefault⟩

/-- Equal descriptions stay equal when references are renamed so that no equal ones are told
apart. -/
theorem ObjectType.same_mapReferences {x y : ObjectType ρ}
    (hgh : ∀ p ∈ x.properties, ∀ q ∈ y.properties, ∀ r s, p.type = .reference r →
      q.type = .reference s → g r = g s → h r = h s)
    (hsame : (x.mapReferences g).same (y.mapReferences g) = true) :
    (x.mapReferences h).same (y.mapReferences h) = true := by
  obtain ⟨htitle, hrequired, hlength, hproperties⟩ := same_iff.1 hsame
  refine same_iff.2 ⟨htitle, hrequired, by simpa [mapReferences] using hlength, ?_⟩
  intro p' hp'
  obtain ⟨p, hp, rfl⟩ := List.mem_map.1 hp'
  obtain ⟨q', hq', hpq⟩ := hproperties _ (List.mem_map_of_mem hp)
  obtain ⟨q, hq, rfl⟩ := List.mem_map.1 hq'
  exact ⟨_, List.mem_map_of_mem hq, Property.same_mapReferences (hgh p hp q hq) hpq⟩

end

/-! ## Names -/

section

variable {ρ : Type} {all : List (ObjectType ρ)} {i j : Nat} {x y : ObjectType ρ}

theorem turn_lt_turn (hij : i < j) (hj : all[j]? = some y) :
    turn all i y.title < turn all j y.title := by
  have hsplit : all.take (j + 1) = all.take (i + 1) ++ ((all.take j).drop (i + 1) ++ [y]) := by
    have htake : (all.take j).take (i + 1) = all.take (i + 1) := by
      rw [List.take_take, Nat.min_eq_left hij]
    rw [List.take_add_one, hj, Option.toList_some, ← List.append_assoc, ← htake,
      List.take_append_drop]
  rw [turn, turn, hsplit, List.filter_append, List.length_append]
  have hlast : 0 < (((all.take j).drop (i + 1) ++ [y]).filter (·.title == y.title)).length := by
    rw [List.length_pos_iff_exists_mem]
    exact ⟨y, List.mem_filter.2 ⟨by simp, by simp⟩⟩
  omega

variable [BEq ρ]

/-- Whether all others that have the title of the `i`-th description are equal to it. -/
def Shared (all : List (ObjectType ρ)) (i : Nat) (x : ObjectType ρ) : Prop :=
  ∀ j y, j ≠ i → all[j]? = some y → y.title = x.title → y.same x = true

theorem definitionName_of_shared (h : Shared all i x) : definitionName all i x = x.title := by
  have hall : ((all.eraseIdx i).filter (·.title == x.title)).all (·.same x) = true := by
    rw [List.all_eq_true]
    intro y hy
    obtain ⟨hmem, htitle⟩ := List.mem_filter.1 hy
    obtain ⟨j, hj, hget⟩ := List.mem_eraseIdx_iff_getElem?.1 hmem
    exact h j y hj hget (eq_of_beq htitle)
  rw [definitionName, if_pos hall]

theorem definitionName_of_not_shared (h : ¬Shared all i x) :
    definitionName all i x = s!"ConfigSpec__spec__{x.title}__{turn all i x.title}" := by
  have hall : ¬((all.eraseIdx i).filter (·.title == x.title)).all (·.same x) = true := by
    rw [List.all_eq_true]
    intro hall
    apply h
    intro j y hj hget htitle
    have hmem : y ∈ all.eraseIdx i := List.mem_eraseIdx_iff_getElem?.2 ⟨j, hj, hget⟩
    exact hall y (List.mem_filter.2 ⟨hmem, beq_iff_eq.2 htitle⟩)
  rw [definitionName, if_neg hall]

/-- Different descriptions get the same name only if both go by their common title. -/
theorem eq_or_shared (hi : all[i]? = some x) (hj : all[j]? = some y) (hx : '_' ∉ x.title.toList)
    (hy : '_' ∉ y.title.toList) (h : definitionName all i x = definitionName all j y) :
    i = j ∨ (x.title = y.title ∧ Shared all i x ∧ Shared all j y) := by
  by_cases hxs : Shared all i x
  · rw [definitionName_of_shared hxs] at h
    by_cases hys : Shared all j y
    · rw [definitionName_of_shared hys] at h
      exact .inr ⟨h, hxs, hys⟩
    · rw [definitionName_of_not_shared hys] at h
      exact absurd h.symm (longName_ne_title hx)
  · rw [definitionName_of_not_shared hxs] at h
    by_cases hys : Shared all j y
    · rw [definitionName_of_shared hys] at h
      exact absurd h (longName_ne_title hy)
    · rw [definitionName_of_not_shared hys] at h
      obtain ⟨htitle, hturn⟩ := longName_inj hx hy h
      left
      rcases Nat.lt_trichotomy i j with hlt | heq | hlt
      · have hless := turn_lt_turn hlt hj
        rw [← htitle] at hless hturn
        exact absurd hturn hless.ne
      · exact heq
      · have hless := turn_lt_turn hlt hi
        rw [htitle] at hless hturn
        exact absurd hturn.symm hless.ne

theorem Shared.mapReferences [LawfulBEq ρ] {σ : Type} [BEq σ] [LawfulBEq σ] (h : Shared all i x)
    (g : ρ → σ) : Shared (all.map (·.mapReferences g)) i (x.mapReferences g) := by
  intro j y' hj hget htitle
  rw [List.getElem?_map, Option.map_eq_some_iff] at hget
  obtain ⟨y, hy, rfl⟩ := hget
  have hsame := h j y hj hy htitle
  rw [← y.mapReferences_id, ← x.mapReferences_id] at hsame
  exact ObjectType.same_mapReferences (fun _ _ _ _ r s _ _ hrs ↦ congrArg g hrs) hsame

theorem nameIn_definitionNames (hi : all[i]? = some x) :
    nameIn (definitionNames all) i = definitionName all i x := by
  rw [nameIn, definitionNames, List.getD_eq_getElem?_getD, List.getElem?_mapIdx, hi]
  rfl

end

/-! ## Rounds -/

/-- Descriptions whose titles have no underscore in them and whose references are positions among
the descriptions. -/
structure Sound (found : List (ObjectType Nat)) : Prop where
  title : ∀ x ∈ found, '_' ∉ x.title.toList
  reference : ∀ x ∈ found, ∀ p ∈ x.properties, ∀ r, p.type = .reference r →
    ∃ y, found[r]? = some y

/-- Whether names are one for each description and the same only for descriptions that are equal. -/
structure IsNaming (found : List (ObjectType Nat)) (names : List String) : Prop where
  length : names.length = found.length
  eq_or_same : ∀ i j x y, found[i]? = some x → found[j]? = some y →
    nameIn names i = nameIn names j → i = j ∨
      (x.mapReferences (nameIn names)).same (y.mapReferences (nameIn names)) = true

section

variable (found : List (ObjectType Nat))

/-- The descriptions as the first round finds them. -/
def unnamed : List (ObjectType Reference) := found.map (·.mapReferences .position)

def firstNames : List String := definitionNames (unnamed found)

/-- The descriptions as the second round finds them, and every later one. -/
def named : List (ObjectType Reference) :=
  (unnamed found).map (·.mapReferences (Reference.named (firstNames found)))

/-- The names that the second round gives. -/
def lastNames : List String := definitionNames (named found)

theorem map_named (names : List String) :
    (named found).map (·.mapReferences (Reference.named names)) = named found := by
  simp only [named, unnamed, List.map_map]
  apply List.map_congr_left
  intro x _
  simp only [Function.comp_apply, ObjectType.mapReferences_mapReferences]
  rfl

/-- However many rounds may be made, the names are those of the second one. -/
theorem settledNames?_eq : settledNames? found = some (lastNames found) := by
  show settle (unnamed found) none (97 + 3) = _
  rw [settle, if_neg (by simp)]
  show settle (named found) (some (firstNames found)) (97 + 2) = _
  rw [settle]
  split
  · rfl
  · rw [map_named, settle]
    exact if_pos rfl

variable {found} {i j : Nat} {x y : ObjectType Nat}

theorem getElem?_unnamed (hi : found[i]? = some x) :
    (unnamed found)[i]? = some (x.mapReferences .position) := by
  rw [unnamed, List.getElem?_map, hi]
  rfl

theorem getElem?_named (hi : found[i]? = some x) :
    (named found)[i]? =
      some ((x.mapReferences .position).mapReferences (Reference.named (firstNames found))) := by
  rw [named, List.getElem?_map, getElem?_unnamed hi]
  rfl

/-- What has got one name in the first round keeps one name. -/
theorem Sound.nameIn_eq (h : Sound found) (hi : found[i]? = some x) (hj : found[j]? = some y)
    (hname : nameIn (firstNames found) i = nameIn (firstNames found) j) :
    nameIn (lastNames found) i = nameIn (lastNames found) j := by
  have hi' := getElem?_unnamed hi
  have hj' := getElem?_unnamed hj
  rw [firstNames, nameIn_definitionNames hi', nameIn_definitionNames hj'] at hname
  have hx := h.title x (List.mem_of_getElem? hi)
  have hy := h.title y (List.mem_of_getElem? hj)
  rcases eq_or_shared hi' hj' hx hy hname with rfl | ⟨htitle, hxs, hys⟩
  · rfl
  · have hxs' : Shared (named found) i _ := hxs.mapReferences (Reference.named (firstNames found))
    have hys' : Shared (named found) j _ := hys.mapReferences (Reference.named (firstNames found))
    rw [lastNames, nameIn_definitionNames (getElem?_named hi),
      nameIn_definitionNames (getElem?_named hj), definitionName_of_shared hxs',
      definitionName_of_shared hys']
    exact htitle

theorem Sound.isNaming (h : Sound found) : IsNaming found (lastNames found) where
  length := by simp [lastNames, definitionNames, named, unnamed]
  eq_or_same i j x y hi hj hname := by
    rw [lastNames, nameIn_definitionNames (getElem?_named hi),
      nameIn_definitionNames (getElem?_named hj)] at hname
    have hx := h.title x (List.mem_of_getElem? hi)
    have hy := h.title y (List.mem_of_getElem? hj)
    rcases eq_or_shared (getElem?_named hi) (getElem?_named hj) hx hy hname with
      rfl | ⟨htitle, -, hys⟩
    · exact .inl rfl
    · by_cases hij : i = j
      · exact .inl hij
      · right
        have hsame := hys i _ hij (getElem?_named hi) htitle
        simp only [ObjectType.mapReferences_mapReferences] at hsame
        refine ObjectType.same_mapReferences ?_ hsame
        intro p hp q hq r s hr hs hrs
        obtain ⟨u, hu⟩ := h.reference x (List.mem_of_getElem? hi) p hp r hr
        obtain ⟨v, hv⟩ := h.reference y (List.mem_of_getElem? hj) q hq s hs
        exact h.nameIn_eq hu hv (Reference.name.inj hrs)

end

end Schema

end Settings
