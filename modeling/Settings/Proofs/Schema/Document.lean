import Settings.Proofs.Schema.Export
import Settings.Proofs.Schema.References
import Settings.Proofs.Schema.Refusals

/-!
# Documents match their schemas

What a document says about an object is what the schema makes of it: no other keys, the names of the
fields, and as required the fields that are refused as missing.
-/

namespace Settings

/-! ## What is required -/

theorem Scalar.textOfOctets_bind_ne {p : Problem} {f : String → Except Problem α}
    (hp : p ≠ .missing) (hf : ∀ s, f s ≠ .error .missing) (octets : List UInt8) :
    (textOfOctets p octets).bind f ≠ .error .missing := by
  unfold textOfOctets
  cases Text.decodeUtf8 octets with
  | ok cs => exact hf _
  | error e =>
      intro h
      cases h
      exact hp rfl

theorem Scalar.integerOfText_ne_missing (s : String) : integerOfText s ≠ .error .missing := by
  unfold integerOfText integerOfDigits
  grind

theorem Scalar.floatOfText_ne_missing (s : String) : floatOfText s ≠ .error .missing := by
  unfold floatOfText
  grind

theorem Scalar.toInteger_ne_missing (v : Value) : toInteger v ≠ .error .missing := by
  cases v with
  | float x =>
      rw [toInteger, integerOfFloat]
      split
      · simp
      · split
        · simp
        · split <;> simp
  | str s => exact integerOfText_ne_missing s
  | bytes octets => exact textOfOctets_bind_ne (by simp) integerOfText_ne_missing octets
  | _ => simp [toInteger]

theorem Scalar.toNumber_ne_missing (v : Value) : toNumber v ≠ .error .missing := by
  cases v with
  | int n =>
      rw [toNumber]
      split <;> simp
  | str s => exact floatOfText_ne_missing s
  | bytes octets => exact textOfOctets_bind_ne (by simp) floatOfText_ne_missing octets
  | _ => simp [toNumber]

theorem ScalarKind.convert_ne_missing (kind : ScalarKind) (v : Value) :
    kind.convert v ≠ .error .missing := by
  cases kind with
  | string =>
      cases v with
      | bytes octets => exact Scalar.textOfOctets_bind_ne (by simp) (by simp) octets
      | _ => simp [convert]
  | bool => cases v <;> simp [convert]
  | duration =>
      rw [convert]
      cases Duration.ofValue v <;> simp
  | int => exact map_ne_error (Scalar.toInteger_ne_missing v) Value.int
  | float => exact map_ne_error (Scalar.toNumber_ne_missing v) Value.float

/-- A field that is not given is refused as missing exactly if it does not resolve without input. -/
theorem Place.missing_mem_issues_iff {q : Place} (hnames : (q.fields.map Field.name).Nodup)
    {f : Field} (hf : f ∈ q.fields) (hnone : q.input.get? (.str f.name) = none) :
    ⟨[f.name], .problem .missing⟩ ∈ q.issues ↔ f.resolvesWithoutInput = false := by
  have hsource : f.source? q.input = f.standIn? := by
    rw [Field.source?, hnone]
  rw [← Field.standIn?_isSome, Option.isSome_eq_false_iff, Option.isNone_iff_eq_none, ← hsource]
  constructor
  · intro h
    obtain ⟨path, r, last, p, hpath, hlast, heq⟩ := Place.mem_issues_iff.1 h
    obtain ⟨hshown, hp⟩ := Issue.mk.inj heq
    cases hp
    cases hpath with
    | inside => simp at hshown
    | here =>
        generalize hmissing : Problem.missing = p at hlast
        cases hlast with
        | @missing g hg h =>
            have hname : f.name = g.name := by simpa using hshown
            have hgf : f = g := List.inj_on_of_nodup_map hnames hf hg hname
            rw [hgf]
            exact h
        | rejected hg hv h =>
            rw [← hmissing] at h
            cases h with
            | scalar _ hconvert => exact absurd hconvert (ScalarKind.convert_ne_missing _ _)
        | unknownKey => cases hmissing
        | keyNotText => cases hmissing
  · intro h
    exact Place.mem_issues_step.2 (.inl ⟨_, _, .missing hf h, rfl⟩)

/-! ## Documents and schemas -/

theorem Field.Level.unique {fields level level' : List Field} {path : List String}
    (h : Level fields path level) (h' : Level fields path level')
    (hnames : (fields.map Field.name).Nodup) (hfields : ∀ f ∈ fields, f.WellFormed) :
    level = level' := by
  induction h with
  | root =>
      cases h'
      rfl
  | @inside fields children level info rules path hf hlevel ih =>
      generalize hpath : info.name :: path = whole at h'
      cases h' with
      | root => cases hpath
      | @inside _ children' _ info' rules' path' hf' hlevel' =>
          obtain ⟨hname, rfl⟩ := List.cons.inj hpath
          have hsame : Field.object info children rules = .object info' children' rules' :=
            List.inj_on_of_nodup_map hnames hf hf' hname
          cases hsame
          cases hfields _ hf with
          | object _ hnames' hchildren => exact ih hlevel' hnames' hchildren

namespace Schema

open Settings.Field

/-- Whether an object schema of a document is that of the object at a path, for which some fields
are declared.  Only another object with the same model name and an equal schema can bring the
properties into another order, its own, and only a required name that is itself an internal reference
is not listed as it is. -/
structure Matches (s : Schema) (names : List String) (doc : Entries) (path : List String)
    (level : List Field) (object : Entries) : Prop where
  generated : ∃ y, s.Represents names path level y ∧
    Shows object ((Renaming.ofNames s names).object y)
  closed : object.get? (.str "additionalProperties") = some (.bool false)
  required : (∀ f ∈ level, f.resolvesWithoutInput = false →
      f.name ∉ s.internalNames.map referenceTo) →
    object.get? (.str "required") =
      if ∀ f ∈ level, f.resolvesWithoutInput = true then none
      else some (.list ((level.filter fun f => !f.resolvesWithoutInput).map fun f => .str f.name))
  properties : ∃ properties, object.get? (.str "properties") = some (.map properties) ∧
    (properties.map Prod.fst).Perm (level.map fun f => .str f.name) ∧
    (properties.map Prod.fst = level.map (fun f => .str f.name) ∨
      ∃ path' level', path' ≠ path ∧ Level s.fields path' level' ∧
        modelAt rootModel path' = modelAt rootModel path ∧
        properties.map Prod.fst = level'.map fun f => .str f.name) ∧
    ∀ name schema reference, Entries.get? properties (.str name) = some (.map schema) →
      Refers schema reference → ∃ definitions inner : Entries,
        doc.get? (.str "$defs") = some (.map definitions) ∧
        definitions.get? (.str reference) = some (.map inner)

theorem map_fst_renamed (g : Renaming) (y : ObjectType String) :
    ((g.object y).properties.map fun p => (Value.str p.name, p.toValue)).map Prod.fst =
      (y.properties.map Property.name).map .str := by
  rw [Renaming.object_properties, List.map_map, List.map_map, List.map_map]
  rfl

theorem requiredNames_eq (fields : List Field) :
    requiredNames fields = (fields.filter fun f => !f.resolvesWithoutInput).map Field.name := by
  have hrequired : isRequired = fun f => !f.resolvesWithoutInput := by
    funext f
    rw [isRequired, ← Field.standIn?_isSome, Option.not_isSome]
  rw [requiredNames, hrequired]

section

variable {s : Schema} {names : List String} {path : List String} {level : List Field}
  {y : ObjectType String} {object : Entries}

/-- Required names come out as they are, unless they are internal references. -/
theorem Represents.required_renamed (h : s.Represents names path level y)
    (hnames : ∀ f ∈ level, f.resolvesWithoutInput = false →
      f.name ∉ s.internalNames.map referenceTo) :
    ((Renaming.ofNames s names).object y).required = requiredNames level := by
  rw [Renaming.object_required, h.required]
  rw [← List.map_id (requiredNames level), List.map_map]
  apply List.map_congr_left
  intro name hname
  rw [requiredNames_eq] at hname
  obtain ⟨f, hf, rfl⟩ := List.mem_map.1 hname
  obtain ⟨hlevel, hrequired⟩ := List.mem_filter.1 hf
  exact Renaming.text_eq_self (hnames f hlevel (by simpa using hrequired)) names

theorem Represents.matches (hs : s.Built) (hnaming : IsNaming s.found names)
    (hlevel : Level s.fields path level) (h : s.Represents names path level y)
    (hobject : Shows object ((Renaming.ofNames s names).object y)) :
    s.Matches names (s.documentNamed names).entries path level object := by
  have htexts (fields : List Field) :
      (fields.map fun f => Value.str f.name) = (fields.map Field.name).map .str := by
    rw [List.map_map]
    rfl
  refine ⟨⟨y, h, hobject⟩, hobject.additional, fun hnames ↦ ?_, _, hobject.properties, ?_, ?_, ?_⟩
  · have hnil : requiredNames level = [] ↔ ∀ f ∈ level, f.resolvesWithoutInput = true := by
      simp [requiredNames_eq]
    rw [hobject.required, h.required_renamed hnames, if_congr hnil rfl rfl, requiredNames_eq,
      htexts]
  · rw [map_fst_renamed, htexts]
    exact (h.perm_names hs).map _
  · obtain ⟨path', level', x', hlevel', hx', rfl⟩ := h.origin
    rw [map_fst_renamed, Represents.names_mapReferences, hx'.properties.names, htexts]
    by_cases hpath : path' = path
    · subst hpath
      rw [hlevel'.unique hlevel hs.names_nodup hs.wellFormed]
      exact .inl rfl
    · right
      refine ⟨path', level', hpath, hlevel', ?_, (htexts level').symm⟩
      exact hx'.title.symm.trans h.title
  · intro name schema reference hget href
    obtain ⟨p', hp', heq⟩ := List.mem_map.1 (Entries.mem_of_get? hget)
    obtain ⟨p, hp, rfl⟩ := List.mem_map.1 hp'
    have hn := (Property.refers_iff (Prod.mk.inj heq).2).1 href
    obtain ⟨d, hd⟩ := h.exists_definition hnaming hp hn
    exact exists_get?_definitions hd

end

/-- The document of a schema follows the schema.  There is one unless a map in a default or an
example has a key of documents, and its definitions have names of their own unless they are equal.
Whatever the names are, at the root and wherever references lead, which is to every object field,
the schema of the object is closed, lists exactly the names of the fields there and requires those
that do not resolve without input; these are the fields that are refused as missing. -/
theorem document_matches {s : Schema} (hs : s.Built) :
    (s.PlainlyIllustrated → ∃ d, s.document = .ok d) ∧
    (∀ d, s.document = .ok d → ∃ names, IsNaming s.found names ∧ d = s.documentNamed names) ∧
    ∀ names, IsNaming s.found names →
      ∃ doc, (s.documentNamed names).toValue = .map doc ∧
        (∀ path level, Level s.fields path level → ∃ object, Follows doc doc path object) ∧
        ∀ path object, Follows doc doc path object →
          ∃ level, Level s.fields path level ∧ s.Matches names doc path level object ∧
            ∀ f ∈ level, ∀ model input, Entries.get? input (.str f.name) = none →
              (⟨[f.name], .problem .missing⟩ ∈ (Place.mk model level input).issues ↔
                f.resolvesWithoutInput = false) := by
  refine ⟨fun h ↦ ⟨_, h.document_eq_ok⟩, fun d ↦ exists_naming, fun names hnaming ↦ ?_⟩
  have hroot := Represents.root s names
  have hshows := (s.documentNamed names).shows_root
  refine ⟨(s.documentNamed names).entries, Document.toValue_eq _, fun path level hlevel ↦ ?_,
    fun path object hpath ↦ ?_⟩
  · exact hroot.exists_follows hs hnaming hshows hlevel hs.names_nodup hs.wellFormed
  · obtain ⟨level, y, hlevel, hrep, hobject⟩ := hroot.follow hnaming hshows hpath
    have hnames := hlevel.names_nodup hs.names_nodup hs.wellFormed
    refine ⟨level, hlevel, hrep.matches hs hnaming hlevel hobject,
      fun f hf model input hnone ↦ ?_⟩
    exact Place.missing_mem_issues_iff (q := ⟨model, level, input⟩) hnames hf hnone

/-! ## Where documents go their own way -/

def oneByDefault (name : String) : Field :=
  .scalar { name := name, defaultValue := some (.int 1) } .int

/-- Two objects with the same model name and the same fields in different orders. -/
def swappedPairs : Schema :=
  ⟨[.object { name := "a-b" } [oneByDefault "x", oneByDefault "y"] [],
    .object { name := "aB" } [oneByDefault "y", oneByDefault "x"] []]⟩

theorem built_swappedPairs : swappedPairs.Built := by
  have hone {name : String} (hname : Text.isBlankText name = false) :
      (oneByDefault name).Built := by
    exact .step (s := .default (.int 1)) (.newScalar hname .int) rfl
  have hx : (oneByDefault "x").Built := hone (by decide)
  have hy : (oneByDefault "y").Built := hone (by decide)
  have hfirst : Field.Built (.object { name := "a-b" } [oneByDefault "x", oneByDefault "y"] []) :=
    .newObject (by decide) (by decide) (by simp [hx, hy])
  have hsecond : Field.Built (.object { name := "aB" } [oneByDefault "y", oneByDefault "x"] []) :=
    .newObject (by decide) (by decide) (by simp [hx, hy])
  exact built_of_fields (by decide) (by simp [swappedPairs, hfirst, hsecond])

theorem level_swappedPairs :
    Level swappedPairs.fields ["a-b"] [oneByDefault "x", oneByDefault "y"] := by
  have hfirst : .object { name := "a-b" } [oneByDefault "x", oneByDefault "y"] [] ∈
      swappedPairs.fields := List.mem_cons_self
  exact .inside hfirst .root

theorem plainlyIllustrated_swappedPairs : swappedPairs.PlainlyIllustrated := by
  have hall {path : List String} {level : List Field} (h : Level swappedPairs.fields path level)
      {f : Field} (hf : f ∈ level) :
      f.info.examples = [] ∧ ∀ v, f.info.defaultValue = some v → v = .int 1 := by
    cases h with
    | root =>
        simp only [swappedPairs, List.mem_cons, List.not_mem_nil, or_false] at hf
        rcases hf with rfl | rfl <;> exact ⟨rfl, nofun⟩
    | @inside _ children _ info rules _ hobject h =>
        have hchildren : ∀ c ∈ children, ∃ name, c = oneByDefault name := by
          simp only [swappedPairs, List.mem_cons, List.not_mem_nil, or_false] at hobject
          rcases hobject with heq | heq <;> cases heq <;> simp
        cases h with
        | root =>
            obtain ⟨name, rfl⟩ := hchildren f hf
            exact ⟨rfl, fun v hv ↦ (Option.some.inj hv).symm⟩
        | inside hinner _ =>
            obtain ⟨name, hname⟩ := hchildren _ hinner
            cases hname
  constructor
  · intro path level hlevel f hf v hv hkey
    rw [(hall hlevel hf).2 v hv] at hkey
    cases hkey
  · intro path level hlevel f hf v hv hkey
    rw [(hall hlevel hf).2 v hv] at hkey
    cases hkey
  · intro path level hlevel f hf v hv
    rw [(hall hlevel hf).1] at hv
    cases hv

theorem document_matches_swappedPairs :
    swappedPairs.Built ∧ swappedPairs.PlainlyIllustrated ∧ ∃ d names doc object,
      swappedPairs.document = .ok d ∧ d.toValue = .map doc ∧ Follows doc doc ["a-b"] object ∧
      swappedPairs.Matches names doc ["a-b"] [oneByDefault "x", oneByDefault "y"] object := by
  obtain ⟨hexists, hnamed, hall⟩ := document_matches built_swappedPairs
  obtain ⟨d, hd⟩ := hexists plainlyIllustrated_swappedPairs
  obtain ⟨names, hnaming, rfl⟩ := hnamed d hd
  obtain ⟨doc, hdoc, hreached, hmatches⟩ := hall names hnaming
  obtain ⟨object, hobject⟩ := hreached _ _ level_swappedPairs
  obtain ⟨level, hlevel, hmatch, -⟩ := hmatches _ _ hobject
  obtain rfl := hlevel.unique level_swappedPairs built_swappedPairs.names_nodup
    built_swappedPairs.wellFormed
  exact ⟨built_swappedPairs, plainlyIllustrated_swappedPairs, _, names, doc, object, hd, hdoc,
    hobject, hmatch⟩

/-- The first object of the two is described with its properties in the order of the second. -/
theorem document_reorders_swappedPairs :
    ∃ d doc object properties, swappedPairs.document = .ok d ∧ d.toValue = .map doc ∧
      Follows doc doc ["a-b"] object ∧
      object.get? (.str "properties") = some (.map properties) ∧
      properties.map Prod.fst = [.str "y", .str "x"] := by
  have hnaming := (sound_found swappedPairs).isNaming
  have hroot := Represents.root swappedPairs (lastNames swappedPairs.found)
  have hshows := (swappedPairs.documentNamed (lastNames swappedPairs.found)).shows_root
  obtain ⟨object, hobject⟩ := hroot.exists_follows built_swappedPairs hnaming hshows
    level_swappedPairs built_swappedPairs.names_nodup built_swappedPairs.wellFormed
  have hall : ∀ d ∈ definitionsOf swappedPairs.found (lastNames swappedPairs.found),
      d.2.properties.map Property.name = ["y", "x"] := by
    decide +kernel
  suffices h : ∃ properties, object.get? (.str "properties") = some (.map properties) ∧
      properties.map Prod.fst = [.str "y", .str "x"] by
    obtain ⟨properties, hproperties⟩ := h
    exact ⟨_, _, object, properties, plainlyIllustrated_swappedPairs.document_eq_ok,
      Document.toValue_eq _, hobject, hproperties⟩
  generalize hpath : ["a-b"] = path at hobject
  cases hobject with
  | here => cases hpath
  | property hproperties hschema href hdefinitions hinner h =>
      obtain ⟨-, rfl⟩ := List.cons.inj hpath
      cases h with
      | here =>
          obtain ⟨d, hd, rfl⟩ := mem_of_get?_definitions hdefinitions hinner
          refine ⟨_, (shows_members _).properties, ?_⟩
          rw [map_fst_renamed, hall _ hd]
          rfl

/-- A field whose default has the key of references. -/
def referenceByDefault : Schema :=
  ⟨[.scalar { name := "a", defaultValue := some (.map [(.str "$ref", .str "x")]) } .string]⟩

theorem built_referenceByDefault : referenceByDefault.Built := by
  have hfield : Field.Built
      (.scalar { name := "a", defaultValue := some (.map [(.str "$ref", .str "x")]) } .string) :=
    .step (s := .default _) (.newScalar (by decide) .string) rfl
  exact built_of_fields (by decide) (by simpa [referenceByDefault] using hfield)

theorem document_referenceByDefault :
    referenceByDefault.document = .error (.unknownReference "x") := by
  have hreference : referenceByDefault.unknownReference? = some "x" := by decide +kernel
  rw [document, hreference]

/-- A required field whose name is an internal reference, next to the object that it refers to. -/
def namedLikeReference : Schema :=
  ⟨[.object { name := "b" } [] [],
    .scalar { name := "#/$defs/ConfigSpec__spec__ConfigB-Input__1" } .string]⟩

theorem built_namedLikeReference : namedLikeReference.Built := by
  have hobject : Field.Built (.object { name := "b" } [] []) :=
    .newObject (by decide) (by decide) (by simp)
  have hscalar : Field.Built
      (.scalar { name := "#/$defs/ConfigSpec__spec__ConfigB-Input__1" } .string) :=
    .newScalar (by decide) .string
  exact built_of_fields (by decide) (by simp [namedLikeReference, hobject, hscalar])

theorem document_namedLikeReference :
    ∃ d, namedLikeReference.document = .ok d ∧ d.root.required = ["#/$defs/ConfigB"] := by
  have hreference : namedLikeReference.unknownReference? = none := by decide +kernel
  have hstray : namedLikeReference.stray? = none := by
    rw [← Option.isNone_iff_eq_none]
    decide +kernel
  refine ⟨_, document_eq_ok hreference hstray, ?_⟩
  decide +kernel

/-- A shared definition has the order of one of the objects, a default can stand in the way of the
whole document, and a required name can be taken for a reference. -/
theorem document_departs :
    (swappedPairs.Built ∧ Level swappedPairs.fields ["a-b"] [oneByDefault "x", oneByDefault "y"] ∧
      ∃ d doc object properties, swappedPairs.document = .ok d ∧ d.toValue = .map doc ∧
        Follows doc doc ["a-b"] object ∧
        object.get? (.str "properties") = some (.map properties) ∧
        properties.map Prod.fst = [.str "y", .str "x"]) ∧
    (referenceByDefault.Built ∧ referenceByDefault.document = .error (.unknownReference "x")) ∧
    namedLikeReference.Built ∧ ∃ d, namedLikeReference.document = .ok d ∧
      d.root.required = ["#/$defs/ConfigB"] := by
  refine ⟨⟨built_swappedPairs, level_swappedPairs, document_reorders_swappedPairs⟩, ?_, ?_⟩
  · exact ⟨built_referenceByDefault, document_referenceByDefault⟩
  · exact ⟨built_namedLikeReference, document_namedLikeReference⟩

end Schema

end Settings
