import Settings.Proofs.Schema.Definitions
import Settings.Schema.Document

/-!
# Following a document

A document is read along its properties and references.  Every path to an object field can be
followed, and what is reached is the description of this field.
-/

namespace Settings

/-! ## Looking up members -/

theorem Entries.exists_get? {entries : Entries} {name : String}
    (h : ∃ v, (.str name, v) ∈ entries) :
    ∃ v, entries.get? (.str name) = some v ∧ (.str name, v) ∈ entries := by
  obtain ⟨v, hv⟩ := h
  have hsome : (entries.find? fun e => Value.sameScalar (.str name) e.1).isSome = true := by
    rw [List.find?_isSome]
    exact ⟨_, hv, by simp⟩
  obtain ⟨e, he⟩ := Option.isSome_iff_exists.1 hsome
  have hget : entries.get? (.str name) = some e.2 := by
    rw [Entries.get?, he]
    rfl
  obtain ⟨e', hmem, hkey, hvalue⟩ := Entries.exists_of_get? hget
  refine ⟨e.2, hget, ?_⟩
  rw [← hkey, ← hvalue]
  exact hmem

theorem Entries.mem_of_get? {entries : Entries} {name : String} {v : Value}
    (h : entries.get? (.str name) = some v) : (.str name, v) ∈ entries := by
  obtain ⟨e, he, hkey, hvalue⟩ := Entries.exists_of_get? h
  rw [← hkey, ← hvalue]
  exact he

namespace Schema

open Settings.Field

/-- The entries of members. -/
def entriesOf (ms : List (String × Value)) : Entries :=
  ms.map fun m => (.str m.1, m.2)

theorem members_eq (ms : List (String × Value)) : members ms = .map (entriesOf ms) := rfl

theorem mem_entriesOf_iff {ms : List (String × Value)} {name : String} {v : Value} :
    (.str name, v) ∈ entriesOf ms ↔ (name, v) ∈ ms := by
  simp [entriesOf]

/-! ## Following a document -/

/-- Whether the schema of a property refers to a definition, on its own or among alternatives. -/
inductive Refers (schema : Entries) (name : String) : Prop where
  | direct (h : schema.get? (.str "$ref") = some (.str ("#/$defs/" ++ name)))
  | alternative {choices : List Value} {choice : Entries}
      (h : schema.get? (.str "anyOf") = some (.list choices)) (hchoice : .map choice ∈ choices)
      (href : choice.get? (.str "$ref") = some (.str ("#/$defs/" ++ name)))

/-- Whether a path leads from one object schema of a document to another one, by properties that
refer to definitions of the document. -/
inductive Follows (doc : Entries) : Entries → List String → Entries → Prop where
  | here {object : Entries} : Follows doc object [] object
  | property {object properties schema definitions inner target : Entries} {name reference : String}
      {path : List String}
      (hproperties : object.get? (.str "properties") = some (.map properties))
      (hschema : properties.get? (.str name) = some (.map schema))
      (href : Refers schema reference)
      (hdefinitions : doc.get? (.str "$defs") = some (.map definitions))
      (hinner : definitions.get? (.str reference) = some (.map inner))
      (h : Follows doc inner path target) : Follows doc object (name :: path) target

/-- Whether an object schema is what a description looks like. -/
structure Shows (object : Entries) (y : ObjectType String) : Prop where
  properties : object.get? (.str "properties") =
    some (.map (y.properties.map fun p => (.str p.name, p.toValue)))
  required : object.get? (.str "required") =
    if y.required = [] then none else some (.list (y.required.map .str))
  additional : object.get? (.str "additionalProperties") = some (.bool false)

theorem shows_members (y : ObjectType String) : Shows (entriesOf y.members) y := by
  refine ⟨?_, ?_, ?_⟩
  · simp [entriesOf, ObjectType.members]
  · by_cases h : y.required = [] <;> simp [entriesOf, ObjectType.members, h]
  · simp [entriesOf, ObjectType.members]

/-- The entries of a document. -/
def Document.entries (d : Document String) : Entries :=
  entriesOf ((if d.definitions.isEmpty then []
    else [("$defs", .map (d.definitions.map fun (name, x) => (.str name, members x.members)))])
    ++ d.root.members)

theorem Document.toValue_eq (d : Document String) : d.toValue = .map d.entries := rfl

theorem Document.shows_root (d : Document String) : Shows d.entries d.root := by
  have hroot := shows_members d.root
  have hget (name : String) (hne : name ≠ "$defs") :
      d.entries.get? (.str name) = (entriesOf d.root.members).get? (.str name) := by
    by_cases h : d.definitions = [] <;> simp [entries, entriesOf, h, hne]
  refine ⟨?_, ?_, ?_⟩
  · rw [hget _ (by decide), hroot.properties]
  · rw [hget _ (by decide), hroot.required]
  · rw [hget _ (by decide), hroot.additional]

/-! ## References in properties -/

/-- The members that tell the type of a property. -/
def Property.typeMembers (p : Property String) : List (String × Value) :=
  if p.nullable then
    [("anyOf", .list [members p.type.members, members [("type", .str "null")]])]
  else p.type.members

theorem Property.mem_schema_iff {p : Property String} {schema : Entries}
    (hschema : p.toValue = .map schema) {key : String} {v : Value}
    (hkey : key ∉ ["default", "description", "examples", "title"]) :
    (.str key, v) ∈ schema ↔ (key, v) ∈ p.typeMembers := by
  simp only [List.mem_cons, List.not_mem_nil, or_false, not_or] at hkey
  obtain ⟨hdefault, hdescription, hexamples, htitle⟩ := hkey
  unfold toValue at hschema
  rw [members_eq, Value.map.injEq] at hschema
  rw [← hschema, mem_entriesOf_iff, List.mem_mergeSort, List.mem_append]
  refine or_iff_left fun hshared ↦ ?_
  rcases List.mem_append.1 hshared with hshared | hshared
  · rcases List.mem_append.1 hshared with hshared | hshared
    · rcases List.mem_append.1 hshared with hshared | hshared
      · cases hd : p.defaultValue with
        | none =>
            rw [hd] at hshared
            cases hshared
        | some w =>
            rw [hd] at hshared
            exact hdefault (congrArg Prod.fst (List.mem_singleton.1 hshared))
      · split at hshared
        · cases hshared
        · exact hdescription (congrArg Prod.fst (List.mem_singleton.1 hshared))
    · split at hshared
      · cases hshared
      · exact hexamples (congrArg Prod.fst (List.mem_singleton.1 hshared))
  · exact htitle (congrArg Prod.fst (List.mem_singleton.1 hshared))

theorem PropertyType.reference_mem_members_iff {t : PropertyType String} {v : Value} :
    ("$ref", v) ∈ t.members ↔ ∃ name, t = .reference name ∧ v = .str ("#/$defs/" ++ name) := by
  cases t with
  | scalar kind => cases kind <;> simp [members]
  | reference name => simp [members, referenceTo]

theorem PropertyType.anyOf_not_mem_members (t : PropertyType String) (v : Value) :
    ("anyOf", v) ∉ t.members := by
  cases t with
  | scalar kind => cases kind <;> simp [members]
  | reference name => simp [members]

theorem PropertyType.refers_iff {t : PropertyType String} {name : String} :
    (entriesOf t.members).get? (.str "$ref") = some (.str ("#/$defs/" ++ name)) ↔
      t = .reference name := by
  constructor
  · intro h
    obtain ⟨n, rfl, hn⟩ :=
      reference_mem_members_iff.1 (mem_entriesOf_iff.1 (Entries.mem_of_get? h))
    rw [Value.str.injEq, String.append_right_inj] at hn
    rw [hn]
  · rintro rfl
    simp [entriesOf, members, referenceTo]

theorem Property.refers_iff {p : Property String} {schema : Entries}
    (hschema : p.toValue = .map schema) {name : String} :
    Refers schema name ↔ p.type = .reference name := by
  have href {v : Value} : (.str "$ref", v) ∈ schema ↔ ("$ref", v) ∈ p.typeMembers :=
    mem_schema_iff hschema (by decide)
  have hany {v : Value} : (.str "anyOf", v) ∈ schema ↔ ("anyOf", v) ∈ p.typeMembers :=
    mem_schema_iff hschema (by decide)
  cases hnull : p.nullable with
  | true =>
      rw [typeMembers, if_pos hnull] at href hany
      constructor
      · rintro (h | ⟨h, hchoice, hname⟩)
        · simpa using href.1 (Entries.mem_of_get? h)
        · have hchoices := hany.1 (Entries.mem_of_get? h)
          rw [List.mem_singleton, Prod.mk.injEq, Value.list.injEq] at hchoices
          rw [hchoices.2] at hchoice
          rcases List.mem_cons.1 hchoice with heq | hchoice
          · rw [members_eq, Value.map.injEq] at heq
            rw [heq] at hname
            exact PropertyType.refers_iff.1 hname
          · rw [List.mem_singleton, members_eq, Value.map.injEq] at hchoice
            rw [hchoice] at hname
            simp [entriesOf] at hname
      · intro htype
        obtain ⟨v, hget, hmem⟩ := Entries.exists_get? ⟨_, hany.2 (List.mem_singleton_self _)⟩
        have hv := List.mem_singleton.1 (hany.1 hmem)
        rw [Prod.mk.injEq] at hv
        rw [hv.2] at hget
        exact .alternative hget List.mem_cons_self (PropertyType.refers_iff.2 htype)
  | false =>
      rw [typeMembers, if_neg (by simp [hnull])] at href hany
      constructor
      · rintro (h | ⟨h, -, -⟩)
        · obtain ⟨n, htype, hn⟩ :=
            PropertyType.reference_mem_members_iff.1 (href.1 (Entries.mem_of_get? h))
          rw [Value.str.injEq, String.append_right_inj] at hn
          rw [htype, hn]
        · exact absurd (hany.1 (Entries.mem_of_get? h)) (PropertyType.anyOf_not_mem_members _ _)
      · intro htype
        have hown := href.2 (PropertyType.reference_mem_members_iff.2 ⟨name, htype, rfl⟩)
        obtain ⟨v, hget, hmem⟩ := Entries.exists_get? ⟨_, hown⟩
        obtain ⟨n, hn, rfl⟩ := PropertyType.reference_mem_members_iff.1 (href.1 hmem)
        rw [htype, PropertyType.reference.injEq] at hn
        rw [← hn] at hget
        exact .direct hget

/-! ## What is reached -/

section

variable {g : Renaming} {ρ : Type}

@[simp] theorem Renaming.object_properties (x : ObjectType ρ) :
    (g.object x).properties = x.properties.map g.property := rfl

@[simp] theorem Renaming.object_required (x : ObjectType ρ) :
    (g.object x).required = x.required.map g.text := rfl

end

/-- The definitions of a document are found under their names, if there are any. -/
theorem Document.get?_definitions {d : Document String} (h : d.definitions ≠ []) :
    d.entries.get? (.str "$defs") =
      some (.map (d.definitions.map fun e => (.str e.1, .map (entriesOf e.2.members)))) := by
  simp [entries, entriesOf, h, members]

section

variable {s : Schema} {names : List String} {path0 path : List String} {level0 : List Field}
  {y0 : ObjectType String} {object target : Entries}

theorem Represents.root (s : Schema) (names : List String) :
    s.Represents names [] s.fields (s.rootType.mapReferences (nameIn names)) := by
  have hspec := (describeAll_spec rootModel [] s.fields).2
  have hroot : Portrays s.found (modelAt rootModel []) s.fields s.rootType := ⟨rfl, rfl, hspec⟩
  exact ⟨⟨_, hroot, .inl rfl⟩, [], s.fields, _, .root, hroot, rfl⟩

theorem mem_of_get?_definitions {definitions inner : Entries} {name : String}
    (hdefinitions : (s.documentNamed names).entries.get? (.str "$defs") = some (.map definitions))
    (hinner : definitions.get? (.str name) = some (.map inner)) :
    ∃ d, (name, d) ∈ definitionsOf s.found names ∧
      inner = entriesOf ((Renaming.ofNames s names).object d).members := by
  have hsome : (s.documentNamed names).definitions ≠ [] := by
    intro hnil
    by_cases hrequired : (s.documentNamed names).root.required = [] <;>
      simp [Document.entries, entriesOf, hnil, ObjectType.members, hrequired] at hdefinitions
  rw [Document.get?_definitions hsome, Option.some.injEq, Value.map.injEq] at hdefinitions
  have hmem := Entries.mem_of_get? hinner
  rw [← hdefinitions, List.mem_map] at hmem
  obtain ⟨e, he, heq⟩ := hmem
  obtain ⟨⟨n, d⟩, hd, rfl⟩ := List.mem_map.1 he
  obtain ⟨hn, hinner'⟩ := Prod.mk.inj heq
  obtain rfl : n = name := Value.str.inj hn
  exact ⟨d, hd, (Value.map.inj hinner').symm⟩

theorem exists_get?_definitions {name : String} {d : ObjectType String}
    (hd : (name, d) ∈ definitionsOf s.found names) :
    ∃ definitions inner : Entries,
      (s.documentNamed names).entries.get? (.str "$defs") = some (.map definitions) ∧
      definitions.get? (.str name) = some (.map inner) := by
  have hentry : (name, (Renaming.ofNames s names).object d) ∈ (s.documentNamed names).definitions :=
    List.mem_map.2 ⟨_, hd, rfl⟩
  have hsome : (s.documentNamed names).definitions ≠ [] := List.ne_nil_of_mem hentry
  have hmem : (Value.str name,
      Value.map (entriesOf ((Renaming.ofNames s names).object d).members)) ∈
      (s.documentNamed names).definitions.map
        fun e => (Value.str e.1, .map (entriesOf e.2.members)) :=
    List.mem_map.2 ⟨_, hentry, rfl⟩
  obtain ⟨v, hget, hv⟩ := Entries.exists_get? ⟨_, hmem⟩
  obtain ⟨e, -, he⟩ := List.mem_map.1 hv
  rw [← (Prod.mk.inj he).2] at hget
  exact ⟨_, _, Document.get?_definitions hsome, hget⟩

/-- What is reached from the schema of an object stands for an object field inside it. -/
theorem Represents.follow (hnaming : IsNaming s.found names)
    (hrep : s.Represents names path0 level0 y0)
    (hobject : Shows object ((Renaming.ofNames s names).object y0))
    (h : Follows (s.documentNamed names).entries object path target) :
    ∃ level y, Level level0 path level ∧ s.Represents names (path0 ++ path) level y ∧
      Shows target ((Renaming.ofNames s names).object y) := by
  induction h generalizing path0 level0 y0 with
  | here =>
      refine ⟨level0, y0, .root, ?_, hobject⟩
      rwa [List.append_nil]
  | @property object properties schema definitions inner target name reference path hproperties
      hschema href hdefinitions hinner _ ih =>
      rw [hobject.properties, Option.some.injEq, Value.map.injEq] at hproperties
      have hmem := Entries.mem_of_get? hschema
      rw [← hproperties, List.mem_map] at hmem
      obtain ⟨p', hp', heq⟩ := hmem
      obtain ⟨p, hp, rfl⟩ := List.mem_map.1 hp'
      obtain ⟨hname, hvalue⟩ := Prod.mk.inj heq
      obtain ⟨d, hd, rfl⟩ := mem_of_get?_definitions hdefinitions hinner
      obtain ⟨info, children, rules, hf, hinfo, hinside⟩ :=
        hrep.step hnaming hp ((Property.refers_iff hvalue).1 href) hd
      obtain ⟨level, y, hlevel, htarget, hshows⟩ := ih hinside (shows_members _)
      obtain rfl : info.name = name := hinfo.trans (Value.str.inj hname)
      refine ⟨level, y, .inside hf hlevel, ?_, hshows⟩
      rwa [List.append_assoc] at htarget

theorem Represents.get?_property (hs : s.Built) (hrep : s.Represents names path0 level0 y0)
    (hnames : (level0.map Field.name).Nodup) {p : Property String} (hp : p ∈ y0.properties)
    (g : Renaming) :
    Entries.get? ((g.object y0).properties.map fun p => (.str p.name, p.toValue)) (.str p.name) =
      some (g.property p).toValue := by
  have hdistinct : (y0.properties.map Property.name).Nodup :=
    (hrep.perm_names hs).nodup_iff.2 hnames
  have hmem : (.str p.name, (g.property p).toValue) ∈
      (g.object y0).properties.map fun p => (Value.str p.name, p.toValue) :=
    List.mem_map.2 ⟨_, List.mem_map_of_mem hp, rfl⟩
  obtain ⟨v, hget, hv⟩ := Entries.exists_get? ⟨_, hmem⟩
  obtain ⟨q', hq', heq⟩ := List.mem_map.1 hv
  obtain ⟨q, hq, rfl⟩ := List.mem_map.1 hq'
  obtain ⟨hname, rfl⟩ := Prod.mk.inj heq
  have hqp : q = p := List.inj_on_of_nodup_map hdistinct hq hp (Value.str.inj hname)
  rw [hget, hqp]

/-- Every path to an object field can be followed. -/
theorem Represents.exists_follows (hs : s.Built) (hnaming : IsNaming s.found names)
    (hrep : s.Represents names path0 level0 y0)
    (hobject : Shows object ((Renaming.ofNames s names).object y0)) {level : List Field}
    (h : Level level0 path level) (hnames : (level0.map Field.name).Nodup)
    (hfields : ∀ f ∈ level0, f.WellFormed) :
    ∃ target, Follows (s.documentNamed names).entries object path target := by
  induction h generalizing path0 y0 object with
  | root => exact ⟨object, .here⟩
  | @inside level0 children level info rules path hf hlevel ih =>
      obtain ⟨p, hp, hname, n, hn⟩ := hrep.exists_reference hs hnames hf
      obtain ⟨d, hd⟩ := hrep.exists_definition hnaming hp hn
      obtain ⟨definitions, inner, hdefinitions, hinner⟩ := exists_get?_definitions hd
      obtain ⟨d', hd', rfl⟩ := mem_of_get?_definitions hdefinitions hinner
      obtain ⟨info', children', rules', hf', hinfo, hinside⟩ := hrep.step hnaming hp hn hd'
      have hsame : Field.object info' children' rules' = .object info children rules :=
        List.inj_on_of_nodup_map hnames hf' hf (hinfo.trans hname)
      cases hsame
      have hwell := hfields _ hf
      cases hwell with
      | object _ hnames' hchildren =>
          obtain ⟨target, htarget⟩ := ih hinside (shows_members _) hnames' hchildren
          obtain ⟨schema, hschema⟩ :
              ∃ schema, ((Renaming.ofNames s names).property p).toValue = .map schema := ⟨_, rfl⟩
          have hget := hrep.get?_property hs hnames hp (Renaming.ofNames s names)
          rw [hname, hschema] at hget
          exact ⟨target, .property hobject.properties hget ((Property.refers_iff hschema).2 hn)
            hdefinitions hinner htarget⟩

end

end Schema

end Settings
