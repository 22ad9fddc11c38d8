import Mathlib.Data.List.Perm.Subperm
import Settings.Proofs.Schema.Naming

/-!
# What references lead to

A reference is made by name, and under the name there is a definition.  It is the description of the
object field that the reference was made for, or that of another field, which is equal to it but for
the order of its properties.
-/

namespace Settings

theorem Field.Level.names_nodup {fields level : List Field} {path : List String}
    (h : Level fields path level) (hnames : (fields.map Field.name).Nodup)
    (hfields : ∀ f ∈ fields, f.WellFormed) : (level.map Field.name).Nodup := by
  induction h with
  | root => exact hnames
  | inside hf _ ih =>
      cases hfields _ hf with
      | object _ hnames' hchildren => exact ih hnames' hchildren

namespace Schema

open Settings.Field

/-! ## Definitions by their names -/

section

variable {α : Type} {definitions : List (String × α)} {name n : String} {x d : α}

theorem mem_putDefinition (h : (n, d) ∈ putDefinition definitions name x) :
    (n, d) ∈ definitions ∨ (n = name ∧ d = x) := by
  unfold putDefinition at h
  split at h
  · obtain ⟨⟨n', d'⟩, hmem, heq⟩ := List.mem_map.1 h
    by_cases hn : n' = name
    · rw [if_pos (beq_iff_eq.2 hn)] at heq
      cases heq
      exact .inr ⟨rfl, rfl⟩
    · rw [if_neg (by simpa using hn)] at heq
      cases heq
      exact .inl hmem
  · rcases List.mem_append.1 h with h | h
    · exact .inl h
    · cases List.mem_singleton.1 h
      exact .inr ⟨rfl, rfl⟩

theorem exists_mem_putDefinition (h : (∃ d, (n, d) ∈ definitions) ∨ n = name) :
    ∃ d, (n, d) ∈ putDefinition definitions name x := by
  unfold putDefinition
  split
  · next hany =>
      have hold : ∃ d, (n, d) ∈ definitions := by
        rcases h with h | rfl
        · exact h
        · obtain ⟨⟨n', d⟩, hmem, hn⟩ := List.any_eq_true.1 hany
          obtain rfl : n' = n := eq_of_beq hn
          exact ⟨d, hmem⟩
      obtain ⟨d, hmem⟩ := hold
      by_cases hn : n = name
      · subst hn
        exact ⟨x, List.mem_map.2 ⟨_, hmem, if_pos (beq_self_eq_true n)⟩⟩
      · exact ⟨d, List.mem_map.2 ⟨_, hmem, if_neg (by simpa using hn)⟩⟩
  · rcases h with ⟨d, hmem⟩ | rfl
    · exact ⟨d, List.mem_append_left _ hmem⟩
    · exact ⟨x, List.mem_append_right _ (List.mem_singleton_self _)⟩

theorem mem_foldl_putDefinition {named : List (α × String)}
    (h : (n, d) ∈ named.foldl (fun ds (x, name) => putDefinition ds name x) definitions) :
    (n, d) ∈ definitions ∨ (d, n) ∈ named := by
  induction named generalizing definitions with
  | nil => exact .inl h
  | cons e named ih =>
      rcases ih h with h | h
      · rcases mem_putDefinition h with h | ⟨rfl, rfl⟩
        · exact .inl h
        · exact .inr List.mem_cons_self
      · exact .inr (List.mem_cons_of_mem _ h)

theorem exists_mem_foldl_putDefinition {named : List (α × String)}
    (h : (∃ d, (n, d) ∈ definitions) ∨ ∃ d, (d, n) ∈ named) :
    ∃ d, (n, d) ∈ named.foldl (fun ds (x, name) => putDefinition ds name x) definitions := by
  induction named generalizing definitions with
  | nil =>
      rcases h with h | ⟨d, hd⟩
      · exact h
      · cases hd
  | cons e named ih =>
      apply ih
      rcases h with h | ⟨d, hd⟩
      · exact .inl (exists_mem_putDefinition (.inl h))
      · rcases List.mem_cons.1 hd with rfl | hd
        · exact .inl (exists_mem_putDefinition (.inr rfl))
        · exact .inr ⟨d, hd⟩

end

section

variable {found : List (ObjectType Nat)} {names : List String} {i : Nat} {x : ObjectType Nat}

theorem nameIn_of_getElem? (h : names[i]? = some n) : nameIn names i = n := by
  rw [nameIn, List.getD_eq_getElem?_getD, h]
  rfl

theorem IsNaming.getElem? (h : IsNaming found names) (hi : found[i]? = some x) :
    names[i]? = some (nameIn names i) := by
  have hlength : i < names.length := by
    rw [h.length]
    exact (List.getElem?_eq_some_iff.1 hi).1
  rw [nameIn_of_getElem? (List.getElem?_eq_getElem hlength)]
  exact List.getElem?_eq_getElem hlength

theorem mem_definitionsOf {n : String} {d : ObjectType String}
    (h : (n, d) ∈ definitionsOf found names) :
    ∃ j y, found[j]? = some y ∧ n = nameIn names j ∧ d = y.mapReferences (nameIn names) := by
  rw [definitionsOf, List.mem_mergeSort] at h
  rcases mem_foldl_putDefinition h with h | h
  · cases h
  · obtain ⟨j, hj⟩ := List.getElem?_of_mem h
    obtain ⟨hd, hn⟩ := List.getElem?_zip_eq_some.1 hj
    rw [List.getElem?_map, Option.map_eq_some_iff] at hd
    obtain ⟨y, hy, rfl⟩ := hd
    exact ⟨j, y, hy, (nameIn_of_getElem? hn).symm, rfl⟩

theorem IsNaming.exists_mem_definitionsOf (h : IsNaming found names) (hi : found[i]? = some x) :
    ∃ d, (nameIn names i, d) ∈ definitionsOf found names := by
  have hnamed : (x.mapReferences (nameIn names), nameIn names i) ∈
      (found.map (·.mapReferences (nameIn names))).zip names := by
    apply List.mem_of_getElem? (i := i)
    rw [List.getElem?_zip_eq_some, List.getElem?_map, hi]
    exact ⟨rfl, h.getElem? hi⟩
  obtain ⟨d, hd⟩ := exists_mem_foldl_putDefinition (.inr ⟨_, hnamed⟩)
  exact ⟨d, List.mem_mergeSort.2 hd⟩

end

/-! ## The descriptions of a schema -/

theorem belongs_of_mem_found {s : Schema} {x : ObjectType Nat} (hx : x ∈ s.found) :
    Belongs s.found rootModel s.fields x := by
  rcases mem_describeAll rootModel [] s.fields (fun f hf ↦ hf) hx with hx | hx
  · cases hx
  · exact hx

theorem sound_found (s : Schema) : Sound s.found where
  title x hx := by
    obtain ⟨path, level, -, hportrays⟩ := belongs_of_mem_found hx
    rw [hportrays.title]
    exact underscore_not_mem_modelAt (by decide) path
  reference x hx p hp r hr := by
    obtain ⟨path, level, -, hportrays⟩ := belongs_of_mem_found hx
    exact hportrays.reference hp hr

/-- Whether a description stands for the object at a path: it is the description of this object, or
that of another one with the same title, equal but for the order of properties. -/
structure Represents (s : Schema) (names : List String) (path : List String) (level : List Field)
    (y : ObjectType String) : Prop where
  own : ∃ x, Portrays s.found (modelAt rootModel path) level x ∧
    (y = x.mapReferences (nameIn names) ∨ y.same (x.mapReferences (nameIn names)) = true)
  origin : ∃ path' level' x', Level s.fields path' level' ∧
    Portrays s.found (modelAt rootModel path') level' x' ∧ y = x'.mapReferences (nameIn names)

namespace Represents

variable {s : Schema} {names : List String} {path : List String} {level : List Field}
  {y : ObjectType String}

theorem title (h : s.Represents names path level y) : y.title = modelAt rootModel path := by
  obtain ⟨x, hx, rfl | hsame⟩ := h.own
  · exact hx.title
  · exact (ObjectType.same_iff.1 hsame).1.trans hx.title

theorem required (h : s.Represents names path level y) : y.required = requiredNames level := by
  obtain ⟨x, hx, rfl | hsame⟩ := h.own
  · exact hx.required
  · exact (ObjectType.same_iff.1 hsame).2.1.trans hx.required

theorem names_mapReferences (x : ObjectType Nat) :
    (x.mapReferences (nameIn names)).properties.map Property.name =
      x.properties.map Property.name := by
  rw [ObjectType.mapReferences, List.map_map]
  rfl

theorem perm_names (hs : s.Built) (h : s.Represents names path level y) :
    (y.properties.map Property.name).Perm (level.map Field.name) := by
  obtain ⟨x, hx, hyx⟩ := h.own
  rcases hyx with rfl | hsame
  · rw [names_mapReferences, hx.properties.names]
  · obtain ⟨path', level', x', hlevel', hx', rfl⟩ := h.origin
    have hnodup := hlevel'.names_nodup hs.names_nodup hs.wellFormed
    obtain ⟨-, -, hlength, hproperties⟩ := ObjectType.same_iff.1 hsame
    have hlevel : (x.mapReferences (nameIn names)).properties.map Property.name =
        level.map Field.name := by
      rw [names_mapReferences, hx.properties.names]
    have hsub : (x'.mapReferences (nameIn names)).properties.map Property.name ⊆
        level.map Field.name := by
      rw [← hlevel]
      intro name hname
      obtain ⟨p, hp, rfl⟩ := List.mem_map.1 hname
      obtain ⟨q, hq, hpq⟩ := hproperties p hp
      rw [Property.name_eq_of_same hpq]
      exact List.mem_map_of_mem hq
    rw [names_mapReferences, hx'.properties.names] at hsub ⊢
    have hcount : (level.map Field.name).length ≤ (level'.map Field.name).length := by
      rw [← hlevel, ← hx'.properties.names, List.length_map, List.length_map]
      simpa [ObjectType.mapReferences] using hlength.ge
    exact (List.subperm_of_subset hnodup hsub).perm_of_length_le hcount

/-- A property is that of a field, with a type that is the field's own but for references of equal
names. -/
theorem exists_field (h : s.Represents names path level y) {p : Property String}
    (hp : p ∈ y.properties) : ∃ f ∈ level, ∃ t, f.name = p.name ∧
      Depicts s.found (modelAt rootModel path) f t ∧
      p.type.same (t.mapReferences (nameIn names)) = true := by
  obtain ⟨x, hx, hyx⟩ := h.own
  have hq : ∃ q ∈ x.properties, q.name = p.name ∧
      p.type.same (q.type.mapReferences (nameIn names)) = true := by
    rcases hyx with rfl | hsame
    · obtain ⟨q, hq, rfl⟩ := List.mem_map.1 hp
      refine ⟨q, hq, rfl, ?_⟩
      show (q.type.mapReferences (nameIn names)).same (q.type.mapReferences (nameIn names)) = true
      cases q.type with
      | scalar kind => exact beq_self_eq_true kind
      | reference r => exact beq_self_eq_true (nameIn names r)
    · obtain ⟨-, -, -, hproperties⟩ := ObjectType.same_iff.1 hsame
      obtain ⟨q', hq', hpq⟩ := hproperties p hp
      obtain ⟨q, hq, rfl⟩ := List.mem_map.1 hq'
      exact ⟨q, hq, (Property.name_eq_of_same hpq).symm, Property.type_same_of_same hpq⟩
  obtain ⟨q, hq, hname, htype⟩ := hq
  obtain ⟨f, hf, t, rfl, hdepicts⟩ := hx.properties.exists_field hq
  exact ⟨f, hf, t, hname, hdepicts, htype⟩

theorem of_mem_definitions (hnaming : IsNaming s.found names) {r : Nat} {z : ObjectType Nat}
    (hz : s.found[r]? = some z)
    (hportrays : Portrays s.found (modelAt rootModel path) level z) {d : ObjectType String}
    (hd : (nameIn names r, d) ∈ definitionsOf s.found names) : s.Represents names path level d := by
  obtain ⟨j, w, hw, hname, rfl⟩ := mem_definitionsOf hd
  obtain ⟨path', level', hlevel', hw'⟩ := belongs_of_mem_found (List.mem_of_getElem? hw)
  refine ⟨⟨z, hportrays, ?_⟩, path', level', w, hlevel', hw', rfl⟩
  rcases hnaming.eq_or_same j r w z hw hz hname.symm with rfl | hsame
  · cases hw.symm.trans hz
    exact .inl rfl
  · exact .inr hsame

/-- What a reference leads to represents the object field that has the reference. -/
theorem step (hnaming : IsNaming s.found names) (h : s.Represents names path level y)
    {p : Property String} (hp : p ∈ y.properties)
    {n : String} (hn : p.type = .reference n) {d : ObjectType String}
    (hd : (n, d) ∈ definitionsOf s.found names) :
    ∃ info children rules, .object info children rules ∈ level ∧ info.name = p.name ∧
      s.Represents names (path ++ [info.name]) children d := by
  obtain ⟨f, hf, t, hname, hdepicts, htype⟩ := h.exists_field hp
  rw [hn] at htype
  cases f with
  | scalar info kind =>
      rw [Depicts] at hdepicts
      rw [hdepicts] at htype
      cases htype
  | object info children rules =>
      obtain ⟨r, z, rfl, hz, hportrays⟩ := depicts_object_iff.1 hdepicts
      obtain rfl : n = nameIn names r := eq_of_beq htype
      have hmodel : modelAt rootModel (path ++ [info.name]) =
          modelAt rootModel path ++ camelName info.name := by
        rw [modelAt, List.foldl_append]
        rfl
      rw [← hmodel] at hportrays
      exact ⟨info, children, rules, hf, hname, of_mem_definitions hnaming hz hportrays hd⟩

theorem exists_reference (hs : s.Built) (h : s.Represents names path level y) {info : FieldInfo}
    {children : List Field} {rules : List Rule} (hlevel : (level.map Field.name).Nodup)
    (hf : .object info children rules ∈ level) :
    ∃ p ∈ y.properties, p.name = info.name ∧ ∃ n, p.type = .reference n := by
  have hmem : info.name ∈ y.properties.map Property.name := by
    rw [(h.perm_names hs).mem_iff]
    exact List.mem_map_of_mem hf
  obtain ⟨p, hp, hname⟩ := List.mem_map.1 hmem
  obtain ⟨g, hg, t, hgname, hdepicts, htype⟩ := h.exists_field hp
  have hgf : g = .object info children rules :=
    List.inj_on_of_nodup_map hlevel hg hf (hgname.trans hname)
  rw [hgf] at hdepicts
  obtain ⟨r, -, rfl, -, -⟩ := depicts_object_iff.1 hdepicts
  refine ⟨p, hp, hname, ?_⟩
  cases hp : p.type with
  | scalar kind =>
      rw [hp] at htype
      cases htype
  | reference n => exact ⟨n, rfl⟩

theorem exists_definition (hnaming : IsNaming s.found names)
    (h : s.Represents names path level y) {p : Property String}
    (hp : p ∈ y.properties) {n : String} (hn : p.type = .reference n) :
    ∃ d, (n, d) ∈ definitionsOf s.found names := by
  obtain ⟨f, -, t, -, hdepicts, htype⟩ := h.exists_field hp
  rw [hn] at htype
  cases f with
  | scalar info kind =>
      rw [Depicts] at hdepicts
      rw [hdepicts] at htype
      cases htype
  | object info children rules =>
      obtain ⟨r, z, rfl, hz, -⟩ := depicts_object_iff.1 hdepicts
      obtain rfl : n = nameIn names r := eq_of_beq htype
      exact hnaming.exists_mem_definitionsOf hz

end Represents

end Schema

end Settings
