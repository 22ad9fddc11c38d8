import Settings.Proofs.Schema.Conformity
import Settings.Schema.Description

/-!
# Descriptions of objects

The descriptions that a schema leads to are those of its object fields, in an order in which the
ones inside an object come first.  A reference in a description leads to the description of the
field that it stands for, however many descriptions are added later.
-/

namespace Settings.Schema

open Settings.Field

/-- The name of the model at a path below a model. -/
def modelAt (model : String) (path : List String) : String :=
  path.foldl (fun m name => m ++ camelName name) model

@[simp] theorem modelAt_nil (model : String) : modelAt model [] = model := rfl

@[simp] theorem modelAt_cons (model name : String) (path : List String) :
    modelAt model (name :: path) = modelAt (model ++ camelName name) path := rfl

mutual

/-- Whether a type is that of a field, with references to descriptions that are those of the
objects in it. -/
def Depicts (found : List (ObjectType Nat)) (model : String) : Field → PropertyType Nat → Prop
  | .scalar _ kind, t => t = .scalar kind
  | .object info children _, t => ∃ r x, t = .reference r ∧ found[r]? = some x ∧
      x.title = model ++ camelName info.name ∧ x.required = requiredNames children ∧
      DepictsAll found (model ++ camelName info.name) children x.properties

def DepictsAll (found : List (ObjectType Nat)) (model : String) :
    List Field → List (Property Nat) → Prop
  | [], ps => ps = []
  | f :: rest, ps => ∃ t qs, ps = property f t :: qs ∧ Depicts found model f t ∧
      DepictsAll found model rest qs

end

/-- Whether a description is that of the object with some fields. -/
structure Portrays (found : List (ObjectType Nat)) (model : String) (fields : List Field)
    (x : ObjectType Nat) : Prop where
  title : x.title = model
  required : x.required = requiredNames fields
  properties : DepictsAll found model fields x.properties

variable {found found' : List (ObjectType Nat)} {model : String}

theorem depicts_object_iff {info : FieldInfo} {children : List Field} {rules : List Rule}
    {t : PropertyType Nat} :
    Depicts found model (.object info children rules) t ↔ ∃ r x, t = .reference r ∧
      found[r]? = some x ∧ Portrays found (model ++ camelName info.name) children x := by
  rw [Depicts]
  constructor
  · rintro ⟨r, x, ht, hx, htitle, hrequired, hproperties⟩
    exact ⟨r, x, ht, hx, htitle, hrequired, hproperties⟩
  · rintro ⟨r, x, ht, hx, htitle, hrequired, hproperties⟩
    exact ⟨r, x, ht, hx, htitle, hrequired, hproperties⟩

/-! ## More descriptions -/

mutual

theorem Depicts.extend (hfound : found <+: found') : ∀ {model : String} (f : Field)
    {t : PropertyType Nat}, Depicts found model f t → Depicts found' model f t
  | _, .scalar .., _, h => h
  | _, .object info children rules, t, h => by
      obtain ⟨r, x, ht, hx, htitle, hrequired, hproperties⟩ := h
      have hx' : found'[r]? = some x := by
        obtain ⟨more, rfl⟩ := hfound
        rw [List.getElem?_append_left (List.getElem?_eq_some_iff.1 hx).1]
        exact hx
      exact ⟨r, x, ht, hx', htitle, hrequired, DepictsAll.extend hfound children hproperties⟩

theorem DepictsAll.extend (hfound : found <+: found') : ∀ {model : String} (fields : List Field)
    {ps : List (Property Nat)}, DepictsAll found model fields ps → DepictsAll found' model fields ps
  | _, [], _, h => h
  | _, f :: rest, ps, h => by
      obtain ⟨t, qs, hps, hf, hrest⟩ := h
      exact ⟨t, qs, hps, Depicts.extend hfound f hf, DepictsAll.extend hfound rest hrest⟩

end

theorem Portrays.extend {fields : List Field} {x : ObjectType Nat}
    (h : Portrays found model fields x) (hfound : found <+: found') :
    Portrays found' model fields x :=
  ⟨h.title, h.required, h.properties.extend hfound fields⟩

/-! ## Properties -/

theorem DepictsAll.names {fields : List Field} {ps : List (Property Nat)}
    (h : DepictsAll found model fields ps) : ps.map Property.name = fields.map Field.name := by
  induction fields generalizing ps with
  | nil =>
      rw [DepictsAll] at h
      rw [h]
      rfl
  | cons f rest ih =>
      obtain ⟨t, qs, rfl, -, hrest⟩ := h
      rw [List.map_cons, List.map_cons, ih hrest]
      rfl

theorem DepictsAll.exists_field {fields : List Field} {ps : List (Property Nat)}
    (h : DepictsAll found model fields ps) {p : Property Nat} (hp : p ∈ ps) :
    ∃ f ∈ fields, ∃ t, p = property f t ∧ Depicts found model f t := by
  induction fields generalizing ps with
  | nil =>
      rw [DepictsAll] at h
      rw [h] at hp
      cases hp
  | cons g rest ih =>
      obtain ⟨t, qs, rfl, hg, hrest⟩ := h
      rcases List.mem_cons.1 hp with rfl | hp
      · exact ⟨g, List.mem_cons_self, t, rfl, hg⟩
      · obtain ⟨f, hf, hdepicts⟩ := ih hrest hp
        exact ⟨f, List.mem_cons_of_mem _ hf, hdepicts⟩

/-- A reference in a description leads to a description. -/
theorem Portrays.reference {fields : List Field} {x : ObjectType Nat}
    (h : Portrays found model fields x) {p : Property Nat} (hp : p ∈ x.properties) {r : Nat}
    (hr : p.type = .reference r) : ∃ y, found[r]? = some y := by
  obtain ⟨f, -, t, rfl, hdepicts⟩ := h.properties.exists_field hp
  have ht : t = .reference r := hr
  cases f with
  | scalar info kind =>
      rw [Depicts, ht] at hdepicts
      cases hdepicts
  | object info children rules =>
      obtain ⟨r', y, ht', hy, -⟩ := depicts_object_iff.1 hdepicts
      cases ht.symm.trans ht'
      exact ⟨y, hy⟩

/-! ## What describing gives -/

theorem describe_object (model : String) (found : List (ObjectType Nat)) (info : FieldInfo)
    (children : List Field) (rules : List Rule) :
    describe model found (.object info children rules) =
      (.reference (describeAll (model ++ camelName info.name) found children).2.length,
        (describeAll (model ++ camelName info.name) found children).2 ++
          [⟨model ++ camelName info.name,
            (describeAll (model ++ camelName info.name) found children).1,
            requiredNames children⟩]) := by
  rw [describe]

theorem describeAll_cons (model : String) (found : List (ObjectType Nat)) (f : Field)
    (rest : List Field) :
    describeAll model found (f :: rest) =
      (property f (describe model found f).1 ::
          (describeAll model (describe model found f).2 rest).1,
        (describeAll model (describe model found f).2 rest).2) := by
  rw [describeAll]

mutual

theorem describe_spec (model : String) (found : List (ObjectType Nat)) : ∀ f : Field,
    found <+: (describe model found f).2 ∧
      Depicts (describe model found f).2 model f (describe model found f).1
  | .scalar info kind => by
      rw [describe]
      exact ⟨List.prefix_rfl, rfl⟩
  | .object info children rules => by
      obtain ⟨hfound, hchildren⟩ :=
        describeAll_spec (model ++ camelName info.name) found children
      rw [describe_object]
      refine ⟨hfound.trans (List.prefix_append _ _), _, _, rfl, List.getElem?_concat_length, rfl,
        rfl, ?_⟩
      exact hchildren.extend (List.prefix_append _ _) children

theorem describeAll_spec (model : String) (found : List (ObjectType Nat)) :
    ∀ fields : List Field, found <+: (describeAll model found fields).2 ∧
      DepictsAll (describeAll model found fields).2 model fields (describeAll model found fields).1
  | [] => by
      rw [describeAll]
      exact ⟨List.prefix_rfl, rfl⟩
  | f :: rest => by
      obtain ⟨hfound, hf⟩ := describe_spec model found f
      obtain ⟨hfound', hrest⟩ := describeAll_spec model (describe model found f).2 rest
      rw [describeAll_cons]
      exact ⟨hfound.trans hfound', _, _, rfl, hf.extend hfound' f, hrest⟩

end

/-- Whether a description is that of an object below some fields. -/
def Belongs (found : List (ObjectType Nat)) (model : String) (fields : List Field)
    (x : ObjectType Nat) : Prop :=
  ∃ path level, Level fields path level ∧ Portrays found (modelAt model path) level x

theorem Belongs.extend {fields : List Field} {x : ObjectType Nat}
    (h : Belongs found model fields x) (hfound : found <+: found') :
    Belongs found' model fields x := by
  obtain ⟨path, level, hlevel, hx⟩ := h
  exact ⟨path, level, hlevel, hx.extend hfound⟩

mutual

theorem mem_describe (model : String) (found : List (ObjectType Nat)) {x : ObjectType Nat} :
    ∀ (f : Field) {fields : List Field}, f ∈ fields → x ∈ (describe model found f).2 →
      x ∈ found ∨ Belongs (describe model found f).2 model fields x
  | .scalar info kind, _, _, hx => by
      rw [describe] at hx
      exact .inl hx
  | .object info children rules, fields, hf, hx => by
      have hspec := (describe_spec model found (.object info children rules)).2
      rw [describe_object] at hx hspec ⊢
      rcases List.mem_append.1 hx with hx | hx
      · rcases mem_describeAll (model ++ camelName info.name) found children
          (fun c hc ↦ hc) hx with hx | ⟨path, level, hlevel, hx⟩
        · exact .inl hx
        · refine .inr ⟨info.name :: path, level, .inside hf hlevel, ?_⟩
          exact hx.extend (List.prefix_append _ _)
      · obtain ⟨r, y, ht, hy, hportrays⟩ := depicts_object_iff.1 hspec
        cases ht
        rw [List.getElem?_concat_length, Option.some.injEq] at hy
        obtain rfl : x = y := (List.mem_singleton.1 hx).trans hy
        exact .inr ⟨[info.name], children, .inside hf .root, hportrays⟩

theorem mem_describeAll (model : String) (found : List (ObjectType Nat)) {x : ObjectType Nat} :
    ∀ (part : List Field) {fields : List Field}, (∀ f ∈ part, f ∈ fields) →
      x ∈ (describeAll model found part).2 →
      x ∈ found ∨ Belongs (describeAll model found part).2 model fields x
  | [], _, _, hx => by
      rw [describeAll] at hx
      exact .inl hx
  | f :: rest, fields, hpart, hx => by
      have hrest := describeAll_spec model (describe model found f).2 rest
      rw [describeAll_cons] at hx ⊢
      rcases mem_describeAll model (describe model found f).2 rest
        (fun c hc ↦ hpart c (List.mem_cons_of_mem f hc)) hx with hx | hx
      · rcases mem_describe model found f (hpart f List.mem_cons_self) hx with hx | hx
        · exact .inl hx
        · exact .inr (hx.extend hrest.1)
      · exact .inr hx

end

end Settings.Schema
