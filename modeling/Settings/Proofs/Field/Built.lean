import Mathlib.Data.List.Nodup
import Settings.Backoff.Declaration
import Settings.Proofs.Result
import Settings.Schema

/-!
# Fields that can be built

Fields come from declarations and builder steps.  However they are put together, every name in
them is a text that is not blank, siblings have different names, and a duration field with a
default has a literal for it.
-/

namespace Settings

namespace Field

/-- A builder step. -/
inductive Step where
  | description (text : String)
  | appendDescription (text : String)
  | default (value : Value)
  | examples (values : List Value)
  | optional
  | advanced
  | rule (r : Rule)

/-- The field after a builder step. -/
def Step.apply : Step → Field → Except DeclarationError Field
  | .description text, f => .ok (f.withDescription text)
  | .appendDescription text, f => .ok (f.appendDescription text)
  | .default value, f => f.withDefault value
  | .examples values, f => .ok (f.withExamples values)
  | .optional, f => .ok f.optional
  | .advanced, f => .ok f.advanced
  | .rule r, f => f.withRule r

/-- The fields that declarations and builder steps lead to. -/
inductive Built : Field → Prop where
  | scalar {kind : ScalarKind} {name : Value} {f : Field} (h : newScalar kind name = .ok f) :
      Built f
  | object {name : Value} {candidates : List Candidate} {f : Field}
      (children : ∀ c, .field c ∈ candidates → Built c) (h : newObject name candidates = .ok f) :
      Built f
  | step {s : Step} {f g : Field} (hf : Built f) (h : s.apply f = .ok g) : Built g

/-- What holds of a field and of all fields below it. -/
inductive WellFormed : Field → Prop where
  | scalar {info : FieldInfo} {kind : ScalarKind} (hname : Text.isBlankText info.name = false)
      (hdefault : kind = .duration → ∀ v ∈ info.defaultValue, Duration.isLiteral v = .ok true) :
      WellFormed (.scalar info kind)
  | object {info : FieldInfo} {children : List Field} {rules : List Rule}
      (hname : Text.isBlankText info.name = false) (hnames : (children.map Field.name).Nodup)
      (hchildren : ∀ c ∈ children, WellFormed c) : WellFormed (.object info children rules)

@[simp] theorem name_scalar (info : FieldInfo) (kind : ScalarKind) :
    (scalar info kind).name = info.name := rfl

@[simp] theorem name_object (info : FieldInfo) (children : List Field) (rules : List Rule) :
    (object info children rules).name = info.name := rfl

/-- The first of several fields of different names has a name of its own. -/
theorem name_ne_of_nodup {f g : Field} {fields : List Field}
    (h : ((g :: fields).map Field.name).Nodup) (hf : f ∈ fields) : f.name ≠ g.name := by
  intro hname
  rw [List.map_cons, List.nodup_cons, ← hname] at h
  exact h.1 (List.mem_map_of_mem hf)

/-! ## Declarations -/

theorem checkName_eq_ok_iff {v : Value} {name : String} :
    checkName v = .ok name ↔ v = .str name ∧ Text.isBlankText name = false := by
  cases v <;> simp only [checkName, reduceCtorEq, false_and]
  next s =>
    split
    · next h =>
        simp only [reduceCtorEq, Value.str.injEq, false_iff, not_and, Bool.not_eq_false]
        rintro rfl
        exact h
    · next h =>
        simp only [Except.ok.injEq, Value.str.injEq, iff_self_and]
        rintro rfl
        simpa using h

theorem checkSiblings_cons_eq_ok_iff {owner : Owner} {seen : List String} {f : Field}
    {candidates : List Candidate} {fields : List Field} :
    checkSiblings owner seen (.field f :: candidates) = .ok fields ↔
      f.name ∉ seen ∧ ∃ rest, checkSiblings owner (f.name :: seen) candidates = .ok rest ∧
        fields = f :: rest := by
  by_cases hseen : f.name ∈ seen <;> simp [checkSiblings, hseen, map_eq_ok_iff]

theorem checkSiblings_eq_ok_iff {owner : Owner} {seen : List String}
    {candidates : List Candidate} {fields : List Field} :
    checkSiblings owner seen candidates = .ok fields ↔
      candidates = fields.map .field ∧ (fields.map Field.name).Nodup ∧
        ∀ f ∈ fields, f.name ∉ seen := by
  induction candidates generalizing seen fields with
  | nil => cases fields <;> simp [checkSiblings]
  | cons c candidates ih =>
      cases c with
      | value v => cases fields <;> simp [checkSiblings]
      | field f =>
          simp only [checkSiblings_cons_eq_ok_iff, ih]
          cases fields with
          | nil => simp
          | cons g fields =>
              simp only [List.map_cons, List.cons.injEq, Candidate.field.injEq, List.nodup_cons,
                List.mem_map, not_exists, not_and, List.mem_cons, forall_eq_or_imp, not_or]
              constructor
              · rintro ⟨hseen, rest, ⟨rfl, hnodup, hnew⟩, rfl, rfl⟩
                refine ⟨⟨rfl, rfl⟩, ⟨?_, hnodup⟩, hseen, fun c hc ↦ (hnew c hc).2⟩
                exact fun c hc ↦ (hnew c hc).1
              · rintro ⟨⟨rfl, rfl⟩, ⟨hother, hnodup⟩, hseen, hnew⟩
                refine ⟨hseen, fields, ⟨rfl, hnodup, fun c hc ↦ ?_⟩, rfl, rfl⟩
                exact ⟨hother c hc, hnew c hc⟩

theorem newScalar_eq_ok_iff {kind : ScalarKind} {v : Value} {f : Field} :
    newScalar kind v = .ok f ↔ ∃ name, v = .str name ∧ Text.isBlankText name = false ∧
      f = .scalar { name := name } kind := by
  simp only [newScalar, map_eq_ok_iff, checkName_eq_ok_iff, and_assoc]

theorem newObject_eq_ok_iff {v : Value} {candidates : List Candidate} {f : Field} :
    newObject v candidates = .ok f ↔ ∃ name children, v = .str name ∧
      Text.isBlankText name = false ∧ candidates = children.map .field ∧
      (children.map Field.name).Nodup ∧ f = .object { name := name } children [] := by
  simp only [newObject, bind_eq_ok_iff, checkSiblings_eq_ok_iff, checkName_eq_ok_iff,
    pure_eq_ok_iff]
  constructor
  · rintro ⟨children, ⟨rfl, hnodup, -⟩, name, ⟨rfl, hblank⟩, rfl⟩
    exact ⟨name, children, rfl, hblank, rfl, hnodup, rfl⟩
  · rintro ⟨name, children, rfl, hblank, rfl, hnodup, rfl⟩
    exact ⟨children, ⟨rfl, hnodup, by simp⟩, name, ⟨rfl, hblank⟩, rfl⟩

theorem Built.newScalar {name : String} (hname : Text.isBlankText name = false)
    (kind : ScalarKind) : Built (.scalar { name := name } kind) :=
  .scalar (newScalar_eq_ok_iff.2 ⟨name, rfl, hname, rfl⟩)

theorem Built.newObject {name : String} {children : List Field}
    (hname : Text.isBlankText name = false) (hnames : (children.map Field.name).Nodup)
    (hchildren : ∀ c ∈ children, c.Built) : Built (.object { name := name } children []) := by
  refine .object (fun c hc ↦ ?_)
    (newObject_eq_ok_iff.2 ⟨name, children, rfl, hname, rfl, hnames, rfl⟩)
  obtain ⟨d, hd, hdc⟩ := List.mem_map.1 hc
  cases hdc
  exact hchildren c hd

/-! ## Builder steps -/

/-- What a step does to the part that fields of all kinds have. -/
def Step.change : Step → FieldInfo → FieldInfo
  | .description text, i => { i with description := text }
  | .appendDescription text, i =>
      { i with description := if i.description.isEmpty then text else s!"{i.description} {text}" }
  | .default value, i => { i with defaultValue := some value }
  | .examples values, i => { i with examples := i.examples ++ values }
  | .optional, i => { i with isOptional := true }
  | .advanced, i => { i with isAdvanced := true }
  | .rule _, i => i

/-- The rules that a step adds. -/
def Step.added : Step → List Rule
  | .rule r => [r]
  | _ => []

@[simp] theorem Step.name_change (s : Step) (i : FieldInfo) : (s.change i).name = i.name := by
  cases s <;> rfl

theorem Step.apply_object (s : Step) (i : FieldInfo) (children : List Field)
    (rules : List Rule) :
    s.apply (.object i children rules) =
      .ok (.object (s.change i) children (rules ++ s.added)) := by
  cases s with
  | rule r => rfl
  | _ =>
      simp only [added, List.append_nil]
      rfl

theorem Step.apply_scalar_eq_ok_iff {s : Step} {i : FieldInfo} {kind : ScalarKind} {g : Field} :
    s.apply (.scalar i kind) = .ok g ↔ g = .scalar (s.change i) kind ∧ s.added = [] ∧
      (kind = .duration → ∀ v, s = .default v → Duration.isLiteral v = .ok true) := by
  have hok {f : Field} : (Except.ok f : Except DeclarationError Field) = .ok g ↔ g = f := by
    rw [Except.ok.injEq, eq_comm]
  cases s with
  | default v =>
      cases kind with
      | duration =>
          simp only [apply, withDefault, change, added]
          split
          · next hv => simp [hok, hv]
          all_goals next hv => simp [hv]
      | _ => simp [apply, withDefault, mapInfo, change, added, hok]
  | rule r => simp [apply, withRule, added]
  | _ =>
      simp only [added, reduceCtorEq, false_implies, implies_true, and_true]
      exact hok

/-- A default after a step was there before or is the one that the step declares. -/
theorem Step.mem_defaultValue_change {s : Step} {i : FieldInfo} {v : Value}
    (h : v ∈ (s.change i).defaultValue) : v ∈ i.defaultValue ∨ s = .default v := by
  cases s with
  | default w =>
      obtain rfl : w = v := by simpa [change] using h
      exact .inr rfl
  | _ => exact .inl h

theorem WellFormed.apply {s : Step} {f g : Field} (hf : f.WellFormed) (h : s.apply f = .ok g) :
    g.WellFormed := by
  cases hf with
  | @scalar info kind hname hdefault =>
      obtain ⟨rfl, -, hliteral⟩ := Step.apply_scalar_eq_ok_iff.1 h
      refine .scalar (by rwa [s.name_change]) fun hkind v hv ↦ ?_
      rcases Step.mem_defaultValue_change hv with hv | hs
      · exact hdefault hkind v hv
      · exact hliteral hkind v hs
  | object hname hnames hchildren =>
      rw [Step.apply_object, Except.ok.injEq] at h
      subst h
      exact .object (by rwa [s.name_change]) hnames hchildren

/-! ## Whatever is built -/

theorem Built.wellFormed {f : Field} (h : f.Built) : f.WellFormed := by
  induction h with
  | scalar h =>
      obtain ⟨name, -, hblank, rfl⟩ := newScalar_eq_ok_iff.1 h
      exact .scalar hblank (by simp)
  | object children h ih =>
      obtain ⟨name, fields, -, hblank, rfl, hnodup, rfl⟩ := newObject_eq_ok_iff.1 h
      exact .object hblank hnodup fun c hc ↦ ih c (List.mem_map_of_mem hc)
  | step hf h ih => exact ih.apply h

end Field

/-- The schemas of fields that are built. -/
inductive Schema.Built : Schema → Prop where
  | mk {candidates : List Candidate} {s : Schema} (fields : ∀ f, .field f ∈ candidates → f.Built)
      (h : Schema.ofCandidates candidates = .ok s) : Built s

theorem Schema.ofCandidates_eq_ok_iff {candidates : List Candidate} {s : Schema} :
    ofCandidates candidates = .ok s ↔
      candidates = s.fields.map .field ∧ (s.fields.map Field.name).Nodup := by
  simp only [ofCandidates, map_eq_ok_iff, Field.checkSiblings_eq_ok_iff]
  constructor
  · rintro ⟨fields, ⟨rfl, hnodup, -⟩, rfl⟩
    exact ⟨rfl, hnodup⟩
  · rintro ⟨rfl, hnodup⟩
    exact ⟨s.fields, ⟨rfl, hnodup, by simp⟩, rfl⟩

theorem Schema.ofCandidates_map_eq_ok_iff {fields : List Field} {s : Schema} :
    ofCandidates (fields.map .field) = .ok s ↔
      s.fields = fields ∧ (fields.map Field.name).Nodup := by
  rw [ofCandidates_eq_ok_iff, List.map_inj_right fun f g h ↦ Candidate.field.inj h,
    eq_comm (a := fields)]
  exact and_congr_right fun h ↦ by rw [h]

theorem Schema.built_of_fields {s : Schema} (hnames : (s.fields.map Field.name).Nodup)
    (hfields : ∀ f ∈ s.fields, f.Built) : s.Built := by
  refine .mk (fun f hf ↦ ?_) (ofCandidates_eq_ok_iff.2 ⟨rfl, hnames⟩)
  obtain ⟨g, hg, hgf⟩ := List.mem_map.1 hf
  cases hgf
  exact hfields f hg

theorem Schema.Built.names_nodup {s : Schema} (h : s.Built) :
    (s.fields.map Field.name).Nodup := by
  obtain ⟨-, h⟩ := h
  exact (ofCandidates_eq_ok_iff.1 h).2

theorem Schema.Built.of_mem {s : Schema} (h : s.Built) : ∀ f ∈ s.fields, f.Built := by
  obtain ⟨fields, h⟩ := h
  intro f hf
  rw [(ofCandidates_eq_ok_iff.1 h).1] at fields
  exact fields f (List.mem_map_of_mem hf)

theorem Schema.Built.wellFormed {s : Schema} (h : s.Built) : ∀ f ∈ s.fields, f.WellFormed :=
  fun f hf ↦ (h.of_mem f hf).wellFormed

theorem Schema.Built.withField {s t : Schema} {f : Field} (hs : s.Built) (hf : f.Built)
    (h : s.withField (.field f) = .ok t) : t.Built := by
  refine .mk (fun g hg ↦ ?_) h
  rcases List.mem_append.1 hg with hg | hg
  · obtain ⟨g', hg', hgg'⟩ := List.mem_map.1 hg
    cases hgg'
    exact hs.of_mem g hg'
  · cases List.mem_singleton.1 hg
    exact hf

end Settings
