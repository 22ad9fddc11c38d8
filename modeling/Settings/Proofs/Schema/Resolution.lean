import Mathlib.Data.List.Forall2
import Mathlib.Data.List.Nodup
import Settings.Proofs.Field.Built
import Settings.Proofs.Result

/-!
# When a configuration is accepted

A configuration is accepted exactly when every field accepts the value that it is resolved from,
be it given or a stand-in, and every key is the name of a field.  The resolved entries then stand
in the order of the fields.
-/

namespace Settings

theorem Value.sameScalar_str_eq_true_iff {s : String} {v : Value} :
    Value.sameScalar (.str s) v = true ↔ v = .str s := by
  cases v with
  | str t => simp [eq_comm (a := s)]
  | _ => simp [sameScalar, integer?]

namespace Entries

@[simp] theorem get?_str_cons_str (s t : String) (v : Value) (rest : Entries) :
    Entries.get? ((.str t, v) :: rest) (.str s) = if s = t then some v else rest.get? (.str s) := by
  simp [get?_cons]

theorem exists_of_get? {entries : Entries} {name : String} {v : Value}
    (h : entries.get? (.str name) = some v) : ∃ e ∈ entries, e.1 = .str name ∧ e.2 = v := by
  rw [get?, Option.map_eq_some_iff] at h
  obtain ⟨e, he, rfl⟩ := h
  have hsame := List.find?_some he
  exact ⟨e, List.mem_of_find?_eq_some he, Value.sameScalar_str_eq_true_iff.1 hsame, rfl⟩

end Entries

namespace Field

/-- The value that a field is resolved from: the one given, else the stand-in. -/
def source? (f : Field) (input : Entries) : Option Value :=
  match input.get? (.str f.name) with
  | some v => some v
  | none => f.standIn?

/-- Whether a key is the name of one of the fields. -/
def IsDeclared (fields : List Field) (key : Value) : Prop :=
  ∃ f ∈ fields, key = .str f.name

/-- Whether an entry is what a field makes of the value that it is resolved from. -/
def ResolvedTo (model : String) (input : Entries) (f : Field) (e : Value × Value) : Prop :=
  e.1 = .str f.name ∧ ∃ v, f.source? input = some v ∧ accept model v f = .ok e.2

theorem strayKeys_eq_nil_iff {fields : List Field} {input : Entries} :
    strayKeys (fields.map Field.name) input = [] ↔ ∀ e ∈ input, IsDeclared fields e.1 := by
  have hkey (key : Value) : strayKey? (fields.map Field.name) key = none ↔
      IsDeclared fields key := by
    cases key <;> simp [strayKey?, IsDeclared, eq_comm]
  simp only [strayKeys, List.filterMap_eq_nil_iff, hkey]

theorem ofIssues_eq_ok_iff {is : List Issue} {a b : α} :
    Checked.ofIssues a is = .ok b ↔ is = [] ∧ a = b := by
  cases is <;> simp [Checked.ofIssues]

theorem under_eq_ok_iff {segment : String} {x : Checked α} {a : α} :
    Checked.under segment x = .ok a ↔ x = .ok a :=
  mapError_eq_ok_iff

/-! ## One field -/

theorem standIn?_isSome (f : Field) : f.standIn?.isSome = f.resolvesWithoutInput := by
  cases f with
  | scalar info kind =>
      cases hd : info.defaultValue <;> cases ho : info.isOptional <;>
        simp [standIn?, Field.info, resolvesWithoutInput, isObject, hd, ho]
  | object info children rules =>
      cases hd : info.defaultValue <;> cases ho : info.isOptional <;>
        simp [standIn?, Field.info, resolvesWithoutInput, isObject, hd, ho]
      split <;> simp_all

theorem accept_null {owner : String} {f : Field} (h : f.isNullable = true) :
    accept owner .null f = .ok .null := by
  cases f <;> simp [accept, h]

theorem accept_scalar {owner : String} {v : Value} {info : FieldInfo} {kind : ScalarKind}
    (h : ¬(isNullable (.scalar info kind) = true ∧ v = .null)) :
    accept owner v (.scalar info kind) = (kind.convert v).mapError fun p => [p.issue] := by
  cases hn : isNullable (.scalar info kind) with
  | false => simp [accept, hn]
  | true =>
      have hv : v ≠ .null := fun hv ↦ h ⟨hn, hv⟩
      cases v <;> simp_all [accept]

theorem accept_object_map {owner : String} {input : Entries} {info : FieldInfo}
    {children : List Field} {rules : List Rule} :
    accept owner (.map input) (.object info children rules) =
      Checked.both (fun resolved _ => .map resolved)
        (acceptAll (owner ++ camelName info.name) input 0 children)
        (Checked.ofIssues () (strayKeys (children.map Field.name) input)) := by
  cases hn : isNullable (.object info children rules) <;> simp [accept, hn]

theorem accept_object_other {owner : String} {v : Value} {info : FieldInfo}
    {children : List Field} {rules : List Rule}
    (h : ¬(isNullable (.object info children rules) = true ∧ v = .null))
    (hv : ∀ input, v ≠ .map input) :
    accept owner v (.object info children rules) =
      .error [(Problem.notObject (owner ++ camelName info.name)).issue] := by
  cases hn : isNullable (.object info children rules) <;> cases v <;> simp_all [accept]

/-! ## All fields of an object -/

/-- The path segment under which issues with the value of the `i`-th field stand. -/
def sourceSegment (f : Field) (input : Entries) (i : Nat) : String :=
  if (input.get? (.str f.name)).isSome then f.name else standInSegment i

/-- What the `i`-th field makes of the value that it is resolved from. -/
def acceptSource (model : String) (input : Entries) (i : Nat) (f : Field) : Checked Value :=
  match f.source? input with
  | some v => Checked.under (f.sourceSegment input i) (accept model v f)
  | none => .error [⟨[f.name], .problem .missing⟩]

theorem acceptAll_cons (model : String) (input : Entries) (i : Nat) (f : Field)
    (rest : List Field) :
    acceptAll model input i (f :: rest) =
      Checked.both (fun v resolved => (.str f.name, v) :: resolved)
        (acceptSource model input i f) (acceptAll model input (i + 1) rest) := by
  rw [acceptAll]
  cases hget : Entries.get? input (.str f.name) with
  | some v => simp [acceptSource, source?, sourceSegment, hget]
  | none => cases hs : f.standIn? <;> simp [acceptSource, source?, sourceSegment, hget, hs]

/-- What is collected from siblings by their positions comes from one of them. -/
theorem mem_collected_iff {α : Type} (part : Nat → Field → List α)
    (collected : Nat → List Field → List α) (hnil : ∀ i, collected i [] = [])
    (hcons : ∀ i f rest, collected i (f :: rest) = part i f ++ collected (i + 1) rest) {x : α}
    {fields : List Field} {i : Nat} :
    x ∈ collected i fields ↔ ∃ j f, fields[j]? = some f ∧ x ∈ part (i + j) f := by
  induction fields generalizing i with
  | nil => simp [hnil]
  | cons g rest ih =>
      rw [hcons, List.mem_append, ih]
      constructor
      · rintro (hx | ⟨j, f, hf, hx⟩)
        · exact ⟨0, g, rfl, hx⟩
        · exact ⟨j + 1, f, hf, by rwa [Nat.add_right_comm] at hx⟩
      · rintro ⟨j, f, hf, hx⟩
        cases j with
        | zero =>
            obtain rfl : g = f := by simpa using hf
            exact .inl hx
        | succ j => exact .inr ⟨j, f, by simpa using hf, by rwa [Nat.add_right_comm]⟩

theorem acceptSource_eq_ok_iff {model : String} {input : Entries} {i : Nat} {f : Field}
    {w : Value} :
    acceptSource model input i f = .ok w ↔ ResolvedTo model input f (.str f.name, w) := by
  unfold acceptSource ResolvedTo
  cases f.source? input with
  | none => simp
  | some v => simp [under_eq_ok_iff]

theorem acceptAll_eq_ok_iff {model : String} {input : Entries} {i : Nat} {fields : List Field}
    {es : Entries} :
    acceptAll model input i fields = .ok es ↔
      List.Forall₂ (ResolvedTo model input) fields es := by
  induction fields generalizing i es with
  | nil => simp [acceptAll, eq_comm]
  | cons f rest ih =>
      rw [acceptAll_cons, Checked.both_eq_ok_iff, List.forall₂_cons_left_iff]
      constructor
      · rintro ⟨w, es', hw, hes, rfl⟩
        exact ⟨_, es', acceptSource_eq_ok_iff.1 hw, ih.1 hes, rfl⟩
      · rintro ⟨⟨key, w⟩, es', hw, hes, rfl⟩
        obtain rfl : key = .str f.name := hw.1
        exact ⟨w, es', acceptSource_eq_ok_iff.2 hw, ih.2 hes, rfl⟩

/-- The entries that fields make of an input all of whose keys are declared. -/
def Resolves (model : String) (fields : List Field) (input es : Entries) : Prop :=
  List.Forall₂ (ResolvedTo model input) fields es ∧ ∀ e ∈ input, IsDeclared fields e.1

theorem both_strayKeys_eq_ok_iff {model : String} {fields : List Field} {input : Entries}
    {g : Entries → α} {a : α} :
    Checked.both (fun resolved _ => g resolved) (acceptAll model input 0 fields)
        (Checked.ofIssues () (strayKeys (fields.map Field.name) input)) = .ok a ↔
      ∃ es, Resolves model fields input es ∧ g es = a := by
  simp only [Checked.both_eq_ok_iff, acceptAll_eq_ok_iff, ofIssues_eq_ok_iff,
    strayKeys_eq_nil_iff]
  constructor
  · rintro ⟨es, -, hes, ⟨hinput, -⟩, rfl⟩
    exact ⟨es, ⟨hes, hinput⟩, rfl⟩
  · rintro ⟨es, ⟨hes, hinput⟩, rfl⟩
    exact ⟨es, (), hes, ⟨hinput, trivial⟩, rfl⟩

/-! ## When values are accepted -/

theorem accept_scalar_eq_ok_iff {owner : String} {v w : Value} {info : FieldInfo}
    {kind : ScalarKind} :
    accept owner v (.scalar info kind) = .ok w ↔
      (isNullable (.scalar info kind) = true ∧ v = .null ∧ w = .null) ∨
        (¬(isNullable (.scalar info kind) = true ∧ v = .null) ∧ kind.convert v = .ok w) := by
  by_cases hnull : isNullable (.scalar info kind) = true ∧ v = .null
  · obtain ⟨hn, rfl⟩ := hnull
    simp [accept_null hn, hn, eq_comm]
  · rw [accept_scalar hnull, mapError_eq_ok_iff]
    tauto

/-- An object is accepted if its fields resolve a map; null is accepted where it stands for "not
given". -/
theorem accept_object_eq_ok_iff {owner : String} {v w : Value} {info : FieldInfo}
    {children : List Field} {rules : List Rule} :
    accept owner v (.object info children rules) = .ok w ↔
      (isNullable (.object info children rules) = true ∧ v = .null ∧ w = .null) ∨
        ∃ input es, v = .map input ∧
          Resolves (owner ++ camelName info.name) children input es ∧ w = .map es := by
  by_cases hnull : isNullable (.object info children rules) = true ∧ v = .null
  · obtain ⟨hn, rfl⟩ := hnull
    simp [accept_null hn, hn, eq_comm]
  · by_cases hv : ∃ input, v = .map input
    · obtain ⟨input, rfl⟩ := hv
      rw [accept_object_map, both_strayKeys_eq_ok_iff]
      constructor
      · rintro ⟨es, hes, rfl⟩
        exact .inr ⟨input, es, rfl, hes, rfl⟩
      · rintro (⟨-, ⟨⟩, -⟩ | ⟨input', es, heq, hes, rfl⟩)
        cases heq
        exact ⟨es, hes, rfl⟩
    · rw [accept_object_other hnull fun input h ↦ hv ⟨input, h⟩]
      constructor
      · rintro ⟨⟩
      · rintro (⟨hn, rfl, -⟩ | ⟨input, es, rfl, -⟩)
        · exact absurd ⟨hn, rfl⟩ hnull
        · exact absurd ⟨input, rfl⟩ hv

/-! ## What a field makes of a value -/

/-- Whether a value has the type that a field holds. -/
def Holds : Field → Value → Prop
  | .scalar _ kind, v => kind.Holds v
  | .object .., v => ∃ es, v = .map es

theorem ne_null_of_holds {kind : ScalarKind} {v : Value} (h : kind.Holds v) : v ≠ .null := by
  cases kind <;> obtain ⟨x, rfl⟩ := h <;> simp

theorem isNullable_eq_true_iff {f : Field} :
    f.isNullable = true ↔ f.info.isOptional = true ∧ f.info.defaultValue = none := by
  simp [isNullable, hasDefault]

/-- An accepted value is null where null stands for "not given", or of the field's type. -/
theorem holds_of_accept {owner : String} {v w : Value} {f : Field}
    (h : accept owner v f = .ok w) : (w = .null ∧ f.isNullable = true) ∨ f.Holds w := by
  cases f with
  | scalar info kind =>
      rcases accept_scalar_eq_ok_iff.1 h with ⟨hn, -, rfl⟩ | ⟨-, hw⟩
      · exact .inl ⟨rfl, hn⟩
      · exact .inr (ScalarKind.holds_of_convert hw)
  | object info children rules =>
      rcases accept_object_eq_ok_iff.1 h with ⟨hn, -, rfl⟩ | ⟨input, es, -, -, rfl⟩
      · exact .inl ⟨rfl, hn⟩
      · exact .inr ⟨es, rfl⟩

theorem isNullable_of_accept_null {owner : String} {v : Value} {f : Field}
    (h : accept owner v f = .ok .null) : f.isNullable = true := by
  rcases holds_of_accept h with ⟨-, hn⟩ | hholds
  · exact hn
  · cases f with
    | scalar info kind => exact absurd rfl (ne_null_of_holds hholds)
    | object info children rules =>
        obtain ⟨es, hes⟩ := hholds
        cases hes

/-! ## The resolved entries -/

theorem resolveEntries_eq_ok_iff {fields : List Field} {input es : Entries} :
    resolveEntries fields input = .ok es ↔ Resolves rootModel fields input es := by
  simp [resolveEntries, both_strayKeys_eq_ok_iff]

theorem Resolves.keys {model : String} {fields : List Field} {input es : Entries}
    (h : Resolves model fields input es) :
    es.map Prod.fst = fields.map fun f => .str f.name := by
  obtain ⟨hes, -⟩ := h
  induction hes with
  | nil => rfl
  | cons he _ ih => rw [List.map_cons, List.map_cons, he.1, ih]

/-- Each field finds its own value among the resolved entries. -/
theorem Resolves.get? {model : String} {fields : List Field} {input es : Entries}
    (h : Resolves model fields input es) (hnames : (fields.map Field.name).Nodup) {f : Field}
    (hf : f ∈ fields) :
    ∃ v w, f.source? input = some v ∧ accept model v f = .ok w ∧
      es.get? (.str f.name) = some w := by
  obtain ⟨hes, -⟩ := h
  induction hes with
  | nil => cases hf
  | @cons g e fields es he _ ih =>
      obtain ⟨key, w⟩ := e
      obtain ⟨hkey, v, hv, hw⟩ := he
      obtain rfl : key = .str g.name := hkey
      rcases List.mem_cons.1 hf with rfl | hf
      · exact ⟨v, w, hv, hw, by simp⟩
      · have hne := name_ne_of_nodup hnames hf
        simpa [hne] using ih hnames.of_cons hf

/-- Among the entries that an object accepts, a scalar with a default has a value of its kind. -/
theorem exists_holds {owner : String} {info field : FieldInfo} {children : List Field}
    {rules : List Rule} {kind : ScalarKind} {v : Value} {values : Entries}
    (h : accept owner v (.object info children rules) = .ok (.map values))
    (hnames : (children.map Field.name).Nodup) (hmem : .scalar field kind ∈ children)
    (hdefault : field.defaultValue.isSome) :
    ∃ w, values.get? (.str field.name) = some w ∧ kind.Holds w := by
  rcases accept_object_eq_ok_iff.1 h with ⟨-, -, hnull⟩ | ⟨input, es, -, hes, hvalues⟩
  · cases hnull
  · cases hvalues
    obtain ⟨u, w, -, hw, hget⟩ := hes.get? hnames hmem
    refine ⟨w, hget, ?_⟩
    rcases holds_of_accept hw with ⟨-, hnull⟩ | hholds
    · have hnone : field.defaultValue = none := (isNullable_eq_true_iff.1 hnull).2
      rw [hnone] at hdefault
      cases hdefault
    · exact hholds

end Field

theorem Issue.overflow?_eq_some_iff {i : Issue} {cause : DurationError} :
    i.overflow? = some cause ↔ i.cause = .problem (.duration cause) ∧ cause.isRefusal = false := by
  obtain ⟨path, c⟩ := i
  cases c with
  | finding rule message => simp [overflow?]
  | problem p =>
      cases p with
      | duration cause' => cases h : cause'.isRefusal <;> grind [overflow?]
      | _ => simp [overflow?]

theorem ParseError.ofIssues_of_none {is : List Issue} (h : ∀ i ∈ is, i.overflow? = none) :
    ofIssues is = .issues is := by
  rw [ofIssues, List.findSome?_eq_none_iff.2 h]

theorem ParseError.ofIssues_eq_issues_iff {is js : List Issue} :
    ofIssues is = .issues js ↔ is = js ∧ ∀ i ∈ is, i.overflow? = none := by
  rw [← List.findSome?_eq_none_iff, ofIssues]
  cases is.findSome? Issue.overflow? <;> simp

theorem ParseError.ofIssues_eq_duration_iff {is : List Issue} {cause : DurationError} :
    ofIssues is = .duration cause ↔ is.findSome? Issue.overflow? = some cause := by
  rw [ofIssues]
  cases is.findSome? Issue.overflow? <;> simp

theorem ParseError.ofIssues_cases (is : List Issue) :
    (∃ js, ofIssues is = .issues js) ∨
      ∃ cause, ofIssues is = .duration cause ∧ cause.isRefusal = false := by
  cases h : ofIssues is with
  | issues js => exact .inl ⟨js, rfl⟩
  | duration cause =>
      obtain ⟨i, -, hi⟩ := List.exists_of_findSome?_eq_some (ofIssues_eq_duration_iff.1 h)
      exact .inr ⟨cause, rfl, (Issue.overflow?_eq_some_iff.1 hi).2⟩

namespace Schema

/-- The entries of a configuration; null counts as one without entries. -/
def inputOf : Value → Option Entries
  | .null => some []
  | .map input => some input
  | _ => none

theorem resolve_eq_ok_iff {s : Schema} {data : Value} {es : Entries} :
    s.resolve data = .ok es ↔
      ∃ input, inputOf data = some input ∧ Field.Resolves rootModel s.fields input es := by
  rw [resolve, mapError_eq_ok_iff]
  cases data <;> simp [Settings.resolve, inputOf, Field.resolveEntries_eq_ok_iff]

/-- Each field accepts the value that it finds among the resolved entries. -/
theorem exists_accepted {s : Schema} {data : Value} {es : Entries} (hes : s.resolve data = .ok es)
    (hnames : (s.fields.map Field.name).Nodup) {f : Field} (hf : f ∈ s.fields) :
    ∃ v w, f.accept rootModel v = .ok w ∧ es.get? (.str f.name) = some w := by
  obtain ⟨input, -, hresolves⟩ := resolve_eq_ok_iff.1 hes
  obtain ⟨v, w, -, hw, hget⟩ := hresolves.get? hnames hf
  exact ⟨v, w, hw, hget⟩

theorem parse_eq_ok_iff {s : Schema} {data : Value} {lint : Bool} {a : Accessor} :
    s.parse data lint = .ok a ↔
      ∃ es, s.resolve data = .ok es ∧ (lint = true → s.findings es = .ok []) ∧
        a = .ofEntries es := by
  unfold parse
  rw [bind_eq_ok_iff]
  refine exists_congr fun es ↦ and_congr_right fun _ ↦ ?_
  cases lint with
  | false => simp [pure_eq_ok_iff]
  | true =>
      cases hfound : s.findings es with
      | error e => simp
      | ok found =>
          cases found with
          | nil => simp [pure_eq_ok_iff]
          | cons i is => simp

theorem parse_eq_issues {s : Schema} {data : Value} {es : Entries} {found : List Issue}
    (hes : s.resolve data = .ok es) (hfound : s.findings es = .ok found) (hne : found ≠ []) :
    s.parse data true = .error (.issues found) := by
  cases found with
  | nil => exact absurd rfl hne
  | cons i is => simp [parse, hes, hfound]

theorem resolve_eq_error_iff {s : Schema} {data : Value} {e : ParseError} :
    s.resolve data = .error e ↔
      ∃ is, Settings.resolve s.fields data = .error is ∧ e = .ofIssues is := by
  rw [resolve]
  cases Settings.resolve s.fields data with
  | ok es => simp [Except.mapError]
  | error is => simp [Except.mapError, eq_comm]

/-- If no rule fails on what the configuration resolves to, a parse can only fail with issues or
because a number became too large. -/
theorem parse_error_cases {s : Schema} {data : Value} {lint : Bool} {e : ParseError}
    (hfindings : ∀ es, s.resolve data = .ok es → ∃ found, s.findings es = .ok found)
    (h : s.parse data lint = .error e) :
    (∃ is, e = .issues is) ∨ ∃ cause, e = .duration cause ∧ cause.isRefusal = false := by
  unfold parse at h
  cases hes : s.resolve data with
  | error e' =>
      rw [hes] at h
      cases h
      obtain ⟨is, -, rfl⟩ := resolve_eq_error_iff.1 hes
      exact ParseError.ofIssues_cases is
  | ok es =>
      obtain ⟨found, hfound⟩ := hfindings es hes
      rw [hes, ok_bind, hfound] at h
      cases lint with
      | false => cases h
      | true =>
          cases found with
          | nil => cases h
          | cons i is =>
              cases h
              exact .inl ⟨i :: is, rfl⟩

end Schema

end Settings
