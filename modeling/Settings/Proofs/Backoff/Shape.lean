import Settings.Proofs.Duration.RoundTrip
import Settings.Proofs.Field.Built
import Settings.Proofs.Result

/-!
# What a backoff field looks like

Declaring a backoff field under a name that is not blank always succeeds: the defaults are
canonical literals, which are accepted as the defaults of duration fields.
-/

namespace Settings.Backoff

/-- The times that a backoff field has by default. -/
def defaultTimes : Option Policy → Duration × Duration × Duration
  | none => (⟨500 * 1000, by decide⟩, ⟨10 * 1000000, by decide⟩, ⟨60 * 1000000, by decide⟩)
  | some p => (p.initialInterval, p.maxInterval, p.maxElapsedTime)

theorem ofText_defaultLiterals (template : Option Policy) :
    Duration.ofText (defaultLiterals template).1 = .ok (defaultTimes template).1 ∧
      Duration.ofText (defaultLiterals template).2.1 = .ok (defaultTimes template).2.1 ∧
      Duration.ofText (defaultLiterals template).2.2 = .ok (defaultTimes template).2.2 := by
  cases template with
  | none =>
      refine ⟨?_, ?_, ?_⟩
      · exact Duration.ofText_wholeTerm 500 .millisecond (u := ['m', 's'])
          (by decide) rfl (by norm_num [Duration.TimeUnit.micros, Decimal.toRat])
      · exact Duration.ofText_wholeTerm 10 .second (u := ['s'])
          (by decide) rfl (by norm_num [Duration.TimeUnit.micros, Decimal.toRat])
      · exact Duration.ofText_wholeTerm 1 .minute (u := ['m'])
          (by decide) rfl (by norm_num [Duration.TimeUnit.micros, Decimal.toRat])
  | some p => simp [defaultLiterals, defaultTimes]

theorem isBlankText_timeNames : Text.isBlankText initialIntervalName = false ∧
    Text.isBlankText maxIntervalName = false ∧ Text.isBlankText maxElapsedTimeName = false := by
  decide

/-- A duration field as backoff fields have them. -/
def timeField (name description literal : String) (examples : List String) : Field :=
  .scalar { name := name, description := description, defaultValue := some (.str literal),
            examples := examples.map .str } .duration

theorem intervalField_eq {name description literal : String} {examples : List String}
    {d : Duration} (hname : Text.isBlankText name = false) (hd : Duration.ofText literal = .ok d) :
    intervalField name description literal examples =
      .ok (timeField name description literal examples) := by
  have hnew : Field.newScalar .duration (.str name) = .ok (.scalar { name := name } .duration) :=
    Field.newScalar_eq_ok_iff.2 ⟨name, rfl, hname, rfl⟩
  have hliteral : Duration.isLiteral (.str literal) = .ok true :=
    Duration.isLiteral_eq_true_iff.2 ⟨literal, d, rfl, hd⟩
  simp [intervalField, hnew, Field.withDescription, Field.mapInfo, Field.withDefault, hliteral,
    Field.withExamples, timeField, pure, Except.pure]

/-- The flag of a toggled backoff field. -/
def flagField : Field :=
  .scalar { name := enabledName, description := "Whether retries should be enabled.",
            defaultValue := some (.bool false) } .bool

theorem enabledField_eq : enabledField = .ok flagField := by
  have hnew : Field.newScalar .bool (.str enabledName) =
      .ok (.scalar { name := enabledName } .bool) :=
    Field.newScalar_eq_ok_iff.2 ⟨enabledName, rfl, by decide, rfl⟩
  simp [enabledField, hnew, Field.withDescription, Field.mapInfo, Field.withDefault, flagField]

/-- The three fields for the times of a policy. -/
def timeFields (allowUnbounded : Bool) (template : Option Policy) : List Field :=
  let elapsed :=
    timeField maxElapsedTimeName
      ("The maximum overall period of time to spend on retry attempts before the request is " ++
        "aborted.") (defaultLiterals template).2.2 ["1m", "1h"]
  [timeField initialIntervalName "The initial period to wait between retry attempts."
      (defaultLiterals template).1 ["50ms", "1s"],
    timeField maxIntervalName "The maximum period to wait between retry attempts"
      (defaultLiterals template).2.1 ["5s", "1m"],
    if allowUnbounded then elapsed.appendDescription unboundedNote else elapsed]

theorem intervalFields_eq (allowUnbounded : Bool) (template : Option Policy) :
    intervalFields allowUnbounded template = .ok (timeFields allowUnbounded template) := by
  obtain ⟨hinitial, hmax, helapsed⟩ := ofText_defaultLiterals template
  obtain ⟨hinitialName, hmaxName, helapsedName⟩ := isBlankText_timeNames
  simp only [intervalFields, intervalField_eq hinitialName hinitial, intervalField_eq hmaxName hmax,
    intervalField_eq helapsedName helapsed, ok_bind, timeFields]
  rfl

/-- All children of a backoff field. -/
def children (toggled allowUnbounded : Bool) (template : Option Policy) : List Field :=
  if toggled then flagField :: timeFields allowUnbounded template
  else timeFields allowUnbounded template

theorem childFields_eq (toggled allowUnbounded : Bool) (template : Option Policy) :
    childFields toggled allowUnbounded template =
      .ok (children toggled allowUnbounded template) := by
  cases toggled <;>
    simp [childFields, intervalFields_eq, enabledField_eq, children, pure, Except.pure]

theorem name_timeFields (allowUnbounded : Bool) (template : Option Policy) :
    (timeFields allowUnbounded template).map Field.name =
      [initialIntervalName, maxIntervalName, maxElapsedTimeName] := by
  cases allowUnbounded <;> rfl

theorem nodup_names_children (toggled allowUnbounded : Bool) (template : Option Policy) :
    ((children toggled allowUnbounded template).map Field.name).Nodup := by
  cases toggled
  · rw [children, if_neg (by decide), name_timeFields]
    decide
  · rw [children, if_pos rfl, List.map_cons, name_timeFields]
    decide

/-- A backoff field of a given name. -/
def shape (toggled : Bool) (name : String) (allowUnbounded : Bool) (template : Option Policy) :
    Field :=
  .object { name := name, description := fieldDescription }
    (children toggled allowUnbounded template) (if allowUnbounded then [] else [boundedRule])

theorem newField_eq_ok_iff {toggled allowUnbounded : Bool} {v : Value}
    {template : Option Policy} {f : Field} :
    newField toggled v allowUnbounded template = .ok f ↔ ∃ name, v = .str name ∧
      Text.isBlankText name = false ∧ f = shape toggled name allowUnbounded template := by
  simp only [newField, childFields_eq, ok_bind, bind_eq_ok_iff, Field.newObject_eq_ok_iff]
  constructor
  · rintro ⟨_, ⟨name, children, rfl, hname, hchildren, -, rfl⟩, hfinish⟩
    have heq := (List.map_injective_iff.2 fun a b h ↦ Candidate.field.inj h) hchildren
    subst heq
    refine ⟨name, rfl, hname, ?_⟩
    cases allowUnbounded <;> cases hfinish <;> rfl
  · rintro ⟨name, rfl, hname, rfl⟩
    refine ⟨_, ⟨name, _, rfl, hname, rfl, nodup_names_children _ _ _, rfl⟩, ?_⟩
    cases allowUnbounded <;> rfl

theorem result_declareField (toggled : Bool) (name : Value) (allowUnbounded : Bool)
    (template : Option Policy) :
    (declareField toggled name allowUnbounded template).result =
      newField toggled name allowUnbounded template := by
  rw [declareField, newField, Journal.result_bind, Journal.result_ofExcept]
  refine congrArg _ (funext fun children ↦ ?_)
  rw [Journal.result_bind, Field.result_declareObject]
  refine congrArg _ (funext fun f ↦ ?_)
  rw [Journal.result_bind, Journal.result_ofExcept]
  cases finish allowUnbounded f <;> rfl

/-! ## Backoff fields are built like all others -/

theorem built_timeField {name literal : String} (description : String) (examples : List String)
    {d : Duration} (hname : Text.isBlankText name = false) (hd : Duration.ofText literal = .ok d) :
    (timeField name description literal examples).Built := by
  let info : FieldInfo := { name := name, description := description }
  have hscalar : (Field.scalar info .duration).Built :=
    .step (s := .description description) (.newScalar hname .duration) rfl
  have hdefault :
      (Field.scalar { info with defaultValue := some (.str literal) } .duration).Built := by
    refine .step (s := .default (.str literal)) hscalar (Field.Step.apply_scalar_eq_ok_iff.2 ?_)
    refine ⟨rfl, rfl, fun _ v hv ↦ ?_⟩
    cases hv
    exact Duration.isLiteral_eq_true_iff.2 ⟨literal, d, rfl, hd⟩
  exact .step (s := .examples (examples.map .str)) hdefault rfl

theorem built_flagField : flagField.Built := by
  have hnew : (Field.scalar { name := enabledName } .bool).Built := .newScalar (by decide) .bool
  have hdescription := Field.Built.step
    (s := .description "Whether retries should be enabled.") hnew rfl
  exact .step (s := .default (.bool false)) hdescription rfl

theorem built_of_mem_children {toggled allowUnbounded : Bool} {template : Option Policy}
    {c : Field} (hc : c ∈ children toggled allowUnbounded template) : c.Built := by
  obtain ⟨hinitial, hmax, helapsed⟩ := ofText_defaultLiterals template
  obtain ⟨hinitialName, hmaxName, helapsedName⟩ := isBlankText_timeNames
  have htimes : ∀ c ∈ timeFields allowUnbounded template, c.Built := by
    have hlast := built_timeField
      ("The maximum overall period of time to spend on retry attempts before the request is " ++
        "aborted.") ["1m", "1h"] helapsedName helapsed
    intro c hc
    simp only [timeFields, List.mem_cons, List.not_mem_nil, or_false] at hc
    rcases hc with rfl | rfl | rfl
    · exact built_timeField _ _ hinitialName hinitial
    · exact built_timeField _ _ hmaxName hmax
    · cases allowUnbounded
      · exact hlast
      · exact .step (s := .appendDescription unboundedNote) hlast rfl
  cases toggled with
  | false => exact htimes c hc
  | true =>
      rcases List.mem_cons.1 hc with rfl | hc
      · exact built_flagField
      · exact htimes c hc

theorem built_newField {toggled allowUnbounded : Bool} {v : Value} {template : Option Policy}
    {f : Field} (h : newField toggled v allowUnbounded template = .ok f) : f.Built := by
  obtain ⟨name, rfl, hname, rfl⟩ := newField_eq_ok_iff.1 h
  have hobject : (Field.object { name := name }
      (children toggled allowUnbounded template) []).Built :=
    .newObject hname (nodup_names_children _ _ _) fun c hc ↦ built_of_mem_children hc
  have hdescription := Field.Built.step (s := .description fieldDescription) hobject rfl
  cases allowUnbounded with
  | true => exact hdescription
  | false => exact .step (s := .rule boundedRule) hdescription rfl

end Settings.Backoff
