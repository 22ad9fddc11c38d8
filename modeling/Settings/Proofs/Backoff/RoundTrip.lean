import Settings.Proofs.Backoff.Extraction
import Settings.Proofs.Backoff.Shape
import Settings.Proofs.Schema.Resolution

/-!
# From the template to the policy

A backoff field that is the only one of its schema gives back what its section says, and where the
section says nothing, the times of the template it was declared with.
-/

namespace Settings.Backoff

/-- Whether entries are such as a section for a backoff field may have: readable durations for the
times and, in a toggled one, a truth value for the flag. -/
def IsSection (toggled : Bool) (given : Entries) : Prop :=
  ∀ e ∈ given,
    (e.1 ∈ textPath [initialIntervalName, maxIntervalName, maxElapsedTimeName] ∧
        ∃ d, Duration.ofValue e.2 = .ok d) ∨
      (toggled = true ∧ e.1 = .str enabledName ∧ ∃ b, e.2 = .bool b)

/-- A configuration with a section of a name, or with nothing. -/
def sectionData (name : String) (given : Option Entries) : Value :=
  .map (given.map fun entries => (.str name, .map entries)).toList

/-- Whether a time is the one that a section gives under a name, else the default. -/
def IsTime (given : Entries) (name : String) (default d : Duration) : Prop :=
  match given.get? (.str name) with
  | some v => Duration.ofValue v = .ok d
  | none => d = default

/-- Whether a flag is the one that a section gives, else off. -/
def IsFlag (given : Entries) (enabled : Bool) : Prop :=
  match given.get? (.str enabledName) with
  | some v => v = .bool enabled
  | none => enabled = false

/-- Whether a policy has the times of a section, those of the template for the ones that are not
given, and is as the standard policy otherwise. -/
structure IsPolicyOf (given : Entries) (template : Option Policy) (p : Policy) : Prop where
  initial : IsTime given initialIntervalName (defaultTimes template).1 p.initialInterval
  longest : IsTime given maxIntervalName (defaultTimes template).2.1 p.maxInterval
  elapsed : IsTime given maxElapsedTimeName (defaultTimes template).2.2 p.maxElapsedTime
  multiplier : p.multiplier = Policy.standard.multiplier
  randomizationFactor : p.randomizationFactor = Policy.standard.randomizationFactor

/-! ## The children of the field -/

theorem exists_isTime {toggled : Bool} {given : Entries} (h : IsSection toggled given)
    (name : String) (hname : name ≠ enabledName) (default : Duration) :
    ∃ d, IsTime given name default d := by
  unfold IsTime
  split
  · next v hv =>
      obtain ⟨e, he, hkey, rfl⟩ := Entries.exists_of_get? hv
      rcases h e he with ⟨-, d, hd⟩ | ⟨-, henabled, -⟩
      · exact ⟨d, hd⟩
      · rw [henabled] at hkey
        exact absurd hkey (by simpa using hname.symm)
  · exact ⟨default, rfl⟩

theorem exists_isPolicyOf {toggled : Bool} {given : Entries} (h : IsSection toggled given)
    (template : Option Policy) : ∃ p, IsPolicyOf given template p := by
  obtain ⟨initial, hinitial⟩ :=
    exists_isTime h initialIntervalName (by decide) (defaultTimes template).1
  obtain ⟨longest, hlongest⟩ :=
    exists_isTime h maxIntervalName (by decide) (defaultTimes template).2.1
  obtain ⟨elapsed, helapsed⟩ :=
    exists_isTime h maxElapsedTimeName (by decide) (defaultTimes template).2.2
  exact ⟨⟨initial, longest, elapsed, _, _⟩, hinitial, hlongest, helapsed, rfl, rfl⟩

theorem exists_isFlag {toggled : Bool} {given : Entries} (h : IsSection toggled given) :
    ∃ enabled, IsFlag given enabled := by
  unfold IsFlag
  split
  · next v hv =>
      obtain ⟨e, he, hkey, rfl⟩ := Entries.exists_of_get? hv
      rcases h e he with ⟨hkey', -⟩ | ⟨-, -, hb⟩
      · rw [hkey] at hkey'
        simp [enabledName, initialIntervalName, maxIntervalName, maxElapsedTimeName] at hkey'
      · exact hb
  · exact ⟨false, rfl⟩

/-- A duration field with a default takes the time that is given, else the default. -/
theorem resolvedTo_time {model literal : String} {given : Entries} {info : FieldInfo}
    {default d : Duration} (hdefault : info.defaultValue = some (.str literal))
    (hliteral : Duration.ofText literal = .ok default) (hd : IsTime given info.name default d) :
    Field.ResolvedTo model given (.scalar info .duration) (.str info.name, .duration d) := by
  refine ⟨rfl, ?_⟩
  have haccept {v : Value} (hv : Duration.ofValue v = .ok d) :
      Field.accept model v (.scalar info .duration) = .ok (.duration d) := by
    refine Field.accept_scalar_eq_ok_iff.2 (.inr ⟨?_, ?_⟩)
    · simp [Field.isNullable, Field.hasDefault, Field.info, hdefault]
    · simp [ScalarKind.convert, hv]
  cases hget : given.get? (.str info.name) with
  | some v =>
      rw [IsTime, hget] at hd
      exact ⟨v, by simp [Field.source?, hget], haccept hd⟩
  | none =>
      rw [IsTime, hget] at hd
      subst hd
      exact ⟨.str literal, by simp [Field.source?, hget, Field.standIn?, Field.info, hdefault],
        haccept hliteral⟩

theorem resolvedTo_flag {model : String} {given : Entries} {enabled : Bool}
    (h : IsFlag given enabled) :
    Field.ResolvedTo model given flagField (.str enabledName, .bool enabled) := by
  refine ⟨rfl, .bool enabled, ?_, rfl⟩
  cases hget : given.get? (.str enabledName) with
  | some v =>
      rw [IsFlag, hget] at h
      subst h
      simp [Field.source?, flagField, hget]
  | none =>
      rw [IsFlag, hget] at h
      subst h
      simp [Field.source?, flagField, hget, Field.standIn?, Field.info]

/-- The entries that the section of a policy resolves to. -/
def resolvedSection (toggled : Bool) (p : Policy) (enabled : Bool) : Entries :=
  let times : Entries :=
    [(.str initialIntervalName, .duration p.initialInterval),
      (.str maxIntervalName, .duration p.maxInterval),
      (.str maxElapsedTimeName, .duration p.maxElapsedTime)]
  if toggled then (.str enabledName, .bool enabled) :: times else times

theorem isDeclared_of_isSection {toggled allowUnbounded : Bool} {template : Option Policy}
    {given : Entries} (h : IsSection toggled given) :
    ∀ e ∈ given, Field.IsDeclared (children toggled allowUnbounded template) e.1 := by
  have hdeclared {name : String}
      (hname : name ∈ (children toggled allowUnbounded template).map Field.name) :
      Field.IsDeclared (children toggled allowUnbounded template) (.str name) := by
    obtain ⟨f, hf, rfl⟩ := List.mem_map.1 hname
    exact ⟨f, hf, rfl⟩
  intro e he
  rcases h e he with ⟨hkey, -⟩ | ⟨rfl, hkey, -⟩
  · obtain ⟨name, hname, hkey⟩ := List.mem_map.1 hkey
    rw [← hkey]
    rw [← name_timeFields allowUnbounded template] at hname
    cases toggled with
    | false => exact hdeclared hname
    | true => exact hdeclared (List.mem_cons_of_mem _ hname)
  · rw [hkey]
    exact hdeclared List.mem_cons_self

theorem resolves_children {toggled allowUnbounded enabled : Bool} {template : Option Policy}
    {given : Entries} {p : Policy} (model : String) (hgiven : IsSection toggled given)
    (hp : IsPolicyOf given template p) (henabled : IsFlag given enabled) :
    Field.Resolves model (children toggled allowUnbounded template) given
      (resolvedSection toggled p enabled) := by
  obtain ⟨hinitial, hlongest, helapsed⟩ := ofText_defaultLiterals template
  refine ⟨?_, isDeclared_of_isSection hgiven⟩
  have htimes : List.Forall₂ (Field.ResolvedTo model given) (timeFields allowUnbounded template)
      (resolvedSection false p enabled) := by
    refine .cons ?_ (.cons ?_ (.cons ?_ .nil))
    · exact resolvedTo_time rfl hinitial hp.initial
    · exact resolvedTo_time rfl hlongest hp.longest
    · cases allowUnbounded
      · exact resolvedTo_time rfl helapsed hp.elapsed
      · exact resolvedTo_time rfl helapsed hp.elapsed
  cases toggled with
  | false => exact htimes
  | true => exact .cons (resolvedTo_flag henabled) htimes

/-! ## The field as a whole -/

theorem standIn?_shape (toggled allowUnbounded : Bool) (name : String)
    (template : Option Policy) :
    (shape toggled name allowUnbounded template).standIn? = some (.map []) := by
  cases toggled <;> cases allowUnbounded <;> rfl

theorem source?_shape (toggled allowUnbounded : Bool) (name : String)
    (template : Option Policy) (given : Option Entries) :
    (shape toggled name allowUnbounded template).source?
        (given.map fun entries => (.str name, .map entries)).toList =
      some (.map (given.getD [])) := by
  cases given with
  | none => simp [Field.source?, standIn?_shape]
  | some entries => simp [Field.source?, shape]

theorem parse_sectionData {toggled allowUnbounded enabled : Bool} {name : String}
    {template : Option Policy} {given : Option Entries} {p : Policy}
    (hgiven : IsSection toggled (given.getD [])) (hp : IsPolicyOf (given.getD []) template p)
    (henabled : IsFlag (given.getD []) enabled) :
    (Schema.mk [shape toggled name allowUnbounded template]).parse (sectionData name given) false =
      .ok (.ofEntries [(.str name, .map (resolvedSection toggled p enabled))]) := by
  refine Schema.parse_eq_ok_iff.2 ⟨_, Schema.resolve_eq_ok_iff.2 ⟨_, rfl, ?_, ?_⟩, by simp, rfl⟩
  · refine .cons ⟨rfl, _, source?_shape .., ?_⟩ .nil
    exact Field.accept_object_eq_ok_iff.2
      (.inr ⟨_, _, rfl, resolves_children _ hgiven hp henabled, rfl⟩)
  · cases given <;> simp [Field.IsDeclared, shape]

theorem readTimes_resolvedSection (toggled enabled : Bool) (name : String) {given : Entries}
    {template : Option Policy} {p : Policy} (hp : IsPolicyOf given template p) :
    (readTimes (.ofEntries [(.str name, .map (resolvedSection toggled p enabled))])
      (textPath [name])).result = .ok p := by
  refine readTimes_eq_ok_iff.2 ⟨?_, ?_, ?_, hp.multiplier, hp.randomizationFactor⟩
  all_goals
    refine Accessor.duration_eq_ok_iff.2 ⟨_, ?_, Duration.ofValue_duration _⟩
    cases toggled <;>
      simp [resolvedSection, Accessor.toValue, Accessor.ofEntries, enabledName,
        initialIntervalName, maxIntervalName, maxElapsedTimeName]

/-- A backoff field can be declared under every name that is not blank.  As the only field of a
schema it accepts every section, or none, and the policy that is extracted has exactly the times
that the section gives and the template's for those it does not give. -/
theorem extract_parse_newField (toggled allowUnbounded : Bool) (name : String)
    (template : Option Policy) (given : Option Entries) (hname : Text.isBlankText name = false)
    (hgiven : IsSection toggled (given.getD [])) :
    ∃ f s a p, newField toggled (.str name) allowUnbounded template = .ok f ∧
      Schema.ofCandidates [.field f] = .ok s ∧ s.parse (sectionData name given) false = .ok a ∧
      IsPolicyOf (given.getD []) template p ∧ (extract a [.str name]).result = .ok p ∧
      (toggled = true → ∃ enabled, IsFlag (given.getD []) enabled ∧
        (extractToggled a [.str name]).result = .ok (p, enabled)) := by
  obtain ⟨p, hp⟩ := exists_isPolicyOf hgiven template
  obtain ⟨enabled, henabled⟩ := exists_isFlag hgiven
  have htimes := readTimes_resolvedSection toggled enabled name hp
  refine ⟨shape toggled name allowUnbounded template,
    ⟨[shape toggled name allowUnbounded template]⟩, _, p,
    newField_eq_ok_iff.2 ⟨name, rfl, hname, rfl⟩, rfl, parse_sectionData hgiven hp henabled, hp,
    extract_eq_ok_iff.2 htimes, fun htoggled ↦ ?_⟩
  subst htoggled
  refine ⟨enabled, henabled, extractToggled_eq_ok_iff.2 ⟨?_, htimes⟩⟩
  simp [Accessor.bool_eq_ok_iff, resolvedSection, Accessor.toValue, Accessor.ofEntries]

/-- A section that turns retries on and gives one of the times. -/
def halfDayCutOff : Entries :=
  [(.str enabledName, .bool true),
    (.str maxElapsedTimeName, .duration ⟨43200000000, by decide⟩)]

theorem isSection_halfDayCutOff : IsSection true halfDayCutOff := by
  intro e he
  simp only [halfDayCutOff, List.mem_cons, List.not_mem_nil, or_false] at he
  rcases he with rfl | rfl
  · exact .inr ⟨rfl, rfl, true, rfl⟩
  · exact .inl ⟨by simp, _, rfl⟩

theorem extract_parse_halfDayCutOff :
    Text.isBlankText "retry" = false ∧ IsSection true halfDayCutOff ∧
      ∃ f s a p, newField true (.str "retry") false none = .ok f ∧
        Schema.ofCandidates [.field f] = .ok s ∧
        s.parse (sectionData "retry" (some halfDayCutOff)) false = .ok a ∧
        p.maxInterval = ⟨10000000, by decide⟩ ∧ p.maxElapsedTime = ⟨43200000000, by decide⟩ ∧
        (extractToggled a [.str "retry"]).result = .ok (p, true) := by
  obtain ⟨f, s, a, p, hf, hs, ha, hp, -, htoggled⟩ := extract_parse_newField true false "retry"
    none (some halfDayCutOff) (by decide) isSection_halfDayCutOff
  obtain ⟨enabled, henabled, hextract⟩ := htoggled rfl
  have hlongest : p.maxInterval = ⟨10000000, by decide⟩ := hp.longest
  have helapsed : Duration.ofValue (.duration ⟨43200000000, by decide⟩) = .ok p.maxElapsedTime :=
    hp.elapsed
  have hflag : Value.bool true = .bool enabled := henabled
  cases hflag
  exact ⟨by decide, isSection_halfDayCutOff, f, s, a, p, hf, hs, ha, hlongest,
    (Except.ok.inj helapsed).symm, hextract⟩

end Settings.Backoff
