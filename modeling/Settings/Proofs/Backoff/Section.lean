import Settings.Proofs.Backoff.Relaxing
import Settings.Proofs.Backoff.RoundTrip
import Settings.Proofs.Schema.Section

/-!
# Backoff fields inside objects

A backoff field makes the same of its section wherever it lies.  Whatever it accepts, a policy can
be extracted from, and the only failures it can end in are issues and numbers that are too large.
-/

namespace Settings.Backoff

open Settings.Field

variable {toggled allowUnbounded : Bool} {name : String} {template : Option Policy}

/-! ## Apart from what lies around -/

/-- Fields that are no objects have no model of their own that their issues could name. -/
theorem acceptAll_of_scalars {fields : List Field} (h : ∀ f ∈ fields, f.isObject = false)
    (model model' : String) (input : Entries) (i : Nat) :
    acceptAll model input i fields = acceptAll model' input i fields := by
  induction fields generalizing i with
  | nil => rfl
  | cons f fields ih =>
      have hrest := ih (fun g hg ↦ h g (List.mem_cons_of_mem _ hg)) (i + 1)
      cases f with
      | object => exact absurd (h _ List.mem_cons_self) (by simp [isObject])
      | scalar info kind =>
          have hfirst : acceptSource model input i (.scalar info kind) =
              acceptSource model' input i (.scalar info kind) := by
            simp only [acceptSource, accept]
          rw [acceptAll_cons, acceptAll_cons, hrest, hfirst]

theorem detachable_shape (toggled : Bool) (name : String) (allowUnbounded : Bool)
    (template : Option Policy) : (shape toggled name allowUnbounded template).Detachable where
  isObject := rfl
  standIn := standIn?_shape ..
  accepted := by
    have hempty : IsSection toggled [] := by
      intro e he
      cases he
    obtain ⟨p, hp⟩ := exists_isPolicyOf hempty template
    obtain ⟨enabled, henabled⟩ := exists_isFlag hempty
    have hresolves : Resolves (rootModel ++ camelName name)
        (children toggled allowUnbounded template) [] (resolvedSection toggled p enabled) :=
      resolves_children _ hempty hp henabled
    exact ⟨_, accept_object_eq_ok_iff.2 (.inr ⟨[], _, rfl, hresolves, rfl⟩)⟩
  owner owner part := by
    rw [shape, accept_object_map, accept_object_map,
      acceptAll_of_scalars (isObject_children _ _ _) _ (rootModel ++ camelName name)]

/-- A backoff field below object fields that hold nothing else. -/
def Plan.nested (parents : List String) (toggled : Bool) (name : String)
    (template : Option Policy) : Plan :=
  parents.foldr (fun parent inner => .object parent [] inner []) (.backoff toggled name template)

theorem Plan.schema_nested {parents : List String}
    (h : ∀ segment ∈ parents ++ [name], Text.isBlankText segment = false) :
    (nested parents toggled name template).schema allowUnbounded [] [] =
      .ok ⟨[(shape toggled name allowUnbounded template).nest parents]⟩ := by
  have hbuild : (nested parents toggled name template).build allowUnbounded =
      .ok ((shape toggled name allowUnbounded template).nest parents) := by
    induction parents with
    | nil => exact newField_eq_ok_iff.2 ⟨name, rfl, h name (by simp), rfl⟩
    | cons parent parents ih =>
        rw [List.cons_append, List.forall_mem_cons] at h
        refine bind_eq_ok_iff.2 ⟨_, ih h.2, newObject_eq_ok_iff.2 ?_⟩
        exact ⟨parent, [_], rfl, h.1, rfl, by simp, rfl⟩
  exact bind_eq_ok_iff.2 ⟨_, hbuild, rfl⟩

/-! ## What is extracted -/

/-- Whether a policy can be extracted at a path, together with the flag if there is one. -/
def Extracts (toggled : Bool) (a : Accessor) (path : List Value) (p : Policy) (enabled : Bool) :
    Prop :=
  if toggled then (extractToggled a path).result = .ok (p, enabled)
  else (extract a path).result = .ok p ∧ enabled = true

theorem readTimes_congr {a b : Accessor} {path path' : List Value}
    (h : ∀ key, a.toValue.at? (path ++ [key]) = b.toValue.at? (path' ++ [key])) {p : Policy} :
    (readTimes a path).result = .ok p ↔ (readTimes b path').result = .ok p := by
  simp only [readTimes_eq_ok_iff, Accessor.duration_eq_ok_iff, h]

theorem Extracts.congr {a b : Accessor} {path path' : List String}
    (h : ∀ key, a.toValue.at? (textPath path ++ [key]) = b.toValue.at? (textPath path' ++ [key]))
    {p : Policy} {enabled : Bool} :
    Extracts toggled a (textPath path) p enabled ↔
      Extracts toggled b (textPath path') p enabled := by
  cases toggled with
  | false => simp [Extracts, extract_eq_ok_iff, readTimes_congr h]
  | true => simp [Extracts, extractToggled_eq_ok_iff, Accessor.bool_eq_ok_iff, readTimes_congr h, h]

theorem exists_readTimes {a : Accessor} {path : List String} {values : Entries}
    (hvalues : a.toValue.at? (textPath path) = some (.map values))
    (htimes : ∀ name ∈ timeNames, ∃ d, values.get? (.str name) = some (.duration d)) :
    ∃ p, (readTimes a (textPath path)).result = .ok p := by
  have hread (name : String) (hname : name ∈ timeNames) :
      ∃ d, a.duration (textPath path ++ [.str name]) = .ok d := by
    obtain ⟨d, hd⟩ := htimes name hname
    have hat : a.toValue.at? (textPath path ++ [.str name]) = some (.duration d) :=
      Value.at?_concat_eq_some_iff.2 ⟨values, hvalues, hd⟩
    exact ⟨d, Accessor.duration_eq_ok_iff.2 ⟨_, hat, Duration.ofValue_duration d⟩⟩
  obtain ⟨initial, hinitial⟩ := hread initialIntervalName (by simp [timeNames])
  obtain ⟨longest, hlongest⟩ := hread maxIntervalName (by simp [timeNames])
  obtain ⟨elapsed, helapsed⟩ := hread maxElapsedTimeName (by simp [timeNames])
  exact ⟨⟨initial, longest, elapsed, _, _⟩,
    readTimes_eq_ok_iff.2 ⟨hinitial, hlongest, helapsed, rfl, rfl⟩⟩

theorem exists_flag {owner : String} {v : Value} {values : Entries}
    (h : accept owner v (shape true name allowUnbounded template) = .ok (.map values)) :
    ∃ b, values.get? (.str enabledName) = some (.bool b) := by
  obtain ⟨w, hw, b, rfl⟩ := exists_holds h (nodup_names_children ..) List.mem_cons_self rfl
  exact ⟨b, hw⟩

/-- The section of a schema that consists of a backoff field only, among the resolved entries. -/
theorem exists_accepted_shape {data : Value} {es : Entries}
    (h : (Schema.mk [shape toggled name allowUnbounded template]).resolve data = .ok es) :
    ∃ v values, accept rootModel v (shape toggled name allowUnbounded template) =
        .ok (.map values) ∧ es.get? (.str name) = some (.map values) := by
  obtain ⟨v, w, hw, hget⟩ := Schema.exists_accepted h (by simp) List.mem_cons_self
  rcases accept_object_eq_ok_iff.1 hw with ⟨hnull, -⟩ | ⟨input, values, -, -, rfl⟩
  · cases hnull
  · exact ⟨v, values, hw, hget⟩

theorem exists_extracts {data : Value} {lint : Bool} {a : Accessor}
    (h : (Schema.mk [shape toggled name allowUnbounded template]).parse data lint = .ok a) :
    ∃ p enabled, Extracts toggled a (textPath [name]) p enabled := by
  obtain ⟨es, hes, -, rfl⟩ := Schema.parse_eq_ok_iff.1 h
  obtain ⟨v, values, hv, hget⟩ := exists_accepted_shape hes
  have hvalues : (Accessor.ofEntries es).toValue.at? (textPath [name]) = some (.map values) := by
    simp [Accessor.toValue, Accessor.ofEntries, hget]
  obtain ⟨p, hp⟩ := exists_readTimes hvalues fun name hname ↦ exists_time hv hname
  cases toggled with
  | false => exact ⟨p, true, extract_eq_ok_iff.2 hp, rfl⟩
  | true =>
      obtain ⟨enabled, hb⟩ := exists_flag hv
      refine ⟨p, enabled, extractToggled_eq_ok_iff.2 ⟨Accessor.bool_eq_ok_iff.2 ?_, hp⟩⟩
      exact Value.at?_concat_eq_some_iff.2 ⟨values, hvalues, hb⟩

/-! ## How parsing fails -/

/-- The rule of a backoff field is only ever run on a duration, so that it does not fail. -/
theorem exists_findings {data : Value} {es : Entries}
    (h : (Schema.mk [shape toggled name allowUnbounded template]).resolve data = .ok es) :
    ∃ found, (Schema.mk [shape toggled name allowUnbounded template]).findings es = .ok found := by
  obtain ⟨v, values, hv, hget⟩ := exists_accepted_shape h
  obtain ⟨d, hd⟩ := exists_elapsed hv
  have hrules : ∃ found,
      rulesIssues [name] values (if allowUnbounded then [] else [boundedRule]) = .ok found := by
    cases allowUnbounded with
    | true => exact ⟨[], rfl⟩
    | false =>
        rw [if_neg (by decide), rulesIssues, issues_boundedRule hd]
        exact ⟨_, rfl⟩
  obtain ⟨found, hfound⟩ := hrules
  have hlint : lint [name] (.map values) (shape toggled name allowUnbounded template) =
      .ok found := by
    rw [shape, lint, hfound, lintAll_of_scalars (isObject_children _ _ _)]
    exact congrArg Except.ok (List.append_nil found)
  have hentry : lintEntry [] es (shape toggled name allowUnbounded template) = .ok found := by
    rw [lintEntry, shape, name_object, hget]
    exact hlint
  refine ⟨found, ?_⟩
  rw [Schema.findings, lintAll_cons, hentry]
  exact congrArg Except.ok (List.append_nil found)

theorem parse_error_cases {data : Value} {lint : Bool} {e : ParseError}
    (h : (Schema.mk [shape toggled name allowUnbounded template]).parse data lint = .error e) :
    (∃ is, e = .issues is) ∨ ∃ cause, e = .duration cause ∧ cause.isRefusal = false :=
  Schema.parse_error_cases (fun _ hes ↦ exists_findings hes) h

end Settings.Backoff
