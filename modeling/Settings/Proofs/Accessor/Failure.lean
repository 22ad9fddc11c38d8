import Settings.Proofs.Accessor.Descent
import Settings.Proofs.Double.Range
import Settings.Proofs.Duration.Recognition

/-!
# What failed reads name

A read gives a value of the type that is asked for, or it fails and names a place: the path itself,
or on the way there the first segment below a value that is no map.  Only a number that is too
large, for a float or on the way to a duration, ends a read without a place.
-/

namespace Settings.Accessor

/-- What a failure says about the path that was read. -/
inductive Locates (a : Accessor) (path : List Value) : AccessError → Prop where
  | atPath {reason : AccessError.Reason} (h : reason ≠ .parentNotObject) :
      Locates a path ⟨a.path ++ path, reason⟩
  | belowNonMap {front rest : List Value} {key v : Value} (hpath : path = front ++ key :: rest)
      (hv : a.toValue.at? front = some v) (hmap : ∀ entries, v ≠ .map entries) :
      Locates a path ⟨a.path ++ (front ++ [key]), .parentNotObject⟩

/-- Whether a read gives the values that `Holds` tells of, and locates its failures. -/
structure Answers (a : Accessor) (path : List Value) (Holds : α → Prop)
    (result : Except AccessError α) : Prop where
  ok_iff : ∀ x, result = .ok x ↔ Holds x
  located : ∀ e, result = .error e → Locates a path e

/-- The same of a read that can also break off, with the errors that `Breaks` tells of. -/
structure AnswersOrBreaks (a : Accessor) (path : List Value) (Holds : α → Prop)
    (Breaks : ReadError → Prop) (result : Except ReadError α) : Prop where
  ok_iff : ∀ x, result = .ok x ↔ Holds x
  located : ∀ e, result = .error (.access e) → Locates a path e
  breaks_iff : ∀ e, (∀ e', e ≠ .access e') → (result = .error e ↔ Breaks e)

section

variable {a : Accessor} {path : List Value} {e : AccessError}

/-- A descent that starts at the value behind `done` fails on the way to `done ++ path`. -/
theorem locates_of_descend {done : List Value} {v : Value} (hv : a.toValue.at? done = some v)
    (h : descend a.path done v path = .error e) : Locates a (done ++ path) e := by
  induction path generalizing done v with
  | nil => cases h
  | cons key rest ih =>
      cases v with
      | map entries =>
          rw [descend] at h
          cases hkey : Entries.get? entries key with
          | none =>
              rw [hkey] at h
              cases h
              rw [List.append_assoc]
              exact .atPath (by simp)
          | some w =>
              rw [hkey] at h
              rw [List.append_cons]
              exact ih (Value.at?_concat_eq_some_iff.2 ⟨entries, hv, hkey⟩) h
      | _ =>
          cases h
          rw [List.append_assoc]
          exact .belowNonMap rfl hv (by simp)

theorem locates_of_lookup (h : a.lookup path = .error e) : Locates a path e :=
  locates_of_descend (Value.at?_nil _) h

theorem locates_of_lookupSet (h : a.lookupSet path = .error e) : Locates a path e := by
  rw [lookupSet] at h
  split at h
  · next e' he' =>
      cases h
      exact locates_of_lookup he'
  · cases h
    exact .atPath (by simp)
  · cases h

/-- A read that goes on with the value at the path locates its failures if all that comes after the
descent is laid to the path. -/
theorem Answers.of_bind {k : Value → Except AccessError α} {Holds : α → Prop}
    (hok : ∀ x, (a.lookupSet path >>= k) = .ok x ↔ Holds x)
    (hk : ∀ v e, k v = .error e → ∃ reason, reason ≠ .parentNotObject ∧ e = a.fail path reason) :
    Answers a path Holds (a.lookupSet path >>= k) := by
  refine ⟨hok, fun e he ↦ ?_⟩
  cases hset : a.lookupSet path with
  | error e' =>
      rw [hset, error_bind] at he
      cases he
      exact locates_of_lookupSet hset
  | ok v =>
      rw [hset, ok_bind] at he
      obtain ⟨reason, hreason, rfl⟩ := hk v e he
      exact .atPath hreason

/-- The ends of a read that can break off. -/
inductive Ends (a : Accessor) (path : List Value) (Holds : α → Prop) (Breaks : ReadError → Prop) :
    Except ReadError α → Prop where
  | value {x : α} (h : Holds x) : Ends a path Holds Breaks (.ok x)
  | failed {e : AccessError} (h : Locates a path e) : Ends a path Holds Breaks (.error (.access e))
  | broken {e : ReadError} (hplace : ∀ e', e ≠ .access e') (h : Breaks e) :
      Ends a path Holds Breaks (.error e)

/-- What the ends tell of is all there is, if there is only one end in each case. -/
theorem Ends.answersOrBreaks {Holds : α → Prop} {Breaks : ReadError → Prop}
    {result : Except ReadError α} (h : Ends a path Holds Breaks result)
    (hvalue : ∀ x, Holds x → result = .ok x) (hbreaks : ∀ e, Breaks e → result = .error e) :
    AnswersOrBreaks a path Holds Breaks result := by
  refine ⟨fun x ↦ ⟨fun hx ↦ ?_, hvalue x⟩, fun e he ↦ ?_, fun e hplace ↦ ⟨fun he ↦ ?_, hbreaks e⟩⟩
  · rw [hx] at h
    cases h with
    | value hholds => exact hholds
  · rw [he] at h
    cases h with
    | failed hlocates => exact hlocates
    | broken hplace _ => exact absurd rfl (hplace e)
  · rw [he] at h
    cases h with
    | failed _ => exact absurd rfl (hplace _)
    | broken _ hbreak => exact hbreak

/-! ## Durations -/

/-- The text at the path starts with terms that are too large. -/
inductive OverflowsAt (a : Accessor) (path : List Value) : ReadError → Prop where
  | literal {s : String} (hs : a.toValue.at? path = some (.str s))
      (hlarge : Duration.StartsTooLarge (Text.strip s)) :
      OverflowsAt a path (.overflow (.literal s .overflow))

theorem duration_of_ofValue_eq_error {v : Value} {cause : DurationError}
    (hset : a.lookupSet path = .ok v) (hv : Duration.ofValue v = .error cause) :
    a.duration path =
      .error (if cause.isRefusal then .access (a.fail path (.duration cause))
        else .overflow cause) := by
  have hread : (a.lookupSet path).mapError ReadError.access = .ok v := by
    rw [hset]
    rfl
  rw [duration, hread, ok_bind, hv]
  rfl

theorem duration_of_lookupSet_eq_error (h : a.lookupSet path = .error e) :
    a.duration path = .error (.access e) := by
  rw [duration, h]
  rfl

theorem ends_duration (a : Accessor) (path : List Value) :
    Ends a path (fun d ↦ ∃ v, a.toValue.at? path = some v ∧ Duration.ofValue v = .ok d)
      (OverflowsAt a path) (a.duration path) := by
  cases hset : a.lookupSet path with
  | error e =>
      rw [duration_of_lookupSet_eq_error hset]
      exact .failed (locates_of_lookupSet hset)
  | ok v =>
      obtain ⟨hat, -⟩ := lookupSet_eq_ok_iff.1 hset
      cases hv : Duration.ofValue v with
      | ok d =>
          rw [duration_eq_ok_iff.2 ⟨v, hat, hv⟩]
          exact .value ⟨v, hat, hv⟩
      | error cause =>
          rw [duration_of_ofValue_eq_error hset hv]
          cases hcause : cause.isRefusal with
          | true => exact .failed (.atPath (by simp))
          | false =>
              obtain ⟨s, rfl, hlarge, rfl⟩ := Duration.startsTooLarge_of_not_isRefusal hv hcause
              exact .broken (by simp) (.literal hat hlarge)

theorem duration_of_overflowsAt {e : ReadError} (h : OverflowsAt a path e) :
    a.duration path = .error e := by
  obtain ⟨hs, hlarge⟩ := h
  exact duration_of_ofValue_eq_error (lookupSet_eq_ok_iff.2 ⟨hs, by simp⟩)
    (Duration.ofValue_of_startsTooLarge hlarge)

/-! ## Floats -/

/-- The float that a value reads as: itself, or the nearest one to an integer. -/
inductive ReadsAsFloat : Value → Float → Prop where
  | float (x : Float) : ReadsAsFloat (.float x) x
  | int {n : Int} {x : Float} (h : Double.ofInt? n = some x) : ReadsAsFloat (.int n) x

/-- There is an integer at the path that no float is near. -/
inductive TooLargeAt (a : Accessor) (path : List Value) : ReadError → Prop where
  | int {n : Int} (hn : a.toValue.at? path = some (.int n)) (hlarge : Double.limit ≤ n.natAbs) :
      TooLargeAt a path .integerTooLarge

theorem ends_float (a : Accessor) (path : List Value) :
    Ends a path (fun x ↦ ∃ v, a.toValue.at? path = some v ∧ ReadsAsFloat v x) (TooLargeAt a path)
      (a.float path) := by
  rw [float]
  cases hset : a.lookupSet path with
  | error e => exact .failed (locates_of_lookupSet hset)
  | ok v =>
      obtain ⟨hv, -⟩ := lookupSet_eq_ok_iff.1 hset
      cases v with
      | float x => exact .value ⟨_, hv, .float x⟩
      | int n =>
          cases hn : Double.ofInt? n with
          | some x =>
              simp only [hn]
              exact .value ⟨_, hv, .int hn⟩
          | none =>
              simp only [hn]
              exact .broken (by simp) (.int hv (Double.ofInt?_eq_none_iff.1 hn))
      | _ => exact .failed (.atPath AccessError.Reason.noConfusion)

theorem float_of_readsAsFloat {v : Value} {x : Float} (hv : a.toValue.at? path = some v)
    (hx : ReadsAsFloat v x) : a.float path = .ok x := by
  cases hx with
  | float x => exact float_of_at? hv
  | int hn =>
      rw [float, lookupSet_eq_ok_iff.2 ⟨hv, by simp⟩]
      simp only [hn]

theorem float_of_tooLargeAt {e : ReadError} (h : TooLargeAt a path e) :
    a.float path = .error e := by
  obtain ⟨hn, hlarge⟩ := h
  rw [float, lookupSet_eq_ok_iff.2 ⟨hn, by simp⟩]
  simp only [Double.ofInt?_eq_none_iff.2 hlarge]

end

/-! ## All reads -/

/-- What the reads of a path give, and what they name where they fail. -/
structure ReadsOrLocates (a : Accessor) (path : List Value) : Prop where
  raw : Answers a path (fun v ↦ a.toValue.at? path = some v) (a.raw path)
  enter : Answers a path
    (fun b ↦ ∃ entries, a.toValue.at? path = some (.map entries) ∧ b = ⟨a.path ++ path, entries⟩)
    (a.enter path)
  duration : AnswersOrBreaks a path
    (fun d ↦ ∃ v, a.toValue.at? path = some v ∧ Duration.ofValue v = .ok d) (OverflowsAt a path)
    (a.duration path)
  bool : Answers a path (fun b ↦ a.toValue.at? path = some (.bool b)) (a.bool path)
  string : Answers a path (fun s ↦ a.toValue.at? path = some (.str s)) (a.string path)
  int : Answers a path (fun n ↦ a.toValue.at? path = some (.int n)) (a.int path)
  float : AnswersOrBreaks a path (fun x ↦ ∃ v, a.toValue.at? path = some v ∧ ReadsAsFloat v x)
    (TooLargeAt a path) (a.float path)

/-- A read gives a value of its type or names the place at fault.  The two other ends are that of an
integer in the place of a float, from half a unit above the largest double on, and that of a text in
the place of a duration that starts with terms too large for a decimal number. -/
theorem reads_or_locates (a : Accessor) (path : List Value) : ReadsOrLocates a path where
  raw := ⟨fun _ ↦ lookup_eq_ok_iff, fun _ ↦ locates_of_lookup⟩
  enter := by
    refine .of_bind (fun b ↦ enter_eq_ok_iff) fun v e he ↦ ?_
    cases v with
    | map entries => cases he
    | _ =>
        cases he
        exact ⟨.notObject, by simp, rfl⟩
  duration := (ends_duration a path).answersOrBreaks (fun _ ↦ duration_eq_ok_iff.2)
    fun _ ↦ duration_of_overflowsAt
  bool := by
    refine .of_bind (fun b ↦ bool_eq_ok_iff) fun v e he ↦ ?_
    cases v with
    | bool b => cases he
    | _ =>
        cases he
        exact ⟨.wrongType .., by simp, rfl⟩
  string := by
    refine .of_bind (fun s ↦ string_eq_ok_iff) fun v e he ↦ ?_
    cases v with
    | str s => cases he
    | _ =>
        cases he
        exact ⟨.wrongType .., by simp, rfl⟩
  int := by
    refine .of_bind (fun n ↦ int_eq_ok_iff) fun v e he ↦ ?_
    cases v with
    | int n => cases he
    | _ =>
        cases he
        exact ⟨.wrongType .., by simp, rfl⟩
  float := by
    apply (ends_float a path).answersOrBreaks
    · rintro x ⟨v, hv, hx⟩
      exact float_of_readsAsFloat hv hx
    · intro e
      exact float_of_tooLargeAt

/-- The least number that is too large. -/
def largeNumber : Accessor := ofEntries [(.str "n", .int Double.limit)]

/-- The read of the number ends neither in a float nor in a failure that names a place. -/
theorem float_largeNumber :
    (∀ x, largeNumber.float (textPath ["n"]) ≠ .ok x) ∧
      ∀ e, largeNumber.float (textPath ["n"]) ≠ .error (.access e) := by
  have hread : largeNumber.float (textPath ["n"]) = .error .integerTooLarge :=
    float_of_tooLargeAt (.int rfl (Int.natAbs_natCast _).ge)
  rw [hread]
  constructor
  · rintro x ⟨⟩
  · rintro e ⟨⟩

end Settings.Accessor
