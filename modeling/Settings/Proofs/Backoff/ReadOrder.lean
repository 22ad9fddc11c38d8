import Settings.Proofs.Backoff.Extraction

/-!
# The reads of an extraction

A policy is extracted by reading its times in a fixed order.  The first read that fails is the last
one made, and its error is the result.  A policy that can be switched off is the same extraction
behind the read of its flag.
-/

namespace Settings.Backoff

/-- Where the times of a policy are read, in this order. -/
def timePaths (path : List String) : List (List Value) :=
  [textPath (path ++ ["initial_interval"]), textPath (path ++ ["max_interval"]),
    textPath (path ++ ["max_elapsed_time"])]

def flagPath (path : List String) : List Value := textPath (path ++ ["enabled"])

/-- Of the durations at the paths, the one at `p` is the first that cannot be read. -/
def FailsFirst (a : Accessor) (paths before : List (List Value)) (p : List Value)
    (e : ReadError) : Prop :=
  before ++ [p] <+: paths ∧ (∀ q ∈ before, ∃ d, a.duration q = .ok d) ∧ a.duration p = .error e

namespace FailsFirst

variable {a : Accessor} {paths before : List (List Value)} {p q : List Value} {e : ReadError}

theorem head (h : a.duration p = .error e) : FailsFirst a (p :: paths) [] p e :=
  ⟨⟨paths, rfl⟩, by simp, h⟩

theorem cons {d : Duration} (hq : a.duration q = .ok d) (h : FailsFirst a paths before p e) :
    FailsFirst a (q :: paths) (q :: before) p e := by
  obtain ⟨hbefore, hread, hp⟩ := h
  refine ⟨(List.prefix_cons_inj q).2 hbefore, fun r hr ↦ ?_, hp⟩
  obtain rfl | hr := List.mem_cons.1 hr
  · exact ⟨d, hq⟩
  · exact hread r hr

end FailsFirst

section

variable {a : Accessor} {path : List Value}

theorem readDuration_bind_of_ok {d : Duration} (h : a.duration path = .ok d)
    (f : Duration → Traced α) :
    readDuration a path >>= f = ⟨.duration path :: (f d).reads, (f d).result⟩ := by
  have hresult : (readDuration a path).result = .ok d := by
    rw [readDuration, h]
    rfl
  exact Traced.bind_of_ok hresult f

theorem readDuration_bind_of_error {e : ReadError} (h : a.duration path = .error e)
    (f : Duration → Traced α) :
    readDuration a path >>= f = ⟨[.duration path], .error (.read e)⟩ := by
  have hresult : (readDuration a path).result = .error (.read e) := by
    rw [readDuration, h]
    rfl
  exact Traced.bind_of_error hresult f

end

/-! ## One policy -/

theorem readTimes_spec (a : Accessor) (path : List String) :
    (∃ before p e, FailsFirst a (timePaths path) before p e ∧
        readTimes a (textPath path) = ⟨(before ++ [p]).map .duration, .error (.read e)⟩) ∨
      ∃ initial longest elapsed,
        (timePaths path).map a.duration = [.ok initial, .ok longest, .ok elapsed] ∧
          readTimes a (textPath path) = ⟨(timePaths path).map .duration,
            .ok ⟨initial, longest, elapsed, 1.5, 0.5⟩⟩ := by
  have hpath (name : String) : textPath path ++ [.str name] = textPath (path ++ [name]) := by simp
  simp only [readTimes, hpath]
  -- The reads are taken in turn; the first failure ends the run.
  cases hinitial : a.duration (textPath (path ++ [initialIntervalName])) with
  | error e =>
      have hfirst : FailsFirst a (timePaths path) [] _ e := .head hinitial
      refine .inl ⟨_, _, e, hfirst, ?_⟩
      rw [readDuration_bind_of_error hinitial]
      rfl
  | ok initial =>
      rw [readDuration_bind_of_ok hinitial]
      cases hlongest : a.duration (textPath (path ++ [maxIntervalName])) with
      | error e =>
          have hfirst : FailsFirst a (timePaths path) _ _ e := .cons hinitial (.head hlongest)
          refine .inl ⟨_, _, e, hfirst, ?_⟩
          rw [readDuration_bind_of_error hlongest]
          rfl
      | ok longest =>
          rw [readDuration_bind_of_ok hlongest]
          cases helapsed : a.duration (textPath (path ++ [maxElapsedTimeName])) with
          | error e =>
              have hfirst : FailsFirst a (timePaths path) _ _ e :=
                .cons hinitial (.cons hlongest (.head helapsed))
              refine .inl ⟨_, _, e, hfirst, ?_⟩
              rw [readDuration_bind_of_error helapsed]
              rfl
          | ok elapsed =>
              have hall : (timePaths path).map a.duration =
                  [.ok initial, .ok longest, .ok elapsed] := by
                rw [← hinitial, ← hlongest, ← helapsed]
                rfl
              refine .inr ⟨initial, longest, elapsed, hall, ?_⟩
              rw [readDuration_bind_of_ok helapsed]
              rfl

/-! ## A policy and its flag -/

theorem append_enabledName (path : List String) :
    textPath path ++ [.str enabledName] = flagPath path := by
  simp [flagPath, enabledName]

theorem extractToggled_of_error {a : Accessor} {path : List String} {e : AccessError}
    (h : a.bool (flagPath path) = .error e) :
    extractToggled a (textPath path) = ⟨[.bool (flagPath path)], .error (.read (.access e))⟩ := by
  have hresult : (readBool a (flagPath path)).result = .error (.read (.access e)) := by
    rw [readBool, h]
    rfl
  rw [extractToggled, append_enabledName, Traced.bind_of_error hresult]
  rfl

theorem extractToggled_of_ok {a : Accessor} {path : List String} {enabled : Bool}
    (h : a.bool (flagPath path) = .ok enabled) :
    extractToggled a (textPath path) =
      ⟨.bool (flagPath path) :: (extract a (textPath path)).reads,
        (extract a (textPath path)).result.map (·, enabled)⟩ := by
  have hresult : (readBool a (flagPath path)).result = .ok enabled := by
    rw [readBool, h]
    rfl
  rw [extractToggled, append_enabledName, Traced.bind_of_ok hresult, extract_textPath]
  cases htimes : (readTimes a (textPath path)).result with
  | error e =>
      rw [Traced.bind_of_error htimes]
      rfl
  | ok p =>
      rw [Traced.bind_of_ok htimes, Traced.bind_of_ok (result_checkWritable path),
        checkWritable_textPath]
      simp [readBool, Pure.pure, Except.map]

/-- The times are read in order until one cannot be read, whose failure is the result; otherwise
the policy has the times read.  The extraction with a flag reads the flag first and is then the
same. -/
theorem extract_reads_in_order (a : Accessor) (path : List String) :
    ((∃ before p e, FailsFirst a (timePaths path) before p e ∧
          extract a (textPath path) = ⟨(before ++ [p]).map .duration, .error (.read e)⟩) ∨
        ∃ initial longest elapsed,
          (timePaths path).map a.duration = [.ok initial, .ok longest, .ok elapsed] ∧
            extract a (textPath path) = ⟨(timePaths path).map .duration,
              .ok ⟨initial, longest, elapsed, 1.5, 0.5⟩⟩) ∧
      ((∃ e, a.bool (flagPath path) = .error e ∧
          extractToggled a (textPath path) = ⟨[.bool (flagPath path)], .error (.read (.access e))⟩) ∨
        ∃ enabled, a.bool (flagPath path) = .ok enabled ∧
          extractToggled a (textPath path) =
            ⟨.bool (flagPath path) :: (extract a (textPath path)).reads,
              (extract a (textPath path)).result.map (·, enabled)⟩) := by
  constructor
  · rw [extract_textPath]
    exact readTimes_spec a path
  · cases h : a.bool (flagPath path) with
    | error e => exact .inl ⟨e, rfl, extractToggled_of_error h⟩
    | ok enabled => exact .inr ⟨enabled, rfl, extractToggled_of_ok h⟩

end Settings.Backoff
