import Settings.Backoff.Extraction
import Settings.Proofs.Accessor.Descent

/-!
# Which policies are extracted

A policy can be extracted below a path of names exactly when its three times can be read there.
-/

namespace Settings.Backoff

namespace Traced

theorem bind_of_ok {x : Traced α} {v : α} (h : x.result = .ok v) (f : α → Traced β) :
    x >>= f = ⟨x.reads ++ (f v).reads, (f v).result⟩ := by
  change Traced.bind x f = _
  rw [Traced.bind, h]

theorem bind_of_error {x : Traced α} {e : ExtractionError} (h : x.result = .error e)
    (f : α → Traced β) : x >>= f = ⟨x.reads, .error e⟩ := by
  change Traced.bind x f = _
  rw [Traced.bind, h]

theorem result_bind (x : Traced α) (f : α → Traced β) :
    (x >>= f).result = x.result >>= fun a => (f a).result := by
  cases h : x.result with
  | error e =>
      rw [bind_of_error h]
      rfl
  | ok a =>
      rw [bind_of_ok h]
      rfl

theorem result_pure (a : α) : (pure a : Traced α).result = .ok a := rfl

theorem result_bind_eq_ok_iff {x : Traced α} {f : α → Traced β} {b : β} :
    (x >>= f).result = .ok b ↔ ∃ a, x.result = .ok a ∧ (f a).result = .ok b := by
  rw [result_bind, bind_eq_ok_iff]

end Traced

theorem checkWritable_textPath (path : List String) :
    checkWritable (textPath path) = ⟨[], .ok ()⟩ := by
  have hnone (i : Nat) : nonText? i (textPath path) = none := by
    induction path generalizing i with
    | nil => rfl
    | cons name path ih => exact ih (i + 1)
  rw [checkWritable, hnone]

theorem result_checkWritable (path : List String) :
    (checkWritable (textPath path)).result = .ok () := by
  rw [checkWritable_textPath]

/-- A path of names can be written down, so that it is the reads alone that can fail. -/
theorem extract_textPath (a : Accessor) (path : List String) :
    extract a (textPath path) = readTimes a (textPath path) := by
  cases h : (readTimes a (textPath path)).result with
  | error e => rw [extract, Traced.bind_of_error h, ← h]
  | ok p =>
      rw [extract, Traced.bind_of_ok h, Traced.bind_of_ok (result_checkWritable path),
        checkWritable_textPath]
      simp [← h, Pure.pure]

theorem result_extractToggled (a : Accessor) (path : List String) :
    (extractToggled a (textPath path)).result =
      (a.bool (textPath path ++ [.str enabledName])).mapError (fun e ↦ .read (.access e)) >>=
        fun enabled => (readTimes a (textPath path)).result.map (·, enabled) := by
  simp only [extractToggled, readBool, Traced.result_bind, result_checkWritable, ok_bind,
    Traced.result_pure]
  rfl

theorem readTimes_eq_ok_iff {a : Accessor} {path : List Value} {p : Policy} :
    (readTimes a path).result = .ok p ↔
      a.duration (path ++ [.str initialIntervalName]) = .ok p.initialInterval ∧
        a.duration (path ++ [.str maxIntervalName]) = .ok p.maxInterval ∧
        a.duration (path ++ [.str maxElapsedTimeName]) = .ok p.maxElapsedTime ∧
        p.multiplier = Policy.standard.multiplier ∧
        p.randomizationFactor = Policy.standard.randomizationFactor := by
  simp only [readTimes, Traced.result_bind_eq_ok_iff, readDuration, mapError_eq_ok_iff,
    Traced.result_pure, Except.ok.injEq]
  constructor
  · rintro ⟨initial, hinitial, longest, hlongest, elapsed, helapsed, rfl⟩
    exact ⟨hinitial, hlongest, helapsed, rfl, rfl⟩
  · rintro ⟨hinitial, hlongest, helapsed, hmultiplier, hfactor⟩
    refine ⟨_, hinitial, _, hlongest, _, helapsed, ?_⟩
    rw [← hmultiplier, ← hfactor]

theorem extract_eq_ok_iff {a : Accessor} {path : List String} {p : Policy} :
    (extract a (textPath path)).result = .ok p ↔
      (readTimes a (textPath path)).result = .ok p := by
  rw [extract_textPath]

theorem extractToggled_eq_ok_iff {a : Accessor} {path : List String} {p : Policy}
    {enabled : Bool} :
    (extractToggled a (textPath path)).result = .ok (p, enabled) ↔
      a.bool (textPath path ++ [.str enabledName]) = .ok enabled ∧
        (readTimes a (textPath path)).result = .ok p := by
  simp only [result_extractToggled, bind_eq_ok_iff, mapError_eq_ok_iff, map_eq_ok_iff]
  constructor
  · rintro ⟨b, hb, q, hq, heq⟩
    cases heq
    exact ⟨hb, hq⟩
  · rintro ⟨hb, hp⟩
    exact ⟨enabled, hb, p, hp, rfl⟩

end Settings.Backoff
