import Settings.Proofs.Backoff.Extraction

/-!
# Accessors of namespaces

An accessor that was entered at a path reads there what the outer accessor reads at that path and
the rest: the same values, and failures with the same full path and reason.  Where nothing can be
entered, nothing below can be read.
-/

namespace Settings

open Backoff (extract extractToggled readTimes readDuration readBool)

namespace Accessor

/-! ## Descending in two parts -/

theorem descend_append {base done path : List Value} {v w : Value}
    (h : descend base done v path = .ok w) (rest : List Value) :
    descend base done v (path ++ rest) = descend base (done ++ path) w rest := by
  induction path generalizing done v with
  | nil =>
      cases h
      simp
  | cons key path ih =>
      cases v with
      | map entries =>
          rw [List.cons_append, descend]
          rw [descend] at h
          cases hkey : Entries.get? entries key with
          | none =>
              rw [hkey] at h
              cases h
          | some u =>
              rw [hkey] at h
              simpa using ih h
      | _ => cases h

/-- Of the segments that are behind, it does not matter which belong to the accessor. -/
theorem descend_base (base front done : List Value) (v : Value) (path : List Value) :
    descend (base ++ front) done v path = descend base (front ++ done) v path := by
  induction path generalizing done v with
  | nil => rfl
  | cons key path ih =>
      cases v with
      | map entries =>
          rw [descend, descend]
          cases hkey : Entries.get? entries key with
          | none => simp
          | some u => simpa using ih (done ++ [key]) u
      | _ => simp [descend]

theorem path_of_enter {a b : Accessor} {path : List Value} (h : a.enter path = .ok b)
    (rest : List Value) : b.path ++ rest = a.path ++ (path ++ rest) := by
  obtain ⟨entries, -, rfl⟩ := enter_eq_ok_iff.1 h
  exact List.append_assoc ..

theorem lookup_of_enter {a b : Accessor} {path : List Value} (h : a.enter path = .ok b)
    (rest : List Value) : b.lookup rest = a.lookup (path ++ rest) := by
  obtain ⟨entries, hat, rfl⟩ := enter_eq_ok_iff.1 h
  have hpath : descend a.path [] (.map a.entries) path = .ok (.map entries) :=
    lookup_eq_ok_iff.2 hat
  have hbase := descend_base a.path path [] (.map entries) rest
  rw [List.append_nil] at hbase
  rw [lookup, lookup, descend_append hpath, List.nil_append]
  exact hbase

theorem exists_lookup_error {a : Accessor} {path rest : List Value} {e : AccessError}
    (h : a.enter path = .error e) (hrest : rest ≠ []) :
    ∃ e, a.lookup (path ++ rest) = .error e := by
  cases hlookup : a.lookup (path ++ rest) with
  | error e => exact ⟨e, rfl⟩
  | ok v =>
      have hat := lookup_eq_ok_iff.1 hlookup
      rw [Value.at?_append, Option.bind_eq_some_iff] at hat
      obtain ⟨w, hw, hv⟩ := hat
      obtain ⟨key, rest, rfl⟩ := List.exists_cons_of_ne_nil hrest
      cases w with
      | map entries =>
          rw [enter_eq_ok_iff.2 ⟨entries, hw, rfl⟩] at h
          cases h
      | _ => cases hv

/-! ## Reads with the same outcome -/

/-- Whatever is read at a path of one accessor has the outcome of the read at a path of the other.
A policy is put together only where all segments are texts. -/
structure ReadsAlike (a : Accessor) (path : List Value) (b : Accessor) (path' : List Value) :
    Prop where
  raw : a.raw path = b.raw path'
  contains : a.contains path = b.contains path'
  enter : a.enter path = b.enter path'
  duration : a.duration path = b.duration path'
  bool : a.bool path = b.bool path'
  string : a.string path = b.string path'
  int : a.int path = b.int path'
  float : a.float path = b.float path'
  extract : ∀ names names', path = textPath names → path' = textPath names' →
    (extract a path).result = (extract b path').result
  extractToggled : ∀ names names', path = textPath names → path' = textPath names' →
    (extractToggled a path).result = (extractToggled b path').result

section Congruence

variable {a b : Accessor} {path path' : List Value}

/-- What a read depends on: the value, and the full path for its failures. -/
structure SamePlace (a : Accessor) (path : List Value) (b : Accessor) (path' : List Value) :
    Prop where
  lookup : a.lookup path = b.lookup path'
  path : a.path ++ path = b.path ++ path'

theorem SamePlace.fail (h : SamePlace a path b path') (reason : AccessError.Reason) :
    a.fail path reason = b.fail path' reason := by
  rw [Accessor.fail, Accessor.fail, h.path]

theorem SamePlace.lookupSet (h : SamePlace a path b path') :
    a.lookupSet path = b.lookupSet path' := by
  rw [Accessor.lookupSet, Accessor.lookupSet, h.lookup, h.fail]

theorem SamePlace.duration (h : SamePlace a path b path') : a.duration path = b.duration path' := by
  simp only [Accessor.duration, h.lookupSet, h.fail]

theorem SamePlace.bool (h : SamePlace a path b path') : a.bool path = b.bool path' := by
  simp only [Accessor.bool, h.lookupSet, h.fail]

theorem readTimes_of_samePlace
    (h : ∀ key, SamePlace a (path ++ [key]) b (path' ++ [key])) :
    (readTimes a path).result = (readTimes b path').result := by
  simp only [readTimes, Backoff.Traced.result_bind, readDuration, (h _).duration]

theorem ReadsAlike.of_samePlace (h : SamePlace a path b path')
    (hbelow : ∀ key, SamePlace a (path ++ [key]) b (path' ++ [key])) :
    ReadsAlike a path b path' where
  raw := h.lookup
  contains := by rw [Accessor.contains, Accessor.contains, h.lookup]
  enter := by simp only [Accessor.enter, h.lookupSet, h.fail, h.path]
  duration := h.duration
  bool := h.bool
  string := by simp only [Accessor.string, h.lookupSet, h.fail]
  int := by simp only [Accessor.int, h.lookupSet, h.fail]
  float := by simp only [Accessor.float, h.lookupSet, h.fail]
  extract names names' hnames hnames' := by
    have htimes := readTimes_of_samePlace hbelow
    subst hnames hnames'
    rw [Backoff.extract_textPath, Backoff.extract_textPath, htimes]
  extractToggled names names' hnames hnames' := by
    have htimes := readTimes_of_samePlace hbelow
    have hflag := (hbelow (.str Backoff.enabledName)).bool
    subst hnames hnames'
    rw [Backoff.result_extractToggled, Backoff.result_extractToggled, htimes, hflag]

end Congruence

/-! ## Reads that fail -/

/-- Whatever is read at the path, the read fails. -/
structure Unreadable (a : Accessor) (path : List Value) : Prop where
  raw : ∃ e, a.raw path = .error e
  contains : a.contains path = false
  enter : ∃ e, a.enter path = .error e
  duration : ∃ e, a.duration path = .error (.access e)
  bool : ∃ e, a.bool path = .error e
  string : ∃ e, a.string path = .error e
  int : ∃ e, a.int path = .error e
  float : ∃ e, a.float path = .error (.access e)
  extract : ∃ e, (extract a path).result = .error (.read (.access e))
  extractToggled : ∃ e, (extractToggled a path).result = .error (.read (.access e))

theorem lookupSet_eq_error {a : Accessor} {path : List Value} {e : AccessError}
    (h : a.lookup path = .error e) : a.lookupSet path = .error e := by
  rw [lookupSet, h]

theorem duration_eq_error {a : Accessor} {path : List Value} {e : AccessError}
    (h : a.lookup path = .error e) : a.duration path = .error (.access e) := by
  rw [duration, lookupSet_eq_error h]
  rfl

theorem bool_eq_error {a : Accessor} {path : List Value} {e : AccessError}
    (h : a.lookup path = .error e) : a.bool path = .error e := by
  rw [bool, lookupSet_eq_error h, error_bind]

theorem Unreadable.of_lookup {a : Accessor} {path : List Value} {e : AccessError}
    (h : a.lookup path = .error e) (hbelow : ∀ key, ∃ e, a.lookup (path ++ [key]) = .error e) :
    Unreadable a path where
  raw := ⟨e, h⟩
  contains := by rw [Accessor.contains, h]; rfl
  enter := ⟨e, by rw [Accessor.enter, lookupSet_eq_error h, error_bind]⟩
  duration := ⟨e, duration_eq_error h⟩
  bool := ⟨e, bool_eq_error h⟩
  string := ⟨e, by rw [Accessor.string, lookupSet_eq_error h, error_bind]⟩
  int := ⟨e, by rw [Accessor.int, lookupSet_eq_error h, error_bind]⟩
  float := ⟨e, by rw [Accessor.float, lookupSet_eq_error h]⟩
  extract := by
    obtain ⟨e', he'⟩ := hbelow (.str Backoff.initialIntervalName)
    refine ⟨e', ?_⟩
    rw [Backoff.extract, Backoff.Traced.result_bind, readTimes, Backoff.Traced.result_bind,
      readDuration, duration_eq_error he']
    rfl
  extractToggled := by
    obtain ⟨e', he'⟩ := hbelow (.str Backoff.enabledName)
    refine ⟨e', ?_⟩
    rw [Backoff.extractToggled, Backoff.Traced.result_bind, readBool, bool_eq_error he']
    rfl

/-! ## Namespaces -/

/-- Entering a path and reading the rest is reading at the whole path.  If the path cannot be
entered, no read below it succeeds. -/
theorem enter_composes (a : Accessor) (path : List Value) :
    (∀ b, a.enter path = .ok b → ∀ rest, ReadsAlike b rest a (path ++ rest)) ∧
      ∀ e, a.enter path = .error e → ∀ rest, rest ≠ [] → Unreadable a (path ++ rest) := by
  constructor
  · intro b hb rest
    have hsame (rest : List Value) : SamePlace b rest a (path ++ rest) :=
      ⟨lookup_of_enter hb rest, path_of_enter hb rest⟩
    refine .of_samePlace (hsame rest) fun key ↦ ?_
    rw [List.append_assoc]
    exact hsame (rest ++ [key])
  · intro e he rest hrest
    obtain ⟨e', he'⟩ := exists_lookup_error he hrest
    refine .of_lookup he' fun key ↦ ?_
    rw [List.append_assoc]
    exact exists_lookup_error he (by simp)

/-- A section below `app` with one entry, which is no duration. -/
def httpAccessor : Accessor :=
  ⟨textPath ["app"], [(.str "http", .map [(.str "timeout", .bool true)])]⟩

/-- The failure names the same place from both accessors; below `db` there is nothing to read. -/
theorem enter_composes_httpAccessor :
    (∃ b, httpAccessor.enter (textPath ["http"]) = .ok b ∧
      ∃ e, b.duration (textPath ["timeout"]) = .error (.access e) ∧
        httpAccessor.duration (textPath ["http", "timeout"]) = .error (.access e) ∧
          e.path = textPath ["app", "http", "timeout"]) ∧
      ∃ e, httpAccessor.enter (textPath ["db"]) = .error e ∧
        httpAccessor.contains (textPath ["db", "url"]) = false := by
  refine ⟨⟨_, rfl, _, rfl, ?_, rfl⟩, _, rfl, ?_⟩
  · obtain ⟨hentered, -⟩ := enter_composes httpAccessor (textPath ["http"])
    exact (hentered _ rfl (textPath ["timeout"])).duration.symm
  · obtain ⟨-, hfailed⟩ := enter_composes httpAccessor (textPath ["db"])
    exact (hfailed _ rfl (textPath ["url"]) (by simp)).contains

end Accessor

end Settings
