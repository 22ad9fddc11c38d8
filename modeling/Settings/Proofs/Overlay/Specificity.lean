import Settings.Proofs.Overlay.ByValue
import Settings.Proofs.Overlay.VariableName

/-!
# Variables that set parts of what others set

A variable for a whole section and variables for single values in it can be given side by side.  The
one for the section is applied first, so that nothing is lost that another variable does not set
again.  This needs names by which the order of names goes along with that of paths, and that no
variable reaches into a map which the configuration repeats.
-/

namespace Settings

theorem Apart.symm {path path' : List Value} (h : Apart path path') : Apart path' path :=
  ⟨h.2, h.1⟩

/-- Whether a variable sets a value inside the one that another variable sets. -/
def Variable.MoreSpecific (prefixText : String) (w v : Variable) : Prop :=
  w.Matches prefixText ∧ v.path prefixText <+: w.path prefixText ∧
    v.path prefixText ≠ w.path prefixText

instance (prefixText : String) (w v : Variable) : Decidable (w.MoreSpecific prefixText v) :=
  inferInstanceAs (Decidable (_ ∧ _))

/-! ## Setting single values -/

namespace Entries

theorem get?_put_str_of_ne {key : Value} {name : String} (h : key ≠ .str name)
    (entries : Entries) (value : Value) :
    (entries.put (.str name) value).get? key = entries.get? key := by
  have hkey : ¬ key.sameScalar (.str name) = true := by
    rwa [Value.sameScalar_str_right_eq_true_iff]
  induction entries with
  | nil => simp [get?_cons, hkey]
  | cons e rest ih =>
      obtain ⟨k, v⟩ := e
      rw [put_cons]
      split
      · rename_i hk
        obtain rfl := Value.sameScalar_str_eq_true_iff.1 hk
        simp [get?_cons, hkey]
      · rw [get?_cons, get?_cons, ih]

theorem at?_put_str (entries : Entries) (name : String) (value : Value) (path : List Value) :
    (Value.map (entries.put (.str name) value)).at? (.str name :: path) = value.at? path := by
  rw [Value.at?_map_cons, get?_put_self (Value.sameScalar_str_eq_true_iff.2 rfl)]
  rfl

theorem at?_put_str_of_ne {key : Value} {name : String} (h : key ≠ .str name) (entries : Entries)
    (value : Value) (path : List Value) :
    (Value.map (entries.put (.str name) value)).at? (key :: path) =
      (Value.map entries).at? (key :: path) := by
  rw [Value.at?_map_cons, Value.at?_map_cons, get?_put_str_of_ne h]

/-- Away from the path of a value nothing changes, whatever the keys there are. -/
theorem at?_assign_of_apart (entries : Entries) {place : List String} {path : List Value}
    (h : Apart (textPath place) path) (value : Value) :
    (Value.map (entries.assign (textPath place) value)).at? path =
      (Value.map entries).at? path := by
  induction place generalizing entries path with
  | nil => exact absurd h (not_apart_nil_left _)
  | cons name place ih =>
      cases path with
      | nil => exact absurd h (not_apart_nil_right _)
      | cons key path =>
          rw [textPath_cons, apart_cons_iff] at h
          cases place with
          | nil => exact at?_put_str_of_ne (fun heq ↦ not_apart_nil_left _ (h heq.symm)) _ _ _
          | cons next place =>
              show (Value.map (entries.put (.str name) (.map _))).at? _ = _
              by_cases hkey : key = .str name
              · subst hkey
                cases path with
                | nil => exact absurd (h rfl) (not_apart_nil_right _)
                | cons key path =>
                    rw [at?_put_str, ← at?_mapUnder]
                    exact ih _ (h rfl)
              · exact at?_put_str_of_ne hkey _ _ _

theorem at?_assign_append (entries : Entries) {place : List String} (hplace : place ≠ [])
    (value : Value) (rest : List Value) :
    (Value.map (entries.assign (textPath place) value)).at? (textPath place ++ rest) =
      value.at? rest := by
  have hlinked :=
    LinkedEntries.at?_assignHere_append (LinkedEntries.ofEntries entries) hplace value rest
  rwa [LinkedEntries.toEntries_assignHere, LinkedEntries.toEntries_ofEntries] at hlinked

end Entries

/-! ## Applying variables one after another -/

section

variable {prefixText : String} {entries : Entries} {env : List Variable} {path : List Value}

theorem at?_foldl_apply (h : ∀ v ∈ env, v.Matches prefixText →
      Apart (textPath (v.path prefixText)) path) :
    (Value.map (env.foldl (Variable.apply prefixText) entries)).at? path =
      (Value.map entries).at? path := by
  induction env generalizing entries with
  | nil => rfl
  | cons v env ih =>
      rw [List.forall_mem_cons] at h
      rw [List.foldl_cons, ih h.2]
      by_cases hv : v.Matches prefixText
      · exact Entries.at?_assign_of_apart entries (h.1 hv) v.value
      · rw [Variable.apply, Variable.path_of_not_matches hv]
        rfl

/-- What no variable has to do with stays as it was. -/
theorem at?_applyEnvironment_of_apart (h : ∀ v ∈ env, v.Matches prefixText →
      Apart (textPath (v.path prefixText)) path) :
    (Value.map (applyEnvironment entries prefixText env)).at? path =
      (Value.map entries).at? path := by
  apply at?_foldl_apply
  intro v hv
  exact h v (List.mem_mergeSort.1 hv)

/-- What a variable holds stays where no more specific variable has to do with it. -/
theorem at?_applyEnvironment_append (hnames : (env.map Variable.name).Nodup)
    (hplain : ∀ v ∈ env, v.Matches prefixText → v.IsPlain prefixText) {v : Variable}
    (hv : v ∈ env) (hmatches : v.Matches prefixText) {rest : List Value}
    (hspecific : ∀ w ∈ env, w.MoreSpecific prefixText v →
      Apart (textPath (w.path prefixText)) (textPath (v.path prefixText) ++ rest)) :
    (Value.map (applyEnvironment entries prefixText env)).at?
      (textPath (v.path prefixText) ++ rest) = v.value.at? rest := by
  obtain ⟨before, after, henv⟩ := List.append_of_mem (List.mem_mergeSort.2 hv)
  have hafter : ∀ w ∈ after, w.Matches prefixText →
      Apart (textPath (w.path prefixText)) (textPath (v.path prefixText) ++ rest) := by
    intro w hw hwmatches
    have hwenv : w ∈ env := by
      rw [← List.mem_mergeSort, henv]
      exact List.mem_append_right before (List.mem_cons_of_mem v hw)
    have hlater : v.name < w.name := name_lt_of_mem_after hnames henv hw
    have hnotAbove : ¬ w.path prefixText <+: v.path prefixText := by
      intro hp
      have hle := Variable.name_le hwmatches (hplain w hwenv hwmatches) hmatches
        (hplain v hv hmatches) hp
      exact absurd hlater (not_lt.2 hle)
    by_cases hbelow : v.path prefixText <+: w.path prefixText
    · refine hspecific w hwenv ⟨hwmatches, hbelow, ?_⟩
      intro heq
      exact hnotAbove (heq ▸ List.prefix_rfl)
    · have hapart : Apart (textPath (v.path prefixText)) (textPath (w.path prefixText)) := by
        rw [Apart, textPath_prefix_iff, textPath_prefix_iff]
        exact ⟨hbelow, hnotAbove⟩
      exact (hapart.append rest).symm
  have hset := Entries.at?_assign_append (before.foldl (Variable.apply prefixText) entries)
    (Variable.path_ne_nil hmatches (hplain v hv hmatches)) v.value rest
  rw [applyEnvironment, sortVariables, henv, List.foldl_append, List.foldl_cons,
    at?_foldl_apply hafter]
  exact hset

end

/-! ## What is kept -/

namespace LinkedEntries

/-- Where no variable reaches into a repeated map, each one that has no more specific one beside it
has set its value in the end.  Of a map that a variable holds everything is there that no more
specific one has to do with, and so is everything that no variable at all has to do with. -/
theorem applyEnvironment_keeps_settings {base : LinkedEntries} {prefixText : String}
    {env : List Variable} (hnames : (env.map Variable.name).Nodup)
    (hplain : ∀ v ∈ env, v.Matches prefixText → v.IsPlain prefixText)
    (hunreached : ∀ v ∈ env, base.lastMark? (textPath (v.path prefixText)) = none) :
    (∀ v ∈ env, v.Matches prefixText → (∀ w ∈ env, ¬ w.MoreSpecific prefixText v) →
        (Value.map (toEntries (base.applyEnvironment prefixText env))).at?
          (textPath (v.path prefixText)) = some v.value) ∧
      (∀ v ∈ env, v.Matches prefixText → ∀ entries rest x, v.value = .map entries →
        (Value.map entries).at? rest = some x →
        (∀ w ∈ env, w.MoreSpecific prefixText v →
          Apart (textPath (w.path prefixText)) (textPath (v.path prefixText) ++ rest)) →
        (Value.map (toEntries (base.applyEnvironment prefixText env))).at?
          (textPath (v.path prefixText) ++ rest) = some x) ∧
      ∀ path, (∀ v ∈ env, v.Matches prefixText → Apart (textPath (v.path prefixText)) path) →
        (Value.map (toEntries (base.applyEnvironment prefixText env))).at? path =
          (Value.map (toEntries base)).at? path := by
  rw [toEntries_applyEnvironment_of_unreached hunreached]
  refine ⟨?_, ?_, ?_⟩
  · intro v hv hmatches hnone
    have hkept : (Value.map (Settings.applyEnvironment (toEntries base) prefixText env)).at?
        (textPath (v.path prefixText) ++ []) = v.value.at? [] :=
      at?_applyEnvironment_append hnames hplain hv hmatches fun w hw hspecific ↦
        absurd hspecific (hnone w hw)
    rwa [List.append_nil, Value.at?_nil] at hkept
  · intro v hv hmatches entries rest x hvalue hx hspecific
    rw [at?_applyEnvironment_append hnames hplain hv hmatches hspecific, hvalue, hx]
  · intro path hpath
    exact at?_applyEnvironment_of_apart hpath

/-- A section in two places, a text, and an entry under a number. -/
def pooledBase : LinkedEntries :=
  let pool : Linked := .map (some 0) [(.str "size", .ofValue (.int 4))]
  [(.str "pool", pool), (.str "spare", pool), (.str "db", .ofValue (.str "none")),
    (.int 1, .ofValue (.bool true))]

/-- A section of the configuration, and one of the values in it once more. -/
def dbSection : Variable := ⟨"APP_DB", "\x7b\"size\": 4, \"port\": 1\x7d"⟩

def dbPort : Variable := ⟨"APP_DB__PORT", "2"⟩

theorem applyEnvironment_keeps_settings_dbSection :
    ([dbPort, dbSection].map Variable.name).Nodup ∧
      (∀ v ∈ [dbPort, dbSection], v.Matches "APP_" → v.IsPlain "APP_") ∧
      (∀ v ∈ [dbPort, dbSection], pooledBase.lastMark? (textPath (v.path "APP_")) = none) ∧
      (Value.map (toEntries (pooledBase.applyEnvironment "APP_" [dbPort, dbSection]))).at?
        (textPath ["db", "port"]) = some (.int 2) ∧
      (Value.map (toEntries (pooledBase.applyEnvironment "APP_" [dbPort, dbSection]))).at?
        (textPath ["db", "size"]) = some (.int 4) ∧
      (Value.map (toEntries (pooledBase.applyEnvironment "APP_" [dbPort, dbSection]))).at? [.int 1] =
        some (.bool true) := by
  have hnames : ([dbPort, dbSection].map Variable.name).Nodup := by decide
  have hplain : ∀ v ∈ [dbPort, dbSection], v.Matches "APP_" → v.IsPlain "APP_" := by
    decide +kernel
  have hunreached : ∀ v ∈ [dbPort, dbSection],
      pooledBase.lastMark? (textPath (v.path "APP_")) = none := by
    decide +kernel
  have hport : dbPort.path "APP_" = ["db", "port"] := by decide +kernel
  have hdb : dbSection.path "APP_" = ["db"] := by decide +kernel
  have htwo : some dbPort.value = some (.int 2) := by decide +kernel
  have hfour : dbSection.value.at? (textPath ["size"]) = some (.int 4) := by decide +kernel
  obtain ⟨hown, hinside, hother⟩ := applyEnvironment_keeps_settings hnames hplain hunreached
  refine ⟨hnames, hplain, hunreached, ?_, ?_, hother [.int 1] ?_⟩
  · rw [← hport, ← htwo]
    exact hown dbPort (by simp) (by decide) (by decide +kernel)
  · obtain ⟨entries, hentries⟩ : ∃ entries, dbSection.value = .map entries := by
      cases hvalue : dbSection.value with
      | map entries => exact ⟨entries, rfl⟩
      | _ =>
          rw [hvalue] at hfour
          cases hfour
    rw [hentries] at hfour
    have hsize := hinside dbSection (by simp) (by decide) entries _ _ hentries hfour
    rw [hdb] at hsize
    apply hsize
    intro w hw hspecific
    obtain rfl | rfl : w = dbPort ∨ w = dbSection := by simpa using hw
    · rw [hport]
      simp [apart_cons_iff]
    · exact absurd hspecific (by decide +kernel)
  · intro v hv hmatches
    have hne : v.path "APP_" ≠ [] := Variable.path_ne_nil hmatches (hplain v hv hmatches)
    cases hpath : v.path "APP_" with
    | nil => exact absurd hpath hne
    | cons name path => simp [apart_cons_iff]

/-- Two values for a section that a file repeats, one in each of its places. -/
def firstK : Variable := ⟨"APP_A__K", "5"⟩

def secondK : Variable := ⟨"APP_B__K", "6"⟩

/-- Where a variable reaches into a repeated map, what another variable has set can be lost. -/
theorem setting_lost_repeatedSection :
    ([firstK, secondK].map Variable.name).Nodup ∧
      (∀ v ∈ [firstK, secondK], v.Matches "APP_" ∧ v.IsPlain "APP_") ∧
      (∀ w ∈ [firstK, secondK], ¬ w.MoreSpecific "APP_" firstK) ∧
      firstK.path "APP_" = ["a", "k"] ∧ some firstK.value = some (.int 5) ∧
      ∃ file, repeatedSection.fileEntries = .ok file ∧
        (Value.map (toEntries (file.applyEnvironment "APP_" [firstK, secondK]))).at?
          (textPath ["a", "k"]) = some (.int 6) := by
  have hsorted : sortVariables [firstK, secondK] = [firstK, secondK] := by
    apply List.mergeSort_of_pairwise
    rw [List.pairwise_pair]
    decide
  obtain ⟨file, hfile, hlost⟩ : ∃ file, repeatedSection.fileEntries = .ok file ∧
      (Value.map (toEntries ([firstK, secondK].foldl (Variable.applyInPlace "APP_") file))).at?
        (textPath ["a", "k"]) = some (.int 6) := by
    decide +kernel
  have happly : file.applyEnvironment "APP_" [firstK, secondK] =
      [firstK, secondK].foldl (Variable.applyInPlace "APP_") file := by
    rw [applyEnvironment, hsorted]
  refine ⟨by decide, by decide +kernel, by decide +kernel, by decide +kernel, by decide +kernel,
    file, hfile, ?_⟩
  rw [happly]
  exact hlost

end LinkedEntries

end Settings
