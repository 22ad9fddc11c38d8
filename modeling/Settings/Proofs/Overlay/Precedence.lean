import Settings.Loading
import Settings.Proofs.Overlay.Merging

/-!
# Which origin decides

The file, the environment and the overrides take precedence over one another value by value.  This
holds wherever the file repeats no map; a map that it repeats is changed in all its places at once,
also where an origin that takes precedence has already set something.
-/

namespace Settings

theorem textPath_prefix_iff {path path' : List String} :
    textPath path <+: textPath path' ↔ path <+: path' := by
  induction path generalizing path' with
  | nil => simp
  | cons name path ih =>
      cases path' with
      | nil => simp
      | cons name' path' => simp [List.cons_prefix_cons, ih]

/-- Whether a variable sets a value on the way to a path, at its end or below it. -/
def Variable.Touches (prefixText : String) (path : List String) (v : Variable) : Prop :=
  v.path prefixText ≠ [] ∧ (v.path prefixText <+: path ∨ path <+: v.path prefixText)

section Environment

variable {prefixText : String} {path : List String} {entries : LinkedEntries}

theorem Variable.along_applyInPlace {P : Linked → Prop} (hP : Linked.Kept P)
    (h : (Linked.map none entries).Along P path) (v : Variable) :
    (Linked.map none (v.applyInPlace prefixText entries)).Along P path :=
  LinkedEntries.along_assign hP h _ _

theorem Variable.at?_applyInPlace_of_not_touches (h : (Linked.map none entries).Single path)
    {v : Variable} (hv : ¬ v.Touches prefixText path) :
    (Value.map (LinkedEntries.toEntries (v.applyInPlace prefixText entries))).at? (textPath path) =
      (Value.map (LinkedEntries.toEntries entries)).at? (textPath path) := by
  by_cases hpath : v.path prefixText = []
  · rw [applyInPlace, hpath]
    rfl
  · apply LinkedEntries.at?_assign_of_apart h
    constructor
    · intro hp
      exact hv ⟨hpath, .inl (textPath_prefix_iff.1 hp)⟩
    · intro hp
      exact hv ⟨hpath, .inr (textPath_prefix_iff.1 hp)⟩

/-- A variable sets the value at its path, which stands in one place only from then on. -/
theorem Variable.applyInPlace_self (h : (Linked.map none entries).SingleAbove path) {v : Variable}
    (hv : v.path prefixText = path) (hpath : path ≠ []) :
    (Linked.map none (v.applyInPlace prefixText entries)).Single path ∧
      (Value.map (LinkedEntries.toEntries (v.applyInPlace prefixText entries))).at?
        (textPath path) = some v.value := by
  subst hv
  have hsingle : (Linked.map none entries).SingleAbove (v.path prefixText ++ []) := by
    rwa [List.append_nil]
  have hat := LinkedEntries.at?_assign_append hsingle hpath v.value
  have hset := LinkedEntries.single_assign_append hsingle hpath v.value
  rw [List.append_nil] at hat hset
  rw [textPath_nil, Value.at?_nil] at hat
  exact ⟨hset, hat⟩

namespace LinkedEntries

theorem along_foldl_applyInPlace {P : Linked → Prop} (hP : Linked.Kept P)
    (h : (Linked.map none entries).Along P path) (vs : List Variable) :
    (Linked.map none (vs.foldl (Variable.applyInPlace prefixText) entries)).Along P path := by
  induction vs generalizing entries with
  | nil => exact h
  | cons v vs ih => exact ih (Variable.along_applyInPlace hP h v)

theorem at?_foldl_applyInPlace (h : (Linked.map none entries).Single path) {vs : List Variable}
    (hvs : ∀ v ∈ vs, ¬ v.Touches prefixText path) :
    (Value.map (toEntries (vs.foldl (Variable.applyInPlace prefixText) entries))).at?
      (textPath path) = (Value.map (toEntries entries)).at? (textPath path) := by
  induction vs generalizing entries with
  | nil => rfl
  | cons v vs ih =>
      rw [List.forall_mem_cons] at hvs
      rw [List.foldl_cons, ih (Variable.along_applyInPlace Linked.kept_marks h v) hvs.2]
      exact Variable.at?_applyInPlace_of_not_touches h hvs.1

/-- Of the variables that have to do with a path the last one decides, if it sets just this. -/
theorem applyEnvironment_of_last (h : (Linked.map none entries).SingleAbove path)
    (hpath : path ≠ []) {env before after : List Variable} {v : Variable}
    (henv : sortVariables env = before ++ v :: after) (hv : v.path prefixText = path)
    (hafter : ∀ w ∈ after, ¬ w.Touches prefixText path) :
    (Linked.map none (entries.applyEnvironment prefixText env)).Single path ∧
      (Value.map (toEntries (entries.applyEnvironment prefixText env))).at? (textPath path) =
        some v.value := by
  have hbefore : (Linked.map none
      (before.foldl (Variable.applyInPlace prefixText) entries)).SingleAbove path :=
    along_foldl_applyInPlace Linked.kept_true h before
  obtain ⟨hsingle, hat⟩ := Variable.applyInPlace_self hbefore hv hpath
  rw [applyEnvironment, henv, List.foldl_append, List.foldl_cons,
    at?_foldl_applyInPlace hsingle hafter]
  exact ⟨along_foldl_applyInPlace Linked.kept_marks hsingle after, hat⟩

theorem at?_applyEnvironment_of_not_touched (h : (Linked.map none entries).Single path)
    {env : List Variable} (henv : ∀ v ∈ env, ¬ v.Touches prefixText path) :
    (Value.map (toEntries (entries.applyEnvironment prefixText env))).at? (textPath path) =
      (Value.map (toEntries entries)).at? (textPath path) := by
  apply at?_foldl_applyInPlace h
  intro v hv
  exact henv v (List.mem_mergeSort.1 hv)

end LinkedEntries

end Environment

/-! ## Evaluating origins -/

instance decidableEqSomeInt (v : Option Value) (n : Int) : Decidable (v = some (.int n)) :=
  match v with
  | some (.int m) => decidable_of_iff (m = n) (by simp)
  | none | some .null | some (.bool _) | some (.float _) | some (.str _) | some (.duration _)
  | some (.list _) | some (.map _) | some (.date _) | some (.moment _) | some (.bytes _)
  | some (.set _) => .isFalse (by simp)

instance Linked.decidableAlong (P : Linked → Prop) [DecidablePred P] :
    ∀ (path : List String) (t : Linked), Decidable (t.Along P path)
  | [], t => inferInstanceAs (Decidable (P t))
  | name :: path, .map mark entries =>
      match h : LinkedEntries.get? entries (.str name) with
      | none => decidable_of_iff (mark = none) (by simp [Along, h])
      | some t =>
          have := decidableAlong P path t
          decidable_of_iff (mark = none ∧ t.Along P path) (by simp [Along, h])
  | _ :: _, .leaf .. | _ :: _, .list _ => .isTrue trivial

instance (path : List String) (t : Linked) : Decidable (t.SingleAbove path) :=
  Linked.decidableAlong _ path t

instance (path : List String) (t : Linked) : Decidable (t.Single path) :=
  Linked.decidableAlong _ path t

instance (prefixText : String) (path : List String) (v : Variable) :
    Decidable (v.Touches prefixText path) :=
  inferInstanceAs (Decidable (_ ∧ _))

/-! ## The origins on top of one another -/

theorem File.marks_valueIn_json {yaml : String → Except Yaml.ReadError Linked} {path text : String}
    {t : Linked} (h : valueIn yaml .json path text = .ok t) : t.marks = [] := by
  unfold valueIn at h
  dsimp only at h
  split at h
  · cases h
    exact Linked.marks_ofValue _
  · cases h
  · cases h

/-- A JSON file repeats no map, so that its values are decided one by one everywhere. -/
theorem File.single_of_json {p : File.Path} {content : File.Content} {file : LinkedEntries}
    (hformat : Format.ofSuffix? p.suffix = some .json)
    (hread : File.readLinked p content = .ok file) (path : List String) :
    (Linked.map none file).Single path := by
  apply Linked.kept_marks.along_of_marks
  cases content with
  | octets octets =>
      rw [readLinked, readLinkedBy] at hread
      cases hvalue : valueOf Yaml.read p octets with
      | error e =>
          rw [hvalue] at hread
          cases hread
      | ok t =>
          have hmarks : t.marks = [] := by
            rw [valueOf, hformat] at hvalue
            split at hvalue
            · cases hvalue
            · exact marks_valueIn_json hvalue
          rw [hvalue] at hread
          cases t with
          | map mark entries =>
              cases hread
              exact (Linked.marks_map_eq_nil_iff.1 hmarks).2
          | _ => cases hread
  | missing => cases hread
  | hidden fault => cases hread
  | unreadable fault => cases hread

/-- What the schema is given to parse is the file with the environment and the overrides on top. -/
theorem Schema.result_load_of_file (s : Schema) {o : Origin} {file : LinkedEntries}
    (hfile : o.fileEntries = .ok file) (lint : Bool) :
    (s.load o lint).result = (s.parse (.map (o.overlay file)) lint).mapError .parse := by
  have hread : (o.loadFile.mapError LoadError.file).result = .ok file := by
    show o.loadFile.result.mapError LoadError.file = .ok file
    rw [Origin.result_loadFile, hfile]
    rfl
  rw [load, Journal.result_bind, hread]
  show ((s.parseJournal (.map (o.overlay file)) lint).mapError LoadError.parse >>= _).result = _
  rw [Journal.result_bind]
  show ((s.parse (.map (o.overlay file)) lint).mapError LoadError.parse).bind _ = _
  cases s.parse (.map (o.overlay file)) lint <;> rfl

/-- The file, the environment and the overrides decide value by value.  At a path to which the file
leads through maps that stand in one place, an override that is no map wins, and where the overrides
lack the path, the last variable that has to do with it wins if it sets just this path.  Where no
variable has to do with the path either, what the file holds stays, if all of that stands in one
place as well. -/
theorem Schema.load_precedence (s : Schema) (o : Origin) (lint : Bool) {file : LinkedEntries}
    (hfile : o.fileEntries = .ok file) (hnonempty : o.envPrefix ≠ "")
    (hkeys : o.overrides.KeysDistinct) :
    (s.load o lint).result = (s.parse (.map (o.overlay file)) lint).mapError .parse ∧
      ∀ path : List String,
        ((Linked.map none file).SingleAbove path →
          (∀ v, (Value.map (overridesOf o.overrides)).at? (textPath path) = some v →
            (∀ es, v ≠ .map es) → (Value.map (o.overlay file)).at? (textPath path) = some v) ∧
          ((Value.map (overridesOf o.overrides)).Lacks (textPath path) →
            ∀ before v after, sortVariables o.env = before ++ v :: after →
              v.path o.envPrefix = path → (∀ w ∈ after, ¬ w.Touches o.envPrefix path) →
              (Value.map (o.overlay file)).at? (textPath path) = some v.value)) ∧
        ((Linked.map none file).Single path →
          (Value.map (overridesOf o.overrides)).Lacks (textPath path) →
          (∀ v ∈ o.env, ¬ v.Touches o.envPrefix path) →
          (Value.map (o.overlay file)).at? (textPath path) =
            (Value.map (LinkedEntries.toEntries file)).at? (textPath path)) := by
  have henv : o.withEnvironment file = file.applyEnvironment o.envPrefix o.env := by
    rw [Origin.withEnvironment, if_neg (by simpa using hnonempty)]
  refine ⟨s.result_load_of_file hfile lint, fun path ↦ ?_⟩
  rw [Origin.overlay, henv]
  refine ⟨fun hpath ↦ ⟨fun v hv hmap ↦ ?_, ?_⟩, fun hpath hlacks huntouched ↦ ?_⟩
  · have habove : (Linked.map none (file.applyEnvironment o.envPrefix o.env)).SingleAbove path :=
      LinkedEntries.along_foldl_applyInPlace Linked.kept_true hpath _
    exact LinkedEntries.wins_mergeOverrides habove hkeys hmap hv
  · intro hlacks before v after hsorted hv hafter
    have hne : path ≠ [] := by
      rintro rfl
      exact hlacks
    obtain ⟨hsingle, hat⟩ :=
      LinkedEntries.applyEnvironment_of_last hpath hne hsorted hv hafter
    rw [LinkedEntries.yields_mergeOverrides hsingle hkeys hlacks, hat]
  · have hsingle : (Linked.map none (file.applyEnvironment o.envPrefix o.env)).Single path :=
      LinkedEntries.along_foldl_applyInPlace Linked.kept_marks hpath _
    rw [LinkedEntries.yields_mergeOverrides hsingle hkeys hlacks]
    exact LinkedEntries.at?_applyEnvironment_of_not_touched hpath huntouched

/-- A file that repeats a section, something from each origin on another section, and an override in
the place of the repetition. -/
def pooledLimits : Origin where
  file := some ⟨"c.yaml", .octets
    "pool: &p\n  size: 4\nspare: *p\nlimits:\n  rate: 5\n  burst: 2\n".toUTF8.toList⟩
  envPrefix := "APP_"
  env := [⟨"APP_LIMITS__RATE", "7"⟩]
  overrides := .map [(.str "limits", .map [(.str "depth", .int 3)]), (.str "spare", .int 9)]

theorem Schema.load_precedence_pooledLimits :
    ∃ file, pooledLimits.fileEntries = .ok file ∧
      (Value.map (pooledLimits.overlay file)).at? (textPath ["spare"]) = some (.int 9) ∧
      (Value.map (pooledLimits.overlay file)).at? (textPath ["limits", "depth"]) =
        some (.int 3) ∧
      (Value.map (pooledLimits.overlay file)).at? (textPath ["limits", "rate"]) =
        some (.int 7) ∧
      (Value.map (pooledLimits.overlay file)).at? (textPath ["limits", "burst"]) =
        some (.int 2) := by
  obtain ⟨file, hfile, hspare, hdepth, hrate, hburst, htwo⟩ :
      ∃ file, pooledLimits.fileEntries = .ok file ∧
        (Linked.map none file).SingleAbove ["spare"] ∧
        (Linked.map none file).SingleAbove ["limits", "depth"] ∧
        (Linked.map none file).SingleAbove ["limits", "rate"] ∧
        (Linked.map none file).Single ["limits", "burst"] ∧
        (Value.map (LinkedEntries.toEntries file)).at? (textPath ["limits", "burst"]) =
          some (.int 2) := by
    decide +kernel
  have hkeys : pooledLimits.overrides.KeysDistinct := by
    simp [pooledLimits, Value.KeysDistinct, Value.EntriesDistinct]
  have hlacks {name : String} (h : name ≠ "depth") :
      (Value.map (overridesOf pooledLimits.overrides)).Lacks (textPath ["limits", name]) := by
    simp [pooledLimits, overridesOf, Value.Lacks, h]
  have hdecided := (Schema.load_precedence ⟨[]⟩ pooledLimits true hfile (by decide) hkeys).2
  refine ⟨file, hfile, ?_, ?_, ?_, ?_⟩
  · exact ((hdecided _).1 hspare).1 _ rfl (by simp)
  · exact ((hdecided _).1 hdepth).1 _ rfl (by simp)
  · exact ((hdecided _).1 hrate).2 (hlacks (by decide)) [] ⟨"APP_LIMITS__RATE", "7"⟩ []
      (by simp [sortVariables, pooledLimits]) (by decide +kernel) (by simp)
  · rw [(hdecided _).2 hburst (hlacks (by decide)) (by decide +kernel)]
    exact htwo

/-- A file in which two sections are the same map, with an override for each of them. -/
def repeatedSection : Origin where
  file := some ⟨"c.yaml", .octets "a: &x\n  k: 1\nb: *x\n".toUTF8.toList⟩
  envPrefix := "APP_"
  overrides := .map [(.str "a", .map [(.str "k", .int 10)]), (.str "b", .map [(.str "k", .int 20)])]

/-- Without the condition on the file an override can be lost. -/
theorem Schema.override_lost_repeatedSection :
    ∃ file, repeatedSection.fileEntries = .ok file ∧ repeatedSection.envPrefix ≠ "" ∧
      repeatedSection.overrides.KeysDistinct ∧
      (Value.map (overridesOf repeatedSection.overrides)).at? (textPath ["a", "k"]) =
        some (.int 10) ∧
      (Value.map (repeatedSection.overlay file)).at? (textPath ["a", "k"]) = some (.int 20) := by
  obtain ⟨file, hfile, hlost⟩ :
      ∃ file, repeatedSection.fileEntries = .ok file ∧
        (Value.map (repeatedSection.overlay file)).at? (textPath ["a", "k"]) = some (.int 20) := by
    decide +kernel
  have hkeys : repeatedSection.overrides.KeysDistinct := by
    simp [repeatedSection, Value.KeysDistinct, Value.EntriesDistinct]
  exact ⟨file, hfile, by decide, hkeys, rfl, hlost⟩

end Settings
