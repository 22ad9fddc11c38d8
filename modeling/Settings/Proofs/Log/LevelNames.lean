import Mathlib.Data.List.Nodup
import Settings.Command.Line
import Settings.Proofs.Log.Handlers
import Settings.Proofs.Result

/-!
# Names of levels

A text asks for the level that it names in upper case, and for warnings if it names none.  A set-up
gives every text the level that it asks for, with the exception of two names that stand for
something else; those make it fail.  The same goes for the level on the command line.
-/

namespace Settings.Log

namespace Level

/-- The level that a text asks for. -/
inductive AskedBy (text : String) : Level → Prop where
  | named {level : Level} (h : (Text.upper text, level) ∈ names) : AskedBy text level
  | unknown (h : ∀ level, (Text.upper text, level) ∉ names) : AskedBy text warning

/-- What is behind the two names that are no names of levels. -/
def takenNames : List (String × LevelError) :=
  [("BASIC_FORMAT", .plainLayout), ("_STYLES", .layoutTable)]

def IsTaken (text : String) : Prop := ∃ e, (Text.upper text, e) ∈ takenNames

theorem nodup_names : (names.map Prod.fst).Nodup := by decide

theorem not_mem_names_of_taken {key : String} {e : LevelError} (h : (key, e) ∈ takenNames)
    (level : Level) : (key, level) ∉ names := by
  have hkeys : ∀ p ∈ takenNames, p.1 ∉ names.map Prod.fst := by decide
  intro hmem
  exact hkeys _ h (List.mem_map_of_mem hmem)

theorem AskedBy.unique {text : String} {level level' : Level} (h : AskedBy text level)
    (h' : AskedBy text level') : level = level' := by
  cases h with
  | named h =>
      cases h' with
      | named h' => exact congrArg Prod.snd (List.inj_on_of_nodup_map nodup_names h h' rfl)
      | unknown h' => exact absurd h (h' _)
  | unknown h =>
      cases h' with
      | named h' => exact absurd h' (h _)
      | unknown => rfl

theorem ofText_of_named {text : String} {level : Level} (h : (Text.upper text, level) ∈ names) :
    ofText text = .ok level := by
  cases hfind : names.find? (·.1 == Text.upper text) with
  | none =>
      have hne := List.find?_eq_none.1 hfind _ h
      simp at hne
  | some p =>
      have hkey : p.1 = Text.upper text := by simpa using List.find?_some hfind
      have hp : p = (Text.upper text, level) :=
        List.inj_on_of_nodup_map nodup_names (List.mem_of_find?_eq_some hfind) h hkey
      rw [hp] at hfind
      simp only [ofText, hfind]

theorem ofText_of_unknown {text : String} (h : ∀ level, (Text.upper text, level) ∉ names) :
    ofText text =
      if Text.upper text = "BASIC_FORMAT" then .error .plainLayout
      else if Text.upper text = "_STYLES" then .error .layoutTable
      else .ok warning := by
  have hfind : names.find? (·.1 == Text.upper text) = none := by
    apply List.find?_eq_none.2
    rintro ⟨key, level⟩ hp hkey
    have hkey : key = Text.upper text := by simpa using hkey
    exact h level (hkey ▸ hp)
  simp only [ofText, hfind]

theorem ofText_of_taken {text : String} {e : LevelError} (h : (Text.upper text, e) ∈ takenNames) :
    ofText text = .error e := by
  rw [ofText_of_unknown (not_mem_names_of_taken h)]
  simp only [takenNames, List.mem_cons, Prod.mk.injEq, List.not_mem_nil, or_false] at h
  rcases h with ⟨hkey, rfl⟩ | ⟨hkey, rfl⟩ <;> simp [hkey]

theorem ofText_of_askedBy {text : String} {level : Level} (h : AskedBy text level)
    (hfree : ¬IsTaken text) : ofText text = .ok level := by
  cases h with
  | named h => exact ofText_of_named h
  | unknown h =>
      have hplain : Text.upper text ≠ "BASIC_FORMAT" := by
        intro hkey
        exact hfree ⟨.plainLayout, by simp [takenNames, hkey]⟩
      have htable : Text.upper text ≠ "_STYLES" := by
        intro hkey
        exact hfree ⟨.layoutTable, by simp [takenNames, hkey]⟩
      rw [ofText_of_unknown h, if_neg hplain, if_neg htable]

theorem exists_askedBy (text : String) : ∃ level, AskedBy text level := by
  by_cases h : ∃ level, (Text.upper text, level) ∈ names
  · obtain ⟨level, hlevel⟩ := h
    exact ⟨level, .named hlevel⟩
  · exact ⟨warning, .unknown fun level hlevel ↦ h ⟨level, hlevel⟩⟩

end Level

end Settings.Log

namespace Settings

open Log Log.Level

/-! ## The level on the command line -/

namespace Command

theorem ofArguments_of_read {arguments others : List String} {logging : Logging} {name : String}
    {readTask : List String → Except UsageError Task}
    (hread : readArguments Line.loggingRules false arguments {} = .ok (logging, name :: others))
    (hname : (name, readTask) ∈ Line.commands) :
    Invocation.ofArguments arguments =
      ((Console.initial.setup logging.level logging.form).mapError LineError.level >>=
        fun console => (readTask others).mapError LineError.usage >>=
          fun task => pure { console, task }) := by
  cases arguments with
  | nil => cases hread
  | cons argument arguments =>
      have hfind : Line.commands.find? (·.1 == name) = some (name, readTask) := by
        simp only [Line.commands, List.mem_cons, Prod.mk.injEq, List.not_mem_nil, or_false] at hname
        rcases hname with ⟨rfl, rfl⟩ | ⟨rfl, rfl⟩ | ⟨rfl, rfl⟩ <;> rfl
      have hoptions :
          (readArguments Line.loggingRules false (argument :: arguments) {}).mapError
            LineError.usage = .ok (logging, name :: others) := mapError_eq_ok_iff.2 hread
      simp [Invocation.ofArguments, hoptions, hfind]

end Command

namespace Log.Work

open Command

/-- A set-up succeeds with the level that the text asks for, whatever the text and the console,
except for texts that name something other than a level.  With those it fails.  A command line with
such a text for the level fails as well, and with any other its console gets the level. -/
theorem setup_gives_level (levelText : String) :
    (∀ form stream c, ¬IsTaken levelText →
        ∃ c', (setup levelText form stream).run c = .ok () c' ∧ AskedBy levelText c'.level) ∧
      (∀ form stream c e, (Text.upper levelText, e) ∈ takenNames →
        (setup levelText form stream).run c = .error e c) ∧
      ∀ arguments logging name others readTask task,
        readArguments Line.loggingRules false arguments {} = .ok (logging, name :: others) →
        logging.level = levelText → (name, readTask) ∈ Line.commands → readTask others = .ok task →
        (¬IsTaken levelText →
          ∃ i, Invocation.ofArguments arguments = .ok i ∧ i.task = task ∧
            AskedBy levelText i.console.level) ∧
        ∀ e, (Text.upper levelText, e) ∈ takenNames →
          Invocation.ofArguments arguments = .error (.level e) := by
  have hfree (form : Form) (stream : Option Stream) (c : Console) (h : ¬IsTaken levelText) :
      ∃ c', (setup levelText form stream).run c = .ok () c' ∧ AskedBy levelText c'.level := by
    obtain ⟨level, hlevel⟩ := exists_askedBy levelText
    refine ⟨c.replaceManaged level (.managed form (stream.getD .standardError)), ?_, hlevel⟩
    rw [run_setup, ofText_of_askedBy hlevel h]
  have htaken (form : Form) (stream : Option Stream) (c : Console) (e : LevelError)
      (he : (Text.upper levelText, e) ∈ takenNames) :
      (setup levelText form stream).run c = .error e c := by
    rw [run_setup, ofText_of_taken he]
  refine ⟨hfree, htaken, ?_⟩
  intro arguments logging name others readTask task hread hlevel hname htask
  rw [ofArguments_of_read hread hname, hlevel, htask, Console.setup]
  constructor
  · intro h
    obtain ⟨c, hc, hasked⟩ := hfree logging.form none Console.initial h
    rw [hc]
    exact ⟨⟨c, task⟩, rfl, rfl, hasked⟩
  · intro e he
    rw [htaken logging.form none Console.initial e he]
    rfl

theorem not_isTaken_chatty : ¬IsTaken "chatty" := by
  have hnone : ∀ p ∈ takenNames, p.1 ≠ Text.upper "chatty" := by decide
  rintro ⟨e, he⟩
  exact hnone _ he rfl

theorem setup_gives_level_chatty :
    ¬IsTaken "chatty" ∧
      (∃ c, (setup "chatty" .json (some (.named "out"))).run Console.initial = .ok () c ∧
        AskedBy "chatty" c.level) ∧
      (∃ i, Invocation.ofArguments ["--log-level", "chatty", "backoff-defaults"] = .ok i ∧
        i.task = .defaults false ∧ AskedBy "chatty" i.console.level) ∧
      AskedBy "chatty" Level.warning := by
  obtain ⟨hfree, -, hline⟩ := setup_gives_level "chatty"
  have hread : readArguments Line.loggingRules false
      ["--log-level", "chatty", "backoff-defaults"] {} =
        .ok ({ level := "chatty" }, ["backoff-defaults"]) := rfl
  have hname : ("backoff-defaults", Line.readDefaults) ∈ Line.commands := by
    simp [Line.commands]
  have hunknown : ∀ p ∈ Level.names, p.1 ≠ Text.upper "chatty" := by decide
  refine ⟨not_isTaken_chatty, hfree _ _ _ not_isTaken_chatty, ?_, .unknown fun level h ↦ ?_⟩
  · exact (hline _ _ _ _ _ _ hread rfl hname rfl).1 not_isTaken_chatty
  · exact hunknown _ h rfl

/-- Two texts that name no level ask for warnings, but make a set-up and a command fail. -/
theorem level_not_given_basicFormat :
    AskedBy "basic_format" Level.warning ∧
      (setup "basic_format" .plain none).run Console.initial =
        .error .plainLayout Console.initial ∧
      Invocation.ofArguments ["--log-level", "basic_format", "backoff-defaults"] =
        .error (.level .plainLayout) ∧
      AskedBy "_styles" Level.warning ∧
      (setup "_styles" .plain none).run Console.initial = .error .layoutTable Console.initial := by
  have hplain : ∀ p ∈ Level.names, p.1 ≠ Text.upper "basic_format" := by decide
  have htable : ∀ p ∈ Level.names, p.1 ≠ Text.upper "_styles" := by decide
  refine ⟨.unknown fun level h ↦ ?_, rfl, rfl, .unknown fun level h ↦ ?_, rfl⟩
  · exact hplain _ h rfl
  · exact htable _ h rfl

end Log.Work

end Settings
