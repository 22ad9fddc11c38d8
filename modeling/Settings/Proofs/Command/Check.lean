import Settings.Command.Run
import Settings.Loading
import Settings.Proofs.Backoff.Section
import Settings.Proofs.Overlay.Precedence

/-!
# Checking a section and loading the whole configuration

The command that checks a backoff section descends to it and parses it by itself.  It succeeds
exactly if the whole file loads against a schema with the same field below the objects on the way,
it then reports the policy that is in the loaded configuration, and it otherwise reports the issues
that loading raises.
-/

namespace Settings.Command

open Settings.Backoff (Extracts)

/-! ## The command line -/

/-- Whether a name can stand in a path in writing. -/
structure IsPathSegment (name : String) : Prop where
  notBlank : Text.isBlankText name = false
  noDot : '.' ∉ name.toList

theorem IsPathSegment.toList_ne_nil {name : String} (h : IsPathSegment name) :
    name.toList ≠ [] := by
  intro hnil
  have hblank := h.notBlank
  rw [Text.isBlankText, hnil] at hblank
  cases hblank

theorem pathSegments_intercalate {segments : List String} (h : ∀ s ∈ segments, IsPathSegment s)
    (hne : segments ≠ []) : pathSegments (".".intercalate segments) = segments := by
  have hsplit : (".".intercalate segments).toList.splitOn '.' = segments.map String.toList := by
    rw [String.toList_intercalate]
    refine List.splitOn_intercalate '.' ?_ (by simpa using hne)
    intro cs hcs
    obtain ⟨s, hs, rfl⟩ := List.mem_map.1 hcs
    exact (h s hs).noDot
  have hfilter : (segments.map String.toList).filter (!·.isEmpty) = segments.map String.toList := by
    apply List.filter_eq_self.2
    intro cs hcs
    obtain ⟨s, hs, rfl⟩ := List.mem_map.1 hcs
    simpa using (h s hs).toList_ne_nil
  rw [pathSegments, hsplit, hfilter, List.map_map]
  simp [Function.comp_def]

def checkArguments (c : Check) : List String :=
  ["backoff-check", "--path", c.path] ++ (if c.shape.toggled then ["--toggled"] else []) ++
    (if c.shape.allowUnbounded then ["--allow-unbounded"] else []) ++ ["--", c.config]

theorem readCheck_checkArguments (c : Check) :
    Line.readCheck (checkArguments c).tail =
      if (pathSegments c.path).isEmpty then .error .emptyPath else .ok (.check c) := by
  obtain ⟨config, path, ⟨toggled, allowUnbounded⟩⟩ := c
  cases toggled <;> cases allowUnbounded <;> rfl

/-- Every check of a path that names something can be asked for. -/
theorem exists_ofArguments {c : Check} (h : pathSegments c.path ≠ []) :
    ∃ i, Invocation.ofArguments (checkArguments c) = .ok i ∧ i.task = .check c := by
  have hread : Line.readCheck (checkArguments c).tail = .ok (.check c) := by
    rw [readCheck_checkArguments, if_neg (by simpa using h)]
  have hline : Invocation.ofArguments (checkArguments c) =
      ((Log.Console.initial.setup "WARNING" .plain).mapError LineError.level >>= fun console =>
        ((Line.readCheck (checkArguments c).tail).mapError LineError.usage >>= fun task =>
          pure { console, task })) := rfl
  rw [hline, hread]
  exact ⟨_, rfl, rfl⟩

/-! ## Running the command -/

/-- What a successful check prints: an object with the path, two truth values and three times. -/
def reportLines (path : String) (p : Backoff.Policy) (enabled : Bool) : List String :=
  ["\x7b",
    "  \"path\": " ++ Json.quoted path ++ ",",
    "  \"enabled\": " ++ (if enabled then "true" else "false") ++ ",",
    "  \"unbounded\": " ++ (if p.maxElapsedTime.micros = 0 then "true" else "false") ++ ",",
    "  \"initial_interval\": " ++ Json.quoted p.initialInterval.canonical ++ ",",
    "  \"max_interval\": " ++ Json.quoted p.maxInterval.canonical ++ ",",
    "  \"max_elapsed_time\": " ++ Json.quoted p.maxElapsedTime.canonical,
    "\x7d"]

/-- What a check prints on issues: a line for each, with its path and its message. -/
def issueLines (is : List Issue) : List String :=
  "❌ Backoff section is invalid:" ::
    is.map fun issue => "   " ++ dottedPath (issue.path.map .str) ++ ": " ++ issue.message

def Invocation.log (i : Invocation) (content : File.Content) (timestamp : String) : String :=
  i.console.textOfAll timestamp (i.task.value content).records

section Run

variable {i : Invocation} {c : Check} {content : File.Content} (timestamp : String)

theorem result_value_check (c : Check) (content : File.Content) :
    (Task.value content (.check c)).result =
      (c.policy content).result.map fun found => c.report found.1 found.2 := by
  rw [Task.value, Journal.result_bind]
  cases (c.policy content).result <;> rfl

theorem isUnbounded_eq_decide (p : Backoff.Policy) :
    p.isUnbounded = decide (p.maxElapsedTime.micros = 0) := by
  obtain ⟨_, _, ⟨micros, hmicros⟩, _, _⟩ := p
  rw [Backoff.Policy.isUnbounded, Bool.beq_eq_decide_eq]
  simp [Duration.zero]

theorem text_report (c : Check) (p : Backoff.Policy) (enabled : Bool) :
    Json.text .indented (c.report p enabled) ++ "\n" =
      joinLines (reportLines c.path p enabled) := by
  have hpath : Json.quoted "path" = "\"path\"" := by decide
  have henabled : Json.quoted "enabled" = "\"enabled\"" := by decide
  have hunbounded : Json.quoted "unbounded" = "\"unbounded\"" := by decide
  have hinitial : Json.quoted Backoff.initialIntervalName = "\"initial_interval\"" := by decide
  have hlongest : Json.quoted Backoff.maxIntervalName = "\"max_interval\"" := by decide
  have helapsed : Json.quoted Backoff.maxElapsedTimeName = "\"max_elapsed_time\"" := by decide
  simp only [Json.text, Check.report, Backoff.Policy.literals, List.map_cons, List.map_nil,
    List.cons_append, List.nil_append, Json.write?, Json.writeEntries?, Json.keyText?,
    Option.bind_eq_bind, Option.bind_some, Option.pure_def, Option.map_some, Option.getD_some,
    Json.Layout.enclose, isUnbounded_eq_decide, decide_eq_true_eq, hpath, henabled, hunbounded,
    hinitial, hlongest, helapsed]
  rw [← String.toList_inj]
  simp [joinLines, reportLines]

theorem run_of_policy_eq_ok (htask : i.task = .check c) {p : Backoff.Policy} {enabled : Bool}
    (h : (c.policy content).result = .ok (p, enabled)) :
    i.run content timestamp =
      .exited 0 (joinLines (reportLines c.path p enabled)) (i.log content timestamp) := by
  have hresult : (i.task.value content).result = .ok (c.report p enabled) := by
    rw [htask, result_value_check, h]
    rfl
  rw [← text_report, Invocation.run, hresult]
  rfl

theorem run_of_policy_eq_error (htask : i.task = .check c) {e : RunError}
    (h : (c.policy content).result = .error e) :
    i.run content timestamp =
      match e.lines? c.parents with
      | some lines => .exited 1 "" (i.log content timestamp ++ joinLines lines)
      | none => .brokenOff e (i.log content timestamp) := by
  have hresult : (i.task.value content).result = .error e := by
    rw [htask, result_value_check, h]
    rfl
  have hparents : i.task.parents = c.parents := by
    rw [htask]
    rfl
  simp only [Invocation.run, hresult, hparents]
  rfl

end Run

/-! ## The policy of a section -/

theorem result_sectionSchema {name : String} (hname : Text.isBlankText name = false) (s : Shape) :
    (sectionSchema name s).result = .ok ⟨[Backoff.shape s.toggled name s.allowUnbounded none]⟩ := by
  have hnew : Backoff.newField s.toggled (.str name) s.allowUnbounded none =
      .ok (Backoff.shape s.toggled name s.allowUnbounded none) :=
    Backoff.newField_eq_ok_iff.2 ⟨name, rfl, hname, rfl⟩
  rw [sectionSchema, Journal.result_bind, Backoff.result_declareField, hnew]
  rfl

theorem result_extractSection {a : Accessor} {name : String} {toggled : Bool}
    {p : Backoff.Policy} {enabled : Bool} (h : Extracts toggled a (textPath [name]) p enabled) :
    (extractSection a name toggled).result = .ok (p, enabled) := by
  cases toggled with
  | false =>
      obtain ⟨hp, rfl⟩ : (Backoff.extract a [.str name]).result = .ok p ∧ enabled = true := h
      rw [extractSection, if_neg (by decide), Journal.result_bind, Journal.result_ofExcept, hp]
      rfl
  | true =>
      have hp : (Backoff.extractToggled a [.str name]).result = .ok (p, enabled) := h
      rw [extractSection, if_pos rfl, Journal.result_bind, Journal.result_ofExcept, hp]
      rfl

/-- The field that a section is checked with. -/
def Check.field (c : Check) : Field :=
  Backoff.shape c.shape.toggled c.name c.shape.allowUnbounded none

theorem Check.detachable_field (c : Check) : c.field.Detachable :=
  Backoff.detachable_shape ..

section Policy

variable {c : Check} {content : File.Content} {entries part : Entries}
  (hname : Text.isBlankText c.name = false)
  (hfile : File.read (.ofText c.config) content = .ok entries)

include hname hfile

/-- The policy comes from the section alone. -/
theorem result_policy :
    (c.policy content).result =
      ((sectionAt (.map entries) (textPath c.segments)).mapError RunError.notSection >>= fun part =>
        (Schema.parse ⟨[c.field]⟩ (.map [(.str c.name, .map part)]) true).mapError
            RunError.parse >>= fun a =>
          (extractSection a c.name c.shape.toggled).result) := by
  have hschema : ((sectionSchema c.name c.shape).mapError RunError.declaration).result =
      .ok ⟨[c.field]⟩ := by
    show (sectionSchema c.name c.shape).result.mapError _ = _
    rw [result_sectionSchema hname]
    rfl
  rw [Check.policy, Journal.result_bind, hschema]
  show (Journal.ofExcept ((File.read (.ofText c.config) content).mapError RunError.file) >>=
    _).result = _
  rw [Journal.result_bind, Journal.result_ofExcept, hfile]
  show (Journal.ofExcept ((sectionAt (.map entries) (textPath c.segments)).mapError
    RunError.notSection) >>= _).result = _
  rw [Journal.result_bind, Journal.result_ofExcept]
  refine congrArg _ (funext fun part ↦ ?_)
  rw [Journal.result_bind]
  refine congrArg _ (funext fun a ↦ ?_)
  rw [Journal.result_bind]
  cases (extractSection a c.name c.shape.toggled).result <;> rfl

theorem policy_eq_error_of_no_section {e : SectionError}
    (h : sectionAt (.map entries) (textPath c.segments) = .error e) :
    (c.policy content).result = .error (.notSection e) := by
  rw [result_policy hname hfile, h]
  rfl

theorem policy_eq_error_of_parse {e : ParseError}
    (hpart : sectionAt (.map entries) (textPath c.segments) = .ok part)
    (h : Schema.parse ⟨[c.field]⟩ (.map [(.str c.name, .map part)]) true = .error e) :
    (c.policy content).result = .error (.parse e) := by
  rw [result_policy hname hfile, hpart]
  show (Except.mapError RunError.parse _ >>= _) = _
  rw [h]
  rfl

theorem policy_eq_ok_of_parse {a : Accessor} {p : Backoff.Policy} {enabled : Bool}
    (hpart : sectionAt (.map entries) (textPath c.segments) = .ok part)
    (h : Schema.parse ⟨[c.field]⟩ (.map [(.str c.name, .map part)]) true = .ok a)
    (hp : Extracts c.shape.toggled a (textPath [c.name]) p enabled) :
    (c.policy content).result = .ok (p, enabled) := by
  rw [result_policy hname hfile, hpart]
  show (Except.mapError RunError.parse _ >>= _) = _
  rw [h]
  exact result_extractSection hp

end Policy

/-! ## The whole configuration -/

theorem result_load_of_read (s : Schema) {config : String} {content : File.Content}
    {entries : Entries} (hfile : File.read (.ofText config) content = .ok entries) (lint : Bool) :
    (s.load { file := some ⟨config, content⟩ } lint).result =
      (s.parse (.map entries) lint).mapError .parse := by
  obtain ⟨linked, hlinked, rfl⟩ := map_eq_ok_iff.1 hfile
  have horigin : Origin.fileEntries { file := some ⟨config, content⟩ } = .ok linked := hlinked
  exact s.result_load_of_file horigin lint

/-- Whether a check breaks off as loading does, because a number in a literal became too large. -/
def Outcome.BreaksOffWith (outcome : Outcome) (e : LoadError) (log : String) : Prop :=
  ∃ cause, cause.isRefusal = false ∧ e = .parse (.duration cause) ∧
    outcome = .brokenOff (.parse (.duration cause)) log

/-- What a check of the section at a path does, compared to loading the whole configuration. -/
structure Outcome.AgreesWith (outcome : Outcome) (load : Except LoadError Accessor) (c : Check)
    (path : List String) (stop : ChainEnd) (log : String) : Prop where
  exit : (∃ output errors, outcome = .exited 0 output errors) ↔ ∃ a, load = .ok a
  reported : ∀ a, load = .ok a → ∃ p enabled, Extracts c.shape.toggled a (textPath path) p enabled ∧
    outcome = .exited 0 (joinLines (reportLines c.path p enabled)) log
  refused : ∀ e, load = .error e → outcome.BreaksOffWith e log ∨
    ∃ lines, outcome = .exited 1 "" (log ++ joinLines lines)
  listed : ∀ e, load = .error e → (stop = .absent ∨ ∃ part, stop = .value (.map part)) →
    outcome.BreaksOffWith e log ∨
      ∃ is, e = .parse (.issues is) ∧ outcome = .exited 1 "" (log ++ joinLines (issueLines is))

namespace Outcome.AgreesWith

variable {outcome : Outcome} {load : Except LoadError Accessor} {c : Check} {path : List String}
  {stop : ChainEnd} {log : String}

theorem of_ok {a : Accessor} {p : Backoff.Policy} {enabled : Bool} (hload : load = .ok a)
    (hp : Extracts c.shape.toggled a (textPath path) p enabled)
    (hrun : outcome = .exited 0 (joinLines (reportLines c.path p enabled)) log) :
    outcome.AgreesWith load c path stop log where
  exit := ⟨fun _ ↦ ⟨a, hload⟩, fun _ ↦ ⟨_, _, hrun⟩⟩
  reported b hb := by
    cases hload.symm.trans hb
    exact ⟨p, enabled, hp, hrun⟩
  refused e he := by cases hload.symm.trans he
  listed e he := by cases hload.symm.trans he

theorem of_error {e : LoadError} {lines : List String} (hload : load = .error e)
    (hrun : outcome = .exited 1 "" (log ++ joinLines lines))
    (hlisted : (stop = .absent ∨ ∃ part, stop = .value (.map part)) →
      ∃ is, e = .parse (.issues is) ∧ lines = issueLines is) :
    outcome.AgreesWith load c path stop log where
  exit := by
    constructor
    · rintro ⟨output, errors, hzero⟩
      cases hrun.symm.trans hzero
    · rintro ⟨a, ha⟩
      cases hload.symm.trans ha
  reported a ha := by cases hload.symm.trans ha
  refused d _ := .inr ⟨lines, hrun⟩
  listed d hd hsection := by
    cases hload.symm.trans hd
    obtain ⟨is, he, rfl⟩ := hlisted hsection
    exact .inr ⟨is, he, hrun⟩

theorem of_overflow {cause : DurationError} (hcause : cause.isRefusal = false)
    (hload : load = .error (.parse (.duration cause)))
    (hrun : outcome = .brokenOff (.parse (.duration cause)) log) :
    outcome.AgreesWith load c path stop log where
  exit := by
    constructor
    · rintro ⟨output, errors, hzero⟩
      cases hrun.symm.trans hzero
    · rintro ⟨a, ha⟩
      cases hload.symm.trans ha
  reported a ha := by cases hload.symm.trans ha
  refused d hd := by
    cases hload.symm.trans hd
    exact .inl ⟨cause, hcause, rfl, hrun⟩
  listed d hd _ := by
    cases hload.symm.trans hd
    exact .inl ⟨cause, hcause, rfl, hrun⟩

end Outcome.AgreesWith

section Agreement

variable {parents : List String} {c : Check} {i : Invocation} {content : File.Content}
  {entries : Entries} {stop : ChainEnd}
  (hsegments : c.segments = parents ++ [c.name]) (hname : Text.isBlankText c.name = false)
  (htask : i.task = .check c) (hfile : File.read (.ofText c.config) content = .ok entries)
  (hchain : IsChain (parents ++ [c.name]) stop (.map entries)) (hstop : stop ≠ .value .null)

include hsegments hname htask hfile hchain hstop

/-- Where the chain leads to nothing that could be a section, both fail. -/
theorem agreesWith_of_no_section (hnone : ¬∃ part, stop.section? = some part)
    (timestamp : String) :
    (i.run content timestamp).AgreesWith
      ((Schema.parse ⟨[c.field.nest parents]⟩ (.map entries) true).mapError .parse) c
      (parents ++ [c.name]) stop (i.log content timestamp) := by
  have hsection : ∃ e, sectionAt (.map entries) (textPath c.segments) = .error e := by
    cases h : sectionAt (.map entries) (textPath c.segments) with
    | error e => exact ⟨e, rfl⟩
    | ok part =>
        rw [hsegments] at h
        exact absurd ⟨part, (hchain.sectionFrom_eq_ok_iff hstop []).1 h⟩ hnone
  obtain ⟨e, he⟩ := hsection
  have hpolicy := policy_eq_error_of_no_section hname hfile he
  have hrun := run_of_policy_eq_error timestamp htask hpolicy
  cases hload : Schema.parse ⟨[c.field.nest parents]⟩ (.map entries) true with
  | ok a =>
      exact absurd (Schema.exists_section_of_parse c.detachable_field hchain hstop hload) hnone
  | error d => exact .of_error rfl hrun fun h ↦ absurd (ChainEnd.exists_section_iff.2 h) hnone

/-- Where it leads to a section, what is made of the section decides about both. -/
theorem agreesWith_of_section {part : Entries} (hpart : stop.section? = some part)
    (timestamp : String) :
    (i.run content timestamp).AgreesWith
      ((Schema.parse ⟨[c.field.nest parents]⟩ (.map entries) true).mapError .parse) c
      (parents ++ [c.name]) stop (i.log content timestamp) := by
  have hsection : sectionAt (.map entries) (textPath c.segments) = .ok part := by
    rw [hsegments]
    exact (hchain.sectionFrom_eq_ok_iff hstop []).2 hpart
  have hparents : c.parents = parents := by
    rw [Check.parents, hsegments, List.dropLast_concat]
  -- both parses are compared before it is known how they end, so that the cases go together
  have hagrees : Agrees _ _ _ (Schema.parse ⟨[c.field]⟩ (.map [(.str c.name, .map part)]) true) :=
    Schema.agrees_parse_nest c.detachable_field hchain hpart true
  generalize Schema.parse ⟨[c.field.nest parents]⟩ (.map entries) true = load at hagrees ⊢
  generalize halone : Schema.parse ⟨[c.field]⟩ (.map [(.str c.name, .map part)]) true = alone
    at hagrees
  cases hagrees with
  | @ok a b hab =>
      obtain ⟨p, enabled, hp⟩ := Backoff.exists_extracts halone
      have hpolicy := policy_eq_ok_of_parse hname hfile hsection halone hp
      have hvalues (key : Value) :
          a.toValue.at? (textPath (parents ++ [c.name]) ++ [key]) =
            b.toValue.at? (textPath [c.name] ++ [key]) := by
        rw [hab, textPath_append, List.append_assoc]
        exact at?_nestEntries parents b.entries _
      exact .of_ok rfl ((Extracts.congr hvalues).2 hp)
        (run_of_policy_eq_ok timestamp htask hpolicy)
  | @error d e hde =>
      have hpolicy := policy_eq_error_of_parse hname hfile hsection halone
      have hrun := run_of_policy_eq_error timestamp htask hpolicy
      rcases Backoff.parse_error_cases halone with ⟨is, rfl⟩ | ⟨cause, rfl, hcause⟩
      · rw [hparents] at hrun
        refine .of_error rfl hrun fun _ ↦ ⟨is.map (Issue.below parents), by rw [hde]; rfl, ?_⟩
        rw [issueLines, List.map_map]
        rfl
      · have hlines : (RunError.parse (.duration cause)).lines? c.parents = none :=
          if_neg (by simp [hcause])
        rw [hlines] at hrun
        exact .of_overflow hcause (by rw [hde]; rfl) hrun

end Agreement

/-- For a file that is a chain of maps along the path of a backoff section, to check the section
agrees with loading the file against a schema with the same field below objects. -/
theorem check_agrees_with_load {parents : List String} {name : String} {c : Check} {i : Invocation}
    {content : File.Content} {entries : Entries} {stop : ChainEnd}
    (hnames : ∀ segment ∈ parents ++ [name], IsPathSegment segment)
    (hpath : c.path = ".".intercalate (parents ++ [name])) (htask : i.task = .check c)
    (hfile : File.read (.ofText c.config) content = .ok entries)
    (hchain : IsChain (parents ++ [name]) stop (.map entries)) (hstop : stop ≠ .value .null)
    (timestamp : String) :
    ∃ s, (Backoff.Plan.nested parents c.shape.toggled name none).schema c.shape.allowUnbounded
        [] [] = .ok s ∧
      (i.run content timestamp).AgreesWith
        (s.load { file := some ⟨c.config, content⟩ } true).result c (parents ++ [name]) stop
        (i.log content timestamp) := by
  have hsegments : c.segments = parents ++ [name] := by
    rw [Check.segments, hpath]
    exact pathSegments_intercalate hnames (by simp)
  obtain rfl : c.name = name := by
    rw [Check.name, hsegments, List.getLastD_concat]
  have hblank : ∀ segment ∈ parents ++ [c.name], Text.isBlankText segment = false :=
    fun segment hsegment ↦ (hnames segment hsegment).notBlank
  have hname : Text.isBlankText c.name = false := hblank c.name (by simp)
  refine ⟨_, Backoff.Plan.schema_nested hblank, ?_⟩
  rw [result_load_of_read _ hfile]
  by_cases hsection : ∃ part, stop.section? = some part
  · obtain ⟨part, hpart⟩ := hsection
    exact agreesWith_of_section hsegments hname htask hfile hchain hstop hpart timestamp
  · exact agreesWith_of_no_section hsegments hname htask hfile hchain hstop hsection timestamp

/-! ## A check that fails and one that succeeds -/

instance decidableEqIssues (x : Except ParseError α) (is : List Issue) :
    Decidable (x = .error (.issues is)) :=
  match x with
  | .error (.issues js) => decidable_of_iff (js = is) (by simp)
  | .error (.duration _) => .isFalse (by simp)
  | .ok _ => .isFalse (by simp)

/-- A section that may not be unbounded but is. -/
def zeroCutOff : File.Content :=
  .octets "output:\n  retry:\n    max_elapsed_time: 0s\n".toUTF8.toList

def quickRetry : File.Content :=
  .octets "output:\n  retry:\n    enabled: true\n    initial_interval: 0.25s\n".toUTF8.toList

/-- The check of a section in a file that holds nothing else. -/
def retryCheck (toggled : Bool) : Check :=
  { config := "c.yaml", path := "output.retry", shape := { toggled } }

/-- The schema of such a file. -/
def retrySchema (toggled : Bool) : Schema :=
  ⟨[(Backoff.shape toggled "retry" false none).nest ["output"]]⟩

/-- Whether a file holds a section at the path of the check. -/
def HoldsSection (content : File.Content) (file : LinkedEntries) : Prop :=
  Origin.fileEntries { file := some ⟨"c.yaml", content⟩ } = .ok file ∧
    ((chainEnd? ["output", "retry"] (.map (LinkedEntries.toEntries file))).bind
      ChainEnd.section?).isSome

theorem HoldsSection.exists_chain {content : File.Content} {file : LinkedEntries}
    (h : HoldsSection content file) :
    ∃ stop part, File.read (.ofText "c.yaml") content = .ok (LinkedEntries.toEntries file) ∧
      IsChain (["output"] ++ ["retry"]) stop (.map (LinkedEntries.toEntries file)) ∧
      stop.section? = some part := by
  obtain ⟨hfile, hsection⟩ := h
  obtain ⟨part, hpart⟩ := Option.isSome_iff_exists.1 hsection
  obtain ⟨stop, hstop, hpart⟩ := Option.bind_eq_some_iff.1 hpart
  exact ⟨stop, part, map_eq_ok_iff.2 ⟨file, hfile, rfl⟩, chainEnd?_eq_some_iff.1 hstop, hpart⟩

theorem parse_zeroCutOff :
    ∃ file, HoldsSection zeroCutOff file ∧
      (retrySchema false).parse (.map (LinkedEntries.toEntries file)) true =
        .error (.issues [Backoff.boundedIssue ["output", "retry"]]) := by
  simp only [HoldsSection, and_assoc]
  decide +kernel

theorem parse_quickRetry :
    ∃ file, HoldsSection quickRetry file ∧
      ∃ a, (retrySchema true).parse (.map (LinkedEntries.toEntries file)) true = .ok a ∧
        a.bool (textPath ["output", "retry", "enabled"]) = .ok true ∧
        a.duration (textPath ["output", "retry", "initial_interval"]) = .ok ⟨250000, by decide⟩ ∧
        a.duration (textPath ["output", "retry", "max_interval"]) = .ok ⟨10000000, by decide⟩ ∧
        a.duration (textPath ["output", "retry", "max_elapsed_time"]) =
          .ok ⟨60000000, by decide⟩ := by
  simp only [HoldsSection, and_assoc]
  decide +kernel

theorem isPathSegment_outputRetry : ∀ segment ∈ ["output"] ++ ["retry"], IsPathSegment segment := by
  intro segment hsegment
  simp only [List.cons_append, List.nil_append, List.mem_cons, List.not_mem_nil, or_false]
    at hsegment
  rcases hsegment with rfl | rfl
  · exact ⟨by decide, by decide⟩
  · exact ⟨by decide, by decide⟩

theorem schema_retry (toggled : Bool) :
    (Backoff.Plan.nested ["output"] toggled "retry" none).schema false [] [] =
      .ok (retrySchema toggled) :=
  Backoff.Plan.schema_nested fun segment hsegment ↦
    (isPathSegment_outputRetry segment hsegment).notBlank

theorem ChainEnd.ne_null_of_section {stop : ChainEnd} {part : Entries}
    (h : stop.section? = some part) : stop ≠ .value .null := by
  rintro rfl
  cases h

theorem check_agrees_with_load_outputRetry :
    (∃ i, Invocation.ofArguments ["backoff-check", "--path", "output.retry", "--", "c.yaml"] =
        .ok i ∧
      ((retrySchema false).load { file := some ⟨"c.yaml", zeroCutOff⟩ } true).result =
        .error (.parse (.issues [Backoff.boundedIssue ["output", "retry"]])) ∧
      ∀ timestamp, i.run zeroCutOff timestamp =
        .exited 1 "" (i.log zeroCutOff timestamp ++
          joinLines ["❌ Backoff section is invalid:",
            "   output.retry: max_elapsed_time must be greater than zero, unbounded retries are " ++
              "not allowed for this field"])) ∧
    ∃ i a, Invocation.ofArguments
        ["backoff-check", "--path", "output.retry", "--toggled", "--", "c.yaml"] = .ok i ∧
      ((retrySchema true).load { file := some ⟨"c.yaml", quickRetry⟩ } true).result = .ok a ∧
      ∀ timestamp, i.run quickRetry timestamp =
        .exited 0
          (joinLines ["\x7b", "  \"path\": \"output.retry\",", "  \"enabled\": true,",
            "  \"unbounded\": false,", "  \"initial_interval\": \"250ms\",",
            "  \"max_interval\": \"10s\",", "  \"max_elapsed_time\": \"1m0s\"", "\x7d"])
          (i.log quickRetry timestamp) := by
  constructor
  · obtain ⟨i, hline, htask⟩ : ∃ i, Invocation.ofArguments (checkArguments (retryCheck false)) =
        .ok i ∧ i.task = .check (retryCheck false) := exists_ofArguments (by decide)
    obtain ⟨file, hfile, hparse⟩ := parse_zeroCutOff
    obtain ⟨stop, part, hread, hchain, hpart⟩ := hfile.exists_chain
    have hload := result_load_of_read (retrySchema false) hread true
    rw [hparse] at hload
    refine ⟨i, hline, hload, fun timestamp ↦ ?_⟩
    obtain ⟨s, hs, hagrees⟩ := check_agrees_with_load (c := retryCheck false)
      isPathSegment_outputRetry (by decide) htask hread hchain (ChainEnd.ne_null_of_section hpart)
      timestamp
    obtain rfl := Except.ok.inj ((schema_retry false).symm.trans hs)
    rcases hagrees.listed _ hload (ChainEnd.exists_section_iff.1 ⟨part, hpart⟩) with
      ⟨cause, -, hcause, -⟩ | ⟨is, his, hrun⟩
    · cases hcause
    · cases his
      exact hrun
  · obtain ⟨i, hline, htask⟩ : ∃ i, Invocation.ofArguments (checkArguments (retryCheck true)) =
        .ok i ∧ i.task = .check (retryCheck true) := exists_ofArguments (by decide)
    obtain ⟨file, hfile, a, hparse, henabled, hinitial, hlongest, helapsed⟩ := parse_quickRetry
    obtain ⟨stop, part, hread, hchain, hpart⟩ := hfile.exists_chain
    have hload := result_load_of_read (retrySchema true) hread true
    rw [hparse] at hload
    refine ⟨i, a, hline, hload, fun timestamp ↦ ?_⟩
    obtain ⟨s, hs, hagrees⟩ := check_agrees_with_load (c := retryCheck true)
      isPathSegment_outputRetry (by decide) htask hread hchain (ChainEnd.ne_null_of_section hpart)
      timestamp
    obtain rfl := Except.ok.inj ((schema_retry true).symm.trans hs)
    obtain ⟨p, enabled, hp, hrun⟩ := hagrees.reported a hload
    obtain ⟨henabled', hp⟩ := Backoff.extractToggled_eq_ok_iff.1 hp
    obtain ⟨hinitial', hlongest', helapsed', -⟩ := Backoff.readTimes_eq_ok_iff.1 hp
    obtain rfl := Except.ok.inj (henabled.symm.trans henabled')
    rw [hrun]
    congr 2
    rw [reportLines, ← Except.ok.inj (hinitial.symm.trans hinitial'),
      ← Except.ok.inj (hlongest.symm.trans hlongest'),
      ← Except.ok.inj (helapsed.symm.trans helapsed')]
    decide +kernel

end Settings.Command
