import Settings.Proofs.Schema.Extension
import Settings.Proofs.Schema.NormalForm
import Settings.Proofs.Schema.Refusals

/-!
# What may be left out

Where every declared default is accepted, a field may be left out exactly if it has a value without
input.  An object for which nothing is given raises one issue for each field that has no such value,
in declared order.  What else is wrong with a configuration does not show below such an object.
-/

namespace Settings

/-- The issues of an object at a path for which nothing is given. -/
def requiredIssues (path : List String) (fields : List Field) : List Issue :=
  (fields.filter fun f => !f.resolvesWithoutInput).map fun f =>
    ⟨path ++ [f.name], .problem .missing⟩

/-- Whether an issue stands somewhere below a path, and not at its end. -/
def Issue.isBelow (path : List String) (i : Issue) : Bool :=
  path.isPrefixOf i.path && decide (path.length < i.path.length)

theorem requiredIssues_eq_nil_iff {path : List String} {fields : List Field} :
    requiredIssues path fields = [] ↔ ∀ f ∈ fields, f.resolvesWithoutInput = true := by
  simp [requiredIssues, List.filter_eq_nil_iff]

theorem map_under_requiredIssues (name : String) (path : List String) (fields : List Field) :
    (requiredIssues path fields).map (Issue.under name) = requiredIssues (name :: path) fields := by
  simp [requiredIssues, Issue.under, Function.comp_def]

theorem ofIssues_requiredIssues (path : List String) (fields : List Field) :
    ParseError.ofIssues (requiredIssues path fields) = .issues (requiredIssues path fields) := by
  apply ParseError.ofIssues_of_none
  intro i hi
  obtain ⟨f, -, rfl⟩ := List.mem_map.1 hi
  rfl

theorem filter_isBelow_requiredIssues (fields : List Field) :
    (requiredIssues [] fields).filter (Issue.isBelow []) = requiredIssues [] fields := by
  rw [List.filter_eq_self]
  intro i hi
  obtain ⟨f, -, rfl⟩ := List.mem_map.1 hi
  simp [Issue.isBelow]

theorem filter_isBelow_map_under (name : String) (path : List String) (is : List Issue) :
    (is.map (Issue.under name)).filter (Issue.isBelow (name :: path)) =
      (is.filter (Issue.isBelow path)).map (Issue.under name) := by
  have hbelow : Issue.isBelow (name :: path) ∘ Issue.under name = Issue.isBelow path := by
    funext i
    simp [Issue.isBelow, Issue.under]
  rw [List.filter_map, hbelow]

theorem Issue.exists_of_isBelow {name : String} {path : List String} {i : Issue}
    (h : i.isBelow (name :: path) = true) : ∃ rest, rest ≠ [] ∧ i.path = name :: rest := by
  rw [isBelow, Bool.and_eq_true, List.isPrefixOf_iff_prefix, decide_eq_true_iff] at h
  obtain ⟨hlead, hlength⟩ := h
  obtain ⟨rest, hrest⟩ := hlead
  refine ⟨path ++ rest, ?_, hrest.symm⟩
  rintro hnil
  rw [List.cons_append, hnil] at hrest
  rw [← hrest, List.length_cons, List.length_singleton] at hlength
  omega

/-! ## Failures have issues -/

theorem Checked.both_ne_error_nil {f : α → β → γ} {x : Checked α} {y : Checked β}
    (hx : x ≠ .error []) (hy : y ≠ .error []) : Checked.both f x y ≠ .error [] := by
  cases x with
  | ok a =>
      cases y with
      | ok b => simp
      | error js => simpa [both] using hy
  | error is =>
      cases y with
      | ok b => simpa [both] using hx
      | error js =>
          have his : is ≠ [] := by simpa using hx
          simp [both, his]

theorem Checked.under_ne_error_nil {x : Checked α} (hx : x ≠ .error []) (segment : String) :
    Checked.under segment x ≠ .error [] := by
  cases x with
  | ok a => simp
  | error is =>
      have his : is ≠ [] := by simpa using hx
      simpa [under, Except.mapError] using his

theorem Checked.ofIssues_ne_error_nil (a : α) (is : List Issue) :
    Checked.ofIssues a is ≠ .error [] := by
  cases is <;> simp [ofIssues]

namespace Field

mutual

theorem accept_ne_error_nil (owner : String) (v : Value) : ∀ f : Field,
    f.accept owner v ≠ .error []
  | .scalar info kind => by
      by_cases hnull : isNullable (.scalar info kind) = true ∧ v = .null
      · obtain ⟨hn, rfl⟩ := hnull
        simp [accept_null hn]
      · rw [accept_scalar hnull]
        cases kind.convert v <;> simp [Except.mapError]
  | .object info children rules => by
      by_cases hnull : isNullable (.object info children rules) = true ∧ v = .null
      · obtain ⟨hn, rfl⟩ := hnull
        simp [accept_null hn]
      · by_cases hv : ∃ input, v = .map input
        · obtain ⟨input, rfl⟩ := hv
          rw [accept_object_map]
          apply Checked.both_ne_error_nil
          · exact acceptAll_ne_error_nil _ input 0 children
          · exact Checked.ofIssues_ne_error_nil () _
        · have hmap : ∀ input, v ≠ .map input := fun input h ↦ hv ⟨input, h⟩
          simp [accept_object_other hnull hmap]

theorem acceptAll_ne_error_nil (model : String) (input : Entries) (i : Nat) :
    ∀ fields : List Field, acceptAll model input i fields ≠ .error []
  | [] => by simp [acceptAll]
  | f :: rest => by
      rw [acceptAll_cons]
      apply Checked.both_ne_error_nil
      · rw [acceptSource]
        cases f.source? input with
        | none => simp
        | some v => exact Checked.under_ne_error_nil (accept_ne_error_nil model v f) _
      · exact acceptAll_ne_error_nil model input (i + 1) rest

end

/-! ## Objects for which nothing is given -/

theorem issues_acceptSource_nil {f : Field} (hf : f.DefaultsAccepted) (model : String) (i : Nat) :
    (f.acceptSource model [] i).issues = requiredIssues [] [f] := by
  have hsome := standIn?_isSome f
  rw [acceptSource, source?_nil]
  cases hstandIn : f.standIn? with
  | none =>
      have hwithout : f.resolvesWithoutInput = false := by rw [← hsome, hstandIn]; rfl
      simp [requiredIssues, hwithout, Checked.issues]
  | some v =>
      have hwithout : f.resolvesWithoutInput = true := by rw [← hsome, hstandIn]; rfl
      rw [Checked.issues_under, hf.issues_standIn hstandIn]
      simp [requiredIssues, hwithout]

theorem issues_acceptAll_nil {fields : List Field} (hfields : ∀ f ∈ fields, f.DefaultsAccepted)
    (model : String) (i : Nat) :
    (acceptAll model [] i fields).issues = requiredIssues [] fields := by
  induction fields generalizing i with
  | nil => rfl
  | cons f rest ih =>
      rw [List.forall_mem_cons] at hfields
      have hsplit : requiredIssues [] (f :: rest) =
          requiredIssues [] [f] ++ requiredIssues [] rest := by
        simp only [requiredIssues, ← List.map_append, ← List.filter_append, List.singleton_append]
      rw [acceptAll_cons, Checked.issues_both, issues_acceptSource_nil hfields.1, ih hfields.2,
        hsplit]

/-! ## What stands below one of the objects -/

/-- Below the name of another field there is nothing of a field, whose stand-in raises no issues. -/
theorem filter_isBelow_acceptSource {g : Field} (hg : g.DefaultsAccepted) {name : String}
    (hname : g.name ≠ name) (model : String) (input : Entries) (i : Nat) (path : List String) :
    (g.acceptSource model input i).issues.filter (Issue.isBelow (name :: path)) = [] := by
  rw [List.filter_eq_nil_iff]
  intro x hx hbelow
  obtain ⟨rest, hrest, hpath⟩ := Issue.exists_of_isBelow hbelow
  rcases mem_issues_acceptSource_iff.1 hx with ⟨-, rfl⟩ | ⟨v, y, hv, hy, rfl⟩
  · rw [List.cons.injEq] at hpath
    exact hrest hpath.2.symm
  · have hgiven : (g.segment input i).standIn = none := hg.standIn_segment hv hy i
    have hshown : (g.segment input i).shown = g.name := by
      rw [Segment.shown, hgiven, name_segment]
    rw [Issue.under_path, hshown, List.cons.injEq] at hpath
    exact hname hpath.1

theorem filter_isBelow_acceptAll_of_not_mem {fields : List Field}
    (hfields : ∀ f ∈ fields, f.DefaultsAccepted) {name : String}
    (hname : name ∉ fields.map Field.name) (model : String) (input : Entries) (i : Nat)
    (path : List String) :
    (acceptAll model input i fields).issues.filter (Issue.isBelow (name :: path)) = [] := by
  induction fields generalizing i with
  | nil => rfl
  | cons g rest ih =>
      rw [List.forall_mem_cons] at hfields
      rw [List.map_cons, List.mem_cons, not_or] at hname
      rw [acceptAll_cons, Checked.issues_both, List.filter_append,
        filter_isBelow_acceptSource hfields.1 (Ne.symm hname.1), ih hfields.2 hname.2]
      rfl

/-- Below the name of a field whose value is given there is what stands against this value. -/
theorem filter_isBelow_acceptAll {fields : List Field} (hnames : (fields.map Field.name).Nodup)
    (hfields : ∀ f ∈ fields, f.DefaultsAccepted) {f : Field} (hf : f ∈ fields) {input : Entries}
    {v : Value} (hv : input.get? (.str f.name) = some v) (model : String) (i : Nat)
    (path : List String) :
    (acceptAll model input i fields).issues.filter (Issue.isBelow (f.name :: path)) =
      ((f.accept model v).issues.filter (Issue.isBelow path)).map (Issue.under f.name) := by
  induction fields generalizing i with
  | nil => cases hf
  | cons g rest ih =>
      rw [List.forall_mem_cons] at hfields
      rw [acceptAll_cons, Checked.issues_both, List.filter_append]
      rcases List.mem_cons.1 hf with rfl | hf
      · have hrest : f.name ∉ rest.map Field.name := (List.nodup_cons.1 hnames).1
        have hsource : (f.acceptSource model input i).issues =
            (f.accept model v).issues.map (Issue.under f.name) := by
          rw [acceptSource, source?, sourceSegment, hv]
          exact Checked.issues_under f.name _
        rw [filter_isBelow_acceptAll_of_not_mem hfields.2 hrest, List.append_nil, hsource,
          filter_isBelow_map_under]
      · have hother : g.name ≠ f.name := (name_ne_of_nodup hnames hf).symm
        rw [filter_isBelow_acceptSource hfields.1 hother, ih hnames.of_cons hfields.2 hf]
        rfl

end Field

theorem filter_isBelow_strayKeys (names : List String) (input : Entries) (name : String)
    (path : List String) :
    (strayKeys names input).filter (Issue.isBelow (name :: path)) = [] := by
  rw [List.filter_eq_nil_iff]
  intro x hx hbelow
  obtain ⟨rest, hrest, hpath⟩ := Issue.exists_of_isBelow hbelow
  rcases mem_strayKeys_iff.1 hx with ⟨key, v, -, -, rfl⟩ | ⟨key, v, -, -, rfl⟩
  all_goals
    rw [List.cons.injEq] at hpath
    exact hrest hpath.2.symm

/-- Below a declared object that is given without entries there is one issue for each of its fields
that has to be given. -/
theorem Place.filter_isBelow_issues {fields level : List Field} {path : List String}
    (hlevel : Field.Level fields path level) (hdistinct : Field.Distinct fields)
    (hfields : ∀ f ∈ fields, f.DefaultsAccepted) {model : String} {input : Entries}
    (hgiven : (Value.map input).at? (textPath path) = some (.map [])) :
    (Place.mk model fields input).issues.filter (Issue.isBelow path) =
      requiredIssues path level := by
  induction hlevel generalizing model input with
  | root =>
      obtain rfl : input = [] := by simpa using hgiven
      rw [issues, Field.issues_acceptAll_nil hfields]
      exact (congrArg _ (List.append_nil _)).trans (filter_isBelow_requiredIssues _)
  | @inside fields children level info rules path hf hlevel ih =>
      cases hdistinct with
      | mk hnames hbelow =>
          rw [textPath_cons, Value.at?_map_cons] at hgiven
          obtain ⟨v, hv, hat⟩ := Option.bind_eq_some_iff.1 hgiven
          obtain ⟨inner, rfl⟩ := Value.exists_map_of_at? hat
          have hchildren : ∀ c ∈ children, c.DefaultsAccepted := by
            cases hfields _ hf with
            | mk own below => exact below
          have hinside : ((Field.object info children rules).accept model (.map inner)).issues =
              (Place.mk (model ++ camelName info.name) children inner).issues := by
            rw [Field.accept_object_map, Checked.issues_both, Checked.issues_ofIssues]
            rfl
          have hmine := Field.filter_isBelow_acceptAll hnames hfields hf hv model 0 path
          rw [Field.name_object] at hmine
          rw [issues, List.filter_append, filter_isBelow_strayKeys, List.append_nil, hmine,
            hinside, ih (hbelow _ hf) hchildren hat, map_under_requiredIssues]

namespace Schema

/-- Without linting, entries are parsed or refused with their issues. -/
theorem parse_unlinted_cases (s : Schema) (input : Entries) :
    ((∃ a, s.parse (.map input) false = .ok a) ∧
        (Place.mk rootModel s.fields input).issues = []) ∨
      ((Place.mk rootModel s.fields input).issues ≠ [] ∧ s.parse (.map input) false =
        .error (.ofIssues (Place.mk rootModel s.fields input).issues)) := by
  have hissues : (resolveEntries s.fields input).issues =
      (Place.mk rootModel s.fields input).issues := by
    rw [resolveEntries, Checked.issues_both, Checked.issues_ofIssues, Place.issues]
  have hreason : resolveEntries s.fields input ≠ .error [] := by
    apply Checked.both_ne_error_nil
    · exact Field.acceptAll_ne_error_nil rootModel input 0 s.fields
    · exact Checked.ofIssues_ne_error_nil () _
  rw [parse_unlinted, resolve, Settings.resolve]
  cases hresolve : resolveEntries s.fields input with
  | ok es =>
      rw [hresolve] at hissues
      exact .inl ⟨⟨_, rfl⟩, hissues.symm⟩
  | error is =>
      rw [hresolve] at hissues hreason
      have his : is = (Place.mk rootModel s.fields input).issues := hissues
      refine .inr ⟨?_, by rw [his]; rfl⟩
      rintro hnil
      exact hreason (by rw [his, hnil])

/-- Where every declared default is accepted, nothing has to be given exactly if every field has a
value without input.  Otherwise each field that has none is reported as missing, in declared order,
and nothing else is.  The same goes for the issues below an object that is given without entries,
whatever the rest of the configuration is; they are reported unless a number somewhere else is too
large to be read as a duration. -/
theorem parse_of_nothing_given {s : Schema} (hs : s.Built)
    (hdefaults : ∀ f ∈ s.fields, f.DefaultsAccepted) :
    ((∃ a, s.parse (.map []) false = .ok a) ↔
        ∀ f ∈ s.fields, f.resolvesWithoutInput = true) ∧
      (∀ e, s.parse (.map []) false = .error e → e = .issues (requiredIssues [] s.fields)) ∧
      ∀ data path level, Field.Level s.fields path level →
        data.at? (textPath path) = some (.map []) →
        (∀ a, s.parse data false = .ok a → ∀ f ∈ level, f.resolvesWithoutInput = true) ∧
        ∀ e, s.parse data false = .error e → ∃ is, e = .ofIssues is ∧
          is.filter (Issue.isBelow path) = requiredIssues path level := by
  have hnothing : (Place.mk rootModel s.fields []).issues = requiredIssues [] s.fields := by
    rw [Place.issues, Field.issues_acceptAll_nil hdefaults]
    exact List.append_nil _
  have hroot := s.parse_unlinted_cases []
  rw [hnothing, requiredIssues_eq_nil_iff, Ne, requiredIssues_eq_nil_iff] at hroot
  refine ⟨?_, ?_, fun data path level hlevel hgiven ↦ ?_⟩
  · rcases hroot with ⟨hok, hall⟩ | ⟨hnot, herror⟩
    · exact iff_of_true hok hall
    · refine iff_of_false ?_ hnot
      rintro ⟨a, ha⟩
      cases herror.symm.trans ha
  · intro e he
    rcases hroot with ⟨⟨a, ha⟩, -⟩ | ⟨-, herror⟩
    · cases ha.symm.trans he
    · rw [ofIssues_requiredIssues] at herror
      exact Except.error.inj (he.symm.trans herror)
  · obtain ⟨input, rfl⟩ := Value.exists_map_of_at? hgiven
    have hbelow : (Place.mk rootModel s.fields input).issues.filter (Issue.isBelow path) =
        requiredIssues path level :=
      Place.filter_isBelow_issues hlevel hs.distinct hdefaults hgiven
    rcases s.parse_unlinted_cases input with ⟨⟨a, ha⟩, hnil⟩ | ⟨-, herror⟩
    · refine ⟨fun _ _ ↦ ?_, fun e he ↦ ?_⟩
      · rw [hnil] at hbelow
        exact requiredIssues_eq_nil_iff.1 hbelow.symm
      · cases ha.symm.trans he
    · refine ⟨fun a ha ↦ ?_, fun e he ↦ ?_⟩
      · cases herror.symm.trans ha
      · exact ⟨_, Except.error.inj (he.symm.trans herror), hbelow⟩

/-- A text that has to be given, and a number that a truth value stands in for. -/
def serverFields : List Field :=
  [.scalar { name := "host" } .string,
   .scalar { name := "retries", defaultValue := some (.bool true) } .int]

/-- An object with such fields, an object of which nothing has to be given, and a number. -/
def serviceSchema : Schema :=
  ⟨[.object { name := "server" } serverFields [],
    .object { name := "log" } [.scalar { name := "file", isOptional := true } .string] [],
    .scalar { name := "port" } .int]⟩

theorem built_serviceSchema : serviceSchema.Built := by
  have hhost : Field.Built (.scalar { name := "host" } .string) := .newScalar (by decide) .string
  have hretries : Field.Built
      (.scalar { name := "retries", defaultValue := some (.bool true) } .int) :=
    .step (s := .default (.bool true)) (.newScalar (by decide) .int) rfl
  have hfile : Field.Built (.scalar { name := "file", isOptional := true } .string) :=
    .step (s := .optional) (.newScalar (by decide) .string) rfl
  have hserver : Field.Built (.object { name := "server" } serverFields []) :=
    .newObject (by decide) (by decide) (by simp [serverFields, hhost, hretries])
  have hlog : Field.Built (.object { name := "log" }
      [.scalar { name := "file", isOptional := true } .string] []) :=
    .newObject (by decide) (by decide) (by simpa using hfile)
  have hport : Field.Built (.scalar { name := "port" } .int) := .newScalar (by decide) .int
  exact built_of_fields (by decide) (by simp [serviceSchema, hserver, hlog, hport])

theorem defaultsAccepted_serviceSchema : ∀ f ∈ serviceSchema.fields, f.DefaultsAccepted := by
  have hplain (info : FieldInfo) (hnone : info.defaultValue = none) (kind : ScalarKind) :
      Field.DefaultsAccepted (.scalar info kind) :=
    .mk (by simp [Field.info, hnone]) (by simp [Field.children])
  have hretries : Field.DefaultsAccepted
      (.scalar { name := "retries", defaultValue := some (.bool true) } .int) := by
    refine .mk ?_ (by simp [Field.children])
    intro v hv
    obtain rfl : .bool true = v := by simpa [Field.info] using hv
    exact ⟨rootModel, .int 1, rfl⟩
  intro f hf
  obtain rfl | rfl | rfl : f = _ ∨ f = _ ∨ f = _ := by simpa [serviceSchema] using hf
  · refine .mk (by simp [Field.info]) ?_
    simpa [Field.children, serverFields] using ⟨hplain _ rfl .string, hretries⟩
  · refine .mk (by simp [Field.info]) ?_
    simpa [Field.children] using hplain _ rfl .string
  · exact hplain _ rfl .int

/-- With nothing given the server is missing as a whole, and with an empty server its host is. -/
theorem parse_serviceSchema_of_nothing_given :
    serviceSchema.Built ∧ (∀ f ∈ serviceSchema.fields, f.DefaultsAccepted) ∧
      serviceSchema.parse (.map []) false =
        .error (.issues [⟨["server"], .problem .missing⟩, ⟨["port"], .problem .missing⟩]) ∧
      ∃ is, serviceSchema.parse (.map [(.str "port", .null), (.str "server", .map [])]) false =
          .error (.issues is) ∧
        is.filter (Issue.isBelow ["server"]) = [⟨["server", "host"], .problem .missing⟩] := by
  obtain ⟨-, hissues, hinside⟩ :=
    parse_of_nothing_given built_serviceSchema defaultsAccepted_serviceSchema
  have hserver : (Field.object { name := "server" } serverFields []) ∈ serviceSchema.fields :=
    List.mem_cons_self
  refine ⟨built_serviceSchema, defaultsAccepted_serviceSchema, ?_, ?_⟩
  · cases h : serviceSchema.parse (.map []) false with
    | ok a => cases h
    | error e => exact congrArg Except.error (hissues e h)
  · obtain ⟨-, hbelow⟩ := hinside (.map [(.str "port", .null), (.str "server", .map [])])
      ["server"] serverFields (.inside hserver .root) rfl
    have hparse : serviceSchema.parse (.map [(.str "port", .null), (.str "server", .map [])]) false =
        .error (.issues
          [⟨["server", "host"], .problem .missing⟩, ⟨["port"], .problem .notInteger⟩]) :=
      rfl
    obtain ⟨is, his, hfilter⟩ := hbelow _ hparse
    obtain ⟨rfl, -⟩ := ParseError.ofIssues_eq_issues_iff.1 his.symm
    exact ⟨_, hparse, hfilter⟩

end Schema

end Settings
