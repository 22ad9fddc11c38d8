import Settings.Proofs.Schema.Refusals

/-!
# Where issues are located

An issue stands at the path of what is refused: the names of the objects it lies in, and then the
name of the field, or the key that no field has.  A field that is resolved from its stand-in goes by
its position among its siblings, and so do all issues below it.  If every declared default is
accepted, all paths are made of names.
-/

namespace Settings

/-! ## Findings -/

namespace Field

/-- The findings of rules, each of which stands at the object that the rule is attached to. -/
inductive Finds (fields : List Field) (path : List String) : Issue → Prop where
  | mk {parents : List String} {level children : List Field} {info : FieldInfo}
      {rules : List Rule} {rule : Rule} {message : String} (hlevel : Level fields parents level)
      (hf : .object info children rules ∈ level) (hrule : rule ∈ rules) :
      Finds fields path ⟨path ++ parents ++ [info.name], .finding rule.name message⟩

theorem mem_rulesIssues {path : List String} {values : Entries} {rules : List Rule}
    {found : List Issue} (h : rulesIssues path values rules = .ok found) {x : Issue}
    (hx : x ∈ found) : ∃ rule ∈ rules, ∃ m, x = ⟨path, .finding rule.name m⟩ := by
  induction rules generalizing found with
  | nil =>
      cases h
      cases hx
  | cons rule rules ih =>
      simp only [rulesIssues, bind_eq_ok_iff, pure_eq_ok_iff] at h
      obtain ⟨own, hown, rest, hrest, rfl⟩ := h
      rcases List.mem_append.1 hx with hx | hx
      · obtain ⟨messages, -, rfl⟩ := map_eq_ok_iff.1 hown
        obtain ⟨m, -, rfl⟩ := List.mem_map.1 hx
        exact ⟨rule, List.mem_cons_self, m, rfl⟩
      · obtain ⟨rule', hrule, m, rfl⟩ := ih hrest hx
        exact ⟨rule', List.mem_cons_of_mem _ hrule, m, rfl⟩

theorem Finds.inside {info : FieldInfo} {children fields : List Field} {rules : List Rule}
    {path : List String} {x : Issue} (h : Finds children (path ++ [info.name]) x)
    (hf : .object info children rules ∈ fields) : Finds fields path x := by
  cases h with
  | @mk parents level _ _ _ rule m hlevel hf' hrule =>
      rw [List.append_assoc path, List.singleton_append]
      exact .mk (.inside hf hlevel) hf' hrule

mutual

theorem finds_of_lint : ∀ (f : Field) {fields : List Field} {path : List String} {v : Value}
    {found : List Issue} {x : Issue}, f ∈ fields → lint (path ++ [f.name]) v f = .ok found →
    x ∈ found → Finds fields path x
  | .scalar info kind, _, _, _, _, _, _, h, hx => by
      rw [lint] at h
      cases h
      cases hx
  | .object info children rules, fields, path, v, found, x, hf, h, hx => by
      cases v with
      | map values =>
          simp only [lint, bind_eq_ok_iff, pure_eq_ok_iff] at h
          obtain ⟨own, hown, rest, hrest, rfl⟩ := h
          rcases List.mem_append.1 hx with hx | hx
          · obtain ⟨rule, hrule, m, rfl⟩ := mem_rulesIssues hown hx
            have hfinds : Finds fields path ⟨path ++ [] ++ [info.name], .finding rule.name m⟩ :=
              .mk .root hf hrule
            rwa [List.append_nil] at hfinds
          · exact (finds_of_lintAll children (fun c hc ↦ hc) hrest hx).inside hf
      | _ =>
          rw [lint] at h
          · cases h
            cases hx
          · simp

theorem finds_of_lintAll : ∀ (part : List Field) {fields : List Field} {path : List String}
    {values : Entries} {found : List Issue} {x : Issue}, (∀ f ∈ part, f ∈ fields) →
    lintAll path values part = .ok found → x ∈ found → Finds fields path x
  | [], _, _, _, _, _, _, h, hx => by
      rw [lintAll] at h
      cases h
      cases hx
  | f :: part, fields, path, values, found, x, hpart, h, hx => by
      simp only [lintAll_cons, bind_eq_ok_iff, pure_eq_ok_iff] at h
      obtain ⟨own, hown, rest, hrest, rfl⟩ := h
      rcases List.mem_append.1 hx with hx | hx
      · unfold lintEntry at hown
        split at hown
        · exact finds_of_lint f (hpart f List.mem_cons_self) hown hx
        · cases hown
          cases hx
      · exact finds_of_lintAll part (fun c hc ↦ hpart c (List.mem_cons_of_mem f hc)) hrest hx

end

/-- Each name of a path to a level is declared at the level that the names before it lead to. -/
theorem Level.declares {fields level : List Field} {path parents : List String} {name : String}
    (h : Level fields path level) (hpath : parents ++ [name] <+: path) :
    ∃ level', Level fields parents level' ∧ name ∈ level'.map Field.name := by
  induction h generalizing parents with
  | root =>
      have hnil := List.eq_nil_of_prefix_nil hpath
      simp at hnil
  | @inside fields children level info rules path hf hlevel ih =>
      cases parents with
      | nil =>
          obtain ⟨rfl, -⟩ := List.cons_prefix_cons.1 hpath
          exact ⟨fields, .root, List.mem_map_of_mem hf⟩
      | cons n parents =>
          obtain ⟨rfl, hrest⟩ := List.cons_prefix_cons.1 hpath
          obtain ⟨level', hlevel', hname⟩ := ih hrest
          exact ⟨level', .inside hf hlevel', hname⟩

end Field

namespace Schema

open Settings.Field

/-- The issues of a configuration: those that keep it from being parsed, linted or, for the one in
which nothing is given, rendered, and those that linting finds. -/
inductive Raises (s : Schema) (data : Value) (x : Issue) : Prop where
  | parse {lint : Bool} {is : List Issue} (h : s.parse data lint = .error (.issues is))
      (hx : x ∈ is) : Raises s data x
  | lint {is : List Issue} (h : s.lint data = .error (.issues is)) (hx : x ∈ is) : Raises s data x
  | found {is : List Issue} (h : s.lint data = .ok is) (hx : x ∈ is) : Raises s data x
  | defaults {is : List Issue} (hdata : data = .map []) (h : s.defaults = .error (.issues is))
      (hx : x ∈ is) : Raises s data x

/-- The way from the root to what is wrong. -/
inductive Reports (s : Schema) (data : Value) : List Segment → Issue.Cause → Prop where
  | root (h : inputOf data = none) : Reports s data [] (.problem (.rootNotObject data.typeName))
  | refused {root : Entries} {path : List Segment} {q : Place} {last : Segment} {p : Problem}
      (hroot : inputOf data = some root)
      (hpath : (Place.mk rootModel s.fields root).Reaches path q) (hlast : q.Refuses last p) :
      Reports s data (path ++ [last]) (.problem p)
  | finding {x : Issue} (h : Finds s.fields [] x) : Reports s data (x.path.map .given) x.cause

/-- Whether each name of a path is a declared one where it stands, or the text of a key that is
given there and is not declared. -/
def Addresses (s : Schema) (data : Value) (path : List String) : Prop :=
  ∀ parents name, parents ++ [name] <+: path → ∃ level, Level s.fields parents level ∧
    (name ∈ level.map Field.name ∨ ∃ root entries, inputOf data = some root ∧
      (Value.map root).at? (textPath parents) = some (.map entries) ∧
      ∃ e ∈ entries, ¬IsDeclared level e.1 ∧ name = keySegment e.1)

variable {s : Schema} {data : Value} {x : Issue}

theorem resolve_eq_issues_iff {is : List Issue} :
    s.resolve data = .error (.issues is) ↔
      Settings.resolve s.fields data = .error is ∧ ∀ i ∈ is, i.overflow? = none := by
  rw [resolve_eq_error_iff]
  constructor
  · rintro ⟨js, hjs, his⟩
    obtain ⟨rfl, hnone⟩ := ParseError.ofIssues_eq_issues_iff.1 his.symm
    exact ⟨hjs, hnone⟩
  · rintro ⟨his, hnone⟩
    exact ⟨is, his, (ParseError.ofIssues_of_none hnone).symm⟩

theorem reports_of_resolve {is : List Issue} (h : s.resolve data = .error (.issues is))
    (hx : x ∈ is) :
    ∃ path, s.Reports data path x.cause ∧ x.path = path.map Segment.shown := by
  have hentries {root : Entries} (hroot : inputOf data = some root)
      (hroot' : resolveEntries s.fields root = .error is) :
      ∃ path, s.Reports data path x.cause ∧ x.path = path.map Segment.shown := by
    have hissues : (resolveEntries s.fields root).issues =
        (Place.mk rootModel s.fields root).issues := by
      rw [resolveEntries, Checked.issues_both, Checked.issues_ofIssues, Place.issues]
    rw [hroot'] at hissues
    have hmem : x ∈ (Place.mk rootModel s.fields root).issues := hissues ▸ hx
    obtain ⟨path, q, last, p, hpath, hlast, rfl⟩ := Place.mem_issues_iff.1 hmem
    exact ⟨path ++ [last], .refused hroot hpath hlast, rfl⟩
  have hother (hnone : inputOf data = none)
      (hroot : [(Problem.rootNotObject data.typeName).issue] = is) :
      ∃ path, s.Reports data path x.cause ∧ x.path = path.map Segment.shown := by
    rw [← hroot, List.mem_singleton] at hx
    rw [hx]
    exact ⟨[], .root hnone, rfl⟩
  obtain ⟨hresolve, -⟩ := resolve_eq_issues_iff.1 h
  cases data with
  | null => exact hentries rfl hresolve
  | map root => exact hentries rfl hresolve
  | _ => exact hother rfl (Except.error.inj hresolve)

theorem reports_of_findings {es : Entries} {found : List Issue}
    (h : s.findings es = .ok found) (hx : x ∈ found) :
    ∃ path, s.Reports data path x.cause ∧ x.path = path.map Segment.shown := by
  have hlint : lintAll [] es s.fields = .ok found := mapError_eq_ok_iff.1 h
  refine ⟨_, .finding (finds_of_lintAll s.fields (fun f hf ↦ hf) hlint hx), ?_⟩
  rw [Segment.map_shown_map_given]

theorem findings_ne_issues (es : Entries) (is : List Issue) :
    s.findings es ≠ .error (.issues is) := by
  rw [findings]
  cases lintAll [] es s.fields with
  | ok found => rintro ⟨⟩
  | error cause => rintro ⟨⟩

/-- Issues against a configuration come from resolving it, or from the rules if it resolves. -/
theorem parse_eq_issues_cases {lint : Bool} {is : List Issue}
    (h : s.parse data lint = .error (.issues is)) :
    s.resolve data = .error (.issues is) ∨
      ∃ es, s.resolve data = .ok es ∧ s.findings es = .ok is := by
  unfold Schema.parse at h
  cases hes : s.resolve data with
  | error e =>
      rw [hes, error_bind, Except.error.injEq] at h
      exact .inl (h ▸ rfl)
  | ok es =>
      right
      refine ⟨es, rfl, ?_⟩
      rw [hes, ok_bind] at h
      cases lint with
      | false => cases h
      | true =>
          cases hfound : s.findings es with
          | error e =>
              rw [hfound, if_pos rfl, error_bind, Except.error.injEq] at h
              exact absurd (h ▸ hfound) (findings_ne_issues es is)
          | ok found =>
              rw [hfound] at h
              cases found with
              | nil => cases h
              | cons i rest =>
                  cases h
                  rfl

theorem Raises.reports (h : s.Raises data x) :
    ∃ path, s.Reports data path x.cause ∧ x.path = path.map Segment.shown := by
  cases h with
  | parse h hx =>
      rcases parse_eq_issues_cases h with hes | ⟨es, -, hfound⟩
      · exact reports_of_resolve hes hx
      · exact reports_of_findings hfound hx
  | @lint is h hx =>
      unfold Schema.lint at h
      cases hes : s.resolve data with
      | error e =>
          rw [hes, error_bind, Except.error.injEq] at h
          exact reports_of_resolve (h ▸ hes) hx
      | ok es =>
          rw [hes, ok_bind] at h
          exact absurd h (findings_ne_issues es is)
  | found h hx =>
      obtain ⟨es, -, hfound⟩ := bind_eq_ok_iff.1 h
      exact reports_of_findings hfound hx
  | @defaults is hdata h hx =>
      subst hdata
      have hresolve : s.resolve (.map []) = .error (.issues is) := by
        unfold Schema.defaults at h
        cases hes : s.resolve (.map []) with
        | ok es =>
            rw [hes] at h
            cases h
        | error e =>
            rw [hes] at h
            exact h
      exact reports_of_resolve hresolve hx

/-- Where every declared default is accepted, the way to an issue consists of names that can be
read off the schema and the given entries. -/
theorem Reports.addresses {path : List Segment} {c : Issue.Cause} (h : s.Reports data path c)
    (hs : ∀ f ∈ s.fields, f.DefaultsAccepted) :
    (∀ g ∈ path, g.standIn = none) ∧ s.Addresses data (path.map Segment.name) := by
  cases h with
  | root h =>
      refine ⟨by simp, fun parents name hpath ↦ ?_⟩
      have hnil := List.eq_nil_of_prefix_nil hpath
      simp at hnil
  | @refused root path q last p hroot hpath hlast =>
      obtain ⟨hgiven, hat⟩ := hpath.given hs hlast
      refine ⟨hgiven, fun parents name hpre ↦ ?_⟩
      rw [List.map_append, List.map_singleton, List.prefix_concat_iff] at hpre
      rcases hpre with hwhole | hpre
      · obtain ⟨rfl, hname⟩ := List.append_inj' hwhole rfl
        obtain rfl : name = last.name := by simpa using hname
        refine ⟨q.fields, hpath.level, ?_⟩
        cases hlast with
        | missing hf => exact .inl (List.mem_map_of_mem hf)
        | rejected hf => exact .inl (List.mem_map_of_mem (List.mem_of_getElem? hf))
        | @unknownKey key v he hkey =>
            refine .inr ⟨root, q.input, hroot, hat, _, he, ?_, rfl⟩
            rintro ⟨f, hf, heq⟩
            cases heq
            exact hkey (List.mem_map_of_mem hf)
        | @keyNotText key v he hkey =>
            refine .inr ⟨root, q.input, hroot, hat, _, he, ?_, rfl⟩
            rintro ⟨f, -, heq⟩
            exact hkey _ heq
      · obtain ⟨level, hlevel, hname⟩ := hpath.level.declares hpre
        exact ⟨level, hlevel, .inl hname⟩
  | finding h =>
      cases h with
      | @mk parents level children info rules rule m hlevel hf hrule =>
          have hgiven : ∀ g ∈ ([] ++ parents ++ [info.name]).map Segment.given,
              g.standIn = none := by
            intro g hg
            obtain ⟨name, -, rfl⟩ := List.mem_map.1 hg
            rfl
          refine ⟨hgiven, fun names name hpre ↦ ?_⟩
          have hnames : (([] ++ parents ++ [info.name]).map Segment.given).map Segment.name =
              parents ++ [info.name] := by
            rw [List.map_map, List.nil_append]
            exact List.map_id _
          rw [hnames, List.prefix_concat_iff] at hpre
          rcases hpre with hwhole | hpre
          · obtain ⟨rfl, hname⟩ := List.append_inj' hwhole rfl
            obtain rfl : name = info.name := by simpa using hname
            exact ⟨level, hlevel, .inl (List.mem_map_of_mem hf)⟩
          · obtain ⟨level', hlevel', hname⟩ := hlevel.declares hpre
            exact ⟨level', hlevel', .inl hname⟩

/-- An issue stands at the path to what is wrong.  Each step on the way is shown by its name,
unless a field is resolved from its stand-in there, which is shown by the position of the field.  If
all declared defaults are accepted, every step is shown by its name: the names of declared fields
where they are declared, or at the end the text of a key that is given. -/
theorem issues_located (h : s.Raises data x) :
    ∃ path, s.Reports data path x.cause ∧ x.path = path.map Segment.shown ∧
      ((∀ f ∈ s.fields, f.DefaultsAccepted) →
        x.path = path.map Segment.name ∧ s.Addresses data x.path) := by
  obtain ⟨path, hreports, hpath⟩ := h.reports
  refine ⟨path, hreports, hpath, fun hs ↦ ?_⟩
  obtain ⟨hgiven, haddresses⟩ := hreports.addresses hs
  have hnames : x.path = path.map Segment.name :=
    hpath.trans (Segment.map_shown_of_given hgiven)
  exact ⟨hnames, hnames ▸ haddresses⟩

/-- A limit that is no number and a key that nobody declared, below an object. -/
def limitsOfWords : Entries :=
  [(.str "host", .str "h"), (.str "limits", .map [(.str "burst", .str "many"), (.int 7, .null)])]

theorem defaultsAccepted_hostAndLimits : ∀ f ∈ hostAndLimits.fields, f.DefaultsAccepted := by
  have hburst : DefaultsAccepted (.scalar { name := "burst", isOptional := true } .int) :=
    .mk (by simp [info]) (by simp [children])
  intro f hf
  obtain rfl | rfl : f = _ ∨ f = _ := by simpa [hostAndLimits] using hf
  · exact .mk (by simp [info]) (by simp [children])
  · exact .mk (by simp [info]) (by simpa [children] using hburst)

theorem issues_located_hostAndLimits :
    hostAndLimits.Raises (.map limitsOfWords) ⟨["limits", "burst"], .problem .integerSyntax⟩ ∧
      hostAndLimits.Raises (.map limitsOfWords) ⟨["limits", "7"], .problem .keyNotText⟩ ∧
      hostAndLimits.Addresses (.map limitsOfWords) ["limits", "burst"] ∧
      hostAndLimits.Addresses (.map limitsOfWords) ["limits", "7"] := by
  have hparse : hostAndLimits.parse (.map limitsOfWords) true =
      .error (.issues [⟨["limits", "burst"], .problem .integerSyntax⟩,
        ⟨["limits", "7"], .problem .keyNotText⟩]) := by
    rfl
  have hburst := Raises.parse hparse List.mem_cons_self
  have hseven := Raises.parse hparse (List.mem_cons_of_mem _ List.mem_cons_self)
  obtain ⟨_, -, -, hburstNames⟩ := issues_located hburst
  obtain ⟨_, -, -, hsevenNames⟩ := issues_located hseven
  exact ⟨hburst, hseven, (hburstNames defaultsAccepted_hostAndLimits).2,
    (hsevenNames defaultsAccepted_hostAndLimits).2⟩

/-- Two numbers, the first with a default that is none and the second under the name that stands for
the position of the first. -/
def strayDefault : Schema :=
  ⟨[.scalar { name := "n", defaultValue := some (.str "x") } .int,
    .scalar { name := "field_0", defaultValue := some (.int 1) } .int]⟩

theorem built_strayDefault : strayDefault.Built := by
  have hint {name : String} (hname : Text.isBlankText name = false) (v : Value) :
      Field.Built (.scalar { name := name, defaultValue := some v } .int) := by
    exact .step (s := .default v) (.newScalar hname .int) rfl
  have hn := hint (show Text.isBlankText "n" = false by decide) (.str "x")
  have hother := hint (show Text.isBlankText "field_0" = false by decide) (.int 1)
  exact built_of_fields (by decide) (by simp [strayDefault, hn, hother])

/-- An issue with the default of one field stands under the name of another one, where the same
issue with a given value stands under the field's own name. -/
theorem strayDefault_located :
    strayDefault.Built ∧
      strayDefault.parse (.map []) true =
        .error (.issues [⟨["field_0"], .problem .integerSyntax⟩]) ∧
      strayDefault.parse (.map [(.str "n", .str "x")]) true =
        .error (.issues [⟨["n"], .problem .integerSyntax⟩]) :=
  ⟨built_strayDefault, rfl, rfl⟩

end Schema

end Settings
