import Settings.Proofs.Schema.Findings
import Settings.Proofs.Schema.Resolution

/-!
# Schemas below a name

The fields of a schema can be put below an object field.  A configuration below the name of that
field then leads to the same values below the name, or to the same issues with the name in front of
their paths.  Only the names of models, which some messages quote, grow by the name as well.
-/

namespace Settings

/-! ## Issues of models that are called differently -/

/-- Whether two issues differ at most in how the name of a model starts. -/
inductive Issue.Renamed (m m' : String) : Issue → Issue → Prop where
  | same (i : Issue) : Renamed m m' i i
  | model (path : List String) (rest : String) :
      Renamed m m' ⟨path, .problem (.notObject (m ++ rest))⟩
        ⟨path, .problem (.notObject (m' ++ rest))⟩

theorem Issue.Renamed.under {m m' : String} {i j : Issue} (h : Renamed m m' i j)
    (segment : String) : Renamed m m' (i.under segment) (j.under segment) := by
  cases h with
  | same => exact .same _
  | model path rest => exact .model (segment :: path) rest

theorem forall₂_renamed_refl (m m' : String) (is : List Issue) :
    List.Forall₂ (Issue.Renamed m m') is is :=
  List.forall₂_same.2 fun i _ ↦ .same i

theorem Agrees.under {m m' : String} {x y : Checked α} (segment : String)
    (h : Agrees (List.Forall₂ (Issue.Renamed m m')) Eq x y) :
    Agrees (List.Forall₂ (Issue.Renamed m m')) Eq (x.under segment) (y.under segment) := by
  refine h.mapError fun is js hij ↦ ?_
  rw [List.forall₂_map_left_iff, List.forall₂_map_right_iff]
  exact hij.imp fun i j hr ↦ hr.under segment

theorem Agrees.both {R : List Issue → List Issue → Prop}
    (happend : ∀ is js is' js', R is js → R is' js' → R (is ++ is') (js ++ js'))
    {x y : Checked α} {x' y' : Checked β} (f : α → β → γ) (h : Agrees R Eq x y)
    (h' : Agrees R Eq x' y') : Agrees R Eq (Checked.both f x x') (Checked.both f y y') := by
  cases h with
  | ok hab =>
      cases h' with
      | ok hcd => exact .ok (by rw [hab, hcd])
      | error hed => exact .error hed
  | error hed =>
      cases h' with
      | ok => exact .error hed
      | error hed' => exact .error (happend _ _ _ _ hed hed')

theorem forall₂_renamed_append (m m' : String) (is js is' js' : List Issue)
    (h : List.Forall₂ (Issue.Renamed m m') is js)
    (h' : List.Forall₂ (Issue.Renamed m m') is' js') :
    List.Forall₂ (Issue.Renamed m m') (is ++ is') (js ++ js') :=
  List.rel_append h h'

theorem Agrees.same (m m' : String) (x : Checked α) :
    Agrees (List.Forall₂ (Issue.Renamed m m')) Eq x x := by
  cases x with
  | ok a => exact .ok rfl
  | error is => exact .error (forall₂_renamed_refl m m' is)

namespace Field

mutual

theorem agrees_accept (m m' rest : String) (v : Value) : ∀ f : Field,
    Agrees (List.Forall₂ (Issue.Renamed m m')) Eq (accept (m ++ rest) v f)
      (accept (m' ++ rest) v f)
  | .scalar info kind => by
      have hsame : accept (m ++ rest) v (.scalar info kind) =
          accept (m' ++ rest) v (.scalar info kind) := by simp only [accept]
      rw [hsame]
      exact .same m m' _
  | .object info children rules => by
      by_cases hnull : isNullable (.object info children rules) = true ∧ v = .null
      · obtain ⟨hn, rfl⟩ := hnull
        rw [accept_null hn, accept_null hn]
        exact .same m m' _
      · by_cases hv : ∃ input, v = .map input
        · obtain ⟨input, rfl⟩ := hv
          rw [accept_object_map, accept_object_map, String.append_assoc, String.append_assoc]
          exact .both (forall₂_renamed_append m m') _ (agrees_acceptAll m m' _ input 0 children)
            (.same m m' _)
        · have hv' : ∀ input, v ≠ .map input := fun input h ↦ hv ⟨input, h⟩
          rw [accept_object_other hnull hv', accept_object_other hnull hv', String.append_assoc,
            String.append_assoc]
          exact .error (.cons (.model [] _) .nil)

theorem agrees_acceptAll (m m' rest : String) (input : Entries) (i : Nat) : ∀ fields : List Field,
    Agrees (List.Forall₂ (Issue.Renamed m m')) Eq (acceptAll (m ++ rest) input i fields)
      (acceptAll (m' ++ rest) input i fields)
  | [] => .same m m' _
  | f :: fields => by
      rw [acceptAll_cons, acceptAll_cons]
      refine .both (forall₂_renamed_append m m') _ ?_
        (agrees_acceptAll m m' rest input (i + 1) fields)
      rw [acceptSource, acceptSource]
      cases f.source? input with
      | none => exact .same m m' _
      | some v => exact (agrees_accept m m' rest v f).under _

end

/-! ## Findings below a name -/

theorem map_findings_append (g : Issue → Issue) (x y : Except DurationError (List Issue)) :
    (x >>= fun found => y >>= fun after => pure (found ++ after)).map (List.map g) =
      x.map (List.map g) >>= fun found => y.map (List.map g) >>= fun after =>
        pure (found ++ after) := by
  cases x with
  | error e => rfl
  | ok found =>
      cases y with
      | error e => rfl
      | ok after => exact congrArg Except.ok List.map_append

theorem rulesIssues_below (n : String) (path : List String) (values : Entries)
    (rules : List Rule) :
    rulesIssues (n :: path) values rules =
      (rulesIssues path values rules).map (List.map (Issue.under n)) := by
  induction rules with
  | nil => rfl
  | cons rule rules ih =>
      have hrule : rule.issues (n :: path) values =
          (rule.issues path values).map (List.map (Issue.under n)) := by
        unfold Rule.issues
        cases rule.check values with
        | error e => rfl
        | ok messages =>
            refine congrArg Except.ok ?_
            rw [List.map_map]
            rfl
      rw [rulesIssues, rulesIssues, map_findings_append, ← hrule, ← ih]

mutual

theorem lint_below (n : String) (path : List String) (v : Value) : ∀ f : Field,
    lint (n :: path) v f = (lint path v f).map (List.map (Issue.under n))
  | .scalar .. => rfl
  | .object info children rules => by
      cases v with
      | map values =>
          rw [lint, lint, map_findings_append, rulesIssues_below,
            lintAll_below n path values children]
      | _ => rfl

theorem lintAll_below (n : String) (path : List String) (values : Entries) :
    ∀ fields : List Field,
      lintAll (n :: path) values fields =
        (lintAll path values fields).map (List.map (Issue.under n))
  | [] => rfl
  | f :: fields => by
      have hentry : lintEntry (n :: path) values f =
          (lintEntry path values f).map (List.map (Issue.under n)) := by
        rw [lintEntry, lintEntry]
        cases values.get? (.str f.name) with
        | none => rfl
        | some v => exact lint_below n (path ++ [f.name]) v f
      rw [lintAll_cons, lintAll_cons, map_findings_append, hentry,
        lintAll_below n path values fields]

end

end Field

/-! ## The two schemas -/

/-- Whether an issue is another one, met below a name. -/
structure Issue.Nested (n : String) (outer inner : Issue) : Prop where
  path : outer.path = n :: inner.path
  rule : outer.rule = inner.rule
  message : outer.message = inner.message ∨
    ∃ rest, inner.message = Problem.message (.notObject (rootModel ++ rest)) ∧
      outer.message = Problem.message (.notObject (rootModel ++ camelName n ++ rest))
  overflow : outer.overflow? = inner.overflow?

inductive ParseError.Nested (n : String) : ParseError → ParseError → Prop where
  | issues {outer inner : List Issue} (h : List.Forall₂ (Issue.Nested n) outer inner) :
      Nested n (.issues outer) (.issues inner)
  | duration (cause : DurationError) : Nested n (.duration cause) (.duration cause)

theorem Issue.Renamed.nested {n : String} {i j : Issue}
    (h : Renamed rootModel (rootModel ++ camelName n) i j) : Issue.Nested n (j.under n) i := by
  cases h with
  | same => exact ⟨rfl, rfl, .inl rfl, rfl⟩
  | model path rest => exact ⟨rfl, rfl, .inr ⟨rest, rfl, rfl⟩, rfl⟩

theorem Issue.forall₂_nested_under (n : String) (is : List Issue) :
    List.Forall₂ (Issue.Nested n) (is.map (Issue.under n)) is := by
  rw [List.forall₂_map_left_iff, List.forall₂_same]
  exact fun i _ ↦ (Issue.Renamed.same i).nested

theorem ParseError.Nested.ofIssues {n : String} {outer inner : List Issue}
    (h : List.Forall₂ (Issue.Nested n) outer inner) :
    Nested n (ParseError.ofIssues outer) (ParseError.ofIssues inner) := by
  have hsame : outer.findSome? Issue.overflow? = inner.findSome? Issue.overflow? := by
    induction h with
    | nil => rfl
    | cons head tail ih => rw [List.findSome?_cons, List.findSome?_cons, head.overflow, ih]
  rw [ParseError.ofIssues, ParseError.ofIssues, hsame]
  cases inner.findSome? Issue.overflow? with
  | some cause => exact .duration cause
  | none => exact .issues h

/-- The entries that the fields of an object make of its entries. -/
def resolveLevel (model : String) (fields : List Field) (input : Entries) : Checked Entries :=
  Checked.both (fun es _ => es) (Field.acceptAll model input 0 fields)
    (Checked.ofIssues () (strayKeys (fields.map Field.name) input))

theorem resolveEntries_eq_resolveLevel (fields : List Field) (input : Entries) :
    resolveEntries fields input = resolveLevel rootModel fields input := rfl

theorem Field.accept_object_eq_resolveLevel {owner : String} {input : Entries} {info : FieldInfo}
    {children : List Field} {rules : List Rule} :
    accept owner (.map input) (.object info children rules) =
      (resolveLevel (owner ++ camelName info.name) children input).map .map := by
  rw [accept_object_map, resolveLevel]
  cases acceptAll (owner ++ camelName info.name) input 0 children <;>
    cases Checked.ofIssues () (strayKeys (children.map Field.name) input) <;> rfl

/-- What an only field makes of the only value that is given. -/
theorem resolveLevel_singleton (model : String) (f : Field) (v : Value) :
    resolveLevel model [f] [(.str f.name, v)] =
      (Checked.under f.name (f.accept model v)).map fun w => [(.str f.name, w)] := by
  have hget : Entries.get? [(.str f.name, v)] (.str f.name) = some v := by simp
  have hsource : f.acceptSource model [(.str f.name, v)] 0 =
      Checked.under f.name (f.accept model v) := by
    rw [Field.acceptSource, Field.source?, Field.sourceSegment, hget]
    rfl
  have hstray : strayKeys ([f].map Field.name) [(.str f.name, v)] = [] := by
    simp [strayKeys, strayKey?]
  rw [resolveLevel, hstray, Field.acceptAll_cons, hsource]
  cases Checked.under f.name (f.accept model v) <;> rfl

/-- Both resolve, to values that differ by the name, or both have issues, the same ones but for the
name in the paths and in the names of models. -/
theorem agrees_resolveEntries (n : String) (fields : List Field) (input : Entries) :
    Agrees (List.Forall₂ (Issue.Nested n)) (fun es es' ↦ es = [(.str n, .map es')])
      (resolveEntries [.object { name := n } fields []] [(.str n, .map input)])
      (resolveEntries fields input) := by
  have hfields := Field.agrees_acceptAll rootModel (rootModel ++ camelName n) "" input 0 fields
  rw [String.append_empty, String.append_empty] at hfields
  have hboth : Agrees _ Eq (resolveLevel rootModel fields input)
      (resolveLevel (rootModel ++ camelName n) fields input) :=
    .both (forall₂_renamed_append _ _) (fun es _ ↦ es) hfields
      (.same _ _ (Checked.ofIssues () (strayKeys (fields.map Field.name) input)))
  have houter := resolveLevel_singleton rootModel (.object { name := n } fields []) (.map input)
  rw [Field.accept_object_eq_resolveLevel, Field.name_object] at houter
  rw [resolveEntries_eq_resolveLevel, resolveEntries_eq_resolveLevel, houter]
  generalize resolveLevel rootModel fields input = inner at hboth ⊢
  generalize resolveLevel _ fields input = outer at hboth ⊢
  cases hboth with
  | ok h =>
      subst h
      exact .ok rfl
  | error h =>
      refine .error ?_
      rw [List.forall₂_map_left_iff]
      exact h.flip.imp fun j i hij ↦ hij.nested

/-- Nothing is found at the name itself, as no rules stand there. -/
theorem lintAll_singleton (n : String) (fields : List Field) (values : Entries) :
    Field.lintAll [] [(.str n, .map values)] [.object { name := n } fields []] =
      (Field.lintAll [] values fields).map (List.map (Issue.under n)) := by
  have hentry : Field.lintEntry [] [(.str n, .map values)] (.object { name := n } fields []) =
      Field.lint [n] (.map values) (.object { name := n } fields []) := by
    simp [Field.lintEntry]
  rw [Field.lintAll_cons, hentry, Field.lint, rulesIssues, ← Field.lintAll_below]
  cases Field.lintAll [n] values fields <;> simp [Field.lintAll, pure, Except.pure]

namespace Schema

variable {n : String} {outer inner : Schema}

theorem agrees_resolve (houter : outer.fields = [.object { name := n } inner.fields []])
    (input : Entries) :
    Agrees (ParseError.Nested n) (fun es es' ↦ es = [(.str n, .map es')])
      (outer.resolve (.map [(.str n, .map input)])) (inner.resolve (.map input)) := by
  rw [resolve, resolve, houter]
  exact (agrees_resolveEntries n inner.fields input).mapError fun _ _ h ↦ .ofIssues h

theorem agrees_findings (houter : outer.fields = [.object { name := n } inner.fields []])
    (values : Entries) :
    Agrees (ParseError.Nested n) (fun found found' ↦ found = found'.map (Issue.under n))
      (outer.findings [(.str n, .map values)]) (inner.findings values) := by
  rw [findings, findings, houter, lintAll_singleton]
  cases Field.lintAll [] values inner.fields with
  | error cause => exact .error (.duration cause)
  | ok found => exact .ok rfl

theorem agrees_parse (houter : outer.fields = [.object { name := n } inner.fields []])
    (input : Entries) (lint : Bool) :
    Agrees (ParseError.Nested n) (fun a b ↦ a = .ofEntries [(.str n, .map b.entries)])
      (outer.parse (.map [(.str n, .map input)]) lint) (inner.parse (.map input) lint) := by
  unfold parse
  refine (agrees_resolve houter input).bind fun es es' hes ↦ ?_
  subst hes
  cases lint with
  | false => exact .ok rfl
  | true =>
      refine (agrees_findings houter es').bind fun found found' hfound ↦ ?_
      subst hfound
      cases found' with
      | nil => exact .ok rfl
      | cons i is => exact .error (.issues (Issue.forall₂_nested_under n (i :: is)))

theorem agrees_lint (houter : outer.fields = [.object { name := n } inner.fields []])
    (input : Entries) :
    Agrees (ParseError.Nested n) (List.Forall₂ (Issue.Nested n))
      (outer.lint (.map [(.str n, .map input)])) (inner.lint (.map input)) := by
  unfold lint
  refine (agrees_resolve houter input).bind fun es es' hes ↦ ?_
  subst hes
  refine (agrees_findings houter es').imp fun found found' hfound ↦ ?_
  rw [hfound]
  exact Issue.forall₂_nested_under n found'

/-- Fields of different names make a schema, and so does one object field of them under a valid
name.  To parse a configuration below that name with the second schema comes to the same as to
parse it with the first: the same values, below the name, or the same issues, one by one, with the
name in front of their paths and in the names of models that messages quote.  So does linting. -/
theorem parse_nested {fields : List Field} {n : String} (hnames : (fields.map Field.name).Nodup)
    (hn : Text.isBlankText n = false) :
    ∃ f outer inner, Field.newObject (.str n) (fields.map .field) = .ok f ∧
      ofCandidates [.field f] = .ok outer ∧ ofCandidates (fields.map .field) = .ok inner ∧
      ∀ input,
        (∀ lint, Agrees (ParseError.Nested n) (fun a b ↦ a = .ofEntries [(.str n, .map b.entries)])
          (outer.parse (.map [(.str n, .map input)]) lint) (inner.parse (.map input) lint)) ∧
        Agrees (ParseError.Nested n) (List.Forall₂ (Issue.Nested n))
          (outer.lint (.map [(.str n, .map input)])) (inner.lint (.map input)) := by
  have hobject : Field.newObject (.str n) (fields.map .field) =
      .ok (.object { name := n } fields []) :=
    Field.newObject_eq_ok_iff.2 ⟨n, fields, rfl, hn, rfl, hnames, rfl⟩
  have hinner : ofCandidates (fields.map .field) = .ok ⟨fields⟩ :=
    ofCandidates_map_eq_ok_iff.2 ⟨rfl, hnames⟩
  refine ⟨_, ⟨[.object { name := n } fields []]⟩, ⟨fields⟩, hobject, rfl, hinner,
    fun input ↦ ⟨fun lint ↦ ?_, ?_⟩⟩
  · exact agrees_parse rfl input lint
  · exact agrees_lint rfl input

def sinkFields : List Field :=
  [.object { name := "sink" } [.scalar { name := "path" } .string] []]

theorem parse_nested_sinkFields :
    ∃ f outer is, Field.newObject (.str "app-log") (sinkFields.map .field) = .ok f ∧
      ofCandidates [.field f] = .ok outer ∧
      outer.parse (.map [(.str "app-log", .map [(.str "sink", .bool true), (.str "x", .null)])])
        true = .error (.issues is) ∧
      List.Forall₂ (Issue.Nested "app-log") is
        [⟨["sink"], .problem (.notObject "ConfigSink")⟩, ⟨["x"], .problem .unknownKey⟩] := by
  have hnames : (sinkFields.map Field.name).Nodup := by decide
  obtain ⟨f, outer, inner, hf, houter, hinner, hnested⟩ :=
    parse_nested (n := "app-log") hnames (by decide)
  obtain rfl : inner = ⟨sinkFields⟩ := by
    rw [Schema.mk.injEq]
    exact (ofCandidates_map_eq_ok_iff.1 hinner).1
  have hflat : parse ⟨sinkFields⟩ (.map [(.str "sink", .bool true), (.str "x", .null)]) true =
      .error (.issues
        [⟨["sink"], .problem (.notObject "ConfigSink")⟩, ⟨["x"], .problem .unknownKey⟩]) := rfl
  have hagrees := (hnested [(.str "sink", .bool true), (.str "x", .null)]).1 true
  rw [hflat] at hagrees
  generalize houterParse : outer.parse _ true = result at hagrees
  cases hagrees with
  | error h =>
      cases h with
      | issues his => exact ⟨f, outer, _, hf, houter, houterParse, his⟩

end Schema

end Settings
