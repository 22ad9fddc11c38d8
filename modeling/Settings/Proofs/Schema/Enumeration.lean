import Settings.Proofs.Accessor.Descent
import Settings.Proofs.Schema.Extension
import Settings.Proofs.Schema.Nesting

/-!
# Findings, object by object

The objects among resolved values can be listed: each at its position, an object before those inside
it and before those of its next sibling.  What linting finds is what the rules of these objects say
about their values, one object after another, each of them once.
-/

namespace Settings

/-- An object field whose value resolved to an object.  The position tells at each level which of the
siblings to take, and the path has their names. -/
structure Site where
  position : List Nat
  path : List String
  rules : List Rule
  values : Entries

/-- What one rule says about the values of one object. -/
structure Finding where
  site : Site
  rule : Rule
  message : String

def Rule.messages (rule : Rule) (values : Entries) : List String :=
  match rule.check values with
  | .ok messages => messages
  | .error _ => []

def Finding.issue (f : Finding) : Issue :=
  ⟨f.site.path, .finding f.rule.name f.message⟩

namespace Site

/-- The same object, seen from outside the `i`-th field of a level. -/
def below (i : Nat) (name : String) (x : Site) : Site :=
  { x with position := i :: x.position, path := name :: x.path }

/-- Whether no rule of the object stumbles over its values. -/
def Runs (x : Site) : Prop := ∀ r ∈ x.rules, ∃ messages, r.check x.values = .ok messages

/-- The findings at the object, rule by rule in the order in which the rules were added. -/
def findings (x : Site) : List Finding :=
  x.rules.flatMap fun r => (r.messages x.values).map fun m => ⟨x, r, m⟩

def issues (x : Site) : List Issue := x.findings.map Finding.issue

@[simp] theorem runs_below (i : Nat) (name : String) (x : Site) :
    (x.below i name).Runs ↔ x.Runs := Iff.rfl

@[simp] theorem issues_below (i : Nat) (name : String) (x : Site) :
    (x.below i name).issues = x.issues.map (Issue.under name) := by
  simp [issues, findings, below, List.map_flatMap, Finding.issue, Issue.under, Function.comp_def]

end Site

namespace Field

/-- The objects among the values that fields resolved to. -/
inductive IsSite : List Field → Entries → Site → Prop where
  | here {fields children : List Field} {values inner : Entries} {i : Nat} {info : FieldInfo}
      {rules : List Rule} (hf : fields[i]? = some (.object info children rules))
      (hv : values.get? (.str info.name) = some (.map inner)) :
      IsSite fields values ⟨[i], [info.name], rules, inner⟩
  | inside {fields children : List Field} {values inner : Entries} {i : Nat} {info : FieldInfo}
      {rules : List Rule} {x : Site} (hf : fields[i]? = some (.object info children rules))
      (hv : values.get? (.str info.name) = some (.map inner)) (h : IsSite children inner x) :
      IsSite fields values (x.below i info.name)

mutual

/-- The objects at and below a field, which is the `i`-th of its siblings. -/
def sitesOf (values : Entries) (i : Nat) : Field → List Site
  | scalar .. => []
  | object info children rules =>
      match values.get? (.str info.name) with
      | some (.map inner) =>
          ⟨[i], [info.name], rules, inner⟩ ::
            (sitesAmong inner 0 children).map (Site.below i info.name)
      | _ => []

/-- The objects among fields, the first of which is the `i`-th of its siblings. -/
def sitesAmong (values : Entries) (i : Nat) : List Field → List Site
  | [] => []
  | f :: rest => sitesOf values i f ++ sitesAmong values (i + 1) rest

end

/-! ## Which objects are listed -/

theorem sitesOf_object {values inner : Entries} {info : FieldInfo}
    (hv : values.get? (.str info.name) = some (.map inner)) (i : Nat) (children : List Field)
    (rules : List Rule) :
    sitesOf values i (.object info children rules) =
      ⟨[i], [info.name], rules, inner⟩ ::
        (sitesAmong inner 0 children).map (Site.below i info.name) := by
  rw [sitesOf, hv]

theorem sitesOf_of_not_map {values : Entries} {f : Field}
    (hv : ∀ inner, values.get? (.str f.name) ≠ some (.map inner)) (i : Nat) :
    sitesOf values i f = [] := by
  cases f with
  | scalar info kind => rfl
  | object info children rules =>
      rw [sitesOf]
      split
      · next inner h => exact absurd h (hv inner)
      · rfl

theorem mem_sitesOf_iff {values : Entries} {i : Nat} {f : Field} {x : Site} :
    x ∈ sitesOf values i f ↔ ∃ info children rules inner, f = .object info children rules ∧
      values.get? (.str info.name) = some (.map inner) ∧
      (x = ⟨[i], [info.name], rules, inner⟩ ∨
        ∃ y ∈ sitesAmong inner 0 children, x = y.below i info.name) := by
  constructor
  · intro hx
    by_cases hv : ∃ inner, values.get? (.str f.name) = some (.map inner)
    · obtain ⟨inner, hv⟩ := hv
      cases f with
      | scalar info kind => cases hx
      | object info children rules =>
          rw [name_object] at hv
          rw [sitesOf_object hv, List.mem_cons, List.mem_map] at hx
          refine ⟨info, children, rules, inner, rfl, hv, hx.imp_right ?_⟩
          rintro ⟨y, hy, rfl⟩
          exact ⟨y, hy, rfl⟩
    · rw [sitesOf_of_not_map fun inner h ↦ hv ⟨inner, h⟩] at hx
      cases hx
  · rintro ⟨info, children, rules, inner, rfl, hv, hx⟩
    rw [sitesOf_object hv, List.mem_cons, List.mem_map]
    refine hx.imp_right ?_
    rintro ⟨y, hy, rfl⟩
    exact ⟨y, hy, rfl⟩

theorem mem_sitesAmong_iff {values : Entries} {fields : List Field} {x : Site} {i : Nat} :
    x ∈ sitesAmong values i fields ↔
      ∃ j f, fields[j]? = some f ∧ x ∈ sitesOf values (i + j) f := by
  apply mem_collected_iff (sitesOf values) (sitesAmong values)
  · intro i
    rw [sitesAmong]
  · intro i f rest
    rw [sitesAmong]

theorem mem_sites_iff {fields : List Field} {values : Entries} {x : Site} :
    x ∈ sitesAmong values 0 fields ↔ IsSite fields values x := by
  constructor
  · -- by induction on the position, which gets shorter on the way in
    obtain ⟨position, path, rules, inner⟩ := x
    induction position generalizing fields values path with
    | nil =>
        intro hx
        obtain ⟨j, f, -, hx⟩ := mem_sitesAmong_iff.1 hx
        obtain ⟨info, children, rules', inner', -, -, hx | ⟨y, -, hx⟩⟩ := mem_sitesOf_iff.1 hx
        · cases hx
        · cases hx
    | cons i position ih =>
        intro hx
        obtain ⟨j, f, hf, hx⟩ := mem_sitesAmong_iff.1 hx
        rw [Nat.zero_add] at hx
        obtain ⟨info, children, rules', inner', rfl, hv, hx | ⟨y, hy, hx⟩⟩ :=
          mem_sitesOf_iff.1 hx
        · cases hx
          exact .here hf hv
        · obtain ⟨position', path', rules'', inner''⟩ := y
          cases hx
          exact .inside hf hv (ih _ hy)
  · intro h
    induction h with
    | @here fields children values inner i info rules hf hv =>
        refine mem_sitesAmong_iff.2 ⟨i, _, hf, mem_sitesOf_iff.2 ?_⟩
        rw [Nat.zero_add]
        exact ⟨info, children, rules, inner, rfl, hv, .inl rfl⟩
    | @inside fields children values inner i info rules x hf hv _ ih =>
        refine mem_sitesAmong_iff.2 ⟨i, _, hf, mem_sitesOf_iff.2 ?_⟩
        rw [Nat.zero_add]
        exact ⟨info, children, rules, inner, rfl, hv, .inr ⟨x, ih, rfl⟩⟩

/-- On the way to an object all values are objects, and so is its own. -/
theorem IsSite.exists_map {fields : List Field} {values : Entries} {x : Site}
    (h : IsSite fields values x) {path : List String} (hpath : path <+: x.path) :
    ∃ es, (Value.map values).at? (textPath path) = some (.map es) := by
  induction h generalizing path with
  | @here fields children values inner i info rules hf hv =>
      cases path with
      | nil => exact ⟨values, rfl⟩
      | cons name path =>
          obtain ⟨rfl, hnil⟩ := List.cons_prefix_cons.1 hpath
          obtain rfl := List.eq_nil_of_prefix_nil hnil
          exact ⟨inner, by simp [hv]⟩
  | @inside fields children values inner i info rules x hf hv _ ih =>
      cases path with
      | nil => exact ⟨values, rfl⟩
      | cons name path =>
          obtain ⟨rfl, hrest⟩ := List.cons_prefix_cons.1 hpath
          obtain ⟨es, hes⟩ := ih hrest
          exact ⟨es, by simpa [hv] using hes⟩

/-! ## In which order they are listed -/

theorem exists_position_of_mem_sitesOf {values : Entries} {i : Nat} {f : Field} {x : Site}
    (h : x ∈ sitesOf values i f) : ∃ rest, x.position = i :: rest := by
  obtain ⟨info, children, rules, inner, -, -, rfl | ⟨y, -, rfl⟩⟩ := mem_sitesOf_iff.1 h
  · exact ⟨[], rfl⟩
  · exact ⟨y.position, rfl⟩

theorem exists_position_of_mem_sitesAmong {values : Entries} {i : Nat} {fields : List Field}
    {x : Site} (h : x ∈ sitesAmong values i fields) :
    ∃ j rest, i ≤ j ∧ x.position = j :: rest := by
  obtain ⟨j, f, -, hx⟩ := mem_sitesAmong_iff.1 h
  obtain ⟨rest, hrest⟩ := exists_position_of_mem_sitesOf hx
  exact ⟨i + j, rest, Nat.le_add_right i j, hrest⟩

mutual

theorem pairwise_sitesOf (values : Entries) (i : Nat) : ∀ f : Field,
    (sitesOf values i f).Pairwise fun x y => x.position < y.position
  | .scalar .. => .nil
  | .object info children rules => by
      by_cases hv : ∃ inner, values.get? (.str info.name) = some (.map inner)
      · obtain ⟨inner, hv⟩ := hv
        rw [sitesOf_object hv, List.pairwise_cons, List.pairwise_map]
        constructor
        · intro x hx
          obtain ⟨y, hy, rfl⟩ := List.mem_map.1 hx
          obtain ⟨j, rest, -, hposition⟩ := exists_position_of_mem_sitesAmong hy
          have hlt : [i] < i :: y.position := by
            rw [List.cons_lt_cons_iff, hposition]
            exact .inr ⟨rfl, List.nil_lt_cons j rest⟩
          exact hlt
        · refine (pairwise_sitesAmong inner 0 children).imp fun {x y} hxy ↦ ?_
          exact List.cons_lt_cons_iff.2 (.inr ⟨rfl, hxy⟩)
      · rw [sitesOf_of_not_map fun inner h ↦ hv ⟨inner, h⟩]
        exact .nil

theorem pairwise_sitesAmong (values : Entries) (i : Nat) : ∀ fields : List Field,
    (sitesAmong values i fields).Pairwise fun x y => x.position < y.position
  | [] => .nil
  | f :: rest => by
      rw [sitesAmong, List.pairwise_append]
      refine ⟨pairwise_sitesOf values i f, pairwise_sitesAmong values (i + 1) rest, ?_⟩
      intro x hx y hy
      obtain ⟨p, hp⟩ := exists_position_of_mem_sitesOf hx
      obtain ⟨j, q, hij, hq⟩ := exists_position_of_mem_sitesAmong hy
      rw [hp, hq, List.cons_lt_cons_iff]
      exact .inl hij

end

/-! ## What is found at them -/

theorem rulesIssues_eq_ok_iff {path : List String} {values : Entries} {rules : List Rule}
    {found : List Issue} :
    rulesIssues path values rules = .ok found ↔
      (∀ r ∈ rules, ∃ messages, r.check values = .ok messages) ∧
        found = rules.flatMap fun r =>
          (r.messages values).map fun m => ⟨path, .finding r.name m⟩ := by
  induction rules generalizing found with
  | nil => simp [rulesIssues, eq_comm]
  | cons r rules ih =>
      rw [rulesIssues, bind_eq_ok_iff, List.forall_mem_cons, List.flatMap_cons]
      simp only [bind_eq_ok_iff, pure_eq_ok_iff, ih]
      cases hcheck : r.check values with
      | error e => simp [Rule.issues, hcheck, Except.map]
      | ok messages =>
          simp only [Rule.issues, Rule.messages, hcheck, Except.map, Except.ok.injEq,
            exists_eq', true_and]
          constructor
          · rintro ⟨own, rfl, after, ⟨hruns, rfl⟩, rfl⟩
            exact ⟨hruns, rfl⟩
          · rintro ⟨hruns, rfl⟩
            exact ⟨_, rfl, _, ⟨hruns, rfl⟩, rfl⟩

mutual

theorem lintEntry_eq_ok_iff (values : Entries) (i : Nat) : ∀ (f : Field) (found : List Issue),
    lintEntry [] values f = .ok found ↔
      (∀ x ∈ sitesOf values i f, x.Runs) ∧ found = (sitesOf values i f).flatMap Site.issues
  | .scalar info kind, found => by
      rw [lintEntry, sitesOf]
      cases values.get? (.str (scalar info kind).name) <;> simp [lint, eq_comm]
  | .object info children rules, found => by
      by_cases hv : ∃ inner, values.get? (.str info.name) = some (.map inner)
      · obtain ⟨inner, hv⟩ := hv
        have hentry : lintEntry [] values (.object info children rules) =
            rulesIssues [info.name] inner rules >>= fun own =>
              (lintAll [] inner children).map (List.map (Issue.under info.name)) >>= fun after =>
                pure (own ++ after) := by
          rw [lintEntry, name_object, hv, ← lintAll_below]
          rfl
        have hown : Site.issues ⟨[i], [info.name], rules, inner⟩ = rules.flatMap fun r =>
            (r.messages inner).map fun m => ⟨[info.name], .finding r.name m⟩ := by
          simp [Site.issues, Site.findings, List.map_flatMap, Finding.issue, Function.comp_def]
        have hbelow : ((sitesAmong inner 0 children).map (Site.below i info.name)).flatMap
            Site.issues =
              ((sitesAmong inner 0 children).flatMap Site.issues).map (Issue.under info.name) := by
          simp [List.flatMap_map, List.map_flatMap]
        rw [hentry, sitesOf_object hv, List.forall_mem_cons, List.flatMap_cons, hown, hbelow]
        simp only [bind_eq_ok_iff, pure_eq_ok_iff, map_eq_ok_iff, rulesIssues_eq_ok_iff,
          lintAll_eq_ok_iff inner 0 children, List.forall_mem_map, Site.runs_below]
        constructor
        · rintro ⟨own, ⟨hruns, rfl⟩, after, ⟨inside, ⟨hinside, rfl⟩, rfl⟩, rfl⟩
          exact ⟨⟨hruns, hinside⟩, rfl⟩
        · rintro ⟨⟨hruns, hinside⟩, rfl⟩
          exact ⟨_, ⟨hruns, rfl⟩, _, ⟨_, ⟨hinside, rfl⟩, rfl⟩, rfl⟩
      · have hnone : lintEntry [] values (.object info children rules) = .ok [] := by
          rw [lintEntry, name_object]
          cases hget : values.get? (.str info.name) with
          | none => rfl
          | some v =>
              cases v with
              | map inner => exact absurd ⟨inner, hget⟩ hv
              | _ => rfl
        rw [hnone, sitesOf_of_not_map fun inner h ↦ hv ⟨inner, h⟩]
        simp [eq_comm]

theorem lintAll_eq_ok_iff (values : Entries) (i : Nat) :
    ∀ (fields : List Field) (found : List Issue),
      lintAll [] values fields = .ok found ↔
        (∀ x ∈ sitesAmong values i fields, x.Runs) ∧
          found = (sitesAmong values i fields).flatMap Site.issues
  | [], found => by simp [lintAll, sitesAmong, eq_comm]
  | f :: rest, found => by
      rw [lintAll_cons, sitesAmong, List.forall_mem_append, List.flatMap_append]
      simp only [bind_eq_ok_iff, pure_eq_ok_iff, lintEntry_eq_ok_iff values i f,
        lintAll_eq_ok_iff values (i + 1) rest]
      constructor
      · rintro ⟨own, ⟨hown, rfl⟩, after, ⟨hafter, rfl⟩, rfl⟩
        exact ⟨⟨hown, hafter⟩, rfl⟩
      · rintro ⟨⟨hown, hafter⟩, rfl⟩
        exact ⟨_, ⟨hown, rfl⟩, _, ⟨hafter, rfl⟩, rfl⟩

end

end Field

namespace Schema

/-- The objects among values that a configuration resolved to, in pre-order. -/
def sites (s : Schema) (values : Entries) : List Site := Field.sitesAmong values 0 s.fields

theorem lint_of_resolve {s : Schema} {data : Value} {es : Entries} (h : s.resolve data = .ok es)
    (found : List Issue) :
    s.lint data = .ok found ↔ (∀ x ∈ s.sites es, x.Runs) ∧
      found = ((s.sites es).flatMap Site.findings).map Finding.issue := by
  rw [lint, h, ok_bind, findings, mapError_eq_ok_iff, Field.lintAll_eq_ok_iff es 0, List.map_flatMap]
  rfl

/-- When a configuration is accepted, the objects among its values are listed, each once and in
pre-order.  Linting it finds what their rules say about their values, object by object, unless a rule
stumbles; nothing is found at or below a null.  Parsing it with linting fails with just what linting
finds, and if that is nothing it leads to the same values as without. -/
theorem lint_lists_findings {s : Schema} {data : Value} {a : Accessor}
    (h : s.parse data false = .ok a) :
    (∀ x, x ∈ s.sites a.entries ↔ Field.IsSite s.fields a.entries x) ∧
      (s.sites a.entries).Pairwise (fun x y => x.position < y.position) ∧
      (∀ found, s.lint data = .ok found ↔ (∀ x ∈ s.sites a.entries, x.Runs) ∧
        found = ((s.sites a.entries).flatMap Site.findings).map Finding.issue) ∧
      (∀ found, s.lint data = .ok found → ∀ path,
        (Value.map a.entries).at? (textPath path) = some .null → ∀ i ∈ found, ¬ path <+: i.path) ∧
      s.parse data true = s.lint data >>= fun found =>
        if found.isEmpty then .ok a else .error (.issues found) := by
  obtain ⟨es, hes, -, rfl⟩ := parse_eq_ok_iff.1 h
  have hsites (x : Site) : x ∈ s.sites es ↔ Field.IsSite s.fields es x := Field.mem_sites_iff
  refine ⟨hsites, Field.pairwise_sitesAmong es 0 s.fields, lint_of_resolve hes, ?_, ?_⟩
  · intro found hfound path hnull i hi hpath
    obtain ⟨-, rfl⟩ := (lint_of_resolve hes found).1 hfound
    obtain ⟨f, hf, rfl⟩ := List.mem_map.1 hi
    obtain ⟨x, hx, hfx⟩ := List.mem_flatMap.1 hf
    obtain ⟨r, -, hfr⟩ := List.mem_flatMap.1 hfx
    obtain ⟨m, -, rfl⟩ := List.mem_map.1 hfr
    obtain ⟨inner, hinner⟩ := ((hsites x).1 hx).exists_map hpath
    cases hinner.symm.trans hnull
  · rw [parse, lint, hes, ok_bind, ok_bind]
    cases hfound : s.findings es with
    | error e => rfl
    | ok found => cases found <;> rfl

/-- A rule that reports the keys of an object, and one that always reports the same. -/
def keysRule : Rule := ⟨"keys", fun values => .ok (values.map fun e => "saw " ++ e.1.display)⟩

def noticeRule : Rule := ⟨"notice", fun _ => .ok ["check this", "and that"]⟩

/-- An object with rules around two others, the first of which may be null. -/
def poolSchema : Schema :=
  ⟨[.object { name := "pool" }
      [.object { name := "probe", isOptional := true } [.scalar { name := "path" } .string]
        [keysRule],
       .object { name := "limits" }
        [.scalar { name := "burst", defaultValue := some (.int 5) } .int] [noticeRule, keysRule]]
      [keysRule]]⟩

def poolValues : Entries :=
  [(.str "pool", .map [(.str "probe", .null), (.str "limits", .map [(.str "burst", .int 5)])])]

theorem lint_lists_findings_poolSchema :
    poolSchema.parse (.map []) false = .ok (.ofEntries poolValues) ∧
      (poolSchema.sites poolValues).map Site.position = [[0], [0, 1]] ∧
      Field.IsSite poolSchema.fields poolValues
        ⟨[0, 1], ["pool", "limits"], [noticeRule, keysRule], [(.str "burst", .int 5)]⟩ ∧
      poolSchema.lint (.map []) = .ok
        [⟨["pool"], .finding "keys" "saw probe"⟩, ⟨["pool"], .finding "keys" "saw limits"⟩,
          ⟨["pool", "limits"], .finding "notice" "check this"⟩,
          ⟨["pool", "limits"], .finding "notice" "and that"⟩,
          ⟨["pool", "limits"], .finding "keys" "saw burst"⟩] := by
  have hparse : poolSchema.parse (.map []) false = .ok (.ofEntries poolValues) := rfl
  obtain ⟨hsites, -, hfound, -, -⟩ := lint_lists_findings hparse
  refine ⟨hparse, rfl, (hsites _).1 ?_, (hfound _).2 ⟨?_, rfl⟩⟩
  · exact List.mem_cons_of_mem _ List.mem_cons_self
  · intro x hx r hr
    have hcheck : r = keysRule ∨ r = noticeRule := by
      rcases List.mem_cons.1 hx with rfl | hx
      · exact .inl (List.mem_singleton.1 hr)
      · obtain rfl := List.mem_singleton.1 hx
        rcases List.mem_cons.1 hr with rfl | hr
        · exact .inr rfl
        · exact .inl (List.mem_singleton.1 hr)
    rcases hcheck with rfl | rfl
    · exact ⟨_, rfl⟩
    · exact ⟨_, rfl⟩

end Schema

end Settings
