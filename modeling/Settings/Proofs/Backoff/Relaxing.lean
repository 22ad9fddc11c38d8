import Settings.Proofs.Backoff.Shape
import Settings.Proofs.Accessor.Descent
import Settings.Proofs.Schema.Alike
import Settings.Proofs.Schema.Findings

/-!
# Allowing unbounded retries

A field that is declared with a backoff field somewhere in it is followed through its construction
twice, once with the rule against unbounded retries and once without.  The two results make the
same of every value, and the findings for a value they accept differ by those of the rule.
-/

namespace Settings.Backoff

open Settings.Field

/-! ## Construction -/

/-- How a field with a backoff field somewhere in it is put together. -/
inductive Plan where
  | backoff (toggled : Bool) (name : String) (template : Option Policy)
  | object (name : String) (before : List Candidate) (inner : Plan) (after : List Candidate)
  | step (inner : Plan) (s : Step)

namespace Plan

def build (allowUnbounded : Bool) : Plan → Except DeclarationError Field
  | backoff toggled name template => newField toggled (.str name) allowUnbounded template
  | object name before inner after => do
      let f ← inner.build allowUnbounded
      newObject (.str name) (before ++ .field f :: after)
  | step inner s => do
      let f ← inner.build allowUnbounded
      s.apply f

def name : Plan → String
  | backoff _ name _ => name
  | object name _ _ _ => name
  | step inner _ => inner.name

/-- The path of the backoff field from the field as a whole. -/
def tail : Plan → List String
  | backoff .. => []
  | object _ _ inner _ => inner.name :: inner.tail
  | step inner _ => inner.tail

/-- The path of the backoff field from the root. -/
def path (plan : Plan) : List String := plan.name :: plan.tail

/-- The schema of the field and others around it. -/
def schema (allowUnbounded : Bool) (before after : List Candidate) (plan : Plan) :
    Except DeclarationError Schema := do
  let f ← plan.build allowUnbounded
  Schema.ofCandidates (before ++ .field f :: after)

end Plan

/-- Whether the second field is the first one without the rule that the backoff field at a path
has. -/
inductive Relaxes : List String → Field → Field → Prop where
  | here {info : FieldInfo} {toggled : Bool} {template : Option Policy} {rules : List Rule} :
      Relaxes [] (.object info (children toggled false template) (boundedRule :: rules))
        (.object info (children toggled true template) rules)
  | inside {info : FieldInfo} {before after : List Field} {f g : Field} {rules : List Rule}
      {path : List String} (hnames : ((before ++ f :: after).map Field.name).Nodup)
      (h : Relaxes path f g) :
      Relaxes (f.name :: path) (.object info (before ++ f :: after) rules)
        (.object info (before ++ g :: after) rules)

theorem Relaxes.name_eq {path : List String} {f g : Field} (h : Relaxes path f g) :
    f.name = g.name := by
  cases h <;> rfl

theorem Relaxes.apply {path : List String} {f g f' : Field} (h : Relaxes path f g) {s : Step}
    (hf : s.apply f = .ok f') :
    f'.name = f.name ∧ ∃ g', s.apply g = .ok g' ∧ Relaxes path f' g' := by
  cases h with
  | here =>
      rw [Step.apply_object, Except.ok.injEq] at hf
      subst hf
      exact ⟨s.name_change _, _, Step.apply_object .., .here⟩
  | inside hnames h =>
      rw [Step.apply_object, Except.ok.injEq] at hf
      subst hf
      exact ⟨s.name_change _, _, Step.apply_object .., .inside hnames h⟩

theorem exists_of_map_candidate {before after : List Candidate} {f : Field} {fields : List Field}
    (h : before ++ .field f :: after = fields.map .field) :
    ∃ bs as, before = bs.map .field ∧ after = as.map .field ∧ fields = bs ++ f :: as := by
  obtain ⟨bs, rest, rfl, rfl, hrest⟩ := List.map_eq_append_iff.1 h.symm
  obtain ⟨c, as, rfl, hc, rfl⟩ := List.map_eq_cons_iff.1 hrest
  cases hc
  exact ⟨bs, as, rfl, rfl, rfl⟩

theorem map_name_exchange {before after : List Field} {f g : Field} (h : f.name = g.name) :
    (before ++ f :: after).map Field.name = (before ++ g :: after).map Field.name := by
  simp [h]

/-- Whatever can be built with the rule can be built without. -/
theorem Plan.exists_relaxes {plan : Plan} {f : Field} (h : plan.build false = .ok f) :
    f.name = plan.name ∧ ∃ g, plan.build true = .ok g ∧ Relaxes plan.tail f g := by
  induction plan generalizing f with
  | backoff toggled name template =>
      obtain ⟨_, ⟨⟩, hblank, rfl⟩ := newField_eq_ok_iff.1 h
      exact ⟨rfl, _, newField_eq_ok_iff.2 ⟨name, rfl, hblank, rfl⟩, .here⟩
  | object name before inner after ih =>
      obtain ⟨c, hc, hobject⟩ := bind_eq_ok_iff.1 h
      obtain ⟨_, fields, ⟨⟩, hblank, hfields, hnames, rfl⟩ := newObject_eq_ok_iff.1 hobject
      obtain ⟨bs, as, rfl, rfl, rfl⟩ := exists_of_map_candidate hfields
      obtain ⟨hcname, d, hd, hcd⟩ := ih hc
      refine ⟨rfl, .object { name := name } (bs ++ d :: as) [], ?_, ?_⟩
      · refine bind_eq_ok_iff.2 ⟨d, hd, newObject_eq_ok_iff.2 ?_⟩
        exact ⟨name, _, rfl, hblank, by simp, map_name_exchange hcd.name_eq ▸ hnames, rfl⟩
      · rw [tail, ← hcname]
        exact .inside hnames hcd
  | step inner s ih =>
      obtain ⟨c, hc, happly⟩ := bind_eq_ok_iff.1 h
      obtain ⟨hcname, d, hd, hcd⟩ := ih hc
      obtain ⟨hfname, g, hg, hfg⟩ := hcd.apply happly
      exact ⟨hfname.trans hcname, g, bind_eq_ok_iff.2 ⟨d, hd, hg⟩, hfg⟩

/-! ## Resolving values -/

theorem alike_children (toggled : Bool) (template : Option Policy) :
    List.Forall₂ Alike (children toggled false template) (children toggled true template) := by
  have htimes : List.Forall₂ Alike (timeFields false template) (timeFields true template) :=
    .cons (.refl _) (.cons (.refl _) (.cons (.scalar _ rfl rfl rfl) .nil))
  cases toggled with
  | false => exact htimes
  | true => exact .cons (.refl _) htimes

theorem Relaxes.alike {path : List String} {f g : Field} (h : Relaxes path f g) : Alike f g := by
  induction h with
  | here => exact .object _ _ _ (alike_children _ _)
  | inside hnames h ih =>
      refine .object _ _ _ (List.rel_append (forall₂_alike_refl _) (.cons ih ?_))
      exact forall₂_alike_refl _

/-! ## The longest elapsed time -/

/-- The names of the times of a policy. -/
def timeNames : List String := [initialIntervalName, maxIntervalName, maxElapsedTimeName]

theorem exists_timeField (toggled allowUnbounded : Bool) (template : Option Policy) {name : String}
    (hname : name ∈ timeNames) :
    ∃ info, .scalar info .duration ∈ children toggled allowUnbounded template ∧
      info.name = name ∧ info.defaultValue.isSome := by
  have htimes : ∃ info, .scalar info .duration ∈ timeFields allowUnbounded template ∧
      info.name = name ∧ info.defaultValue.isSome := by
    simp only [timeNames, List.mem_cons, List.not_mem_nil, or_false] at hname
    rcases hname with rfl | rfl | rfl
    · exact ⟨_, List.mem_cons_self, rfl, rfl⟩
    · exact ⟨_, List.mem_cons_of_mem _ List.mem_cons_self, rfl, rfl⟩
    · cases allowUnbounded <;> exact ⟨_, List.mem_of_getLast? rfl, rfl, rfl⟩
  obtain ⟨info, hmem, hinfo⟩ := htimes
  cases toggled with
  | false => exact ⟨info, hmem, hinfo⟩
  | true => exact ⟨info, List.mem_cons_of_mem _ hmem, hinfo⟩

theorem exists_time {owner : String} {toggled allowUnbounded : Bool} {template : Option Policy}
    {info : FieldInfo} {rules : List Rule} {v : Value} {values : Entries}
    (h : accept owner v (.object info (children toggled allowUnbounded template) rules) =
      .ok (.map values)) {name : String} (hname : name ∈ timeNames) :
    ∃ d, values.get? (.str name) = some (.duration d) := by
  obtain ⟨field, hmem, rfl, hdefault⟩ := exists_timeField toggled allowUnbounded template hname
  obtain ⟨w, hw, d, rfl⟩ := exists_holds h (nodup_names_children _ _ _) hmem hdefault
  exact ⟨d, hw⟩

theorem exists_elapsed {owner : String} {toggled allowUnbounded : Bool} {template : Option Policy}
    {info : FieldInfo} {rules : List Rule} {v : Value} {values : Entries}
    (h : accept owner v (.object info (children toggled allowUnbounded template) rules) =
      .ok (.map values)) :
    ∃ d, values.get? (.str maxElapsedTimeName) = some (.duration d) :=
  exists_time h (List.mem_of_getLast? rfl)

/-- What lies at the path of the backoff field, if it is an object, has a longest elapsed time. -/
theorem Relaxes.exists_elapsed {path : List String} {f g : Field} (h : Relaxes path f g)
    {owner : String} {u v : Value} (hv : accept owner u f = .ok v) {values : Entries}
    (hvalues : v.at? (textPath path) = some (.map values)) :
    ∃ d, values.get? (.str maxElapsedTimeName) = some (.duration d) := by
  induction h generalizing owner u v with
  | here =>
      rw [textPath_nil, Value.at?_nil, Option.some.injEq] at hvalues
      subst hvalues
      exact Backoff.exists_elapsed hv
  | @inside info before after f g rules path hnames h ih =>
      rcases accept_object_eq_ok_iff.1 hv with ⟨-, -, rfl⟩ | ⟨input, es, -, hes, rfl⟩
      · simp [Value.at?] at hvalues
      · obtain ⟨u', w, -, hw, hget⟩ := hes.get? hnames (List.mem_append_right _ List.mem_cons_self)
        rw [textPath_cons, Value.at?_map_cons, hget, Option.bind_some] at hvalues
        exact ih hw hvalues

/-! ## Running rules -/

/-- The issue that the rule against unbounded retries raises. -/
def boundedIssue (path : List String) : Issue := ⟨path, .finding boundedRuleName boundedMessage⟩

/-- What the rule against unbounded retries finds in a value at `base` with the backoff field at
`path` below it. -/
def boundedFindings (base path : List String) (v : Value) : List Issue :=
  match v.at? (textPath (path ++ [maxElapsedTimeName])) with
  | some (.duration d) => if d = .zero then [boundedIssue (base ++ path)] else []
  | _ => []

theorem boundedFindings_of_map {v : Value} {path : List String} {values : Entries} {d : Duration}
    (hvalues : v.at? (textPath path) = some (.map values))
    (hd : values.get? (.str maxElapsedTimeName) = some (.duration d)) (base : List String) :
    boundedFindings base path v = if d = .zero then [boundedIssue (base ++ path)] else [] := by
  have hat : v.at? (textPath path ++ textPath [maxElapsedTimeName]) = some (.duration d) :=
    Value.at?_concat_eq_some_iff.2 ⟨values, hvalues, hd⟩
  rw [boundedFindings, textPath_append, hat]

theorem boundedFindings_of_not_map {v : Value} {path : List String}
    (h : ¬∃ values, v.at? (textPath path) = some (.map values)) (base : List String) :
    boundedFindings base path v = [] := by
  unfold boundedFindings
  split
  · next d hat =>
      rw [textPath_append] at hat
      obtain ⟨values, hvalues, -⟩ := Value.at?_concat_eq_some_iff.1 hat
      exact absurd ⟨values, hvalues⟩ h
  · rfl

theorem boundedFindings_map {values : Entries} {name : String} {v : Value}
    (h : values.get? (.str name) = some v) (base path : List String) :
    boundedFindings base (name :: path) (.map values) =
      boundedFindings (base ++ [name]) path v := by
  simp [boundedFindings, h]

theorem issues_boundedRule {values : Entries} {d : Duration}
    (h : values.get? (.str maxElapsedTimeName) = some (.duration d)) (path : List String) :
    boundedRule.issues path values = .ok (boundedFindings path [] (.map values)) := by
  by_cases hd : d = .zero <;>
    simp [Rule.issues, boundedRule, boundedFindings, boundedIssue, h, hd, Except.map]

theorem isObject_children (toggled allowUnbounded : Bool) (template : Option Policy) :
    ∀ f ∈ children toggled allowUnbounded template, f.isObject = false := by
  cases toggled <;> cases allowUnbounded <;>
    simp [children, timeFields, timeField, flagField, appendDescription, mapInfo, isObject]

/-- The findings for a value that is accepted are the same but for those of the rule. -/
theorem Relaxes.inserts_lint {path : List String} {f g : Field} (h : Relaxes path f g)
    {owner : String} {u v : Value} (hv : accept owner u f = .ok v) (base : List String) :
    Inserts (boundedFindings base path v) (lint base v g) (lint base v f) := by
  induction h generalizing owner u v base with
  | here =>
      rcases accept_object_eq_ok_iff.1 hv with ⟨-, -, rfl⟩ | ⟨input, es, -, -, rfl⟩
      · exact .ok [] []
      · obtain ⟨d, hd⟩ := Backoff.exists_elapsed hv
        refine lint_cons_rule _ (issues_boundedRule hd base) ?_
        rw [lintAll_of_scalars (isObject_children _ _ _),
          lintAll_of_scalars (isObject_children _ _ _)]
  | @inside info before after f g rules path hnames h ih =>
      rcases accept_object_eq_ok_iff.1 hv with ⟨-, -, rfl⟩ | ⟨input, es, -, hes, rfl⟩
      · exact .ok [] []
      · obtain ⟨u', w, -, hw, hget⟩ := hes.get? hnames (List.mem_append_right _ List.mem_cons_self)
        have hinner := ih hw (base ++ [f.name])
        rw [← boundedFindings_map hget] at hinner
        exact (inserts_lintAll h.name_eq hget hinner before after).behind _

end Settings.Backoff
