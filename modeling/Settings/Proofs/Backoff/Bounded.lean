import Settings.Proofs.Backoff.Extraction
import Settings.Proofs.Backoff.Relaxing

/-!
# What the rule against unbounded retries does to a schema

Wherever in a schema a backoff field lies that must not retry without bound, the schema resolves
all configurations as it does without the rule.  It refuses one more kind of them, those in which
the field has a longest elapsed time of zero, and no policy that is extracted goes on forever.
-/

namespace Settings.Backoff

open Settings.Field

/-- Whether the second schema is the first one without the rule that the backoff field at a path
has. -/
inductive RelaxesIn : List String → Schema → Schema → Prop where
  | mk {before after : List Field} {f g : Field} {path : List String}
      (hnames : ((before ++ f :: after).map Field.name).Nodup) (h : Relaxes path f g) :
      RelaxesIn (f.name :: path) ⟨before ++ f :: after⟩ ⟨before ++ g :: after⟩

theorem Plan.exists_relaxesIn {plan : Plan} {before after : List Candidate} {s : Schema}
    (h : plan.schema false before after = .ok s) :
    ∃ t, plan.schema true before after = .ok t ∧ RelaxesIn plan.path s t := by
  obtain ⟨f, hf, hs⟩ := bind_eq_ok_iff.1 h
  obtain ⟨fields⟩ := s
  obtain ⟨hfields, hnames⟩ := Schema.ofCandidates_eq_ok_iff.1 hs
  obtain ⟨bs, as, rfl, rfl, rfl⟩ := exists_of_map_candidate hfields
  obtain ⟨hname, g, hg, hfg⟩ := exists_relaxes hf
  refine ⟨⟨bs ++ g :: as⟩, bind_eq_ok_iff.2 ⟨g, hg, ?_⟩, ?_⟩
  · exact Schema.ofCandidates_eq_ok_iff.2 ⟨by simp, map_name_exchange hfg.name_eq ▸ hnames⟩
  · rw [path, ← hname]
    exact .mk hnames hfg

/-- Whether the backoff field at a path, if it is set, gives up after some time. -/
def EndsAt (a : Accessor) (path : List String) : Prop :=
  ∀ values : Entries, a.lookup (textPath path) = .ok (.map values) →
    ∃ d, values.get? (.str maxElapsedTimeName) = some (.duration d) ∧ d ≠ .zero

namespace RelaxesIn

variable {path : List String} {s t : Schema} {data : Value} {es : Entries}

theorem resolve_eq (h : RelaxesIn path s t) (data : Value) : s.resolve data = t.resolve data := by
  obtain ⟨hnames, h⟩ := h
  refine Schema.resolve_eq_of_alike (List.rel_append (forall₂_alike_refl _) (.cons h.alike ?_)) data
  exact forall₂_alike_refl _

theorem inserts_findings (h : RelaxesIn path s t) (hes : s.resolve data = .ok es) :
    Inserts (boundedFindings [] path (.map es)) (t.findings es) (s.findings es) := by
  obtain ⟨hnames, h⟩ := h
  obtain ⟨u, v, hv, hget⟩ :=
    Schema.exists_accepted hes hnames (List.mem_append_right _ List.mem_cons_self)
  rw [boundedFindings_map hget]
  exact (inserts_lintAll h.name_eq hget (h.inserts_lint hv _) _ _).mapError _

theorem exists_elapsed (h : RelaxesIn path s t) (hes : s.resolve data = .ok es) {values : Entries}
    (hvalues : (Value.map es).at? (textPath path) = some (.map values)) :
    ∃ d, values.get? (.str maxElapsedTimeName) = some (.duration d) := by
  obtain ⟨hnames, h⟩ := h
  obtain ⟨u, v, hv, hget⟩ :=
    Schema.exists_accepted hes hnames (List.mem_append_right _ List.mem_cons_self)
  rw [textPath_cons, Value.at?_map_cons, hget, Option.bind_some] at hvalues
  exact h.exists_elapsed hv hvalues

/-- The rule finds nothing in resolved values exactly if the field gives up after some time, and
otherwise one thing. -/
theorem boundedFindings_eq (h : RelaxesIn path s t) (hes : s.resolve data = .ok es) :
    (EndsAt (.ofEntries es) path ∧ boundedFindings [] path (.map es) = []) ∨
      (¬EndsAt (.ofEntries es) path ∧
        boundedFindings [] path (.map es) = [boundedIssue path]) := by
  by_cases hmap : ∃ values, (Value.map es).at? (textPath path) = some (.map values)
  · obtain ⟨values, hvalues⟩ := hmap
    obtain ⟨d, hd⟩ := h.exists_elapsed hes hvalues
    have hends : EndsAt (.ofEntries es) path ↔ d ≠ .zero := by
      simp [EndsAt, Accessor.lookup_eq_ok_iff, Accessor.toValue, Accessor.ofEntries, hvalues, hd]
    rw [hends]
    by_cases hzero : d = .zero <;> simp [boundedFindings_of_map hvalues hd, hzero]
  · have hends : EndsAt (.ofEntries es) path := fun values hvalues ↦
      absurd ⟨values, Accessor.lookup_eq_ok_iff.1 hvalues⟩ hmap
    exact .inl ⟨hends, boundedFindings_of_not_map hmap []⟩

theorem parse_unlinted_eq (h : RelaxesIn path s t) (data : Value) :
    s.parse data false = t.parse data false := by
  simp only [Schema.parse, h.resolve_eq data]
  rfl

theorem parse_linted_eq_ok_iff (h : RelaxesIn path s t) (data : Value) (a : Accessor) :
    s.parse data true = .ok a ↔ t.parse data true = .ok a ∧ EndsAt a path := by
  simp only [Schema.parse_eq_ok_iff, ← h.resolve_eq data, forall_const]
  constructor
  · rintro ⟨es, hes, hfound, rfl⟩
    obtain ⟨hrelaxed, hnil⟩ := (h.inserts_findings hes).eq_nil_iff.1 hfound
    rcases h.boundedFindings_eq hes with ⟨hends, -⟩ | ⟨-, hone⟩
    · exact ⟨⟨es, hes, hrelaxed, rfl⟩, hends⟩
    · cases hnil.symm.trans hone
  · rintro ⟨⟨es, hes, hrelaxed, rfl⟩, hends⟩
    rcases h.boundedFindings_eq hes with ⟨-, hnil⟩ | ⟨hnot, -⟩
    · exact ⟨es, hes, (h.inserts_findings hes).eq_nil_iff.2 ⟨hrelaxed, hnil⟩, rfl⟩
    · exact absurd hends hnot

theorem parse_linted_eq_error (h : RelaxesIn path s t) {a : Accessor}
    (ha : t.parse data true = .ok a) (hends : ¬EndsAt a path) :
    s.parse data true = .error (.issues [boundedIssue path]) := by
  obtain ⟨es, hes, hrelaxed, rfl⟩ := Schema.parse_eq_ok_iff.1 ha
  rw [← h.resolve_eq data] at hes
  rcases h.boundedFindings_eq hes with ⟨hyes, -⟩ | ⟨-, hone⟩
  · exact absurd hyes hends
  · have hfound := (h.inserts_findings hes).eq_ok_of_nil (hrelaxed rfl)
    rw [hone] at hfound
    exact Schema.parse_eq_issues hes hfound (List.cons_ne_nil _ _)

theorem inserts_lint (h : RelaxesIn path s t) {a : Accessor} (ha : t.parse data false = .ok a) :
    (EndsAt a path ∧ s.lint data = t.lint data) ∨
      (¬EndsAt a path ∧ Inserts [boundedIssue path] (t.lint data) (s.lint data)) := by
  obtain ⟨es, hes, -, rfl⟩ := Schema.parse_eq_ok_iff.1 ha
  have hinserts := h.inserts_findings ((h.resolve_eq data).trans hes)
  rw [Schema.lint, Schema.lint, h.resolve_eq data, hes, ok_bind, ok_bind]
  rcases h.boundedFindings_eq ((h.resolve_eq data).trans hes) with ⟨hends, hnil⟩ | ⟨hnot, hone⟩
  · exact .inl ⟨hends, (Inserts.nil_iff.1 (hnil ▸ hinserts)).symm⟩
  · exact .inr ⟨hnot, hone ▸ hinserts⟩

end RelaxesIn

/-! ## Extracted policies -/

theorem EndsAt.isUnbounded_eq_false {a : Accessor} {path : List String} (h : EndsAt a path)
    {p : Policy} (hp : (readTimes a (textPath path)).result = .ok p) : p.isUnbounded = false := by
  obtain ⟨-, -, helapsed, -, -⟩ := readTimes_eq_ok_iff.1 hp
  obtain ⟨v, hat, hv⟩ := Accessor.duration_eq_ok_iff.1 helapsed
  obtain ⟨values, hvalues, hget⟩ := Value.at?_concat_eq_some_iff.1 hat
  obtain ⟨d, hd, hne⟩ := h values (Accessor.lookup_eq_ok_iff.2 hvalues)
  obtain rfl : v = .duration d := Option.some.inj (hget.symm.trans hd)
  obtain rfl : d = p.maxElapsedTime := Except.ok.inj hv
  simpa [Policy.isUnbounded] using hne

/-- What the first of two schemas, which has the rule against unbounded retries at a path, does
compared to the second, which does not have it. -/
structure Bounds (path : List String) (s t : Schema) : Prop where
  unlinted : ∀ data, s.parse data false = t.parse data false
  linted : ∀ data a, s.parse data true = .ok a ↔ t.parse data true = .ok a ∧ EndsAt a path
  refused : ∀ data a, t.parse data true = .ok a → ¬EndsAt a path →
    s.parse data true = .error (.issues [boundedIssue path])
  findings : ∀ data a, t.parse data false = .ok a →
    (EndsAt a path ∧ s.lint data = t.lint data) ∨
      (¬EndsAt a path ∧ Inserts [boundedIssue path] (t.lint data) (s.lint data))
  extracted : ∀ data a p, s.parse data true = .ok a →
    ((extract a (textPath path)).result = .ok p ∨
      ∃ enabled, (extractToggled a (textPath path)).result = .ok (p, enabled)) →
    p.isUnbounded = false

/-- Of every schema with a backoff field that must not retry without bound there is one in which
it may, and the rule makes exactly the difference that it should. -/
theorem Plan.bounds {plan : Plan} {before after : List Candidate} {s : Schema}
    (h : plan.schema false before after = .ok s) :
    ∃ t, plan.schema true before after = .ok t ∧ Bounds plan.path s t := by
  obtain ⟨t, ht, hst⟩ := exists_relaxesIn h
  refine ⟨t, ht, ⟨hst.parse_unlinted_eq, hst.parse_linted_eq_ok_iff,
    fun data a ↦ hst.parse_linted_eq_error, fun data a ↦ hst.inserts_lint, ?_⟩⟩
  intro data a p ha hp
  have hends := ((hst.parse_linted_eq_ok_iff data a).1 ha).2
  rcases hp with hp | ⟨enabled, hp⟩
  · exact hends.isUnbounded_eq_false (extract_eq_ok_iff.1 hp)
  · exact hends.isUnbounded_eq_false (extractToggled_eq_ok_iff.1 hp).2

/-- An optional backoff field inside an object. -/
def clientPlan : Plan := .object "client" [] (.step (.backoff true "retry" none) .optional) []

theorem exists_schema_clientPlan : ∃ s, clientPlan.schema false [] [] = .ok s := by
  have hretry : newField true (.str "retry") false none = .ok (shape true "retry" false none) :=
    newField_eq_ok_iff.2 ⟨"retry", rfl, by decide, rfl⟩
  have hbuild : (Plan.step (.backoff true "retry" none) .optional).build false =
      .ok (shape true "retry" false none).optional :=
    bind_eq_ok_iff.2 ⟨_, hretry, rfl⟩
  have hclient : clientPlan.build false =
      .ok (.object { name := "client" } [(shape true "retry" false none).optional] []) := by
    refine bind_eq_ok_iff.2 ⟨_, hbuild, newObject_eq_ok_iff.2 ?_⟩
    exact ⟨"client", [_], rfl, by decide, rfl, by simp, rfl⟩
  exact ⟨⟨[_]⟩, bind_eq_ok_iff.2 ⟨_, hclient, rfl⟩⟩

theorem clientPlan_bounds :
    ∃ s, clientPlan.schema false [] [] = .ok s ∧
      ∃ t, clientPlan.schema true [] [] = .ok t ∧ Bounds ["client", "retry"] s t := by
  obtain ⟨s, hs⟩ := exists_schema_clientPlan
  exact ⟨s, hs, Plan.bounds hs⟩

end Settings.Backoff
