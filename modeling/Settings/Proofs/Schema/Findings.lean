import Settings.Proofs.Result
import Settings.Schema

/-!
# Findings with more findings among them

When one object field has an additional rule, what that rule finds stands somewhere among the
findings of the whole tree, and all the others are as before.  If a rule fails, nothing is found
either way.
-/

namespace Settings

/-- Whether the second result is the first one with something inserted at one place. -/
inductive Inserts (extra : List α) : Except ε (List α) → Except ε (List α) → Prop where
  | error (e : ε) : Inserts extra (.error e) (.error e)
  | ok (before after : List α) :
      Inserts extra (.ok (before ++ after)) (.ok (before ++ extra ++ after))

namespace Inserts

variable {extra : List α} {x y : Except ε (List α)}

theorem nil_iff : Inserts [] x y ↔ x = y := by
  constructor
  · intro h
    cases h with
    | error e => rfl
    | ok before after => rw [List.append_nil]
  · rintro rfl
    cases x with
    | error e => exact .error e
    | ok found =>
        have hok : Inserts [] (Except.ok (found ++ []) : Except ε _) _ := .ok found []
        simpa using hok

theorem front (x : Except ε (List α)) :
    Inserts extra x (x >>= fun found => pure (extra ++ found)) := by
  cases x with
  | error e => exact .error e
  | ok found => exact .ok [] found

theorem behind (h : Inserts extra x y) (z : Except ε (List α)) :
    Inserts extra (z >>= fun before => x >>= fun found => pure (before ++ found))
      (z >>= fun before => y >>= fun found => pure (before ++ found)) := by
  cases z with
  | error e => exact .error e
  | ok first =>
      cases h with
      | error e => exact .error e
      | ok before after =>
          have hok : Inserts extra (Except.ok (first ++ before ++ after) : Except ε _) _ :=
            .ok (first ++ before) after
          simpa [pure, Except.pure] using hok

theorem ahead (h : Inserts extra x y) (z : Except ε (List α)) :
    Inserts extra (x >>= fun found => z >>= fun after => pure (found ++ after))
      (y >>= fun found => z >>= fun after => pure (found ++ after)) := by
  cases h with
  | error e => exact .error e
  | ok before after =>
      cases z with
      | error e => exact .error e
      | ok last =>
          have hok : Inserts extra (Except.ok (before ++ (after ++ last)) : Except ε _) _ :=
            .ok before (after ++ last)
          simpa [pure, Except.pure] using hok

theorem mapError (h : Inserts extra x y) (f : ε → δ) :
    Inserts extra (x.mapError f) (y.mapError f) := by
  cases h with
  | error e => exact .error (f e)
  | ok before after => exact .ok before after

theorem eq_ok_of_nil (h : Inserts extra x y) (hx : x = .ok []) : y = .ok extra := by
  cases h with
  | error e => cases hx
  | ok before after =>
      obtain ⟨rfl, rfl⟩ : before = [] ∧ after = [] := by simpa using hx
      simp

theorem eq_nil_iff (h : Inserts extra x y) : y = .ok [] ↔ x = .ok [] ∧ extra = [] := by
  cases h with
  | error e => simp
  | ok before after =>
      simp only [Except.ok.injEq, List.append_eq_nil_iff]
      exact and_right_comm

end Inserts

namespace Field

/-- The findings for one of the fields of the object at a path. -/
def lintEntry (path : List String) (values : Entries) (f : Field) :
    Except DurationError (List Issue) :=
  match values.get? (.str f.name) with
  | some v => lint (path ++ [f.name]) v f
  | none => .ok []

theorem lintAll_cons (path : List String) (values : Entries) (f : Field) (rest : List Field) :
    lintAll path values (f :: rest) =
      lintEntry path values f >>= fun found =>
        lintAll path values rest >>= fun after => pure (found ++ after) := by
  rw [lintAll, lintEntry]
  cases values.get? (.str f.name) <;> rfl

theorem lintAll_of_scalars {fields : List Field} (h : ∀ f ∈ fields, f.isObject = false)
    (path : List String) (values : Entries) : lintAll path values fields = .ok [] := by
  induction fields with
  | nil => rfl
  | cons f fields ih =>
      have hrest := ih fun g hg ↦ h g (List.mem_cons_of_mem _ hg)
      cases f with
      | object => exact absurd (h _ List.mem_cons_self) (by simp [isObject])
      | scalar info kind =>
          rw [lintAll_cons, hrest, lintEntry]
          cases values.get? (.str (scalar info kind).name) <;> rfl

/-- What one more rule finds stands before what the other rules and the children find. -/
theorem lint_cons_rule {path : List String} {values : Entries} {info : FieldInfo}
    {children children' : List Field} {rule : Rule} (rules : List Rule) {extra : List Issue}
    (hrule : rule.issues path values = .ok extra)
    (hchildren : lintAll path values children = lintAll path values children') :
    Inserts extra (lint path (.map values) (.object info children rules))
      (lint path (.map values) (.object info children' (rule :: rules))) := by
  simp only [lint, rulesIssues, hrule, ok_bind, hchildren]
  exact (Inserts.front _).ahead _

/-- Exchanging one of several fields changes the findings as it changes those of the field. -/
theorem inserts_lintAll {path : List String} {values : Entries} {extra : List Issue}
    {f g : Field} {v : Value} (hname : f.name = g.name) (hv : values.get? (.str f.name) = some v)
    (h : Inserts extra (lint (path ++ [f.name]) v g) (lint (path ++ [f.name]) v f))
    (before after : List Field) :
    Inserts extra (lintAll path values (before ++ g :: after))
      (lintAll path values (before ++ f :: after)) := by
  induction before with
  | nil =>
      rw [List.nil_append, List.nil_append, lintAll_cons, lintAll_cons, lintEntry, lintEntry,
        ← hname, hv]
      exact h.ahead _
  | cons b before ih =>
      rw [List.cons_append, List.cons_append, lintAll_cons, lintAll_cons]
      exact ih.behind _

end Field

end Settings
