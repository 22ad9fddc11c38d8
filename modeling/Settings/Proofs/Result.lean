/-!
# Results that may be failures

A computation in steps succeeds exactly when each step does.  Two computations agree if both
succeed, with related values, or both fail, with related failures.
-/

namespace Settings

theorem bind_eq_ok_iff {x : Except ε α} {f : α → Except ε β} {b : β} :
    x >>= f = .ok b ↔ ∃ a, x = .ok a ∧ f a = .ok b := by
  cases x with
  | error e => simp [bind, Except.bind]
  | ok a => simp [bind, Except.bind]

@[simp] theorem ok_bind (a : α) (f : α → Except ε β) : Except.ok a >>= f = f a := rfl

@[simp] theorem error_bind (e : ε) (f : α → Except ε β) :
    (Except.error e : Except ε α) >>= f = .error e := rfl

@[simp] theorem throw_eq_error (e : ε) : (throw e : Except ε α) = .error e := rfl

theorem pure_eq_ok_iff {a b : α} : (pure a : Except ε α) = .ok b ↔ b = a := by
  rw [eq_comm (a := b)]
  exact ⟨Except.ok.inj, congrArg Except.ok⟩

theorem map_eq_ok_iff {x : Except ε α} {f : α → β} {b : β} :
    x.map f = .ok b ↔ ∃ a, x = .ok a ∧ b = f a := by
  cases x with
  | error e => simp [Except.map]
  | ok a => simp [Except.map, eq_comm (a := b)]

theorem map_ne_error {x : Except ε α} {e : ε} (h : x ≠ .error e) (f : α → β) :
    x.map f ≠ .error e := by
  cases x with
  | error d =>
      rintro ⟨⟩
      exact h rfl
  | ok a => nofun

theorem mapError_eq_ok_iff {x : Except ε α} {f : ε → δ} {a : α} :
    x.mapError f = .ok a ↔ x = .ok a := by
  cases x with
  | error e => constructor <;> rintro ⟨⟩
  | ok b => constructor <;> rintro ⟨⟩ <;> rfl

instance decidableEqOk [DecidableEq α] (x : Except ε α) (a : α) : Decidable (x = .ok a) :=
  match x with
  | .ok b => decidable_of_iff (b = a) (by simp)
  | .error _ => .isFalse (by simp)

instance decidableExistsOk (x : Except ε α) (P : α → Prop) [DecidablePred P] :
    Decidable (∃ a, x = .ok a ∧ P a) :=
  match x with
  | .ok a => decidable_of_iff (P a) (by simp)
  | .error _ => .isFalse (by simp)

/-- Whether two results are both failures that are related by `R`, or both values that are related
by `S`. -/
inductive Agrees (R : ε → δ → Prop) (S : α → β → Prop) : Except ε α → Except δ β → Prop where
  | ok {a : α} {b : β} (h : S a b) : Agrees R S (.ok a) (.ok b)
  | error {e : ε} {d : δ} (h : R e d) : Agrees R S (.error e) (.error d)

namespace Agrees

theorem imp {R : ε → δ → Prop} {S T : α → β → Prop} {x : Except ε α} {y : Except δ β}
    (h : Agrees R S x y) (hST : ∀ a b, S a b → T a b) : Agrees R T x y := by
  cases h with
  | ok hab => exact .ok (hST _ _ hab)
  | error hed => exact .error hed

theorem bind {R : ε → δ → Prop} {S : α → β → Prop} {T : γ → ζ → Prop} {x : Except ε α}
    {y : Except δ β} {f : α → Except ε γ} {g : β → Except δ ζ} (h : Agrees R S x y)
    (hfg : ∀ a b, S a b → Agrees R T (f a) (g b)) : Agrees R T (x >>= f) (y >>= g) := by
  cases h with
  | ok hab => exact hfg _ _ hab
  | error hed => exact .error hed

theorem mapError {R : ε → δ → Prop} {R' : ε' → δ' → Prop} {S : α → β → Prop} {x : Except ε α}
    {y : Except δ β} {f : ε → ε'} {g : δ → δ'} (h : Agrees R S x y)
    (hfg : ∀ e d, R e d → R' (f e) (g d)) : Agrees R' S (x.mapError f) (y.mapError g) := by
  cases h with
  | ok hab => exact .ok hab
  | error hed => exact .error (hfg _ _ hed)

end Agrees

end Settings
