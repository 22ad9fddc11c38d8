import Settings.Field
import Settings.Scalar.Number

/-!
# Converting scalar values

Each kind of scalar field accepts some values and turns them into values of its own type.  What
comes out is accepted again and stays the same.
-/

namespace Settings.ScalarKind

/-- The value that a field of the kind makes of a given one. -/
def convert : ScalarKind → Value → Except Problem Value
  | .string, .str s => .ok (.str s)
  | .string, .bytes octets => (Scalar.textOfOctets .notUnicode octets).map .str
  | .string, _ => .error .notText
  | .bool, .bool b => .ok (.bool b)
  | .bool, _ => .error .notTruthValue
  | .int, v => (Scalar.toInteger v).map .int
  | .float, v => (Scalar.toNumber v).map .float
  | .duration, v =>
      match Duration.ofValue v with
      | .ok d => .ok (.duration d)
      | .error e => .error (.duration e)

/-- Whether a value has the type that fields of the kind hold. -/
def Holds : ScalarKind → Value → Prop
  | .string, v => ∃ s, v = .str s
  | .bool, v => ∃ b, v = .bool b
  | .int, v => ∃ n, v = .int n
  | .float, v => ∃ x, v = .float x
  | .duration, v => ∃ d, v = .duration d

theorem convert_of_holds {k : ScalarKind} {v : Value} (h : k.Holds v) : k.convert v = .ok v := by
  cases k <;> obtain ⟨x, rfl⟩ := h <;> rfl

theorem holds_of_convert {k : ScalarKind} {v w : Value} (h : k.convert v = .ok w) : k.Holds w := by
  cases k with
  | string =>
      cases v with
      | str s => exact ⟨s, (Except.ok.inj h).symm⟩
      | bytes octets =>
          simp only [convert] at h
          cases hs : Scalar.textOfOctets .notUnicode octets with
          | error e => rw [hs] at h; cases h
          | ok s => rw [hs] at h; cases h; exact ⟨s, rfl⟩
      | _ => simp [convert] at h
  | bool => cases v <;> simp only [convert, reduceCtorEq, Except.ok.injEq] at h; exact ⟨_, h.symm⟩
  | int =>
      simp only [convert] at h
      cases hx : Scalar.toInteger v with
      | error e => rw [hx] at h; cases h
      | ok n => rw [hx] at h; cases h; exact ⟨n, rfl⟩
  | float =>
      simp only [convert] at h
      cases hx : Scalar.toNumber v with
      | error e => rw [hx] at h; cases h
      | ok x => rw [hx] at h; cases h; exact ⟨x, rfl⟩
  | duration =>
      simp only [convert] at h
      cases hx : Duration.ofValue v with
      | error e => rw [hx] at h; cases h
      | ok d => rw [hx] at h; cases h; exact ⟨d, rfl⟩

end Settings.ScalarKind
