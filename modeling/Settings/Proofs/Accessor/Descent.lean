import Settings.Accessor
import Settings.Proofs.Result

/-!
# Which reads succeed

A read succeeds exactly when the descent along its path, through maps only, ends at a value of the
type that is asked for.
-/

namespace Settings

/-- A path of names, as accessors take it. -/
def textPath (path : List String) : List Value := path.map .str

@[simp] theorem textPath_nil : textPath [] = [] := rfl

@[simp] theorem textPath_cons (name : String) (path : List String) :
    textPath (name :: path) = .str name :: textPath path := rfl

@[simp] theorem textPath_append (path rest : List String) :
    textPath (path ++ rest) = textPath path ++ textPath rest :=
  List.map_append

/-- The value at a path below a value; only maps have values below them. -/
def Value.at? : Value → List Value → Option Value
  | v, [] => some v
  | .map entries, key :: rest => (Entries.get? entries key).bind fun w => w.at? rest
  | _, _ :: _ => none

namespace Value

@[simp] theorem at?_nil (v : Value) : v.at? [] = some v := by
  cases v <;> rfl

@[simp] theorem at?_map_cons (entries : Entries) (key : Value) (rest : List Value) :
    (Value.map entries).at? (key :: rest) = (entries.get? key).bind fun w => w.at? rest := rfl

theorem at?_append (v : Value) (path rest : List Value) :
    v.at? (path ++ rest) = (v.at? path).bind fun w => w.at? rest := by
  induction path generalizing v with
  | nil => simp
  | cons key path ih =>
      cases v with
      | map entries =>
          rw [List.cons_append, at?_map_cons, at?_map_cons, Option.bind_assoc]
          exact congrArg _ (funext fun w ↦ ih w)
      | _ => rfl

theorem exists_map_of_at? {v : Value} {path : List Value} {entries : Entries}
    (h : v.at? path = some (.map entries)) : ∃ outer, v = .map outer := by
  cases v with
  | map outer => exact ⟨outer, rfl⟩
  | _ => cases path <;> cases h

/-- What lies under one more key is an entry of the map that lies at the path. -/
theorem at?_concat_eq_some_iff {v w : Value} {path : List Value} {key : Value} :
    v.at? (path ++ [key]) = some w ↔
      ∃ entries, v.at? path = some (.map entries) ∧ Entries.get? entries key = some w := by
  rw [at?_append, Option.bind_eq_some_iff]
  constructor
  · rintro ⟨u, hu, hw⟩
    cases u with
    | map entries =>
        obtain ⟨w', hkey, hat⟩ := Option.bind_eq_some_iff.1 hw
        rw [at?_nil, Option.some.injEq] at hat
        exact ⟨entries, hu, hat ▸ hkey⟩
    | _ => cases hw
  · rintro ⟨entries, hentries, hkey⟩
    exact ⟨.map entries, hentries, by simp [hkey]⟩

end Value

namespace Accessor

theorem descend_eq_ok_iff {base done path : List Value} {v w : Value} :
    descend base done v path = .ok w ↔ v.at? path = some w := by
  induction path generalizing done v with
  | nil => simp [descend]
  | cons key path ih =>
      cases v with
      | map entries =>
          rw [descend, Value.at?_map_cons]
          cases hkey : Entries.get? entries key with
          | none => simp
          | some u => simpa using ih
      | _ => simp [descend, Value.at?]

theorem lookup_eq_ok_iff {a : Accessor} {path : List Value} {v : Value} :
    a.lookup path = .ok v ↔ a.toValue.at? path = some v :=
  descend_eq_ok_iff

theorem lookupSet_eq_ok_iff {a : Accessor} {path : List Value} {v : Value} :
    a.lookupSet path = .ok v ↔ a.toValue.at? path = some v ∧ v ≠ .null := by
  rw [← lookup_eq_ok_iff, lookupSet]
  split
  · next e he => simp [he]
  · next hnull =>
      rw [hnull, Except.ok.injEq]
      constructor
      · rintro ⟨⟩
      · rintro ⟨rfl, hne⟩
        exact absurd rfl hne
  · next w hne hw =>
      rw [hw, Except.ok.injEq]
      refine ⟨?_, And.left⟩
      rintro rfl
      exact ⟨rfl, hne⟩

theorem enter_eq_ok_iff {a b : Accessor} {path : List Value} :
    a.enter path = .ok b ↔
      ∃ entries, a.toValue.at? path = some (.map entries) ∧ b = ⟨a.path ++ path, entries⟩ := by
  simp only [enter, bind_eq_ok_iff, lookupSet_eq_ok_iff]
  constructor
  · rintro ⟨v, ⟨hv, -⟩, hb⟩
    cases v with
    | map entries => exact ⟨entries, hv, pure_eq_ok_iff.1 hb⟩
    | _ => cases hb
  · rintro ⟨entries, hv, rfl⟩
    exact ⟨.map entries, ⟨hv, by simp⟩, rfl⟩

theorem duration_eq_ok_iff {a : Accessor} {path : List Value} {d : Duration} :
    a.duration path = .ok d ↔
      ∃ v, a.toValue.at? path = some v ∧ Duration.ofValue v = .ok d := by
  simp only [duration, bind_eq_ok_iff, mapError_eq_ok_iff, lookupSet_eq_ok_iff]
  refine exists_congr fun v ↦ ?_
  cases hv : Duration.ofValue v with
  | error e => simp
  | ok d' =>
      have hne : v ≠ .null := by
        rintro rfl
        cases hv
      simp only [hne, ne_eq, not_false_eq_true, and_true, pure_eq_ok_iff, Except.ok.injEq,
        eq_comm (a := d)]

theorem read_eq_ok_iff {a : Accessor} {path : List Value} {k : Value → Except AccessError α}
    {wrap : α → Value} (hk : ∀ v x, k v = .ok x ↔ v = wrap x) (hnull : ∀ x, wrap x ≠ .null)
    {x : α} : (a.lookupSet path >>= k) = .ok x ↔ a.toValue.at? path = some (wrap x) := by
  simp only [bind_eq_ok_iff, lookupSet_eq_ok_iff, hk]
  constructor
  · rintro ⟨v, ⟨hv, -⟩, rfl⟩
    exact hv
  · intro h
    exact ⟨wrap x, ⟨h, hnull x⟩, rfl⟩

theorem bool_eq_ok_iff {a : Accessor} {path : List Value} {b : Bool} :
    a.bool path = .ok b ↔ a.toValue.at? path = some (.bool b) := by
  refine read_eq_ok_iff (fun v x ↦ ?_) (by simp)
  cases v <;> simp [pure_eq_ok_iff, eq_comm (a := x)]

theorem string_eq_ok_iff {a : Accessor} {path : List Value} {s : String} :
    a.string path = .ok s ↔ a.toValue.at? path = some (.str s) := by
  refine read_eq_ok_iff (fun v x ↦ ?_) (by simp)
  cases v <;> simp [pure_eq_ok_iff, eq_comm (a := x)]

theorem int_eq_ok_iff {a : Accessor} {path : List Value} {n : Int} :
    a.int path = .ok n ↔ a.toValue.at? path = some (.int n) := by
  refine read_eq_ok_iff (fun v x ↦ ?_) (by simp)
  cases v <;> simp [pure_eq_ok_iff, eq_comm (a := x)]

theorem float_of_at? {a : Accessor} {path : List Value} {x : Float}
    (h : a.toValue.at? path = some (.float x)) : a.float path = .ok x := by
  have hset : a.lookupSet path = .ok (.float x) := lookupSet_eq_ok_iff.2 ⟨h, by simp⟩
  rw [float, hset]

end Accessor

end Settings
