import Settings.Value

/-!
# The order of keys

Numbers are in order by their exact value, whatever their type, texts by their characters, and
durations by their length.  Values of different kinds have no order.
-/

namespace Settings

/-- Two keys that have no order, by the names of their types. -/
structure OrderError where
  later : String
  earlier : String
  deriving DecidableEq, Repr

def OrderError.message (e : OrderError) : String :=
  s!"'<' not supported between instances of '{e.later}' and '{e.earlier}'"

/-- A number on the extended line, as a fraction if it is finite. -/
inductive Magnitude where
  | belowAll
  | fraction (num : Int) (den : Nat)
  | aboveAll
  deriving DecidableEq, Repr

/-- The exact value of a double; what is not a number is put above all numbers. -/
def Magnitude.ofFloat (x : Float) : Magnitude :=
  match Double.exact x with
  | .nan => .aboveAll
  | .infinite negative => if negative then .belowAll else .aboveAll
  | .finite negative m e =>
      let n : Int := if negative then -(m : Int) else m
      if 0 ≤ e then .fraction (n * (Nat.pow 2 e.toNat : Nat)) 1
      else .fraction n (Nat.pow 2 (-e).toNat)

/-- Whether one number is at most another one. -/
def Magnitude.le : Magnitude → Magnitude → Bool
  | .belowAll, _ | _, .aboveAll => true
  | .fraction m p, .fraction n q => m * q ≤ n * p
  | _, _ => false

namespace Value

def magnitude? : Value → Option Magnitude
  | .float x => some (.ofFloat x)
  | v => v.integer?.map fun n => .fraction n 1

/-- Whether one value stands before another or beside it; `none` if they have no order. -/
def le? : Value → Value → Option Bool
  | .str s, .str t => some (decide (s ≤ t))
  | .duration d, .duration e => some (decide (d.micros ≤ e.micros))
  | v, w =>
      match v.magnitude?, w.magnitude? with
      | some m, some n => some (m.le n)
      | _, _ => none

/-- The first two neighbours that have no order. -/
def unordered? : List Value → Option OrderError
  | v :: w :: rest =>
      match v.le? w with
      | some _ => unordered? (w :: rest)
      | none => some ⟨w.fullTypeName, v.fullTypeName⟩
  | _ => none

def sorted (vs : List Value) : Except OrderError (List Value) :=
  match unordered? vs with
  | some e => .error e
  | none => .ok (vs.mergeSort fun v w => (v.le? w).getD true)

end Value

end Settings
