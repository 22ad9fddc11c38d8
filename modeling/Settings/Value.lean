import Settings.Calendar
import Settings.Double.Exact
import Settings.Duration

/-!
# Configuration values

The trees that configurations are made of.  A map keeps its entries in the order in which they
were added, and its keys may be any values without parts.
-/

namespace Settings

inductive Value where
  | null
  | bool (b : Bool)
  | int (n : Int)
  | float (x : Float)
  | str (s : String)
  | duration (d : Duration)
  | list (items : List Value)
  | map (entries : List (Value × Value))
  | date (d : Date)
  | moment (t : Moment)
  | bytes (octets : List UInt8)
  | set (members : List Value)
  deriving Inhabited

/-- The entries of a map, in order. -/
abbrev Entries := List (Value × Value)

namespace Value

def typeName : Value → String
  | null => "NoneType"
  | bool _ => "bool"
  | int _ => "int"
  | float _ => "float"
  | str _ => "str"
  | duration _ => "timedelta"
  | list _ => "list"
  | map _ => "dict"
  | date _ => "date"
  | moment _ => "datetime"
  | bytes _ => "bytes"
  | set _ => "set"

/-- The name of a value's type together with where the type comes from, if that is elsewhere. -/
def fullTypeName (v : Value) : String :=
  match v with
  | duration _ | date _ | moment _ => "datetime." ++ v.typeName
  | _ => v.typeName

def isFalsy : Value → Bool
  | null => true
  | bool b => !b
  | int n => n == 0
  | float x => x == 0
  | str s => s.isEmpty
  | duration d => d.micros == 0
  | list items => items.isEmpty
  | map entries => entries.isEmpty
  | bytes octets => octets.isEmpty
  | set members => members.isEmpty
  | date _ | moment _ => false

/-- The whole number that a truth value or an integer stands for. -/
def integer? : Value → Option Int
  | bool b => some (if b then 1 else 0)
  | int n => some n
  | _ => none

/-- Whether two values without parts are equal.  Numbers are compared by their exact value, whatever
their type, and truth values count as numbers. -/
def sameScalar : Value → Value → Bool
  | null, null => true
  | str s, str t => s == t
  | float x, float y => x == y
  | float x, y => match y.integer? with
      | some n => Double.toInt? x == some n
      | none => false
  | x, float y => match x.integer? with
      | some n => Double.toInt? y == some n
      | none => false
  | duration d, duration e => d == e
  | date d, date e => d == e
  | moment t, moment u => t.same u
  | bytes x, bytes y => x == y
  | x, y => match x.integer?, y.integer? with
      | some m, some n => m == n
      | _, _ => false

@[simp] theorem sameScalar_str (s t : String) : sameScalar (str s) (str t) = (s == t) := rfl

mutual

/-- Whether two values are equal.  The order of entries and of members does not matter. -/
def same : Value → Value → Bool
  | list xs, list ys => sameItems xs ys
  | map xs, map ys => xs.length == ys.length && sameEntries xs ys
  | set xs, set ys => xs.length == ys.length && xs.all fun x => ys.any (sameScalar x)
  | x, y => sameScalar x y

/-- Whether two lists have equal items in the same order. -/
def sameItems : List Value → List Value → Bool
  | [], [] => true
  | x :: xs, y :: ys => same x y && sameItems xs ys
  | _, _ => false

/-- Whether each of the entries has an equal one in the other map. -/
def sameEntries : Entries → Entries → Bool
  | [], _ => true
  | (k, x) :: xs, ys =>
      (match ys.find? fun e => sameScalar k e.1 with
        | some (_, y) => same x y
        | none => false) && sameEntries xs ys

end

end Value

namespace Entries

def get? (entries : Entries) (key : Value) : Option Value :=
  (entries.find? fun e => Value.sameScalar key e.1).map (·.2)

def hasKey (entries : Entries) (key : Value) : Bool :=
  entries.any fun e => Value.sameScalar key e.1

/-- Sets the value under a key.  A key that is there keeps its place; a new one comes last. -/
def put (entries : Entries) (key value : Value) : Entries :=
  match entries with
  | [] => [(key, value)]
  | (k, v) :: rest =>
      if Value.sameScalar key k then (k, value) :: rest else (k, v) :: put rest key value

/-- The entries of a list of pairs added one after another. -/
def ofList (pairs : List (Value × Value)) : Entries :=
  pairs.foldl (fun entries e => put entries e.1 e.2) []

@[simp] theorem get?_nil (key : Value) : get? [] key = none := rfl

theorem get?_cons (k v key : Value) (rest : Entries) :
    get? ((k, v) :: rest) key = if Value.sameScalar key k then some v else get? rest key := by
  by_cases h : Value.sameScalar key k <;> simp [get?, h]

@[simp] theorem put_nil (key value : Value) : put [] key value = [(key, value)] := rfl

theorem put_cons (k v key value : Value) (rest : Entries) :
    put ((k, v) :: rest) key value =
      if Value.sameScalar key k then (k, value) :: rest else (k, v) :: put rest key value := rfl

/-- What has just been set is found, provided that the key equals itself. -/
theorem get?_put_self {key : Value} (h : Value.sameScalar key key = true) (entries : Entries)
    (value : Value) : (put entries key value).get? key = some value := by
  induction entries with
  | nil => simp [get?_cons, h]
  | cons e rest ih =>
      obtain ⟨k, v⟩ := e
      by_cases hk : Value.sameScalar key k
      · simp [put_cons, get?_cons, hk]
      · simp [put_cons, get?_cons, hk, ih]

end Entries

end Settings
