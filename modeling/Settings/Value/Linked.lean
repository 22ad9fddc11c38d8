import Settings.Value

/-!
# Values in which maps are repeated

A text can refer back to a map in it, and then the map stands in several places.  It stays one map:
a change in one of the places is a change in all of them.  Such maps carry a mark, the same one in
every place, and a map without a mark stands in one place only.
-/

namespace Settings

def Value.isCollection : Value → Bool
  | .list _ | .map _ => true
  | _ => false

inductive Linked where
  | leaf (v : Value) (h : v.isCollection = false)
  | list (items : List Linked)
  | map (mark : Option Nat) (entries : List (Value × Linked))

abbrev LinkedEntries := List (Value × Linked)

mutual

/-- The value as it is seen from outside. -/
def Linked.toValue : Linked → Value
  | .leaf v _ => v
  | .list items => .list (Linked.toValues items)
  | .map _ entries => .map (LinkedEntries.toEntries entries)

def Linked.toValues : List Linked → List Value
  | [] => []
  | t :: rest => t.toValue :: Linked.toValues rest

def LinkedEntries.toEntries : List (Value × Linked) → List (Value × Value)
  | [] => []
  | (key, t) :: rest => (key, t.toValue) :: LinkedEntries.toEntries rest

end

mutual

/-- A value in which no map is repeated. -/
def Linked.ofValue : Value → Linked
  | .null => .leaf .null rfl
  | .bool b => .leaf (.bool b) rfl
  | .int n => .leaf (.int n) rfl
  | .float x => .leaf (.float x) rfl
  | .str s => .leaf (.str s) rfl
  | .duration d => .leaf (.duration d) rfl
  | .date d => .leaf (.date d) rfl
  | .moment t => .leaf (.moment t) rfl
  | .bytes octets => .leaf (.bytes octets) rfl
  | .set members => .leaf (.set members) rfl
  | .list items => .list (Linked.ofValues items)
  | .map entries => .map none (LinkedEntries.ofEntries entries)

def Linked.ofValues : List Value → List Linked
  | [] => []
  | v :: rest => Linked.ofValue v :: Linked.ofValues rest

def LinkedEntries.ofEntries : List (Value × Value) → List (Value × Linked)
  | [] => []
  | (key, v) :: rest => (key, Linked.ofValue v) :: LinkedEntries.ofEntries rest

end

mutual

@[simp] theorem Linked.toValue_ofValue : ∀ v : Value, (Linked.ofValue v).toValue = v
  | .null | .bool _ | .int _ | .float _ | .str _ | .duration _ | .date _ | .moment _ | .bytes _
  | .set _ => rfl
  | .list items => congrArg Value.list (Linked.toValues_ofValues items)
  | .map entries => congrArg Value.map (LinkedEntries.toEntries_ofEntries entries)

theorem Linked.toValues_ofValues :
    ∀ items : List Value, Linked.toValues (Linked.ofValues items) = items
  | [] => rfl
  | v :: rest => by
      rw [Linked.ofValues, Linked.toValues, Linked.toValue_ofValue v,
        Linked.toValues_ofValues rest]

@[simp] theorem LinkedEntries.toEntries_ofEntries :
    ∀ entries : List (Value × Value),
      LinkedEntries.toEntries (LinkedEntries.ofEntries entries) = entries
  | [] => rfl
  | (key, v) :: rest => by
      rw [LinkedEntries.ofEntries, LinkedEntries.toEntries, Linked.toValue_ofValue v,
        LinkedEntries.toEntries_ofEntries rest]

end

mutual

/-- The marks of all maps in a value, once for each place. -/
def Linked.marks : Linked → List Nat
  | .leaf .. => []
  | .list items => Linked.marksOfItems items
  | .map mark entries => mark.toList ++ LinkedEntries.marks entries

def Linked.marksOfItems : List Linked → List Nat
  | [] => []
  | t :: rest => t.marks ++ Linked.marksOfItems rest

def LinkedEntries.marks : List (Value × Linked) → List Nat
  | [] => []
  | (_, t) :: rest => t.marks ++ LinkedEntries.marks rest

end

mutual

@[simp] theorem Linked.marks_ofValue : ∀ v : Value, (Linked.ofValue v).marks = []
  | .null | .bool _ | .int _ | .float _ | .str _ | .duration _ | .date _ | .moment _ | .bytes _
  | .set _ => rfl
  | .list items => Linked.marksOfItems_ofValues items
  | .map entries => LinkedEntries.marks_ofEntries entries

theorem Linked.marksOfItems_ofValues :
    ∀ items : List Value, Linked.marksOfItems (Linked.ofValues items) = []
  | [] => rfl
  | v :: rest => by
      rw [Linked.ofValues, Linked.marksOfItems, Linked.marks_ofValue v,
        Linked.marksOfItems_ofValues rest, List.append_nil]

theorem LinkedEntries.marks_ofEntries :
    ∀ entries : List (Value × Value), LinkedEntries.marks (LinkedEntries.ofEntries entries) = []
  | [] => rfl
  | (_, v) :: rest => by
      rw [LinkedEntries.ofEntries, LinkedEntries.marks, Linked.marks_ofValue v,
        LinkedEntries.marks_ofEntries rest, List.append_nil]

end

mutual

/-- The value with some of its marks left out. -/
def Linked.keepMarks (keep : Nat → Bool) : Linked → Linked
  | .leaf v h => .leaf v h
  | .list items => .list (Linked.keepMarksOfItems keep items)
  | .map mark entries => .map (mark.filter keep) (LinkedEntries.keepMarks keep entries)

def Linked.keepMarksOfItems (keep : Nat → Bool) : List Linked → List Linked
  | [] => []
  | t :: rest => t.keepMarks keep :: Linked.keepMarksOfItems keep rest

def LinkedEntries.keepMarks (keep : Nat → Bool) : List (Value × Linked) → List (Value × Linked)
  | [] => []
  | (key, t) :: rest => (key, t.keepMarks keep) :: LinkedEntries.keepMarks keep rest

end

/-- Leaves out the marks that stand in one place only. -/
def Linked.dropSingleMarks (t : Linked) : Linked :=
  let marks := t.marks
  t.keepMarks fun mark => 1 < marks.count mark

namespace LinkedEntries

def get? (entries : LinkedEntries) (key : Value) : Option Linked :=
  (entries.find? fun e => Value.sameScalar key e.1).map (·.2)

/-- Sets what is under a key.  A key that is there keeps its place; a new one comes last. -/
def put (entries : LinkedEntries) (key : Value) (t : Linked) : LinkedEntries :=
  match entries with
  | [] => [(key, t)]
  | (k, u) :: rest =>
      if Value.sameScalar key k then (k, t) :: rest else (k, u) :: put rest key t

/-- The entries of a list of pairs added one after another. -/
def ofList (pairs : List (Value × Linked)) : LinkedEntries :=
  pairs.foldl (fun entries e => put entries e.1 e.2) []

@[simp] theorem get?_nil (key : Value) : get? [] key = none := rfl

theorem get?_cons (k key : Value) (t : Linked) (rest : LinkedEntries) :
    get? ((k, t) :: rest) key = if Value.sameScalar key k then some t else get? rest key := by
  by_cases h : Value.sameScalar key k <;> simp [get?, h]

@[simp] theorem put_nil (key : Value) (t : Linked) : put [] key t = [(key, t)] := rfl

theorem put_cons (k key : Value) (t u : Linked) (rest : LinkedEntries) :
    put ((k, u) :: rest) key t =
      if Value.sameScalar key k then (k, t) :: rest else (k, u) :: put rest key t := rfl

theorem get?_toEntries (entries : LinkedEntries) (key : Value) :
    Entries.get? (toEntries entries) key = (entries.get? key).map Linked.toValue := by
  induction entries with
  | nil => rfl
  | cons e rest ih =>
      obtain ⟨k, t⟩ := e
      rw [toEntries, Entries.get?_cons, get?_cons, ih]
      split <;> rfl

end LinkedEntries

end Settings
