import Settings.Scalar.Convert

/-!
# Resolving values against fields

Resolving a map against a list of fields gives a map that has every declared field, in declared
order and converted to its kind.  A field that is not given takes its stand-in, which is resolved
like a given value.  All issues are collected: those of the declared fields in declared order, an
object's before those of its next sibling, and then those of the keys that no field has.
-/

namespace Settings

/-- A result, or all issues that stand against it. -/
abbrev Checked (α : Type) := Except (List Issue) α

namespace Checked

/-- Combines two results; the issues of both are kept. -/
def both (f : α → β → γ) : Checked α → Checked β → Checked γ
  | .ok a, .ok b => .ok (f a b)
  | .ok _, .error e => .error e
  | .error e, .ok _ => .error e
  | .error e, .error e' => .error (e ++ e')

def under (segment : String) (x : Checked α) : Checked α :=
  x.mapError (·.map (Issue.under segment))

/-- A result that stands unless there are issues. -/
def ofIssues (a : α) : List Issue → Checked α
  | [] => .ok a
  | i :: is => .error (i :: is)

/-- The issues, none for a result. -/
def issues : Checked α → List Issue
  | .ok _ => []
  | .error e => e

@[simp] theorem both_ok_ok (f : α → β → γ) (a : α) (b : β) :
    both f (.ok a) (.ok b) = .ok (f a b) := rfl

theorem both_eq_ok_iff {f : α → β → γ} {x : Checked α} {y : Checked β} {c : γ} :
    both f x y = .ok c ↔ ∃ a b, x = .ok a ∧ y = .ok b ∧ f a b = c := by
  cases x <;> cases y <;> simp [both]

@[simp] theorem issues_both (f : α → β → γ) (x : Checked α) (y : Checked β) :
    (both f x y).issues = x.issues ++ y.issues := by
  cases x <;> cases y <;> simp [both, issues]

@[simp] theorem issues_under (segment : String) (x : Checked α) :
    (under segment x).issues = x.issues.map (Issue.under segment) := by
  cases x <;> rfl

@[simp] theorem under_ok (segment : String) (a : α) :
    under segment (.ok a : Checked α) = .ok a := rfl

@[simp] theorem issues_ofIssues (a : α) (is : List Issue) : (ofIssues a is).issues = is := by
  cases is <;> rfl

end Checked

def Problem.issue (p : Problem) : Issue := ⟨[], .problem p⟩

/-- The parts of a name between runs of characters that are no ASCII letters or digits. -/
def nameParts (cs : List Char) : List (List Char) :=
  (cs.splitBy fun c d => c.isAlphanum == d.isAlphanum).filter fun part => part.all Char.isAlphanum

/-- A name with its parts joined, each starting with a capital letter. -/
def camelName (name : String) : String :=
  let capitalised (part : List Char) := match part with
    | [] => []
    | c :: cs => c.toUpper :: cs
  let text := (nameParts name.toList).flatMap capitalised
  if text.isEmpty then "Field" else String.ofList text

def keySegment : Value → String
  | .str s => s
  | .bool b => if b then "1" else "0"
  | v => v.shown

/-- The issue that a key raises which is not the name of a field. -/
def strayKey? (names : List String) : Value → Option Issue
  | .str s => if names.contains s then none else some ⟨[s], .problem .unknownKey⟩
  | key => some ⟨[keySegment key], .problem .keyNotText⟩

/-- The issues of all keys that are not the name of a field, in the order of the keys. -/
def strayKeys (names : List String) (entries : Entries) : List Issue :=
  entries.filterMap fun e => strayKey? names e.1

/-- The path segment of the `i`-th field when its value is its stand-in. -/
def standInSegment (i : Nat) : String := s!"field_{i}"

namespace Field

mutual

/-- Resolves a value for a field; `owner` names the model that the field belongs to. -/
def accept (owner : String) (v : Value) : Field → Checked Value
  | scalar info kind =>
      match isNullable (scalar info kind), v with
      | true, .null => .ok .null
      | _, v => (kind.convert v).mapError fun p => [p.issue]
  | object info children rules =>
      match isNullable (object info children rules), v with
      | true, .null => .ok .null
      | _, .map entries =>
          Checked.both (fun resolved _ => .map resolved)
            (acceptAll (owner ++ camelName info.name) entries 0 children)
            (Checked.ofIssues () (strayKeys (children.map Field.name) entries))
      | _, _ => .error [(Problem.notObject (owner ++ camelName info.name)).issue]

/-- Resolves the entries of a map for fields, the first of which is the `i`-th of its siblings. -/
def acceptAll (model : String) (entries : Entries) (i : Nat) : List Field → Checked Entries
  | [] => .ok []
  | f :: rest =>
      Checked.both (fun v resolved => (.str f.name, v) :: resolved)
        (match Entries.get? entries (.str f.name) with
          | some v => Checked.under f.name (accept model v f)
          | none =>
              match f.standIn? with
              | some v => Checked.under (standInSegment i) (accept model v f)
              | none => .error [⟨[f.name], .problem .missing⟩])
        (acceptAll model entries (i + 1) rest)

end

end Field

def rootModel : String := "Config"

def resolveEntries (fields : List Field) (entries : Entries) : Checked Entries :=
  Checked.both (fun resolved _ => resolved)
    (Field.acceptAll rootModel entries 0 fields)
    (Checked.ofIssues () (strayKeys (fields.map Field.name) entries))

/-- Resolves a whole configuration; null counts as one without entries. -/
def resolve (fields : List Field) : Value → Checked Entries
  | .null => resolveEntries fields []
  | .map entries => resolveEntries fields entries
  | v => .error [(Problem.rootNotObject v.typeName).issue]

end Settings
