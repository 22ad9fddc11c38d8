import Settings.Schema.Resolve

/-!
# Running rules

Rules run on resolved values only.  Objects are visited in declared order, each before the objects
inside it, and an object that is null is passed over with everything below it.
-/

namespace Settings

/-- The issues that a rule finds in the values of the object at `path`. -/
def Rule.issues (rule : Rule) (path : List String) (values : Entries) :
    Except DurationError (List Issue) :=
  (rule.check values).map fun messages => messages.map fun m => ⟨path, .finding rule.name m⟩

/-- The issues that several rules find, one rule after another. -/
def rulesIssues (path : List String) (values : Entries) :
    List Rule → Except DurationError (List Issue)
  | [] => .ok []
  | rule :: rest => do
      let found ← rule.issues path values
      return found ++ (← rulesIssues path values rest)

namespace Field

mutual

/-- The findings for a field that has the resolved value `v` and lies at `path`. -/
def lint (path : List String) (v : Value) : Field → Except DurationError (List Issue)
  | scalar .. => .ok []
  | object _ children rules =>
      match v with
      | .map values => do
          let own ← rulesIssues path values rules
          return own ++ (← lintAll path values children)
      | _ => .ok []

/-- The findings for the fields of the object at `path`. -/
def lintAll (path : List String) (values : Entries) :
    List Field → Except DurationError (List Issue)
  | [] => .ok []
  | f :: rest => do
      let found ← match Entries.get? values (.str f.name) with
        | some v => lint (path ++ [f.name]) v f
        | none => .ok []
      return found ++ (← lintAll path values rest)

end

end Field

end Settings
