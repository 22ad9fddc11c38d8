import Settings.Field
import Settings.Log.Record

/-!
# Declaring object fields with a record

Declaring an object field is logged as soon as its children have been accepted.
-/

namespace Settings.Field

def declaredRecord (name : Value) (children : List Field) : Log.Record :=
  .debug "fields"
    (s!"Declared object field {name.display} with children "
      ++ Log.namesShown (children.map Field.name))

def declareObject (name : Value) (children : List Candidate) : Journal DeclarationError Field :=
  match checkSiblings (.object name) [] children with
  | .error e => ⟨[], .error e⟩
  | .ok fields => ⟨[declaredRecord name fields], newObject name children⟩

@[simp] theorem result_declareObject (name : Value) (children : List Candidate) :
    (declareObject name children).result = newObject name children := by
  cases h : checkSiblings (.object name) [] children <;> simp [declareObject, newObject, h, bind,
    Except.bind]

end Settings.Field
