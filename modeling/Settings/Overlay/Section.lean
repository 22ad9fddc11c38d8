import Settings.Issue

/-!
# Sections

A section is the map at a path of a configuration.  What is missing counts as an empty map, and so
does null at the end of the path; anything else on the way has to be a map.
-/

namespace Settings

/-- A value on the way to a section that is no map. -/
structure SectionError where
  path : List Value

def SectionError.message (e : SectionError) : String :=
  s!"'{dottedPath e.path}' is not an object"

/-- Descends from `v`, which lies at `done`. -/
def sectionFrom (done : List Value) (v : Value) : List Value → Except SectionError Entries
  | [] =>
      match v with
      | .null => .ok []
      | .map entries => .ok entries
      | _ => .error ⟨done⟩
  | key :: rest =>
      match v with
      | .map entries => sectionFrom (done ++ [key]) ((Entries.get? entries key).getD (.map [])) rest
      | _ => .error ⟨done⟩

def sectionAt (data : Value) (path : List Value) : Except SectionError Entries :=
  sectionFrom [] data path

end Settings
