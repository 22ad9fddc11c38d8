import Settings.Overlay.Section
import Settings.Proofs.Accessor.Descent
import Settings.Proofs.Schema.Nesting

/-!
# Sections that are parsed apart from the rest

A field can lie below several object fields that hold nothing else.  Descending along their names
first and parsing what is found there by itself then comes to the same as parsing everything at
once, up to the names in front.
-/

namespace Settings

/-! ## Configurations with nothing else in them -/

/-- Where a chain of maps along a path ends: with a value at the end of the path, with an empty map
before, or with something on the way that is no map. -/
inductive ChainEnd where
  | value (v : Value)
  | absent
  | blocked

/-- Whether a value has only maps on the way along a path that hold at most the next name. -/
inductive IsChain : List String → ChainEnd → Value → Prop where
  | value (v : Value) : IsChain [] (.value v) v
  | absent (name : String) (path : List String) : IsChain (name :: path) .absent (.map [])
  | blocked {v : Value} (name : String) (path : List String) (hv : ∀ es, v ≠ .map es) :
      IsChain (name :: path) .blocked v
  | level {path : List String} {stop : ChainEnd} {v : Value} (name : String)
      (h : IsChain path stop v) : IsChain (name :: path) stop (.map [(.str name, v)])

def chainEnd? : List String → Value → Option ChainEnd
  | [], v => some (.value v)
  | _ :: _, .map [] => some .absent
  | name :: path, .map [(.str key, v)] => if key = name then chainEnd? path v else none
  | _ :: _, .map _ => none
  | _ :: _, _ => some .blocked

theorem chainEnd?_eq_some_iff {path : List String} {v : Value} {stop : ChainEnd} :
    chainEnd? path v = some stop ↔ IsChain path stop v := by
  constructor
  · intro h
    fun_induction chainEnd? path v with
    | case1 v =>
        cases h
        exact .value v
    | case2 name path =>
        cases h
        exact .absent name path
    | case3 path name v ih => exact .level name (ih h)
    | case4 => cases h
    | case5 => cases h
    | case6 name path v _ _ hv =>
        cases h
        exact .blocked name path hv
  · intro h
    induction h with
    | value v => rw [chainEnd?]
    | absent name path => rw [chainEnd?]
    | @blocked v name path hv =>
        cases v with
        | map es => exact absurd rfl (hv es)
        | _ => rw [chainEnd?] <;> simp
    | level name h ih => rw [chainEnd?, if_pos rfl, ih]

/-- The section that a chain leads to, where a missing one counts as empty. -/
def ChainEnd.section? : ChainEnd → Option Entries
  | .value (.map part) => some part
  | .absent => some []
  | _ => none

theorem ChainEnd.section?_value_eq_some_iff {v : Value} {part : Entries} :
    (ChainEnd.value v).section? = some part ↔ v = .map part := by
  cases v <;> simp [section?]

theorem ChainEnd.exists_section_iff {stop : ChainEnd} : (∃ part, stop.section? = some part) ↔
    (stop = .absent ∨ ∃ part, stop = .value (.map part)) := by
  cases stop with
  | value v => simp [section?_value_eq_some_iff]
  | absent => simp [section?]
  | blocked => simp [section?]

theorem IsChain.exists_map {path : List String} {stop : ChainEnd} {v : Value} {part : Entries}
    (h : IsChain path stop v) (hpart : stop.section? = some part) : ∃ input, v = .map input := by
  cases h with
  | value v => exact ⟨part, ChainEnd.section?_value_eq_some_iff.1 hpart⟩
  | absent name path => exact ⟨[], rfl⟩
  | blocked name path hv => cases hpart
  | level name h => exact ⟨_, rfl⟩

theorem sectionFrom_nil (done path : List Value) : sectionFrom done (.map []) path = .ok [] := by
  induction path generalizing done with
  | nil => rfl
  | cons key path ih => exact ih (done ++ [key])

theorem IsChain.sectionFrom_eq_ok_iff {path : List String} {stop : ChainEnd} {v : Value}
    (h : IsChain path stop v) (hstop : stop ≠ .value .null) (done : List Value)
    {part : Entries} :
    sectionFrom done v (textPath path) = .ok part ↔ stop.section? = some part := by
  induction h generalizing done with
  | value v =>
      rw [ChainEnd.section?_value_eq_some_iff]
      cases v <;> simp_all [sectionFrom]
  | absent name path =>
      rw [sectionFrom_nil]
      simp [ChainEnd.section?]
  | @blocked v name path hv =>
      have herror : sectionFrom done v (textPath (name :: path)) = .error ⟨done⟩ := by
        cases v with
        | map es => exact absurd rfl (hv es)
        | _ => rfl
      rw [herror]
      simp [ChainEnd.section?]
  | @level path stop v name h ih =>
      have hnext : sectionFrom done (.map [(.str name, v)]) (textPath (name :: path)) =
          sectionFrom (done ++ [.str name]) v (textPath path) := by
        simp [sectionFrom]
      rw [hnext]
      exact ih hstop _

/-! ## Fields below one another -/

/-- A field below object fields of some names, each of which is the only one in the one before. -/
def Field.nest (parents : List String) (f : Field) : Field :=
  parents.foldr (fun name g => .object { name := name } [g] []) f

def nestEntries (parents : List String) (entries : Entries) : Entries :=
  parents.foldr (fun name inner => [(.str name, .map inner)]) entries

def Issue.below (parents : List String) (i : Issue) : Issue :=
  { i with path := parents ++ i.path }

def ParseError.below (parents : List String) : ParseError → ParseError
  | .issues is => .issues (is.map (Issue.below parents))
  | .duration cause => .duration cause

theorem ParseError.below_ofIssues (parents : List String) (is : List Issue) :
    (ofIssues is).below parents = ofIssues (is.map (Issue.below parents)) := by
  have hsame : Issue.overflow? ∘ Issue.below parents = Issue.overflow? := rfl
  rw [ofIssues, ofIssues, List.findSome?_map, hsame]
  cases is.findSome? Issue.overflow? <;> rfl

@[simp] theorem Field.nest_nil (f : Field) : nest [] f = f := rfl

@[simp] theorem Field.nest_cons (name : String) (parents : List String) (f : Field) :
    nest (name :: parents) f = .object { name := name } [nest parents f] [] := rfl

@[simp] theorem nestEntries_nil (entries : Entries) : nestEntries [] entries = entries := rfl

@[simp] theorem nestEntries_cons (name : String) (parents : List String) (entries : Entries) :
    nestEntries (name :: parents) entries = [(.str name, .map (nestEntries parents entries))] := rfl

theorem Issue.map_below_nil (is : List Issue) : is.map (below []) = is :=
  List.map_id is

theorem Issue.map_below_cons (name : String) (parents : List String) (is : List Issue) :
    is.map (below (name :: parents)) = (is.map (below parents)).map (under name) := by
  rw [List.map_map]
  rfl

theorem at?_nestEntries (parents : List String) (entries : Entries) (path : List Value) :
    (Value.map (nestEntries parents entries)).at? (textPath parents ++ path) =
      (Value.map entries).at? path := by
  induction parents with
  | nil => rfl
  | cons name parents ih =>
      rw [textPath_cons, List.cons_append, nestEntries_cons, Value.at?_map_cons]
      simpa using ih

namespace Field

/-- Whether a field makes the same of a section wherever it lies: it refuses whatever is no map, it
accepts an empty section, which stands in for a missing one, and what it says of the entries does
not depend on the model that it belongs to. -/
structure Detachable (f : Field) : Prop where
  isObject : f.isObject = true
  standIn : f.standIn? = some (.map [])
  accepted : ∃ w, f.accept rootModel (.map []) = .ok w
  owner (owner : String) (part : Entries) :
    f.accept owner (.map part) = f.accept rootModel (.map part)

variable {f : Field}

theorem exists_map_of_accept (hf : f.isObject = true) {owner : String} {v w : Value}
    (h : f.accept owner v = .ok w) (hv : v ≠ .null) : ∃ input, v = .map input := by
  cases f with
  | scalar info kind => cases hf
  | object info children rules =>
      rcases accept_object_eq_ok_iff.1 h with ⟨-, hnull, -⟩ | ⟨input, es, hmap, -, -⟩
      · exact absurd hnull hv
      · exact ⟨input, hmap⟩

theorem standIn?_nest (hf : f.standIn? = some (.map [])) (parents : List String) :
    (nest parents f).standIn? = some (.map []) := by
  induction parents with
  | nil => exact hf
  | cons name parents ih =>
      have hinner : (nest parents f).resolvesWithoutInput = true := by
        rw [← standIn?_isSome, ih]
        rfl
      simp [standIn?, info, isObject, resolvesWithoutInput, allResolveWithoutInput, hinner]

end Field

/-! ## Resolving -/

theorem resolveLevel_nil {f : Field} {v : Value} (h : f.standIn? = some v) (model : String) :
    resolveLevel model [f] [] =
      (Checked.under (standInSegment 0) (f.accept model v)).map fun w => [(.str f.name, w)] := by
  have hsource : f.acceptSource model [] 0 =
      Checked.under (standInSegment 0) (f.accept model v) := by
    rw [Field.acceptSource, Field.source?]
    simp [h, Field.sourceSegment]
  rw [resolveLevel, Field.acceptAll_cons, hsource]
  cases Checked.under (standInSegment 0) (f.accept model v) <;> rfl

namespace Field.Detachable

variable {f : Field} {w : Value}

theorem resolveLevel_nest_nil (hf : f.Detachable) (hw : f.accept rootModel (.map []) = .ok w)
    (parents : List String) (model : String) :
    resolveLevel model [nest parents f] [] = .ok (nestEntries parents [(.str f.name, w)]) := by
  induction parents generalizing model with
  | nil =>
      rw [nest_nil, resolveLevel_nil hf.standIn, hf.owner, hw]
      rfl
  | cons name parents ih =>
      rw [resolveLevel_nil (standIn?_nest hf.standIn (name :: parents)), nest_cons,
        accept_object_eq_resolveLevel, ih]
      rfl

/-- What the nested field makes of a configuration is what the field makes of the section that the
configuration leads to. -/
theorem agrees_resolveLevel (hf : f.Detachable) {parents : List String} {stop : ChainEnd}
    {input part : Entries} (h : IsChain (parents ++ [f.name]) stop (.map input))
    (hpart : stop.section? = some part) (model : String) :
    Agrees (fun is is' ↦ is = is'.map (Issue.below parents))
      (fun es es' ↦ es = nestEntries parents es') (resolveLevel model [nest parents f] input)
      (resolveLevel rootModel [f] [(.str f.name, .map part)]) := by
  obtain ⟨w, hw⟩ := hf.accepted
  -- what is missing is resolved from stand-ins, from the level down at which it is missing
  have hempty (parents : List String) (model : String) :
      Agrees (fun is is' ↦ is = is'.map (Issue.below parents))
        (fun es es' ↦ es = nestEntries parents es') (resolveLevel model [nest parents f] [])
        (resolveLevel rootModel [f] [(.str f.name, .map [])]) := by
    rw [hf.resolveLevel_nest_nil hw, resolveLevel_singleton, hw]
    exact .ok rfl
  induction parents generalizing model input with
  | nil =>
      cases h with
      | absent =>
          cases hpart
          exact hempty [] model
      | blocked _ _ hv => cases hpart
      | level _ hlevel =>
          cases hlevel
          obtain rfl := ChainEnd.section?_value_eq_some_iff.1 hpart
          rw [nest_nil, resolveLevel_singleton, resolveLevel_singleton, hf.owner]
          cases f.accept rootModel (.map part) with
          | ok w => exact .ok rfl
          | error is => exact .error (Issue.map_below_nil _).symm
  | cons name parents ih =>
      cases h with
      | absent =>
          cases hpart
          exact hempty (name :: parents) model
      | blocked _ _ hv => cases hpart
      | level _ hlevel =>
          -- one level further down the model is called differently, so it is kept general
          obtain ⟨inner, rfl⟩ := hlevel.exists_map hpart
          have hinner := ih hlevel (model ++ camelName name)
          have houter := resolveLevel_singleton model (nest (name :: parents) f) (.map inner)
          rw [nest_cons, name_object, accept_object_eq_resolveLevel] at houter
          rw [nest_cons, houter]
          generalize resolveLevel _ [nest parents f] inner = x at hinner ⊢
          generalize resolveLevel rootModel [f] _ = y at hinner ⊢
          cases hinner with
          | ok hes =>
              subst hes
              exact .ok rfl
          | error his =>
              subst his
              exact .error (Issue.map_below_cons name parents _).symm

/-- The nested field accepts a configuration only if that leads to a section. -/
theorem exists_section (hf : f.Detachable) {parents : List String} {stop : ChainEnd}
    {input es : Entries} (h : IsChain (parents ++ [f.name]) stop (.map input))
    (hstop : stop ≠ .value .null) {model : String}
    (hes : resolveLevel model [nest parents f] input = .ok es) :
    ∃ part, stop.section? = some part := by
  induction parents generalizing model input es with
  | nil =>
      cases h with
      | absent => exact ⟨[], rfl⟩
      | blocked _ _ hv => exact absurd rfl (hv input)
      | @level _ _ v _ hlevel =>
          cases hlevel
          rw [nest_nil, resolveLevel_singleton, map_eq_ok_iff] at hes
          obtain ⟨w, hw, -⟩ := hes
          have hne : v ≠ .null := by
            rintro rfl
            exact hstop rfl
          obtain ⟨part, rfl⟩ := exists_map_of_accept hf.isObject (under_eq_ok_iff.1 hw) hne
          exact ⟨part, rfl⟩
  | cons name parents ih =>
      cases h with
      | absent => exact ⟨[], rfl⟩
      | blocked _ _ hv => exact absurd rfl (hv input)
      | @level _ _ v _ hlevel =>
          have houter := resolveLevel_singleton model (nest (name :: parents) f) v
          rw [nest_cons, name_object] at houter
          rw [nest_cons, houter, map_eq_ok_iff] at hes
          obtain ⟨w, hw, -⟩ := hes
          have haccept := under_eq_ok_iff.1 hw
          rcases accept_object_eq_ok_iff.1 haccept with ⟨hnull, -⟩ | ⟨inner, _, rfl, -, -⟩
          · cases hnull
          · rw [accept_object_eq_resolveLevel, map_eq_ok_iff] at haccept
            obtain ⟨inner', hinner, -⟩ := haccept
            exact ih hlevel hinner

end Field.Detachable

/-! ## Parsing -/

theorem lintAll_nest (parents : List String) (f : Field) (values : Entries) :
    Field.lintAll [] (nestEntries parents values) [Field.nest parents f] =
      (Field.lintAll [] values [f]).map (List.map (Issue.below parents)) := by
  induction parents with
  | nil =>
      rw [nestEntries_nil, Field.nest_nil]
      cases Field.lintAll [] values [f] with
      | error cause => rfl
      | ok found => exact congrArg Except.ok (Issue.map_below_nil found).symm
  | cons name parents ih =>
      rw [nestEntries_cons, Field.nest_cons, lintAll_singleton, ih]
      cases Field.lintAll [] values [f] with
      | error cause => rfl
      | ok found => exact congrArg Except.ok (Issue.map_below_cons name parents found).symm

namespace Schema

variable {f : Field} {parents : List String} {stop : ChainEnd} {input part : Entries}

theorem agrees_findings_nest (parents : List String) (f : Field) (values : Entries) :
    Agrees (fun e e' ↦ e = ParseError.below parents e')
      (fun found found' ↦ found = found'.map (Issue.below parents))
      (findings ⟨[f.nest parents]⟩ (nestEntries parents values)) (findings ⟨[f]⟩ values) := by
  rw [findings, findings, lintAll_nest]
  cases Field.lintAll [] values [f] with
  | error cause => exact .error rfl
  | ok found => exact .ok rfl

/-- A configuration that leads to a section is parsed with the nested field as the section is with
the field alone: to the same values, below the names, or to the same issues, in the same order, with
the names in front of their paths. -/
theorem agrees_parse_nest (hf : f.Detachable)
    (h : IsChain (parents ++ [f.name]) stop (.map input)) (hpart : stop.section? = some part)
    (lint : Bool) :
    Agrees (fun e e' ↦ e = ParseError.below parents e')
      (fun a b ↦ a = .ofEntries (nestEntries parents b.entries))
      (parse ⟨[f.nest parents]⟩ (.map input) lint)
      (parse ⟨[f]⟩ (.map [(.str f.name, .map part)]) lint) := by
  have hresolve : Agrees (fun e e' ↦ e = ParseError.below parents e')
      (fun es es' ↦ es = nestEntries parents es') (resolve ⟨[f.nest parents]⟩ (.map input))
      (resolve ⟨[f]⟩ (.map [(.str f.name, .map part)])) := by
    refine (hf.agrees_resolveLevel h hpart rootModel).mapError fun is is' his ↦ ?_
    rw [his, ParseError.below_ofIssues]
  unfold parse
  refine hresolve.bind fun es es' hes ↦ ?_
  subst hes
  cases lint with
  | false => exact .ok rfl
  | true =>
      refine (agrees_findings_nest parents f es').bind fun found found' hfound ↦ ?_
      subst hfound
      cases found' with
      | nil => exact .ok rfl
      | cons i is => exact .error rfl

theorem exists_section_of_parse (hf : f.Detachable)
    (h : IsChain (parents ++ [f.name]) stop (.map input)) (hstop : stop ≠ .value .null)
    {lint : Bool} {a : Accessor} (ha : parse ⟨[f.nest parents]⟩ (.map input) lint = .ok a) :
    ∃ part, stop.section? = some part := by
  obtain ⟨es, hes, -, -⟩ := parse_eq_ok_iff.1 ha
  exact hf.exists_section h hstop (mapError_eq_ok_iff.1 hes)

end Schema

end Settings
