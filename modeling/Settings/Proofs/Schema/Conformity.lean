import Settings.Proofs.Accessor.Descent
import Settings.Proofs.Schema.Resolution

/-!
# Accepted configurations conform to their schema

Below the root and below every declared object that resolved to an object, the resolved entries are
those of the declared fields, in declared order.  Null stands only where nothing had to be given,
and whatever else there is can be read with the accessor of its kind.
-/

namespace Settings

namespace Field

/-- The fields that are declared for the object at a path. -/
inductive Level : List Field → List String → List Field → Prop where
  | root {fields : List Field} : Level fields [] fields
  | inside {fields children level : List Field} {info : FieldInfo} {rules : List Rule}
      {path : List String} (hf : .object info children rules ∈ fields)
      (h : Level children path level) : Level fields (info.name :: path) level

/-- The entries that the object at a path is resolved from, be they given or those of a
stand-in. -/
def inputAt (fields : List Field) (input : Entries) : List String → Option Entries
  | [] => some input
  | name :: path =>
      match fields.find? (·.name == name) with
      | none => none
      | some f =>
          match f.source? input with
          | some (.map inner) => inputAt f.children inner path
          | _ => none

/-- Whether the accessor of a field's kind reads a value at a path. -/
def ReadsAs (a : Accessor) (path : List Value) : Field → Value → Prop
  | .scalar _ .string, v => ∃ s, a.string path = .ok s ∧ v = .str s
  | .scalar _ .int, v => ∃ n, a.int path = .ok n ∧ v = .int n
  | .scalar _ .float, v => ∃ x, a.float path = .ok x ∧ v = .float x
  | .scalar _ .bool, v => ∃ b, a.bool path = .ok b ∧ v = .bool b
  | .scalar _ .duration, v => ∃ d, a.duration path = .ok d ∧ v = .duration d
  | .object .., v => ∃ es, a.enter path = .ok ⟨a.path ++ path, es⟩ ∧ v = .map es

/-- What holds of the values at a path for which some fields are declared. -/
structure Conforms (data : Value) (a : Accessor) (path : List String) (fields : List Field)
    (input values : Entries) : Prop where
  keys : values.map Prod.fst = fields.map fun f => .str f.name
  input_declared : ∀ e ∈ input, IsDeclared fields e.1
  given_declared : ∀ given, data.at? (textPath path) = some (.map given) →
    ∀ e ∈ given, IsDeclared fields e.1
  readable : ∀ f ∈ fields, ∃ v, values.get? (.str f.name) = some v ∧
    a.lookup (textPath (path ++ [f.name])) = .ok v ∧
    (v = .null → f.info.isOptional = true ∧ f.info.defaultValue = none) ∧
    (v ≠ .null → f.ReadsAs a (textPath (path ++ [f.name])) v)

/-! ## Reading what a field holds -/

theorem Holds.readsAs {a : Accessor} {path : List Value} {f : Field} {v : Value} (h : f.Holds v)
    (hv : a.toValue.at? path = some v) : f.ReadsAs a path v := by
  cases f with
  | object info children rules =>
      obtain ⟨es, rfl⟩ := h
      exact ⟨es, Accessor.enter_eq_ok_iff.2 ⟨es, hv, rfl⟩, rfl⟩
  | scalar info kind =>
      cases kind with
      | string =>
          obtain ⟨s, rfl⟩ := h
          exact ⟨s, Accessor.string_eq_ok_iff.2 hv, rfl⟩
      | int =>
          obtain ⟨n, rfl⟩ := h
          exact ⟨n, Accessor.int_eq_ok_iff.2 hv, rfl⟩
      | float =>
          obtain ⟨x, rfl⟩ := h
          exact ⟨x, Accessor.float_of_at? hv, rfl⟩
      | bool =>
          obtain ⟨b, rfl⟩ := h
          exact ⟨b, Accessor.bool_eq_ok_iff.2 hv, rfl⟩
      | duration =>
          obtain ⟨d, rfl⟩ := h
          exact ⟨d, Accessor.duration_eq_ok_iff.2 ⟨_, hv, rfl⟩, rfl⟩

/-! ## Descending through the levels -/

theorem find?_name {fields : List Field} (hnames : (fields.map Field.name).Nodup) {f : Field}
    (hf : f ∈ fields) : fields.find? (·.name == f.name) = some f := by
  induction fields with
  | nil => cases hf
  | cons g fields ih =>
      rcases List.mem_cons.1 hf with rfl | hf
      · simp
      · have hne := (name_ne_of_nodup hnames hf).symm
        rw [List.find?_cons_of_neg (by simpa using hne)]
        exact ih hnames.of_cons hf

theorem inputAt_cons {fields : List Field} (hnames : (fields.map Field.name).Nodup) {f : Field}
    (hf : f ∈ fields) {input inner : Entries} (hsource : f.source? input = some (.map inner))
    (path : List String) :
    inputAt fields input (f.name :: path) = inputAt f.children inner path := by
  simp [inputAt, find?_name hnames hf, hsource]

/-- A map that is given at a path is what the object at the path is resolved from. -/
theorem inputAt_eq_of_at? {fields : List Field} {input inner given : Entries}
    {path : List String} (hinner : inputAt fields input path = some inner)
    (hgiven : (Value.map input).at? (textPath path) = some (.map given)) : given = inner := by
  induction path generalizing fields input with
  | nil =>
      simp only [inputAt, Option.some.injEq] at hinner
      simp only [textPath_nil, Value.at?_nil, Option.some.injEq, Value.map.injEq] at hgiven
      exact hgiven.symm.trans hinner
  | cons name path ih =>
      rw [textPath_cons, Value.at?_map_cons] at hgiven
      obtain ⟨v, hv, hat⟩ := Option.bind_eq_some_iff.1 hgiven
      rw [inputAt] at hinner
      split at hinner
      · cases hinner
      · next f hfind =>
          obtain rfl : f.name = name := by simpa using List.find?_some hfind
          have hsource : f.source? input = some v := by rw [source?, hv]
          rw [hsource] at hinner
          split at hinner
          · next inner' heq =>
              cases heq
              exact ih hinner hat
          · cases hinner

/-- At every level that resolved to an object, the fields of that level resolved its entries. -/
theorem Level.resolves {fields level : List Field} {path : List String}
    (hlevel : Level fields path level) {model : String} {input es values : Entries}
    (hnames : (fields.map Field.name).Nodup) (hfields : ∀ f ∈ fields, f.WellFormed)
    (h : Resolves model fields input es)
    (hvalues : (Value.map es).at? (textPath path) = some (.map values)) :
    (level.map Field.name).Nodup ∧ ∃ model' input', inputAt fields input path = some input' ∧
      Resolves model' level input' values := by
  induction hlevel generalizing model input es with
  | root =>
      simp only [textPath_nil, Value.at?_nil, Option.some.injEq, Value.map.injEq] at hvalues
      subst hvalues
      exact ⟨hnames, model, input, rfl, h⟩
  | @inside fields children level info rules path hf hlevel ih =>
      obtain ⟨v, w, hsource, haccept, hget⟩ := h.get? hnames hf
      rw [textPath_cons, Value.at?_map_cons, ← name_object info children rules, hget,
        Option.bind_some] at hvalues
      rcases accept_object_eq_ok_iff.1 haccept with ⟨-, -, rfl⟩ | ⟨inner, es', rfl, hes', rfl⟩
      · cases path <;> simp [Value.at?] at hvalues
      · cases hfields _ hf with
        | object _ hnames' hchildren =>
            obtain ⟨hlevelNames, model', input', hinput, hresolves⟩ :=
              ih hnames' hchildren hes' hvalues
            refine ⟨hlevelNames, model', input', ?_, hresolves⟩
            rw [← hinput]
            exact inputAt_cons hnames hf hsource path

end Field

open Settings.Field in
/-- A configuration that is accepted conforms to its schema: at the root and at every declared
object that resolved to an object, the keys are the declared names in declared order, every key
of what it was resolved from was declared, and each field is null, which takes an optional field
without a default, or is read back by the accessor of its kind. -/
theorem Schema.parse_conforms {s : Schema} {data : Value} {lint : Bool} {a : Accessor}
    (hs : s.Built) (h : s.parse data lint = .ok a) :
    a.path = [] ∧ ∃ root, inputOf data = some root ∧
      ∀ path fields values, Level s.fields path fields →
        a.lookup (textPath path) = .ok (.map values) →
        ∃ input, inputAt s.fields root path = some input ∧
          Conforms data a path fields input values := by
  obtain ⟨es, hes, -, rfl⟩ := parse_eq_ok_iff.1 h
  obtain ⟨root, hroot, hresolves⟩ := resolve_eq_ok_iff.1 hes
  refine ⟨rfl, root, hroot, fun path fields values hlevel hvalues ↦ ?_⟩
  rw [Accessor.lookup_eq_ok_iff] at hvalues
  obtain ⟨hnames, model, input, hinput, hlevelResolves⟩ :=
    hlevel.resolves hs.names_nodup hs.wellFormed hresolves hvalues
  refine ⟨input, hinput, hlevelResolves.keys, hlevelResolves.2, fun given hgiven ↦ ?_,
    fun f hf ↦ ?_⟩
  · cases data with
    | map root' =>
        cases hroot
        rw [inputAt_eq_of_at? hinput hgiven]
        exact hlevelResolves.2
    | _ => cases path <;> simp [Value.at?] at hgiven
  · obtain ⟨v, w, -, haccept, hget⟩ := hlevelResolves.get? hnames hf
    have hat : (Value.map es).at? (textPath (path ++ [f.name])) = some w := by
      rw [textPath_append]
      exact Value.at?_concat_eq_some_iff.2 ⟨values, hvalues, hget⟩
    refine ⟨w, hget, Accessor.lookup_eq_ok_iff.2 hat, ?_, fun hne ↦ ?_⟩
    · rintro rfl
      exact isNullable_eq_true_iff.1 (isNullable_of_accept_null haccept)
    · rcases holds_of_accept haccept with ⟨rfl, -⟩ | hholds
      · exact absurd rfl hne
      · exact hholds.readsAs hat

/-- A text that has to be given and an object that need not be. -/
def Schema.hostAndLimits : Schema :=
  ⟨[.scalar { name := "host" } .string,
    .object { name := "limits" } [.scalar { name := "burst", isOptional := true } .int] []]⟩

theorem Schema.built_hostAndLimits : hostAndLimits.Built := by
  have hhost : Field.Built (.scalar { name := "host" } .string) := .newScalar (by decide) .string
  have hburst : Field.Built (.scalar { name := "burst", isOptional := true } .int) :=
    .step (s := .optional) (.newScalar (by decide) .int) rfl
  have hlimits : Field.Built (.object { name := "limits" }
      [.scalar { name := "burst", isOptional := true } .int] []) :=
    .newObject (by decide) (by decide) (by simpa using hburst)
  exact built_of_fields (by decide) (by simp [hostAndLimits, hhost, hlimits])

open Settings.Field in
theorem Schema.hostAndLimits_conforms :
    hostAndLimits.Built ∧
      hostAndLimits.parse (.map [(.str "host", .str "h")]) true =
        .ok ⟨[], [(.str "host", .str "h"), (.str "limits", .map [(.str "burst", .null)])]⟩ ∧
      ∃ input, Conforms (.map [(.str "host", .str "h")])
        ⟨[], [(.str "host", .str "h"), (.str "limits", .map [(.str "burst", .null)])]⟩ ["limits"]
        [.scalar { name := "burst", isOptional := true } .int] input [(.str "burst", .null)] := by
  have hparse : hostAndLimits.parse (.map [(.str "host", .str "h")]) true =
      .ok ⟨[], [(.str "host", .str "h"), (.str "limits", .map [(.str "burst", .null)])]⟩ := rfl
  obtain ⟨-, root, -, h⟩ := parse_conforms built_hostAndLimits hparse
  have hlimits : (.object { name := "limits" }
      [.scalar { name := "burst", isOptional := true } .int] []) ∈ hostAndLimits.fields := by
    simp [hostAndLimits]
  obtain ⟨input, -, hinput⟩ := h _ _ _ (.inside hlimits .root) rfl
  exact ⟨built_hostAndLimits, hparse, input, hinput⟩

end Settings
