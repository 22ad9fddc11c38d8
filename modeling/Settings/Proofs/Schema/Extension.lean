import Settings.Proofs.Schema.Resolution

/-!
# Schemas with one more field

A field that has a value without input can be added at the end of a schema.  Configurations that do
not mention it are accepted as before, with one more entry, and refused for the same reasons.
-/

namespace Settings

namespace Field

theorem acceptSource_of_absent {model : String} {input : Entries} {i j : Nat} {f : Field}
    {w : Value} (hf : acceptSource model [] i f = .ok w)
    (habsent : input.get? (.str f.name) = none) : acceptSource model input j f = .ok w := by
  obtain ⟨-, v, hv, hw⟩ := acceptSource_eq_ok_iff.1 hf
  refine acceptSource_eq_ok_iff.2 ⟨rfl, v, ?_, hw⟩
  rw [source?, habsent]
  exact hv

theorem acceptAll_concat {model : String} {input : Entries} {f : Field} {w : Value}
    (hf : ∀ i, acceptSource model input i f = .ok w) (fields : List Field) (i : Nat) :
    acceptAll model input i (fields ++ [f]) =
      (acceptAll model input i fields).map (· ++ [(.str f.name, w)]) := by
  induction fields generalizing i with
  | nil =>
      rw [List.nil_append, acceptAll_cons, hf]
      rfl
  | cons g fields ih =>
      rw [List.cons_append, acceptAll_cons, acceptAll_cons, ih]
      cases acceptSource model input i g <;> cases acceptAll model input (i + 1) fields <;> rfl

theorem strayKeys_concat {names : List String} {name : String} {input : Entries}
    (habsent : ∀ e ∈ input, e.1 ≠ .str name) :
    strayKeys (names ++ [name]) input = strayKeys names input := by
  refine List.filterMap_congr fun e he ↦ ?_
  cases hkey : e.1 with
  | str key =>
      have hne : key ≠ name := fun h ↦ habsent e he (hkey.trans (congrArg Value.str h))
      simp [strayKey?, hne]
  | _ => rfl

theorem get?_eq_none_of_absent {input : Entries} {name : String}
    (habsent : ∀ e ∈ input, e.1 ≠ .str name) : input.get? (.str name) = none := by
  cases hget : input.get? (.str name) with
  | none => rfl
  | some v =>
      obtain ⟨e, he, hkey, -⟩ := Entries.exists_of_get? hget
      exact absurd hkey (habsent e he)

theorem resolveEntries_concat {f : Field} {w : Value} {input : Entries} {i : Nat}
    (hf : acceptSource rootModel [] i f = .ok w) (habsent : ∀ e ∈ input, e.1 ≠ .str f.name)
    (fields : List Field) :
    resolveEntries (fields ++ [f]) input =
      (resolveEntries fields input).map (· ++ [(.str f.name, w)]) := by
  have hf' (j : Nat) : acceptSource rootModel input j f = .ok w :=
    acceptSource_of_absent hf (get?_eq_none_of_absent habsent)
  rw [resolveEntries, resolveEntries, acceptAll_concat hf', List.map_append, List.map_singleton,
    strayKeys_concat habsent]
  cases acceptAll rootModel input 0 fields <;>
    cases strayKeys (fields.map Field.name) input <;> rfl

end Field

namespace Schema

theorem withField_eq_ok_iff {s t : Schema} {f : Field} :
    s.withField (.field f) = .ok t ↔
      t.fields = s.fields ++ [f] ∧ s.names.Nodup ∧ f.name ∉ s.names := by
  have hcandidates : s.fields.map .field ++ [.field f] = (s.fields ++ [f]).map Candidate.field := by
    rw [List.map_append, List.map_singleton]
  rw [withField, hcandidates, ofCandidates_map_eq_ok_iff, List.map_append, List.map_singleton,
    List.nodup_append_comm, List.singleton_append, List.nodup_cons, and_comm (a := f.name ∉ _)]
  rfl

theorem parse_unlinted (s : Schema) (data : Value) :
    s.parse data false = (s.resolve data).map .ofEntries := by
  unfold parse
  cases s.resolve data <;> rfl

theorem parse_of_inputOf {s : Schema} {data : Value} {input : Entries}
    (h : inputOf data = some input) (lint : Bool) :
    s.parse data lint = s.parse (.map input) lint := by
  cases data with
  | null =>
      cases h
      rfl
  | map entries =>
      cases h
      rfl
  | _ => cases h

/-- Since keys of no field are refused, an accepted configuration does not mention another field. -/
theorem exists_input_of_parse {s : Schema} {data : Value} {lint : Bool} {b : Accessor}
    (h : s.parse data lint = .ok b) {name : String} (hname : name ∉ s.names) :
    ∃ input, inputOf data = some input ∧ ∀ e ∈ input, e.1 ≠ .str name := by
  obtain ⟨es, hes, -, -⟩ := parse_eq_ok_iff.1 h
  obtain ⟨input, hinput, -, hdeclared⟩ := resolve_eq_ok_iff.1 hes
  refine ⟨input, hinput, fun e he hkey ↦ ?_⟩
  obtain ⟨g, hg, hdeclaredKey⟩ := hdeclared e he
  obtain rfl : name = g.name := Value.str.inj (hkey.symm.trans hdeclaredKey)
  exact hname (List.mem_map_of_mem hg)

/-- A field that resolves to `w` on its own when it is not given can be added to a schema without
such a field.  Of a configuration without it the new schema makes what the old one does, with `w`
under the field's name at the end, or has the very same issues with it.  In particular all that the
old schema accepts is accepted. -/
theorem parse_withField {s alone : Schema} {f : Field} {a : Accessor}
    (hs : s.names.Nodup) (hname : f.name ∉ s.names) (halone : ofCandidates [.field f] = .ok alone)
    (ha : alone.parse (.map []) false = .ok a) :
    ∃ t w, s.withField (.field f) = .ok t ∧ a.entries = [(.str f.name, w)] ∧
      (∀ input : Entries, (∀ e ∈ input, e.1 ≠ .str f.name) →
        t.parse (.map input) false =
          (s.parse (.map input) false).map fun b =>
            .ofEntries (b.entries ++ [(.str f.name, w)])) ∧
      ∀ data b, s.parse data false = .ok b →
        t.parse data false = .ok (.ofEntries (b.entries ++ [(.str f.name, w)])) := by
  have hone : ofCandidates ([f].map .field) = .ok alone := halone
  have hfields : alone.fields = [f] := (ofCandidates_map_eq_ok_iff.1 hone).1
  obtain ⟨es, hes, -, rfl⟩ := parse_eq_ok_iff.1 ha
  obtain ⟨-, ⟨⟩, hresolves, -⟩ := resolve_eq_ok_iff.1 hes
  rw [hfields, List.forall₂_cons_left_iff] at hresolves
  obtain ⟨⟨key, w⟩, rest, hw, hrest, rfl⟩ := hresolves
  obtain rfl := List.forall₂_nil_left_iff.1 hrest
  obtain rfl : key = .str f.name := hw.1
  have hf : Field.acceptSource rootModel [] 0 f = .ok w := Field.acceptSource_eq_ok_iff.2 hw
  have hparse (input : Entries) (habsent : ∀ e ∈ input, e.1 ≠ .str f.name) :
      Schema.parse ⟨s.fields ++ [f]⟩ (.map input) false =
        (s.parse (.map input) false).map fun b =>
          .ofEntries (b.entries ++ [(.str f.name, w)]) := by
    rw [parse_unlinted, parse_unlinted, resolve, resolve, Settings.resolve, Settings.resolve,
      Field.resolveEntries_concat hf habsent]
    cases resolveEntries s.fields input <;> rfl
  refine ⟨⟨s.fields ++ [f]⟩, w, withField_eq_ok_iff.2 ⟨rfl, hs, hname⟩, rfl, hparse, ?_⟩
  intro data b hb
  obtain ⟨input, hinput, habsent⟩ := exists_input_of_parse hb hname
  rw [parse_of_inputOf hinput] at hb ⊢
  rw [hparse input habsent, hb]
  rfl

/-- A schema of one field that has to be given. -/
def hostSchema : Schema := ⟨[.scalar { name := "host" } .string]⟩

/-- An object of one field, whose default is a truth value that counts as an integer. -/
def retryField : Field :=
  .object { name := "retry" }
    [.scalar { name := "times", defaultValue := some (.bool true) } .int] []

theorem parse_withField_retryField :
    ∃ t, hostSchema.withField (.field retryField) = .ok t ∧
      t.parse (.map [(.str "host", .str "h")]) false =
        .ok (.ofEntries [(.str "host", .str "h"), (.str "retry", .map [(.str "times", .int 1)])]) ∧
      t.parse (.map [(.str "port", .null)]) false =
        hostSchema.parse (.map [(.str "port", .null)]) false := by
  have hretry : parse ⟨[retryField]⟩ (.map []) false =
      .ok (.ofEntries [(.str "retry", .map [(.str "times", .int 1)])]) := rfl
  obtain ⟨t, w, ht, hw, hparse, haccepted⟩ :=
    parse_withField (s := hostSchema) (by decide) (by decide) rfl hretry
  cases hw
  have habsent : ∀ e ∈ [(Value.str "port", Value.null)], e.1 ≠ .str retryField.name := by
    simp [retryField, Field.name, Field.info]
  refine ⟨t, ht, haccepted _ (.ofEntries [(.str "host", .str "h")]) rfl, ?_⟩
  rw [hparse _ habsent]
  rfl

end Schema

end Settings
