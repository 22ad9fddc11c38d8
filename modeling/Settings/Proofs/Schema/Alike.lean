import Settings.Proofs.Schema.Resolution

/-!
# Fields that resolve alike

Descriptions, examples and rules have no part in resolving values.  Two fields that differ in
nothing else make the same of every value, down to the issues, and so do objects of such fields.
-/

namespace Settings

namespace Field

/-- Whether two fields resolve all values in the same way. -/
structure Alike (f g : Field) : Prop where
  name : f.name = g.name
  resolvesWithoutInput : f.resolvesWithoutInput = g.resolvesWithoutInput
  standIn? : f.standIn? = g.standIn?
  accept : ∀ owner v, f.accept owner v = g.accept owner v

theorem Alike.refl (f : Field) : Alike f f := ⟨rfl, rfl, rfl, fun _ _ ↦ rfl⟩

theorem forall₂_alike_refl (fields : List Field) : List.Forall₂ Alike fields fields :=
  List.forall₂_same.2 fun f _ ↦ .refl f

/-! ## Lists of fields -/

section

variable {fs gs : List Field}

theorem map_name_eq (h : List.Forall₂ Alike fs gs) :
    fs.map Field.name = gs.map Field.name := by
  induction h with
  | nil => rfl
  | cons hfg _ ih => rw [List.map_cons, List.map_cons, hfg.name, ih]

theorem allResolveWithoutInput_eq (h : List.Forall₂ Alike fs gs) :
    allResolveWithoutInput fs = allResolveWithoutInput gs := by
  induction h with
  | nil => rfl
  | cons hfg _ ih =>
      rw [allResolveWithoutInput, allResolveWithoutInput, hfg.resolvesWithoutInput, ih]

theorem acceptAll_eq (h : List.Forall₂ Alike fs gs) (model : String) (input : Entries) (i : Nat) :
    acceptAll model input i fs = acceptAll model input i gs := by
  induction h generalizing i with
  | nil => rfl
  | @cons f g fs gs hfg _ ih =>
      have hsource : acceptSource model input i f = acceptSource model input i g := by
        simp only [acceptSource, source?, sourceSegment, hfg.name, hfg.standIn?, hfg.accept]
      rw [acceptAll_cons, acceptAll_cons, hsource, hfg.name, ih]

end

/-! ## Single fields -/

theorem Alike.scalar {i j : FieldInfo} (kind : ScalarKind) (hname : i.name = j.name)
    (hdefault : i.defaultValue = j.defaultValue) (hoptional : i.isOptional = j.isOptional) :
    Alike (.scalar i kind) (.scalar j kind) := by
  have hnullable : isNullable (.scalar i kind) = isNullable (.scalar j kind) := by
    simp only [isNullable, hasDefault, info, hdefault, hoptional]
  refine ⟨hname, ?_, ?_, fun owner v ↦ ?_⟩
  · simp only [Field.resolvesWithoutInput, hdefault, hoptional]
  · simp only [Field.standIn?, info, isObject, hdefault, hoptional, Bool.false_and]
  · by_cases hnull : isNullable (.scalar i kind) = true ∧ v = .null
    · obtain ⟨hn, rfl⟩ := hnull
      rw [accept_null hn, accept_null (hnullable ▸ hn)]
    · rw [accept_scalar hnull, accept_scalar (hnullable ▸ hnull)]

theorem Alike.object (info : FieldInfo) {children children' : List Field} (rules rules' : List Rule)
    (h : List.Forall₂ Alike children children') :
    Alike (.object info children rules) (.object info children' rules') := by
  have hwithout : (Field.object info children rules).resolvesWithoutInput =
      (Field.object info children' rules').resolvesWithoutInput := by
    simp only [Field.resolvesWithoutInput, allResolveWithoutInput_eq h]
  have hnullable : isNullable (.object info children rules) =
      isNullable (.object info children' rules') := rfl
  refine ⟨rfl, hwithout, ?_, fun owner v ↦ ?_⟩
  · rw [Field.standIn?, Field.standIn?, hwithout]
    rfl
  · by_cases hnull : isNullable (.object info children rules) = true ∧ v = .null
    · obtain ⟨hn, rfl⟩ := hnull
      rw [accept_null hn, accept_null (hnullable ▸ hn)]
    · by_cases hv : ∃ input, v = .map input
      · obtain ⟨input, rfl⟩ := hv
        rw [accept_object_map, accept_object_map, acceptAll_eq h, map_name_eq h]
      · have hv' : ∀ input, v ≠ .map input := fun input heq ↦ hv ⟨input, heq⟩
        rw [accept_object_other hnull hv', accept_object_other (hnullable ▸ hnull) hv']

end Field

/-- Schemas of fields that are alike resolve all configurations in the same way. -/
theorem Schema.resolve_eq_of_alike {s t : Schema} (h : List.Forall₂ Field.Alike s.fields t.fields)
    (data : Value) : s.resolve data = t.resolve data := by
  have hentries (input : Entries) :
      resolveEntries s.fields input = resolveEntries t.fields input := by
    rw [resolveEntries, resolveEntries, Field.acceptAll_eq h, Field.map_name_eq h]
  rw [resolve, resolve]
  cases data <;> simp [Settings.resolve, hentries]

end Settings
