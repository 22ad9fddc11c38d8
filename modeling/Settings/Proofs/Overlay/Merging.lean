import Settings.Overlay.Merge
import Settings.Proofs.Overlay.Assignment

/-!
# What overrides change

Overrides that are merged into a configuration prevail wherever they say something, and where they
say nothing the configuration stays as it is.
-/

namespace Settings

namespace Value

mutual

/-- Whether no key comes twice in one of the maps that a value is made of. -/
def KeysDistinct : Value → Prop
  | .map entries => EntriesDistinct entries
  | _ => True

def EntriesDistinct : List (Value × Value) → Prop
  | [] => True
  | (key, v) :: rest =>
      (∀ e ∈ rest, sameScalar key e.1 = false) ∧ v.KeysDistinct ∧ EntriesDistinct rest

end

/-- Whether a path through the maps of a value comes to a key that is missing. -/
def Lacks : Value → List Value → Prop
  | .map entries, key :: rest => ∀ v, Entries.get? entries key = some v → v.Lacks rest
  | _, _ => False

theorem Lacks.at?_eq_none {v : Value} {path : List Value} (h : v.Lacks path) :
    v.at? path = none := by
  induction path generalizing v with
  | nil => cases v <;> cases h
  | cons key path ih =>
      cases v with
      | map entries =>
          rw [at?_map_cons]
          cases hkey : Entries.get? entries key with
          | none => rfl
          | some u => exact ih (h u hkey)
      | _ => cases h

theorem entriesDistinct_overridesOf {v : Value} (h : v.KeysDistinct) :
    EntriesDistinct (overridesOf v) := by
  cases v with
  | map entries => exact h
  | _ => trivial

/-- What is found below a key in a map is found where the key comes. -/
theorem at?_map_cons_self (name : String) (v : Value) (rest : Entries) (path : List Value) :
    (Value.map ((.str name, v) :: rest)).at? (.str name :: path) = v.at? path := by
  rw [at?_map_cons, Entries.get?_cons, if_pos (by simp)]
  rfl

theorem get?_cons_of_ne {key : Value} {name : String} (h : key ≠ .str name) (v : Value)
    (rest : Entries) :
    Entries.get? ((key, v) :: rest) (.str name) = Entries.get? rest (.str name) := by
  rw [Entries.get?_cons, if_neg]
  rw [sameScalar_str_eq_true_iff]
  exact h

end Value

namespace LinkedEntries

theorem isMapAt_iff {entries : LinkedEntries} {path : List Value} :
    entries.isMapAt path = true ↔
      ∃ es, (Value.map (toEntries entries)).at? path = some (.map es) := by
  induction path generalizing entries with
  | nil => simp [isMapAt]
  | cons key path ih =>
      rw [Value.at?_map_cons, get?_toEntries, isMapAt]
      split
      · rename_i mark inner hkey
        rw [hkey]
        exact ih
      · rename_i hkey
        cases ht : entries.get? key with
        | none => simp
        | some t =>
            cases t with
            | map mark inner => exact absurd ht (hkey mark inner)
            | list items => cases path <;> simp [Linked.toValue, Value.at?]
            | leaf v hv =>
                cases v <;> cases path <;> simp [Linked.toValue, Value.at?] <;> cases hv

theorem overrideAt_of_not_map {v : Value} (h : ∀ es, v ≠ .map es) (path : List Value)
    (entries : LinkedEntries) : overrideAt path entries v = entries.assign path v := by
  cases v with
  | map overrides => exact absurd rfl (h overrides)
  | _ => rfl

mutual

theorem along_overrideAt {P : Linked → Prop} (hP : Linked.Kept P) (v : Value)
    {entries : LinkedEntries} {path : List String} (h : (Linked.map none entries).Along P path)
    (place : List Value) : (Linked.map none (overrideAt place entries v)).Along P path := by
  cases v with
  | map overrides =>
      rw [overrideAt]
      split
      · exact along_mergeAt hP overrides h place
      · exact along_assign hP h place (.map overrides)
  | _ => exact along_assign hP h place _

theorem along_mergeAt {P : Linked → Prop} (hP : Linked.Kept P) (overrides : List (Value × Value))
    {entries : LinkedEntries} {path : List String} (h : (Linked.map none entries).Along P path)
    (place : List Value) : (Linked.map none (mergeAt place entries overrides)).Along P path := by
  cases overrides with
  | nil => exact h
  | cons e rest =>
      exact along_mergeAt hP rest (along_overrideAt hP e.2 h (place ++ [e.1])) place

end

mutual

/-- Away from the path of an override nothing changes. -/
theorem at?_overrideAt_of_apart (v : Value) {entries : LinkedEntries} {path : List String}
    (h : (Linked.map none entries).Single path) {place : List Value}
    (hplace : Apart place (textPath path)) :
    (Value.map (toEntries (overrideAt place entries v))).at? (textPath path) =
      (Value.map (toEntries entries)).at? (textPath path) := by
  cases v with
  | map overrides =>
      rw [overrideAt]
      split
      · exact at?_mergeAt_of_apart overrides h fun key _ ↦ hplace.append [key]
      · exact at?_assign_of_apart h hplace (.map overrides)
  | _ => exact at?_assign_of_apart h hplace _

theorem at?_mergeAt_of_apart (overrides : List (Value × Value)) {entries : LinkedEntries}
    {path : List String} (h : (Linked.map none entries).Single path) {place : List Value}
    (hplace : ∀ key ∈ overrides.map Prod.fst, Apart (place ++ [key]) (textPath path)) :
    (Value.map (toEntries (mergeAt place entries overrides))).at? (textPath path) =
      (Value.map (toEntries entries)).at? (textPath path) := by
  cases overrides with
  | nil => rfl
  | cons e rest =>
      rw [List.map_cons, List.forall_mem_cons] at hplace
      have hfirst := at?_overrideAt_of_apart e.2 h hplace.1
      have hsingle := along_overrideAt Linked.kept_marks e.2 h (place ++ [e.1])
      exact (at?_mergeAt_of_apart rest hsingle hplace.2).trans hfirst

end

/-- A key that is not the next one on the way leads away. -/
theorem apart_of_key_ne {key : Value} {name : String} (h : key ≠ .str name)
    (place rest : List String) :
    Apart (textPath place ++ [key]) (textPath (place ++ name :: rest)) := by
  rw [textPath_append, apart_append_iff, textPath_cons, apart_cons_iff]
  exact fun heq ↦ absurd heq h

section

variable {key : Value} {overrides : List (Value × Value)} {name : String}

theorem ne_of_sameScalar_eq_false (h : Value.sameScalar (.str name) key = false) :
    key ≠ .str name := by
  rintro rfl
  rw [Value.sameScalar_str, beq_self_eq_true] at h
  cases h

/-- When a key has been overridden, the keys that follow leave what is below it as it is. -/
theorem at?_mergeAt_of_later {entries : LinkedEntries} {place rest : List String}
    (h : (Linked.map none entries).Single (place ++ name :: rest))
    (hkeys : ∀ e ∈ overrides, Value.sameScalar (.str name) e.1 = false) :
    (Value.map (toEntries (mergeAt (textPath place) entries overrides))).at?
        (textPath (place ++ name :: rest)) =
      (Value.map (toEntries entries)).at? (textPath (place ++ name :: rest)) := by
  apply at?_mergeAt_of_apart overrides h
  intro key hmem
  obtain ⟨e, he, rfl⟩ := List.mem_map.1 hmem
  exact apart_of_key_ne (ne_of_sameScalar_eq_false (hkeys e he)) place rest

end

theorem append_cons_eq (place : List String) (name : String) (rest : List String) :
    place ++ name :: rest = (place ++ [name]) ++ rest := by
  simp

theorem textPath_concat (place : List String) (name : String) :
    textPath place ++ [.str name] = textPath (place ++ [name]) := by
  simp

/-! ## What overrides set -/

mutual

theorem wins_overrideAt {u : Value} (hmap : ∀ es, u ≠ .map es) (v : Value)
    {entries : LinkedEntries} {place rest : List String}
    (h : (Linked.map none entries).SingleAbove (place ++ rest)) (hplace : place ≠ [])
    (hv : v.KeysDistinct) (hu : v.at? (textPath rest) = some u) :
    (Linked.map none (overrideAt (textPath place) entries v)).Single (place ++ rest) ∧
      (Value.map (toEntries (overrideAt (textPath place) entries v))).at?
        (textPath (place ++ rest)) = some u := by
  have hset : (Linked.map none (entries.assign (textPath place) v)).Single (place ++ rest) ∧
      (Value.map (toEntries (entries.assign (textPath place) v))).at? (textPath (place ++ rest)) =
        some u :=
    ⟨single_assign_append h hplace v, (at?_assign_append h hplace v).trans hu⟩
  cases v with
  | map overrides =>
      cases rest with
      | nil => exact absurd (Option.some.inj hu).symm (hmap overrides)
      | cons name rest =>
          rw [overrideAt]
          split
          · exact wins_mergeAt hmap overrides h hv hu
          · exact hset
  | _ => exact hset

theorem wins_mergeAt {u : Value} (hmap : ∀ es, u ≠ .map es) (overrides : List (Value × Value))
    {entries : LinkedEntries} {place : List String} {name : String} {rest : List String}
    (h : (Linked.map none entries).SingleAbove (place ++ name :: rest))
    (hv : Value.EntriesDistinct overrides)
    (hu : (Value.map overrides).at? (textPath (name :: rest)) = some u) :
    (Linked.map none (mergeAt (textPath place) entries overrides)).Single (place ++ name :: rest) ∧
      (Value.map (toEntries (mergeAt (textPath place) entries overrides))).at?
        (textPath (place ++ name :: rest)) = some u := by
  cases overrides with
  | nil => cases hu
  | cons e overrides =>
      obtain ⟨key, v⟩ := e
      obtain ⟨hkeys, hv, hrest⟩ := hv
      rw [mergeAt]
      by_cases hkey : key = .str name
      · subst hkey
        rw [textPath_cons, Value.at?_map_cons_self] at hu
        obtain ⟨hsingle, hfirst⟩ :=
          wins_overrideAt hmap v (append_cons_eq place name rest ▸ h) (by simp) hv hu
        rw [← append_cons_eq, ← textPath_concat] at hsingle hfirst
        exact ⟨along_mergeAt Linked.kept_marks overrides hsingle (textPath place),
          (at?_mergeAt_of_later hsingle hkeys).trans hfirst⟩
      · rw [textPath_cons, Value.at?_map_cons, Value.get?_cons_of_ne hkey] at hu
        exact wins_mergeAt hmap overrides (along_overrideAt Linked.kept_true v h _) hrest hu

end

/-- An override that is no map is found at its path. -/
theorem wins_mergeOverrides {entries : LinkedEntries} {path : List String}
    (h : (Linked.map none entries).SingleAbove path) {overrides : Value}
    (hv : overrides.KeysDistinct) {u : Value} (hmap : ∀ es, u ≠ .map es)
    (hu : (Value.map (overridesOf overrides)).at? (textPath path) = some u) :
    (Value.map (toEntries (entries.mergeOverrides overrides))).at? (textPath path) = some u := by
  cases path with
  | nil => exact absurd (Option.some.inj hu).symm (hmap _)
  | cons name rest =>
      have hroot : (Linked.map none entries).SingleAbove ([] ++ name :: rest) := h
      have hdistinct := Value.entriesDistinct_overridesOf hv
      exact (wins_mergeAt hmap (overridesOf overrides) hroot hdistinct hu).2

/-! ## Where overrides set nothing -/

mutual

theorem yields_overrideAt (v : Value) {entries : LinkedEntries} {place rest : List String}
    (h : (Linked.map none entries).Single (place ++ rest)) (hplace : place ≠ [])
    (hv : v.KeysDistinct) (hlacks : v.Lacks (textPath rest)) :
    (Value.map (toEntries (overrideAt (textPath place) entries v))).at? (textPath (place ++ rest)) =
      (Value.map (toEntries entries)).at? (textPath (place ++ rest)) := by
  cases v with
  | map overrides =>
      cases rest with
      | nil => exact hlacks.elim
      | cons name rest =>
          rw [overrideAt]
          split
          · exact yields_mergeAt overrides h hv hlacks
          · rename_i hmap
            rw [at?_assign_append h.above hplace, hlacks.at?_eq_none, textPath_append,
              Value.at?_append]
            cases hat : (Value.map (toEntries entries)).at? (textPath place) with
            | none => rfl
            | some w =>
                cases w with
                | map es => exact absurd (isMapAt_iff.2 ⟨es, hat⟩) hmap
                | _ => rfl
  | _ => cases rest <;> exact hlacks.elim

theorem yields_mergeAt (overrides : List (Value × Value)) {entries : LinkedEntries}
    {place : List String} {name : String} {rest : List String}
    (h : (Linked.map none entries).Single (place ++ name :: rest))
    (hv : Value.EntriesDistinct overrides)
    (hlacks : (Value.map overrides).Lacks (textPath (name :: rest))) :
    (Value.map (toEntries (mergeAt (textPath place) entries overrides))).at?
        (textPath (place ++ name :: rest)) =
      (Value.map (toEntries entries)).at? (textPath (place ++ name :: rest)) := by
  cases overrides with
  | nil => rfl
  | cons e overrides =>
      obtain ⟨key, v⟩ := e
      obtain ⟨hkeys, hv, hrest⟩ := hv
      have hsingle := along_overrideAt Linked.kept_marks v h (textPath place ++ [key])
      rw [mergeAt]
      by_cases hkey : key = .str name
      · subst hkey
        rw [at?_mergeAt_of_later hsingle hkeys, textPath_concat, append_cons_eq place name rest]
        refine yields_overrideAt v (append_cons_eq place name rest ▸ h) (by simp) hv ?_
        exact hlacks v (by rw [Entries.get?_cons, if_pos (by simp)])
      · have hlater : (Value.map overrides).Lacks (textPath (name :: rest)) := by
          intro u hu
          exact hlacks u ((Value.get?_cons_of_ne hkey v overrides).trans hu)
        rw [yields_mergeAt overrides hsingle hrest hlater]
        exact at?_overrideAt_of_apart v h (apart_of_key_ne hkey place rest)

end

/-- Where overrides lack a path, what is there stays. -/
theorem yields_mergeOverrides {entries : LinkedEntries} {path : List String}
    (h : (Linked.map none entries).Single path) {overrides : Value} (hv : overrides.KeysDistinct)
    (hlacks : (Value.map (overridesOf overrides)).Lacks (textPath path)) :
    (Value.map (toEntries (entries.mergeOverrides overrides))).at? (textPath path) =
      (Value.map (toEntries entries)).at? (textPath path) := by
  cases path with
  | nil => exact hlacks.elim
  | cons name rest =>
      have hroot : (Linked.map none entries).Single ([] ++ name :: rest) := h
      have hdistinct := Value.entriesDistinct_overridesOf hv
      exact yields_mergeAt (overridesOf overrides) hroot hdistinct hlacks

end LinkedEntries

end Settings
