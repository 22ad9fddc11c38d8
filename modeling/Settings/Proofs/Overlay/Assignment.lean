import Settings.Overlay.Assign
import Settings.Proofs.Accessor.Descent
import Settings.Proofs.Schema.Resolution

/-!
# What setting a value changes

A value set at a path is found there, and nothing else changes away from the path, as long as no
map that matters stands in several places.  Where one does, setting a value reaches further.
-/

namespace Settings

theorem Value.sameScalar_str_right_eq_true_iff {v : Value} {s : String} :
    v.sameScalar (.str s) = true ↔ v = .str s := by
  cases v with
  | str t => simp
  | _ => simp [sameScalar, integer?]

/-- Whether neither of two paths leads to the other's end. -/
def Apart (path path' : List Value) : Prop := ¬ path <+: path' ∧ ¬ path' <+: path

theorem apart_cons_iff {key key' : Value} {path path' : List Value} :
    Apart (key :: path) (key' :: path') ↔ (key = key' → Apart path path') := by
  unfold Apart
  rw [List.cons_prefix_cons, List.cons_prefix_cons]
  constructor
  · rintro ⟨h, h'⟩ rfl
    exact ⟨fun hp ↦ h ⟨rfl, hp⟩, fun hp ↦ h' ⟨rfl, hp⟩⟩
  · intro h
    exact ⟨fun ⟨heq, hp⟩ ↦ (h heq).1 hp, fun ⟨heq, hp⟩ ↦ (h heq.symm).2 hp⟩

theorem apart_append_iff (start path path' : List Value) :
    Apart (start ++ path) (start ++ path') ↔ Apart path path' := by
  unfold Apart
  rw [List.prefix_append_right_inj, List.prefix_append_right_inj]

theorem not_apart_nil_left (path : List Value) : ¬ Apart [] path :=
  fun h ↦ h.1 List.nil_prefix

theorem not_apart_nil_right (path : List Value) : ¬ Apart path [] :=
  fun h ↦ h.2 List.nil_prefix

/-- Paths below one of two paths that are apart are apart as well. -/
theorem Apart.append {path path' : List Value} (h : Apart path path') (rest : List Value) :
    Apart (path ++ rest) path' := by
  constructor
  · intro hp
    exact h.1 ((List.prefix_append path rest).trans hp)
  · intro hp
    rcases List.prefix_or_prefix_of_prefix hp (List.prefix_append path rest) with hp' | hp'
    · exact h.2 hp'
    · exact h.1 hp'

theorem Entries.at?_mapUnder (entries : Entries) (key next : Value) (rest : List Value) :
    (Value.map (entries.mapUnder key)).at? (next :: rest) =
      (Value.map entries).at? (key :: next :: rest) := by
  rw [Value.at?_map_cons entries, mapUnder]
  cases entries.get? key with
  | none => rfl
  | some v => cases v <;> rfl

namespace LinkedEntries

theorem get?_put_str (entries : LinkedEntries) (name : String) (t : Linked) :
    (entries.put (.str name) t).get? (.str name) = some t := by
  induction entries with
  | nil => simp [get?_cons]
  | cons e rest ih =>
      obtain ⟨k, u⟩ := e
      rw [put_cons]
      by_cases hk : Value.sameScalar (.str name) k
      · simp [hk, get?_cons]
      · simp [hk, get?_cons, ih]

theorem get?_put_of_ne {key : Value} {name : String} (h : key ≠ .str name)
    (entries : LinkedEntries) (t : Linked) :
    (entries.put key t).get? (.str name) = entries.get? (.str name) := by
  have hname {k : Value} (hk : Value.sameScalar key k = true) :
      ¬ Value.sameScalar (.str name) k = true := by
    intro hk'
    rw [Value.sameScalar_str_eq_true_iff.1 hk', Value.sameScalar_str_right_eq_true_iff] at hk
    exact h hk
  induction entries with
  | nil =>
      have hkey : ¬ Value.sameScalar (.str name) key = true := by
        rw [Value.sameScalar_str_eq_true_iff]
        exact h
      simp [get?_cons, hkey]
  | cons e rest ih =>
      obtain ⟨k, u⟩ := e
      rw [put_cons]
      by_cases hk : Value.sameScalar key k
      · simp [hk, get?_cons, hname hk]
      · simp [hk, get?_cons, ih]

/-- Setting a value at a path with several keys changes the map under the first one. -/
theorem assignHere_cons_cons (entries : LinkedEntries) (key next : Value) (rest : List Value)
    (value : Value) :
    entries.assignHere (key :: next :: rest) value =
      entries.put key (.map (entries.mapUnder key).1
        ((entries.mapUnder key).2.assignHere (next :: rest) value)) := rfl

theorem toEntries_mapUnder (entries : LinkedEntries) (key : Value) :
    toEntries (entries.mapUnder key).2 = Entries.mapUnder (toEntries entries) key := by
  rw [mapUnder, Entries.mapUnder, get?_toEntries]
  cases entries.get? key with
  | none => rfl
  | some t =>
      cases t with
      | map mark inner => rfl
      | list items => rfl
      | leaf v hv => cases v <;> first | rfl | cases hv

end LinkedEntries

/-! ## Maps without marks -/

theorem Linked.marks_map_eq_nil_iff {mark : Option Nat} {entries : LinkedEntries} :
    (Linked.map mark entries).marks = [] ↔ mark = none ∧ LinkedEntries.marks entries = [] := by
  rw [marks, List.append_eq_nil_iff]
  cases mark <;> simp

namespace LinkedEntries

theorem marks_of_get? {entries : LinkedEntries} {key : Value} {t : Linked}
    (h : entries.get? key = some t) (hmarks : marks entries = []) : t.marks = [] := by
  induction entries with
  | nil => cases h
  | cons e rest ih =>
      obtain ⟨k, u⟩ := e
      rw [marks, List.append_eq_nil_iff] at hmarks
      rw [get?_cons] at h
      split at h
      · cases h
        exact hmarks.1
      · exact ih h hmarks.2

theorem marks_put {entries : LinkedEntries} {t : Linked} (hmarks : marks entries = [])
    (ht : t.marks = []) (key : Value) : marks (entries.put key t) = [] := by
  induction entries with
  | nil => simp [marks, ht]
  | cons e rest ih =>
      obtain ⟨k, u⟩ := e
      rw [marks, List.append_eq_nil_iff] at hmarks
      rw [put_cons]
      split
      · simp [marks, ht, hmarks.2]
      · simp [marks, hmarks.1, ih hmarks.2]

theorem marks_mapUnder {entries : LinkedEntries} (hmarks : marks entries = []) (key : Value) :
    (entries.mapUnder key).1 = none ∧ marks (entries.mapUnder key).2 = [] := by
  rw [mapUnder]
  split
  · rename_i mark inner h
    exact Linked.marks_map_eq_nil_iff.1 (marks_of_get? h hmarks)
  · exact ⟨rfl, rfl⟩

theorem marks_assignHere {entries : LinkedEntries} (hmarks : marks entries = [])
    (path : List Value) (value : Value) : marks (entries.assignHere path value) = [] := by
  induction path generalizing entries with
  | nil => exact hmarks
  | cons key rest ih =>
      cases rest with
      | nil => exact marks_put hmarks (Linked.marks_ofValue value) key
      | cons next rest =>
          obtain ⟨hmark, hinner⟩ := marks_mapUnder hmarks key
          rw [assignHere_cons_cons]
          refine marks_put hmarks ?_ key
          rw [Linked.marks, hmark, ih hinner]
          rfl

end LinkedEntries

mutual

theorem Linked.change_of_marks_eq_nil (m : Nat) (f : LinkedEntries → LinkedEntries) :
    ∀ t : Linked, t.marks = [] → t.change m f = t
  | .leaf v h, _ => rfl
  | .list items, ht => congrArg Linked.list (Linked.changeItems_of_marks_eq_nil m f items ht)
  | .map none entries, ht =>
      congrArg (Linked.map none) (LinkedEntries.change_of_marks_eq_nil m f entries ht)
  | .map (some _) _, ht => by cases ht

theorem Linked.changeItems_of_marks_eq_nil (m : Nat) (f : LinkedEntries → LinkedEntries) :
    ∀ items : List Linked, Linked.marksOfItems items = [] → Linked.changeItems m f items = items
  | [], _ => rfl
  | t :: rest, h => by
      rw [Linked.marksOfItems, List.append_eq_nil_iff] at h
      rw [Linked.changeItems, Linked.change_of_marks_eq_nil m f t h.1,
        Linked.changeItems_of_marks_eq_nil m f rest h.2]

theorem LinkedEntries.change_of_marks_eq_nil (m : Nat) (f : LinkedEntries → LinkedEntries) :
    ∀ entries : List (Value × Linked), LinkedEntries.marks entries = [] →
      LinkedEntries.change m f entries = entries
  | [], _ => rfl
  | (key, t) :: rest, h => by
      rw [LinkedEntries.marks, List.append_eq_nil_iff] at h
      rw [LinkedEntries.change, Linked.change_of_marks_eq_nil m f t h.1,
        LinkedEntries.change_of_marks_eq_nil m f rest h.2]

end

theorem LinkedEntries.get?_change (m : Nat) (f : LinkedEntries → LinkedEntries)
    (entries : LinkedEntries) (key : Value) :
    LinkedEntries.get? (LinkedEntries.change m f entries) key =
      (entries.get? key).map (Linked.change m f) := by
  induction entries with
  | nil => rfl
  | cons e rest ih =>
      obtain ⟨k, t⟩ := e
      rw [LinkedEntries.change, LinkedEntries.get?_cons, LinkedEntries.get?_cons, ih]
      split <;> rfl

/-! ## Maps that stand in one place -/

namespace Linked

/-- Whether the maps on the way to a path stand in one place only, with a condition on what is at its
end. -/
def Along (P : Linked → Prop) : List String → Linked → Prop
  | [], t => P t
  | name :: path, .map mark entries =>
      mark = none ∧ ∀ t, LinkedEntries.get? entries (.str name) = some t → Along P path t
  | _ :: _, _ => True

/-- Whether the maps on the way to a path stand in one place only. -/
def SingleAbove (path : List String) (t : Linked) : Prop := t.Along (fun _ => True) path

/-- Whether the maps on the way to a path, at its end and below it stand in one place only. -/
def Single (path : List String) (t : Linked) : Prop := t.Along (fun u => u.marks = []) path

/-- A condition that values without marks meet and that changes do not spoil. -/
structure Kept (P : Linked → Prop) : Prop where
  of_marks {t : Linked} (h : t.marks = []) : P t
  change {t : Linked} (h : P t) (m : Nat) (f : LinkedEntries → LinkedEntries) : P (t.change m f)
  assignHere {mark : Option Nat} {entries : LinkedEntries} (h : P (.map mark entries))
    (place : List Value) (value : Value) : P (.map mark (entries.assignHere place value))

theorem kept_true : Kept fun _ => True :=
  ⟨fun _ ↦ trivial, fun _ _ _ ↦ trivial, fun _ _ _ ↦ trivial⟩

theorem kept_marks : Kept fun t => t.marks = [] where
  of_marks h := h
  change h m f := by
    rw [change_of_marks_eq_nil m f _ h]
    exact h
  assignHere h place value := by
    obtain ⟨hmark, hentries⟩ := marks_map_eq_nil_iff.1 h
    exact marks_map_eq_nil_iff.2 ⟨hmark, LinkedEntries.marks_assignHere hentries place value⟩

variable {P : Linked → Prop}

theorem Kept.along_of_marks (hP : Kept P) {t : Linked} (h : t.marks = []) (path : List String) :
    t.Along P path := by
  induction path generalizing t with
  | nil => exact hP.of_marks h
  | cons name path ih =>
      cases t with
      | map mark entries =>
          obtain ⟨hmark, hentries⟩ := marks_map_eq_nil_iff.1 h
          exact ⟨hmark, fun u hu ↦ ih (LinkedEntries.marks_of_get? hu hentries)⟩
      | _ => trivial

theorem Along.above {t : Linked} {path : List String} (h : t.Along P path) :
    t.SingleAbove path := by
  induction path generalizing t with
  | nil => trivial
  | cons name path ih =>
      cases t with
      | map mark entries => exact ⟨h.1, fun u hu ↦ ih (h.2 u hu)⟩
      | _ => trivial

theorem Along.change (hP : Kept P) {t : Linked} {path : List String} (h : t.Along P path) (m : Nat)
    (f : LinkedEntries → LinkedEntries) : (t.change m f).Along P path := by
  induction path generalizing t with
  | nil => exact hP.change h m f
  | cons name path ih =>
      cases t with
      | map mark entries =>
          obtain ⟨rfl, hbelow⟩ := h
          refine ⟨rfl, fun u hu ↦ ?_⟩
          rw [LinkedEntries.get?_change, Option.map_eq_some_iff] at hu
          obtain ⟨t, ht, rfl⟩ := hu
          exact ih (hbelow t ht)
      | _ => trivial

/-- A change of a map that stands in several places is not seen where all maps stand in one. -/
theorem Single.at?_change {t : Linked} {path : List String} (h : t.Single path) (m : Nat)
    (f : LinkedEntries → LinkedEntries) :
    (t.change m f).toValue.at? (textPath path) = t.toValue.at? (textPath path) := by
  induction path generalizing t with
  | nil => rw [change_of_marks_eq_nil m f t h]
  | cons name path ih =>
      cases t with
      | map mark entries =>
          obtain ⟨rfl, hbelow⟩ := h
          show (Value.map (LinkedEntries.toEntries (LinkedEntries.change m f entries))).at? _ =
            (Value.map (LinkedEntries.toEntries entries)).at? _
          rw [textPath_cons, Value.at?_map_cons, Value.at?_map_cons, LinkedEntries.get?_toEntries,
            LinkedEntries.get?_toEntries, LinkedEntries.get?_change]
          cases hname : LinkedEntries.get? entries (.str name) with
          | none => rfl
          | some u => exact ih (hbelow u hname)
      | list items => rfl
      | leaf v hv => rfl

end Linked

namespace LinkedEntries

section

open Linked

variable {P : Linked → Prop} {mark : Option Nat} {entries : LinkedEntries} {path : List String}

theorem along_mapUnder (hP : Kept P) {name : String}
    (h : (Linked.map mark entries).Along P (name :: path)) :
    (Linked.map (entries.mapUnder (.str name)).1 (entries.mapUnder (.str name)).2).Along P
      path := by
  rw [mapUnder]
  split
  · rename_i mark inner hname
    exact h.2 _ hname
  · exact hP.along_of_marks rfl path

theorem along_put {name : String} (h : (Linked.map mark entries).Along P (name :: path))
    {key : Value} {t : Linked} (ht : key = .str name → t.Along P path) :
    (Linked.map mark (entries.put key t)).Along P (name :: path) := by
  refine ⟨h.1, fun u hu ↦ ?_⟩
  by_cases hkey : key = .str name
  · subst hkey
    rw [get?_put_str] at hu
    cases hu
    exact ht rfl
  · rw [get?_put_of_ne hkey] at hu
    exact h.2 u hu

theorem along_assignHere (hP : Kept P) (h : (Linked.map mark entries).Along P path)
    (place : List Value) (value : Value) :
    (Linked.map mark (entries.assignHere place value)).Along P path := by
  induction place generalizing mark entries path with
  | nil => exact h
  | cons key rest ih =>
      cases path with
      | nil => exact hP.assignHere h (key :: rest) value
      | cons name path =>
          cases rest with
          | nil => exact along_put h fun _ ↦ hP.along_of_marks (Linked.marks_ofValue value) path
          | cons next rest =>
              rw [assignHere_cons_cons]
              apply along_put h
              rintro rfl
              exact ih (along_mapUnder hP h)

/-- A value that is set stands in one place, and so do the maps in it. -/
theorem single_assignHere_append {place rest : List String} (hplace : place ≠ [])
    (h : (Linked.map mark entries).SingleAbove (place ++ rest)) (value : Value) :
    (Linked.map mark (entries.assignHere (textPath place) value)).Single (place ++ rest) := by
  induction place generalizing mark entries with
  | nil => exact absurd rfl hplace
  | cons name place ih =>
      have hput {t : Linked} (ht : t.Single (place ++ rest)) :
          (Linked.map mark (entries.put (.str name) t)).Single (name :: (place ++ rest)) := by
        refine ⟨h.1, fun u hu ↦ ?_⟩
        rw [get?_put_str] at hu
        cases hu
        exact ht
      cases place with
      | nil => exact hput (kept_marks.along_of_marks (Linked.marks_ofValue value) rest)
      | cons next place =>
          rw [textPath_cons, textPath_cons, assignHere_cons_cons]
          exact hput (ih (List.cons_ne_nil next place) (along_mapUnder kept_true h))

end

theorem at?_put_str (entries : LinkedEntries) (name : String) (t : Linked) (path : List Value) :
    (Value.map (toEntries (entries.put (.str name) t))).at? (.str name :: path) =
      t.toValue.at? path := by
  rw [Value.at?_map_cons, get?_toEntries, get?_put_str]
  rfl

theorem at?_put_of_ne {key : Value} {name : String} (h : key ≠ .str name)
    (entries : LinkedEntries) (t : Linked) (path : List Value) :
    (Value.map (toEntries (entries.put key t))).at? (.str name :: path) =
      (Value.map (toEntries entries)).at? (.str name :: path) := by
  rw [Value.at?_map_cons, Value.at?_map_cons, get?_toEntries, get?_toEntries, get?_put_of_ne h]

theorem at?_assignHere_of_apart (entries : LinkedEntries) {place : List Value}
    {path : List String} (h : Apart place (textPath path)) (value : Value) :
    (Value.map (toEntries (entries.assignHere place value))).at? (textPath path) =
      (Value.map (toEntries entries)).at? (textPath path) := by
  induction place generalizing entries path with
  | nil => exact absurd h (not_apart_nil_left _)
  | cons key rest ih =>
      cases path with
      | nil => exact absurd h (not_apart_nil_right _)
      | cons name path =>
          rw [textPath_cons, apart_cons_iff] at h
          rw [textPath_cons]
          cases rest with
          | nil => exact at?_put_of_ne (fun heq ↦ not_apart_nil_left _ (h heq)) entries _ _
          | cons next rest =>
              rw [assignHere_cons_cons]
              by_cases hkey : key = .str name
              · subst hkey
                cases path with
                | nil => exact absurd (h rfl) (not_apart_nil_right _)
                | cons name' path =>
                    rw [at?_put_str, Linked.toValue, ih _ (h rfl), textPath_cons,
                      toEntries_mapUnder, Entries.at?_mapUnder]
              · exact at?_put_of_ne hkey entries _ _

theorem at?_assignHere_append (entries : LinkedEntries) {place : List String} (hplace : place ≠ [])
    (value : Value) (rest : List Value) :
    (Value.map (toEntries (entries.assignHere (textPath place) value))).at?
      (textPath place ++ rest) = value.at? rest := by
  induction place generalizing entries with
  | nil => exact absurd rfl hplace
  | cons name place ih =>
      cases place with
      | nil =>
          show (Value.map (toEntries (entries.put (.str name) (.ofValue value)))).at?
            (.str name :: rest) = _
          rw [at?_put_str, Linked.toValue_ofValue]
      | cons next place =>
          rw [textPath_cons, List.cons_append, textPath_cons, assignHere_cons_cons, at?_put_str,
            Linked.toValue, ← textPath_cons, ih _ (List.cons_ne_nil next place)]

theorem lastMark?_cons_cons (entries : LinkedEntries) (key next : Value) (rest : List Value) :
    entries.lastMark? (key :: next :: rest) =
      ((entries.mapUnder key).2.lastMark? (next :: rest)).or
        ((entries.mapUnder key).1.map fun m => (m, next :: rest)) := rfl

theorem lastMark?_eq_none_of_marks {entries : LinkedEntries} (h : marks entries = [])
    (place : List Value) : entries.lastMark? place = none := by
  induction place generalizing entries with
  | nil => rfl
  | cons key rest ih =>
      cases rest with
      | nil => rfl
      | cons next rest =>
          obtain ⟨hmark, hinner⟩ := marks_mapUnder h key
          rw [lastMark?_cons_cons, hmark, ih hinner]
          rfl

/-- On the way to a place where the maps stand in one place only there is no marked map. -/
theorem lastMark?_eq_none_of_above {mark : Option Nat} {entries : LinkedEntries}
    {path : List String} (h : (Linked.map mark entries).SingleAbove path) {place : List Value}
    (hplace : place <+: textPath path) : entries.lastMark? place = none := by
  induction place generalizing mark entries path with
  | nil => rfl
  | cons key rest ih =>
      cases rest with
      | nil => rfl
      | cons next rest =>
          cases path with
          | nil => exact absurd (List.prefix_nil.1 hplace) (List.cons_ne_nil key _)
          | cons name path =>
              rw [textPath_cons, List.cons_prefix_cons] at hplace
              obtain ⟨rfl, hrest⟩ := hplace
              have hinner := along_mapUnder Linked.kept_true h
              have hmark : (entries.mapUnder (.str name)).1 = none := by
                cases path with
                | nil => exact absurd (List.prefix_nil.1 hrest) (List.cons_ne_nil next rest)
                | cons => exact hinner.1
              rw [lastMark?_cons_cons, hmark, ih hinner hrest]
              rfl

/-! ## Setting values in place -/

theorem assign_eq_assignHere {entries : LinkedEntries} {path : List Value}
    (h : entries.lastMark? path = none) (value : Value) :
    entries.assign path value = entries.assignHere path value := by
  rw [assign, h]

theorem along_assign {P : Linked → Prop} (hP : Linked.Kept P) {entries : LinkedEntries}
    {path : List String} (h : (Linked.map none entries).Along P path) (place : List Value)
    (value : Value) : (Linked.map none (entries.assign place value)).Along P path := by
  rw [assign]
  split
  · rename_i m rest hmark
    exact h.change hP m _
  · exact along_assignHere hP h place value

theorem at?_assign_of_apart {entries : LinkedEntries} {path : List String}
    (h : (Linked.map none entries).Single path) {place : List Value}
    (hplace : Apart place (textPath path)) (value : Value) :
    (Value.map (toEntries (entries.assign place value))).at? (textPath path) =
      (Value.map (toEntries entries)).at? (textPath path) := by
  rw [assign]
  split
  · rename_i m rest hmark
    exact h.at?_change m _
  · exact at?_assignHere_of_apart entries hplace value

section

variable {entries : LinkedEntries} {place rest : List String}
  (h : (Linked.map none entries).SingleAbove (place ++ rest))

include h

theorem assign_textPath (value : Value) :
    entries.assign (textPath place) value = entries.assignHere (textPath place) value := by
  apply assign_eq_assignHere
  apply lastMark?_eq_none_of_above h
  rw [textPath_append]
  exact List.prefix_append _ _

variable (hplace : place ≠ [])

include hplace

theorem at?_assign_append (value : Value) :
    (Value.map (toEntries (entries.assign (textPath place) value))).at? (textPath (place ++ rest)) =
      value.at? (textPath rest) := by
  rw [assign_textPath h, textPath_append]
  exact at?_assignHere_append entries hplace value (textPath rest)

theorem single_assign_append (value : Value) :
    (Linked.map none (entries.assign (textPath place) value)).Single (place ++ rest) := by
  rw [assign_textPath h]
  exact single_assignHere_append hplace h value

end

end LinkedEntries

end Settings
