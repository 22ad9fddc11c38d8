import Settings.Proofs.Overlay.Precedence

/-!
# Overlays of files that repeat no map

Where no map is repeated it makes no difference whether maps are changed in place.  What comes out
is what one gets from the entries alone, setting and merging values level by level.
-/

namespace Settings

namespace Entries

theorem get?_put_of_get? {entries : Entries} {key v : Value} (h : entries.get? key = some v)
    (w : Value) : (entries.put key w).get? key = some w := by
  induction entries with
  | nil => cases h
  | cons e rest ih =>
      obtain ⟨k, u⟩ := e
      rw [get?_cons] at h
      rw [put_cons]
      by_cases hk : Value.sameScalar key k
      · simp [hk, get?_cons]
      · rw [if_neg hk] at h
        simp [hk, get?_cons, ih h]

theorem put_put {entries : Entries} {key v : Value} (h : entries.get? key = some v)
    (w w' : Value) : (entries.put key w).put key w' = entries.put key w' := by
  induction entries with
  | nil => cases h
  | cons e rest ih =>
      obtain ⟨k, u⟩ := e
      rw [get?_cons] at h
      rw [put_cons, put_cons]
      by_cases hk : Value.sameScalar key k
      · simp [hk, put_cons]
      · rw [if_neg hk] at h
        simp [hk, put_cons, ih h]

theorem put_self {entries : Entries} {key v : Value} (h : entries.get? key = some v) :
    entries.put key v = entries := by
  induction entries with
  | nil => cases h
  | cons e rest ih =>
      obtain ⟨k, u⟩ := e
      rw [get?_cons] at h
      rw [put_cons]
      by_cases hk : Value.sameScalar key k
      · rw [if_pos hk, Option.some.injEq] at h
        rw [if_pos hk, h]
      · rw [if_neg hk] at h
        rw [if_neg hk, ih h]

/-- Changes the map at a path. -/
def within (f : Entries → Entries) : List Value → Entries → Entries
  | [], entries => f entries
  | key :: rest, entries => entries.put key (.map (within f rest (entries.mapUnder key)))

theorem assign_concat (entries : Entries) (path : List Value) (key value : Value) :
    entries.assign (path ++ [key]) value = within (fun es => es.put key value) path entries := by
  induction path generalizing entries with
  | nil => rfl
  | cons first path ih =>
      rw [within, ← ih]
      cases path <;> rfl

theorem within_append (f : Entries → Entries) (path rest : List Value) (entries : Entries) :
    within f (path ++ rest) entries = within (within f rest) path entries := by
  induction path generalizing entries with
  | nil => rfl
  | cons key path ih => rw [List.cons_append, within, ih, within]

theorem exists_map_of_at? {entries inner : Entries} {key : Value} {path : List Value}
    (h : (Value.map entries).at? (key :: path) = some (.map inner)) :
    ∃ es, entries.get? key = some (.map es) ∧ entries.mapUnder key = es ∧
      (Value.map es).at? path = some (.map inner) := by
  obtain ⟨v, hv, hat⟩ := Option.bind_eq_some_iff.1 h
  obtain ⟨es, rfl⟩ := Value.exists_map_of_at? hat
  exact ⟨es, hv, by rw [mapUnder, hv], hat⟩

section Within

variable {entries inner : Entries} {path : List Value}

theorem at?_within (h : (Value.map entries).at? path = some (.map inner))
    (f : Entries → Entries) :
    (Value.map (within f path entries)).at? path = some (.map (f inner)) := by
  induction path generalizing entries with
  | nil =>
      cases h
      rfl
  | cons key path ih =>
      obtain ⟨es, hkey, hunder, hat⟩ := exists_map_of_at? h
      rw [within, hunder, Value.at?_map_cons, get?_put_of_get? hkey]
      exact ih hat

theorem within_congr (h : (Value.map entries).at? path = some (.map inner))
    {f g : Entries → Entries} (hfg : f inner = g inner) :
    within f path entries = within g path entries := by
  induction path generalizing entries with
  | nil =>
      cases h
      exact hfg
  | cons key path ih =>
      obtain ⟨es, hkey, hunder, hat⟩ := exists_map_of_at? h
      rw [within, within, hunder, ih hat]

theorem within_id (h : (Value.map entries).at? path = some (.map inner)) :
    within id path entries = entries := by
  induction path generalizing entries with
  | nil => rfl
  | cons key path ih =>
      obtain ⟨es, hkey, hunder, hat⟩ := exists_map_of_at? h
      rw [within, hunder, ih hat, put_self hkey]

theorem within_within (h : (Value.map entries).at? path = some (.map inner))
    (f g : Entries → Entries) :
    within g path (within f path entries) = within (g ∘ f) path entries := by
  induction path generalizing entries with
  | nil => rfl
  | cons key path ih =>
      obtain ⟨es, hkey, hunder, hat⟩ := exists_map_of_at? h
      have hput := get?_put_of_get? hkey (.map (within f path es))
      rw [within, within, within, hunder, ← ih hat, put_put hkey, mapUnder, hput]

end Within

end Entries

namespace LinkedEntries

theorem toEntries_put (entries : LinkedEntries) (key : Value) (t : Linked) :
    toEntries (entries.put key t) = Entries.put (toEntries entries) key t.toValue := by
  induction entries with
  | nil => rfl
  | cons e rest ih =>
      obtain ⟨k, u⟩ := e
      rw [put_cons, toEntries, Entries.put_cons, ← ih]
      split <;> rfl

theorem toEntries_assignHere (entries : LinkedEntries) (path : List Value) (value : Value) :
    toEntries (entries.assignHere path value) =
      Entries.assign (toEntries entries) path value := by
  induction path generalizing entries with
  | nil => rfl
  | cons key rest ih =>
      cases rest with
      | nil =>
          show toEntries (entries.put key (.ofValue value)) = _
          rw [toEntries_put, Linked.toValue_ofValue]
          rfl
      | cons next rest =>
          rw [assignHere_cons_cons, toEntries_put, Linked.toValue, ih, toEntries_mapUnder]
          rfl

/-- Outside of repeated maps setting a value in place is setting it level by level. -/
theorem toEntries_assign {entries : LinkedEntries} {path : List Value}
    (h : entries.lastMark? path = none) (value : Value) :
    toEntries (entries.assign path value) = Entries.assign (toEntries entries) path value := by
  rw [assign_eq_assignHere h]
  exact toEntries_assignHere entries path value

theorem lastMark?_textPath_eq_none_iff {entries : LinkedEntries} {name next : String}
    {path : List String} : entries.lastMark? (textPath (name :: next :: path)) = none ↔
      (entries.mapUnder (.str name)).1 = none ∧
        (entries.mapUnder (.str name)).2.lastMark? (textPath (next :: path)) = none := by
  show ((entries.mapUnder (.str name)).2.lastMark? (textPath (next :: path))).or
    ((entries.mapUnder (.str name)).1.map fun m => (m, textPath (next :: path))) = none ↔ _
  rw [Option.or_eq_none_iff, Option.map_eq_none_iff, and_comm]

theorem assignHere_textPath (entries : LinkedEntries) (name next : String) (path : List String)
    (value : Value) :
    entries.assignHere (textPath (name :: next :: path)) value =
      entries.put (.str name) (.map (entries.mapUnder (.str name)).1
        ((entries.mapUnder (.str name)).2.assignHere (textPath (next :: path)) value)) := rfl

theorem mapUnder_put_map (entries : LinkedEntries) (name : String) (mark : Option Nat)
    (inner : LinkedEntries) :
    (entries.put (.str name) (.map mark inner)).mapUnder (.str name) = (mark, inner) := by
  rw [mapUnder, get?_put_str]

/-- The map under a key to which a value has been set holds no marks. -/
theorem marks_mapUnder_put_ofValue (entries : LinkedEntries) (name : String) (value : Value) :
    ((entries.put (.str name) (.ofValue value)).mapUnder (.str name)).1 = none ∧
      marks ((entries.put (.str name) (.ofValue value)).mapUnder (.str name)).2 = [] := by
  rw [mapUnder, get?_put_str]
  cases value with
  | map es => exact ⟨rfl, marks_ofEntries es⟩
  | _ => exact ⟨rfl, rfl⟩

/-- Where a value is set outside of repeated maps, no way comes to lead into one. -/
theorem lastMark?_assignHere {entries : LinkedEntries} {place path : List String}
    (hplace : entries.lastMark? (textPath place) = none)
    (hpath : entries.lastMark? (textPath path) = none) (value : Value) :
    (entries.assignHere (textPath place) value).lastMark? (textPath path) = none := by
  induction place generalizing entries path with
  | nil => exact hpath
  | cons name place ih =>
      match path with
      | [] | [_] => rfl
      | name' :: next' :: path =>
          rw [lastMark?_textPath_eq_none_iff] at hpath ⊢
          by_cases hname : name = name'
          · subst hname
            cases place with
            | nil =>
                obtain ⟨hmark, hmarks⟩ := marks_mapUnder_put_ofValue entries name value
                exact ⟨hmark, lastMark?_eq_none_of_marks hmarks _⟩
            | cons next place =>
                rw [lastMark?_textPath_eq_none_iff] at hplace
                rw [assignHere_textPath, mapUnder_put_map]
                exact ⟨hplace.1, ih hplace.2 hpath.2⟩
          · have hother (t : Linked) : (entries.put (.str name) t).mapUnder (.str name') =
                entries.mapUnder (.str name') := by
              have hkey : Value.str name ≠ .str name' := by simpa using hname
              rw [mapUnder, mapUnder, get?_put_of_ne hkey]
            have hassigned : ∃ t, entries.assignHere (textPath (name :: place)) value =
                entries.put (.str name) t := by
              cases place with
              | nil => exact ⟨_, rfl⟩
              | cons next place => exact ⟨_, rfl⟩
            obtain ⟨t, ht⟩ := hassigned
            rw [ht, hother]
            exact hpath

theorem toEntries_foldl_applyInPlace {entries : LinkedEntries} {prefixText : String}
    {vs : List Variable}
    (h : ∀ v ∈ vs, entries.lastMark? (textPath (v.path prefixText)) = none) :
    toEntries (vs.foldl (Variable.applyInPlace prefixText) entries) =
      vs.foldl (Variable.apply prefixText) (toEntries entries) := by
  induction vs generalizing entries with
  | nil => rfl
  | cons v vs ih =>
      rw [List.forall_mem_cons] at h
      have happly : v.applyInPlace prefixText entries =
          entries.assignHere (textPath (v.path prefixText)) v.value :=
        assign_eq_assignHere h.1 v.value
      have hafter : ∀ w ∈ vs, (v.applyInPlace prefixText entries).lastMark?
          (textPath (w.path prefixText)) = none := by
        intro w hw
        rw [happly]
        exact lastMark?_assignHere h.1 (h.2 w hw) v.value
      rw [List.foldl_cons, List.foldl_cons, ih hafter, happly, toEntries_assignHere]
      rfl

/-- Where no variable sets a value inside a repeated map, it makes no difference that maps are
changed in place. -/
theorem toEntries_applyEnvironment_of_unreached {entries : LinkedEntries} {prefixText : String}
    {env : List Variable}
    (h : ∀ v ∈ env, entries.lastMark? (textPath (v.path prefixText)) = none) :
    toEntries (entries.applyEnvironment prefixText env) =
      Settings.applyEnvironment (toEntries entries) prefixText env := by
  apply toEntries_foldl_applyInPlace
  intro v hv
  exact h v (List.mem_mergeSort.1 hv)

theorem toEntries_applyEnvironment {entries : LinkedEntries} (hmarks : marks entries = [])
    (prefixText : String) (env : List Variable) :
    toEntries (entries.applyEnvironment prefixText env) =
      Settings.applyEnvironment (toEntries entries) prefixText env := by
  apply toEntries_applyEnvironment_of_unreached
  intro v _
  exact lastMark?_eq_none_of_marks hmarks _

end LinkedEntries

/-! ## Overrides in place -/

mutual

/-- Whether all places where an override sets something, its own one included, have a property. -/
def Value.SetsIn (P : List Value → Prop) (place : List Value) : Value → Prop
  | .map overrides => P place ∧ Value.EntriesSetIn P place overrides
  | _ => P place

def Value.EntriesSetIn (P : List Value → Prop) (place : List Value) :
    List (Value × Value) → Prop
  | [] => True
  | (key, v) :: rest => v.SetsIn P (place ++ [key]) ∧ Value.EntriesSetIn P place rest

end

theorem Value.SetsIn.here {P : List Value → Prop} {place : List Value} {v : Value}
    (h : v.SetsIn P place) : P place := by
  cases v with
  | map overrides => exact h.1
  | _ => exact h

mutual

theorem Value.setsIn_of_forall {P : List Value → Prop} (h : ∀ place, P place) (v : Value)
    (place : List Value) : v.SetsIn P place := by
  cases v with
  | map overrides => exact ⟨h place, Value.entriesSetIn_of_forall h overrides place⟩
  | _ => exact h place

theorem Value.entriesSetIn_of_forall {P : List Value → Prop} (h : ∀ place, P place)
    (overrides : List (Value × Value)) (place : List Value) :
    Value.EntriesSetIn P place overrides := by
  cases overrides with
  | nil => trivial
  | cons e rest =>
      exact ⟨Value.setsIn_of_forall h e.2 _, Value.entriesSetIn_of_forall h rest place⟩

end

namespace LinkedEntries

/-- Whether entries stay in a class when values are set at certain places, none of which lies in a
repeated map of entries of this class. -/
structure Unshared (P : List Value → Prop) (Class : LinkedEntries → Prop) : Prop where
  lastMark?_eq_none {entries : LinkedEntries} {place : List Value} (hclass : Class entries)
    (hplace : P place) : entries.lastMark? place = none
  assign {entries : LinkedEntries} {place : List Value} (hclass : Class entries)
    (hplace : P place) (v : Value) : Class (entries.assign place v)

theorem unshared_of_marks_eq_nil : Unshared (fun _ => True) fun entries => marks entries = [] where
  lastMark?_eq_none hmarks _ := lastMark?_eq_none_of_marks hmarks _
  assign hmarks _ v := by
    have hsingle : (Linked.map none _).Single [] := hmarks
    exact along_assign Linked.kept_marks hsingle _ v

namespace Unshared

variable {P : List Value → Prop} {Class : LinkedEntries → Prop}

mutual

theorem overrideAt (h : Unshared P Class) (v : Value) {entries : LinkedEntries}
    (hclass : Class entries) {place : List Value} (hv : v.SetsIn P place) :
    Class (overrideAt place entries v) := by
  cases v with
  | map overrides =>
      rw [LinkedEntries.overrideAt]
      split
      · exact h.mergeAt overrides hclass hv.2
      · exact h.assign hclass hv.here _
  | _ => exact h.assign hclass hv.here _

theorem mergeAt (h : Unshared P Class) (overrides : List (Value × Value))
    {entries : LinkedEntries} (hclass : Class entries) {place : List Value}
    (hv : Value.EntriesSetIn P place overrides) : Class (mergeAt place entries overrides) := by
  cases overrides with
  | nil => exact hclass
  | cons e rest => exact h.mergeAt rest (h.overrideAt e.2 hclass hv.1) hv.2

end

theorem toEntries_overrideAt_of_not_map (h : Unshared P Class) {entries : LinkedEntries}
    (hclass : Class entries) {v : Value} (hmap : ∀ es, v ≠ .map es) {place : List Value}
    {key : Value} (hplace : P (place ++ [key])) :
    toEntries (LinkedEntries.overrideAt (place ++ [key]) entries v) =
      Entries.within (fun es => es.put key (overrideValue v (es.get? key))) place
        (toEntries entries) := by
  rw [overrideAt_of_not_map hmap, toEntries_assign (h.lastMark?_eq_none hclass hplace),
    Entries.assign_concat]
  cases v with
  | map overrides => exact absurd rfl (hmap overrides)
  | _ => rfl

mutual

/-- An override at a key changes the map in which the key is. -/
theorem toEntries_overrideAt (h : Unshared P Class) (v : Value) {entries : LinkedEntries}
    (hclass : Class entries) {place : List Value} {inner : Entries}
    (hat : (Value.map (toEntries entries)).at? place = some (.map inner)) (key : Value)
    (hv : v.SetsIn P (place ++ [key])) :
    toEntries (LinkedEntries.overrideAt (place ++ [key]) entries v) =
      Entries.within (fun es => es.put key (overrideValue v (es.get? key))) place
        (toEntries entries) := by
  cases v with
  | map overrides =>
      rw [LinkedEntries.overrideAt]
      split
      · rename_i hmap
        obtain ⟨es, hes⟩ := isMapAt_iff.1 hmap
        obtain ⟨inner', hinner, hkey⟩ := Value.at?_concat_eq_some_iff.1 hes
        rw [h.toEntries_mergeAt overrides hclass hes hv.2, Entries.within_append]
        apply Entries.within_congr hinner
        rw [hkey, overrideValue, Entries.within, Entries.within, Entries.mapUnder, hkey]
      · rename_i hmap
        rw [toEntries_assign (h.lastMark?_eq_none hclass hv.here), Entries.assign_concat]
        apply Entries.within_congr hat
        have hvalue : overrideValue (.map overrides) (inner.get? key) = .map overrides := by
          cases hkey : inner.get? key with
          | none => rfl
          | some u =>
              cases u with
              | map es =>
                  have hmapAt := Value.at?_concat_eq_some_iff.2 ⟨inner, hat, hkey⟩
                  exact absurd (isMapAt_iff.2 ⟨es, hmapAt⟩) hmap
              | _ => rfl
        rw [hvalue]
  | _ => exact h.toEntries_overrideAt_of_not_map hclass (by simp) hv
termination_by structural v

theorem toEntries_mergeAt (h : Unshared P Class) (overrides : List (Value × Value))
    {entries : LinkedEntries} (hclass : Class entries) {place : List Value} {inner : Entries}
    (hat : (Value.map (toEntries entries)).at? place = some (.map inner))
    (hv : Value.EntriesSetIn P place overrides) :
    toEntries (LinkedEntries.mergeAt place entries overrides) =
      Entries.within (mergeEntries overrides) place (toEntries entries) := by
  cases overrides with
  | nil => exact (Entries.within_id hat).symm
  | cons e rest =>
      obtain ⟨key, v⟩ := e
      have hfirst := h.toEntries_overrideAt v hclass hat key hv.1
      have hinner : (Value.map (toEntries (LinkedEntries.overrideAt (place ++ [key]) entries
          v))).at? place = some (.map (inner.put key (overrideValue v (inner.get? key)))) := by
        rw [hfirst]
        exact Entries.at?_within hat _
      rw [LinkedEntries.mergeAt,
        h.toEntries_mergeAt rest (h.overrideAt v hclass hv.1) hinner hv.2, hfirst,
        Entries.within_within hat]
      rfl
termination_by structural overrides

end

end Unshared

theorem toEntries_mergeOverrides {entries : LinkedEntries} (hmarks : marks entries = [])
    (overrides : Value) :
    toEntries (entries.mergeOverrides overrides) =
      Settings.mergeOverrides (toEntries entries) overrides := by
  apply unshared_of_marks_eq_nil.toEntries_mergeAt (overridesOf overrides) hmarks (Value.at?_nil _)
  exact Value.entriesSetIn_of_forall (fun _ ↦ trivial) _ _

end LinkedEntries

/-- On top of a file without repeated maps the environment is applied to the entries of the file,
and the overrides are merged into what results. -/
theorem Origin.overlay_of_marks_eq_nil (o : Origin) {file : LinkedEntries}
    (hmarks : LinkedEntries.marks file = []) (hnonempty : o.envPrefix ≠ "") :
    o.overlay file =
      mergeOverrides (applyEnvironment (LinkedEntries.toEntries file) o.envPrefix o.env)
        o.overrides := by
  have hsingle : (Linked.map none file).Single [] := hmarks
  have hmarks' : LinkedEntries.marks (file.applyEnvironment o.envPrefix o.env) = [] :=
    LinkedEntries.along_foldl_applyInPlace Linked.kept_marks hsingle (sortVariables o.env)
  rw [overlay, withEnvironment, if_neg (by simpa using hnonempty),
    LinkedEntries.toEntries_mergeOverrides hmarks', LinkedEntries.toEntries_applyEnvironment hmarks]

end Settings
