import Settings.Proofs.Overlay.Specificity

/-!
# Merging level by level

Overrides are merged into a configuration as one expects of nested maps: where they hold a value it
wins, where they hold a map the keys of both sides are there, and everything else stays.  Merging
them a second time changes nothing.  A map that the configuration repeats must not be among those
that are merged into, since it is changed in all its places.
-/

namespace Settings

namespace Value

mutual

/-- Whether all keys in the maps that a value is made of are texts. -/
def TextKeyed : Value → Prop
  | .map entries => EntriesTextKeyed entries
  | _ => True

def EntriesTextKeyed : List (Value × Value) → Prop
  | [] => True
  | (key, v) :: rest => (∃ name, key = .str name) ∧ v.TextKeyed ∧ EntriesTextKeyed rest

end

/-- The entries of the map at a path; without a map there are none. -/
def entriesAt (v : Value) (path : List Value) : Entries :=
  match v.at? path with
  | some (.map entries) => entries
  | _ => []

theorem not_map_at? {v : Value} (h : ∀ entries, v ≠ .map entries) {path : List Value}
    (hpath : path ≠ []) : v.at? path = none := by
  obtain ⟨key, rest, rfl⟩ := List.exists_cons_of_ne_nil hpath
  cases v with
  | map entries => exact absurd rfl (h entries)
  | _ => rfl

end Value

open Value (TextKeyed EntriesTextKeyed KeysDistinct EntriesDistinct)

@[simp] theorem overrideValue_none (v : Value) : overrideValue v none = v := by
  cases v <;> rfl

theorem overrideValue_of_not_map {v : Value} (h : ∀ entries, v ≠ .map entries)
    (below : Option Value) : overrideValue v below = v := by
  cases v with
  | map entries => exact absurd rfl (h entries)
  | _ => rfl

theorem overrideValue_map_of_not_map {below : Option Value}
    (h : ∀ entries, below ≠ some (.map entries)) (overrides : Entries) :
    overrideValue (.map overrides) below = .map overrides := by
  match below with
  | none => rfl
  | some (.map entries) => exact absurd rfl (h entries)
  | some .null | some (.bool _) | some (.int _) | some (.float _) | some (.str _)
  | some (.duration _) | some (.list _) | some (.date _) | some (.moment _) | some (.bytes _)
  | some (.set _) => rfl

namespace Entries

theorem get?_eq_none_of_forall {entries : Entries} {key : Value}
    (h : ∀ e ∈ entries, key.sameScalar e.1 = false) : entries.get? key = none := by
  induction entries with
  | nil => rfl
  | cons e rest ih =>
      rw [List.forall_mem_cons] at h
      rw [get?_cons, h.1, if_neg Bool.false_ne_true]
      exact ih h.2

theorem key_ne_of_mem {entries : Entries} {name : String}
    (h : ∀ e ∈ entries, (Value.str name).sameScalar e.1 = false) {e : Value × Value}
    (he : e ∈ entries) : e.1 ≠ .str name := by
  intro heq
  have hsame := h e he
  rw [heq, Value.sameScalar_str, beq_self_eq_true] at hsame
  cases hsame

theorem get?_eq_some_of_mem {entries : Entries} (htext : EntriesTextKeyed entries)
    (hdistinct : EntriesDistinct entries) {e : Value × Value} (he : e ∈ entries) :
    entries.get? e.1 = some e.2 := by
  induction entries with
  | nil => cases he
  | cons first rest ih =>
      obtain ⟨key, v⟩ := first
      obtain ⟨⟨name, rfl⟩, -, htext⟩ := htext
      obtain ⟨hother, -, hdistinct⟩ := hdistinct
      rcases List.mem_cons.1 he with rfl | hrest
      · simp
      · have hne : ¬ e.1.sameScalar (.str name) = true := by
          rw [Value.sameScalar_str_right_eq_true_iff]
          exact key_ne_of_mem hother hrest
        rw [get?_cons, if_neg hne]
        exact ih htext hdistinct hrest

end Entries

/-- Under each key there is what the override makes of the value that was there, and without an
override what was there. -/
theorem get?_mergeEntries {overrides : Entries} (htext : EntriesTextKeyed overrides)
    (hdistinct : EntriesDistinct overrides) (entries : Entries) (key : Value) :
    Entries.get? (mergeEntries overrides entries) key =
      match Entries.get? overrides key with
      | some v => some (overrideValue v (entries.get? key))
      | none => entries.get? key := by
  induction overrides generalizing entries with
  | nil => rfl
  | cons e rest ih =>
      obtain ⟨k, v⟩ := e
      obtain ⟨⟨name, rfl⟩, -, htext⟩ := htext
      obtain ⟨hother, -, hdistinct⟩ := hdistinct
      rw [mergeEntries, ih htext hdistinct, Entries.get?_cons]
      by_cases hkey : key = .str name
      · subst hkey
        have hself : Value.sameScalar (.str name) (.str name) = true := by simp
        rw [Entries.get?_eq_none_of_forall hother, Entries.get?_put_self hself, if_pos hself]
      · have hne : ¬ key.sameScalar (.str name) = true := by
          rwa [Value.sameScalar_str_right_eq_true_iff]
        rw [Entries.get?_put_str_of_ne hkey, if_neg hne]

theorem textKeyed_of_get? {entries : Entries} {key v : Value} (h : entries.get? key = some v)
    (htext : EntriesTextKeyed entries) : v.TextKeyed := by
  induction entries with
  | nil => cases h
  | cons e rest ih =>
      obtain ⟨-, hv, hrest⟩ := htext
      rw [Entries.get?_cons] at h
      split at h
      · cases h
        exact hv
      · exact ih h hrest

theorem keysDistinct_of_get? {entries : Entries} {key v : Value} (h : entries.get? key = some v)
    (hdistinct : EntriesDistinct entries) : v.KeysDistinct := by
  induction entries with
  | nil => cases h
  | cons e rest ih =>
      obtain ⟨-, hv, hrest⟩ := hdistinct
      rw [Entries.get?_cons] at h
      split at h
      · cases h
        exact hv
      · exact ih h hrest

theorem wellKeyed_of_at? {v w : Value} {path : List Value} (htext : v.TextKeyed)
    (hdistinct : v.KeysDistinct) (h : v.at? path = some w) : w.TextKeyed ∧ w.KeysDistinct := by
  induction path generalizing v with
  | nil =>
      rw [Value.at?_nil, Option.some.injEq] at h
      subst h
      exact ⟨htext, hdistinct⟩
  | cons key path ih =>
      cases v with
      | map entries =>
          obtain ⟨u, hu, hw⟩ := Option.bind_eq_some_iff.1 h
          exact ih (textKeyed_of_get? hu htext) (keysDistinct_of_get? hu hdistinct) hw
      | _ => cases h

theorem bind_at?_cons_of_not_map {below : Option Value}
    (h : ∀ entries, below ≠ some (.map entries)) (key : Value) (rest : List Value) :
    (below.bind fun w => w.at? (key :: rest)) = none := by
  cases below with
  | none => rfl
  | some w => exact Value.not_map_at? (fun entries heq ↦ h entries (congrArg some heq)) (by simp)

section

variable {v u : Value} {path : List Value}

/-- Where overrides hold a value they override what is there. -/
theorem at?_overrideValue (htext : v.TextKeyed) (hdistinct : v.KeysDistinct)
    (h : v.at? path = some u) (below : Option Value) :
    (overrideValue v below).at? path =
      some (overrideValue u (below.bind fun w => w.at? path)) := by
  induction path generalizing v below with
  | nil =>
      rw [Value.at?_nil, Option.some.injEq] at h
      subst h
      simp
  | cons key path ih =>
      cases v with
      | map overrides =>
          obtain ⟨w, hw, hu⟩ := Option.bind_eq_some_iff.1 h
          by_cases hbelow : ∃ entries, below = some (.map entries)
          · obtain ⟨entries, rfl⟩ := hbelow
            rw [overrideValue, Value.at?_map_cons, get?_mergeEntries htext hdistinct, hw]
            exact ih (textKeyed_of_get? hw htext) (keysDistinct_of_get? hw hdistinct) hu _
          · rw [not_exists] at hbelow
            rw [overrideValue_map_of_not_map hbelow, h, bind_at?_cons_of_not_map hbelow,
              overrideValue_none]
      | _ => cases h

/-- Where overrides come to a missing key what is there stays. -/
theorem at?_overrideValue_of_lacks (htext : v.TextKeyed) (hdistinct : v.KeysDistinct)
    (h : v.Lacks path) (below : Option Value) :
    (overrideValue v below).at? path = below.bind fun w => w.at? path := by
  induction path generalizing v below with
  | nil => cases v <;> cases h
  | cons key path ih =>
      cases v with
      | map overrides =>
          by_cases hbelow : ∃ entries, below = some (.map entries)
          · obtain ⟨entries, rfl⟩ := hbelow
            rw [overrideValue, Value.at?_map_cons, get?_mergeEntries htext hdistinct]
            cases hw : Entries.get? overrides key with
            | none => rfl
            | some w =>
                exact ih (textKeyed_of_get? hw htext) (keysDistinct_of_get? hw hdistinct)
                  (h w hw) _
          · rw [not_exists] at hbelow
            rw [overrideValue_map_of_not_map hbelow, h.at?_eq_none, bind_at?_cons_of_not_map hbelow]
      | _ => cases h

end

/-! ## The order of keys -/

namespace Entries

theorem hasKey_eq_any (entries : Entries) (key : Value) :
    entries.hasKey key = (entries.map Prod.fst).any (key.sameScalar ·) := by
  rw [hasKey, List.any_map]
  rfl

/-- A key that is there keeps its place, and a new one comes last. -/
theorem map_fst_put (entries : Entries) (name : String) (v : Value) :
    (entries.put (.str name) v).map Prod.fst =
      if entries.hasKey (.str name) then entries.map Prod.fst
      else entries.map Prod.fst ++ [.str name] := by
  induction entries with
  | nil => rfl
  | cons e rest ih =>
      obtain ⟨k, w⟩ := e
      rw [put_cons, hasKey_eq_any, List.map_cons, List.any_cons, ← hasKey_eq_any]
      cases hk : Value.sameScalar (.str name) k with
      | true => simp
      | false =>
          rw [if_neg Bool.false_ne_true, List.map_cons, ih, Bool.false_or]
          split <;> rfl

theorem hasKey_put_of_ne {key : Value} {name : String} (h : key ≠ .str name) (entries : Entries)
    (v : Value) : (entries.put (.str name) v).hasKey key = entries.hasKey key := by
  have hne : key.sameScalar (.str name) = false := by
    rw [Bool.eq_false_iff, ne_eq, Value.sameScalar_str_right_eq_true_iff]
    exact h
  rw [hasKey_eq_any, map_fst_put]
  split <;> simp [hasKey_eq_any, hne]

end Entries

/-- Overrides keep the order of the keys that are there, and the keys that they add come behind
these in their own order. -/
theorem map_fst_mergeEntries {overrides : Entries} (htext : EntriesTextKeyed overrides)
    (hdistinct : EntriesDistinct overrides) (entries : Entries) :
    (mergeEntries overrides entries).map Prod.fst =
      entries.map Prod.fst ++ (overrides.map Prod.fst).filter fun key => !entries.hasKey key := by
  induction overrides generalizing entries with
  | nil => simp [mergeEntries]
  | cons e rest ih =>
      obtain ⟨k, v⟩ := e
      obtain ⟨⟨name, rfl⟩, -, htext⟩ := htext
      obtain ⟨hother, -, hdistinct⟩ := hdistinct
      have hlater (w : Value) : (rest.map Prod.fst).filter (fun key =>
          !(entries.put (.str name) w).hasKey key) =
            (rest.map Prod.fst).filter fun key => !entries.hasKey key := by
        apply List.filter_congr
        intro key hkey
        obtain ⟨e, he, rfl⟩ := List.mem_map.1 hkey
        rw [Entries.hasKey_put_of_ne (Entries.key_ne_of_mem hother he)]
      rw [mergeEntries, ih htext hdistinct, hlater, Entries.map_fst_put, List.map_cons,
        List.filter_cons]
      cases entries.hasKey (.str name) <;> simp

/-! ## Merging the same overrides again -/

/-- Overrides that have settled already change nothing. -/
theorem mergeEntries_of_settled {overrides entries : Entries}
    (h : ∀ e ∈ overrides, ∃ w, entries.get? e.1 = some w ∧ overrideValue e.2 (some w) = w) :
    mergeEntries overrides entries = entries := by
  induction overrides with
  | nil => rfl
  | cons e rest ih =>
      obtain ⟨key, v⟩ := e
      rw [List.forall_mem_cons] at h
      obtain ⟨⟨w, hw, hsettled⟩, hrest⟩ := h
      rw [mergeEntries, hw, hsettled, Entries.put_self hw]
      exact ih hrest

mutual

/-- A value that overrides what it has made of another one changes nothing. -/
theorem overrideValue_overrideValue (v : Value) (htext : v.TextKeyed) (hdistinct : v.KeysDistinct)
    (below : Option Value) :
    overrideValue v (some (overrideValue v below)) = overrideValue v below := by
  cases v with
  | map overrides =>
      by_cases hbelow : ∃ entries, below = some (.map entries)
      · obtain ⟨entries, rfl⟩ := hbelow
        show Value.map (mergeEntries overrides (mergeEntries overrides entries)) = _
        congr 1
        apply mergeEntries_of_settled
        intro e he
        refine ⟨overrideValue e.2 (Entries.get? entries e.1), ?_, ?_⟩
        · rw [get?_mergeEntries htext hdistinct,
            Entries.get?_eq_some_of_mem htext hdistinct he]
        · exact overrideValue_overrideValue_of_mem overrides htext hdistinct e he _
      · rw [not_exists] at hbelow
        rw [overrideValue_map_of_not_map hbelow]
        show Value.map (mergeEntries overrides overrides) = _
        congr 1
        apply mergeEntries_of_settled
        intro e he
        refine ⟨e.2, Entries.get?_eq_some_of_mem htext hdistinct he, ?_⟩
        have hagain := overrideValue_overrideValue_of_mem overrides htext hdistinct e he none
        rwa [overrideValue_none] at hagain
  | _ => rfl

theorem overrideValue_overrideValue_of_mem (overrides : List (Value × Value))
    (htext : EntriesTextKeyed overrides) (hdistinct : EntriesDistinct overrides)
    (e : Value × Value) (he : e ∈ overrides) (below : Option Value) :
    overrideValue e.2 (some (overrideValue e.2 below)) = overrideValue e.2 below := by
  cases overrides with
  | nil => cases he
  | cons first rest =>
      obtain ⟨key, v⟩ := first
      rcases List.mem_cons.1 he with rfl | he
      · exact overrideValue_overrideValue v htext.2.1 hdistinct.2.1 below
      · exact overrideValue_overrideValue_of_mem rest htext.2.2 hdistinct.2.2 e he below

end

theorem mergeEntries_mergeEntries {overrides : Entries} (htext : EntriesTextKeyed overrides)
    (hdistinct : EntriesDistinct overrides) (entries : Entries) :
    mergeEntries overrides (mergeEntries overrides entries) = mergeEntries overrides entries := by
  have hagain := overrideValue_overrideValue (.map overrides) htext hdistinct (some (.map entries))
  exact Value.map.inj hagain

/-! ## Overrides in place -/

mutual

/-- What overrides with texts as keys set lies on the paths on which they hold something. -/
theorem setsIn_of_textKeyed {P : List Value → Prop} (v : Value) (htext : v.TextKeyed)
    (hdistinct : v.KeysDistinct) {place : List Value}
    (h : ∀ path : List String, (v.at? (textPath path)).isSome → P (place ++ textPath path)) :
    v.SetsIn P place := by
  have hplace : P place := by
    have hroot := h [] (by simp)
    rwa [textPath_nil, List.append_nil] at hroot
  cases v with
  | map overrides => exact ⟨hplace, entriesSetIn_of_textKeyed overrides htext hdistinct h⟩
  | _ => exact hplace
termination_by structural v

theorem entriesSetIn_of_textKeyed {P : List Value → Prop} (overrides : List (Value × Value))
    (htext : EntriesTextKeyed overrides) (hdistinct : EntriesDistinct overrides)
    {place : List Value}
    (h : ∀ path : List String, ((Value.map overrides).at? (textPath path)).isSome →
      P (place ++ textPath path)) :
    Value.EntriesSetIn P place overrides := by
  cases overrides with
  | nil => trivial
  | cons e rest =>
      obtain ⟨⟨name, hname⟩, hv, hrest⟩ := htext
      obtain ⟨hother, hvdistinct, hrestDistinct⟩ := hdistinct
      constructor
      · apply setsIn_of_textKeyed e.2 hv hvdistinct
        intro path hpath
        have hbelow := h (name :: path) (by
          rw [textPath_cons, Value.at?_map_cons, Entries.get?_cons, hname]
          simpa using hpath)
        rw [hname, List.append_assoc]
        exact hbelow
      · apply entriesSetIn_of_textKeyed rest hrest hrestDistinct
        intro path hpath
        apply h
        cases path with
        | nil => rfl
        | cons next path =>
            rw [textPath_cons, Value.at?_map_cons, Entries.get?_cons, if_neg]
            · exact hpath
            · intro hsame
              -- The first key is found before the others, so none of them is this one.
              have hkey := Value.sameScalar_str_eq_true_iff.1 hsame
              rw [hkey] at hother
              rw [textPath_cons, Value.at?_map_cons, Entries.get?_eq_none_of_forall hother] at hpath
              cases hpath
termination_by structural overrides

end

namespace LinkedEntries

/-- Values that are set at paths of texts outside of repeated maps leave no way that leads into
one. -/
theorem unshared_of_lastMark?_eq_none (base : LinkedEntries) :
    Unshared (fun place => ∃ path, place = textPath path ∧ base.lastMark? place = none)
      fun entries => ∀ path, base.lastMark? (textPath path) = none →
        entries.lastMark? (textPath path) = none where
  lastMark?_eq_none := by
    rintro entries _ hclass ⟨path, rfl, hpath⟩
    exact hclass path hpath
  assign := by
    rintro entries _ hclass ⟨place, rfl, hplace⟩ v path hpath
    rw [assign_eq_assignHere (hclass place hplace)]
    exact lastMark?_assignHere (hclass place hplace) (hclass path hpath) v

section

variable {base : LinkedEntries} {overrides : Entries}

theorem entriesSetIn_of_unreached (htext : (Value.map overrides).TextKeyed)
    (hdistinct : (Value.map overrides).KeysDistinct)
    (h : ∀ path : List String, ((Value.map overrides).at? (textPath path)).isSome →
      base.lastMark? (textPath path) = none) :
    Value.EntriesSetIn (fun place => ∃ path, place = textPath path ∧
      base.lastMark? place = none) [] overrides := by
  apply entriesSetIn_of_textKeyed overrides htext hdistinct
  intro path hpath
  exact ⟨path, rfl, h path hpath⟩

/-- Where no override has to do with the inside of a repeated map, it makes no difference that
maps are merged in place, not even if the same overrides are merged again. -/
theorem toEntries_mergeOverrides_of_unreached (htext : (Value.map overrides).TextKeyed)
    (hdistinct : (Value.map overrides).KeysDistinct)
    (h : ∀ path : List String, ((Value.map overrides).at? (textPath path)).isSome →
      base.lastMark? (textPath path) = none) :
    toEntries (base.mergeOverrides (.map overrides)) =
        mergeEntries overrides (toEntries base) ∧
      toEntries ((base.mergeOverrides (.map overrides)).mergeOverrides (.map overrides)) =
        mergeEntries overrides (mergeEntries overrides (toEntries base)) := by
  have hunshared := unshared_of_lastMark?_eq_none base
  have hplaces := entriesSetIn_of_unreached htext hdistinct h
  have hbase : ∀ path, base.lastMark? (textPath path) = none →
      base.lastMark? (textPath path) = none := fun _ hpath ↦ hpath
  have honce : toEntries (base.mergeOverrides (.map overrides)) =
      mergeEntries overrides (toEntries base) :=
    hunshared.toEntries_mergeAt overrides hbase (Value.at?_nil _) hplaces
  refine ⟨honce, ?_⟩
  rw [← honce]
  exact hunshared.toEntries_mergeAt overrides (hunshared.mergeAt overrides hbase hplaces)
    (Value.at?_nil _) hplaces

end

end LinkedEntries

/-! ## The deep merge -/

/-- What the merge of overrides with a configuration holds: their values where they hold any, what
was there where they come to a missing key, and nothing below their values.  Where they hold a map
there is a map, with the keys that were there and behind these the keys that they add. -/
structure IsDeepMerge (overrides base result : Entries) : Prop where
  wins {path : List Value} {v : Value} (h : (Value.map overrides).at? path = some v)
    (hmap : ∀ entries, v ≠ .map entries) : (Value.map result).at? path = some v
  keeps {path : List Value} (h : (Value.map overrides).Lacks path) :
    (Value.map result).at? path = (Value.map base).at? path
  hides {path rest : List Value} {v : Value} (h : (Value.map overrides).at? path = some v)
    (hmap : ∀ entries, v ≠ .map entries) (hrest : rest ≠ []) :
    (Value.map result).at? (path ++ rest) = none
  keys {path : List Value} {inner : Entries}
    (h : (Value.map overrides).at? path = some (.map inner)) :
    ∃ merged, (Value.map result).at? path = some (.map merged) ∧
      merged.map Prod.fst = ((Value.map base).entriesAt path).map Prod.fst ++
        (inner.map Prod.fst).filter fun key => !((Value.map base).entriesAt path).hasKey key

theorem isDeepMerge_mergeEntries {overrides : Entries} (htext : (Value.map overrides).TextKeyed)
    (hdistinct : (Value.map overrides).KeysDistinct) (base : Entries) :
    IsDeepMerge overrides base (mergeEntries overrides base) where
  wins {path v} h hmap := by
    have hat := at?_overrideValue htext hdistinct h (some (.map base))
    rwa [overrideValue_of_not_map hmap] at hat
  keeps h := at?_overrideValue_of_lacks htext hdistinct h (some (.map base))
  hides {path rest v} h hmap hrest := by
    have hat := at?_overrideValue htext hdistinct h (some (.map base))
    rw [overrideValue_of_not_map hmap] at hat
    rw [Value.at?_append]
    show ((overrideValue (.map overrides) (some (.map base))).at? path).bind _ = none
    rw [hat]
    exact Value.not_map_at? hmap hrest
  keys {path inner} h := by
    have hat := at?_overrideValue htext hdistinct h (some (.map base))
    obtain ⟨hinner, hinnerDistinct⟩ := wellKeyed_of_at? htext hdistinct h
    rw [Value.entriesAt]
    by_cases hbase : ∃ entries, (Value.map base).at? path = some (.map entries)
    · obtain ⟨entries, hentries⟩ := hbase
      rw [Option.bind_some, hentries] at hat
      rw [hentries]
      exact ⟨mergeEntries inner entries, hat, map_fst_mergeEntries hinner hinnerDistinct entries⟩
    · rw [not_exists] at hbase
      rw [Option.bind_some, overrideValue_map_of_not_map hbase] at hat
      refine ⟨inner, hat, ?_⟩
      split
      · rename_i entries hentries
        exact absurd hentries (hbase entries)
      · simp [Entries.hasKey]

namespace LinkedEntries

/-- As long as no override has to do with the inside of a map that the configuration repeats,
merging is the deep merge in which overrides win, and merging the same overrides again changes
neither values nor the order of keys. -/
theorem mergeOverrides_isDeepMerge {base : LinkedEntries} {overrides : Entries}
    (htext : (Value.map overrides).TextKeyed) (hdistinct : (Value.map overrides).KeysDistinct)
    (hunreached : ∀ path : List String, ((Value.map overrides).at? (textPath path)).isSome →
      base.lastMark? (textPath path) = none) :
    IsDeepMerge overrides (toEntries base) (toEntries (base.mergeOverrides (.map overrides))) ∧
      toEntries ((base.mergeOverrides (.map overrides)).mergeOverrides (.map overrides)) =
        toEntries (base.mergeOverrides (.map overrides)) := by
  obtain ⟨honce, htwice⟩ := toEntries_mergeOverrides_of_unreached htext hdistinct hunreached
  constructor
  · rw [honce]
    exact isDeepMerge_mergeEntries htext hdistinct (toEntries base)
  · rw [htwice, honce]
    exact mergeEntries_mergeEntries htext hdistinct (toEntries base)

/-- Two limits, and a section in two places. -/
def pooledEntries : LinkedEntries :=
  let pool : Linked := .map (some 0) [(.str "size", .ofValue (.int 4))]
  [(.str "pool", pool), (.str "spare", pool),
    (.str "limits", .map none [(.str "rate", .ofValue (.int 5)), (.str "burst", .ofValue .null)])]

/-- A new limit in front of one that is there, and a text in place of one of the sections. -/
def limitOverrides : Entries :=
  [(.str "limits", .map [(.str "depth", .int 3), (.str "rate", .int 7)]), (.str "spare", .str "no")]

theorem mergeOverrides_isDeepMerge_limitOverrides :
    (∀ path : List String, ((Value.map limitOverrides).at? (textPath path)).isSome →
        pooledEntries.lastMark? (textPath path) = none) ∧
      (Value.map (toEntries (pooledEntries.mergeOverrides (.map limitOverrides)))).at?
        (textPath ["limits", "rate"]) = some (.int 7) ∧
      (Value.map (toEntries (pooledEntries.mergeOverrides (.map limitOverrides)))).at?
        (textPath ["pool", "size"]) = some (.int 4) ∧
      ∃ merged, (Value.map (toEntries (pooledEntries.mergeOverrides (.map limitOverrides)))).at?
          (textPath ["limits"]) = some (.map merged) ∧
        merged.map Prod.fst = textPath ["rate", "burst", "depth"] := by
  have htext : (Value.map limitOverrides).TextKeyed := by
    simp [limitOverrides, TextKeyed, EntriesTextKeyed]
  have hdistinct : (Value.map limitOverrides).KeysDistinct := by
    simp [limitOverrides, KeysDistinct, EntriesDistinct]
  have hunreached : ∀ path : List String,
      ((Value.map limitOverrides).at? (textPath path)).isSome →
        pooledEntries.lastMark? (textPath path) = none := by
    intro path hpath
    rcases path with _ | ⟨name, _ | ⟨next, path⟩⟩
    · rfl
    · rfl
    · by_cases hname : name = "limits"
      · subst hname
        rw [lastMark?_textPath_eq_none_iff]
        exact ⟨rfl, lastMark?_eq_none_of_marks rfl _⟩
      · by_cases hspare : name = "spare"
        · subst hspare
          cases hpath
        · simp [limitOverrides, Entries.get?_cons, hname, hspare] at hpath
  obtain ⟨hmerge, -⟩ := mergeOverrides_isDeepMerge htext hdistinct hunreached
  refine ⟨hunreached, hmerge.wins rfl (by simp), ?_, ?_⟩
  · rw [hmerge.keeps (by simp [limitOverrides, Value.Lacks, Entries.get?_cons])]
    rfl
  · have hlimits : (Value.map limitOverrides).at? (textPath ["limits"]) =
        some (.map [(.str "depth", .int 3), (.str "rate", .int 7)]) := rfl
    obtain ⟨merged, hat, hkeys⟩ := hmerge.keys hlimits
    exact ⟨merged, hat, hkeys⟩

/-- A new value in one of the places of the section that the file repeats. -/
def repeatedOverride : Entries := [(.str "a", .map [(.str "k", .int 10)])]

/-- Inside a repeated map an override is seen in places which the overrides do not have. -/
theorem not_isDeepMerge_repeatedSection :
    ∃ file, repeatedSection.fileEntries = .ok file ∧ (Value.map repeatedOverride).TextKeyed ∧
      (Value.map repeatedOverride).KeysDistinct ∧
      (Value.map repeatedOverride).Lacks (textPath ["b", "k"]) ∧
      (Value.map (toEntries file)).at? (textPath ["b", "k"]) = some (.int 1) ∧
      (Value.map (toEntries (file.mergeOverrides (.map repeatedOverride)))).at?
        (textPath ["b", "k"]) = some (.int 10) ∧
      ¬ IsDeepMerge repeatedOverride (toEntries file)
        (toEntries (file.mergeOverrides (.map repeatedOverride))) := by
  obtain ⟨file, hfile, hbefore, hafter⟩ :
      ∃ file, repeatedSection.fileEntries = .ok file ∧
        (Value.map (toEntries file)).at? (textPath ["b", "k"]) = some (.int 1) ∧
        (Value.map (toEntries (file.mergeOverrides (.map repeatedOverride)))).at?
          (textPath ["b", "k"]) = some (.int 10) := by
    decide +kernel
  have hlacks : (Value.map repeatedOverride).Lacks (textPath ["b", "k"]) := by
    simp [repeatedOverride, Value.Lacks, Entries.get?_cons]
  refine ⟨file, hfile, ?_, ?_, hlacks, hbefore, hafter, ?_⟩
  · simp [repeatedOverride, TextKeyed, EntriesTextKeyed]
  · simp [repeatedOverride, KeysDistinct, EntriesDistinct]
  · intro hmerge
    have hkept := hmerge.keeps hlacks
    rw [hbefore, hafter] at hkept
    simp at hkept

end LinkedEntries

end Settings
