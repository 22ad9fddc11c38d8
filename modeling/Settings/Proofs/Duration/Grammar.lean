import Mathlib.Data.List.Basic
import Settings.Proofs.Duration.Sum

/-!
# The grammar of duration literals

A term is an amount with digits before or after the point and a unit in one of its spellings; a
body is a sequence of terms.  A text that the grammar gives to a sequence of terms is read as just
these terms: digits and units are told apart by their characters, and the one unit that begins
another one is never followed by the letter that would make it the longer one.
-/

namespace Settings.Duration

open Text

/-- The spellings of a unit. -/
def TimeUnit.spellings : TimeUnit → List (List Char)
  | .nanosecond => [['n', 's']]
  | .microsecond => [['u', 's'], ['\u00B5', 's'], ['\u03BC', 's']]
  | .millisecond => [['m', 's']]
  | .second => [['s']]
  | .minute => [['m']]
  | .hour => [['h']]

/-- The texts of a term. -/
inductive Term.Spelling (t : Term) : List Char → Prop where
  | whole {u : List Char} (hne : t.whole ≠ []) (hwhole : ∀ c ∈ t.whole, isDigit c = true)
      (hfraction : t.fraction = []) (hu : u ∈ t.unit.spellings) : Spelling t (t.whole ++ u)
  | pointed {u : List Char} (hne : t.whole ≠ [] ∨ t.fraction ≠ [])
      (hwhole : ∀ c ∈ t.whole, isDigit c = true)
      (hfraction : ∀ c ∈ t.fraction, isDigit c = true) (hu : u ∈ t.unit.spellings) :
      Spelling t (t.whole ++ '.' :: (t.fraction ++ u))

/-- The texts of a sequence of terms. -/
inductive Spells : List Term → List Char → Prop where
  | nil : Spells [] []
  | cons {t : Term} {ts : List Term} {cs rest : List Char} (head : t.Spelling cs)
      (tail : Spells ts rest) : Spells (t :: ts) (cs ++ rest)

theorem Spells.single {t : Term} {cs : List Char} (h : t.Spelling cs) : Spells [t] cs := by
  simpa using Spells.cons h .nil

/-! ## First and last characters -/

/-- Terms start with a digit or a point. -/
def StartsTerm (c : Char) : Prop := isDigit c = true ∨ c = '.'

theorem StartsTerm.ne {c : Char} (h : StartsTerm c) : c ≠ 's' ∧ c ≠ '+' ∧ c ≠ '-' := by
  unfold StartsTerm at h
  refine ⟨?_, ?_, ?_⟩ <;> rintro rfl <;> revert h <;> decide

theorem TimeUnit.ne_nil_of_mem_spellings {unit : TimeUnit} {u : List Char}
    (hu : u ∈ unit.spellings) : u ≠ [] := by
  rintro rfl
  cases unit <;> simp [spellings] at hu

theorem TimeUnit.isDigit_head {unit : TimeUnit} {u : List Char} {c : Char}
    (hu : u ∈ unit.spellings) (rest : List Char) (hc : (u ++ rest).head? = some c) :
    isDigit c = false ∧ c ≠ '.' := by
  cases unit <;> simp only [spellings, List.mem_cons, List.not_mem_nil, or_false] at hu
  all_goals
    rcases hu with rfl | rfl | rfl
    all_goals
      cases hc
      decide

theorem TimeUnit.getLast?_mem {unit : TimeUnit} {u : List Char} (hu : u ∈ unit.spellings) :
    ∃ c ∈ ['s', 'm', 'h'], u.getLast? = some c := by
  cases unit <;> simp only [spellings, List.mem_cons, List.not_mem_nil, or_false] at hu
  all_goals
    rcases hu with rfl | rfl | rfl
    all_goals simp

theorem Term.Spelling.startsTerm {t : Term} {cs : List Char} (h : t.Spelling cs)
    (rest : List Char) :
    ∃ c, (cs ++ rest).head? = some c ∧ StartsTerm c := by
  cases h with
  | whole hne hwhole hfraction hu =>
      obtain ⟨c, w, hw⟩ := List.exists_cons_of_ne_nil hne
      refine ⟨c, by simp [hw], .inl (hwhole c (by simp [hw]))⟩
  | pointed hne hwhole hfraction hu =>
      cases hw : t.whole with
      | nil => exact ⟨'.', by simp, .inr rfl⟩
      | cons c w => exact ⟨c, by simp, .inl (hwhole c (by simp [hw]))⟩

theorem Term.Spelling.exists_append_unit {t : Term} {cs : List Char} (h : t.Spelling cs) :
    ∃ amount u, cs = amount ++ u ∧ amount ≠ [] ∧ u ∈ t.unit.spellings := by
  cases h with
  | @whole u hne hwhole hfraction hu => exact ⟨t.whole, u, rfl, hne, hu⟩
  | @pointed u hne hwhole hfraction hu =>
      exact ⟨t.whole ++ '.' :: t.fraction, u, by simp, by simp, hu⟩

theorem Term.Spelling.ne_nil {t : Term} {piece : List Char} (h : t.Spelling piece) :
    piece ≠ [] := by
  obtain ⟨c, hc, -⟩ := h.startsTerm []
  rintro rfl
  cases hc

theorem Spells.ne_nil {ts : List Term} {cs : List Char} (h : Spells ts cs) (hts : ts ≠ []) :
    cs ≠ [] := by
  cases h with
  | nil => exact absurd rfl hts
  | cons head _ => simp [head.ne_nil]

theorem Spells.head?_ne {ts : List Term} {cs : List Char} (h : Spells ts cs) :
    cs.head? ≠ some 's' := by
  cases h with
  | nil => simp
  | @cons t ts cs rest head tail =>
      obtain ⟨c, hc, hstart⟩ := head.startsTerm rest
      rw [hc, Ne, Option.some.injEq]
      exact hstart.ne.1

/-! ## Reading what the grammar gives -/

theorem unitAt?_append {unit : TimeUnit} {u rest : List Char} (hu : u ∈ unit.spellings)
    (hrest : unit = .minute → rest.head? ≠ some 's') : unitAt? (u ++ rest) = some (unit, rest) := by
  cases unit with
  | minute =>
      obtain rfl : u = ['m'] := by simpa [TimeUnit.spellings] using hu
      cases rest with
      | nil => rfl
      | cons c rest =>
          have hc : c ≠ 's' := by simpa using hrest rfl
          simp [unitAt?, hc]
  | microsecond =>
      simp only [TimeUnit.spellings, List.mem_cons, List.not_mem_nil, or_false] at hu
      rcases hu with rfl | rfl | rfl <;> rfl
  | _ =>
      simp only [TimeUnit.spellings, List.mem_singleton] at hu
      subst hu
      rfl

theorem takeWhile_append_of_stop {p : Char → Bool} {xs : List Char}
    (hxs : ∀ c ∈ xs, p c = true) (ys : List Char) (hys : ∀ c, ys.head? = some c → p c = false) :
    (xs ++ ys).takeWhile p = xs ∧ (xs ++ ys).dropWhile p = ys := by
  induction xs with
  | nil =>
      cases ys with
      | nil => simp
      | cons y ys => simp [hys y rfl]
  | cons x xs ih =>
      have hx : p x = true := hxs x (by simp)
      obtain ⟨htake, hdrop⟩ := ih fun c hc ↦ hxs c (List.mem_cons_of_mem x hc)
      simp [hx, htake, hdrop]

theorem termAt?_append {t : Term} {cs rest : List Char} (h : t.Spelling cs)
    (hrest : t.unit = .minute → rest.head? ≠ some 's') :
    termAt? (cs ++ rest) = some (t, rest) := by
  obtain ⟨whole, fraction, unit⟩ := t
  cases h with
  | @whole u hne hwhole hfraction hu =>
      simp only at hne hwhole hfraction hu ⊢
      subst hfraction
      obtain ⟨htake, hdrop⟩ := takeWhile_append_of_stop hwhole (u ++ rest)
        fun c hc ↦ (TimeUnit.isDigit_head hu rest hc).1
      have hpoint : fractionAt (u ++ rest) = ([], u ++ rest) := by
        obtain ⟨c, v, rfl⟩ := List.exists_cons_of_ne_nil (TimeUnit.ne_nil_of_mem_spellings hu)
        have hc := (TimeUnit.isDigit_head hu rest rfl).2
        simp [fractionAt, hc]
      simp [termAt?, htake, hdrop, hpoint, hne, unitAt?_append hu hrest]
  | @pointed u hne hwhole hfraction hu =>
      simp only at hne hwhole hfraction hu ⊢
      obtain ⟨htake, hdrop⟩ := takeWhile_append_of_stop hwhole ('.' :: (fraction ++ (u ++ rest)))
        (by simp; decide)
      obtain ⟨htake', hdrop'⟩ := takeWhile_append_of_stop hfraction (u ++ rest)
        fun c hc ↦ (TimeUnit.isDigit_head hu rest hc).1
      have hsome : ¬(whole = [] ∧ fraction = []) := fun hboth ↦
        hne.elim (· hboth.1) (· hboth.2)
      simp [termAt?, fractionAt, htake, hdrop, htake', hdrop', hsome, unitAt?_append hu hrest]

theorem Term.Spelling.hasNumber {t : Term} {cs : List Char} (h : t.Spelling cs) :
    t.hasNumber = true := by
  rw [Term.hasNumber, Bool.and_eq_true, List.all_eq_true]
  cases h with
  | whole hne hwhole hfraction hu => exact ⟨by simp [hne], by simpa [hfraction] using hwhole⟩
  | pointed hne hwhole hfraction hu =>
      refine ⟨?_, fun c hc ↦ (List.mem_append.1 hc).elim (hwhole c) (hfraction c)⟩
      rcases hne with hne | hne <;> simp [hne]

theorem addTerms_of_termAt? {cs rest : List Char} {t : Term} (h : termAt? cs = some (t, rest))
    (hnumber : t.hasNumber = true) (sum : Decimal) :
    addTerms sum cs =
      match t.addTo? sum with
      | none => .error .overflow
      | some sum' => addTerms sum' rest := by
  cases cs with
  | nil => exact absurd (length_lt_of_termAt? h) (by simp)
  | cons c cs =>
      rw [addTerms]
      split
      · next hnone => rw [hnone] at h; cases h
      · next t' rest' hsome =>
          rw [hsome] at h
          cases h
          exact if_pos hnumber

theorem addTerms_of_spells {ts : List Term} {cs : List Char} (h : Spells ts cs) {sum x : Decimal}
    (hsum : addAll? sum ts = some x) : addTerms sum cs = .ok x := by
  induction h generalizing sum with
  | nil =>
      rw [addTerms, Option.some.inj hsum]
  | @cons t ts cs rest head tail ih =>
      rw [addAll?_cons] at hsum
      obtain ⟨sum', hterm, hrest⟩ := Option.bind_eq_some_iff.1 hsum
      rw [addTerms_of_termAt? (termAt?_append head fun _ ↦ tail.head?_ne) head.hasNumber, hterm]
      exact ih hrest

/-! ## Blanks

No term starts or ends with a blank, so that nothing is stripped off a literal. -/

theorem isBlank_of_isDigit {c : Char} (h : isDigit c = true) : isBlank c = false := by
  have hapart : ∀ z ∈ zeroDigits, ∀ r ∈ whiteSpaceRanges ++ [(0x1C, 0x1F)],
      r.2 < z ∨ z + 10 ≤ r.1 := by decide
  obtain ⟨d, hd⟩ := Option.isSome_iff_exists.1 h
  obtain ⟨z, hz, -⟩ := Option.map_eq_some_iff.1 hd
  have hmem := List.mem_of_find?_eq_some hz
  have hrange := List.find?_some hz
  simp only [Bool.and_eq_true, decide_eq_true_eq] at hrange
  by_contra hblank
  rw [Bool.not_eq_false, isBlank, isWhiteSpace, Bool.or_eq_true, inRanges_eq_true_iff,
    inRanges_eq_true_iff] at hblank
  obtain ⟨r, hr, hlow, hhigh⟩ | ⟨r, hr, hlow, hhigh⟩ := hblank
  · have := hapart z hmem r (List.mem_append_left _ hr)
    omega
  · have := hapart z hmem r (List.mem_append_right _ hr)
    omega

theorem StartsTerm.isBlank {c : Char} (h : StartsTerm c) : isBlank c = false := by
  rcases h with h | rfl
  · exact isBlank_of_isDigit h
  · decide

theorem Spells.isBlank_head {ts : List Term} {cs : List Char} {c : Char} (h : Spells ts cs)
    (hc : cs.head? = some c) : isBlank c = false := by
  cases h with
  | nil => cases hc
  | @cons t ts cs rest head tail =>
      obtain ⟨d, hd, hstart⟩ := head.startsTerm rest
      rw [hc] at hd
      cases hd
      exact hstart.isBlank

theorem Spells.isBlank_last {ts : List Term} {cs : List Char} {c : Char} (h : Spells ts cs)
    (hc : cs.getLast? = some c) : isBlank c = false := by
  induction h with
  | nil => cases hc
  | @cons t ts cs rest head tail ih =>
      rw [List.getLast?_append] at hc
      cases hlast : rest.getLast? with
      | some d =>
          rw [hlast, Option.some_or] at hc
          exact ih (hlast.trans hc)
      | none =>
          obtain ⟨amount, u, rfl, -, hu⟩ := head.exists_append_unit
          obtain ⟨d, hd, hu⟩ := TimeUnit.getLast?_mem hu
          rw [hlast, Option.none_or, List.getLast?_append, hu, Option.some_or] at hc
          cases hc
          simp only [List.mem_cons, List.not_mem_nil, or_false] at hd
          rcases hd with rfl | rfl | rfl <;> decide

theorem trimWhere_of_ends {p : Char → Bool} {cs : List Char}
    (hhead : ∀ c, cs.head? = some c → p c = false)
    (hlast : ∀ c, cs.getLast? = some c → p c = false) : trimWhere p cs = cs := by
  have hdrop : ∀ ds : List Char, (∀ c, ds.head? = some c → p c = false) → ds.dropWhile p = ds := by
    intro ds hds
    cases ds with
    | nil => rfl
    | cons d ds => simp [hds d rfl]
  rw [trimWhere, hdrop cs hhead, hdrop cs.reverse (by simpa using hlast), List.reverse_reverse]

theorem strip_of_spells {ts : List Term} {cs : List Char} (h : Spells ts cs) :
    strip (String.ofList cs) = cs := by
  rw [strip, String.toList_ofList]
  exact trimWhere_of_ends (fun c ↦ h.isBlank_head) fun c ↦ h.isBlank_last

theorem strip_minus_of_spells {ts : List Term} {cs : List Char} (h : Spells ts cs) (hne : cs ≠ []) :
    strip (String.ofList ('-' :: cs)) = '-' :: cs := by
  rw [strip, String.toList_ofList]
  refine trimWhere_of_ends ?_ fun c hc ↦ h.isBlank_last ?_
  · simp
    decide
  · rwa [List.getLast?_cons_of_ne_nil hne] at hc

/-! ## Whole literals -/

theorem splitSign_of_spells {ts : List Term} {cs : List Char} (h : Spells ts cs) :
    splitSign cs = (false, cs) := by
  cases h with
  | nil => rfl
  | @cons t ts cs rest head tail =>
      obtain ⟨c, hc, hstart⟩ := head.startsTerm rest
      obtain ⟨v, hv⟩ := List.head?_eq_some_iff.1 hc
      rw [hv]
      simp [splitSign, hstart.ne.2.1, hstart.ne.2.2]

/-- A lone zero does not start with a term: it has no unit. -/
theorem Term.Spelling.append_ne_zero {t : Term} {piece : List Char} (h : t.Spelling piece)
    (rest : List Char) : piece ++ rest ≠ ['0'] := by
  obtain ⟨amount, u, rfl, hamount, hu⟩ := h.exists_append_unit
  have hlength := List.length_pos_iff.2 hamount
  have hunit := List.length_pos_iff.2 (TimeUnit.ne_nil_of_mem_spellings hu)
  intro hzero
  have := congrArg List.length hzero
  simp only [List.length_append, List.length_cons, List.length_nil] at this
  omega

theorem Spells.ne_zero {ts : List Term} {cs : List Char} (h : Spells ts cs) : cs ≠ ['0'] := by
  cases h with
  | nil => simp
  | cons head tail => exact head.append_ne_zero _

theorem literalMicros_of_spells {ts : List Term} {cs : List Char} (h : Spells ts cs)
    (hne : cs ≠ []) (hlt : (total ts).toRat < 10 ^ 20) :
    literalMicros cs = .ok ((total ts).floor : Int) := by
  simp [literalMicros, splitSign_of_spells h, hne, h.ne_zero,
    addTerms_of_spells h (addAll?_zero_of_lt hlt), Except.map]

theorem literalMicros_minus_of_spells {ts : List Term} {cs : List Char} (h : Spells ts cs)
    (hne : cs ≠ []) (hlt : (total ts).toRat < 10 ^ 20) :
    literalMicros ('-' :: cs) = .ok (-((total ts).floor : Int)) := by
  simp [literalMicros, splitSign, hne, h.ne_zero, addTerms_of_spells h (addAll?_zero_of_lt hlt),
    Except.map]

end Settings.Duration
