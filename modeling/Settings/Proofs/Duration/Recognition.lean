import Mathlib.Data.List.Forall2
import Mathlib.Data.List.TakeWhile
import Mathlib.Data.Nat.Init
import Settings.Proofs.Duration.RoundTrip
import Settings.Proofs.Result

/-!
# Which texts are duration literals

What the reader takes off the front of a text is a term of the grammar, so that a text is read as
terms exactly if the grammar gives it to them.  No term can be cut off in two ways, and therefore
there is only one way to cut a text into terms.  A text that is no literal of a time in range is
refused, never because of an amount, unless the terms at its front make a number that is too large.
-/

namespace Settings.Duration

open Text

/-! ## What is read is of the grammar -/

theorem exists_of_unitAt? {cs rest : List Char} {unit : TimeUnit}
    (h : unitAt? cs = some (unit, rest)) :
    (∃ u ∈ unit.spellings, cs = u ++ rest) ∧ (unit = .minute → rest.head? ≠ some 's') := by
  unfold unitAt? at h
  split at h <;> cases h
  case h_7 hlonger =>
    refine ⟨⟨['m'], by decide, rfl⟩, fun _ hs ↦ ?_⟩
    obtain ⟨rest', rfl⟩ := List.head?_eq_some_iff.1 hs
    exact hlonger rest' rfl
  all_goals refine ⟨?_, by simp⟩
  exacts [⟨['n', 's'], by decide, rfl⟩, ⟨['u', 's'], by decide, rfl⟩,
    ⟨['\u00B5', 's'], by decide, rfl⟩, ⟨['\u03BC', 's'], by decide, rfl⟩,
    ⟨['m', 's'], by decide, rfl⟩, ⟨['s'], by decide, rfl⟩, ⟨['h'], by decide, rfl⟩]

/-- The text behind the digits before the point, as the fraction leaves it. -/
theorem eq_of_fractionAt (cs : List Char) :
    (fractionAt cs).1 = [] ∧ (fractionAt cs).2 = cs ∨
      cs = '.' :: ((fractionAt cs).1 ++ (fractionAt cs).2) := by
  unfold fractionAt
  split
  · exact .inr (by rw [List.takeWhile_append_dropWhile])
  · exact .inl ⟨rfl, rfl⟩

theorem isDigit_of_mem_fractionAt {cs : List Char} {c : Char} (hc : c ∈ (fractionAt cs).1) :
    isDigit c = true := by
  unfold fractionAt at hc
  split at hc
  · exact List.mem_takeWhile_imp hc
  · cases hc

theorem exists_of_termAt? {cs rest : List Char} {t : Term} (h : termAt? cs = some (t, rest)) :
    ∃ piece, t.Spelling piece ∧ cs = piece ++ rest ∧
      (t.unit = .minute → rest.head? ≠ some 's') := by
  have hsplit := List.takeWhile_append_dropWhile (p := isDigit) (l := cs)
  have hwhole : ∀ c ∈ cs.takeWhile isDigit, isDigit c = true := fun c ↦ List.mem_takeWhile_imp
  have hpoint := eq_of_fractionAt (cs.dropWhile isDigit)
  have hfraction : ∀ c ∈ (fractionAt (cs.dropWhile isDigit)).1, isDigit c = true :=
    fun c ↦ isDigit_of_mem_fractionAt
  rw [termAt?] at h
  generalize cs.takeWhile isDigit = whole at h hsplit hwhole
  generalize fractionAt (cs.dropWhile isDigit) = parts at h hpoint hfraction
  obtain ⟨fraction, behind⟩ := parts
  dsimp only at h hpoint hfraction
  split at h
  · cases h
  · next hsome =>
      obtain ⟨⟨unit, rest'⟩, hunit, heq⟩ := Option.map_eq_some_iff.1 h
      obtain ⟨rfl, rfl⟩ := Prod.mk.inj heq
      obtain ⟨⟨u, hu, rfl⟩, hrest⟩ := exists_of_unitAt? hunit
      have hdigits : whole ≠ [] ∨ fraction ≠ [] := by
        by_contra hnone
        rw [not_or, not_not, not_not] at hnone
        exact hsome (by simp [hnone])
      rcases hpoint with ⟨rfl, hbehind⟩ | hbehind
      · refine ⟨whole ++ u, .whole (by simpa using hdigits) hwhole rfl hu, ?_⟩
        refine ⟨?_, hrest⟩
        rw [← hsplit, ← hbehind, List.append_assoc]
      · refine ⟨whole ++ '.' :: (fraction ++ u), .pointed hdigits hwhole hfraction hu, ?_⟩
        refine ⟨?_, hrest⟩
        rw [← hsplit, hbehind]
        simp

/-- The terms at the front of a text are too large when they are added to a sum. -/
inductive Overflows : Decimal → List Char → Prop where
  | here {sum : Decimal} {t : Term} {piece rest : List Char} (head : t.Spelling piece)
      (hrest : t.unit = .minute → rest.head? ≠ some 's') (h : t.Exceeds sum) :
      Overflows sum (piece ++ rest)
  | later {sum : Decimal} {t : Term} {piece rest : List Char} (head : t.Spelling piece)
      (tail : Overflows (sum.add t.micros) rest) : Overflows sum (piece ++ rest)

theorem Overflows.startsTerm {sum : Decimal} {cs : List Char} (h : Overflows sum cs) :
    ∃ c, cs.head? = some c ∧ StartsTerm c := by
  cases h with
  | here head _ _ => exact head.startsTerm _
  | later head _ => exact head.startsTerm _

theorem Overflows.ne_zero {sum : Decimal} {cs : List Char} (h : Overflows sum cs) :
    cs ≠ ['0'] := by
  cases h with
  | here head _ _ => exact head.append_ne_zero _
  | later head _ => exact head.append_ne_zero _

theorem addTerms_of_overflows {sum : Decimal} {cs : List Char} (h : Overflows sum cs) :
    addTerms sum cs = .error .overflow := by
  induction h with
  | here head hrest hexceeds =>
      rw [addTerms_of_termAt? (termAt?_append head hrest) head.hasNumber,
        Term.addTo?_eq_none_iff.2 hexceeds]
  | @later sum t piece rest head tail ih =>
      obtain ⟨c, hc, hstart⟩ := tail.startsTerm
      have hrest : rest.head? ≠ some 's' := by
        rw [hc, Ne, Option.some.injEq]
        exact hstart.ne.1
      rw [addTerms_of_termAt? (termAt?_append head fun _ ↦ hrest) head.hasNumber]
      cases hadd : t.addTo? sum with
      | none => rfl
      | some x =>
          obtain rfl := t.eq_of_addTo? hadd
          exact ih

/-- What can come of reading a text as terms. -/
inductive Reads (sum : Decimal) (cs : List Char) : Except LiteralError Decimal → Prop where
  | ok {ts : List Term} {x : Decimal} (hspells : Spells ts cs) (hsum : addAll? sum ts = some x) :
      Reads sum cs (.ok x)
  | badTerm : Reads sum cs (.error .badTerm)
  | overflow (h : Overflows sum cs) : Reads sum cs (.error .overflow)

theorem reads_addTerms (sum : Decimal) (cs : List Char) : Reads sum cs (addTerms sum cs) := by
  induction hn : cs.length using Nat.strong_induction_on generalizing sum cs with
  | _ n ih =>
      subst hn
      cases cs with
      | nil =>
          rw [addTerms]
          exact .ok .nil rfl
      | cons c cs =>
          cases hterm : termAt? (c :: cs) with
          | none =>
              have hbad : addTerms sum (c :: cs) = .error .badTerm := by
                rw [addTerms]
                split
                · rfl
                · next hsome =>
                    rw [hterm] at hsome
                    cases hsome
              exact hbad ▸ .badTerm
          | some tr =>
              obtain ⟨t, rest⟩ := tr
              have hshorter := length_lt_of_termAt? hterm
              obtain ⟨piece, head, hsplit, hrest⟩ := exists_of_termAt? hterm
              rw [addTerms_of_termAt? hterm head.hasNumber, hsplit]
              cases hadd : t.addTo? sum with
              | none => exact .overflow (.here head hrest (Term.addTo?_eq_none_iff.1 hadd))
              | some sum' =>
                  have htail := ih rest.length hshorter sum' rest rfl
                  obtain rfl := t.eq_of_addTo? hadd
                  dsimp only
                  generalize addTerms (sum.add t.micros) rest = result at htail
                  cases htail with
                  | ok hspells hsum =>
                      refine .ok (.cons head hspells) ?_
                      rw [addAll?_cons, hadd]
                      exact hsum
                  | badTerm => exact .badTerm
                  | overflow tail => exact .overflow (.later head tail)

/-! ## Cutting a text into terms -/

theorem spells_iff_forall₂ {ts : List Term} {cs : List Char} :
    Spells ts cs ↔ ∃ pieces, List.Forall₂ Term.Spelling ts pieces ∧ pieces.flatten = cs := by
  constructor
  · intro h
    induction h with
    | nil => exact ⟨[], .nil, rfl⟩
    | cons head tail ih =>
        obtain ⟨pieces, hpieces, rfl⟩ := ih
        exact ⟨_ :: pieces, .cons head hpieces, rfl⟩
  · rintro ⟨pieces, hpieces, rfl⟩
    induction hpieces with
    | nil => exact .nil
    | cons head _ ih => exact .cons head ih

/-- The first of the pieces is what the reader takes off, whatever the others are. -/
theorem pieces_unique {ts us : List Term} {ps qs : List (List Char)}
    (hps : List.Forall₂ Term.Spelling ts ps) (hqs : List.Forall₂ Term.Spelling us qs)
    (hflatten : ps.flatten = qs.flatten) : ts = us ∧ ps = qs := by
  induction hps generalizing us qs with
  | nil =>
      cases hqs with
      | nil => exact ⟨rfl, rfl⟩
      | cons head _ => exact absurd (List.append_eq_nil_iff.1 hflatten.symm).1 head.ne_nil
  | @cons t p ts ps head htail ih =>
      cases hqs with
      | nil => exact absurd (List.append_eq_nil_iff.1 hflatten).1 head.ne_nil
      | @cons u q us qs head' htail' =>
          have hfirst := termAt?_append head fun _ ↦
            (spells_iff_forall₂.2 ⟨ps, htail, rfl⟩).head?_ne
          have hfirst' := termAt?_append head' fun _ ↦
            (spells_iff_forall₂.2 ⟨qs, htail', rfl⟩).head?_ne
          rw [List.flatten_cons, List.flatten_cons] at hflatten
          rw [hflatten, hfirst', Option.some.injEq, Prod.mk.injEq] at hfirst
          obtain ⟨rfl, hrest⟩ := hfirst
          rw [hrest, List.append_cancel_right_eq] at hflatten
          obtain ⟨rfl, rfl⟩ := ih htail' hrest.symm
          exact ⟨rfl, by rw [hflatten]⟩

theorem Spells.unique {ts us : List Term} {cs : List Char} (hts : Spells ts cs)
    (hus : Spells us cs) : ts = us := by
  obtain ⟨ps, hps, hflatten⟩ := spells_iff_forall₂.1 hts
  obtain ⟨qs, hqs, hflatten'⟩ := spells_iff_forall₂.1 hus
  exact (pieces_unique hps hqs (hflatten.trans hflatten'.symm)).1

/-! ## Whole literals -/

/-- The signs that may stand in front; `true` is a minus. -/
inductive IsSign : Bool → List Char → Prop where
  | none : IsSign false []
  | plus : IsSign false ['+']
  | minus : IsSign true ['-']

def signed (negative : Bool) (n : Nat) : Int := if negative then -n else n

/-- The literals, with the microseconds that they stand for.  These need not be in range. -/
inductive Denotes : List Char → Int → Prop where
  | zero {negative : Bool} {sign : List Char} (hsign : IsSign negative sign) :
      Denotes (sign ++ ['0']) 0
  | terms {negative : Bool} {sign : List Char} {ts : List Term} {pieces : List (List Char)}
      (hsign : IsSign negative sign) (hne : pieces ≠ [])
      (hpieces : List.Forall₂ Term.Spelling ts pieces) :
      Denotes (sign ++ pieces.flatten) (signed negative (total ts).floor)

theorem isSign_splitSign (cs : List Char) :
    ∃ sign, IsSign (splitSign cs).1 sign ∧ cs = sign ++ (splitSign cs).2 := by
  unfold splitSign
  split
  · exact ⟨_, .plus, rfl⟩
  · exact ⟨_, .minus, rfl⟩
  · exact ⟨_, .none, rfl⟩

/-- The terms at the front of a literal are too large. -/
def StartsTooLarge (cs : List Char) : Prop :=
  ∃ negative sign body, IsSign negative sign ∧ cs = sign ++ body ∧ Overflows .zero body

theorem splitSign_append {negative : Bool} {sign body : List Char} (hsign : IsSign negative sign)
    (hbody : ∀ c, body.head? = some c → c ≠ '+' ∧ c ≠ '-') :
    splitSign (sign ++ body) = (negative, body) := by
  cases hsign with
  | none =>
      cases body with
      | nil => rfl
      | cons c body =>
          obtain ⟨hplus, hminus⟩ := hbody c rfl
          simp [splitSign, hplus, hminus]
  | plus => rfl
  | minus => rfl

theorem Spells.splitSign_append {negative : Bool} {sign body : List Char} {ts : List Term}
    (h : Spells ts body) (hsign : IsSign negative sign) :
    splitSign (sign ++ body) = (negative, body) := by
  apply Duration.splitSign_append hsign
  intro c hc
  cases h with
  | nil => cases hc
  | cons head tail =>
      obtain ⟨d, hd, hstart⟩ := head.startsTerm _
      rw [hc] at hd
      cases hd
      exact hstart.ne.2

theorem literalMicros_of_terms {negative : Bool} {sign body : List Char}
    (hsplit : splitSign (sign ++ body) = (negative, body)) (hne : body ≠ [])
    (hzero : body ≠ ['0']) :
    literalMicros (sign ++ body) =
      (addTerms .zero body).map fun sum ↦ signed negative sum.floor := by
  have hsome : sign ++ body ≠ [] := fun hnil ↦ hne (List.append_eq_nil_iff.1 hnil).2
  simp [literalMicros, hsplit, hsome, hne, hzero, signed]

/-- What can come of reading a text as a literal. -/
inductive ReadsLiteral (cs : List Char) : Except LiteralError Int → Prop where
  | ok {n : Int} (h : Denotes cs n) : ReadsLiteral cs (.ok n)
  | blank : ReadsLiteral cs (.error .blank)
  | signOnly : ReadsLiteral cs (.error .signOnly)
  | badTerm : ReadsLiteral cs (.error .badTerm)
  | overflow (h : StartsTooLarge cs) : ReadsLiteral cs (.error .overflow)

theorem readsLiteral_literalMicros (cs : List Char) : ReadsLiteral cs (literalMicros cs) := by
  by_cases hempty : cs = []
  · subst hempty
    exact .blank
  obtain ⟨sign, hsign, hcs⟩ := isSign_splitSign cs
  obtain ⟨negative, body, hparts⟩ : ∃ negative body, splitSign cs = (negative, body) := ⟨_, _, rfl⟩
  simp only [hparts] at hsign hcs
  subst hcs
  by_cases hzero : body = ['0']
  · subst hzero
    have hread : literalMicros (sign ++ ['0']) = .ok 0 := by
      simp [literalMicros, hparts]
    exact hread ▸ .ok (.zero hsign)
  by_cases hnil : body = []
  · subst hnil
    have hread : literalMicros (sign ++ []) = .error .signOnly := by
      rw [List.append_nil] at hempty hparts ⊢
      simp [literalMicros, hparts, hempty]
    exact hread ▸ .signOnly
  rw [literalMicros_of_terms hparts hnil hzero]
  have hbody := reads_addTerms .zero body
  generalize addTerms .zero body = result at hbody
  cases hbody with
  | @ok ts x hspells hsum =>
      obtain ⟨pieces, hpieces, rfl⟩ := spells_iff_forall₂.1 hspells
      obtain rfl := eq_of_addAll? hsum
      refine .ok (.terms hsign ?_ hpieces)
      rintro rfl
      exact hnil rfl
  | badTerm => exact .badTerm
  | overflow h => exact .overflow ⟨negative, sign, body, hsign, rfl, h⟩

theorem lt_of_inRange_signed_floor {negative : Bool} {q : ℚ}
    (hrange : InRange (signed negative ⌊q⌋₊)) : q < 10 ^ 20 := by
  have hfloor : ⌊q⌋₊ + 1 ≤ 10 ^ 20 := by
    rw [inRange_iff] at hrange
    cases negative <;> simp only [signed] at hrange <;> grind
  have hcast : (⌊q⌋₊ : ℚ) + 1 ≤ 10 ^ 20 := by exact_mod_cast hfloor
  exact lt_of_lt_of_le (Nat.lt_floor_add_one q) hcast

theorem literalMicros_of_denotes {cs : List Char} {n : Int} (h : Denotes cs n) (hn : InRange n) :
    literalMicros cs = .ok n := by
  cases h with
  | zero hsign => cases hsign <;> rfl
  | @terms negative sign ts pieces hsign hne hpieces =>
      have hspells := spells_iff_forall₂.2 ⟨_, hpieces, rfl⟩
      have hlt : (total ts).toRat < 10 ^ 20 := by
        rw [Decimal.floor_eq] at hn
        exact lt_of_inRange_signed_floor hn
      have hbody : pieces.flatten ≠ [] := by
        apply hspells.ne_nil
        rintro rfl
        cases hpieces
        exact hne rfl
      rw [literalMicros_of_terms (hspells.splitSign_append hsign) hbody hspells.ne_zero,
        addTerms_of_spells hspells (addAll?_zero_of_lt hlt)]
      rfl

theorem literalMicros_eq_overflow_iff {cs : List Char} :
    literalMicros cs = .error .overflow ↔ StartsTooLarge cs := by
  constructor
  · intro h
    have hread := readsLiteral_literalMicros cs
    rw [h] at hread
    cases hread with
    | overflow hlarge => exact hlarge
  · rintro ⟨negative, sign, body, hsign, rfl, hbody⟩
    obtain ⟨c, hc, hstart⟩ := hbody.startsTerm
    have hsplit : splitSign (sign ++ body) = (negative, body) := by
      apply splitSign_append hsign
      intro d hd
      obtain rfl : c = d := Option.some.inj (hc.symm.trans hd)
      exact hstart.ne.2
    have hadd := addTerms_of_overflows hbody
    have hne : body ≠ [] := by
      rintro rfl
      cases hc
    rw [literalMicros_of_terms hsplit hne hbody.ne_zero, hadd]
    rfl

theorem ofLiteral_eq_ok_iff {s : String} {d : Duration} :
    ofLiteral s = .ok d ↔ Denotes (strip s) d.micros := by
  constructor
  · intro h
    have hread := readsLiteral_literalMicros (strip s)
    rw [ofLiteral] at h
    generalize literalMicros (strip s) = result at h hread
    cases hread with
    | @ok n hdenotes =>
        dsimp only at h
        split at h
        · next hd =>
            cases h
            rwa [← ofMicros?_eq_some_iff.1 hd]
        · cases h
    | _ => cases h
  · intro h
    rw [ofLiteral, literalMicros_of_denotes h d.inRange]
    simp

theorem Denotes.splitSign {cs : List Char} {n : Int} (h : Denotes cs n) :
    (splitSign cs).2 = ['0'] ∧ n = 0 ∨
      ∃ ts, Spells ts (splitSign cs).2 ∧ n = signed (splitSign cs).1 (total ts).floor := by
  cases h with
  | @zero negative sign hsign =>
      have hsplit : Duration.splitSign (sign ++ ['0']) = (negative, ['0']) :=
        splitSign_append hsign (by simp)
      exact .inl ⟨by rw [hsplit], rfl⟩
  | terms hsign hne hpieces =>
      have hspells := spells_iff_forall₂.2 ⟨_, hpieces, rfl⟩
      rw [hspells.splitSign_append hsign]
      exact .inr ⟨_, hspells, rfl⟩

theorem Denotes.unique {cs : List Char} {m n : Int} (hm : Denotes cs m) (hn : Denotes cs n) :
    m = n := by
  rcases hm.splitSign with ⟨hzero, rfl⟩ | ⟨ts, hts, rfl⟩
  · rcases hn.splitSign with ⟨-, rfl⟩ | ⟨us, hus, -⟩
    · rfl
    · exact absurd hzero hus.ne_zero
  · rcases hn.splitSign with ⟨hzero, -⟩ | ⟨us, hus, rfl⟩
    · exact absurd hzero hts.ne_zero
    · rw [hts.unique hus]

/-- Of the failures, that of an amount never arises, and that of a number that is too large arises
from the terms at the front. -/
theorem ofLiteral_cases (s : String) :
    (∃ d, ofLiteral s = .ok d) ∨
      (∃ cause, cause ≠ .badAmount ∧ cause ≠ .overflow ∧ ofLiteral s = .error cause) ∨
      (StartsTooLarge (strip s) ∧ ofLiteral s = .error .overflow) := by
  have hread := readsLiteral_literalMicros (strip s)
  rw [ofLiteral]
  generalize literalMicros (strip s) = result at hread
  cases hread with
  | @ok n hdenotes =>
      cases hd : ofMicros? n with
      | some d => exact .inl ⟨d, by simp [hd]⟩
      | none => exact .inr (.inl ⟨.outOfRange, by decide, by decide, by simp [hd]⟩)
  | blank => exact .inr (.inl ⟨.blank, by decide, by decide, rfl⟩)
  | signOnly => exact .inr (.inl ⟨.signOnly, by decide, by decide, rfl⟩)
  | badTerm => exact .inr (.inl ⟨.badTerm, by decide, by decide, rfl⟩)
  | overflow h => exact .inr (.inr ⟨h, rfl⟩)

theorem ofLiteral_eq_overflow_iff {s : String} :
    ofLiteral s = .error .overflow ↔ StartsTooLarge (strip s) := by
  constructor
  · intro h
    rcases ofLiteral_cases s with ⟨d, hd⟩ | ⟨cause, -, hcause, herror⟩ | ⟨hlarge, -⟩
    · rw [h] at hd
      cases hd
    · rw [h] at herror
      cases herror
      exact absurd rfl hcause
    · exact hlarge
  · intro h
    rw [ofLiteral, literalMicros_eq_overflow_iff.2 h]

theorem ofValue_of_startsTooLarge {s : String} (h : StartsTooLarge (strip s)) :
    ofValue (.str s) = .error (.literal s .overflow) := by
  rw [ofValue_str, ofText, ofLiteral_eq_overflow_iff.2 h]
  rfl

/-- Only a text whose terms are too large is neither read nor refused. -/
theorem startsTooLarge_of_not_isRefusal {v : Value} {cause : DurationError}
    (h : ofValue v = .error cause) (hcause : cause.isRefusal = false) :
    ∃ s, v = .str s ∧ StartsTooLarge (strip s) ∧ cause = .literal s .overflow := by
  cases v with
  | str s =>
      rw [ofValue_str, ofText] at h
      cases hliteral : ofLiteral s with
      | ok d =>
          rw [hliteral] at h
          cases h
      | error e =>
          rw [hliteral] at h
          cases h
          cases e with
          | overflow => exact ⟨s, rfl, ofLiteral_eq_overflow_iff.1 hliteral, rfl⟩
          | _ => cases hcause
  | duration d => cases h
  | _ =>
      cases h
      cases hcause

/-- A text is read as a duration exactly if it is, apart from the blanks around it, a literal of a
time in range.  There is one way to cut it into terms.  Every other text is refused, and never
because an amount is no number; only, if the terms at its front are too large, no refusal is made
of that. -/
theorem reads_exactly_literals (s : String) :
    ((∃ d, ofValue (.str s) = .ok d) ↔ ∃ n, Denotes (strip s) n ∧ InRange n) ∧
      (∀ d, ofValue (.str s) = .ok d ↔ Denotes (strip s) d.micros) ∧
      (∀ ts us ps qs, List.Forall₂ Term.Spelling ts ps → List.Forall₂ Term.Spelling us qs →
        ps.flatten = qs.flatten → ts = us ∧ ps = qs) ∧
      ((¬∃ n, Denotes (strip s) n ∧ InRange n) → ∃ e, ofValue (.str s) = .error e ∧
        (e.isRefusal = false ↔ StartsTooLarge (strip s)) ∧
        ∃ cause, cause ≠ .badAmount ∧ e = .literal s cause) := by
  have hok (d : Duration) : ofValue (.str s) = .ok d ↔ Denotes (strip s) d.micros := by
    rw [← ofLiteral_eq_ok_iff, ofValue_str, ofText, mapError_eq_ok_iff]
  have haccepted : (∃ d, ofValue (.str s) = .ok d) ↔ ∃ n, Denotes (strip s) n ∧ InRange n := by
    constructor
    · rintro ⟨d, hd⟩
      exact ⟨d.micros, (hok d).1 hd, d.inRange⟩
    · rintro ⟨n, hn, hrange⟩
      exact ⟨⟨n, hrange⟩, (hok _).2 hn⟩
  refine ⟨haccepted, hok, fun ts us ps qs ↦ pieces_unique, fun hnone ↦ ?_⟩
  rw [← haccepted] at hnone
  rw [ofValue_str, ofText] at hnone ⊢
  rw [← ofLiteral_eq_overflow_iff]
  rcases ofLiteral_cases s with ⟨d, hd⟩ | ⟨cause, hamount, hlarge, hcause⟩ | ⟨-, hcause⟩
  · exact absurd ⟨d, by rw [hd]; rfl⟩ hnone
  · rw [hcause]
    refine ⟨.literal s cause, rfl, ?_, cause, hamount, rfl⟩
    cases cause <;> simp_all [DurationError.isRefusal]
  · rw [hcause]
    exact ⟨.literal s .overflow, rfl, by simp [DurationError.isRefusal], .overflow, by decide, rfl⟩

/-- A one and so many zeros, in seconds. -/
def powerOfTen (k : ℕ) : Term := ⟨'1' :: List.replicate k '0', [], .second⟩

def powerOfTenText (k : ℕ) : String := String.ofList ('1' :: List.replicate k '0' ++ ['s'])

theorem spelling_powerOfTen (k : ℕ) :
    (powerOfTen k).Spelling ('1' :: List.replicate k '0' ++ ['s']) := by
  refine .whole (by simp [powerOfTen]) ?_ rfl List.mem_cons_self
  intro c hc
  rcases List.mem_cons.1 hc with rfl | hzero
  · decide
  · rw [List.eq_of_mem_replicate hzero]
    decide

theorem exceeds_powerOfTen {k : ℕ} (hk : Decimal.maxExponent + 1 ≤ k + 6) (sum : Decimal) :
    (powerOfTen k).Exceeds sum := by
  have hdigits : digitsValue ('1' :: List.replicate k '0') = 10 ^ k := by
    have hone : digitsValue ['1'] = 1 := by decide
    have happend := digitsValue_append ['1'] (List.replicate k '0')
    rwa [hone, digitsValue_replicate_zero, List.length_replicate, Nat.one_mul,
      Nat.add_zero] at happend
  have hexact : ((powerOfTen k).amount.mulExact TimeUnit.second.micros).toRat =
      10 ^ ((k : ℤ) + 6) := by
    rw [Decimal.toRat_mulExact, zpow_add₀ (by norm_num), zpow_natCast]
    simp only [powerOfTen, Term.amount, List.append_nil, hdigits, Decimal.toRat, TimeUnit.micros]
    norm_num
  left
  apply Decimal.le_toRat_rounded
  rw [show (powerOfTen k).unit = .second from rfl, hexact]
  exact zpow_le_zpow_right₀ (by norm_num) hk

theorem startsTooLarge_powerOfTenText {k : ℕ} (hk : Decimal.maxExponent + 1 ≤ k + 6) :
    StartsTooLarge (strip (powerOfTenText k)) := by
  have hspelling := spelling_powerOfTen k
  have hunit : (powerOfTen k).unit = .minute → [].head? ≠ some 's' := by simp
  have hhere := Overflows.here hspelling hunit (exceeds_powerOfTen hk .zero)
  rw [List.append_nil] at hhere
  rw [powerOfTenText, strip_of_spells (.single hspelling)]
  exact ⟨false, [], _, .none, rfl, hhere⟩

theorem not_refused_powerOfTenText {k : ℕ} (hk : Decimal.maxExponent + 1 ≤ k + 6) :
    (¬∃ n, Denotes (strip (powerOfTenText k)) n ∧ InRange n) ∧
      ∃ e, ofValue (.str (powerOfTenText k)) = .error e ∧ e.isRefusal = false := by
  have hlarge := startsTooLarge_powerOfTenText hk
  refine ⟨?_, _, ofValue_of_startsTooLarge hlarge, rfl⟩
  rintro ⟨n, hn, hrange⟩
  have hok := ofLiteral_eq_ok_iff (d := ⟨n, hrange⟩).2 hn
  rw [ofLiteral_eq_overflow_iff.2 hlarge] at hok
  cases hok

/-- A one and 999994 zeros are no literal of a time in range, and yet they are not refused. -/
theorem tooLong_not_refused :
    (¬∃ n, Denotes (strip (powerOfTenText 999994)) n ∧ InRange n) ∧
      ∃ e, ofValue (.str (powerOfTenText 999994)) = .error e ∧ e.isRefusal = false :=
  not_refused_powerOfTenText (by decide)

end Settings.Duration
