import Mathlib.Data.String.Basic
import Settings.Overlay.Environment

/-!
# Names and paths of variables

Where the names of variables are written in capital letters, with something on both sides of each
double underscore, a name can be had back from the path.  A variable whose path leads to that of
another one then has a name with which the other name starts, and so is applied first.
-/

namespace Settings

/-! ## Splitting at double underscores -/

theorem splitUnderscores_ne_nil (part cs : List Char) : splitUnderscores part cs ≠ [] := by
  fun_induction splitUnderscores part cs with
  | case1 part => exact List.cons_ne_nil _ _
  | case2 part rest ih => exact List.cons_ne_nil _ _
  | case3 part c rest h ih => exact ih

theorem intercalate_splitUnderscores (part cs : List Char) :
    ['_', '_'].intercalate (splitUnderscores part cs) = part.reverse ++ cs := by
  fun_induction splitUnderscores part cs with
  | case1 part => simp
  | case2 part rest ih =>
      obtain ⟨p, ps, hparts⟩ := List.exists_cons_of_ne_nil (splitUnderscores_ne_nil [] rest)
      rw [hparts] at ih ⊢
      rw [List.intercalate_cons_cons, ih]
      simp
  | case3 part c rest h ih =>
      rw [ih]
      simp

theorem splitUnderscores_map {f : Char → Char} {cs : List Char}
    (hf : ∀ c ∈ cs, f c = '_' ↔ c = '_') (part : List Char) :
    splitUnderscores (part.map f) (cs.map f) = (splitUnderscores part cs).map (List.map f) := by
  fun_induction splitUnderscores part cs with
  | case1 part => simp [splitUnderscores]
  | case2 part rest ih =>
      have hunder : f '_' = '_' := (hf '_' (by simp)).2 rfl
      have hrest := ih fun c hc ↦ hf c (by simp [hc])
      simp only [List.map_cons, hunder, splitUnderscores, List.map_reverse]
      rw [← hrest]
      rfl
  | case3 part c rest h ih =>
      have hrest := ih fun d hd ↦ hf d (List.mem_cons_of_mem c hd)
      rw [List.map_cons, splitUnderscores, ← hrest]
      · rfl
      · -- two underscores in a row would have been two before
        intro more hc hmore
        obtain rfl := (hf c List.mem_cons_self).1 hc
        obtain ⟨d, rest', rfl, hd, -⟩ := List.map_eq_cons_iff.1 hmore
        obtain rfl := (hf d (by simp)).1 hd
        exact h rest' rfl rfl

/-- The names on a path with double underscores between them. -/
def underscored (path : List String) : List Char := ['_', '_'].intercalate (path.map String.toList)

theorem underscored_singleton (name : String) : underscored [name] = name.toList :=
  List.intercalate_singleton

theorem underscored_cons_cons (name next : String) (path : List String) :
    underscored (name :: next :: path) = name.toList ++ ['_', '_'] ++ underscored (next :: path) :=
  List.intercalate_cons_cons

theorem underscored_prefix {path path' : List String} (hpath : path ≠ []) (h : path <+: path') :
    underscored path <+: underscored path' := by
  obtain ⟨rest, rfl⟩ := h
  induction path with
  | nil => exact absurd rfl hpath
  | cons name path ih =>
      cases path with
      | nil =>
          cases rest with
          | nil => exact List.prefix_rfl
          | cons next rest =>
              rw [List.singleton_append, underscored_cons_cons, underscored_singleton,
                List.append_assoc]
              exact List.prefix_append _ _
      | cons next path =>
          rw [List.cons_append, List.cons_append, underscored_cons_cons, underscored_cons_cons,
            List.prefix_append_right_inj]
          exact ih (List.cons_ne_nil next path)

/-! ## Capital letters, digits and underscores -/

/-- Whether a character is a capital letter, a digit or an underscore. -/
def isNameChar (c : Char) : Bool := c.isUpper || c.isDigit || c == '_'

/-- The lower case of a character by itself. -/
def lowered (c : Char) : Char := Text.mapByRuns Text.lowerRuns c

theorem toNat_lt_of_isNameChar {c : Char} (h : isNameChar c = true) : c.toNat < 128 := by
  simp only [isNameChar, Bool.or_eq_true, beq_iff_eq] at h
  rcases h with (hupper | hdigit) | rfl
  · have hle : c.val ≤ 'Z'.val := (of_decide_eq_true hupper).2
    exact lt_of_le_of_lt (UInt32.le_iff_toNat_le.1 hle) (by decide)
  · have hle : c.val ≤ '9'.val := of_decide_eq_true (Bool.and_elim_right hdigit)
    exact lt_of_le_of_lt (UInt32.le_iff_toNat_le.1 hle) (by decide)
  · decide

theorem toUpper_lowered {c : Char} (h : isNameChar c = true) : (lowered c).toUpper = c := by
  -- the table of runs is long, so each of these characters is looked up by evaluation
  have hall : ∀ n < 128, isNameChar (Char.ofNat n) = true →
      (lowered (Char.ofNat n)).toUpper = Char.ofNat n := by
    decide +kernel
  have hc := hall c.toNat (toNat_lt_of_isNameChar h)
  rw [Char.ofNat_toNat] at hc
  exact hc h

theorem lowered_eq_underscore_iff {c : Char} (h : isNameChar c = true) :
    lowered c = '_' ↔ c = '_' := by
  constructor
  · intro hlower
    rw [← toUpper_lowered h, hlower]
    decide
  · rintro rfl
    decide

theorem lowerAfter_eq_map {cs : List Char} (h : ∀ c ∈ cs, isNameChar c = true)
    (before : List Char) : Text.lowerAfter before cs = cs.map lowered := by
  induction cs generalizing before with
  | nil => rfl
  | cons c cs ih =>
      rw [List.forall_mem_cons] at h
      have hlt := toNat_lt_of_isNameChar h.1
      have hsigma : c ≠ 'Σ' := by
        rintro rfl
        exact absurd hlt (by decide)
      have hdotted : c ≠ 'İ' := by
        rintro rfl
        exact absurd hlt (by decide)
      rw [Text.lowerAfter, if_neg hsigma, Text.lowerChar, if_neg hdotted, ih h.2]
      rfl

/-! ## From the path back to the name -/

namespace Variable

def Matches (prefixText : String) (v : Variable) : Prop := prefixText.toList <+: v.name.toList

/-- What follows the prefix in the name. -/
def rest (prefixText : String) (v : Variable) : List Char :=
  v.name.toList.drop prefixText.length

/-- Whether what follows the prefix consists of capital letters, digits and underscores, with
something on both sides of each double underscore. -/
structure IsPlain (prefixText : String) (v : Variable) : Prop where
  chars : ∀ c ∈ v.rest prefixText, isNameChar c = true
  parts : [] ∉ splitUnderscores [] (v.rest prefixText)

instance (prefixText : String) (v : Variable) : Decidable (v.Matches prefixText) :=
  inferInstanceAs (Decidable (_ <+: _))

instance (prefixText : String) (v : Variable) : Decidable (v.IsPlain prefixText) :=
  decidable_of_iff ((v.rest prefixText).all isNameChar = true ∧
    (splitUnderscores [] (v.rest prefixText)).contains [] = false)
    ⟨fun h ↦ ⟨List.all_eq_true.1 h.1, by simpa using h.2⟩,
      fun h ↦ ⟨List.all_eq_true.2 h.chars, by simpa using h.parts⟩⟩

variable {prefixText : String} {v w : Variable}

theorem path_of_not_matches (h : ¬ v.Matches prefixText) : v.path prefixText = [] := by
  have hlead : prefixText.toList.isPrefixOf v.name.toList = false := by
    rwa [Bool.eq_false_iff, Ne, List.isPrefixOf_iff_prefix]
  rw [path, hlead]

theorem prefix_append_rest (h : v.Matches prefixText) :
    prefixText.toList ++ v.rest prefixText = v.name.toList := by
  obtain ⟨rest, hrest⟩ := h
  rw [Variable.rest, ← hrest, ← String.length_toList, List.drop_left]

theorem path_eq (h : v.Matches prefixText) (hv : v.IsPlain prefixText) :
    v.path prefixText =
      (splitUnderscores [] ((v.rest prefixText).map lowered)).map String.ofList := by
  have hlead : prefixText.toList.isPrefixOf v.name.toList = true :=
    List.isPrefixOf_iff_prefix.2 h
  have hparts : [] ∉ splitUnderscores [] ((v.rest prefixText).map lowered) := by
    have hsplit := splitUnderscores_map
      (fun c hc ↦ lowered_eq_underscore_iff (hv.chars c hc)) []
    rw [List.map_nil] at hsplit
    rw [hsplit]
    intro hmem
    obtain ⟨part, hpart, hnil⟩ := List.mem_map.1 hmem
    rw [List.map_eq_nil_iff.1 hnil] at hpart
    exact hv.parts hpart
  rw [path, hlead]
  show ((splitUnderscores [] (Text.lowerAfter [] (v.rest prefixText))).filter _).map _ = _
  rw [lowerAfter_eq_map hv.chars, List.filter_eq_self.2]
  intro part hpart
  cases part with
  | nil => exact absurd hpart hparts
  | cons c cs => rfl

theorem underscored_path (h : v.Matches prefixText) (hv : v.IsPlain prefixText) :
    underscored (v.path prefixText) = (v.rest prefixText).map lowered := by
  have hlists (parts : List (List Char)) :
      (parts.map String.ofList).map String.toList = parts := by simp
  rw [path_eq h hv, underscored, hlists, intercalate_splitUnderscores]
  rfl

theorem path_ne_nil (h : v.Matches prefixText) (hv : v.IsPlain prefixText) :
    v.path prefixText ≠ [] := by
  rw [path_eq h hv, Ne, List.map_eq_nil_iff]
  exact splitUnderscores_ne_nil _ _

/-- A variable on the way to another one has a name with which that of the other one starts. -/
theorem name_prefix (hw : w.Matches prefixText) (hwplain : w.IsPlain prefixText)
    (hv : v.Matches prefixText) (hvplain : v.IsPlain prefixText)
    (h : w.path prefixText <+: v.path prefixText) : w.name.toList <+: v.name.toList := by
  have hback {cs : List Char} (hcs : ∀ c ∈ cs, isNameChar c = true) :
      (cs.map lowered).map Char.toUpper = cs := by
    rw [List.map_map]
    exact (List.map_congr_left fun c hc ↦ toUpper_lowered (hcs c hc)).trans (List.map_id cs)
  have hlower : (w.rest prefixText).map lowered <+: (v.rest prefixText).map lowered := by
    rw [← underscored_path hw hwplain, ← underscored_path hv hvplain]
    exact underscored_prefix (path_ne_nil hw hwplain) h
  have hrest := hlower.map Char.toUpper
  rw [hback hwplain.chars, hback hvplain.chars] at hrest
  rw [← prefix_append_rest hw, ← prefix_append_rest hv, List.prefix_append_right_inj]
  exact hrest

end Variable

/-! ## The order in which variables are applied -/

theorem not_append_lt (cs rest : List Char) : ¬ cs ++ rest < cs := by
  induction cs with
  | nil => exact List.not_lt_nil rest
  | cons c cs ih => simpa [List.cons_lt_cons_iff] using ih

theorem Variable.name_le {prefixText : String} {v w : Variable} (hw : w.Matches prefixText)
    (hwplain : w.IsPlain prefixText) (hv : v.Matches prefixText) (hvplain : v.IsPlain prefixText)
    (h : w.path prefixText <+: v.path prefixText) : w.name ≤ v.name := by
  obtain ⟨rest, hrest⟩ := name_prefix hw hwplain hv hvplain h
  rw [← not_lt, String.lt_iff_toList_lt, ← hrest]
  exact not_append_lt _ rest

theorem pairwise_sortVariables (env : List Variable) :
    (sortVariables env).Pairwise fun v w => v.name ≤ w.name := by
  have htrans (u v w : Variable) (huv : decide (u.name ≤ v.name) = true)
      (hvw : decide (v.name ≤ w.name) = true) : decide (u.name ≤ w.name) = true :=
    decide_eq_true (le_trans (of_decide_eq_true huv) (of_decide_eq_true hvw))
  have htotal (v w : Variable) : (decide (v.name ≤ w.name) || decide (w.name ≤ v.name)) = true := by
    simpa using le_total v.name w.name
  refine (List.pairwise_mergeSort htrans htotal env).imp ?_
  intro v w hvw
  exact of_decide_eq_true hvw

/-- Where no name comes twice, later variables have greater names. -/
theorem name_lt_of_mem_after {env before after : List Variable} {v w : Variable}
    (hnames : (env.map Variable.name).Nodup) (henv : sortVariables env = before ++ v :: after)
    (hw : w ∈ after) : v.name < w.name := by
  have hsorted := pairwise_sortVariables env
  have hdistinct : ((sortVariables env).map Variable.name).Nodup :=
    ((List.mergeSort_perm env _).map Variable.name).nodup_iff.2 hnames
  rw [henv, List.pairwise_append, List.pairwise_cons] at hsorted
  rw [henv, List.map_append, List.map_cons, List.nodup_append, List.nodup_cons] at hdistinct
  have hle : v.name ≤ w.name := hsorted.2.1.1 w hw
  have hne : v.name ≠ w.name := by
    intro heq
    exact hdistinct.2.1.1 (heq ▸ List.mem_map_of_mem hw)
  exact lt_of_le_of_ne hle hne

end Settings
