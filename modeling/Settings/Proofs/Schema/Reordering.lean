import Settings.Proofs.Schema.NormalForm
import Settings.Proofs.Schema.Refusals
import Settings.Proofs.Schema.Section

/-!
# The order of keys

The keys of a configuration, and those of the maps given for declared objects in it, may come in any
order.  What the configuration resolves to does not depend on it, and neither does what is wrong with
it, except that keys which no field has are reported in the order in which they are given.
-/

namespace Settings

/-- Whether no text comes twice among the keys of a map. -/
def Entries.TextKeysDistinct (entries : Entries) : Prop :=
  entries.Pairwise fun e e' => ∀ name, e.1 = .str name → e'.1 ≠ .str name

/-- Whether one gets from some entries to others by putting keys into another order, now here and now
there: the keys of the entries themselves, or those of a map that is given for a declared object at
any depth. -/
inductive Reordered : List Field → Entries → Entries → Prop where
  | keys {fields : List Field} {input input' : Entries} (hdistinct : input.TextKeysDistinct)
      (h : input.Perm input') : Reordered fields input input'
  | inside {fields children : List Field} {info : FieldInfo} {rules : List Rule}
      {before after inner inner' : Entries} (hf : .object info children rules ∈ fields)
      (h : Reordered children inner inner') :
      Reordered fields (before ++ (.str info.name, .map inner) :: after)
        (before ++ (.str info.name, .map inner') :: after)
  | trans {fields : List Field} {input middle input' : Entries}
      (h : Reordered fields input middle) (h' : Reordered fields middle input') :
      Reordered fields input input'

/-- Whether two values given for a field are equal, or maps for an object that differ in the order of
keys. -/
inductive Field.ReorderedValue : Field → Value → Value → Prop where
  | same (f : Field) (v : Value) : ReorderedValue f v v
  | map {info : FieldInfo} {children : List Field} {rules : List Rule} {inner inner' : Entries}
      (h : Reordered children inner inner') :
      ReorderedValue (.object info children rules) (.map inner) (.map inner')

/-! ## Looking keys up -/

namespace Entries

theorem get?_append (entries entries' : Entries) (key : Value) :
    get? (entries ++ entries') key = (entries.get? key).or (entries'.get? key) := by
  simp [get?, List.find?_append, Option.map_or]

theorem get?_of_mem {entries : Entries} (h : entries.TextKeysDistinct) {name : String} {v : Value}
    (hmem : (.str name, v) ∈ entries) : entries.get? (.str name) = some v := by
  induction entries with
  | nil => cases hmem
  | cons e rest ih =>
      obtain ⟨key, w⟩ := e
      obtain ⟨hfirst, hrest⟩ := List.pairwise_cons.1 h
      rcases List.mem_cons.1 hmem with heq | hmem
      · cases heq
        simp
      · have hne : ¬ Value.sameScalar (.str name) key = true := by
          rw [Value.sameScalar_str_eq_true_iff]
          intro hkey
          exact hfirst _ hmem name hkey rfl
        rw [get?_cons, if_neg hne]
        exact ih hrest hmem

theorem TextKeysDistinct.perm {entries entries' : Entries} (h : entries.TextKeysDistinct)
    (hperm : entries.Perm entries') : entries'.TextKeysDistinct := by
  refine (hperm.pairwise_iff ?_).1 h
  intro e e' hne name hkey hkey'
  exact hne name hkey' hkey

theorem get?_perm {entries entries' : Entries} (h : entries.TextKeysDistinct)
    (hperm : entries.Perm entries') (name : String) :
    entries.get? (.str name) = entries'.get? (.str name) := by
  have hmem {es : Entries} {v : Value} (hv : es.get? (.str name) = some v) :
      (.str name, v) ∈ es := by
    obtain ⟨⟨key, w⟩, he, rfl, rfl⟩ := exists_of_get? hv
    exact he
  apply Option.ext
  intro v
  constructor
  · intro hv
    exact get?_of_mem (h.perm hperm) (hperm.subset (hmem hv))
  · intro hv
    exact get?_of_mem h (hperm.symm.subset (hmem hv))

end Entries

/-! ## What another order changes -/

namespace Reordered

variable {fields : List Field} {input input' : Entries}

theorem map_fst (h : Reordered fields input input') :
    (input.map Prod.fst).Perm (input'.map Prod.fst) := by
  induction h with
  | keys _ h => exact h.map Prod.fst
  | inside => simp
  | trans _ _ ih ih' => exact ih.trans ih'

theorem strayKeys (h : Reordered fields input input') (names : List String) :
    (strayKeys names input).Perm (Settings.strayKeys names input') := by
  have hkeys (entries : Entries) : Settings.strayKeys names entries =
      (entries.map Prod.fst).filterMap (strayKey? names) := by
    rw [Settings.strayKeys, List.filterMap_map]
    rfl
  rw [hkeys, hkeys]
  exact h.map_fst.filterMap _

end Reordered

namespace Field.ReorderedValue

theorem trans {f : Field} {u v w : Value} (h : f.ReorderedValue u v) (h' : f.ReorderedValue v w) :
    f.ReorderedValue u w := by
  cases h with
  | same => exact h'
  | map h =>
      cases h' with
      | same => exact .map h
      | map h' => exact .map (h.trans h')

end Field.ReorderedValue

/-- Each field is given a value in both orders or in none, and the two values are equal up to the
order of keys. -/
theorem Reordered.get? {fields : List Field} (hnames : (fields.map Field.name).Nodup)
    {input input' : Entries} (h : Reordered fields input input') {f : Field} (hf : f ∈ fields) :
    Option.Rel f.ReorderedValue (input.get? (.str f.name)) (input'.get? (.str f.name)) := by
  have hrefl (o : Option Value) : Option.Rel f.ReorderedValue o o := by
    cases o with
    | none => exact .none
    | some v => exact .some (.same f v)
  induction h with
  | keys hdistinct h =>
      rw [Entries.get?_perm hdistinct h]
      exact hrefl _
  | @inside fields children info rules before after inner inner' hobject h _ =>
      rw [Entries.get?_append, Entries.get?_append]
      cases before.get? (.str f.name) with
      | some v => exact hrefl (some v)
      | none =>
          rw [Option.none_or, Option.none_or, Entries.get?_str_cons_str,
            Entries.get?_str_cons_str]
          by_cases hname : f.name = info.name
          · obtain rfl : f = .object info children rules := by
              have hfound := Field.find?_name hnames hf
              rw [hname] at hfound
              exact Option.some.inj (hfound.symm.trans (Field.find?_name hnames hobject))
            rw [if_pos hname, if_pos hname]
            exact .some (.map h)
          · rw [if_neg hname, if_neg hname]
            exact hrefl _
  | @trans fields input middle input' _ _ ih ih' =>
      have hfirst := ih hnames hf
      have hsecond := ih' hnames hf
      generalize input.get? (.str f.name) = u at hfirst
      generalize middle.get? (.str f.name) = v at hfirst hsecond
      generalize input'.get? (.str f.name) = w at hsecond
      cases hfirst with
      | none =>
          cases hsecond with
          | none => exact .none
      | some huv =>
          cases hsecond with
          | some hvw => exact .some (huv.trans hvw)

/-! ## Issues that come in another order -/

namespace Place

/-- The issues with the keys of a place that no field there has. -/
def strays (q : Place) : List Issue := strayKeys (q.fields.map Field.name) q.input

/-- Stretches of the issues of two places: the same issues, or those with the keys that no field has
of one and the same object, which may come in different orders. -/
inductive Stretch (q q' : Place) : List Issue → List Issue → Prop where
  | same (is : List Issue) : Stretch q q' is is
  | keys {path : List Segment} {r r' : Place} (hpath : q.Reaches path r)
      (hpath' : q'.Reaches path r') (h : r.strays.Perm r'.strays) :
      Stretch q q' (r.strays.map (Issue.below (path.map Segment.shown)))
        (r'.strays.map (Issue.below (path.map Segment.shown)))

/-- Whether two lists of issues are made of such stretches. -/
def SameButKeys (q q' : Place) (is is' : List Issue) : Prop :=
  ∃ parts parts', List.Forall₂ (Stretch q q') parts parts' ∧ is = parts.flatten ∧
    is' = parts'.flatten

variable {q q' : Place}

theorem Stretch.sameButKeys {is is' : List Issue} (h : Stretch q q' is is') :
    SameButKeys q q' is is' :=
  ⟨[is], [is'], .cons h .nil, by simp, by simp⟩

theorem sameButKeys_append (is is' js js' : List Issue) (h : SameButKeys q q' is is')
    (h' : SameButKeys q q' js js') : SameButKeys q q' (is ++ js) (is' ++ js') := by
  obtain ⟨parts, parts', hparts, rfl, rfl⟩ := h
  obtain ⟨more, more', hmore, rfl, rfl⟩ := h'
  refine ⟨parts ++ more, parts' ++ more', List.rel_append hparts hmore, ?_, ?_⟩
  · rw [List.flatten_append]
  · rw [List.flatten_append]

/-- A key is no literal, so its issue is not about a number that became too large. -/
theorem overflow?_of_mem_strays {i : Issue} (h : i ∈ q.strays) : i.overflow? = none := by
  obtain ⟨key, -, hkey⟩ := List.mem_filterMap.1 h
  unfold strayKey? at hkey
  grind [Issue.overflow?]

theorem Stretch.findSome?_overflow? {is is' : List Issue} (h : Stretch q q' is is') :
    is.findSome? Issue.overflow? = is'.findSome? Issue.overflow? := by
  cases h with
  | same => rfl
  | @keys path r r' _ _ _ =>
      have hnone (p : Place) : (p.strays.map (Issue.below (path.map Segment.shown))).findSome?
          Issue.overflow? = none := by
        rw [List.findSome?_map, List.findSome?_eq_none_iff]
        intro i hi
        change i.overflow? = none
        exact overflow?_of_mem_strays hi
      rw [hnone, hnone]

/-- Another order of keys does not change which number is the first to become too large. -/
theorem SameButKeys.findSome?_overflow? {is is' : List Issue} (h : SameButKeys q q' is is') :
    is.findSome? Issue.overflow? = is'.findSome? Issue.overflow? := by
  obtain ⟨parts, parts', hparts, rfl, rfl⟩ := h
  induction hparts with
  | nil => rfl
  | cons hpart _ ih =>
      rw [List.flatten_cons, List.flatten_cons, List.findSome?_append, List.findSome?_append,
        hpart.findSome?_overflow?, ih]

/-- What holds of the issues of an object inside two places holds of them as issues of the places. -/
theorem SameButKeys.under {model : String} {fields children : List Field} {i : Nat}
    {info : FieldInfo} {rules : List Rule} {input input' inner inner' : Entries}
    {is is' : List Issue} (hf : fields[i]? = some (.object info children rules))
    (hv : (Field.object info children rules).source? input = some (.map inner))
    (hv' : (Field.object info children rules).source? input' = some (.map inner'))
    (hsegment : (Field.object info children rules).segment input i =
      (Field.object info children rules).segment input' i)
    (h : SameButKeys ⟨model ++ camelName info.name, children, inner⟩
      ⟨model ++ camelName info.name, children, inner'⟩ is is') :
    SameButKeys ⟨model, fields, input⟩ ⟨model, fields, input'⟩
      (is.map (Issue.under ((Field.object info children rules).segment input i).shown))
      (is'.map (Issue.under ((Field.object info children rules).segment input i).shown)) := by
  obtain ⟨parts, parts', hparts, rfl, rfl⟩ := h
  refine ⟨parts.map (List.map (Issue.under _)), parts'.map (List.map (Issue.under _)), ?_,
    List.map_flatten, List.map_flatten⟩
  rw [List.forall₂_map_left_iff, List.forall₂_map_right_iff]
  refine hparts.imp fun part part' hpart ↦ ?_
  cases hpart with
  | same => exact .same _
  | @keys path r r' hpath hpath' hperm =>
      have houter : (Place.mk model fields input).Reaches
          ((Field.object info children rules).segment input i :: path) r := .inside hf hv hpath
      have houter' : (Place.mk model fields input').Reaches
          ((Field.object info children rules).segment input i :: path) r' := by
        rw [hsegment]
        exact .inside hf hv' hpath'
      rw [← Issue.map_below_cons, ← Issue.map_below_cons]
      exact .keys houter houter' hperm

theorem agrees_refl (x : Checked α) : Agrees (SameButKeys q q') Eq x x := by
  cases x with
  | ok a => exact .ok rfl
  | error is => exact .error (Stretch.same is).sameButKeys

theorem agrees_strays (h : q.strays.Perm q'.strays) :
    Agrees (SameButKeys q q') Eq (Checked.ofIssues () q.strays) (Checked.ofIssues () q'.strays) := by
  have hroot : Stretch q q' (q.strays.map (Issue.below []))
      (q'.strays.map (Issue.below [])) := .keys .here .here h
  rw [Issue.map_below_nil, Issue.map_below_nil] at hroot
  cases hq : q.strays with
  | nil =>
      rw [hq, List.nil_perm] at h
      rw [h]
      exact .ok rfl
  | cons x xs =>
      cases hq' : q'.strays with
      | nil =>
          rw [hq, hq', List.perm_nil] at h
          cases h
      | cons y ys =>
          rw [hq, hq'] at hroot
          exact .error hroot.sameButKeys

end Place

namespace Field

theorem acceptSource_eq_under {model : String} {input : Entries} {f : Field} {v : Value}
    (h : f.source? input = some v) (i : Nat) :
    f.acceptSource model input i =
      Checked.under (f.segment input i).shown (f.accept model v) := by
  rw [acceptSource, h, shown_segment]

theorem agrees_acceptAll_of_source {R : List Issue → List Issue → Prop}
    (happend : ∀ is js is' js', R is js → R is' js' → R (is ++ is') (js ++ js'))
    {model : String} {input input' : Entries} {fields : List Field} (i : Nat)
    (h : ∀ j (f : Field), fields[j]? = some f →
      Agrees R Eq (f.acceptSource model input (i + j)) (f.acceptSource model input' (i + j))) :
    Agrees R Eq (acceptAll model input i fields) (acceptAll model input' i fields) := by
  induction fields generalizing i with
  | nil => exact .ok rfl
  | cons f rest ih =>
      rw [acceptAll_cons, acceptAll_cons]
      refine .both happend _ (h 0 f rfl) (ih (i + 1) ?_)
      intro j g hj
      have hnext := h (j + 1) g hj
      rwa [← Nat.add_assoc, Nat.add_right_comm] at hnext

/-- What holds inside all declared objects holds of a field: it makes the same of entries in another
order, or the same is wrong with them. -/
theorem agrees_acceptSource_of_reordered {fields : List Field}
    (hnames : (fields.map Field.name).Nodup)
    {input input' : Entries} (h : Reordered fields input input') {i : Nat} {f : Field}
    (hi : fields[i]? = some f)
    (hinside : ∀ inner inner', Reordered f.children inner inner' → ∀ model,
      Agrees (Place.SameButKeys ⟨model, f.children, inner⟩ ⟨model, f.children, inner'⟩) Eq
        (resolveLevel model f.children inner) (resolveLevel model f.children inner'))
    (model : String) :
    Agrees (Place.SameButKeys ⟨model, fields, input⟩ ⟨model, fields, input'⟩) Eq
      (f.acceptSource model input i) (f.acceptSource model input' i) := by
  have hget := h.get? hnames (List.mem_of_getElem? hi)
  generalize hv : input.get? (.str f.name) = u at hget
  generalize hv' : input'.get? (.str f.name) = u' at hget
  cases hget with
  | none =>
      have hsame : f.acceptSource model input i = f.acceptSource model input' i := by
        simp only [acceptSource, source?, sourceSegment, hv, hv']
      rw [hsame]
      exact Place.agrees_refl _
  | @some v v' hvalue =>
      have hgiven : f.source? input = some v := by rw [source?, hv]
      have hgiven' : f.source? input' = some v' := by rw [source?, hv']
      have hsegment : f.segment input i = f.segment input' i := by
        rw [segment, segment, hv, hv']
        rfl
      rw [acceptSource_eq_under hgiven, acceptSource_eq_under hgiven', ← hsegment]
      cases hvalue with
      | same => exact Place.agrees_refl _
      | @map info children rules inner inner' hinner =>
          have hlevels : Agrees _ Eq (resolveLevel (model ++ camelName info.name) children inner)
              (resolveLevel (model ++ camelName info.name) children inner') :=
            hinside inner inner' hinner (model ++ camelName info.name)
          rw [accept_object_eq_resolveLevel, accept_object_eq_resolveLevel]
          generalize resolveLevel _ children inner = x at hlevels ⊢
          generalize resolveLevel _ children inner' = y at hlevels ⊢
          cases hlevels with
          | ok heq => exact .ok (congrArg Value.map heq)
          | error his => exact .error (his.under hi hgiven hgiven' hsegment)

theorem agrees_resolveLevel_of_reordered {fields : List Field} (hfields : Distinct fields)
    {input input' : Entries} (h : Reordered fields input input') (model : String) :
    Agrees (Place.SameButKeys ⟨model, fields, input⟩ ⟨model, fields, input'⟩) Eq
      (resolveLevel model fields input) (resolveLevel model fields input') := by
  induction hfields generalizing model input input' with
  | @mk fields hnames hbelow ih =>
      refine .both Place.sameButKeys_append _ ?_ (Place.agrees_strays (h.strayKeys _))
      apply agrees_acceptAll_of_source Place.sameButKeys_append 0
      intro j f hj
      rw [Nat.zero_add]
      apply agrees_acceptSource_of_reordered hnames h hj
      intro inner inner' hinner m
      exact ih f (List.mem_of_getElem? hj) hinner m

end Field

namespace Schema

theorem parse_eq_error_of_resolve {s : Schema} {data : Value} {e : ParseError}
    (h : s.resolve data = .error e) (lint : Bool) : s.parse data lint = .error e := by
  rw [parse, h]
  rfl

theorem lint_eq_error_of_resolve {s : Schema} {data : Value} {e : ParseError}
    (h : s.resolve data = .error e) : s.lint data = .error e := by
  rw [Schema.lint, h]
  rfl

/-- With the keys in another order either everything stays as it is, the findings of rules included,
or nothing can be parsed, and the keys that no field of an object has are reported in another order
among themselves.  Where a number in a literal becomes too large, both orders end at the same one. -/
theorem parse_reordered {s : Schema} (hs : s.Built) {input input' : Entries}
    (h : Reordered s.fields input input') :
    ((∃ a, s.parse (.map input) false = .ok a) ∧
        (∀ lint, s.parse (.map input) lint = s.parse (.map input') lint) ∧
        s.lint (.map input) = s.lint (.map input')) ∨
      (∃ is is', (∀ lint, s.parse (.map input) lint = .error (.issues is) ∧
          s.parse (.map input') lint = .error (.issues is')) ∧
        s.lint (.map input) = .error (.issues is) ∧ s.lint (.map input') = .error (.issues is') ∧
        Place.SameButKeys ⟨rootModel, s.fields, input⟩ ⟨rootModel, s.fields, input'⟩ is is') ∨
      ∃ cause, cause.isRefusal = false ∧
        (∀ lint, s.parse (.map input) lint = .error (.duration cause) ∧
          s.parse (.map input') lint = .error (.duration cause)) ∧
        s.lint (.map input) = .error (.duration cause) ∧
        s.lint (.map input') = .error (.duration cause) := by
  have hlevels := Field.agrees_resolveLevel_of_reordered hs.distinct h rootModel
  have hresolve (entries : Entries) : s.resolve (.map entries) =
      (resolveLevel rootModel s.fields entries).mapError .ofIssues := rfl
  generalize hx : resolveLevel rootModel s.fields input = x at hlevels
  generalize hy : resolveLevel rootModel s.fields input' = y at hlevels
  cases hlevels with
  | @ok values _ heq =>
      subst heq
      have hfirst : s.resolve (.map input) = .ok values := by rw [hresolve, hx]; rfl
      have hsecond : s.resolve (.map input') = .ok values := by rw [hresolve, hy]; rfl
      refine .inl ⟨⟨.ofEntries values, ?_⟩, fun lint ↦ ?_, ?_⟩
      · rw [parse, hfirst]
        rfl
      · rw [parse, parse, hfirst, hsecond]
      · rw [Schema.lint, Schema.lint, hfirst, hsecond]
  | @error is is' his =>
      have hfirst : s.resolve (.map input) = .error (.ofIssues is) := by rw [hresolve, hx]; rfl
      have hsecond : s.resolve (.map input') = .error (.ofIssues is') := by rw [hresolve, hy]; rfl
      have hsame := his.findSome?_overflow?
      rcases ParseError.ofIssues_cases is with ⟨js, hjs⟩ | ⟨cause, hcause, hrefusal⟩
      · obtain ⟨rfl, hnone⟩ := ParseError.ofIssues_eq_issues_iff.1 hjs
        rw [List.findSome?_eq_none_iff.2 hnone, eq_comm, List.findSome?_eq_none_iff] at hsame
        rw [hjs] at hfirst
        rw [ParseError.ofIssues_of_none hsame] at hsecond
        exact .inr (.inl ⟨is, is', fun lint ↦ ⟨parse_eq_error_of_resolve hfirst lint,
          parse_eq_error_of_resolve hsecond lint⟩, lint_eq_error_of_resolve hfirst,
          lint_eq_error_of_resolve hsecond, his⟩)
      · rw [ParseError.ofIssues_eq_duration_iff.1 hcause, eq_comm,
          ← ParseError.ofIssues_eq_duration_iff] at hsame
        rw [hcause] at hfirst
        rw [hsame] at hsecond
        exact .inr (.inr ⟨cause, hrefusal, fun lint ↦ ⟨parse_eq_error_of_resolve hfirst lint,
          parse_eq_error_of_resolve hsecond lint⟩, lint_eq_error_of_resolve hfirst,
          lint_eq_error_of_resolve hsecond⟩)

/-- An object with two numbers beside a text. -/
def rangeSchema : Schema :=
  ⟨[.object { name := "range" } [.scalar { name := "low" } .int, .scalar { name := "high" } .int] [],
    .scalar { name := "label" } .string]⟩

def rangeInput : Entries :=
  [(.str "range", .map [(.str "step", .int 2), (.int 3, .null), (.str "high", .int 9)]),
   (.str "note", .null), (.str "unit", .str "m")]

def rangeInput' : Entries :=
  [(.str "unit", .str "m"), (.str "note", .null),
   (.str "range", .map [(.str "high", .int 9), (.int 3, .null), (.str "step", .int 2)])]

theorem built_rangeSchema : rangeSchema.Built := by
  have hlow : Field.Built (.scalar { name := "low" } .int) := .newScalar (by decide) .int
  have hhigh : Field.Built (.scalar { name := "high" } .int) := .newScalar (by decide) .int
  have hrange : Field.Built (.object { name := "range" }
      [.scalar { name := "low" } .int, .scalar { name := "high" } .int] []) :=
    .newObject (by decide) (by decide) (by simp [hlow, hhigh])
  have hlabel : Field.Built (.scalar { name := "label" } .string) := .newScalar (by decide) .string
  exact built_of_fields (by decide) (by simp [rangeSchema, hrange, hlabel])

theorem reordered_rangeInput : Reordered rangeSchema.fields rangeInput rangeInput' := by
  have hrange : Field.object { name := "range" }
      [.scalar { name := "low" } .int, .scalar { name := "high" } .int] [] ∈ rangeSchema.fields :=
    List.mem_cons_self
  have hreverse (fields : List Field) {entries : Entries} (h : entries.TextKeysDistinct) :
      Reordered fields entries entries.reverse := .keys h (List.reverse_perm _).symm
  have hinner : Entries.TextKeysDistinct
      [(.str "step", .int 2), (.int 3, .null), (.str "high", .int 9)] := by
    simp [Entries.TextKeysDistinct]
  have hinside : Reordered rangeSchema.fields rangeInput.reverse rangeInput' :=
    @Reordered.inside _ _ _ _ [_, _] [] _ _ hrange (hreverse _ hinner)
  refine .trans (hreverse _ ?_) hinside
  simp [rangeInput, Entries.TextKeysDistinct]

theorem parse_reordered_rangeInput :
    rangeSchema.Built ∧ Reordered rangeSchema.fields rangeInput rangeInput' ∧
      ∃ is is', rangeSchema.parse (.map rangeInput) true = .error (.issues is) ∧
        rangeSchema.parse (.map rangeInput') true = .error (.issues is') ∧
        is.map Issue.path = [["range", "low"], ["range", "step"], ["range", "3"], ["label"],
          ["note"], ["unit"]] ∧
        is'.map Issue.path = [["range", "low"], ["range", "3"], ["range", "step"], ["label"],
          ["unit"], ["note"]] ∧
        Place.SameButKeys ⟨rootModel, rangeSchema.fields, rangeInput⟩
          ⟨rootModel, rangeSchema.fields, rangeInput'⟩ is is' := by
  refine ⟨built_rangeSchema, reordered_rangeInput, ?_⟩
  rcases parse_reordered built_rangeSchema reordered_rangeInput with
    ⟨⟨a, ha⟩, -⟩ | ⟨is, is', hparse, -, -, hsame⟩ | ⟨cause, -, hparse, -⟩
  · cases ha
  · obtain ⟨hfirst, hsecond⟩ := hparse true
    refine ⟨is, is', hfirst, hsecond, ?_, ?_, hsame⟩
    · cases hfirst
      rfl
    · cases hsecond
      rfl
  · obtain ⟨hfirst, -⟩ := hparse true
    cases hfirst

end Schema

end Settings
