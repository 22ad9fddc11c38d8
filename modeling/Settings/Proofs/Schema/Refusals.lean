import Settings.Proofs.Schema.Conformity
import Settings.Proofs.Schema.Nesting

/-!
# What is refused, and on which way

Every issue that resolving raises belongs to one thing that is refused: a value, a field without a
value or a key.  The way to it is recorded step by step, with a note where a stand-in is entered.
If every declared default is accepted, no stand-in is ever refused.
-/

namespace Settings

/-- One step of the way to a value.  If the value is the stand-in of a field, the position of the
field among its siblings is kept. -/
structure Segment where
  name : String
  standIn : Option Nat

namespace Segment

def given (name : String) : Segment := ⟨name, none⟩

def shown (g : Segment) : String :=
  match g.standIn with
  | none => g.name
  | some i => standInSegment i

@[simp] theorem name_given (name : String) : (given name).name = name := rfl

@[simp] theorem standIn_given (name : String) : (given name).standIn = none := rfl

@[simp] theorem shown_given (name : String) : (given name).shown = name := rfl

theorem map_shown_map_given (names : List String) : (names.map given).map shown = names := by
  rw [List.map_map]
  exact List.map_id names

theorem map_shown_of_given {path : List Segment} (h : ∀ g ∈ path, g.standIn = none) :
    path.map shown = path.map name := by
  apply List.map_congr_left
  intro g hg
  rw [shown, h g hg]

end Segment

namespace Field

/-- The step to the value of a field, which is the `i`-th of its siblings. -/
def segment (f : Field) (input : Entries) (i : Nat) : Segment :=
  ⟨f.name, if (input.get? (.str f.name)).isSome then none else some i⟩

@[simp] theorem name_segment (f : Field) (input : Entries) (i : Nat) :
    (f.segment input i).name = f.name := rfl

theorem shown_segment (f : Field) (input : Entries) (i : Nat) :
    (f.segment input i).shown = f.sourceSegment input i := by
  unfold segment sourceSegment
  split <;> rfl

theorem standIn_segment_eq_none_iff {f : Field} {input : Entries} {i : Nat} :
    (f.segment input i).standIn = none ↔ ∃ v, input.get? (.str f.name) = some v := by
  simp [segment, Option.isSome_iff_exists]

/-- Whether a field refuses a value itself, and not something inside it. -/
inductive Rejects (owner : String) : Field → Value → Problem → Prop where
  | scalar {info : FieldInfo} {kind : ScalarKind} {v : Value} {p : Problem}
      (hnull : ¬(isNullable (.scalar info kind) = true ∧ v = .null))
      (h : kind.convert v = .error p) : Rejects owner (.scalar info kind) v p
  | object {info : FieldInfo} {children : List Field} {rules : List Rule} {v : Value}
      (hnull : ¬(isNullable (.object info children rules) = true ∧ v = .null))
      (h : ∀ input, v ≠ .map input) :
      Rejects owner (.object info children rules) v (.notObject (owner ++ camelName info.name))

end Field

/-- An object on the way to a value: the name of its model, its fields and the entries that they
are resolved from. -/
structure Place where
  model : String
  fields : List Field
  input : Entries

namespace Place

/-- The objects that lie at and below a place. -/
inductive Reaches : Place → List Segment → Place → Prop where
  | here {q : Place} : Reaches q [] q
  | inside {q r : Place} {i : Nat} {info : FieldInfo} {children : List Field} {rules : List Rule}
      {inner : Entries} {path : List Segment}
      (hf : q.fields[i]? = some (.object info children rules))
      (hv : (Field.object info children rules).source? q.input = some (.map inner))
      (h : Reaches ⟨q.model ++ camelName info.name, children, inner⟩ path r) :
      Reaches q ((Field.object info children rules).segment q.input i :: path) r

/-- What is wrong right at a place. -/
inductive Refuses (q : Place) : Segment → Problem → Prop where
  | missing {f : Field} (hf : f ∈ q.fields) (h : f.source? q.input = none) :
      Refuses q (.given f.name) .missing
  | rejected {i : Nat} {f : Field} {v : Value} {p : Problem} (hf : q.fields[i]? = some f)
      (hv : f.source? q.input = some v) (h : f.Rejects q.model v p) :
      Refuses q (f.segment q.input i) p
  | unknownKey {key : String} {v : Value} (h : (.str key, v) ∈ q.input)
      (hkey : key ∉ q.fields.map Field.name) : Refuses q (.given key) .unknownKey
  | keyNotText {key v : Value} (h : (key, v) ∈ q.input) (hkey : ∀ name, key ≠ .str name) :
      Refuses q (.given (keySegment key)) .keyNotText

/-- The issues that resolving the entries of a place raises. -/
def issues (q : Place) : List Issue :=
  (Field.acceptAll q.model q.input 0 q.fields).issues ++
    strayKeys (q.fields.map Field.name) q.input

end Place

/-! ## The issues of one place -/

theorem mem_strayKeys_iff {names : List String} {entries : Entries} {x : Issue} :
    x ∈ strayKeys names entries ↔
      (∃ key v, (.str key, v) ∈ entries ∧ key ∉ names ∧ x = ⟨[key], .problem .unknownKey⟩) ∨
      ∃ key v, (key, v) ∈ entries ∧ (∀ name, key ≠ .str name) ∧
        x = ⟨[keySegment key], .problem .keyNotText⟩ := by
  rw [strayKeys, List.mem_filterMap]
  constructor
  · rintro ⟨⟨key, v⟩, he, hx⟩
    cases key with
    | str s =>
        left
        by_cases hs : s ∈ names
        · simp [strayKey?, hs] at hx
        · have hxs : ⟨[s], .problem .unknownKey⟩ = x := by simpa [strayKey?, hs] using hx
          exact ⟨s, v, he, hs, hxs.symm⟩
    | _ =>
        right
        exact ⟨_, v, he, by simp, (Option.some.inj hx).symm⟩
  · rintro (⟨key, v, he, hkey, rfl⟩ | ⟨key, v, he, hkey, rfl⟩)
    · exact ⟨_, he, by simp [strayKey?, hkey]⟩
    · refine ⟨_, he, ?_⟩
      cases key with
      | str s => exact absurd rfl (hkey s)
      | _ => rfl

namespace Field

theorem mem_issues_acceptAll_iff {model : String} {input : Entries} {fields : List Field}
    {x : Issue} {i : Nat} : x ∈ (acceptAll model input i fields).issues ↔
      ∃ j f, fields[j]? = some f ∧ x ∈ (acceptSource model input (i + j) f).issues := by
  apply mem_collected_iff (fun i f => (acceptSource model input i f).issues)
    fun i rest => (acceptAll model input i rest).issues
  · intro i
    rfl
  · intro i f rest
    rw [acceptAll_cons, Checked.issues_both]

theorem mem_issues_acceptSource_iff {model : String} {input : Entries} {i : Nat} {f : Field}
    {x : Issue} :
    x ∈ (acceptSource model input i f).issues ↔
      (f.source? input = none ∧ x = ⟨[f.name], .problem .missing⟩) ∨
      ∃ v y, f.source? input = some v ∧ y ∈ (f.accept model v).issues ∧
        x = y.under (f.segment input i).shown := by
  rw [acceptSource, shown_segment]
  cases f.source? input with
  | none => simp [Checked.issues]
  | some v =>
      rw [Checked.issues_under, List.mem_map]
      constructor
      · rintro ⟨y, hy, rfl⟩
        exact .inr ⟨v, y, rfl, hy, rfl⟩
      · rintro (⟨hnone, -⟩ | ⟨w, y, hw, hy, rfl⟩)
        · cases hnone
        · cases hw
          exact ⟨y, hy, rfl⟩

theorem mem_issues_accept_iff {owner : String} {v : Value} {f : Field} {x : Issue} :
    x ∈ (f.accept owner v).issues ↔ (∃ p, f.Rejects owner v p ∧ x = p.issue) ∨
      ∃ info children rules inner, f = .object info children rules ∧ v = .map inner ∧
        x ∈ (Place.mk (owner ++ camelName info.name) children inner).issues := by
  by_cases hnull : f.isNullable = true ∧ v = .null
  · obtain ⟨hn, rfl⟩ := hnull
    rw [accept_null hn]
    constructor
    · intro hx
      cases hx
    · rintro (⟨p, hp, -⟩ | ⟨info, children, rules, inner, -, hv, -⟩)
      · cases hp with
        | scalar hnull => exact absurd ⟨hn, rfl⟩ hnull
        | object hnull => exact absurd ⟨hn, rfl⟩ hnull
      · cases hv
  · cases f with
    | scalar info kind =>
        rw [accept_scalar hnull]
        constructor
        · intro hx
          cases hp : kind.convert v with
          | ok w =>
              rw [hp] at hx
              cases hx
          | error p =>
              rw [hp] at hx
              exact .inl ⟨p, .scalar hnull hp, List.mem_singleton.1 hx⟩
        · rintro (⟨p, hp, rfl⟩ | ⟨info', children, rules, inner, hf, -⟩)
          · cases hp with
            | scalar _ hp =>
                rw [hp]
                exact List.mem_singleton_self _
          · cases hf
    | object info children rules =>
        by_cases hv : ∃ inner, v = .map inner
        · obtain ⟨inner, rfl⟩ := hv
          rw [accept_object_map, Checked.issues_both, Checked.issues_ofIssues]
          constructor
          · intro hx
            exact .inr ⟨info, children, rules, inner, rfl, rfl, hx⟩
          · rintro (⟨p, hp, -⟩ | ⟨info', children', rules', inner', hf, hv, hx⟩)
            · cases hp with
              | object _ h => exact absurd rfl (h inner)
            · cases hf
              cases hv
              exact hx
        · have hmap : ∀ inner, v ≠ .map inner := fun inner h ↦ hv ⟨inner, h⟩
          rw [accept_object_other hnull hmap]
          constructor
          · intro hx
            exact .inl ⟨_, .object hnull hmap, List.mem_singleton.1 hx⟩
          · rintro (⟨p, hp, rfl⟩ | ⟨info', children', rules', inner', -, hv', -⟩)
            · cases hp
              exact List.mem_singleton_self _
            · exact absurd hv' (hmap inner')

end Field

namespace Place

/-- An issue of a place stands against the place itself or comes from an object inside it. -/
theorem mem_issues_step {q : Place} {x : Issue} :
    x ∈ q.issues ↔ (∃ last p, q.Refuses last p ∧ x = ⟨[last.shown], .problem p⟩) ∨
      ∃ i info children rules inner y, q.fields[i]? = some (.object info children rules) ∧
        (Field.object info children rules).source? q.input = some (.map inner) ∧
        y ∈ (Place.mk (q.model ++ camelName info.name) children inner).issues ∧
        x = y.under ((Field.object info children rules).segment q.input i).shown := by
  rw [issues, List.mem_append, Field.mem_issues_acceptAll_iff, mem_strayKeys_iff]
  constructor
  · rintro (⟨i, f, hf, hx⟩ | ⟨key, v, he, hkey, rfl⟩ | ⟨key, v, he, hkey, rfl⟩)
    · rw [Nat.zero_add] at hx
      rcases Field.mem_issues_acceptSource_iff.1 hx with ⟨hnone, rfl⟩ | ⟨v, y, hv, hy, rfl⟩
      · exact .inl ⟨_, _, .missing (List.mem_of_getElem? hf) hnone, rfl⟩
      · rcases Field.mem_issues_accept_iff.1 hy with ⟨p, hp, rfl⟩ | hinside
        · exact .inl ⟨_, _, .rejected hf hv hp, rfl⟩
        · obtain ⟨info, children, rules, inner, rfl, rfl, hinner⟩ := hinside
          exact .inr ⟨i, info, children, rules, inner, y, hf, hv, hinner, rfl⟩
    · exact .inl ⟨_, _, .unknownKey he hkey, rfl⟩
    · exact .inl ⟨_, _, .keyNotText he hkey, rfl⟩
  · rintro (⟨last, p, hlast, rfl⟩ | ⟨i, info, children, rules, inner, y, hf, hv, hy, rfl⟩)
    · cases hlast with
      | missing hf hnone =>
          obtain ⟨i, hi⟩ := List.getElem?_of_mem hf
          exact .inl ⟨i, _, hi, Field.mem_issues_acceptSource_iff.2 (.inl ⟨hnone, rfl⟩)⟩
      | @rejected i f v p hf hv hp =>
          have haccept : p.issue ∈ (f.accept q.model v).issues :=
            Field.mem_issues_accept_iff.2 (.inl ⟨p, hp, rfl⟩)
          refine .inl ⟨i, f, hf, Field.mem_issues_acceptSource_iff.2 (.inr ?_)⟩
          exact ⟨v, _, hv, haccept, by rw [Nat.zero_add]; rfl⟩
      | unknownKey he hkey => exact .inr (.inl ⟨_, _, he, hkey, rfl⟩)
      | keyNotText he hkey => exact .inr (.inr ⟨_, _, he, hkey, rfl⟩)
    · have haccept : y ∈ ((Field.object info children rules).accept q.model (.map inner)).issues :=
        Field.mem_issues_accept_iff.2 (.inr ⟨info, children, rules, inner, rfl, rfl, hy⟩)
      refine .inl ⟨i, _, hf, Field.mem_issues_acceptSource_iff.2 (.inr ?_)⟩
      exact ⟨_, y, hv, haccept, by rw [Nat.zero_add]⟩

theorem mem_issues_of_reaches {q r : Place} {path : List Segment} (hpath : q.Reaches path r)
    {last : Segment} {p : Problem} (hlast : r.Refuses last p) :
    ⟨(path ++ [last]).map Segment.shown, .problem p⟩ ∈ q.issues := by
  induction hpath with
  | here => exact mem_issues_step.2 (.inl ⟨last, p, hlast, rfl⟩)
  | @inside q r i info children rules inner path hf hv _ ih =>
      exact mem_issues_step.2 (.inr ⟨i, info, children, rules, inner, _, hf, hv, ih hlast, rfl⟩)

/-- The issues of a place are those of the objects that are reached from it. -/
theorem mem_issues_iff {q : Place} {x : Issue} :
    x ∈ q.issues ↔ ∃ path r last p, q.Reaches path r ∧ r.Refuses last p ∧
      x = ⟨(path ++ [last]).map Segment.shown, .problem p⟩ := by
  constructor
  · -- by induction on the path of the issue, which gets shorter on the way in
    obtain ⟨names, c⟩ := x
    induction names generalizing q with
    | nil =>
        intro hx
        rcases mem_issues_step.1 hx with ⟨last, p, -, hlast⟩ | ⟨i, info, cs, rs, es, y, -, -, -, hy⟩
        · cases hlast
        · cases hy
    | cons name names ih =>
        intro hx
        rcases mem_issues_step.1 hx with ⟨last, p, hlast, hx'⟩ |
          ⟨i, info, children, rules, inner, y, hf, hv, hy, hx'⟩
        · exact ⟨[], q, last, p, .here, hlast, hx'⟩
        · obtain ⟨⟨rfl, rfl⟩, rfl⟩ : (name = _ ∧ names = y.path) ∧ c = y.cause := by
            simpa [Issue.under] using hx'
          obtain ⟨path, r, last, p, hpath, hlast, hyp⟩ := ih hy
          refine ⟨_, r, last, p, .inside hf hv hpath, hlast, ?_⟩
          exact congrArg (Issue.under _) hyp
  · rintro ⟨path, r, last, p, hpath, hlast, rfl⟩
    exact mem_issues_of_reaches hpath hlast

end Place

/-! ## Stand-ins that are accepted -/

namespace Field

/-- Whether the defaults declared for a field and for all fields below it are accepted by the
field that declares them. -/
inductive DefaultsAccepted : Field → Prop where
  | mk {f : Field} (own : ∀ v ∈ f.info.defaultValue, ∃ owner w, f.accept owner v = .ok w)
      (below : ∀ c ∈ f.children, DefaultsAccepted c) : DefaultsAccepted f

theorem issues_accept_of_ok {owner owner' : String} {v w : Value} {f : Field}
    (h : f.accept owner v = .ok w) : (f.accept owner' v).issues = [] := by
  have hagrees := agrees_accept owner owner' "" v f
  rw [String.append_empty, String.append_empty, h] at hagrees
  generalize f.accept owner' v = x at hagrees
  cases hagrees with
  | ok => rfl

theorem source?_nil (f : Field) : f.source? [] = f.standIn? := rfl

theorem standIn?_cases {f : Field} {v : Value} (h : f.standIn? = some v) :
    v ∈ f.info.defaultValue ∨ (f.isNullable = true ∧ v = .null) ∨
      ∃ info children rules, f = .object info children rules ∧
        (∀ c ∈ children, c.resolvesWithoutInput = true) ∧ v = .map [] := by
  unfold standIn? at h
  split at h
  · next d hd =>
      left
      rw [hd]
      exact h
  · next hd =>
      right
      split at h
      · next hoptional =>
          cases h
          exact .inl ⟨isNullable_eq_true_iff.2 ⟨hoptional, hd⟩, rfl⟩
      · next hoptional =>
          split at h
          · next hobject =>
              cases f with
              | scalar info kind => simp [isObject] at hobject
              | object info children rules =>
                  have hchildren : allResolveWithoutInput children = true := by
                    simpa [isObject, resolvesWithoutInput, show info.defaultValue = none from hd,
                      show ¬info.isOptional = true from hoptional] using hobject
                  refine .inr ⟨info, children, rules, rfl, ?_, (Option.some.inj h).symm⟩
                  exact allResolveWithoutInput_eq_true_iff.1 hchildren
          · cases h

/-- If every declared default is accepted, so is every stand-in: a default, null or no entries. -/
theorem DefaultsAccepted.issues_standIn {f : Field} (h : f.DefaultsAccepted) {v : Value}
    (hv : f.standIn? = some v) (owner : String) : (f.accept owner v).issues = [] := by
  induction h generalizing v owner with
  | @mk f own below ih =>
      rcases standIn?_cases hv with hd | ⟨hnull, rfl⟩ | ⟨info, children, rules, rfl, hchildren, rfl⟩
      · obtain ⟨owner', w, hw⟩ := own v hd
        exact issues_accept_of_ok hw
      · rw [accept_null hnull]
        rfl
      · -- no child is given, so each of them is resolved from its own stand-in
        rw [List.eq_nil_iff_forall_not_mem]
        intro x hx
        rcases mem_issues_accept_iff.1 hx with ⟨p, hp, -⟩ | ⟨_, _, _, _, hf, hinner, hx⟩
        · cases hp with
          | object _ hmap => exact hmap [] rfl
        · cases hf
          cases hinner
          rcases Place.mem_issues_step.1 hx with ⟨last, p, hlast, -⟩ |
            ⟨i, info', children', rules', inner, y, hf, hsource, hy, -⟩
          · cases hlast with
            | @missing c hc hnone =>
                have hsome := standIn?_isSome c
                rw [← source?_nil, hnone, hchildren c hc] at hsome
                cases hsome
            | @rejected i c v p hc hsource hp =>
                have hmem : c ∈ children := List.mem_of_getElem? hc
                have haccept : p.issue ∈ (c.accept _ v).issues :=
                  mem_issues_accept_iff.2 (.inl ⟨p, hp, rfl⟩)
                rw [ih c hmem hsource] at haccept
                cases haccept
            | unknownKey hkey => cases hkey
            | keyNotText hkey => cases hkey
          · have hmem := List.mem_of_getElem? hf
            have haccept : y ∈ ((object info' children' rules').accept
                (owner ++ camelName info.name) (.map inner)).issues :=
              mem_issues_accept_iff.2 (.inr ⟨info', children', rules', inner, rfl, rfl, hy⟩)
            rw [ih _ hmem hsource] at haccept
            cases haccept

theorem source?_eq_standIn? {f : Field} {input : Entries} {i : Nat}
    (h : (f.segment input i).standIn ≠ none) : f.source? input = f.standIn? := by
  have hget : input.get? (.str f.name) = none := by
    rw [Ne, standIn_segment_eq_none_iff, not_exists] at h
    exact Option.eq_none_iff_forall_ne_some.2 h
  rw [source?, hget]

/-- Where every declared default is accepted, a value that raises issues was given. -/
theorem DefaultsAccepted.standIn_segment {f : Field} (hf : f.DefaultsAccepted) {input : Entries}
    {v : Value} (hv : f.source? input = some v) {owner : String} {x : Issue}
    (hx : x ∈ (f.accept owner v).issues) (i : Nat) : (f.segment input i).standIn = none := by
  by_contra hne
  rw [source?_eq_standIn? hne] at hv
  rw [hf.issues_standIn hv] at hx
  cases hx

end Field

namespace Place

variable {q r : Place} {path : List Segment}

theorem Reaches.level (h : q.Reaches path r) :
    Field.Level q.fields (path.map Segment.name) r.fields := by
  induction h with
  | here => exact .root
  | inside hf hv _ ih => exact .inside (List.mem_of_getElem? hf) ih

/-- Where every declared default is accepted, the way to something refused goes through the given
entries. -/
theorem Reaches.given (h : q.Reaches path r) (hq : ∀ f ∈ q.fields, f.DefaultsAccepted)
    {last : Segment} {p : Problem} (hlast : r.Refuses last p) :
    (∀ g ∈ path ++ [last], g.standIn = none) ∧
      (Value.map q.input).at? (textPath (path.map Segment.name)) = some (.map r.input) := by
  induction h with
  | here =>
      refine ⟨fun g hg ↦ ?_, rfl⟩
      obtain rfl := List.mem_singleton.1 hg
      cases hlast with
      | rejected hf hv hp =>
          have haccept := Field.mem_issues_accept_iff.2 (.inl ⟨_, hp, rfl⟩)
          exact (hq _ (List.mem_of_getElem? hf)).standIn_segment hv haccept _
      | _ => rfl
  | @inside q r i info children rules inner path hf hv hpath ih =>
      have hobject := hq _ (List.mem_of_getElem? hf)
      have hchildren : ∀ c ∈ children, c.DefaultsAccepted := by
        cases hobject with
        | mk own below => exact below
      obtain ⟨hrest, hat⟩ := ih hchildren hlast
      have haccept := Field.mem_issues_accept_iff.2
        (.inr ⟨info, children, rules, inner, rfl, rfl, mem_issues_of_reaches hpath hlast⟩)
      have hgiven := hobject.standIn_segment hv haccept i
      refine ⟨fun g hg ↦ ?_, ?_⟩
      · rcases List.mem_cons.1 hg with rfl | hg
        · exact hgiven
        · exact hrest g hg
      · obtain ⟨v, hget⟩ := Field.standIn_segment_eq_none_iff.1 hgiven
        have hsource : (Field.object info children rules).source? q.input = some v := by
          rw [Field.source?, hget]
        obtain rfl : v = .map inner := Option.some.inj (hsource.symm.trans hv)
        rw [List.map_cons, Field.name_segment, textPath_cons, Value.at?_map_cons, hget]
        exact hat

end Place

end Settings
