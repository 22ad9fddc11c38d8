import Settings.Proofs.Backoff.Shape
import Settings.Proofs.Schema.Location

/-!
# Defaults of durations

However a field comes about, by declarations and builder steps of which some fail, the default of a
duration field is a literal, at every depth.  A field without a given value may be reached through
given objects or through stand-ins; wherever it falls back to such a default, nothing is refused.
-/

namespace Settings

namespace Field

/-! ## Runs of builder steps -/

/-- The field after a builder step; one that fails leaves it as it was. -/
def next (f : Field) (s : Step) : Field :=
  match s.apply f with
  | .ok g => g
  | .error _ => f

def afterSteps (f : Field) (steps : List Step) : Field := steps.foldl next f

@[simp] theorem afterSteps_nil (f : Field) : f.afterSteps [] = f := rfl

@[simp] theorem afterSteps_cons (f : Field) (s : Step) (steps : List Step) :
    f.afterSteps (s :: steps) = (f.next s).afterSteps steps := rfl

theorem Built.next {f : Field} (hf : f.Built) (s : Step) : (f.next s).Built := by
  unfold Field.next
  cases h : s.apply f with
  | ok g => exact .step hf h
  | error e => exact hf

theorem Built.afterSteps {f : Field} (hf : f.Built) (steps : List Step) :
    (f.afterSteps steps).Built := by
  induction steps generalizing f with
  | nil => exact hf
  | cons s steps ih =>
      rw [afterSteps_cons]
      exact ih (hf.next s)

/-- The fields that declarations lead to, each followed by any builder steps. -/
inductive Declared : Field → Prop where
  | scalar {kind : ScalarKind} {name : Value} {f : Field} (h : newScalar kind name = .ok f)
      (steps : List Step) : Declared (f.afterSteps steps)
  | object {name : Value} {candidates : List Candidate} {f : Field}
      (children : ∀ c, .field c ∈ candidates → Declared c) (h : newObject name candidates = .ok f)
      (steps : List Step) : Declared (f.afterSteps steps)
  | backoff {toggled allowUnbounded : Bool} {name : Value} {template : Option Backoff.Policy}
      {f : Field} (h : Backoff.newField toggled name allowUnbounded template = .ok f)
      (steps : List Step) : Declared (f.afterSteps steps)

theorem Declared.built {f : Field} (h : f.Declared) : f.Built := by
  induction h with
  | scalar h steps => exact (Built.scalar h).afterSteps steps
  | object _ h steps ih => exact (Built.object ih h).afterSteps steps
  | backoff h steps => exact (Backoff.built_newField h).afterSteps steps

/-! ## What holds at every depth -/

/-- What declarations and builder steps guarantee of one field. -/
structure Sound (f : Field) : Prop where
  name : Text.isBlankText f.name = false
  children : (f.children.map Field.name).Nodup
  scalar : f.isObject = false → f.children = [] ∧ f.rules = []
  literal : ∀ info, f = .scalar info .duration → ∀ v ∈ info.defaultValue,
    ∃ text d, v = .str text ∧ Duration.ofText text = .ok d

theorem WellFormed.sound {f : Field} (h : f.WellFormed) : f.Sound := by
  cases h with
  | @scalar info kind hname hdefault =>
      refine ⟨hname, List.nodup_nil, fun _ ↦ ⟨rfl, rfl⟩, ?_⟩
      intro info' heq v hv
      cases heq
      exact Duration.isLiteral_eq_true_iff.1 (hdefault rfl v hv)
  | @object info children rules hname hnames hchildren =>
      refine ⟨hname, hnames, fun hscalar ↦ ?_, ?_⟩
      · cases hscalar
      · intro info' heq
        cases heq

theorem Level.wellFormed {fields level : List Field} {path : List String}
    (h : Level fields path level) (hfields : ∀ f ∈ fields, f.WellFormed) :
    ∀ f ∈ level, f.WellFormed := by
  induction h with
  | root => exact hfields
  | inside hf _ ih =>
      apply ih
      cases hfields _ hf with
      | object _ _ hchildren => exact hchildren

theorem Declared.sound {f : Field} (h : f.Declared) {path : List String} {level : List Field}
    (hlevel : Level [f] path level) : ∀ g ∈ level, g.Sound := by
  intro g hg
  apply WellFormed.sound
  apply hlevel.wellFormed _ g hg
  intro f' hf'
  obtain rfl := List.mem_singleton.1 hf'
  exact h.built.wellFormed

theorem Sound.not_rejects {info : FieldInfo} (h : (Field.scalar info .duration).Sound) {v : Value}
    (hv : v ∈ info.defaultValue) (owner : String) (p : Problem) :
    ¬(Field.scalar info .duration).Rejects owner v p := by
  intro hrejects
  cases hrejects with
  | scalar _ hconvert =>
      obtain ⟨text, d, rfl, hd⟩ := h.literal info rfl v hv
      rw [ScalarKind.convert, Duration.ofValue_str, hd] at hconvert
      cases hconvert

end Field

/-! ## Where duration fields fall back to their defaults -/

theorem Place.Reaches.unique {q r r' : Place} {path : List Segment} (h : q.Reaches path r)
    (h' : q.Reaches path r') (hnames : (q.fields.map Field.name).Nodup)
    (hfields : ∀ f ∈ q.fields, f.WellFormed) : r = r' := by
  induction h with
  | here =>
      cases h'
      rfl
  | @inside q r i info children rules inner path hf hv _ ih =>
      generalize hway : (Field.object info children rules).segment q.input i :: path = way at h'
      cases h' with
      | here => cases hway
      | @inside _ _ i' info' children' rules' inner' path' hf' hv' h' =>
          -- siblings differ in name, so both ways enter the same object first
          obtain ⟨hsegment, rfl⟩ := List.cons.inj hway
          have hsame : Field.object info children rules = .object info' children' rules' :=
            List.inj_on_of_nodup_map hnames (List.mem_of_getElem? hf) (List.mem_of_getElem? hf')
              (congrArg Segment.name hsegment)
          cases hsame
          obtain rfl : inner = inner' := Value.map.inj (Option.some.inj (hv.symm.trans hv'))
          cases hfields _ (List.mem_of_getElem? hf) with
          | object _ hnames' hchildren => exact ih h' hnames' hchildren

namespace Schema

open Settings.Field

/-- The ways to the duration fields that are not given and have a default of their own. -/
inductive FallsBack (s : Schema) (data : Value) : List Segment → Prop where
  | mk {root : Entries} {path : List Segment} {q : Place} {i : Nat} {info : FieldInfo}
      (hroot : inputOf data = some root)
      (hpath : (Place.mk rootModel s.fields root).Reaches path q)
      (hf : q.fields[i]? = some (.scalar info .duration)) (hdefault : info.defaultValue.isSome)
      (habsent : q.input.get? (.str info.name) = none) :
      FallsBack s data (path ++ [⟨info.name, some i⟩])

variable {s : Schema} {data : Value} {way : List Segment} {cause : Issue.Cause}

theorem not_refuses_of_fallback {q : Place} {i : Nat} {info : FieldInfo} {p : Problem}
    (hf : q.fields[i]? = some (.scalar info .duration)) (hdefault : info.defaultValue.isSome)
    (habsent : q.input.get? (.str info.name) = none)
    (hsound : (Field.scalar info .duration).Sound) : ¬q.Refuses ⟨info.name, some i⟩ p := by
  intro hrefuses
  -- only a rejected stand-in is reported with a position, and the position tells the field
  generalize hlast : (⟨info.name, some i⟩ : Segment) = last at hrefuses
  cases hrefuses with
  | @rejected j g v p hg hv hrejects =>
      have hposition : some i = (g.segment q.input j).standIn := congrArg Segment.standIn hlast
      obtain rfl : i = j := by
        unfold Field.segment at hposition
        split at hposition
        · cases hposition
        · exact Option.some.inj hposition
      obtain rfl : Field.scalar info .duration = g := Option.some.inj (hf.symm.trans hg)
      obtain ⟨w, hw⟩ := Option.isSome_iff_exists.1 hdefault
      have hsource : (Field.scalar info .duration).source? q.input = some w := by
        rw [Field.source?, Field.name_scalar, habsent, Field.standIn?, Field.info, hw]
      obtain rfl : w = v := Option.some.inj (hsource.symm.trans hv)
      exact hsound.not_rejects hw q.model p hrejects
  | _ => cases congrArg Segment.standIn hlast

theorem Built.not_reports_of_fallsBack (hs : s.Built) (hback : s.FallsBack data way) :
    ¬s.Reports data way cause := by
  intro hreports
  obtain @⟨root, path, q, i, info, hroot, hpath, hf, hdefault, habsent⟩ := hback
  generalize hway : path ++ [(⟨info.name, some i⟩ : Segment)] = way at hreports
  cases hreports with
  | root => simp at hway
  | @refused root' path' q' last p hroot' hpath' hlast =>
      obtain ⟨rfl, hsegment⟩ := List.append_inj' hway rfl
      obtain rfl := (List.cons.inj hsegment).1
      obtain rfl : root = root' := Option.some.inj (hroot.symm.trans hroot')
      obtain rfl := hpath.unique hpath' hs.names_nodup hs.wellFormed
      have hfields := hpath.level.wellFormed hs.wellFormed
      have hsound := (hfields _ (List.mem_of_getElem? hf)).sound
      exact not_refuses_of_fallback hf hdefault habsent hsound hlast
  | @finding x hfinds =>
      -- findings are about what is given, so no stand-in is on their way
      have hmem : (⟨info.name, some i⟩ : Segment) ∈ x.path.map Segment.given := by
        rw [← hway]
        exact List.mem_append_right _ List.mem_cons_self
      obtain ⟨name, -, hname⟩ := List.mem_map.1 hmem
      cases hname

/-- Whatever declarations and builder steps lead to is sound at every depth: names are not blank,
siblings have different names, only objects have children or rules, and the default of a duration
field is a literal.  In a schema of such fields every issue stands at the way to what is wrong, and
no such way ends where a duration field falls back to its default. -/
theorem declared_defaults_never_refused :
    (∀ f : Field, f.Declared → ∀ path level, Level [f] path level → ∀ g ∈ level, g.Sound) ∧
      ∀ candidates s, (∀ f, .field f ∈ candidates → f.Declared) →
        ofCandidates candidates = .ok s → ∀ data,
          (∀ x, s.Raises data x →
            ∃ way, s.Reports data way x.cause ∧ x.path = way.map Segment.shown) ∧
          ∀ way, s.FallsBack data way → ∀ cause, ¬s.Reports data way cause := by
  constructor
  · intro f hf path level hlevel
    exact hf.sound hlevel
  · intro candidates s hcandidates hs data
    have hbuilt : s.Built := .mk (fun f hf ↦ (hcandidates f hf).built) hs
    constructor
    · intro x hx
      exact hx.reports
    · intro way hway cause
      exact hbuilt.not_reports_of_fallsBack hway

/-- A duration field whose default is declared at the second attempt. -/
def timeoutField : Field :=
  .scalar { name := "timeout", defaultValue := some (.str "5s") } .duration

theorem declared_timeoutField : timeoutField.Declared := by
  have hnew : Field.newScalar .duration (.str "timeout") =
      .ok (.scalar { name := "timeout" } .duration) :=
    Field.newScalar_eq_ok_iff.2 ⟨"timeout", rfl, by decide, rfl⟩
  have hsoon : Duration.isLiteral (.str "soon") = .ok false := by decide +kernel
  have hliteral : Duration.isLiteral (.str "5s") = .ok true := by decide +kernel
  have hsteps : (Field.scalar { name := "timeout" } .duration).afterSteps
      [.default (.str "soon"), .default (.str "5s"), .rule Backoff.boundedRule] = timeoutField := by
    simp [Field.next, Field.Step.apply, Field.withDefault, Field.withRule, hsoon, hliteral,
      timeoutField]
  rw [← hsteps]
  exact .scalar hnew _

/-- An object with such a field and an optional backoff field. -/
def clientField : Field :=
  .object { name := "client" }
    [timeoutField, (Backoff.shape true "retry" false none).optional] []

theorem declared_clientField : clientField.Declared := by
  have hretry : (Backoff.shape true "retry" false none).optional.Declared :=
    .backoff (Backoff.newField_eq_ok_iff.2 ⟨"retry", rfl, by decide, rfl⟩) [.optional]
  have hnew : Field.newObject (.str "client")
      [.field timeoutField, .field (Backoff.shape true "retry" false none).optional] =
      .ok clientField :=
    Field.newObject_eq_ok_iff.2 ⟨"client", [_, _], rfl, by decide, rfl, by decide, rfl⟩
  refine .object (fun c hc ↦ ?_) hnew []
  rcases List.mem_cons.1 hc with hc | hc
  · cases hc
    exact declared_timeoutField
  · cases List.mem_singleton.1 hc
    exact hretry

theorem fallsBack_clientField {root : Entries} (h : clientField.source? root = some (.map [])) :
    FallsBack ⟨[clientField]⟩ (.map root) [clientField.segment root 0, ⟨"timeout", some 0⟩] := by
  have hclient : [clientField][0]? = some clientField := rfl
  have htimeout : clientField.children[0]? = some timeoutField := rfl
  have hpath : (Place.mk rootModel [clientField] root).Reaches [clientField.segment root 0]
      ⟨rootModel ++ camelName "client", clientField.children, []⟩ :=
    .inside hclient h .here
  exact .mk rfl hpath htimeout rfl rfl

/-- The timeout falls back to its default below an object that is given and below one that is
not. -/
theorem declared_defaults_never_refused_clientField :
    clientField.Declared ∧ ofCandidates [.field clientField] = .ok ⟨[clientField]⟩ ∧
      timeoutField.Sound ∧
      (FallsBack ⟨[clientField]⟩ (.map [(.str "client", .map [])])
          [.given "client", ⟨"timeout", some 0⟩] ∧
        ∀ cause, ¬Reports ⟨[clientField]⟩ (.map [(.str "client", .map [])])
          [.given "client", ⟨"timeout", some 0⟩] cause) ∧
      FallsBack ⟨[clientField]⟩ (.map []) [⟨"client", some 0⟩, ⟨"timeout", some 0⟩] ∧
        ∀ cause, ¬Reports ⟨[clientField]⟩ (.map [])
          [⟨"client", some 0⟩, ⟨"timeout", some 0⟩] cause := by
  obtain ⟨hsound, hnever⟩ := declared_defaults_never_refused
  have hschema : ofCandidates [.field clientField] = .ok ⟨[clientField]⟩ := rfl
  have hcandidates : ∀ f, Candidate.field f ∈ [Candidate.field clientField] → f.Declared := by
    intro f hf
    cases List.mem_singleton.1 hf
    exact declared_clientField
  have hlevel : Level [clientField] ["client"] clientField.children :=
    .inside List.mem_cons_self .root
  have hgiven : FallsBack ⟨[clientField]⟩ (.map [(.str "client", .map [])])
      [.given "client", ⟨"timeout", some 0⟩] :=
    fallsBack_clientField rfl
  have habsent : FallsBack ⟨[clientField]⟩ (.map []) [⟨"client", some 0⟩, ⟨"timeout", some 0⟩] :=
    fallsBack_clientField rfl
  refine ⟨declared_clientField, hschema, ?_, ⟨hgiven, ?_⟩, habsent, ?_⟩
  · exact hsound clientField declared_clientField _ _ hlevel timeoutField List.mem_cons_self
  · exact (hnever _ _ hcandidates hschema _).2 _ hgiven
  · exact (hnever _ _ hcandidates hschema _).2 _ habsent

end Schema

end Settings
