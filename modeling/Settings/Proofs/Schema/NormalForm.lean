import Settings.Proofs.Duration.RoundTrip
import Settings.Proofs.Schema.Resolution

/-!
# Resolved configurations as configurations

What a configuration resolves to is a configuration of the same schema that resolves to itself.  So
is what becomes of it when its durations are written as literals, which is how a schema renders its
defaults.
-/

namespace Settings

/-! ## Rendered values -/

mutual

/-- Whether a value is another one with its durations written as canonical literals and nothing
else changed. -/
inductive Value.Rendered : Value → Value → Prop where
  | duration (d : Duration) : Rendered (.duration d) (.str d.canonical)
  | map {es es' : Entries} (h : RenderedEntries es es') : Rendered (.map es) (.map es')
  | other {v : Value} (hduration : ∀ d, v ≠ .duration d) (hmap : ∀ es, v ≠ .map es) :
      Rendered v v

inductive Value.RenderedEntries : List (Value × Value) → List (Value × Value) → Prop where
  | nil : RenderedEntries [] []
  | cons (key : Value) {v w : Value} {es es' : List (Value × Value)} (h : Rendered v w)
      (hrest : RenderedEntries es es') : RenderedEntries ((key, v) :: es) ((key, w) :: es')

end

namespace Schema

theorem withLiteralEntries_eq_map (es : Entries) :
    withLiteralEntries es = es.map fun e => (e.1, withLiterals e.2) := by
  induction es with
  | nil => rfl
  | cons e es ih => rw [withLiteralEntries, List.map_cons, ih]

theorem rendered_of_holds {kind : ScalarKind} {v : Value} (h : kind.Holds v) :
    Value.Rendered v (withLiterals v) := by
  cases kind with
  | duration =>
      obtain ⟨d, rfl⟩ := h
      exact .duration d
  | _ =>
      obtain ⟨x, rfl⟩ := h
      exact .other (by simp) (by simp)

mutual

theorem rendered_of_accept : ∀ (f : Field) {owner : String} {v w : Value},
    f.accept owner v = .ok w → Value.Rendered w (withLiterals w)
  | .scalar info kind, owner, v, w, h => by
      rcases Field.accept_scalar_eq_ok_iff.1 h with ⟨-, -, rfl⟩ | ⟨-, hw⟩
      · exact .other (by simp) (by simp)
      · exact rendered_of_holds (ScalarKind.holds_of_convert hw)
  | .object info children rules, owner, v, w, h => by
      rcases Field.accept_object_eq_ok_iff.1 h with ⟨-, -, rfl⟩ | ⟨input, es, -, hes, rfl⟩
      · exact .other (by simp) (by simp)
      · exact .map (rendered_of_resolvedTo children hes.1)

theorem rendered_of_resolvedTo : ∀ (fields : List Field) {model : String} {input es : Entries},
    List.Forall₂ (Field.ResolvedTo model input) fields es →
      Value.RenderedEntries es (withLiteralEntries es)
  | [], model, input, es, h => by
      cases h
      exact .nil
  | f :: fields, model, input, es, h => by
      cases h with
      | cons he hes =>
          obtain ⟨-, v, -, hw⟩ := he
          exact .cons _ (rendered_of_accept f hw) (rendered_of_resolvedTo fields hes)

end

end Schema

/-! ## Values that are written differently -/

/-- A way to write resolved values such that each kind of field takes its own values back. -/
structure Respelling (g : Value → Value) : Prop where
  null : g .null = .null
  map (es : Entries) : g (.map es) = .map (es.map fun e => (e.1, g e.2))
  convert {kind : ScalarKind} {v : Value} (h : kind.Holds v) : kind.convert (g v) = .ok v

theorem Respelling.id : Respelling id where
  null := rfl
  map es := congrArg Value.map (List.map_id es).symm
  convert h := ScalarKind.convert_of_holds h

theorem Respelling.withLiterals : Respelling Schema.withLiterals where
  null := rfl
  map es := congrArg Value.map (Schema.withLiteralEntries_eq_map es)
  convert {kind v} h := by
    cases kind with
    | duration =>
        obtain ⟨d, rfl⟩ := h
        simp [ScalarKind.convert, Schema.withLiterals, Duration.ofValue_str]
    | _ =>
        obtain ⟨x, rfl⟩ := h
        rfl

theorem ScalarKind.convert_null_ne_ok (kind : ScalarKind) (w : Value) :
    kind.convert .null ≠ .ok w := by
  cases kind <;> intro h <;> cases h

theorem Entries.get?_map_snd (es : Entries) (g : Value → Value) (key : Value) :
    Entries.get? (es.map fun e => (e.1, g e.2)) key = (es.get? key).map g := by
  induction es with
  | nil => rfl
  | cons e es ih =>
      obtain ⟨k, v⟩ := e
      rw [List.map_cons, get?_cons, get?_cons, ih]
      split <;> rfl

namespace Field

/-- Whether siblings have different names, among the fields and on all levels below them. -/
inductive Distinct : List Field → Prop where
  | mk {fields : List Field} (hnames : (fields.map Field.name).Nodup)
      (hbelow : ∀ f ∈ fields, Distinct f.children) : Distinct fields

theorem WellFormed.distinct {f : Field} (h : f.WellFormed) : Distinct f.children := by
  induction h with
  | scalar => exact .mk .nil (by simp [Field.children])
  | object hname hnames hchildren ih => exact .mk hnames ih

/-- Each field accepts its own entry among the resolved ones again. -/
theorem Resolves.respelled {g : Value → Value} (hg : Respelling g) {fields : List Field}
    (hfields : Distinct fields) {model model' : String} {input es : Entries}
    (h : Resolves model fields input es) :
    Resolves model' fields (es.map fun e => (e.1, g e.2)) es := by
  induction hfields generalizing model model' input es with
  | @mk fields hnames hbelow ih =>
      have haccept {f : Field} (hf : f ∈ fields) {v w : Value} (hw : f.accept model v = .ok w) :
          f.accept model' (g w) = .ok w := by
        cases f with
        | scalar info kind =>
            rcases accept_scalar_eq_ok_iff.1 hw with ⟨hn, -, rfl⟩ | ⟨-, hconvert⟩
            · rw [hg.null]
              exact accept_null hn
            · have hback := hg.convert (ScalarKind.holds_of_convert hconvert)
              refine accept_scalar_eq_ok_iff.2 (.inr ⟨?_, hback⟩)
              rintro ⟨-, hnull⟩
              exact kind.convert_null_ne_ok w (hnull ▸ hback)
        | object info children rules =>
            rcases accept_object_eq_ok_iff.1 hw with ⟨hn, -, rfl⟩ | ⟨inner, es', -, hes', rfl⟩
            · rw [hg.null]
              exact accept_null hn
            · rw [hg.map]
              exact accept_object_eq_ok_iff.2 (.inr ⟨_, es', rfl, ih _ hf hes', rfl⟩)
      refine ⟨?_, fun e he ↦ ?_⟩
      · have hmem := (List.forall₂_and_left (p := (· ∈ fields)) fields es).2 ⟨fun f hf ↦ hf, h.1⟩
        refine hmem.imp fun f e he ↦ ?_
        obtain ⟨hf, hkey, v, hv, hw⟩ := he
        obtain ⟨v', w, hv', hw', hget⟩ := h.get? hnames hf
        obtain rfl : v = v' := Option.some.inj (hv.symm.trans hv')
        have hsame : e.2 = w := Except.ok.inj (hw.symm.trans hw')
        refine ⟨hkey, g e.2, ?_, haccept hf hw⟩
        rw [source?, Entries.get?_map_snd, hget, hsame]
        rfl
      · obtain ⟨e', he', rfl⟩ := List.mem_map.1 he
        have hkey : e'.1 ∈ fields.map fun f => Value.str f.name := by
          rw [← h.keys]
          exact List.mem_map_of_mem he'
        obtain ⟨f, hf, hname⟩ := List.mem_map.1 hkey
        exact ⟨f, hf, hname.symm⟩

end Field

namespace Schema

theorem Built.distinct {s : Schema} (h : s.Built) : Field.Distinct s.fields :=
  .mk h.names_nodup fun f hf ↦ (h.wellFormed f hf).distinct

theorem resolve_respelled {s : Schema} (hs : Field.Distinct s.fields) {g : Value → Value}
    (hg : Respelling g) {data : Value} {es : Entries} (h : s.resolve data = .ok es) :
    s.resolve (g (.map es)) = .ok es := by
  obtain ⟨input, -, hresolves⟩ := resolve_eq_ok_iff.1 h
  rw [hg.map]
  exact resolve_eq_ok_iff.2 ⟨_, rfl, hresolves.respelled hg hs⟩

theorem defaults_eq_ok_iff {s : Schema} {rendered : Entries} :
    s.defaults = .ok rendered ↔
      ∃ es, s.resolve (.map []) = .ok es ∧ rendered = withLiteralEntries es := by
  rw [defaults, map_eq_ok_iff]

/-- The values that a configuration is parsed to are a configuration that is parsed to the same
values.  There are rendered defaults exactly if nothing has to be given; they are the values that
nothing is parsed to, with literals for durations, and are parsed to these values again. -/
theorem parse_resolved {s : Schema} (hs : Field.Distinct s.fields) :
    (∀ data lint a, s.parse data lint = .ok a → s.parse (.map a.entries) lint = .ok a) ∧
      (∀ a, s.parse (.map []) false = .ok a → ∃ rendered, s.defaults = .ok rendered) ∧
      ∀ rendered, s.defaults = .ok rendered →
        ∃ a, s.parse (.map []) false = .ok a ∧ Value.RenderedEntries a.entries rendered ∧
          s.parse (.map rendered) false = .ok a := by
  refine ⟨fun data lint a h ↦ ?_, fun a h ↦ ?_, fun rendered h ↦ ?_⟩
  · obtain ⟨es, hes, hfound, rfl⟩ := parse_eq_ok_iff.1 h
    exact parse_eq_ok_iff.2 ⟨es, resolve_respelled hs .id hes, hfound, rfl⟩
  · obtain ⟨es, hes, -⟩ := parse_eq_ok_iff.1 h
    exact ⟨_, defaults_eq_ok_iff.2 ⟨es, hes, rfl⟩⟩
  · obtain ⟨es, hes, rfl⟩ := defaults_eq_ok_iff.1 h
    have hback : s.resolve (.map (withLiteralEntries es)) = .ok es :=
      resolve_respelled hs .withLiterals hes
    obtain ⟨input, -, hresolves⟩ := resolve_eq_ok_iff.1 hes
    refine ⟨.ofEntries es, ?_, ?_, ?_⟩
    · exact parse_eq_ok_iff.2 ⟨es, hes, by simp, rfl⟩
    · exact rendered_of_resolvedTo s.fields hresolves.1
    · exact parse_eq_ok_iff.2 ⟨es, hback, by simp, rfl⟩

/-- A truth value as the default of an integer, and a literal that is not canonical. -/
def pauseFields : List Field :=
  [.scalar { name := "times", defaultValue := some (.bool true) } .int,
   .scalar { name := "pause", defaultValue := some (.str "90s") } .duration]

def pauseSchema : Schema := ⟨[.object { name := "retry" } pauseFields []]⟩

def pauseEntries : Entries :=
  [(.str "times", .int 1), (.str "pause", .duration ⟨90 * 1000000, by decide⟩)]

def pauseValues : Entries := [(.str "retry", .map pauseEntries)]

theorem distinct_pauseSchema : Field.Distinct pauseSchema.fields := by
  refine .mk (by decide) fun f hf ↦ ?_
  obtain rfl := List.mem_singleton.1 hf
  refine .mk (by decide) fun g hg ↦ ?_
  have hscalar : g.children = [] := by
    rcases List.mem_cons.1 hg with rfl | hg
    · rfl
    · obtain rfl := List.mem_singleton.1 hg
      rfl
  rw [hscalar]
  exact .mk .nil (by simp)

theorem parse_pauseSchema : pauseSchema.parse (.map []) false = .ok (.ofEntries pauseValues) := by
  have hread : Duration.ofText "90s" = .ok ⟨90 * 1000000, by decide⟩ :=
    Duration.ofText_wholeTerm 90 .second (u := ['s']) (by decide) rfl
      (by norm_num [Duration.TimeUnit.micros, Decimal.toRat])
  have hpause : ScalarKind.duration.convert (.str "90s") =
      .ok (.duration ⟨90 * 1000000, by decide⟩) := by
    simp [ScalarKind.convert, Duration.ofValue_str, hread]
  have hfields (model : String) : Field.Resolves model pauseFields [] pauseEntries := by
    refine ⟨.cons ⟨rfl, .bool true, rfl, rfl⟩ (.cons ⟨rfl, .str "90s", rfl, ?_⟩ .nil), by simp⟩
    exact Field.accept_scalar_eq_ok_iff.2 (.inr ⟨by simp, hpause⟩)
  have hretry : Field.accept rootModel (.map []) (.object { name := "retry" } pauseFields []) =
      .ok (.map pauseEntries) :=
    Field.accept_object_eq_ok_iff.2 (.inr ⟨[], pauseEntries, rfl, hfields _, rfl⟩)
  refine parse_eq_ok_iff.2 ⟨pauseValues, resolve_eq_ok_iff.2 ⟨[], rfl, ?_, by simp⟩, by simp, rfl⟩
  exact .cons ⟨rfl, .map [], rfl, hretry⟩ .nil

theorem parse_resolved_pauseSchema :
    pauseSchema.parse (.map pauseValues) true = .ok (.ofEntries pauseValues) ∧
      ∃ rendered, pauseSchema.defaults = .ok rendered ∧
        Value.RenderedEntries pauseValues rendered ∧
        pauseSchema.parse (.map rendered) false = .ok (.ofEntries pauseValues) := by
  have hlinted : pauseSchema.parse (.map []) true = .ok (.ofEntries pauseValues) := by
    obtain ⟨es, hes, -, hvalues⟩ := parse_eq_ok_iff.1 parse_pauseSchema
    obtain rfl : pauseValues = es := congrArg Accessor.entries hvalues
    exact parse_eq_ok_iff.2 ⟨pauseValues, hes, fun _ ↦ rfl, rfl⟩
  obtain ⟨hagain, hsome, hrendered⟩ := parse_resolved distinct_pauseSchema
  obtain ⟨rendered, hdefaults⟩ := hsome _ parse_pauseSchema
  obtain ⟨a, ha, hentries, hback⟩ := hrendered rendered hdefaults
  obtain rfl : .ofEntries pauseValues = a := Except.ok.inj (parse_pauseSchema.symm.trans ha)
  exact ⟨hagain _ _ _ hlinted, rendered, hdefaults, hentries, hback⟩

end Schema

end Settings
