import Settings.Backoff.Declaration
import Settings.Backoff.Extraction
import Settings.Loading
import Settings.Log.Console

/-!
# Messages of the library

The library's own messages come from templates in which each directive stands for a value, written
as a text or as it is shown in messages.  Such a template always gives a message: its texts, with the
values in the places of the directives.
-/

namespace Settings

namespace Log

/-- A part of a message: a text as it stands, or a value in one of two forms. -/
inductive Part where
  | text (s : String)
  | display (v : Value)
  | shown (v : Value)

def simpleDirective (kind : Char) : Directive where
  name := none
  leftAligned := false
  plus := false
  blank := false
  alternate := false
  zero := false
  width := none
  precision := none
  kind := kind

namespace Part

def template : Part → List Char
  | text s => s.toList
  | display _ => ['%', 's']
  | shown _ => ['%', 'r']

def value? : Part → Option Value
  | text _ => none
  | display v | shown v => some v

def message : Part → List Char
  | text s => s.toList
  | display v => v.display.toList
  | shown v => v.shown.toList

def pieces : Part → List Piece
  | text s => s.toList.map .char
  | display _ => [.directive (simpleDirective 's')]
  | shown _ => [.directive (simpleDirective 'r')]

end Part

def templateOf (parts : List Part) : String := String.ofList (parts.flatMap Part.template)

def valuesOf (parts : List Part) : List Value := parts.filterMap Part.value?

def messageOf (parts : List Part) : String := String.ofList (parts.flatMap Part.message)

/-! ## Reading templates -/

theorem directiveAt_simple {kind : Char} (h : kind = 's' ∨ kind = 'r') (rest : List Char) :
    directiveAt (kind :: rest) = some (simpleDirective kind, rest) := by
  rcases h with rfl | rfl <;>
    simp [directiveAt, optionalNameAt, isFlag, widthAt, precisionAt, skipSize, simpleDirective]

theorem pieces?_simple {kind : Char} (h : kind = 's' ∨ kind = 'r') (rest : List Char) :
    pieces? ('%' :: kind :: rest) =
      (pieces? rest).map (.directive (simpleDirective kind) :: ·) := by
  have hdirective := directiveAt_simple h rest
  have hne : kind ≠ '%' := by
    rintro rfl
    simp at h
  rw [pieces?.eq_3 _ (by simpa using hne)]
  split
  · next hnone =>
      rw [hdirective] at hnone
      cases hnone
  · next d rest' hsome =>
      rw [hdirective] at hsome
      cases hsome
      rfl

theorem pieces?_append {cs : List Char} (h : '%' ∉ cs) (rest : List Char) :
    pieces? (cs ++ rest) = (pieces? rest).map (cs.map .char ++ ·) := by
  induction cs with
  | nil => simp
  | cons c cs ih =>
      rw [List.mem_cons, not_or] at h
      have hne : c ≠ '%' := Ne.symm h.1
      rw [List.cons_append, pieces?.eq_4 _ _ (fun _ hc ↦ absurd hc hne) hne, ih h.2]
      simp [Function.comp_def]

theorem pieces?_parts {parts : List Part} (h : ∀ s, .text s ∈ parts → '%' ∉ s.toList) :
    pieces? (parts.flatMap Part.template) = some (parts.flatMap Part.pieces) := by
  induction parts with
  | nil => simp [pieces?]
  | cons p parts ih =>
      have hrest := ih fun s hs ↦ h s (List.mem_cons_of_mem p hs)
      rw [List.flatMap_cons, List.flatMap_cons]
      cases p with
      | text s =>
          rw [Part.template, pieces?_append (h s List.mem_cons_self), hrest]
          rfl
      | display v =>
          rw [Part.template, List.cons_append, List.cons_append, List.nil_append,
            pieces?_simple (.inl rfl), hrest]
          rfl
      | shown v =>
          rw [Part.template, List.cons_append, List.cons_append, List.nil_append,
            pieces?_simple (.inr rfl), hrest]
          rfl

/-! ## Writing values -/

theorem Supply.items_ofValues (vs : List Value) : (Supply.ofValues vs).items = vs := by
  unfold ofValues
  split <;> rfl

theorem Supply.writeAll_text (s : Supply) (cs : List Char) (rest : List Piece) :
    s.writeAll (cs.map .char ++ rest) = (s.writeAll rest).map (cs ++ ·) := by
  induction cs with
  | nil => simp
  | cons c cs ih =>
      rw [List.map_cons, List.cons_append, writeAll, ih]
      simp [Function.comp_def]

theorem Supply.writeAll_directive {s s' : Supply} {d : Directive} {cs : List Char}
    (h : s.write d = some (cs, s')) (rest : List Piece) :
    s.writeAll (.directive d :: rest) = (s'.writeAll rest).map (cs ++ ·) := by
  rw [writeAll, h]
  cases hrest : s'.writeAll rest <;> simp [hrest]

theorem Supply.write_simple {s : Supply} {v : Value} {rest : List Value} (h : s.items = v :: rest) :
    s.write (simpleDirective 's') = some (v.display.toList, { s with items := rest }) ∧
      s.write (simpleDirective 'r') = some (v.shown.toList, { s with items := rest }) := by
  constructor <;>
    simp [write, simpleDirective, choose, measure, next, h, written?, limited, fill]

theorem Supply.writeAll_parts {parts : List Part} {s : Supply} (h : s.items = valuesOf parts) :
    s.writeAll (parts.flatMap Part.pieces) = some (parts.flatMap Part.message) := by
  induction parts generalizing s with
  | nil =>
      have hnil : s.items = [] := h
      simp [writeAll, hnil]
  | cons p parts ih =>
      rw [List.flatMap_cons, List.flatMap_cons]
      cases p with
      | text t =>
          rw [Part.pieces, writeAll_text, ih h]
          rfl
      | display v =>
          rw [Part.pieces, List.singleton_append, writeAll_directive (write_simple h).1, ih rfl]
          rfl
      | shown v =>
          rw [Part.pieces, List.singleton_append, writeAll_directive (write_simple h).2, ih rfl]
          rfl

/-! ## Messages -/

theorem template_eq_message {parts : List Part} (h : valuesOf parts = []) :
    parts.flatMap Part.template = parts.flatMap Part.message := by
  induction parts with
  | nil => rfl
  | cons p parts ih =>
      cases p with
      | text s => rw [List.flatMap_cons, List.flatMap_cons, ih h, Part.template, Part.message]
      | display v => cases h
      | shown v => cases h

/-- A template made of texts and simple directives gives a message, whatever the values are. -/
theorem message?_of_parts {parts : List Part} (h : ∀ s, .text s ∈ parts → '%' ∉ s.toList) :
    message? (templateOf parts) (valuesOf parts) = some (messageOf parts) := by
  rw [message?]
  split
  · next hnone =>
      rw [templateOf, template_eq_message (List.isEmpty_iff.1 hnone)]
      rfl
  · rw [templateOf, String.toList_ofList, pieces?_parts h]
    show (((Supply.ofValues (valuesOf parts)).writeAll (parts.flatMap Part.pieces)).bind
      fun cs => some (String.ofList cs)) = _
    rw [Supply.writeAll_parts (Supply.items_ofValues _)]
    rfl

/-- Whether a record has the message that a template gives with some values. -/
def Record.ComesFrom (r : Record) (template : String) (values : List Value) : Prop :=
  message? template values = some r.message

theorem Record.comesFrom_of_parts {r : Record} (parts : List Part)
    (hparts : ∀ s, .text s ∈ parts → '%' ∉ s.toList)
    (h : r.message.toList = parts.flatMap Part.message) :
    r.ComesFrom (templateOf parts) (valuesOf parts) := by
  have hmessage : r.message = messageOf parts := by
    rw [messageOf, ← h, String.ofList_toList]
  rw [ComesFrom, message?_of_parts hparts, hmessage]

/-- What is written for a template is what is written for a record that comes from it. -/
theorem Record.ComesFrom.textOfTemplate {r : Record} {template : String} {values : List Value}
    (h : r.ComesFrom template values) (c : Console) (timestamp : String) :
    c.textOfTemplate timestamp { r with message := template } values = c.text timestamp r := by
  have hmessage : message? template values = some r.message := h
  rw [Console.textOfTemplate, hmessage]

end Log

/-! ## Records and their templates -/

open Log

theorem Variable.record?_comesFrom {prefixText : String} {v : Variable} {r : Record}
    (h : v.record? prefixText = some r) :
    r.ComesFrom "Environment override: %s → %s = %r"
      [.str v.name, .str (".".intercalate (v.path prefixText)), v.value] := by
  apply Record.comesFrom_of_parts
    [.text "Environment override: ", .display (.str v.name), .text " → ",
      .display (.str (".".intercalate (v.path prefixText))), .text " = ", .shown v.value] (by simp)
  unfold record? at h
  split at h
  · cases h
  · cases h
    simp [Record.debug, Part.message, toString]

theorem LinkedEntries.overrideRecord_comesFrom (key value : Value) :
    (overrideRecord key value).ComesFrom "Override: %s = %r" [key, value] := by
  apply Record.comesFrom_of_parts [.text "Override: ", .display key, .text " = ", .shown value]
    (by simp)
  simp [overrideRecord, Record.debug, Part.message, toString]

mutual

theorem LinkedEntries.mem_overrideRecordsAt {r : Record} (v : Value) {path : List Value}
    {entries : LinkedEntries} (h : r ∈ overrideRecordsAt path entries v) :
    ∃ key value, r = overrideRecord key value := by
  cases v with
  | map overrides =>
      rw [overrideRecordsAt] at h
      split at h
      · exact mem_mergeRecordsAt overrides h
      · cases h
  | _ => cases h

theorem LinkedEntries.mem_mergeRecordsAt {r : Record} (overrides : List (Value × Value))
    {path : List Value} {entries : LinkedEntries} (h : r ∈ mergeRecordsAt path entries overrides) :
    ∃ key value, r = overrideRecord key value := by
  cases overrides with
  | nil => cases h
  | cons e rest =>
      rw [mergeRecordsAt] at h
      rcases List.mem_append.1 h with h | h
      · exact mem_overrideRecordsAt e.2 h
      · rcases List.mem_cons.1 h with rfl | h
        · exact ⟨e.1, e.2, rfl⟩
        · exact mem_mergeRecordsAt rest h

end

/-- All that is logged while the environment and the overrides are put on top of a file comes from
two templates. -/
theorem Origin.overlayRecords_comesFrom {o : Origin} {entries : LinkedEntries} {r : Record}
    (h : r ∈ o.overlayRecords entries) :
    (∃ v ∈ o.env, r.ComesFrom "Environment override: %s → %s = %r"
      [.str v.name, .str (".".intercalate (v.path o.envPrefix)), v.value]) ∨
    ∃ key value, r.ComesFrom "Override: %s = %r" [key, value] := by
  rcases List.mem_append.1 h with h | h
  · split at h
    · cases h
    · obtain ⟨v, hv, hr⟩ := List.mem_filterMap.1 h
      exact .inl ⟨v, List.mem_mergeSort.1 hv, Variable.record?_comesFrom hr⟩
  · obtain ⟨key, value, rfl⟩ := LinkedEntries.mem_mergeRecordsAt _ h
    exact .inr ⟨key, value, LinkedEntries.overrideRecord_comesFrom key value⟩

theorem Field.declaredRecord_comesFrom (name : Value) (children : List Field) :
    (Field.declaredRecord name children).ComesFrom "Declared object field %s with children %s"
      [name, .list (children.map fun f => .str f.name)] := by
  apply Record.comesFrom_of_parts [.text "Declared object field ", .display name,
    .text " with children ", .display (.list (children.map fun f => .str f.name))] (by simp)
  simp [Field.declaredRecord, Record.debug, Part.message, toString, namesShown, Value.display,
    Function.comp_def]

theorem Backoff.declaredRecord_comesFrom (name : Value) (allowUnbounded : Bool) (f : Field) :
    (Backoff.declaredRecord name allowUnbounded f).ComesFrom
      "Declared backoff field %s (allow_unbounded=%s, children=%s)"
      [name, .bool allowUnbounded, .list (f.childNames.map .str)] := by
  apply Record.comesFrom_of_parts [.text "Declared backoff field ", .display name,
    .text " (allow_unbounded=", .display (.bool allowUnbounded), .text ", children=",
    .display (.list (f.childNames.map .str)), .text ")"] (by simp)
  simp [Backoff.declaredRecord, Record.debug, Part.message, toString, namesShown, Value.display]

theorem Backoff.extractedRecord_comesFrom (path : List Value) (p : Policy) :
    (extractedRecord path p).ComesFrom "Resolved backoff policy at %s: %s"
      [.str (".".intercalate (path.map Value.display)),
        .map (p.literals.map fun (name, literal) => (.str name, .str literal))] := by
  apply Record.comesFrom_of_parts [.text "Resolved backoff policy at ",
    .display (.str (".".intercalate (path.map Value.display))), .text ": ",
    .display (.map (p.literals.map fun (name, literal) => (.str name, .str literal)))] (by simp)
  simp [extractedRecord, Record.debug, Part.message, toString, timesShown, Value.display]

theorem Backoff.extractedToggledRecord_comesFrom (path : List Value) (p : Policy) (enabled : Bool) :
    (extractedToggledRecord path p enabled).ComesFrom
      "Resolved toggled backoff policy at %s: enabled=%s %s"
      [.str (".".intercalate (path.map Value.display)), .bool enabled,
        .map (p.literals.map fun (name, literal) => (.str name, .str literal))] := by
  apply Record.comesFrom_of_parts [.text "Resolved toggled backoff policy at ",
    .display (.str (".".intercalate (path.map Value.display))), .text ": enabled=",
    .display (.bool enabled), .text " ",
    .display (.map (p.literals.map fun (name, literal) => (.str name, .str literal)))] (by simp)
  simp [extractedToggledRecord, Record.debug, Part.message, toString, timesShown, Value.display]

theorem Schema.generatedRecord_comesFrom (s : Schema) :
    s.generatedRecord.ComesFrom "Generated config model for fields %s"
      [.list (s.names.map .str)] := by
  apply Record.comesFrom_of_parts [.text "Generated config model for fields ",
    .display (.list (s.names.map .str))] (by simp)
  simp [generatedRecord, Record.debug, Part.message, toString, namesShown, Value.display]

theorem Schema.findingsRecord_comesFrom (found : List Issue) :
    (findingsRecord found).ComesFrom "Config lint failed: %s"
      [.list (found.map fun i => .str i.text)] := by
  apply Record.comesFrom_of_parts [.text "Config lint failed: ",
    .display (.list (found.map fun i => .str i.text))] (by simp)
  simp [findingsRecord, Record.debug, Part.message, toString, namesShown, Value.display,
    Function.comp_def]

/-- What is logged about a file is that it has been read or why it is refused. -/
theorem Source.load_comesFrom {s : Source} {r : Record} (h : r ∈ s.load.records) :
    r.ComesFrom "Loaded config from %s" [.str s.path] ∨
      ∃ refusal, s.read = .error (.refused refusal) ∧
        r.ComesFrom "Failed to load config: %s" [.str refusal.message] := by
  unfold load at h
  split at h
  · left
    obtain rfl := List.mem_singleton.1 h
    apply Record.comesFrom_of_parts [.text "Loaded config from ", .display (.str s.path)] (by simp)
    simp [Record.info, Part.message, toString]
  · next refusal hread =>
      right
      obtain rfl := List.mem_singleton.1 h
      refine ⟨refusal, hread, ?_⟩
      apply Record.comesFrom_of_parts
        [.text "Failed to load config: ", .display (.str refusal.message)] (by simp)
      simp [Record.error, Part.message, toString]
  · cases h

end Settings
