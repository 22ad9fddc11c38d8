import Settings.File.Reading

/-!
# What reading a file ends in

A file gives the mapping that its document says, or it is refused.  Four things can be wrong with
a file that is not refused for them: a place that cannot be looked at, octets that are no text, an
integer in JSON with too many digits, and a scalar in YAML that stands for nothing.  All this holds
whatever a text in YAML is read as.
-/

namespace Settings.File

def Format.suffixes : Format → List String
  | .yaml => [".yaml", ".yml"]
  | .json => [".json"]

theorem Format.ofSuffix?_eq_some_iff {suffix : String} {format : Format} :
    Format.ofSuffix? suffix = some format ↔ suffix ∈ format.suffixes := by
  rw [Format.ofSuffix?]
  constructor
  · intro h
    split at h
    · next hyaml =>
        cases h
        simpa [suffixes] using hyaml
    · split at h
      · next hjson =>
          cases h
          simpa [suffixes] using hjson
      · cases h
  · intro h
    cases format with
    | yaml => rw [if_pos (by simpa [suffixes] using h)]
    | json =>
        obtain rfl : suffix = ".json" := by simpa [suffixes] using h
        rfl

/-- The text of a file, with its line ends unified. -/
def HasText (content : Content) (text : String) : Prop :=
  ∃ octets cs, content = .octets octets ∧ Text.decodeUtf8 octets = .ok cs ∧
    text = String.ofList (Text.unifyLineEnds cs)

section

variable (yaml : String → Except Yaml.ReadError Linked)

/-- Whether a text is a document with the value `v` in a format. -/
inductive Format.Decodes : Format → String → Value → Prop where
  | yaml {text : String} {t : Linked} (h : yaml text = .ok t) : Decodes .yaml text t.toValue
  | json {text : String} {v : Value} (h : Json.read text = .ok v) : Decodes .json text v

/-- Whether a file, in the format of its suffix, is a document with the value `v`. -/
structure Holds (p : Path) (content : Content) (format : Format) (v : Value) : Prop where
  suffix : p.suffix ∈ format.suffixes
  document : ∃ text, HasText content text ∧ format.Decodes yaml text v

/-- A document says a mapping if it is one.  In YAML all that counts as false says the empty mapping:
an empty document and null, but also an empty list, zero and the like. -/
inductive SaysMapping : Format → Value → Entries → Prop where
  | mapping {format : Format} (entries : Entries) : SaysMapping format (.map entries) entries
  | falsy {v : Value} (h : v.isFalsy = true) : SaysMapping .yaml v []

inductive Refuses (p : Path) (content : Content) : Refusal → Prop where
  | notFound (h : content = .missing) : Refuses p content (.notFound p.text)
  | unreadable {fault : Fault} (h : content = .unreadable fault) :
      Refuses p content (.unreadable p.text fault)
  | unsupported {text : String} (htext : HasText content text)
      (h : ∀ format : Format, p.suffix ∉ format.suffixes) :
      Refuses p content (.unsupported p.suffix)
  | invalidYaml {text : String} (hsuffix : p.suffix ∈ Format.yaml.suffixes)
      (htext : HasText content text) (h : yaml text = .error .malformed) :
      Refuses p content (.invalidYaml p.text)
  | invalidJson {text : String} {cause : Json.Fault} {offset line column : Nat}
      (hsuffix : p.suffix ∈ Format.json.suffixes) (htext : HasText content text)
      (h : Json.read text = .error (.fault cause offset line column)) :
      Refuses p content
        (.invalidJson p.text (Json.ReadError.fault cause offset line column).message)
  | notMapping {format : Format} {v : Value} (hv : Holds yaml p content format v)
      (h : ∀ entries, ¬ SaysMapping format v entries) : Refuses p content (.notMapping p.text)

/-- The failures that are no refusals. -/
inductive Escapes (p : Path) (content : Content) : ReadError → Prop where
  | hidden {fault : Fault} (h : content = .hidden fault) :
      Escapes p content (.hidden p.text fault)
  | notText {octets : List UInt8} {e : Text.Utf8Error} (hcontent : content = .octets octets)
      (h : Text.decodeUtf8 octets = .error e) : Escapes p content (.notText e)
  | tooManyDigits {text : String} {count : Nat} (hsuffix : p.suffix ∈ Format.json.suffixes)
      (htext : HasText content text) (h : Json.read text = .error (.tooManyDigits count)) :
      Escapes p content (.tooManyDigits count)
  | scalar {text : String} {e : Yaml.ReadError} (hsuffix : p.suffix ∈ Format.yaml.suffixes)
      (htext : HasText content text) (h : yaml text = .error e) (hcause : e ≠ .malformed) :
      Escapes p content (.scalar e)

inductive Outcome (p : Path) (content : Content) : Except ReadError Entries → Prop where
  | entries {format : Format} {v : Value} {entries : Entries} (hv : Holds yaml p content format v)
      (h : SaysMapping format v entries) : Outcome p content (.ok entries)
  | refused {r : Refusal} (h : Refuses yaml p content r) : Outcome p content (.error (.refused r))
  | escaped {e : ReadError} (h : Escapes yaml p content e) : Outcome p content (.error e)

end

/-! ## Documents -/

/-- The value that a document counts as. -/
def Format.said : Format → Value → Value
  | .yaml, v => if v.isFalsy then .map [] else v
  | .json, v => v

theorem saysMapping_iff {format : Format} {v : Value} {entries : Entries} :
    SaysMapping format v entries ↔ format.said v = .map entries := by
  constructor
  · intro h
    cases h with
    | mapping =>
        cases format with
        | json => rfl
        | yaml =>
            rw [Format.said]
            split
            · next hempty => rw [List.isEmpty_iff.1 hempty]
            · rfl
    | falsy hv => rw [Format.said, if_pos hv]
  · intro h
    cases format with
    | json =>
        obtain rfl : v = .map entries := h
        exact .mapping entries
    | yaml =>
        rw [Format.said] at h
        split at h
        · next hv =>
            cases h
            exact .falsy hv
        · rw [h]
          exact .mapping entries

section

variable {yaml : String → Except Yaml.ReadError Linked} {p : Path} {content : Content}
  {format : Format} {text : String}

theorem exists_valueIn {v : Value} (h : format.Decodes yaml text v) (path : String) :
    ∃ t, valueIn yaml format path text = .ok t ∧ t.toValue = format.said v := by
  cases h with
  | @yaml text t h =>
      refine ⟨_, by rw [valueIn, h], ?_⟩
      rw [Format.said]
      split <;> simp
  | json h => exact ⟨_, by rw [valueIn, h], Linked.toValue_ofValue v⟩

theorem read_of_valueIn_error (htext : HasText content text) (hsuffix : p.suffix ∈ format.suffixes)
    {e : ReadError} (h : valueIn yaml format p.text text = .error e) :
    readBy yaml p content = .error e := by
  obtain ⟨octets, cs, rfl, hcs, rfl⟩ := htext
  rw [readBy, readLinkedBy, valueOf, hcs, Format.ofSuffix?_eq_some_iff.2 hsuffix]
  simp only [h]
  rfl

theorem read_of_valueIn_ok (htext : HasText content text) (hsuffix : p.suffix ∈ format.suffixes)
    {t : Linked} (h : valueIn yaml format p.text text = .ok t) :
    readBy yaml p content = match t.toValue with
      | .map entries => .ok entries
      | _ => .error (.refused (.notMapping p.text)) := by
  obtain ⟨octets, cs, rfl, hcs, rfl⟩ := htext
  rw [readBy, readLinkedBy, valueOf, hcs, Format.ofSuffix?_eq_some_iff.2 hsuffix]
  simp only [h]
  cases t with
  | map mark entries => rfl
  | list items => rfl
  | leaf v hv =>
    cases v with
    | map entries => cases hv
    | _ => rfl

variable {v : Value}

theorem Holds.read_of_saysMapping (hv : Holds yaml p content format v) {entries : Entries}
    (h : SaysMapping format v entries) : readBy yaml p content = .ok entries := by
  obtain ⟨hsuffix, text, htext, hdecodes⟩ := hv
  obtain ⟨t, ht, hsaid⟩ := exists_valueIn hdecodes p.text
  rw [read_of_valueIn_ok htext hsuffix ht, hsaid, saysMapping_iff.1 h]

theorem Holds.read_of_not_saysMapping (hv : Holds yaml p content format v)
    (h : ∀ entries, ¬ SaysMapping format v entries) :
    readBy yaml p content = .error (.refused (.notMapping p.text)) := by
  obtain ⟨hsuffix, text, htext, hdecodes⟩ := hv
  obtain ⟨t, ht, hsaid⟩ := exists_valueIn hdecodes p.text
  rw [read_of_valueIn_ok htext hsuffix ht, hsaid]
  split
  · next entries hmap => exact absurd (saysMapping_iff.2 hmap) (h entries)
  · rfl

/-! ## Failures -/

theorem Refuses.read_eq {r : Refusal} (h : Refuses yaml p content r) :
    readBy yaml p content = .error (.refused r) := by
  cases h with
  | notFound h =>
      rw [h]
      rfl
  | unreadable h =>
      rw [h]
      rfl
  | unsupported htext h =>
      obtain ⟨octets, cs, rfl, hcs, -⟩ := htext
      have hnone : Format.ofSuffix? p.suffix = none := by
        rw [Option.eq_none_iff_forall_ne_some]
        intro format hformat
        exact h format (Format.ofSuffix?_eq_some_iff.1 hformat)
      rw [readBy, readLinkedBy, valueOf, hcs, hnone]
      rfl
  | invalidYaml hsuffix htext h => exact read_of_valueIn_error htext hsuffix (by rw [valueIn, h])
  | invalidJson hsuffix htext h => exact read_of_valueIn_error htext hsuffix (by rw [valueIn, h])
  | notMapping hv h => exact hv.read_of_not_saysMapping h

theorem Escapes.read_eq {e : ReadError} (h : Escapes yaml p content e) :
    readBy yaml p content = .error e := by
  cases h with
  | hidden h =>
      rw [h]
      rfl
  | notText hcontent h =>
      rw [hcontent, readBy, readLinkedBy, valueOf, h]
      rfl
  | tooManyDigits hsuffix htext h => exact read_of_valueIn_error htext hsuffix (by rw [valueIn, h])
  | @scalar text e hsuffix htext h hcause =>
      refine read_of_valueIn_error htext hsuffix ?_
      rw [valueIn, h]
      cases e with
      | malformed => exact absurd rfl hcause
      | _ => rfl

/-! ## Outcomes -/

theorem Outcome.read_eq {r : Except ReadError Entries} (h : Outcome yaml p content r) :
    readBy yaml p content = r := by
  cases h with
  | entries hv h => exact hv.read_of_saysMapping h
  | refused h => exact h.read_eq
  | escaped h => exact h.read_eq

theorem exists_outcome_of_holds (hv : Holds yaml p content format v) :
    ∃ r, Outcome yaml p content r := by
  by_cases h : ∃ entries, SaysMapping format v entries
  · obtain ⟨entries, h⟩ := h
    exact ⟨_, .entries hv h⟩
  · exact ⟨_, .refused (.notMapping hv (not_exists.1 h))⟩

theorem exists_outcome_of_text (htext : HasText content text)
    (hsuffix : p.suffix ∈ format.suffixes) : ∃ r, Outcome yaml p content r := by
  cases format with
  | yaml =>
      cases h : yaml text with
      | ok t => exact exists_outcome_of_holds ⟨hsuffix, text, htext, .yaml h⟩
      | error e =>
          by_cases hcause : e = .malformed
          · rw [hcause] at h
            exact ⟨_, .refused (.invalidYaml hsuffix htext h)⟩
          · exact ⟨_, .escaped (.scalar hsuffix htext h hcause)⟩
  | json =>
      cases h : Json.read text with
      | ok v => exact exists_outcome_of_holds ⟨hsuffix, text, htext, .json h⟩
      | error e =>
          cases e with
          | fault cause offset line column => exact ⟨_, .refused (.invalidJson hsuffix htext h)⟩
          | tooManyDigits count => exact ⟨_, .escaped (.tooManyDigits hsuffix htext h)⟩

variable (yaml)

theorem exists_outcome (p : Path) (content : Content) : ∃ r, Outcome yaml p content r := by
  cases content with
  | missing => exact ⟨_, .refused (.notFound rfl)⟩
  | hidden fault => exact ⟨_, .escaped (.hidden rfl)⟩
  | unreadable fault => exact ⟨_, .refused (.unreadable rfl)⟩
  | octets octets =>
      cases hcs : Text.decodeUtf8 octets with
      | error e => exact ⟨_, .escaped (.notText rfl hcs)⟩
      | ok cs =>
          have htext : HasText (.octets octets) _ := ⟨octets, cs, rfl, hcs, rfl⟩
          by_cases h : ∃ format : Format, p.suffix ∈ format.suffixes
          · obtain ⟨format, hsuffix⟩ := h
            exact exists_outcome_of_text htext hsuffix
          · exact ⟨_, .refused (.unsupported htext (not_exists.1 h))⟩

/-- Reading a file has one outcome.  A document that says a mapping gives it, and any other document
is refused. -/
theorem read_outcomes (p : Path) (content : Content) :
    (∀ r, readBy yaml p content = r ↔ Outcome yaml p content r) ∧
      ∀ format v, Holds yaml p content format v →
        (∀ entries, readBy yaml p content = .ok entries ↔ SaysMapping format v entries) ∧
          ((∀ entries, ¬ SaysMapping format v entries) →
            readBy yaml p content = .error (.refused (.notMapping p.text))) := by
  constructor
  · intro r
    refine ⟨?_, Outcome.read_eq⟩
    rintro rfl
    obtain ⟨r, hr⟩ := exists_outcome yaml p content
    rw [hr.read_eq]
    exact hr
  · intro format v hv
    refine ⟨fun entries ↦ ⟨fun hread ↦ ?_, hv.read_of_saysMapping⟩, hv.read_of_not_saysMapping⟩
    by_cases h : ∃ other, SaysMapping format v other
    · obtain ⟨other, hother⟩ := h
      cases hread.symm.trans (hv.read_of_saysMapping hother)
      exact hother
    · cases hread.symm.trans (hv.read_of_not_saysMapping (not_exists.1 h))

end

theorem decodes_emptyList : Format.yaml.Decodes Yaml.read "[]" (.list []) := by
  have hshape : (Yaml.read "[]").toOption.map (fun t => (t.toValue.typeName, t.toValue.isFalsy)) =
      some ("list", true) := by
    decide +kernel
  have hlist {v : Value} (htype : v.typeName = "list") (hfalsy : v.isFalsy = true) :
      v = .list [] := by
    cases v with
    | list items => rw [List.isEmpty_iff.1 hfalsy]
    | _ => simp [Value.typeName] at htype
  cases hread : Yaml.read "[]" with
  | error e =>
      rw [hread] at hshape
      cases hshape
  | ok t =>
      rw [hread] at hshape
      obtain ⟨htype, hfalsy⟩ := Prod.mk.inj (Option.some.inj hshape)
      rw [← hlist htype hfalsy]
      exact .yaml hread

/-- What escapes is no refusal, and in YAML an empty list says a mapping. -/
theorem read_illFormed_emptyList :
    (∀ entries, read (.ofText "c.yaml") (.octets [0xff]) ≠ .ok entries) ∧
      (∀ r, read (.ofText "c.yaml") (.octets [0xff]) ≠ .error (.refused r)) ∧
      Holds Yaml.read (.ofText "c.yaml") (.octets [0x5b, 0x5d]) .yaml (.list []) ∧
      read (.ofText "c.yaml") (.octets [0x5b, 0x5d]) = .ok [] := by
  have hescapes : Escapes Yaml.read (.ofText "c.yaml") (.octets [0xff])
      (.notText ⟨.invalidStart, 0xff, 0, 1⟩) := .notText rfl rfl
  have hread := hescapes.read_eq
  have hlist : Holds Yaml.read (.ofText "c.yaml") (.octets [0x5b, 0x5d]) .yaml (.list []) :=
    ⟨by decide +kernel, "[]", ⟨_, ['[', ']'], rfl, rfl, rfl⟩, decodes_emptyList⟩
  refine ⟨?_, ?_, hlist, hlist.read_of_saysMapping (.falsy rfl)⟩
  · intro entries h
    cases hread.symm.trans h
  · intro r h
    cases hread.symm.trans h

end Settings.File
