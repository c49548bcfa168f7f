import Mathlib.Data.List.Nodup
import ShellTemplate.Proofs.StructureReading
import ShellTemplate.Report

namespace ShellTemplate

open Decoder Json

theorem Decoder.reads_byte : byte.Reads fun n => .integer n.toNat := by
  intro n json restates
  have bound : n.toNat < UInt8.size := n.toNat_lt_size
  rw [restates.eq_integer]
  change (below UInt8.size "u8" (.integer (.ofNat n.toNat))).map UInt8.ofFin = _
  rw [below, dif_pos bound]
  rfl

theorem Severity.reads_decoder : decoder.Reads fun severity => .text severity.name :=
  reads_choice fun severity => by cases severity <;> decide

theorem IssueCategory.reads_decoder : decoder.Reads fun category => .text category.name :=
  reads_choice fun category => by cases category <;> decide

namespace Issue

/-- The form has the name of the problem, and it reads the problem from its detail; null stands for no detail. -/
structure Form.Reads (f : Form) (i : Issue) : Prop where
  code : f.1 = i.code
  read : ∀ detail?, Option.Rel Restates detail? i.detail? → f.2 (detail?.getD .null) = .ok i

section

variable {i : Issue} {name code : String}

theorem reads_plain (absent : i.detail? = none) : (plain name i).Reads i where
  code := rfl
  read detail? same := by
    rw [absent] at same
    cases same
    rfl

theorem reads_about {make : String → Issue} {value : String} (names : code = (make value).code)
    (tells : (make value).detail? = some (.text value)) : (about code make).Reads (make value) where
  code := names
  read detail? same := by
    rw [tells] at same
    cases same with
    | some restates =>
      rw [restates.eq_text]
      rfl

theorem reads_counted {make : Nat → Issue} {value : Nat} (names : code = (make value).code)
    (tells : (make value).detail? = some (.integer value)) : (counted code make).Reads (make value) where
  code := names
  read detail? same := by
    rw [tells] at same
    cases same with
    | some restates =>
      rw [restates.eq_integer]
      rfl

theorem reads_named {r : Record Issue} {members : List (String × Json)} (sound : r.IsSound)
    (distinct : (r.fields.map (·.name)).Nodup) (spelled : r.fields.all (fun f => f.spellings == [f.name]) = true)
    (names : code = i.code) (tells : i.detail? = some (.object members))
    (yields : ∀ find : String → Option Json, (∀ key, Option.Rel Restates (find key) (members.reverse.lookup key)) →
      r.Yields find i) : (named code name r).Reads i where
  code := names
  read detail? same := by
    rw [tells] at same
    cases same with
    | some restates =>
      obtain ⟨own, rfl, keys, each⟩ := restates.exists_members
      refine Record.ofMembers_eq_ok sound ⟨distinct, keys, fun f known => ?_⟩ (yields _ each)
      have one : f.spellings = [f.name] := beq_iff_eq.1 (List.all_eq_true.1 spelled f known)
      rw [one]
      exact ⟨List.mem_singleton.2 rfl, fun key member differ => absurd (List.mem_singleton.1 member) differ⟩

variable {α β γ : Type} {first : Decoder α} {second : Decoder β} {third : Decoder γ} {ofFirst : α → Json}
  {ofSecond : β → Json} {ofThird : γ → Json} {keyA keyB keyC : String} {a : α} {b : β} {c : γ}

theorem reads_single {make : α → Issue} (readsA : first.Reads ofFirst) (names : code = (make a).code)
    (tells : (make a).detail? = some (.object [(keyA, ofFirst a)])) :
    (named code name (make <$> .required keyA first)).Reads (make a) := by
  refine reads_named ((Record.isSound_field ..).map make) (List.nodup_singleton keyA) ?_ names tells fun find each => ?_
  · change ([keyA] == [keyA] && true) = true
    simp
  · exact (Record.yields_written readsA (by simpa [lookup_cons_eq_ite] using each keyA)).map make

theorem reads_pair {make : α → β → Issue} (readsA : first.Reads ofFirst) (readsB : second.Reads ofSecond)
    (distinct : [keyA, keyB].Nodup) (names : code = (make a b).code)
    (tells : (make a b).detail? = some (.object [(keyA, ofFirst a), (keyB, ofSecond b)])) :
    (named code name (make <$> .required keyA first <*> .required keyB second)).Reads (make a b) := by
  have differ : keyA ≠ keyB := by simpa using distinct
  refine reads_named (((Record.isSound_field ..).map make).seq (Record.isSound_field ..)) distinct ?_ names tells
    fun find each => ?_
  · change ([keyA] == [keyA] && ([keyB] == [keyB] && true)) = true
    simp
  · have ofA : (Record.required keyA first).Yields find a :=
      Record.yields_written readsA (by simpa [lookup_cons_eq_ite, differ] using each keyA)
    have ofB : (Record.required keyB second).Yields find b :=
      Record.yields_written readsB (by simpa [lookup_cons_eq_ite] using each keyB)
    exact (ofA.map make).seq ofB

theorem reads_triple {make : α → β → γ → Issue} (readsA : first.Reads ofFirst) (readsB : second.Reads ofSecond)
    (readsC : third.Reads ofThird) (distinct : [keyA, keyB, keyC].Nodup) (names : code = (make a b c).code)
    (tells : (make a b c).detail? = some (.object [(keyA, ofFirst a), (keyB, ofSecond b), (keyC, ofThird c)])) :
    (named code name (make <$> .required keyA first <*> .required keyB second <*> .required keyC third)).Reads
      (make a b c) := by
  obtain ⟨⟨differAB, differAC⟩, differBC⟩ : (keyA ≠ keyB ∧ keyA ≠ keyC) ∧ keyB ≠ keyC := by simpa using distinct
  refine reads_named ((((Record.isSound_field ..).map make).seq (Record.isSound_field ..)).seq (Record.isSound_field ..))
    distinct ?_ names tells fun find each => ?_
  · change ([keyA] == [keyA] && ([keyB] == [keyB] && ([keyC] == [keyC] && true))) = true
    simp
  · have ofA : (Record.required keyA first).Yields find a :=
      Record.yields_written readsA (by simpa [lookup_cons_eq_ite, differAB, differAC] using each keyA)
    have ofB : (Record.required keyB second).Yields find b :=
      Record.yields_written readsB (by simpa [lookup_cons_eq_ite, differBC] using each keyB)
    have ofC : (Record.required keyC third).Yields find c :=
      Record.yields_written readsC (by simpa [lookup_cons_eq_ite] using each keyC)
    exact ((ofA.map make).seq ofB).seq ofC

end

/-- Every problem has its form, and the forms stand in the order of the problems. -/
theorem exists_form (i : Issue) : ∃ f, forms[i.ctorIdx]? = some f ∧ f.Reads i := by
  have text := reads_text
  have count := reads_natural "usize"
  cases i
  case emptyCommand | backgroundNotTerminal | mixedLogicChain | missingFlag => exact ⟨_, rfl, reads_plain rfl⟩
  case missingBaseCommand index => exact ⟨_, rfl, reads_counted rfl rfl⟩
  case invalidCharacters field => exact ⟨_, rfl, reads_single text rfl rfl⟩
  case consecutiveSeparators | danglingReference | suspiciousPath | optionConflict | missingDependency =>
    exact ⟨_, rfl, reads_pair text text (by decide) rfl rfl⟩
  case tooShort | tooLong | tooMany => exact ⟨_, rfl, reads_pair text count (by decide) rfl rfl⟩
  case categoryTooDeep => exact ⟨_, rfl, reads_pair text reads_byte (by decide) rfl rfl⟩
  case invalidValue => exact ⟨_, rfl, reads_triple text ValueType.reads_decoder text (by decide) rfl rfl⟩
  case notInEnum => exact ⟨_, rfl, reads_triple text text text (by decide) rfl rfl⟩
  all_goals exact ⟨_, rfl, reads_about rfl rfl⟩

theorem nodup_codes : (forms.map Prod.fst).Nodup := by decide

/-- The form is found under the name of the problem. -/
theorem exists_choice (i : Issue) : ∃ read, choice forms (.text i.code) = .ok read ∧
    ∀ detail?, Option.Rel Restates detail? i.detail? → read (detail?.getD .null) = .ok i := by
  obtain ⟨f, found, reads⟩ := i.exists_form
  refine ⟨f.2, ?_, reads.read⟩
  rw [choice, variant, ← reads.code, lookup_of_mem nodup_codes (List.mem_of_getElem? found)]

theorem ofMembers_eq_ok {i : Issue} {detail? : Option Json} (same : Option.Rel Restates detail? i.detail?) :
    ofMembers (some (.text i.code)) detail? = .ok i := by
  obtain ⟨read, chosen, reads⟩ := i.exists_choice
  have told := reads detail? same
  cases detail? with
  | some detail =>
    change read detail = .ok i at told
    simp only [ofMembers, chosen, told]
  | none =>
    change read .null = .ok i at told
    simp only [ofMembers, chosen, told]

theorem unrepeated_of_nodup {members : List (String × Json)} (distinct : (members.map Prod.fst).Nodup) (key : String) :
    unrepeated key members = .ok () := by
  have once : (members.filter fun member => member.1 == key).length ≤ 1 := by
    have counted := List.nodup_iff_count_le_one.1 distinct key
    rwa [List.count, List.countP_map, List.countP_eq_length_filter] at counted
  rw [unrepeated, if_neg (by omega)]

theorem isPlain_detail {i : Issue} {detail : Json} (told : i.detail? = some detail) : detail.isPlain = true := by
  cases i <;> cases told <;> rfl

theorem inverts_decoder : decoder.Inverts toJson where
  reads i json restates := by
    obtain ⟨own, rfl, distinct, each⟩ := restates.exists_members
    simp only [List.reverse_cons, List.lookup_append, reverse_memberIf, lookup_memberIf] at each
    have code : own.lookup "code" = some (.text i.code) := by
      have found := each "code"
      simp only [lookup_cons_eq_ite] at found
      cases stands : own.lookup "code" with
      | none => simp [stands] at found
      | some json =>
        have restates : json.Restates (.text i.code) := by simpa [stands] using found
        rw [restates.eq_text]
    have detail : Option.Rel Restates (own.lookup "detail") i.detail? := by
      simpa [lookup_cons_eq_ite] using each "detail"
    simp only [decoder, code, ofMembers_eq_ok detail, unrepeated_of_nodup distinct]
    rfl
  plain i := by
    refine isPlain_object_iff.2 ?_
    cases told : i.detail? with
    | none => exact ⟨List.nodup_singleton _, by simp [memberIf, isPlain]⟩
    | some detail => exact ⟨by simp [memberIf], by simp [memberIf, isPlain, isPlain_detail told]⟩

end Issue

namespace Diagnostic

def members (d : Diagnostic) : List (String × Json) :=
  d.toJson.members

theorem matches_record : record.Matches members where
  sound := by
    unfold record
    repeat first | apply Record.IsSound.seq | apply Record.IsSound.map | exact Record.isSound_field ..
  names := by decide
  spelled := Record.spelled_of_plain (by decide)
  yields find d each := by
    simp only [members, toJson, Json.members, List.reverse_append, List.lookup_append, reverse_memberIf, lookup_memberIf]
      at each
    have severity : (Record.required "severity" Severity.decoder).Yields find d.severity :=
      Record.yields_written Severity.reads_decoder (by simpa [lookup_cons_eq_ite] using each "severity")
    have category : (Record.required "category" IssueCategory.decoder).Yields find d.category :=
      Record.yields_written IssueCategory.reads_decoder (by simpa [lookup_cons_eq_ite] using each "category")
    have field : (Record.optional "field" Decoder.text).Yields find d.field? :=
      Record.yields_optional reads_text text_ne_null (by simpa [lookup_cons_eq_ite] using each "field")
    have issue : (Record.required "issue" Issue.decoder).Yields find d.issue :=
      Record.yields_written (Inverts.reads Issue.inverts_decoder) (by simpa [lookup_cons_eq_ite] using each "issue")
    have message : (Record.required "message" Decoder.text).Yields find d.message :=
      Record.yields_written reads_text (by simpa [lookup_cons_eq_ite] using each "message")
    exact ((((severity.map mk).seq category).seq field).seq issue).seq message

theorem standUnder_members (d : Diagnostic) : StandUnder (record.fields.map (·.name)) d.members :=
  (((standUnder_nil.cons rfl "category").cons rfl "severity").append (standUnder_memberIf (fun _ => rfl) ..)).append
    ((standUnder_nil.cons rfl "message").cons (Inverts.plain Issue.inverts_decoder d.issue) "issue")

theorem inverts_decoder : decoder.Inverts toJson :=
  Record.Matches.inverts matches_record standUnder_members "struct Diagnostic"

end Diagnostic

namespace Report

def members (r : Report) : List (String × Json) :=
  r.toJson.members

theorem matches_record : record.Matches members where
  sound := by
    unfold record
    repeat first | apply Record.IsSound.seq | apply Record.IsSound.map | exact Record.isSound_field ..
  names := by decide
  spelled := Record.spelled_of_plain (by decide)
  yields find r each := by
    simp only [members, toJson, Json.members] at each
    have list {name : String} {ds : List Diagnostic}
        (found : Option.Rel Restates (find name) (some (diagnosticsToJson ds))) :
        (Record.required name (.items Diagnostic.decoder)).Yields find ds :=
      Record.yields_written (reads_items (Inverts.reads Diagnostic.inverts_decoder)) found
    have errors := list (by simpa [lookup_cons_eq_ite] using each "errors")
    have warnings := list (by simpa [lookup_cons_eq_ite] using each "warnings")
    have suggestions := list (by simpa [lookup_cons_eq_ite] using each "suggestions")
    exact ((errors.map mk).seq warnings).seq suggestions

theorem standUnder_members (r : Report) : StandUnder (record.fields.map (·.name)) r.members :=
  have list (ds : List Diagnostic) : (diagnosticsToJson ds).isPlain = true :=
    isPlain_items (Inverts.plain Diagnostic.inverts_decoder) ds
  ((standUnder_nil.cons (list _) "suggestions").cons (list _) "warnings").cons (list _) "errors"

theorem inverts_decoder : decoder.Inverts toJson :=
  Record.Matches.inverts matches_record standUnder_members "struct ValidationResult"

end Report

end ShellTemplate
