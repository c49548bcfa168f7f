import ShellTemplate.Proofs.RecordReading

namespace ShellTemplate

theorem lookup_memberIfAny {α : Type} (key : String) (encode : α → Json) (values : List α) (name : String) :
    (Json.memberIfAny key encode values).lookup name =
      if name = key then if values = [] then none else some (.array (values.map encode)) else none := by
  cases values with
  | nil => simp [Json.memberIfAny]
  | cons value rest => rw [Json.memberIfAny, lookup_cons_eq_ite] <;> simp

theorem reverse_memberIfAny {α : Type} (key : String) (encode : α → Json) (values : List α) :
    (Json.memberIfAny key encode values).reverse = Json.memberIfAny key encode values := by
  cases values <;> rfl

open Decoder Json

theorem ValueType.reads_decoder : decoder.Reads fun kind => .text kind.name :=
  reads_choice fun kind => by cases kind <;> decide

theorem Level.reads_decoder : decoder.Reads fun kind => .text kind.name :=
  reads_choice fun kind => by cases kind <;> decide

theorem Scope.reads_decoder : decoder.Reads fun kind => .text kind.name :=
  reads_choice fun kind => by cases kind <;> decide

theorem Position.reads_decoder : decoder.Reads fun kind => .text kind.name :=
  reads_choice fun kind => by cases kind <;> decide

theorem Condition.reads_decoder : decoder.Reads toJson := by
  intro c json restates
  cases c with
  | option flag =>
    obtain ⟨own, rfl, target⟩ := restates.exists_member
    rw [target.eq_text]
    rfl
  | parameter name =>
    obtain ⟨own, rfl, target⟩ := restates.exists_member
    rw [target.eq_text]
    rfl

theorem Condition.isPlain_toJson (c : Condition) : c.toJson.isPlain = true := by
  cases c <;> rfl

namespace Parameter

def members (p : Parameter) : List (String × Json) :=
  p.toJson.members

theorem lookup_mark (p : Parameter) (name : String) :
    (if p.isFlag then [("isFlag", Json.boolean true)] else []).reverse.lookup name =
      if name = "isFlag" then if p.isFlag then some (.boolean true) else none else none := by
  cases p.isFlag <;> simp [lookup_cons_eq_ite]

theorem matches_record : record.Matches members where
  sound := by
    unfold record
    repeat first | apply Record.IsSound.seq | apply Record.IsSound.map | exact Record.isSound_field ..
  names := by decide
  spelled f known := by
    have other : record.fields.all (fun f => f.spellings.contains f.name &&
        f.spellings.all fun key => key == f.name || key == "dataType") = true := by decide
    have spelled := List.all_eq_true.1 other f known
    simp only [Bool.and_eq_true, List.contains_iff_mem, List.all_eq_true, Bool.or_eq_true, beq_iff_eq] at spelled
    refine ⟨spelled.1, fun key member differ p => ?_⟩
    obtain rfl := (spelled.2 key member).resolve_left differ
    simp [members, toJson, Json.members, List.lookup_append, lookup_mark, reverse_memberIf, lookup_memberIf,
      reverse_memberIfAny, lookup_memberIfAny, lookup_cons_eq_ite]
  yields find p each := by
    simp only [members, toJson, Json.members, List.reverse_append, List.lookup_append, lookup_mark, reverse_memberIf,
      lookup_memberIf, reverse_memberIfAny, lookup_memberIfAny] at each
    have name : (Record.required "name" Decoder.text).Yields find p.name :=
      Record.yields_written reads_text (by simpa [lookup_cons_eq_ite] using each "name")
    have description : (Record.defaulted "description" Decoder.text "").Yields find p.description :=
      Record.yields_written reads_text (by simpa [lookup_cons_eq_ite] using each "description")
    have required : (Record.optional "required" Decoder.boolean).Yields find p.required? :=
      Record.yields_optional reads_boolean boolean_ne_null (by simpa [lookup_cons_eq_ite] using each "required")
    have default : (Record.optional "defaultValue" Decoder.text).Yields find p.default? :=
      Record.yields_optional reads_text text_ne_null (by simpa [lookup_cons_eq_ite] using each "defaultValue")
    have valueType : (Record.field "type" ["type", "dataType"] ValueType.decoder (.ok .string)).Yields find p.valueType :=
      Record.yields_written ValueType.reads_decoder (by simpa [lookup_cons_eq_ite] using each "type")
    have choices : (Record.defaulted "enumValues" (.items Decoder.text) []).Yields find p.choices :=
      Record.yields_items reads_text (by simpa [lookup_cons_eq_ite] using each "enumValues")
    have level : (Record.optional "level" Level.decoder).Yields find p.level? :=
      Record.yields_optional Level.reads_decoder (fun _ => text_ne_null _)
        (by simpa [lookup_cons_eq_ite] using each "level")
    have scope : (Record.optional "scope" Scope.decoder).Yields find p.scope? :=
      Record.yields_optional Scope.reads_decoder (fun _ => text_ne_null _)
        (by simpa [lookup_cons_eq_ite] using each "scope")
    have position : (Record.optional "position" Position.decoder).Yields find p.position? :=
      Record.yields_optional Position.reads_decoder (fun _ => text_ne_null _)
        (by simpa [lookup_cons_eq_ite] using each "position")
    have parentOption : (Record.optional "parentOption" Decoder.text).Yields find p.parentOption? :=
      Record.yields_optional reads_text text_ne_null (by simpa [lookup_cons_eq_ite] using each "parentOption")
    have condition : (Record.optional "conditionalOn" Condition.decoder).Yields find p.condition? :=
      Record.yields_optional Condition.reads_decoder (fun c => by cases c <;> nofun)
        (by simpa [lookup_cons_eq_ite] using each "conditionalOn")
    have isFlag : (Record.defaulted "isFlag" Decoder.boolean false).Yields find p.isFlag :=
      Record.yields_mark (by simpa [lookup_cons_eq_ite] using each "isFlag")
    exact ((((((((((((name.map mk).seq description).seq required).seq default).seq valueType).seq choices).seq level).seq
      scope).seq position).seq parentOption).seq condition).seq isFlag)

theorem reads_decoder : decoder.Reads toJson :=
  Record.Matches.reads matches_record "struct ParameterDefinition"

theorem standUnder_members (p : Parameter) : StandUnder (record.fields.map (·.name)) p.members :=
  have mark : StandUnder ["isFlag"] (if p.isFlag then [("isFlag", .boolean true)] else []) := by
    cases p.isFlag with
    | true => exact standUnder_nil.cons rfl "isFlag"
    | false => exact ⟨List.nil_sublist _, nofun⟩
  ((((((((((standUnder_nil.cons rfl "description").cons rfl "name").append
    (standUnder_memberIf (fun _ => rfl) ..)).append (standUnder_memberIf (fun _ => rfl) ..)).append
    (standUnder_nil.cons rfl "type")).append (standUnder_memberIfAny (fun _ => rfl) ..)).append
    (standUnder_memberIf (fun _ => rfl) ..)).append (standUnder_memberIf (fun _ => rfl) ..)).append
    (standUnder_memberIf (fun _ => rfl) ..)).append (standUnder_memberIf (fun _ => rfl) ..)).append
    (standUnder_memberIf Condition.isPlain_toJson ..) |>.append mark

theorem isPlain_toJson (p : Parameter) : p.toJson.isPlain = true :=
  have stands := p.standUnder_members
  isPlain_object_iff.2 ⟨stands.keys.nodup (Record.Matches.names matches_record), stands.plain⟩

end Parameter

namespace CommandOption

def members (o : CommandOption) : List (String × Json) :=
  o.toJson.members

theorem matches_record : record.Matches members where
  sound := by
    unfold record
    repeat first | apply Record.IsSound.seq | apply Record.IsSound.map | exact Record.isSound_field ..
  names := by decide
  spelled := Record.spelled_of_plain (by decide)
  yields find o each := by
    simp only [members, toJson, Json.members, List.reverse_append, List.lookup_append, reverse_memberIf, lookup_memberIf,
      reverse_memberIfAny, lookup_memberIfAny] at each
    have flag : (Record.optional "flag" Decoder.text).Yields find o.flag? :=
      Record.yields_optional reads_text text_ne_null (by simpa [lookup_cons_eq_ite] using each "flag")
    have shortFlag : (Record.optional "shortFlag" Decoder.text).Yields find o.shortFlag? :=
      Record.yields_optional reads_text text_ne_null (by simpa [lookup_cons_eq_ite] using each "shortFlag")
    have longFlag : (Record.optional "longFlag" Decoder.text).Yields find o.longFlag? :=
      Record.yields_optional reads_text text_ne_null (by simpa [lookup_cons_eq_ite] using each "longFlag")
    have description : (Record.defaulted "description" Decoder.text "").Yields find o.description :=
      Record.yields_written reads_text (by simpa [lookup_cons_eq_ite] using each "description")
    have required : (Record.defaulted "required" Decoder.boolean false).Yields find o.required :=
      Record.yields_written reads_boolean (by simpa [lookup_cons_eq_ite] using each "required")
    have hasValue : (Record.defaulted "hasValue" Decoder.boolean false).Yields find o.hasValue :=
      Record.yields_written reads_boolean (by simpa [lookup_cons_eq_ite] using each "hasValue")
    have valueType : (Record.optional "valueType" ValueType.decoder).Yields find o.valueType? :=
      Record.yields_optional ValueType.reads_decoder (fun _ => text_ne_null _)
        (by simpa [lookup_cons_eq_ite] using each "valueType")
    have conflictsWith : (Record.defaulted "conflictsWith" (.items Decoder.text) []).Yields find o.conflictsWith :=
      Record.yields_items reads_text (by simpa [lookup_cons_eq_ite] using each "conflictsWith")
    have dependsOn : (Record.defaulted "dependsOn" (.items Decoder.text) []).Yields find o.dependsOn :=
      Record.yields_items reads_text (by simpa [lookup_cons_eq_ite] using each "dependsOn")
    exact ((((((((flag.map mk).seq shortFlag).seq longFlag).seq description).seq required).seq hasValue).seq
      valueType).seq conflictsWith).seq dependsOn

theorem reads_decoder : decoder.Reads toJson :=
  Record.Matches.reads matches_record "struct OptionDefinition"

theorem standUnder_members (o : CommandOption) : StandUnder (record.fields.map (·.name)) o.members :=
  (((((standUnder_memberIf (fun _ => rfl) ..).append (standUnder_memberIf (fun _ => rfl) ..)).append
    (standUnder_memberIf (fun _ => rfl) ..)).append
    (((standUnder_nil.cons rfl "hasValue").cons rfl "required").cons rfl "description")).append
    (standUnder_memberIf (fun _ => rfl) ..)).append (standUnder_memberIfAny (fun _ => rfl) ..) |>.append
    (standUnder_memberIfAny (fun _ => rfl) ..)

theorem isPlain_toJson (o : CommandOption) : o.toJson.isPlain = true :=
  have stands := o.standUnder_members
  isPlain_object_iff.2 ⟨stands.keys.nodup (Record.Matches.names matches_record), stands.plain⟩

end CommandOption

namespace Definition

theorem matches_record : record.Matches members where
  sound := by
    unfold record
    repeat first | apply Record.IsSound.seq | apply Record.IsSound.map | exact Record.isSound_field ..
  names := by decide
  spelled := Record.spelled_of_plain (by decide)
  yields find d each := by
    simp only [members, List.reverse_append, List.lookup_append, reverse_memberIf, lookup_memberIf] at each
    refine assemble_eq_ok_iff.2 ?_
    constructor
    case id => exact Record.yields_optional reads_text text_ne_null (by simpa [lookup_cons_eq_ite] using each "id")
    case name => exact Record.yields_written reads_text (by simpa [lookup_cons_eq_ite] using each "name")
    case description => exact Record.yields_written reads_text (by simpa [lookup_cons_eq_ite] using each "description")
    case command => exact Record.yields_written reads_text (by simpa [lookup_cons_eq_ite] using each "command")
    case parameters =>
      exact Record.yields_written (reads_items Parameter.reads_decoder)
        (by simpa [lookup_cons_eq_ite] using each "parameters")
    case options =>
      exact Record.yields_written (reads_items CommandOption.reads_decoder)
        (by simpa [lookup_cons_eq_ite] using each "options")
    case category =>
      exact Record.yields_optional reads_text text_ne_null (by simpa [lookup_cons_eq_ite] using each "category")
    case tags =>
      exact Record.yields_written (reads_items reads_text) (by simpa [lookup_cons_eq_ite, textsToJson] using each "tags")
    case commonCommands =>
      exact Record.yields_written (reads_items reads_text)
        (by simpa [lookup_cons_eq_ite, textsToJson] using each "commonCommands")
    case isUserCreated =>
      exact Record.yields_optional reads_boolean boolean_ne_null
        (by simpa [lookup_cons_eq_ite] using each "isUserCreated")
    case createdAt =>
      exact Record.yields_optional reads_text text_ne_null (by simpa [lookup_cons_eq_ite] using each "createdAt")
    case updatedAt =>
      exact Record.yields_optional reads_text text_ne_null (by simpa [lookup_cons_eq_ite] using each "updatedAt")
    case version => exact Record.yields_written reads_word (by simpa [lookup_cons_eq_ite] using each "version")
    case usageCount =>
      exact Record.yields_written (reads_natural "u64") (by simpa [lookup_cons_eq_ite] using each "usageCount")
    case lastUsed =>
      exact Record.yields_optional reads_text text_ne_null (by simpa [lookup_cons_eq_ite] using each "lastUsed")

theorem standUnder_members (d : Definition) : StandUnder (record.fields.map (·.name)) d.members :=
  have texts (values : List String) : (textsToJson values).isPlain = true := isPlain_items (fun _ => rfl) values
  (((((((standUnder_memberIf (fun _ => rfl) ..).append
    (((((standUnder_nil.cons (isPlain_items CommandOption.isPlain_toJson _) "options").cons
      (isPlain_items Parameter.isPlain_toJson _) "parameters").cons rfl "command").cons rfl "description").cons rfl
      "name")).append (standUnder_memberIf (fun _ => rfl) ..)).append
    ((standUnder_nil.cons (texts _) "commonCommands").cons (texts _) "tags")).append
    (standUnder_memberIf (fun _ => rfl) ..)).append (standUnder_memberIf (fun _ => rfl) ..)).append
    (standUnder_memberIf (fun _ => rfl) ..)).append ((standUnder_nil.cons rfl "usageCount").cons rfl "version") |>.append
    (standUnder_memberIf (fun _ => rfl) ..)

theorem lookup_fields (d : Definition) (key : String) : d.fields.toList.lookup key = d.members.lookup key := by
  have once := d.standUnder_members.keys.nodup (Record.Matches.names matches_record)
  rw [fields, SortedList.lookup_ofList, lookup_reverse_of_nodup once]

/-- A definition is read back from its own fields. -/
theorem readFrom_fields (d : Definition) : ReadFrom (d.fields.toList.lookup ·) d := by
  refine assemble_eq_ok_iff.1 (Record.Matches.yields matches_record _ d fun key => ?_)
  rw [fields, SortedList.lookup_ofList]
  cases found : d.members.reverse.lookup key with
  | none => exact .none
  | some value =>
    have member := List.mem_reverse.1 (mem_of_lookup found)
    exact .some (.refl (d.standUnder_members.plain _ member))

end Definition

end ShellTemplate
