import ShellTemplate.Proofs.SortedLookup
import ShellTemplate.Session

namespace ShellTemplate

namespace Record

variable {α β : Type} {find : String → Option Json}

theorem assemble_map_eq_ok_iff {f : α → β} {r : Record α} {b : β} :
    (f <$> r).assemble find = .ok b ↔ ∃ a, r.assemble find = .ok a ∧ f a = b := by
  change (r.assemble find).map f = .ok b ↔ _
  cases r.assemble find <;> simp [Except.map]

theorem assemble_seq_eq_ok_iff {f : Record (α → β)} {r : Record α} {b : β} :
    (f <*> r).assemble find = .ok b ↔
      ∃ make, f.assemble find = .ok make ∧ ∃ a, r.assemble find = .ok a ∧ make a = b := by
  change (f.assemble find >>= fun make => (r.assemble find).map make) = .ok b ↔ _
  cases f.assemble find with
  | error e => simp [bind, Except.bind]
  | ok make => cases r.assemble find <;> simp [bind, Except.bind, Except.map]

theorem assemble_of_ofMembers {r : Record α} {strict : Bool} {members : List (String × Json)} {a : α}
    (read : r.ofMembers strict members = .ok a) : r.assemble (lookup r.fields members) = .ok a := by
  unfold ofMembers at read
  cases visited : visit r.fields strict [] members with
  | error e => simp [visited, bind, Except.bind] at read
  | ok _ => simpa [visited, bind, Except.bind] using read

theorem find?_spelling (members : List (String × Json)) (name : String) :
    (members.find? fun (key, _) => [name].contains key).map Prod.snd = members.lookup name := by
  induction members with
  | nil => rfl
  | cons entry rest ih =>
    obtain ⟨key, json⟩ := entry
    rw [List.find?_cons, lookup_cons_eq_ite]
    dsimp only
    by_cases same : name = key
    · simp [same]
    · have other : [name].contains key = false := by simpa using Ne.symm same
      rw [other, if_neg same]
      exact ih

/-- Where each field has one spelling, its value is the first one of its name. -/
theorem lookup_eq {fields : List Field} {name : String} (plain : ∀ f ∈ fields, f.spellings = [f.name])
    (known : name ∈ fields.map (·.name)) (members : List (String × Json)) :
    lookup fields members name = members.lookup name := by
  unfold lookup
  cases found : fields.find? (·.name == name) with
  | none =>
    obtain ⟨f, member, named⟩ := List.mem_map.1 known
    exact absurd (beq_iff_eq.2 named) (List.find?_eq_none.1 found f member)
  | some f =>
    have named : f.name = name := by simpa using List.find?_some found
    dsimp only
    rw [plain f (List.mem_of_find?_eq_some found), named]
    exact find?_spelling members name

end Record

namespace Decoder

theorem text_eq_ok_iff {json : Json} {value : String} : text json = .ok value ↔ json = .text value := by
  cases json <;> simp [text, Json.mismatch]

theorem word_toNat (n : UInt32) : word (.integer n.toNat) = .ok n := by
  have bound : n.toNat < UInt32.size := n.toNat_lt_size
  change (below UInt32.size "u32" (.integer (.ofNat n.toNat))).map UInt32.ofFin = _
  rw [below, dif_pos bound]
  rfl

end Decoder

theorem lookup_memberIf {α : Type} (key : String) (encode : α → Json) (value? : Option α) (name : String) :
    (Json.memberIf key encode value?).lookup name = if name = key then value?.map encode else none := by
  cases value? with
  | none => exact (ite_self none).symm
  | some value => rw [Json.memberIf, lookup_cons_eq_ite]; rfl

theorem reverse_memberIf {α : Type} (key : String) (encode : α → Json) (value? : Option α) :
    (Json.memberIf key encode value?).reverse = Json.memberIf key encode value? := by
  cases value? <;> rfl

namespace Definition

/-- The fields of a definition are read from the members that `find` gives. -/
structure ReadFrom (find : String → Option Json) (d : Definition) : Prop where
  id : (Record.optional "id" Decoder.text).assemble find = .ok d.id?
  name : (Record.required "name" Decoder.text).assemble find = .ok d.name
  description : (Record.defaulted "description" Decoder.text "").assemble find = .ok d.description
  command : (Record.required "command" Decoder.text).assemble find = .ok d.command
  parameters : (Record.defaulted "parameters" (.items Parameter.decoder) []).assemble find = .ok d.parameters
  options : (Record.defaulted "options" (.items CommandOption.decoder) []).assemble find = .ok d.options
  category : (Record.optional "category" Decoder.text).assemble find = .ok d.category?
  tags : (Record.defaulted "tags" (.items Decoder.text) []).assemble find = .ok d.tags
  commonCommands :
    (Record.defaulted "commonCommands" (.items Decoder.text) []).assemble find = .ok d.commonCommands
  isUserCreated : (Record.optional "isUserCreated" Decoder.boolean).assemble find = .ok d.isUserCreated?
  createdAt : (Record.optional "createdAt" Decoder.text).assemble find = .ok d.createdAt?
  updatedAt : (Record.optional "updatedAt" Decoder.text).assemble find = .ok d.updatedAt?
  version : (Record.defaulted "version" Decoder.word 0).assemble find = .ok d.version
  usageCount : (Record.defaulted "usageCount" (Decoder.natural "u64") 0).assemble find = .ok d.usageCount
  lastUsed : (Record.optional "lastUsed" Decoder.text).assemble find = .ok d.lastUsed?

theorem assemble_eq_ok_iff {find : String → Option Json} {d : Definition} :
    record.assemble find = .ok d ↔ ReadFrom find d := by
  simp only [record, Record.assemble_seq_eq_ok_iff, Record.assemble_map_eq_ok_iff]
  constructor
  · rintro ⟨_, ⟨_, ⟨_, ⟨_, ⟨_, ⟨_, ⟨_, ⟨_, ⟨_, ⟨_, ⟨_, ⟨_, ⟨_, ⟨_, ⟨_, id, rfl⟩, _, name, rfl⟩, _, description, rfl⟩, _,
      command, rfl⟩, _, parameters, rfl⟩, _, options, rfl⟩, _, category, rfl⟩, _, tags, rfl⟩, _, commonCommands, rfl⟩,
      _, isUserCreated, rfl⟩, _, createdAt, rfl⟩, _, updatedAt, rfl⟩, _, version, rfl⟩, _, usageCount, rfl⟩, _,
      lastUsed, rfl⟩
    exact { id, name, description, command, parameters, options, category, tags, commonCommands, isUserCreated,
            createdAt, updatedAt, version, usageCount, lastUsed }
  · intro read
    exact ⟨_, ⟨_, ⟨_, ⟨_, ⟨_, ⟨_, ⟨_, ⟨_, ⟨_, ⟨_, ⟨_, ⟨_, ⟨_, ⟨_, ⟨_, read.id, rfl⟩, _, read.name, rfl⟩, _,
      read.description, rfl⟩, _, read.command, rfl⟩, _, read.parameters, rfl⟩, _, read.options, rfl⟩, _,
      read.category, rfl⟩, _, read.tags, rfl⟩, _, read.commonCommands, rfl⟩, _, read.isUserCreated, rfl⟩, _,
      read.createdAt, rfl⟩, _, read.updatedAt, rfl⟩, _, read.version, rfl⟩, _, read.usageCount, rfl⟩, _,
      read.lastUsed, rfl⟩

theorem spellings_of_mem {f : Field} (member : f ∈ record.fields) : f.spellings = [f.name] := by
  have all : record.fields.all (fun f => f.spellings == [f.name]) = true := by decide
  exact beq_iff_eq.1 (List.all_eq_true.1 all f member)

theorem lookup_fields_command (d : Definition) : d.fields.toList.lookup "command" = some (.text d.command) := by
  rw [fields, SortedList.lookup_ofList, members]
  simp [List.lookup_append, reverse_memberIf, lookup_memberIf, lookup_cons_eq_ite]

theorem lookup_fields_version (d : Definition) :
    d.fields.toList.lookup "version" = some (.integer d.version.toNat) := by
  rw [fields, SortedList.lookup_ofList, members]
  simp [List.lookup_append, reverse_memberIf, lookup_memberIf, lookup_cons_eq_ite]

end Definition

namespace Session

theorem lookup_mergedFields (current : Definition) (updates : List (String × Json)) (key : String) :
    (mergedFields current updates).toList.lookup key =
      (if Definition.updatableFields.contains key then updates.reverse.lookup key else none).or
        (current.fields.toList.lookup key) := by
  have kept := lookup_filter_key (Definition.updatableFields.contains ·) updates.reverse key
  rw [mergedFields, SortedList.lookup_foldl_insert, ← List.filter_reverse]
  exact congrArg (Option.or · _) kept

theorem lookup_merged_field (current : Definition) (updates : List (String × Json)) (name : String)
    (known : name ∈ Definition.record.fields.map (·.name)) :
    Record.lookup Definition.record.fields (mergedFields current updates).toList name =
      (if Definition.updatableFields.contains name then updates.reverse.lookup name else none).or
        (current.fields.toList.lookup name) := by
  rw [Record.lookup_eq (fun f => Definition.spellings_of_mem) known, lookup_mergedFields]

variable {current merged : Definition} {updates : List (String × Json)}

/-- The template after an update is the one that the update gives, or that of the version it starts from. -/
theorem command_of_merged (read : Definition.record.ofMembers false (mergedFields current updates).toList = .ok merged) :
    (updates.reverse.lookup "command").getD (.text current.command) = .text merged.command := by
  have text := (Definition.assemble_eq_ok_iff.1 (Record.assemble_of_ofMembers read)).command
  have found := lookup_merged_field current updates "command" (by decide)
  rw [if_pos (by decide), Definition.lookup_fields_command] at found
  simp only [Record.required, Record.field, found] at text
  cases given : updates.reverse.lookup "command" with
  | none => simpa [given, Decoder.text] using text
  | some json => simpa [given, Decoder.text_eq_ok_iff] using text

theorem version_of_merged (read : Definition.record.ofMembers false (mergedFields current updates).toList = .ok merged) :
    merged.version = current.version := by
  have word := (Definition.assemble_eq_ok_iff.1 (Record.assemble_of_ofMembers read)).version
  have found := lookup_merged_field current updates "version" (by decide)
  rw [if_neg (by decide), Definition.lookup_fields_version] at found
  simp only [Record.defaulted, Record.field, found, Option.none_or, Decoder.word_toNat] at word
  exact (Except.ok.inj word).symm

end Session

end ShellTemplate
