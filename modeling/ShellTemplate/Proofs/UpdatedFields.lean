import ShellTemplate.Proofs.AcceptedTemplates
import ShellTemplate.Proofs.DefinitionReading
import ShellTemplate.Proofs.SessionJournal

namespace ShellTemplate

/-- A field after an update: what a value that is given for it is read as, once normalized, or else what is kept. -/
def Settles {α : Type} (updates : List (String × Json)) (name : String) (value : Decoder α) (normal : α → α) (kept new : α) :
    Prop :=
  match updates.reverse.lookup name with
  | some json => ∃ given, value json = .ok given ∧ new = normal given
  | none => new = kept

namespace Record

variable {α : Type} {name : String} {spellings : List String} {value : Decoder α} {absent : Except DecodeError α}
  {find other : String → Option Json} {new old : α}

theorem eq_of_find_eq (read : (field name spellings value absent).assemble find = .ok new)
    (before : (field name spellings value absent).assemble other = .ok old) (same : find name = other name) : new = old := by
  have alike := (isSound_field name spellings value absent).congr find other fun f member => by
    rw [List.mem_singleton.1 member]
    exact same
  exact Except.ok.inj (read.symm.trans (alike.trans before))

theorem settles_of_find {updates : List (String × Json)} (read : (field name spellings value absent).assemble find = .ok new)
    (before : (field name spellings value absent).assemble other = .ok old)
    (found : find name = (updates.reverse.lookup name).or (other name)) (normal : α → α) :
    Settles updates name value normal (normal old) (normal new) := by
  unfold Settles
  cases given : updates.reverse.lookup name with
  | some json =>
    rw [given, Option.some_or] at found
    simp only [field, found] at read
    exact ⟨new, read, rfl⟩
  | none =>
    rw [given, Option.none_or] at found
    exact congrArg normal (eq_of_find_eq read before found)

end Record

namespace Definition

/-- The updatable fields are those that an update of a command makes. -/
structure Updated (updates : List (String × Json)) (own new : Definition) : Prop where
  name : Settles updates "name" Decoder.text (fun name => { own with name }.normalized.name) own.normalized.name new.name
  description : Settles updates "description" Decoder.text (fun description => { own with description }.normalized.description)
    own.normalized.description new.description
  command : Settles updates "command" Decoder.text (fun command => { own with command }.normalized.command)
    own.normalized.command new.command
  category : Settles updates "category" Decoder.text.nullable (fun category? => { own with category? }.normalized.category?)
    own.normalized.category? new.category?
  tags : Settles updates "tags" (.items Decoder.text) (fun tags => { own with tags }.normalized.tags)
    own.normalized.tags new.tags
  parameters : Settles updates "parameters" (.items Parameter.decoder)
    (fun parameters => { own with parameters }.normalized.parameters) own.normalized.parameters new.parameters
  options : Settles updates "options" (.items CommandOption.decoder) (fun options => { own with options }.normalized.options)
    own.normalized.options new.options
  commonCommands : Settles updates "commonCommands" (.items Decoder.text)
    (fun commonCommands => { own with commonCommands }.normalized.commonCommands) own.normalized.commonCommands
    new.commonCommands

/-- All that the user cannot set is kept, and the version counts on. -/
structure Continues (own new : Definition) : Prop where
  id : ∀ id, own.id? = some id → id ≠ "" → new.id? = some id
  createdAt : ∀ moment, own.createdAt? = some moment → new.createdAt? = some moment
  isUserCreated : new.isUserCreated? = own.isUserCreated?
  usageCount : new.usageCount = own.usageCount
  lastUsed : new.lastUsed? = own.lastUsed?
  version : new.version = own.version + 1

/-- Two definitions have the same identity, times and counts. No user sets these. -/
structure SameIdentity (d e : Definition) : Prop where
  id : d.id? = e.id?
  isUserCreated : d.isUserCreated? = e.isUserCreated?
  createdAt : d.createdAt? = e.createdAt?
  updatedAt : d.updatedAt? = e.updatedAt?
  version : d.version = e.version
  usageCount : d.usageCount = e.usageCount
  lastUsed : d.lastUsed? = e.lastUsed?

variable {current merged : Definition} {updates : List (String × Json)}

/-- What is read from merged fields has the updatable ones from the update, where it gives them. -/
theorem updated_of_merged (read : record.ofMembers false (Session.mergedFields current updates).toList = .ok merged)
    (stamp : Stamp) : Updated updates current (merged.normalized.stamped stamp) := by
  have new := assemble_eq_ok_iff.1 (Record.assemble_of_ofMembers read)
  have old := current.readFrom_fields
  have known : ∀ name ∈ updatableFields, name ∈ record.fields.map (·.name) := by decide
  have found (name : String) (updatable : name ∈ updatableFields) :
      Record.lookup record.fields (Session.mergedFields current updates).toList name =
        (updates.reverse.lookup name).or (current.fields.toList.lookup name) := by
    rw [Session.lookup_merged_field current updates name (known name updatable),
      if_pos (List.contains_iff_mem.2 updatable)]
  constructor
  case name => exact Record.settles_of_find new.name old.name (found "name" (by decide)) _
  case description =>
    exact Record.settles_of_find new.description old.description (found "description" (by decide)) _
  case command => exact Record.settles_of_find new.command old.command (found "command" (by decide)) _
  case category =>
    exact Record.settles_of_find new.category old.category (found "category" (by decide)) _
  case tags => exact Record.settles_of_find new.tags old.tags (found "tags" (by decide)) _
  case parameters =>
    exact Record.settles_of_find new.parameters old.parameters (found "parameters" (by decide)) _
  case options => exact Record.settles_of_find new.options old.options (found "options" (by decide)) _
  case commonCommands =>
    exact Record.settles_of_find new.commonCommands old.commonCommands
      (found "commonCommands" (by decide)) _

/-- What is read from merged fields has all that is not updatable from the version that an update starts from. -/
theorem sameIdentity_of_merged (read : record.ofMembers false (Session.mergedFields current updates).toList = .ok merged) :
    merged.SameIdentity current := by
  have new := assemble_eq_ok_iff.1 (Record.assemble_of_ofMembers read)
  have old := current.readFrom_fields
  have found (name : String) (known : name ∈ record.fields.map (·.name)) (fixed : updatableFields.contains name = false) :
      Record.lookup record.fields (Session.mergedFields current updates).toList name = current.fields.toList.lookup name := by
    rw [Session.lookup_merged_field current updates name known, fixed]
    rfl
  constructor
  case id => exact Record.eq_of_find_eq new.id old.id (found "id" (by decide) (by decide))
  case isUserCreated =>
    exact Record.eq_of_find_eq new.isUserCreated old.isUserCreated (found "isUserCreated" (by decide) (by decide))
  case createdAt => exact Record.eq_of_find_eq new.createdAt old.createdAt (found "createdAt" (by decide) (by decide))
  case updatedAt => exact Record.eq_of_find_eq new.updatedAt old.updatedAt (found "updatedAt" (by decide) (by decide))
  case version => exact Record.eq_of_find_eq new.version old.version (found "version" (by decide) (by decide))
  case usageCount => exact Record.eq_of_find_eq new.usageCount old.usageCount (found "usageCount" (by decide) (by decide))
  case lastUsed => exact Record.eq_of_find_eq new.lastUsed old.lastUsed (found "lastUsed" (by decide) (by decide))

theorem continues_of_merged (read : record.ofMembers false (Session.mergedFields current updates).toList = .ok merged)
    (stamp : Stamp) : Continues current (merged.normalized.stamped stamp) := by
  have same := sameIdentity_of_merged read
  constructor
  case id =>
    intro own named filled
    have kept : merged.id? = some own := same.id.trans named
    exact id?_stamped (d := merged.normalized) kept filled stamp
  case createdAt =>
    intro moment made
    have kept : merged.createdAt? = some moment := same.createdAt.trans made
    simp [stamped, normalized, kept]
  case isUserCreated => exact same.isUserCreated
  case usageCount => exact same.usageCount
  case lastUsed => exact same.lastUsed
  case version => exact congrArg (· + 1) same.version

end Definition

namespace Session

theorem isSystem_guard {s : Session} {context : SessionContext} {id : String} {current : Definition}
    (base : s.updateBase context id = .ok current) (system : current.isSystem = true) :
    s.settings.systemModification = true ∨ context.allowSystem = true := by
  have start := updateBase_eq_ok base
  unfold updateBase at base
  rw [start] at base
  dsimp only at base
  split at base
  · contradiction
  · rename_i allowed
    rw [system, Bool.true_and, Bool.not_eq_true', Bool.not_eq_false, Bool.or_eq_true] at allowed
    exact allowed

/-- An update that succeeds changes the updatable fields that it gives and normalizes the others. It keeps all the
rest but the version and the time, and a system command is updated only where that is allowed. -/
theorem update_changes_only_given {s : Session} {context : SessionContext} {stamp : Stamp} {id : String}
    {updates : List (String × Json)} (succeeded : (s.update context stamp id updates).1.success = true) :
    ∃ current u, context.current?.or (s.history.latestCommand? id) = some current ∧
      (s.update context stamp id updates).1.command? = some u ∧
      (current.isSystem = true → s.settings.systemModification = true ∨ context.allowSystem = true) ∧
      current.Continues u ∧ current.Updated updates u := by
  rcases update_cases s context stamp id updates with ⟨_, u, _, _, accepted, _⟩ | ⟨refused, _⟩
  · obtain ⟨current, merged, report, base, revises, rfl, _⟩ := update_of_accepted accepted
    obtain ⟨read, decoded, rfl⟩ := merged_of_revised revises
    exact ⟨current, _, updateBase_eq_ok base, accepted, isSystem_guard base,
      Definition.continues_of_merged decoded stamp, Definition.updated_of_merged decoded stamp⟩
  · rw [refused] at succeeded
    contradiction

/-- A system command gets a name, and its tags are normalized with it. -/
theorem update_changes_only_given_of_listing :
    let stored : Definition :=
      { id? := some "x", name := "list", description := "Lists files", command := "ls", category? := some "files",
        tags := ["Files", " files"], isUserCreated? := some false, createdAt? := some "long ago", version := 3,
        usageCount := 5 }
    let updates := [("name", Json.text " list all ")]
    let outcome := ((ofSettings { systemModification := true }).update { current? := some stored } ⟨"today", "fresh"⟩ "x"
      updates).1
    outcome.success = true ∧ ∃ u, outcome.command? = some u ∧ u.name = "list all" ∧ u.tags = ["files"] ∧
      stored.Continues u ∧ stored.Updated updates u := by
  intro stored updates outcome
  have succeeded : outcome.success = true := by decide +kernel
  obtain ⟨current, u, start, accepted, _, continues, updated⟩ := update_changes_only_given succeeded
  obtain rfl : stored = current := Option.some.inj start
  obtain ⟨name, decoded, named⟩ : ∃ name, Decoder.text (.text " list all ") = .ok name ∧ _ := updated.name
  obtain rfl : " list all " = name := Except.ok.inj decoded
  have tagged : u.tags = _ := updated.tags
  exact ⟨succeeded, u, accepted, named.trans (by decide +kernel), tagged.trans (by decide +kernel), continues, updated⟩

end Session

end ShellTemplate
