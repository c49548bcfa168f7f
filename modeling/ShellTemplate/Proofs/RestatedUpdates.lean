import ShellTemplate.Proofs.AcceptedTemplates
import ShellTemplate.Proofs.DefinitionReading
import ShellTemplate.Proofs.NormalDefinitions
import ShellTemplate.Proofs.RepeatedChecks

namespace ShellTemplate

namespace Session

open Definition Report

/-- Every field of an update has the value that the command has. -/
def Restated (c : Definition) (updates : List (String × Json)) : Prop :=
  ∀ entry ∈ updates, ∃ value, c.fields.toList.lookup entry.1 = some value ∧ entry.2.Restates value

variable {s : Session} {context : SessionContext} {stamp next : Stamp} {id : String} {updates : List (String × Json)}
  {c d : Definition}

/-- The value of a protected field is a text or a truth value, of which there is one JSON form. -/
theorem eq_of_protected {field : String} {json value : Json} (fixed : field ∈ protectedFields)
    (found : c.fields.toList.lookup field = some value) (restates : json.Restates value) : json = value := by
  rw [lookup_fields, members] at found
  simp only [protectedFields, List.mem_cons, List.not_mem_nil, or_false] at fixed
  rcases fixed with rfl | rfl | rfl <;>
    simp only [List.lookup_append, lookup_memberIf, lookup_cons_eq_ite, List.lookup_nil, reduceIte, String.reduceEq,
      Option.or_none, Option.none_or, Option.map_eq_some_iff] at found
  · obtain ⟨text, _, rfl⟩ := found
    exact restates.eq_text
  · obtain ⟨text, _, rfl⟩ := found
    exact restates.eq_text
  · obtain ⟨truth, _, rfl⟩ := found
    exact restates.eq_boolean

theorem protectedReport_of_restated (restated : Restated c updates) : (protectedReport c updates).isValid = true := by
  rw [isValid_iff, errors_eq_nil_iff, protectedReport]
  simp only [errorsAre_concat, List.forall_mem_map, errorsAre_guarded, Bool.and_eq_true, List.contains_iff_mem, bne_iff_ne]
  rintro ⟨field, json⟩ member ⟨fixed, differ⟩
  obtain ⟨value, found, restates⟩ := restated _ member
  rw [found, Option.getD_some, eq_of_protected fixed found restates] at differ
  exact absurd rfl differ

theorem ignoredReport_isValid (updates : List (String × Json)) : (ignoredReport updates).isValid = true := by
  rw [isValid_iff, errors_eq_nil_iff, ignoredReport]
  simp only [errorsAre_concat, List.forall_mem_map, errorsAre_guarded, errorsAre_warning, implies_true]

/-- A command is read from its own fields, whichever of them an update restates. -/
theorem ofMembers_of_restated (restated : Restated c updates) :
    Definition.record.ofMembers false (mergedFields c updates).toList = .ok c := by
  refine matches_record.ofMembers (mergedFields c updates).nodup_keys fun key => ?_
  have own : c.fields.toList.lookup key = c.members.reverse.lookup key := SortedList.lookup_ofList _ _
  rw [lookup_mergedFields, ← own]
  cases given : if updatableFields.contains key then updates.reverse.lookup key else none with
  | some json =>
    have stands : updates.reverse.lookup key = some json := by
      split at given
      · exact given
      · contradiction
    obtain ⟨value, found, restates⟩ := restated _ (List.mem_reverse.1 (mem_of_lookup stands))
    rw [found]
    exact .some restates
  | none =>
    rw [Option.none_or]
    cases found : c.fields.toList.lookup key with
    | none => exact .none
    | some value =>
      rw [lookup_fields] at found
      exact .some (.refl (c.standUnder_members.plain _ (mem_of_lookup found)))

theorem changes_self (c : Definition) : changes c c = [] := by
  have stands (entry : String × Json) (member : entry ∈ c.fields.toList) : c.fields.toList.lookup entry.1 = some entry.2 :=
    lookup_of_mem c.fields.nodup_keys member
  unfold changes
  rw [List.append_eq_nil_iff, List.filterMap_eq_nil_iff, List.filterMap_eq_nil_iff]
  constructor
  · intro entry member
    simp [stands entry member]
  · intro entry member
    simp [stands entry member]

/-- An update that restates a normalized command, which would be accepted again, changes nothing. -/
theorem update_of_restated (base : s.updateBase context id = .ok c) (normal : c.normalized = c)
    (valid : (s.updateReport c context).isValid = true) (restated : Restated c updates) :
    (s.update context next id updates).1 =
      { success := true, command? := some (c.stamped next),
        report := ignoredReport updates ++ s.updateReport c context } := by
  have revised : s.revise context c updates = .ok (c, ignoredReport updates ++ s.updateReport c context) := by
    unfold revise
    simp only [protectedReport_of_restated restated, ofMembers_of_restated restated, normal, isValid_append,
      ignoredReport_isValid, valid, Bool.not_true, Bool.false_eq_true, if_false, and_self, if_true]
  unfold update
  simp only [base, revised, changes_self]

theorem updateReport_isValid_iff :
    (s.updateReport d context).isValid = true ↔ (s.settings.validation = true →
      if s.settings.strict then (d.check context.creation).IsQuiet else (d.check context.creation).isValid = true) := by
  unfold updateReport
  dsimp only
  split
  · rw [isValid_escalate, isQuiet_guarded]
  · cases s.settings.validation <;> simp [guarded, isValid]

theorem updateReport_of_creationFindings (valid : (s.creationFindings context d).isValid = true) :
    (s.updateReport d context).isValid = true := by
  rw [creationFindings, isValid_append] at valid
  have found := valid.1
  unfold creationReport at found
  unfold updateReport
  dsimp only at found ⊢
  split at found
  · rename_i strict
    rw [isValid_escalate, isQuiet_append] at found
    rw [if_pos strict]
    exact isValid_escalate.2 found.1
  · rename_i lenient
    rw [if_neg lenient]
    exact (isValid_append.1 found).1

/-- The check of a definition whose id is empty passes over the stored commands whose id is empty too. To a strict check
it makes a difference if the definition repeats one of them. -/
def Overlooks (s : Session) (context : SessionContext) (d : Definition) : Prop :=
  s.settings.validation = true ∧ s.settings.strict = true ∧ d.id? = some "" ∧
    ∃ other ∈ context.creation.existing, other.id? = some "" ∧ d.normalized.Repeats other

/-- With its stamp a definition is still accepted, unless its id was passed over. -/
theorem updateReport_stamped (valid : (s.updateReport d.normalized context).isValid = true)
    (seen : ¬ s.Overlooks context d) :
    (s.updateReport { d.normalized.stamped stamp with isUserCreated? := some true } context).isValid = true := by
  rw [updateReport_isValid_iff] at valid ⊢
  intro validates
  specialize valid validates
  rw [Check.check_eq] at valid ⊢
  have content := Check.content_eq_of_stamps d.normalized context.creation
  rw [stamped, content]
  split at valid
  · rename_i strict
    rw [if_pos strict, isQuiet_append] at *
    refine ⟨valid.1, Check.duplicates_isQuiet_iff.2 fun other member => ?_⟩
    rcases Check.duplicates_isQuiet_iff.1 valid.2 other member with ⟨named, same⟩ | apart
    · obtain ⟨id, own⟩ := Option.isSome_iff_exists.1 named
      by_cases empty : id = ""
      · subst empty
        refine Or.inr fun again => seen ⟨validates, strict, own, other, member, same.trans own, again⟩
      · exact Or.inl ⟨rfl, (same.trans own).trans (id?_stamped own empty stamp).symm⟩
    · exact Or.inr apart
  · rename_i lenient
    rw [if_neg lenient, isValid_append] at *
    exact ⟨valid.1, Check.duplicates_isValid _ _⟩

theorem stamped_of_complete {id created : String} (named : c.id? = some id) (filled : id ≠ "")
    (dated : c.createdAt? = some created) (stamp : Stamp) :
    c.stamped stamp = { c with version := c.version + 1, updatedAt? := some stamp.moment } := by
  have kept : (c.stamped stamp).id? = c.id? := (id?_stamped named filled stamp).trans named.symm
  have old : (c.stamped stamp).createdAt? = c.createdAt? := by rw [stamped, dated, Option.getD_some]
  calc c.stamped stamp
    _ = { c with
          id? := (c.stamped stamp).id?, createdAt? := (c.stamped stamp).createdAt?, version := c.version + 1,
          updatedAt? := some stamp.moment } := rfl
    _ = { c with version := c.version + 1, updatedAt? := some stamp.moment } := by rw [kept, old]

/-- While versions are saved, what was created can be updated again under the same context. Such an update is accepted
and changes nothing if it restates fields of the command, as long as the context gives no other command to start from. -/
theorem update_of_created (saves : s.settings.autoSave = true) (fresh : stamp.freshId ≠ "")
    (created : (s.create context stamp d).1.command? = some c)
    (own : ∀ other, context.current? = some other → other = c) (seen : ¬ s.Overlooks context d)
    (restated : Restated c updates) (next : Stamp) :
    ∃ id, c.id? = some id ∧
      let outcome := ((s.create context stamp d).2.2.update context next id updates).1
      outcome.success = true ∧ outcome.changes = [] ∧
        outcome.command? = some { c with version := c.version + 1, updatedAt? := some next.moment } := by
  obtain ⟨valid, made, after⟩ := create_of_accepted created
  have normal : c.normalized = c := by
    have again := d.normalized_normalized
    rw [made]
    change { d.normalized.normalized.stamped stamp with isUserCreated? := some true } = _
    rw [again]
  obtain ⟨id, named, filled⟩ : ∃ id, c.id? = some id ∧ id ≠ "" := by
    rw [made]
    refine ⟨_, rfl, ?_⟩
    cases held : d.normalized.id?.filter fun text => !text.isEmpty with
    | none => exact fresh
    | some text => simpa using (Option.filter_eq_some_iff.1 held).2
  obtain ⟨date, dated⟩ : ∃ date, c.createdAt? = some date := ⟨_, by rw [made]; rfl⟩
  have base : (s.create context stamp d).2.2.updateBase context id = .ok c := by
    have start : context.current?.or ((s.create context stamp d).2.2.history.latestCommand? id) = some c := by
      rw [after, saves, if_pos rfl, named, Option.getD_some, History.latestCommand?_recordVersion, if_pos rfl]
      cases given : context.current? with
      | none => rfl
      | some other => rw [own other given, Option.some_or]
    have mine : c.isSystem = false := by rw [made]; rfl
    simp only [updateBase, start, mine, Bool.false_and, Bool.false_eq_true, if_false]
  have accepted : ((s.create context stamp d).2.2.updateReport c context).isValid = true := by
    rw [after, made]
    exact updateReport_stamped (updateReport_of_creationFindings valid) seen
  refine ⟨id, named, ?_⟩
  rw [update_of_restated base normal accepted restated, stamped_of_complete named filled dated]
  exact ⟨rfl, rfl, rfl⟩

/-- Under strict settings a listing is created and then updated with its own tags and its own version. -/
theorem update_of_created_listing :
    let d : Definition :=
      { name := " list ", description := "Lists files", command := "ls {{dir}}", category? := some "files",
        tags := ["Files"], parameters := [{ name := "dir", description := "Where to look" }] }
    let c : Definition :=
      { d with
        id? := some "fresh", name := "list", tags := ["files"], isUserCreated? := some true, createdAt? := some "today",
        updatedAt? := some "today", version := 1 }
    let updates := [("tags", Json.array [.text "files"]), ("version", .integer 1)]
    ((ofSettings { strict := true }).create {} ⟨"today", "fresh"⟩ d).1.command? = some c ∧
      let outcome := (((ofSettings { strict := true }).create {} ⟨"today", "fresh"⟩ d).2.2.update {} ⟨"tomorrow", "other"⟩
        "fresh" updates).1
      outcome.success = true ∧ outcome.changes = [] ∧
        outcome.command? = some { c with version := c.version + 1, updatedAt? := some "tomorrow" } := by
  intro d c updates
  have created : ((ofSettings { strict := true }).create {} ⟨"today", "fresh"⟩ d).1.command? = some c := by decide +kernel
  have restated : Restated c updates := by
    rw [Restated, List.forall_mem_cons, List.forall_mem_singleton]
    exact ⟨⟨_, by decide +kernel, .refl rfl⟩, ⟨_, by decide +kernel, .refl rfl⟩⟩
  have seen : ¬ Overlooks (ofSettings { strict := true }) {} d := fun overlooks => nomatch overlooks.2.2.1
  obtain ⟨id, named, updated⟩ := update_of_created rfl (by decide) created nofun seen restated ⟨"tomorrow", "other"⟩
  obtain rfl : "fresh" = id := Option.some.inj named
  exact ⟨created, updated⟩

/-- A context that gives another command makes that one the start of the update, and not what was created under it. -/
theorem update_of_created_under_other :
    let d : Definition :=
      { id? := some "x", name := "list", description := "Lists files", command := "ls", category? := some "files" }
    let other : Definition :=
      { id? := some "y", name := "print", description := "Prints a text", command := "echo", category? := some "texts",
        version := 7 }
    let context : SessionContext := { current? := some other }
    let first := (ofSettings {}).create context ⟨"today", "fresh"⟩ d
    let second := first.2.2.update context ⟨"tomorrow", "fresh"⟩ "x" []
    ∃ c, first.1.command? = some c ∧ c.id? = some "x" ∧
      ¬ (second.1.success = true ∧ second.1.changes = [] ∧
        second.1.command? = some { c with version := c.version + 1, updatedAt? := some "tomorrow" }) := by
  intro d other context first second
  exact ⟨{ d.stamped ⟨"today", "fresh"⟩ with isUserCreated? := some true }, by decide +kernel, rfl, by decide +kernel⟩

end Session

end ShellTemplate
