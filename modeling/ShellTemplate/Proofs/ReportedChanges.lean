import ShellTemplate.Proofs.SelectionReading
import ShellTemplate.Proofs.UpdatedFields

namespace ShellTemplate

namespace FieldChange

/-- The fields after a change. A field that changes to null is there no more. -/
def apply (fields : SortedList.Table Json) (c : FieldChange) : SortedList.Table Json :=
  if c.after = .null then ⟨fields.toList.filter fun entry => entry.1 != c.field, fields.ordered.filter _⟩
  else fields.insert (c.field, c.after)

theorem lookup_apply (fields : SortedList.Table Json) (c : FieldChange) (key : String) :
    (apply fields c).toList.lookup key =
      if key = c.field then if c.after = .null then none else some c.after else fields.toList.lookup key := by
  unfold apply
  split
  · have kept := lookup_filter_key (· != c.field) fields.toList key
    refine kept.trans ?_
    by_cases same : key = c.field <;> simp [same]
  · exact SortedList.lookup_insert fields (c.field, c.after) key

/-- Changes to the values of a table make that table, if all other fields have its values already. -/
theorem foldl_apply_eq {fields target : SortedList.Table Json} {cs : List FieldChange}
    (reach : ∀ c ∈ cs, target.toList.lookup c.field = if c.after = .null then none else some c.after)
    (others : ∀ key, key ∉ cs.map (·.field) → fields.toList.lookup key = target.toList.lookup key) :
    cs.foldl apply fields = target := by
  induction cs generalizing fields with
  | nil => exact SortedList.eq_of_lookup fun key => others key List.not_mem_nil
  | cons c cs ih =>
    obtain ⟨first, later⟩ := List.forall_mem_cons.1 reach
    refine ih later fun key unchanged => ?_
    rw [lookup_apply]
    by_cases same : key = c.field
    · rw [if_pos same, same, first]
    · rw [if_neg same]
      refine others key fun member => ?_
      rw [List.map_cons, List.mem_cons] at member
      exact unchanged (member.resolve_left same)

end FieldChange

namespace Definition

/-- The value of a field; one that is absent counts as null. -/
def fieldValue (d : Definition) (field : String) : Json :=
  (d.fields.toList.lookup field).getD .null

theorem memberIf_ne_null {α : Type} {encode : α → Json} (never : ∀ a, encode a ≠ .null) (key : String) (value? : Option α) :
    ∀ entry ∈ Json.memberIf key encode value?, entry.2 ≠ .null := by
  cases value? with
  | none => exact List.forall_mem_nil _
  | some a => exact List.forall_mem_singleton.2 (never a)

/-- No field that is there is null. -/
theorem ne_null_of_lookup_fields {d : Definition} {field : String} {value : Json}
    (found : d.fields.toList.lookup field = some value) : value ≠ .null := by
  have each : ∀ entry ∈ d.members, entry.2 ≠ .null := by
    have texts := memberIf_ne_null Json.text_ne_null
    have truths := memberIf_ne_null Json.boolean_ne_null
    simp only [members, textsToJson, List.forall_mem_append, List.forall_mem_cons, List.not_mem_nil, IsEmpty.forall_iff,
      implies_true, ne_eq, reduceCtorEq, not_false_eq_true, and_self, and_true]
    exact ⟨⟨⟨⟨⟨texts "id" _, texts "category" _⟩, truths "isUserCreated" _⟩, texts "createdAt" _⟩, texts "updatedAt" _⟩,
      texts "lastUsed" _⟩
  rw [lookup_fields] at found
  exact each _ (mem_of_lookup found)

theorem lookup_fields_eq (d : Definition) (field : String) :
    d.fields.toList.lookup field = if d.fieldValue field = .null then none else some (d.fieldValue field) := by
  unfold fieldValue
  cases found : d.fields.toList.lookup field with
  | none => rfl
  | some value => rw [Option.getD_some, if_neg (ne_null_of_lookup_fields found)]

theorem SameIdentity.normalized {d e : Definition} (same : d.SameIdentity e) : d.normalized.SameIdentity e :=
  ⟨same.id, same.isUserCreated, same.createdAt, same.updatedAt, same.version, same.usageCount, same.lastUsed⟩

/-- Outside the updatable fields, a definition is told by what no user sets. -/
theorem SameIdentity.lookup_fields {d e : Definition} (same : d.SameIdentity e) {field : String}
    (fixed : field ∉ updatableFields) : d.fields.toList.lookup field = e.fields.toList.lookup field := by
  simp only [updatableFields, List.mem_cons, List.not_mem_nil, or_false, not_or] at fixed
  simp only [Definition.lookup_fields, members, List.lookup_append, lookup_memberIf, lookup_cons_eq_ite, List.lookup_nil, fixed,
    if_false, same.id, same.isUserCreated, same.createdAt, same.updatedAt, same.version, same.usageCount, same.lastUsed,
    Option.or_none]

end Definition

namespace Session

open Definition

/-- The change of a field that there is afterwards. -/
def alteration? (current : Definition) (entry : String × Json) : Option FieldChange :=
  if current.fieldValue entry.1 = entry.2 then none else some ⟨entry.1, current.fieldValue entry.1, entry.2⟩

/-- The change of a field that there was before, if it is gone. -/
def removal? (updated : Definition) (entry : String × Json) : Option FieldChange :=
  if (updated.fields.toList.lookup entry.1).isSome then none else some ⟨entry.1, entry.2, .null⟩

variable {current updated : Definition} {entry : String × Json} {c : FieldChange}

theorem changes_eq (current updated : Definition) :
    changes current updated =
      updated.fields.toList.filterMap (alteration? current) ++ current.fields.toList.filterMap (removal? updated) := rfl

theorem alteration?_eq_some_iff :
    alteration? current entry = some c ↔ current.fieldValue entry.1 ≠ entry.2 ∧ ⟨entry.1, current.fieldValue entry.1, entry.2⟩ = c := by
  unfold alteration?
  by_cases same : current.fieldValue entry.1 = entry.2 <;> simp [same]

theorem removal?_eq_some_iff :
    removal? updated entry = some c ↔ updated.fields.toList.lookup entry.1 = none ∧ ⟨entry.1, entry.2, .null⟩ = c := by
  unfold removal?
  cases updated.fields.toList.lookup entry.1 <;> simp

/-- The field is there afterwards with another value. -/
theorem mem_alterations_iff :
    c ∈ updated.fields.toList.filterMap (alteration? current) ↔
      updated.fields.toList.lookup c.field = some c.after ∧ c.before = current.fieldValue c.field ∧ c.before ≠ c.after := by
  simp only [List.mem_filterMap, alteration?_eq_some_iff]
  constructor
  · rintro ⟨entry, member, differ, rfl⟩
    exact ⟨lookup_of_mem updated.fields.nodup_keys member, rfl, differ⟩
  · rintro ⟨found, before, differ⟩
    rw [before] at differ
    refine ⟨(c.field, c.after), mem_of_lookup found, differ, ?_⟩
    rw [← before]

/-- The field is gone. -/
theorem mem_removals_iff :
    c ∈ current.fields.toList.filterMap (removal? updated) ↔
      updated.fields.toList.lookup c.field = none ∧ current.fields.toList.lookup c.field = some c.before ∧ c.after = .null := by
  simp only [List.mem_filterMap, removal?_eq_some_iff]
  constructor
  · rintro ⟨entry, member, absent, rfl⟩
    exact ⟨absent, lookup_of_mem current.fields.nodup_keys member, rfl⟩
  · rintro ⟨absent, found, after⟩
    refine ⟨(c.field, c.before), mem_of_lookup found, absent, ?_⟩
    rw [← after]

/-- A change is reported exactly if its two values differ and are those of the field before and afterwards. -/
theorem mem_changes_iff :
    c ∈ changes current updated ↔
      c.before = current.fieldValue c.field ∧ c.after = updated.fieldValue c.field ∧ c.before ≠ c.after := by
  rw [changes_eq, List.mem_append, mem_alterations_iff, mem_removals_iff, lookup_fields_eq updated, lookup_fields_eq current]
  by_cases absent : updated.fieldValue c.field = .null
  · rw [if_pos absent, absent]
    constructor
    · rintro (⟨found, _⟩ | ⟨_, stood, gone⟩)
      · exact nomatch found
      · split at stood
        · exact nomatch stood
        · rename_i filled
          exact ⟨(Option.some.inj stood).symm, gone, by rwa [gone, ← Option.some.inj stood]⟩
    · rintro ⟨before, gone, differ⟩
      rw [gone, before] at differ
      exact Or.inr ⟨rfl, by rw [if_neg differ, before], gone⟩
  · rw [if_neg absent]
    constructor
    · rintro (⟨found, before, differ⟩ | ⟨gone, _⟩)
      · exact ⟨before, (Option.some.inj found).symm, differ⟩
      · exact nomatch gone
    · rintro ⟨before, after, differ⟩
      exact Or.inl ⟨by rw [after], before, differ⟩

/-- No field is reported twice. -/
theorem nodup_fields_changes (current updated : Definition) : ((changes current updated).map (·.field)).Nodup := by
  have before := List.pairwise_map.1 current.fields.nodup_keys
  have after := List.pairwise_map.1 updated.fields.nodup_keys
  rw [changes_eq]
  refine List.pairwise_map.2 (List.pairwise_append.2 ⟨?_, ?_, fun c altered e removed same => ?_⟩)
  · refine List.pairwise_filterMap.2 (after.imp fun differ c made e made' => ?_)
    obtain ⟨_, rfl⟩ := alteration?_eq_some_iff.1 made
    obtain ⟨_, rfl⟩ := alteration?_eq_some_iff.1 made'
    exact differ
  · refine List.pairwise_filterMap.2 (before.imp fun differ c made e made' => ?_)
    obtain ⟨_, rfl⟩ := removal?_eq_some_iff.1 made
    obtain ⟨_, rfl⟩ := removal?_eq_some_iff.1 made'
    exact differ
  · have there := (mem_alterations_iff.1 altered).1
    rw [same, (mem_removals_iff.1 removed).1] at there
    contradiction

/-- Applied to the fields before, the changes make those afterwards. -/
theorem apply_changes (current updated : Definition) :
    (changes current updated).foldl FieldChange.apply current.fields = updated.fields := by
  refine FieldChange.foldl_apply_eq (fun c member => ?_) fun key unchanged => ?_
  · rw [(mem_changes_iff.1 member).2.1]
    exact lookup_fields_eq updated c.field
  · have same : current.fieldValue key = updated.fieldValue key := by
      by_contra differ
      exact unchanged (List.mem_map.2 ⟨⟨key, _, _⟩, mem_changes_iff.2 ⟨rfl, rfl, differ⟩, rfl⟩)
    rw [lookup_fields_eq, lookup_fields_eq, same]

/-- The changes that an accepted update reports are exactly the difference between the command that it starts from and the
definition that it makes. There is one for each field whose value differs, all of these can be updated, and applied to the
fields before they make those afterwards. -/
theorem changes_exact {s : Session} {context : SessionContext} {stamp : Stamp} {id : String} {updates : List (String × Json)}
    (succeeded : (s.update context stamp id updates).1.success = true) :
    ∃ original read, s.updateBase context id = .ok original ∧
      Definition.record.ofMembers false (mergedFields original updates).toList = .ok read ∧
      let merged := read.normalized
      let changes := (s.update context stamp id updates).1.changes
      (s.update context stamp id updates).1.command? = some (merged.stamped stamp) ∧
        (changes.map (·.field)).Nodup ∧
        (∀ field before after, ⟨field, before, after⟩ ∈ changes ↔
          before = original.fieldValue field ∧ after = merged.fieldValue field ∧ before ≠ after) ∧
        (∀ c ∈ changes, c.field ∈ updatableFields) ∧
        changes.foldl FieldChange.apply original.fields = merged.fields := by
  obtain ⟨original, _, _, base, revised⟩ := success_update_iff.1 succeeded
  obtain ⟨read, decoded, rfl⟩ := merged_of_revised revised
  refine ⟨original, read, base, decoded, ?_⟩
  rw [update_of_revised base revised]
  refine ⟨rfl, nodup_fields_changes _ _, fun _ _ _ => mem_changes_iff, fun c reported => ?_, apply_changes _ _⟩
  obtain ⟨before, after, differ⟩ := mem_changes_iff.1 reported
  by_contra fixed
  rw [before, after, fieldValue, fieldValue, (sameIdentity_of_merged decoded).normalized.lookup_fields fixed] at differ
  exact differ rfl

/-- A listing gets another template and loses its category. The tags are given as they are. -/
theorem changes_exact_of_listing :
    let stored : Definition :=
      { id? := some "x", name := "list", description := "Lists files", command := "ls", category? := some "files",
        tags := ["disk"], version := 3 }
    let updates := [("category", Json.null), ("command", .text " ls -l "), ("tags", .array [.text "Disk"])]
    let outcome := ((ofSettings { validation := false }).update { current? := some stored } ⟨"today", "fresh"⟩ "x" updates).1
    outcome.success = true ∧
      outcome.changes = [⟨"command", .text "ls", .text "ls -l"⟩, ⟨"category", .text "files", .null⟩] ∧
      ∃ merged, outcome.command? = some (Definition.stamped merged ⟨"today", "fresh"⟩) ∧ merged.category? = none ∧
        outcome.changes.foldl FieldChange.apply stored.fields = merged.fields := by
  intro stored updates outcome
  have succeeded : outcome.success = true := by decide +kernel
  obtain ⟨original, read, base, _, made, _, _, _, applied⟩ := changes_exact succeeded
  obtain rfl : stored = original := Except.ok.inj base
  have gone : outcome.command?.map (·.category?) = some none := by decide +kernel
  rw [show outcome.command? = _ from made] at gone
  exact ⟨succeeded, by decide +kernel, read.normalized, made, Option.some.inj gone, applied⟩

end Session

end ShellTemplate
