import ShellTemplate.Proofs.SessionJournal

namespace ShellTemplate

namespace Timeline

variable {α : Type} {t : Timeline α} {capacity : Nat} {log : String → List α}

/-- The entries that are added are appended; of all of them the last ones stay. -/
theorem Keeps.entries_push (keeps : Keeps t capacity log) (id : String) (entry : α) :
    entries (Timeline.push t capacity id entry) id = (entries t id ++ [entry]).rtake (max capacity 1) := by
  have pushed : Keeps (Timeline.push t capacity id entry) capacity
      fun own => if own = id then log id ++ [entry] else log own :=
    keeps.push (if_pos rfl) fun other differ => if_neg differ
  rw [pushed.entries_eq, if_pos rfl, keeps.entries_eq, rtake_append_rtake]

theorem lookup_push_of_ne (t : Timeline α) (capacity : Nat) {id other : String} (differ : other ≠ id) (entry : α) :
    (Timeline.push t capacity id entry).toList.lookup other = t.toList.lookup other := by
  rw [push, SortedList.lookup_insert, if_neg differ]

end Timeline

namespace Session

/-- From one session to the next, records are appended to the versions of a command, the oldest ones leave where
there is no room for all of them, and nothing else changes. -/
structure Grows (before after : Session) (id : String) (added : List VersionRecord) : Prop where
  versions : Timeline.entries after.history.versions id =
    (Timeline.entries before.history.versions id ++ added).rtake (max 1 before.settings.historyVersions)
  others : ∀ other, other ≠ id → after.history.versions.toList.lookup other = before.history.versions.toList.lookup other
  builds : after.history.builds = before.history.builds
  capacity : after.history.capacity = before.history.capacity
  classifier : after.classifier = before.classifier
  settings : after.settings = before.settings

variable {s : Session} {journal : Journal}

theorem grows_recordVersion (follows : s.history.Follows s.settings.historyVersions journal) (id : String)
    (record : VersionRecord) : Grows s { s with history := s.history.recordVersion id record } id [record] where
  versions := by
    rw [Nat.max_comm, ← follows.versions.entries_push id record, ← follows.room]
    rfl
  others other differ := Timeline.lookup_push_of_ne s.history.versions s.history.capacity differ record
  builds := rfl
  capacity := rfl
  classifier := rfl
  settings := rfl

theorem Grows.trans {first second third : Session} {id : String} {added later : List VersionRecord}
    (one : Grows first second id added) (two : Grows second third id later) : Grows first third id (added ++ later) where
  versions := by
    rw [two.versions, one.versions, one.settings, rtake_append_rtake, List.append_assoc]
  others other differ := (two.others other differ).trans (one.others other differ)
  builds := two.builds.trans one.builds
  capacity := two.capacity.trans one.capacity
  classifier := two.classifier.trans one.classifier
  settings := two.settings.trans one.settings

theorem grows_historyAfter (follows : s.history.Follows s.settings.historyVersions journal) (stamp : Stamp) (id : String)
    (current updated : Definition) :
    Grows s { s with history := s.historyAfter stamp id current updated } id
      (⟨current, .beforeUpdate, stamp.moment⟩ ::
        if s.settings.autoSave then [⟨updated, .updated, stamp.moment⟩] else []) := by
  have older := grows_recordVersion follows id ⟨current, .beforeUpdate, stamp.moment⟩
  rw [historyAfter]
  cases s.settings.autoSave with
  | false => exact older
  | true =>
    have between := follows.recordVersion id ⟨current, .beforeUpdate, stamp.moment⟩
    exact older.trans (grows_recordVersion between id ⟨updated, .updated, stamp.moment⟩)

/-- Whatever was asked of a session before, a creation or an update that fails leaves no trace. One that succeeds
sends one event and appends its records to the versions of the command: a creation the new command if versions are
saved, an update the version it starts from and, if versions are saved, the one it ends with. -/
theorem call_leaves_trace_iff_accepted (settings : Settings) (calls : List Call) (context : SessionContext)
    (stamp : Stamp) :
    let s := (ofSettings settings).run calls
    (∀ d,
      let outcome := (s.create context stamp d).1
      let event? := (s.create context stamp d).2.1
      let after := (s.create context stamp d).2.2
      if outcome.success then
        ∃ command id, outcome.command? = some command ∧ command.id? = some id ∧ event? = some (.created command) ∧
          if settings.autoSave then Grows s after id [⟨command, .created, stamp.moment⟩] else after = s
      else event? = none ∧ after = s) ∧
    ∀ id updates,
      let outcome := (s.update context stamp id updates).1
      let event? := (s.update context stamp id updates).2.1
      let after := (s.update context stamp id updates).2.2
      if outcome.success then
        ∃ original updated, s.updateBase context id = .ok original ∧ outcome.command? = some updated ∧
          event? = some (.updated original updated outcome.changes) ∧
          Grows s after id (⟨original, .beforeUpdate, stamp.moment⟩ ::
            if settings.autoSave then [⟨updated, .updated, stamp.moment⟩] else [])
      else event? = none ∧ after = s := by
  intro s
  have same : s.settings = settings := settings_run (ofSettings settings) calls
  have follows : s.history.Follows s.settings.historyVersions ([] ++ (ofSettings settings).journal calls) := by
    rw [same]
    exact follows_run (s := ofSettings settings) (History.follows_empty settings.historyVersions) calls
  refine ⟨fun d => ?_, fun id updates => ?_⟩
  · intro outcome event? after
    rcases create_cases s context stamp d with ⟨command, id, named, success, made, told, later⟩ | ⟨failed, told, later⟩
    · rw [if_pos success]
      refine ⟨command, id, made, named, told, ?_⟩
      rw [← same]
      cases saves : s.settings.autoSave with
      | true =>
        rw [saves, if_pos rfl] at later
        rw [if_pos rfl, show after = _ from later]
        exact grows_recordVersion follows id _
      | false =>
        rw [saves] at later
        exact later
    · rw [if_neg (failed ▸ Bool.false_ne_true)]
      exact ⟨told, later⟩
  · intro outcome event? after
    rcases update_cases s context stamp id updates with ⟨original, updated, base, success, made, told, later⟩ |
      ⟨failed, told, later⟩
    · rw [if_pos success]
      refine ⟨original, updated, base, made, told, ?_⟩
      rw [← same]
      rw [show after = _ from later]
      exact grows_historyAfter follows stamp id original updated
    · rw [if_neg (failed ▸ Bool.false_ne_true)]
      exact ⟨told, later⟩

end Session

end ShellTemplate
