import ShellTemplate.Proofs.RecordFields
import ShellTemplate.Proofs.SessionRuns

namespace ShellTemplate

namespace Session

/-- Whether a call makes or changes the command of an id, or forgets its versions. -/
def touches (s : Session) (id : String) : Call → Bool
  | .create context stamp d => (s.accepted? (.create context stamp d)).any fun v => v.id? == some id
  | .update context stamp other updates => other == id && (s.accepted? (.update context stamp other updates)).isSome
  | .clear id? kind => kind.coversVersions && id?.all (· == id)
  | _ => false

/-- Whether no call of a run touches the command of an id. -/
def leaves (id : String) : Session → List Call → Bool
  | _, [] => true
  | s, call :: rest => !s.touches id call && leaves id (s.perform call) rest

theorem latestCommand?_perform {s : Session} {id : String} {call : Call} (apart : s.touches id call = false) :
    (s.perform call).history.latestCommand? id = s.history.latestCommand? id := by
  cases call with
  | create context stamp d =>
    cases accepted : (s.create context stamp d).1.command? with
    | none => rw [perform, create_of_refused accepted]
    | some v =>
      obtain ⟨_, made, after⟩ := create_of_accepted accepted
      obtain ⟨own, named⟩ := Option.isSome_iff_exists.1 (show v.id?.isSome = true by rw [made]; rfl)
      have other : id ≠ own := by
        rintro rfl
        simp [touches, accepted?, accepted, named] at apart
      rw [perform, after, named]
      dsimp only
      split
      · rw [Option.getD_some, History.latestCommand?_recordVersion, if_neg other]
      · rfl
  | update context stamp own updates =>
    cases accepted : (s.update context stamp own updates).1.command? with
    | none => rw [perform, update_of_refused accepted]
    | some v =>
      obtain ⟨current, _, _, _, _, _, after⟩ := update_of_accepted accepted
      have other : id ≠ own := by
        rintro rfl
        simp [touches, accepted?, accepted] at apart
      rw [perform, after, historyAfter]
      dsimp only
      split
      · rw [History.latestCommand?_recordVersion, if_neg other, History.latestCommand?_recordVersion, if_neg other]
      · rw [History.latestCommand?_recordVersion, if_neg other]
  | build stamp d selection =>
    unfold History.latestCommand?
    rw [perform, versions_build]
  | classify p context => rfl
  | clear id? kind =>
    refine History.latestCommand?_clear_of_other fun covers => ⟨?_, ?_⟩ <;> rintro rfl <;> simp [touches, covers] at apart
  | read => rfl

theorem latestCommand?_run {s : Session} {id : String} {calls : List Call} (left : leaves id s calls = true) :
    (s.run calls).history.latestCommand? id = s.history.latestCommand? id := by
  induction calls generalizing s with
  | nil => rfl
  | cons call rest ih =>
    simp only [leaves, Bool.and_eq_true, Bool.not_eq_true'] at left
    exact (ih left.2).trans (latestCommand?_perform left.1)

theorem latestCommand?_update {s : Session} {context : SessionContext} {stamp : Stamp} {id : String}
    {updates : List (String × Json)} {u : Definition} (saves : s.settings.autoSave = true)
    (accepted : (s.update context stamp id updates).1.command? = some u) :
    (s.update context stamp id updates).2.2.history.latestCommand? id = some u := by
  obtain ⟨current, _, _, _, _, _, after⟩ := update_of_accepted accepted
  rw [after, historyAfter, saves, if_pos rfl, History.latestCommand?_recordVersion, if_pos rfl]

/-- Without a given command, an update does what it does if it is given the newest version. -/
theorem update_of_latestCommand? {s : Session} {context : SessionContext} {id : String} {u : Definition}
    (unstored : context.current? = none) (latest : s.history.latestCommand? id = some u) (stamp : Stamp)
    (updates : List (String × Json)) :
    s.update context stamp id updates = s.update { context with current? := some u } stamp id updates := by
  have base : s.updateBase context id = s.updateBase { context with current? := some u } id := by
    simp only [updateBase, unstored, latest, Option.none_or, Option.some_or]
  unfold update
  rw [base]
  rfl

/-- An accepted update of a given command has its fields, the updatable ones replaced, and its next version. -/
theorem accepted_of_current {s : Session} {context : SessionContext} {stamp : Stamp} {id : String}
    {updates : List (String × Json)} {u v : Definition} (given : context.current? = some u)
    (accepted : (s.update context stamp id updates).1.command? = some v) :
    ∃ merged, Definition.record.ofMembers false (mergedFields u updates).toList = .ok merged ∧
      v = merged.normalized.stamped stamp ∧ v.version = u.version + 1 := by
  obtain ⟨current, revised, report, base, revises, rfl, _⟩ := update_of_accepted accepted
  have same : u = current := by
    have start := updateBase_eq_ok base
    rw [given, Option.some_or] at start
    exact Option.some.inj start
  obtain ⟨merged, read, rfl⟩ := merged_of_revised revises
  subst same
  refine ⟨merged, read, rfl, ?_⟩
  rw [← version_of_merged read]
  rfl

/-- No update is lost while versions are saved. After an accepted update, and whatever calls follow as long as
they leave the command alone, the next update that is given no command starts from what was accepted. -/
theorem update_continues_accepted {s : Session} {context : SessionContext} {stamp : Stamp} {id : String}
    {updates : List (String × Json)} {u : Definition} (saves : s.settings.autoSave = true)
    (accepted : s.accepted? (.update context stamp id updates) = some u) {calls : List Call}
    (left : leaves id (s.perform (.update context stamp id updates)) calls = true) {next : SessionContext}
    (unstored : next.current? = none) (nextStamp : Stamp) (nextUpdates : List (String × Json)) :
    let later := (s.perform (.update context stamp id updates)).run calls
    later.update next nextStamp id nextUpdates =
        later.update { next with current? := some u } nextStamp id nextUpdates ∧
      ∀ v, later.accepted? (.update next nextStamp id nextUpdates) = some v →
        ∃ merged, Definition.record.ofMembers false (mergedFields u nextUpdates).toList = .ok merged ∧
          v = merged.normalized.stamped nextStamp ∧ v.version = u.version + 1 := by
  intro later
  have latest : later.history.latestCommand? id = some u :=
    (latestCommand?_run left).trans (latestCommand?_update saves accepted)
  have same := update_of_latestCommand? unstored latest nextStamp nextUpdates
  refine ⟨same, fun v again => ?_⟩
  rw [accepted?, same] at again
  exact accepted_of_current rfl again

/-- A command of version 3 is updated, another one is made and forgotten, and the next update makes version 5. -/
theorem update_continues_accepted_of_listing :
    let stored : Definition :=
      { id? := some "x", name := "list", description := "Lists files", command := "ls", category? := some "files",
        version := 3 }
    let other : Definition :=
      { id? := some "y", name := "print", description := "Prints a text", command := "echo", category? := some "texts" }
    let stamp : Stamp := ⟨"today", "fresh"⟩
    let first : Call := .update { current? := some stored } stamp "x" [("command", .text "ls -l")]
    let calls : List Call := [.create {} stamp other, .clear (some "y") .all, .read]
    let later := ((ofSettings {}).perform first).run calls
    leaves "x" ((ofSettings {}).perform first) calls = true ∧
      ∃ v, later.accepted? (.update {} stamp "x" [("name", .text "list all")]) = some v ∧ v.command = "ls -l" ∧
        v.version = 5 := by
  intro stored other stamp first calls later
  let u : Definition := { stored.stamped stamp with command := "ls -l" }
  let v : Definition := { u.stamped stamp with name := "list all" }
  have accepted : (ofSettings {}).accepted? first = some u := by decide +kernel
  have left : leaves "x" ((ofSettings {}).perform first) calls = true := by decide +kernel
  have again : later.accepted? (.update {} stamp "x" [("name", .text "list all")]) = some v := by decide +kernel
  have continues := update_continues_accepted rfl accepted left
    (show ({} : SessionContext).current? = none from rfl) stamp [("name", .text "list all")]
  obtain ⟨_, _, _, version⟩ := continues.2 v again
  exact ⟨left, v, again, rfl, version⟩

/-- Where versions are not saved, the next update starts from the version before the last one, whose changes are
lost and whose number comes again. -/
theorem update_forgets_unsaved :
    let stored : Definition :=
      { id? := some "x", name := "list", description := "Lists files", command := "ls", category? := some "files",
        version := 3 }
    let stamp : Stamp := ⟨"today", "fresh"⟩
    let first := (ofSettings { autoSave := false }).update { current? := some stored } stamp "x"
      [("command", .text "ls -l")]
    let second := first.2.2.update {} stamp "x" [("name", .text "list all")]
    ∃ u v, first.1.command? = some u ∧ second.1.command? = some v ∧ u.command = "ls -l" ∧ v.command = "ls" ∧
      v.version ≠ u.version + 1 := by
  intro stored stamp first second
  exact ⟨{ stored.stamped stamp with command := "ls -l" }, { stored.stamped stamp with name := "list all" },
    by decide +kernel, by decide +kernel, rfl, rfl, by decide⟩

end Session

end ShellTemplate
