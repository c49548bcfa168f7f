import ShellTemplate.Proofs.UpdatedFields

namespace ShellTemplate

namespace History

/-- Every version is recorded under the id of its command. -/
def IsKeyed (h : History) : Prop :=
  ∀ id, ∀ record ∈ Timeline.entries h.versions id, record.command.id? = some id

variable {h : History}

theorem IsKeyed.id?_of_latest (keyed : h.IsKeyed) {id : String} {d : Definition} (latest : h.latestCommand? id = some d) :
    d.id? = some id := by
  obtain ⟨record, newest, rfl⟩ := Option.map_eq_some_iff.1 latest
  exact keyed id record (List.mem_of_getLast? newest)

theorem IsKeyed.id?_of_recorded {id : String} {record : VersionRecord} (keyed : (h.recordVersion id record).IsKeyed) :
    record.command.id? = some id := by
  refine keyed.id?_of_latest ?_
  rw [latestCommand?_recordVersion, if_pos rfl]

theorem IsKeyed.recordVersion (keyed : h.IsKeyed) (id : String) {record : VersionRecord}
    (own : record.command.id? = some id) : (h.recordVersion id record).IsKeyed :=
  forall_recordVersion keyed id own

end History

namespace Definition

/-- The id of an updated command is that of the command it was, or a made one if that has none. -/
theorem id?_updated {current merged : Definition} {updates : List (String × Json)}
    (read : record.ofMembers false (Session.mergedFields current updates).toList = .ok merged) (stamp : Stamp) :
    (merged.normalized.stamped stamp).id? = some ((current.id?.filter fun id => !id.isEmpty).getD stamp.freshId) := by
  rw [← (sameIdentity_of_merged read).id]
  rfl

/-- An id that is not made is the one that the command had. -/
theorem id?_of_kept {own? : Option String} {fresh id : String} (other : fresh ≠ id)
    (kept : (own?.filter fun id => !id.isEmpty).getD fresh = id) : own? = some id ∧ id ≠ "" := by
  cases held : own?.filter fun id => !id.isEmpty with
  | none =>
    rw [held] at kept
    exact absurd kept other
  | some own =>
    rw [held, Option.getD_some] at kept
    obtain ⟨named, filled⟩ := Option.filter_eq_some_iff.1 held
    exact kept ▸ ⟨named, by simpa using filled⟩

end Definition

namespace Session

/-- The id that is made for a command is not the one that the call asks for. -/
def Call.IsFresh : Call → Prop
  | .update _ stamp id _ => stamp.freshId ≠ id
  | _ => True

/-- An accepted update is given no command but the one whose id it asks for. Where versions are saved, that id is
not empty: a command with an empty id gets another one. -/
def AsksForOwn (s : Session) : Call → Prop
  | .update context stamp id updates =>
    (s.accepted? (.update context stamp id updates)).isSome = true →
      (∀ c, context.current? = some c → c.id? = some id) ∧ (s.settings.autoSave = true → id ≠ "")
  | _ => True

section

variable {s : Session} {context : SessionContext} {stamp : Stamp} {id : String} {updates : List (String × Json)}

/-- An update starts from a command of its id exactly if the command that it is given, if any, is one. -/
theorem id?_of_updateBase_iff (keyed : s.history.IsKeyed) {current : Definition}
    (base : s.updateBase context id = .ok current) :
    current.id? = some id ↔ ∀ c, context.current? = some c → c.id? = some id := by
  have start := updateBase_eq_ok base
  cases given : context.current? with
  | some c =>
    rw [given, Option.some_or] at start
    simp [Option.some.inj start]
  | none =>
    rw [given, Option.none_or] at start
    simp [keyed.id?_of_latest start]

theorem isKeyed_update_iff (keyed : s.history.IsKeyed) (fresh : stamp.freshId ≠ id) :
    (s.update context stamp id updates).2.2.history.IsKeyed ↔ s.AsksForOwn (.update context stamp id updates) := by
  cases accepted : (s.update context stamp id updates).1.command? with
  | none =>
    rw [update_of_refused accepted]
    exact iff_of_true keyed fun some => by simp [accepted?, accepted] at some
  | some v =>
    obtain ⟨current, merged, _, base, revises, rfl, after⟩ := update_of_accepted accepted
    obtain ⟨read, decoded, rfl⟩ := merged_of_revised revises
    have asked : (s.accepted? (.update context stamp id updates)).isSome = true := by simp [accepted?, accepted]
    have made := Definition.id?_updated decoded stamp
    have start := id?_of_updateBase_iff keyed base
    have before : current.id? = some id → (s.history.recordVersion id ⟨current, .beforeUpdate, stamp.moment⟩).IsKeyed :=
      fun own => keyed.recordVersion id own
    rw [after, historyAfter]
    dsimp only
    cases saves : s.settings.autoSave with
    | false =>
      rw [if_neg Bool.false_ne_true]
      refine ⟨fun later _ => ⟨start.1 later.id?_of_recorded, fun other => ?_⟩, fun asks => before (start.2 (asks asked).1)⟩
      rw [saves] at other
      contradiction
    | true =>
      rw [if_pos rfl]
      constructor
      · intro later _
        have last := later.id?_of_recorded
        rw [made, Option.some.injEq] at last
        obtain ⟨own, filled⟩ := Definition.id?_of_kept fresh last
        exact ⟨start.1 own, fun _ => filled⟩
      · intro asks
        obtain ⟨given, filled⟩ := asks asked
        have own := start.2 given
        exact (before own).recordVersion id ((Definition.continues_of_merged decoded stamp).id id own (filled saves))

/-- After a call, all versions are recorded under their ids exactly if the call asks for the command it is given. -/
theorem isKeyed_perform_iff (keyed : s.history.IsKeyed) {call : Call} (fresh : call.IsFresh) :
    (s.perform call).history.IsKeyed ↔ s.AsksForOwn call := by
  cases call with
  | create context stamp d =>
    refine iff_of_true ?_ trivial
    rcases create_cases s context stamp d with ⟨v, id, named, _, _, _, after⟩ | ⟨_, _, after⟩
    · rw [perform, after]
      dsimp only
      split
      · exact keyed.recordVersion id named
      · exact keyed
    · rwa [perform, after]
  | update context stamp id updates => exact isKeyed_update_iff keyed fresh
  | build stamp d selection =>
    refine iff_of_true ?_ trivial
    rw [History.IsKeyed, perform, versions_build]
    exact keyed
  | clear id? kind => exact iff_of_true (History.forall_clear keyed id? kind) trivial
  | classify | read => exact iff_of_true keyed trivial

end

/-- All along a run, versions are recorded under their ids exactly if each call asks for the command it is given. -/
theorem isKeyed_run_iff {s : Session} (keyed : s.history.IsKeyed) {calls : List Call}
    (fresh : ∀ call ∈ calls, call.IsFresh) :
    (∀ past, past <+: calls → (s.run past).history.IsKeyed) ↔
      ∀ past call, past ++ [call] <+: calls → (s.run past).AsksForOwn call := by
  induction calls generalizing s with
  | nil =>
    refine iff_of_true (fun past none => ?_) fun past call none => by simp at none
    rw [List.prefix_nil.1 none]
    exact keyed
  | cons first rest ih =>
    obtain ⟨freshFirst, freshRest⟩ := List.forall_mem_cons.1 fresh
    have step := isKeyed_perform_iff keyed freshFirst
    constructor
    · intro along past call ahead
      have later : (s.perform first).history.IsKeyed := along [first] (by simp)
      have onwards := (ih later freshRest).1 fun p before => along (first :: p) (List.cons_prefix_cons.2 ⟨rfl, before⟩)
      cases past with
      | nil =>
        obtain ⟨rfl, _⟩ := List.cons_prefix_cons.1 ahead
        exact step.1 later
      | cons other past =>
        obtain ⟨rfl, inside⟩ := List.cons_prefix_cons.1 ahead
        exact onwards past call inside
    · intro asks past ahead
      have later := step.2 (asks [] first (by simp))
      have onwards := (ih later freshRest).2 fun p call before =>
        asks (first :: p) call (List.cons_prefix_cons.2 ⟨rfl, before⟩)
      cases past with
      | nil => exact keyed
      | cons other past =>
        obtain ⟨rfl, inside⟩ := List.cons_prefix_cons.1 ahead
        exact onwards past inside

/-- In all states of a run, every version is recorded under the id of its command exactly if each accepted update
is given no command with another id, and no empty id where versions are saved. -/
theorem versions_keyed_iff (settings : Settings) {calls : List Call} (fresh : ∀ call ∈ calls, call.IsFresh) :
    (∀ past, past <+: calls → ((ofSettings settings).run past).history.IsKeyed) ↔
      ∀ past call, past ++ [call] <+: calls → ((ofSettings settings).run past).AsksForOwn call :=
  isKeyed_run_iff (fun _ _ member => absurd member List.not_mem_nil) fresh

/-- A command is made and updated by its own id. -/
theorem versions_keyed_of_listing :
    let definition : Definition :=
      { id? := some "x", name := "list", description := "Lists files", command := "ls", category? := some "files" }
    let stamp : Stamp := ⟨"today", "fresh"⟩
    let calls : List Call := [.create {} stamp definition, .update {} stamp "x" [("command", .text "ls -l")]]
    (∀ past, past <+: calls → ((ofSettings {}).run past).history.IsKeyed) ∧
      (Timeline.entries ((ofSettings {}).run calls).history.versions "x").map (·.action) =
        [.created, .beforeUpdate, .updated] := by
  intro definition stamp calls
  have fresh : ∀ call ∈ calls, call.IsFresh := by simp [calls, Call.IsFresh, stamp]
  refine ⟨(versions_keyed_iff {} fresh).2 ?_, by decide +kernel⟩
  intro past call ahead
  cases call with
  | update context stamp id updates =>
    have member : .update context stamp id updates ∈ calls := ahead.subset (by simp)
    obtain ⟨rfl, _, rfl, _⟩ : context = {} ∧ _ ∧ id = "x" ∧ _ := by simpa [calls] using member
    exact fun _ => ⟨fun c given => (nomatch given), fun _ => by decide⟩
  | _ => trivial

/-- An update of one id that is given the command of another one leaves that command's versions under the wrong
id, and so does an update of the empty id: its command gets an id by which it is not found again. -/
theorem versions_not_keyed_of_other_id :
    let stored : Definition :=
      { id? := some "y", name := "list", description := "Lists files", command := "ls", category? := some "files",
        version := 3 }
    let stamp : Stamp := ⟨"today", "fresh"⟩
    let misled := (ofSettings {}).perform (.update { current? := some stored } stamp "x" [("command", .text "ls -l")])
    let unnamed := (ofSettings {}).perform
      (.update { current? := some { stored with id? := some "" } } stamp "" [("command", .text "ls -l")])
    ¬ misled.history.IsKeyed ∧ Timeline.entries misled.history.versions "y" = [] ∧ ¬ unnamed.history.IsKeyed ∧
      unnamed.accepted? (.update {} ⟨"today", "other"⟩ "fresh" [("command", .text "ls -a")]) = none := by
  intro stored stamp misled unnamed
  have other : ∃ record ∈ Timeline.entries misled.history.versions "x", record.command.id? ≠ some "x" := by decide +kernel
  have made : ∃ record ∈ Timeline.entries unnamed.history.versions "", record.command.id? ≠ some "" := by decide +kernel
  obtain ⟨moved, under, differs⟩ := other
  obtain ⟨last, empty, named⟩ := made
  exact ⟨fun keyed => differs (keyed "x" moved under), by decide +kernel, fun keyed => named (keyed "" last empty),
    by decide +kernel⟩

end Session

end ShellTemplate
