import ShellTemplate.Proofs.RecordFields
import ShellTemplate.Proofs.ReportedErrors
import ShellTemplate.Proofs.SessionRuns
import ShellTemplate.Proofs.TrimmedTexts

namespace ShellTemplate

namespace Structure

/-- No check of the structure of a command line finds an error. -/
def IsSound (command : String) : Prop :=
  ∀ security precedence, ((ofCommand command).check security precedence).isValid = true

theorem isSound_iff (command : String) (security precedence : Bool) :
    IsSound command ↔ ((ofCommand command).check security precedence).isValid = true := by
  refine ⟨fun sound => sound security precedence, fun valid otherSecurity otherPrecedence => ?_⟩
  rw [Report.isValid_iff, Report.errors_eq_nil_iff, Check.structure_errorsAre] at valid ⊢
  exact valid

instance (command : String) : Decidable (IsSound command) :=
  decidable_of_iff _ (isSound_iff command false false).symm

end Structure

/-- The template of a recorded command is sound and trimmed, unless the record keeps what an update started from. -/
def VersionRecord.IsSettled (r : VersionRecord) : Prop :=
  r.action ≠ .beforeUpdate → Structure.IsSound r.command.command ∧ Text.trim r.command.command = r.command.command

namespace History

def IsSettled (h : History) : Prop :=
  ∀ id, ∀ record ∈ Timeline.entries h.versions id, record.IsSettled

variable {h : History}

theorem IsSettled.recordVersion (settled : h.IsSettled) (id : String) {record : VersionRecord}
    (added : record.IsSettled) : (h.recordVersion id record).IsSettled :=
  forall_recordVersion settled id added

theorem IsSettled.clear (settled : h.IsSettled) (id? : Option String) (kind : HistoryKind) :
    (h.clear id? kind).IsSettled :=
  forall_clear settled id? kind

end History

namespace Session

open Structure

/-- What the calls of a run give, in their order. -/
def gathered {α : Type} (give : Session → Call → Option α) : Session → List Call → List α
  | _, [] => []
  | s, call :: rest => (give s call).toList ++ gathered give (s.perform call) rest

/-- The template of a command that an update was given, if that is the newest version. -/
def suppliedTemplate? (s : Session) (id : String) : Option String :=
  ((Timeline.entries s.history.versions id).getLast?.filter (·.action == .beforeUpdate)).map (·.command.command)

/-- The template that an accepted update takes from its caller: the one among its fields, or that of the command
it is given, or that of the command which an earlier update was given. -/
def suppliedTo? (s : Session) : Call → Option String
  | .update context stamp id updates =>
    if (s.accepted? (.update context stamp id updates)).isSome then
      match updates.reverse.lookup "command" with
      | some (.text command) => some command
      | _ => (context.current?.map (·.command)).or (s.suppliedTemplate? id)
    else none
  | _ => none

section

variable {s : Session} {context : SessionContext} {stamp : Stamp} {id : String} {updates : List (String × Json)}
  {d v current : Definition}

theorem isSound_of_creationFindings (valid : (s.creationFindings context d).isValid = true) : IsSound d.command := by
  have analyzed : (Analysis.ofCommand d.command (s.analysisOptions {})).report.errors = [] := by
    rw [Report.isValid_iff] at valid
    simp only [creationFindings, creationReport, Report.errors_append, List.append_nil] at valid
    split at valid
    · simp only [Report.escalate, Report.errors_append, List.append_eq_nil_iff] at valid
      exact valid.1.2
    · simp only [Report.errors_append, List.append_eq_nil_iff] at valid
      exact valid.2
  exact (isSound_iff d.command false true).2 (Report.isValid_iff.2 analyzed)

theorem isSound_of_created (accepted : (s.create context stamp d).1.command? = some v) : IsSound v.command := by
  obtain ⟨valid, rfl, _⟩ := create_of_accepted accepted
  have sound := isSound_of_creationFindings valid
  exact sound

theorem trim_normalized (d : Definition) : Text.trim d.normalized.command = d.normalized.command :=
  Text.trim_trim d.command

/-- What an update makes of a template is trimmed, like what is created. -/
theorem trim_of_accepted {call : Call} (accepted : s.accepted? call = some v) : Text.trim v.command = v.command := by
  cases call with
  | create context stamp d =>
    obtain ⟨_, rfl, _⟩ := create_of_accepted accepted
    exact trim_normalized d
  | update context stamp id updates =>
    obtain ⟨_, _, _, _, revises, rfl, _⟩ := update_of_accepted accepted
    obtain ⟨read, _, rfl⟩ := merged_of_revised revises
    exact trim_normalized read
  | build | classify | clear | read => contradiction

/-- The template of an updated command comes from the caller, or it was accepted before. -/
theorem template_of_updated (settled : s.history.IsSettled)
    (accepted : s.accepted? (.update context stamp id updates) = some v) :
    (∃ text, s.suppliedTo? (.update context stamp id updates) = some text ∧ v.command = Text.trim text) ∨
      s.suppliedTo? (.update context stamp id updates) = none ∧ IsSound v.command := by
  obtain ⟨current, _, _, base, revises, made, _⟩ := update_of_accepted accepted
  obtain ⟨read, decoded, rfl⟩ := merged_of_revised revises
  have trimmed : v.command = Text.trim read.command := by rw [made]; rfl
  have command := command_of_merged decoded
  simp only [suppliedTo?, accepted, Option.isSome_some, if_true]
  cases given : updates.reverse.lookup "command" with
  | some json =>
    rw [given, Option.getD_some] at command
    exact Or.inl ⟨read.command, by rw [command], trimmed⟩
  | none =>
    rw [given, Option.getD_none] at command
    rw [← Json.text.inj command] at trimmed
    have start := updateBase_eq_ok base
    cases supplied : context.current? with
    | some c =>
      rw [supplied, Option.some_or] at start
      exact Or.inl ⟨current.command, by rw [Option.some.inj start]; rfl, trimmed⟩
    | none =>
      rw [supplied, Option.none_or] at start
      obtain ⟨record, newest, rfl⟩ := Option.map_eq_some_iff.1 start
      simp only [Option.map_none, Option.none_or, suppliedTemplate?, newest]
      by_cases before : record.action = .beforeUpdate
      · exact Or.inl ⟨record.command.command, by simp [before], trimmed⟩
      · obtain ⟨sound, same⟩ := settled id record (List.mem_of_getLast? newest) before
        exact Or.inr ⟨by simp [before], by rw [trimmed, same]; exact sound⟩

theorem suppliedTo?_of_refused {call : Call} (refused : s.accepted? call = none) : s.suppliedTo? call = none := by
  cases call <;> simp [suppliedTo?, refused]

theorem isSound_accepted_iff (settled : s.history.IsSettled) (call : Call) :
    (∀ v, s.accepted? call = some v → IsSound v.command) ↔
      ∀ text, s.suppliedTo? call = some text → IsSound (Text.trim text) := by
  cases accepted : s.accepted? call with
  | none => simp [suppliedTo?_of_refused accepted]
  | some v =>
    simp only [Option.some.injEq, forall_eq']
    cases call with
    | create context stamp d => simpa [suppliedTo?] using isSound_of_created accepted
    | update context stamp id updates =>
      rcases template_of_updated settled accepted with ⟨text, supplied, template⟩ | ⟨none, sound⟩
      · simp [supplied, template]
      · simpa [none] using sound
    | build | classify | clear | read => contradiction

end

theorem isSettled_perform {s : Session} {call : Call} (settled : s.history.IsSettled)
    (sound : ∀ v, s.accepted? call = some v → IsSound v.command) : (s.perform call).history.IsSettled := by
  have added (v : Definition) (accepted : s.accepted? call = some v) (action : VersionAction) (moment : String) :
      VersionRecord.IsSettled ⟨v, action, moment⟩ := fun _ => ⟨sound v accepted, trim_of_accepted accepted⟩
  cases call with
  | create context stamp d =>
    cases accepted : (s.create context stamp d).1.command? with
    | none => rwa [perform, create_of_refused accepted]
    | some v =>
      obtain ⟨_, _, after⟩ := create_of_accepted accepted
      rw [perform, after]
      dsimp only
      split
      · exact settled.recordVersion _ (added v accepted _ _)
      · exact settled
  | update context stamp id updates =>
    cases accepted : (s.update context stamp id updates).1.command? with
    | none => rwa [perform, update_of_refused accepted]
    | some v =>
      obtain ⟨current, _, _, _, _, _, after⟩ := update_of_accepted accepted
      have before : (s.history.recordVersion id ⟨current, .beforeUpdate, stamp.moment⟩).IsSettled :=
        settled.recordVersion id fun other => absurd rfl other
      rw [perform, after, historyAfter]
      dsimp only
      split
      · exact before.recordVersion id (added v accepted _ _)
      · exact before
  | build stamp d selection =>
    intro id record member
    rw [perform, versions_build] at member
    exact settled id record member
  | clear id? kind => exact settled.clear id? kind
  | classify | read => exact settled

/-- A template that is not sound can only come in by an update: creations are checked, and what was accepted and
is sound stays so. -/
theorem isSound_accepted_run_iff {s : Session} (settled : s.history.IsSettled) (calls : List Call) :
    (∀ v ∈ gathered accepted? s calls, IsSound v.command) ↔
      ∀ text ∈ gathered suppliedTo? s calls, IsSound (Text.trim text) := by
  induction calls generalizing s with
  | nil => simp [gathered]
  | cons call rest ih =>
    have head := isSound_accepted_iff settled call
    simp only [gathered, List.mem_append, Option.mem_toList, or_imp, forall_and]
    rw [← head]
    exact and_congr_right fun sound => ih (isSettled_perform settled sound)

/-- Whatever calls are made, all accepted templates are sound exactly if those are, once trimmed, that the accepted
updates take from their callers. -/
theorem accepted_templates_sound_iff (settings : Settings) (calls : List Call) :
    (∀ v ∈ gathered accepted? (ofSettings settings) calls, IsSound v.command) ↔
      ∀ text ∈ gathered suppliedTo? (ofSettings settings) calls, IsSound (Text.trim text) :=
  isSound_accepted_run_iff (fun _ _ member => absurd member List.not_mem_nil) calls

/-- An update of a command whose template is sound is accepted with two operators side by side, which no new
command may have. -/
theorem update_accepts_unsound_template :
    let stored : Definition :=
      { id? := some "x", name := "list", description := "Lists files", command := "ls", category? := some "files",
        version := 3 }
    let stamp : Stamp := ⟨"today", "fresh"⟩
    let call : Call := .update { current? := some stored } stamp "x" [("command", .text "cmd1 | | cmd2")]
    IsSound stored.command ∧ (∃ v ∈ gathered accepted? (ofSettings {}) [call], ¬ IsSound v.command) ∧
      (ofSettings {}).accepted? (.create {} stamp { stored with command := "cmd1 | | cmd2" }) = none := by
  intro stored stamp call
  let v : Definition := { stored.stamped stamp with command := "cmd1 | | cmd2" }
  have accepted : v ∈ gathered accepted? (ofSettings {}) [call] := by decide +kernel
  exact ⟨by decide +kernel, ⟨v, accepted, by decide +kernel⟩, by decide +kernel⟩

end Session

end ShellTemplate
