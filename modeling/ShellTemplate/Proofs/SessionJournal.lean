import ShellTemplate.Proofs.TimelineLogs

namespace ShellTemplate

/-- What is written down while a session goes on. Nothing is ever taken out of a journal. -/
inductive JournalEntry where
  | version (id : String) (record : VersionRecord)
  | build (id : String) (record : BuildRecord)
  | cleared (id? : Option String) (kind : HistoryKind)

namespace JournalEntry

/-- The version that the entry adds to a command. -/
def version? (id : String) : JournalEntry → Option VersionRecord
  | .version own record => if own = id then some record else none
  | _ => none

/-- The build that the entry adds to a command. -/
def build? (id : String) : JournalEntry → Option BuildRecord
  | .build own record => if own = id then some record else none
  | _ => none

/-- Whether the entry tells that the versions of a command were forgotten. -/
def clearsVersions (id : String) : JournalEntry → Bool
  | .cleared id? kind => kind.coversVersions && id?.all (· == id)
  | _ => false

/-- Whether the entry tells that the builds of a command were forgotten. -/
def clearsBuilds (id : String) : JournalEntry → Bool
  | .cleared id? kind => kind.coversBuilds && id?.all (· == id)
  | _ => false

end JournalEntry

/-- The entries of a session, oldest first. -/
abbrev Journal := List JournalEntry

namespace Journal

/-- What is read from the entries behind the last one that clears. -/
def since {α : Type} (clears : JournalEntry → Bool) (read? : JournalEntry → Option α) (journal : Journal) : List α :=
  (journal.rtakeWhile fun entry => !clears entry).filterMap read?

/-- The versions of a command that were added since they were forgotten last. -/
def versions (journal : Journal) (id : String) : List VersionRecord :=
  journal.since (JournalEntry.clearsVersions id) (JournalEntry.version? id)

/-- The builds of a command that were added since they were forgotten last. -/
def builds (journal : Journal) (id : String) : List BuildRecord :=
  journal.since (JournalEntry.clearsBuilds id) (JournalEntry.build? id)

theorem since_concat {α : Type} (clears : JournalEntry → Bool) (read? : JournalEntry → Option α) (journal : Journal)
    (entry : JournalEntry) :
    since clears read? (journal ++ [entry]) =
      if clears entry then [] else since clears read? journal ++ (read? entry).toList := by
  unfold since
  rw [List.rtakeWhile_concat]
  cases clears entry
  · simp [List.filterMap_append, List.filterMap_cons]
    cases read? entry <;> rfl
  · rfl

end Journal

namespace Timeline

variable {α : Type} {t : Timeline α} {capacity : Nat} {journal : Journal} {entry : JournalEntry}
  {clears : String → JournalEntry → Bool} {read? : String → JournalEntry → Option α}

theorem Keeps.silent (keeps : Keeps t capacity fun id => journal.since (clears id) (read? id))
    (uncleared : ∀ id, clears id entry = false) (unread : ∀ id, read? id entry = none) :
    Keeps t capacity fun id => Journal.since (clears id) (read? id) (journal ++ [entry]) := by
  refine keeps.congr fun id => ?_
  rw [Journal.since_concat, if_neg (Bool.not_eq_true _ ▸ uncleared id), unread]
  exact List.append_nil _

theorem Keeps.written (keeps : Keeps t capacity fun id => journal.since (clears id) (read? id)) {own : String}
    {value : α} (uncleared : ∀ id, clears id entry = false)
    (given : ∀ id, read? id entry = if own = id then some value else none) :
    Keeps (Timeline.push t capacity own value) capacity fun id => Journal.since (clears id) (read? id) (journal ++ [entry]) := by
  refine keeps.push ?_ fun other differ => ?_
  · rw [Journal.since_concat, if_neg (Bool.not_eq_true _ ▸ uncleared own), given, if_pos rfl]
    rfl
  · rw [Journal.since_concat, if_neg (Bool.not_eq_true _ ▸ uncleared other), given, if_neg (Ne.symm differ)]
    exact List.append_nil _

theorem Keeps.cleared (keeps : Keeps t capacity fun id => journal.since (clears id) (read? id)) {id? : Option String}
    (forgotten : ∀ id, clears id entry = id?.all (· == id)) (unread : ∀ id, read? id entry = none) :
    Keeps (Timeline.clear t id?) capacity fun id => Journal.since (clears id) (read? id) (journal ++ [entry]) := by
  refine keeps.clear fun id => ?_
  rw [Journal.since_concat, forgotten, unread]
  exact congrArg (ite _ _) (List.append_nil _)

end Timeline

/-- The history has room for some entries of each command, and keeps what the journal tells of it. -/
structure History.Follows (h : History) (capacity : Nat) (journal : Journal) : Prop where
  room : h.capacity = capacity
  versions : Timeline.Keeps h.versions capacity journal.versions
  builds : Timeline.Keeps h.builds capacity journal.builds

namespace History

variable {h : History} {capacity : Nat} {journal : Journal}

theorem follows_empty (capacity : Nat) : Follows { capacity } capacity [] :=
  ⟨rfl, Timeline.keeps_empty capacity, Timeline.keeps_empty capacity⟩

theorem Follows.recordVersion (follows : h.Follows capacity journal) (id : String) (record : VersionRecord) :
    (h.recordVersion id record).Follows capacity (journal ++ [.version id record]) where
  room := follows.room
  versions := by
    rw [History.recordVersion, follows.room]
    refine follows.versions.written ?_ ?_ <;> exact fun _ => rfl
  builds := follows.builds.silent (fun _ => rfl) fun _ => rfl

theorem Follows.recordBuild (follows : h.Follows capacity journal) (id : String) (record : BuildRecord) :
    (h.recordBuild id record).Follows capacity (journal ++ [.build id record]) where
  room := follows.room
  versions := follows.versions.silent (fun _ => rfl) fun _ => rfl
  builds := by
    rw [History.recordBuild, follows.room]
    refine follows.builds.written ?_ ?_ <;> exact fun _ => rfl

theorem Follows.clear (follows : h.Follows capacity journal) (id? : Option String) (kind : HistoryKind) :
    (h.clear id? kind).Follows capacity (journal ++ [.cleared id? kind]) := by
  cases kind with
  | command =>
    refine ⟨follows.room, follows.versions.cleared ?_ ?_, follows.builds.silent ?_ ?_⟩ <;> exact fun _ => rfl
  | build =>
    refine ⟨follows.room, follows.versions.silent ?_ ?_, follows.builds.cleared ?_ ?_⟩ <;> exact fun _ => rfl
  | all =>
    refine ⟨follows.room, follows.versions.cleared ?_ ?_, follows.builds.cleared ?_ ?_⟩ <;> exact fun _ => rfl

end History

namespace Session

/-- What a call writes down, told by its outcome and its event. -/
def written (s : Session) : Call → Journal
  | .create context stamp d =>
    match (s.create context stamp d).2.1 with
    | some (.created command) =>
      if s.settings.autoSave then [.version (command.id?.getD "") ⟨command, .created, stamp.moment⟩] else []
    | _ => []
  | .update context stamp id updates =>
    match (s.update context stamp id updates).2.1 with
    | some (.updated before after _) =>
      .version id ⟨before, .beforeUpdate, stamp.moment⟩ ::
        if s.settings.autoSave then [.version id ⟨after, .updated, stamp.moment⟩] else []
    | _ => []
  | .build stamp d selection =>
    let outcome := (s.build stamp d selection).1
    d.id?.toList.map fun id => .build id ⟨selection, outcome.built?, outcome.success, stamp.moment⟩
  | .clear id? kind => [.cleared id? kind]
  | .classify .. | .read => []

/-- What the calls of a run write down. -/
def journal : Session → List Call → Journal
  | _, [] => []
  | s, call :: rest => s.written call ++ journal (s.perform call) rest

section

variable (s : Session) (context : SessionContext) (stamp : Stamp)

/-- A creation tells of the command it makes and records it if versions are saved, or it does nothing. -/
theorem create_cases (d : Definition) :
    (∃ v id, v.id? = some id ∧ (s.create context stamp d).1.success = true ∧
      (s.create context stamp d).1.command? = some v ∧ (s.create context stamp d).2.1 = some (.created v) ∧
      (s.create context stamp d).2.2 =
        { s with
          history :=
            if s.settings.autoSave then s.history.recordVersion id ⟨v, .created, stamp.moment⟩ else s.history }) ∨
    ((s.create context stamp d).1.success = false ∧ (s.create context stamp d).2.1 = none ∧
      (s.create context stamp d).2.2 = s) := by
  unfold create
  dsimp only
  split
  · exact Or.inl ⟨_, _, rfl, rfl, rfl, rfl, rfl⟩
  · exact Or.inr ⟨rfl, rfl, rfl⟩

/-- An update tells of both versions and records the older one, the newer one too if versions are saved, or it
does nothing. -/
theorem update_cases (id : String) (updates : List (String × Json)) :
    (∃ current updated, s.updateBase context id = .ok current ∧ (s.update context stamp id updates).1.success = true ∧
      (s.update context stamp id updates).1.command? = some updated ∧
      (s.update context stamp id updates).2.1 =
        some (.updated current updated (s.update context stamp id updates).1.changes) ∧
      (s.update context stamp id updates).2.2 = { s with history := s.historyAfter stamp id current updated }) ∨
    ((s.update context stamp id updates).1.success = false ∧ (s.update context stamp id updates).2.1 = none ∧
      (s.update context stamp id updates).2.2 = s) := by
  unfold update
  cases base : s.updateBase context id with
  | error report => exact Or.inr ⟨rfl, rfl, rfl⟩
  | ok current =>
    cases revised : s.revise context current updates with
    | error report =>
      simp only [revised]
      exact Or.inr ⟨rfl, trivial, trivial⟩
    | ok pair =>
      simp only [revised]
      exact Or.inl ⟨current, pair.1.stamped stamp, rfl, trivial, rfl, rfl, rfl⟩

theorem settings_perform (call : Call) : (s.perform call).settings = s.settings := by
  cases call with
  | create context stamp d =>
    rcases create_cases s context stamp d with ⟨_, _, _, _, _, _, after⟩ | ⟨_, _, after⟩ <;> rw [perform, after]
  | update context stamp id updates =>
    rcases update_cases s context stamp id updates with ⟨_, _, _, _, _, _, after⟩ | ⟨_, _, after⟩ <;> rw [perform, after]
  | build | classify | clear | read => rfl

theorem settings_run (calls : List Call) : (s.run calls).settings = s.settings := by
  induction calls generalizing s with
  | nil => rfl
  | cons call rest ih => exact (ih (s.perform call)).trans (settings_perform s call)

end

theorem history_build (s : Session) (stamp : Stamp) (d : Definition) (selection : Selection) :
    (s.build stamp d selection).2.2.history =
      match d.id? with
      | some id =>
        s.history.recordBuild id
          ⟨selection, (s.build stamp d selection).1.built?, (s.build stamp d selection).1.success, stamp.moment⟩
      | none => s.history := by
  unfold build
  cases d.id? with
  | none => rfl
  | some id => rfl

variable {s : Session} {capacity : Nat} {journal : Journal}

theorem follows_perform (follows : s.history.Follows capacity journal) (call : Call) :
    (s.perform call).history.Follows capacity (journal ++ s.written call) := by
  cases call with
  | create context stamp d =>
    rcases create_cases s context stamp d with ⟨v, id, named, _, _, told, after⟩ | ⟨_, told, after⟩
    · rw [perform, after, written, told]
      dsimp only
      cases s.settings.autoSave with
      | true =>
        rw [if_pos rfl, if_pos rfl, named]
        exact follows.recordVersion id _
      | false => simpa using follows
    · rw [perform, after, written, told]
      simpa using follows
  | update context stamp id updates =>
    rcases update_cases s context stamp id updates with ⟨current, updated, _, _, _, told, after⟩ | ⟨_, told, after⟩
    · have before := follows.recordVersion id ⟨current, .beforeUpdate, stamp.moment⟩
      rw [perform, after, written, told, historyAfter]
      dsimp only
      cases s.settings.autoSave with
      | true => simpa using before.recordVersion id ⟨updated, .updated, stamp.moment⟩
      | false => simpa using before
    · rw [perform, after, written, told]
      simpa using follows
  | build stamp d selection =>
    rw [perform, written, history_build]
    cases d.id? with
    | none => simpa using follows
    | some id => exact follows.recordBuild id _
  | clear id? kind => exact follows.clear id? kind
  | classify | read => exact (List.append_nil journal).symm ▸ follows

theorem follows_run (follows : s.history.Follows capacity journal) (calls : List Call) :
    (s.run calls).history.Follows capacity (journal ++ s.journal calls) := by
  induction calls generalizing s journal with
  | nil => exact (List.append_nil journal).symm ▸ follows
  | cons call rest ih =>
    have later := ih (follows_perform follows call)
    rw [List.append_assoc] at later
    exact later

/-- Whatever calls are made, a session remembers of each command the newest of the versions and of the builds
written down since they were forgotten last, and it counts what it remembers. -/
theorem history_is_recent_suffix (settings : Settings) (calls : List Call) :
    let s := (ofSettings settings).run calls
    let journal := (ofSettings settings).journal calls
    let room := max 1 settings.historyVersions
    (∀ id, Timeline.entries s.history.versions id = (journal.versions id).rtake room ∧
      (Timeline.entries s.history.versions id).length ≤ room) ∧
    (∀ id, Timeline.entries s.history.builds id = (journal.builds id).rtake room ∧
      (Timeline.entries s.history.builds id).length ≤ room) ∧
    (∃ ids : Finset String, (∀ id, id ∈ ids ↔ journal.versions id ≠ []) ∧ s.history.totalCommands = ids.card) ∧
    ∃ ids : Finset String, (∀ id, id ∈ ids ↔ journal.builds id ≠ []) ∧
      s.history.totalBuilds = ∑ id ∈ ids, (Timeline.entries s.history.builds id).length := by
  intro s journal room
  have follows : s.history.Follows settings.historyVersions journal :=
    follows_run (s := ofSettings settings) (History.follows_empty settings.historyVersions) calls
  have versions (id : String) : Timeline.entries s.history.versions id = (journal.versions id).rtake room := by
    rw [follows.versions.entries_eq, Nat.max_comm]
  have builds (id : String) : Timeline.entries s.history.builds id = (journal.builds id).rtake room := by
    rw [follows.builds.entries_eq, Nat.max_comm]
  refine ⟨fun id => ⟨versions id, ?_⟩, fun id => ⟨builds id, ?_⟩, ?_, ?_⟩
  · exact versions id ▸ length_rtake_le _ room
  · exact builds id ▸ length_rtake_le _ room
  · exact ⟨Timeline.ids s.history.versions, fun id => follows.versions.mem_ids_iff, (Timeline.card_ids _).symm⟩
  · exact ⟨Timeline.ids s.history.builds, fun id => follows.builds.mem_ids_iff, (Timeline.sum_ids _).symm⟩

end Session

end ShellTemplate
