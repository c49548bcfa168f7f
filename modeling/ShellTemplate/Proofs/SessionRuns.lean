import ShellTemplate.Proofs.SortedLookup
import ShellTemplate.Session

namespace ShellTemplate

namespace Timeline

variable {α : Type} (t : Timeline α) (capacity : Nat) (id : String) (entry : α)

theorem entries_push (other : String) :
    entries (push t capacity id entry) other =
      if other = id then (((t.toList.lookup id).getD (.ofCapacity capacity)).push entry).entries else entries t other := by
  unfold entries push
  rw [SortedList.lookup_insert]
  split <;> rfl

theorem getLast?_entries_push : (entries (push t capacity id entry) id).getLast? = some entry := by
  rw [entries_push, if_pos rfl]
  exact List.getLast?_concat

variable {t capacity id entry}

theorem mem_entries_push {other : String} {e : α} (member : e ∈ entries (push t capacity id entry) other) :
    other = id ∧ e = entry ∨ e ∈ entries t other := by
  rw [entries_push] at member
  split at member
  · rename_i same
    rcases List.mem_append.1 member with old | new
    · have before := List.mem_of_mem_drop old
      unfold entries
      rw [same]
      cases stored : t.toList.lookup id with
      | none => simp [stored, Recent.ofCapacity] at before
      | some recent => exact Or.inr (by simpa [stored] using before)
    · exact Or.inl ⟨same, List.mem_singleton.1 new⟩
  · exact Or.inr member

theorem entries_clear (id? : Option String) :
    entries (clear t id?) id = if id? = none ∨ id? = some id then [] else entries t id := by
  unfold entries
  cases id? with
  | none => rw [if_pos (Or.inl rfl)]; rfl
  | some gone =>
    have kept := lookup_filter_key (· != gone) t.toList id
    change (Option.map _ (List.lookup id (t.toList.filter fun entry => entry.1 != gone))).getD [] = _
    rw [kept]
    by_cases same : gone = id
    · simp [same]
    · simp [same, Ne.symm same]

end Timeline

namespace History

theorem latestCommand?_recordVersion (h : History) (id : String) (record : VersionRecord) (other : String) :
    (h.recordVersion id record).latestCommand? other =
      if other = id then some record.command else h.latestCommand? other := by
  unfold latestCommand? recordVersion
  dsimp only
  by_cases same : other = id
  · rw [same, Timeline.getLast?_entries_push, if_pos rfl]
    rfl
  · rw [Timeline.entries_push, if_neg same, if_neg same]

theorem latestCommand?_clear_of_other {h : History} {id? : Option String} {kind : HistoryKind} {id : String}
    (other : kind.coversVersions = true → id? ≠ none ∧ id? ≠ some id) :
    (h.clear id? kind).latestCommand? id = h.latestCommand? id := by
  unfold latestCommand? clear
  dsimp only
  split
  · rename_i covers
    rw [Timeline.entries_clear, if_neg (not_or.2 (other covers))]
  · rfl

section

variable {h : History} {holds : String → VersionRecord → Prop}
  (all : ∀ id, ∀ record ∈ Timeline.entries h.versions id, holds id record)

include all

/-- What holds of all versions holds with one more if it holds of that one. -/
theorem forall_recordVersion (id : String) {record : VersionRecord} (added : holds id record) :
    ∀ other, ∀ old ∈ Timeline.entries (h.recordVersion id record).versions other, holds other old := by
  intro other old member
  rcases Timeline.mem_entries_push member with ⟨rfl, rfl⟩ | before
  · exact added
  · exact all other old before

theorem forall_clear (id? : Option String) (kind : HistoryKind) :
    ∀ id, ∀ record ∈ Timeline.entries (h.clear id? kind).versions id, holds id record := by
  intro id record member
  refine all id record ?_
  change record ∈ Timeline.entries (if kind.coversVersions then _ else _) id at member
  split at member
  · rw [Timeline.entries_clear] at member
    split at member
    · contradiction
    · exact member
  · exact member

end

end History

theorem Definition.id?_stamped {d : Definition} {id : String} (named : d.id? = some id) (filled : id ≠ "") (stamp : Stamp) :
    (d.stamped stamp).id? = some id := by
  have held : (some id).filter (fun text : String => !text.isEmpty) = some id := by simpa using filled
  simp only [stamped, named, held, Option.getD_some]

namespace Session

/-- What a session can be asked for. -/
inductive Call where
  | create (context : SessionContext) (stamp : Stamp) (definition : Definition)
  | update (context : SessionContext) (stamp : Stamp) (id : String) (updates : List (String × Json))
  | build (stamp : Stamp) (definition : Definition) (selection : Selection)
  | classify (parameter : Parameter) (context : ClassificationContext)
  | clear (id? : Option String) (kind : HistoryKind)
  /-- Analyses, suggestions, what is remembered, and counts of it. -/
  | read

/-- The session after a call. -/
def perform (s : Session) : Call → Session
  | .create context stamp d => (s.create context stamp d).2.2
  | .update context stamp id updates => (s.update context stamp id updates).2.2
  | .build stamp d selection => (s.build stamp d selection).2.2
  | .classify p context => { s with classifier := ((Classifier.classify p context).run s.classifier).2 }
  | .clear id? kind => s.clear id? kind
  | .read => s

/-- The definition that a call makes or changes, if it succeeds. -/
def accepted? (s : Session) : Call → Option Definition
  | .create context stamp d => (s.create context stamp d).1.command?
  | .update context stamp id updates => (s.update context stamp id updates).1.command?
  | _ => none

/-- The session after calls. -/
def run (s : Session) (calls : List Call) : Session :=
  calls.foldl perform s

section

variable {s : Session} {context : SessionContext} {stamp : Stamp} {id : String} {updates : List (String × Json)}
  {d v : Definition}

/-- All that can be found about a new definition. -/
def creationFindings (s : Session) (context : SessionContext) (d : Definition) : Report :=
  let analysis := Analysis.ofCommand d.command (s.analysisOptions {})
  s.creationReport d analysis context ++ { warnings := (analysis.security?.map (·.findings)).getD [] }

theorem create_of_accepted (accepted : (s.create context stamp d).1.command? = some v) :
    (s.creationFindings context d.normalized).isValid = true ∧
      v = { d.normalized.stamped stamp with isUserCreated? := some true } ∧
      (s.create context stamp d).2.2 =
        { s with
          history :=
            if s.settings.autoSave then s.history.recordVersion (v.id?.getD "") ⟨v, .created, stamp.moment⟩
            else s.history } := by
  unfold create at accepted ⊢
  dsimp only at accepted ⊢
  split at accepted
  · rename_i valid
    cases accepted
    exact ⟨valid, rfl, by rw [if_pos valid]⟩
  · contradiction

theorem create_of_refused (refused : (s.create context stamp d).1.command? = none) :
    (s.create context stamp d).2.2 = s := by
  unfold create at refused ⊢
  dsimp only at refused ⊢
  split at refused
  · contradiction
  · rename_i invalid
    rw [if_neg invalid]

/-- An update starts from the command it is given, or else from the newest version. -/
theorem updateBase_eq_ok {current : Definition} (base : s.updateBase context id = .ok current) :
    context.current?.or (s.history.latestCommand? id) = some current := by
  unfold updateBase at base
  split at base
  · contradiction
  · rename_i found
    split at base
    · contradiction
    · rw [found, Except.ok.inj base]

/-- The history after an update from one version to another. -/
def historyAfter (s : Session) (stamp : Stamp) (id : String) (current updated : Definition) : History :=
  let before := s.history.recordVersion id ⟨current, .beforeUpdate, stamp.moment⟩
  if s.settings.autoSave then before.recordVersion id ⟨updated, .updated, stamp.moment⟩ else before

theorem update_of_accepted (accepted : (s.update context stamp id updates).1.command? = some v) :
    ∃ current merged report, s.updateBase context id = .ok current ∧
      s.revise context current updates = .ok (merged, report) ∧ v = merged.stamped stamp ∧
      (s.update context stamp id updates).2.2 = { s with history := s.historyAfter stamp id current v } := by
  unfold update at accepted ⊢
  cases base : s.updateBase context id with
  | error report => simp [base, rejected] at accepted
  | ok current =>
    cases revised : s.revise context current updates with
    | error report => simp [base, revised, rejected] at accepted
    | ok pair =>
      obtain ⟨merged, report⟩ := pair
      simp only [base, revised, Option.some.injEq] at accepted
      subst accepted
      exact ⟨current, merged, report, rfl, revised, rfl, by simp only [revised, historyAfter]⟩

theorem update_of_revised {current merged : Definition} {report : Report} (base : s.updateBase context id = .ok current)
    (revised : s.revise context current updates = .ok (merged, report)) :
    (s.update context stamp id updates).1 =
      { success := true, command? := some (merged.stamped stamp), report, changes := changes current merged } := by
  unfold update
  simp only [base, revised]

theorem success_update_iff : (s.update context stamp id updates).1.success = true ↔
    ∃ current merged report, s.updateBase context id = .ok current ∧
      s.revise context current updates = .ok (merged, report) := by
  cases base : s.updateBase context id with
  | error report =>
    have made : (s.update context stamp id updates).1 = rejected report := by
      unfold update
      rw [base]
    rw [made]
    exact iff_of_false Bool.false_ne_true (by rintro ⟨_, _, _, found, _⟩; cases found)
  | ok current =>
    cases revised : s.revise context current updates with
    | error report =>
      have made : (s.update context stamp id updates).1 = rejected report := by
        unfold update
        simp only [base, revised]
      rw [made]
      refine iff_of_false Bool.false_ne_true ?_
      rintro ⟨_, _, _, found, other⟩
      cases found
      rw [revised] at other
      cases other
    | ok pair =>
      rw [update_of_revised base revised]
      exact iff_of_true rfl ⟨current, pair.1, pair.2, rfl, revised⟩

theorem update_of_refused (refused : (s.update context stamp id updates).1.command? = none) :
    (s.update context stamp id updates).2.2 = s := by
  unfold update at refused ⊢
  cases base : s.updateBase context id with
  | error report => rfl
  | ok current =>
    cases revised : s.revise context current updates with
    | error report => simp only [revised]
    | ok pair => simp [base, revised] at refused

theorem versions_build (s : Session) (stamp : Stamp) (d : Definition) (selection : Selection) :
    (s.build stamp d selection).2.2.history.versions = s.history.versions := by
  unfold build
  dsimp only
  cases d.id? <;> rfl

/-- A revised definition is read from the merged fields. -/
theorem merged_of_revised {current merged : Definition} {report : Report}
    (revised : s.revise context current updates = .ok (merged, report)) :
    ∃ read, Definition.record.ofMembers false (mergedFields current updates).toList = .ok read ∧
      merged = read.normalized := by
  unfold revise at revised
  dsimp only at revised
  split at revised
  · contradiction
  · cases read : Definition.record.ofMembers false (mergedFields current updates).toList with
    | error e => simp [read] at revised
    | ok d =>
      simp only [read] at revised
      split at revised
      · cases revised
        exact ⟨d, rfl, rfl⟩
      · contradiction

end

end Session

end ShellTemplate
