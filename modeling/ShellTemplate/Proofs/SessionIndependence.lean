import ShellTemplate.Proofs.ClassifierRuns
import ShellTemplate.Proofs.ReportedErrors
import ShellTemplate.Proofs.SessionJournal
import ShellTemplate.Session.Batch

namespace ShellTemplate

open Classifier

/-- What is classified when a selection for the definition is checked. -/
def Definition.subjects (d : Definition) : List Subject :=
  d.parameters.map fun p => { parameter := p }

section

variable {met : List Subject} {d : Definition} {s : Selection}

theorem Check.gives_selectedParameter (separated : Separated met) {p : Parameter} (member : { parameter := p } ∈ met) :
    ∃ report, Gives met (selectedParameter d s p) report := by
  unfold selectedParameter
  dsimp only
  cases p.parentOption? with
  | some parent =>
    dsimp only
    split
    · exact ⟨_, gives_checkValue separated member _ _⟩
    · exact ⟨_, gives_pure _⟩
  | none =>
    cases resolvedValue? d s p with
    | some value => exact ⟨_, (gives_classify separated member).bind (gives_checkValue separated member _ _)⟩
    | none => exact ⟨_, (gives_classify separated member).bind (gives_pure _)⟩

theorem Check.gives_selectedParameters (separated : Separated met) {ps : List Parameter}
    (inside : ∀ p ∈ ps, { parameter := p } ∈ met) : ∃ report, Gives met (selectedParameters d s ps) report := by
  induction ps with
  | nil => exact ⟨{}, gives_pure _⟩
  | cons p rest ih =>
    obtain ⟨member, others⟩ := List.forall_mem_cons.1 inside
    obtain ⟨first, gives⟩ := gives_selectedParameter (d := d) (s := s) separated member
    obtain ⟨later, more⟩ := ih others
    exact ⟨first ++ later, gives.bind (more.map (first ++ ·))⟩

/-- The findings with those about the command, if one is to be run. -/
def Check.conclude (d : Definition) (s : Selection) (found : Report) : Except BuildError Report :=
  if s.mode == .executable then (executable d s found).map (found ++ ·) else .ok found

theorem Definition.run_checkBuildWith (d : Definition) (s : Selection) (c : Classifier) :
    (d.checkBuildWith s).run.run c =
      match Build.checkReferences d s with
      | .error e => (.error e, c)
      | .ok _ =>
        let (parameters, c) := (Check.selectedParameters d s d.parameters).run c
        (Check.conclude d s (Check.findings d s parameters), c) := by
  unfold checkBuildWith Check.conclude
  cases Build.checkReferences d s with
  | error e => rfl
  | ok _ =>
    cases s.mode == .executable with
    | false => rfl
    | true =>
      let last (found : Report) : ExceptT BuildError (StateM Classifier) Report := do
        let made ← liftM (Check.executable d s found)
        return found ++ made
      have concluded (found : Report) (left : Classifier) :
          (last found).run.run left = ((Check.executable d s found).map (found ++ ·), left) := by
        unfold last
        cases Check.executable d s found <;> rfl
      exact concluded (Check.findings d s ((Check.selectedParameters d s d.parameters).run c).1)
        ((Check.selectedParameters d s d.parameters).run c).2

theorem Definition.gives_checkBuildWith (separated : Separated met) (inside : d.subjects ⊆ met) :
    ∃ result, Gives met (d.checkBuildWith s).run result := by
  obtain ⟨parameters, gives⟩ := Check.gives_selectedParameters (d := d) (s := s) separated fun p member =>
    inside (List.mem_map_of_mem member)
  cases references : Build.checkReferences d s with
  | error e => exact ⟨.error e, fun c recalls => by rw [run_checkBuildWith, references]; exact ⟨rfl, recalls⟩⟩
  | ok _ =>
    refine ⟨Check.conclude d s (Check.findings d s parameters), fun c recalls => ?_⟩
    obtain ⟨same, left⟩ := gives c recalls
    rw [run_checkBuildWith, references]
    exact ⟨congrArg (fun r => Check.conclude d s (Check.findings d s r)) same, left⟩

end

/-- The outcome without id and times. -/
def CreateOutcome.unstamped (o : CreateOutcome) : CreateOutcome :=
  { o with command? := o.command?.map fun d => { d with id? := none, createdAt? := none, updatedAt? := none } }

theorem FileReport.ofOutcome_unstamped (path : String) (o : CreateOutcome) :
    ofOutcome path o.unstamped = ofOutcome path o := rfl

namespace Session

variable {s t : Session} {met : List Subject}

/-- What the call classifies. -/
def Call.subjects : Call → List Subject
  | .build _ d _ => d.subjects
  | .classify p context => [⟨p, context⟩]
  | .create .. | .update .. | .clear .. | .read => []

/-- A selection that cannot be checked is an error. -/
def reportOf : Except BuildError Report → Report
  | .ok report => report
  | .error e => .error (.failure e.message) (some "general")

theorem buildReport_eq (s : Session) (d : Definition) (selection : Selection) :
    s.buildReport d selection =
      if s.settings.validation then
        (reportOf ((d.checkBuildWith selection).run.run s.classifier).1,
          ((d.checkBuildWith selection).run.run s.classifier).2)
      else ({}, s.classifier) := by
  unfold buildReport
  generalize (d.checkBuildWith selection).run.run s.classifier = checked
  obtain ⟨result, c⟩ := checked
  cases result <;> rfl

theorem buildReport_congr (separated : Separated met) {d : Definition} (inside : d.subjects ⊆ met)
    (same : s.settings = t.settings) (first : s.classifier.Recalls met) (second : t.classifier.Recalls met)
    (selection : Selection) :
    (s.buildReport d selection).1 = (t.buildReport d selection).1 ∧ (s.buildReport d selection).2.Recalls met := by
  obtain ⟨result, gives⟩ := d.gives_checkBuildWith (s := selection) separated inside
  obtain ⟨own, left⟩ := gives _ first
  rw [buildReport_eq, buildReport_eq, same, own, (gives _ second).1]
  split
  · exact ⟨rfl, left⟩
  · exact ⟨rfl, first⟩

theorem classifier_create (s : Session) (context : SessionContext) (stamp : Stamp) (d : Definition) :
    (s.create context stamp d).2.2.classifier = s.classifier := by
  rcases create_cases s context stamp d with ⟨_, _, _, _, _, _, after⟩ | ⟨_, _, after⟩ <;> rw [after]

theorem classifier_update (s : Session) (context : SessionContext) (stamp : Stamp) (id : String)
    (updates : List (String × Json)) : (s.update context stamp id updates).2.2.classifier = s.classifier := by
  rcases update_cases s context stamp id updates with ⟨_, _, _, _, _, _, after⟩ | ⟨_, _, after⟩ <;> rw [after]

theorem recalls_perform (separated : Separated met) {call : Call} (inside : call.subjects ⊆ met)
    (recalls : s.classifier.Recalls met) : (s.perform call).classifier.Recalls met := by
  cases call with
  | create context stamp d => rwa [perform, classifier_create]
  | update context stamp id updates => rwa [perform, classifier_update]
  | build stamp d selection => exact (buildReport_congr separated inside rfl recalls recalls selection).2
  | classify p context => exact (gives_classify (x := ⟨p, context⟩) separated (inside List.mem_cons_self) _ recalls).2
  | clear id? kind =>
    change (if id?.isNone && kind == .all then s.classifier.clear else s.classifier).Recalls met
    split
    · exact recalls_clear s.classifier met
    · exact recalls
  | read => exact recalls

theorem recalls_run (separated : Separated met) {calls : List Call} (inside : ∀ call ∈ calls, call.subjects ⊆ met)
    (recalls : s.classifier.Recalls met) : (s.run calls).classifier.Recalls met := by
  induction calls generalizing s with
  | nil => exact recalls
  | cons call rest ih =>
    obtain ⟨first, later⟩ := List.forall_mem_cons.1 inside
    exact ih later (recalls_perform separated first recalls)

/-- What is asked of a session without regard to what it remembers. -/
inductive Query where
  | create (context : SessionContext) (stamp : Stamp) (definition : Definition)
  | build (stamp : Stamp) (definition : Definition) (selection : Selection)
  | analyze (context : SessionContext) (command : String) (definition? : Option Definition) (options : AnalysisOptions)
  | suggest (definition : Definition) (selection : Selection)

inductive Reply where
  | created (outcome : CreateOutcome)
  | built (outcome : BuildOutcome)
  | analyzed (outcome : AnalysisOutcome)
  | suggested (suggestions : Suggestions)

def reply (s : Session) : Query → Reply
  | .create context stamp d => .created (s.create context stamp d).1
  | .build stamp d selection => .built (s.build stamp d selection).1
  | .analyze context command definition? options => .analyzed (s.analyze context command definition? options)
  | .suggest d selection => .suggested (.ofSelection d selection)

namespace Query

def subjects : Query → List Subject
  | .build _ d _ => d.subjects
  | .create .. | .analyze .. | .suggest .. => []

/-- The same query at another time, with another id for what is new. -/
def restamped (stamp : Stamp) : Query → Query
  | .create context _ d => .create context stamp d
  | .build _ d selection => .build stamp d selection
  | .analyze context command definition? options => .analyze context command definition? options
  | .suggest d selection => .suggest d selection

end Query

/-- The reply without ids and times. -/
def Reply.unstamped : Reply → Reply
  | .created outcome => .created outcome.unstamped
  | .built outcome => .built { outcome with moment := "" }
  | .analyzed outcome => .analyzed outcome
  | .suggested suggestions => .suggested suggestions

theorem create_congr (same : s.settings = t.settings) (context : SessionContext) (stamp : Stamp) (d : Definition) :
    (s.create context stamp d).1 = (t.create context stamp d).1 := by
  have options (asked : AnalysisOptions) : s.analysisOptions asked = t.analysisOptions asked := by
    rw [analysisOptions, same, analysisOptions]
  have report (d : Definition) (analysis : Analysis) :
      s.creationReport d analysis context = t.creationReport d analysis context := by
    rw [creationReport, same, creationReport]
  unfold create
  dsimp only
  rw [options, report]
  split <;> rfl

theorem build_congr {d : Definition} {selection : Selection}
    (found : (s.buildReport d selection).1 = (t.buildReport d selection).1) (stamp : Stamp) :
    (s.build stamp d selection).1 = (t.build stamp d selection).1 := by
  unfold build
  revert found
  generalize s.buildReport d selection = one
  generalize t.buildReport d selection = two
  obtain ⟨report, c⟩ := one
  obtain ⟨other, c'⟩ := two
  rintro (rfl : report = other)
  rfl

theorem analyze_congr (same : s.settings = t.settings) (context : SessionContext) (command : String)
    (definition? : Option Definition) (options : AnalysisOptions) :
    s.analyze context command definition? options = t.analyze context command definition? options := by
  unfold analyze analysisOptions
  rw [same]

theorem reply_congr (separated : Separated met) (same : s.settings = t.settings) (first : s.classifier.Recalls met)
    (second : t.classifier.Recalls met) {query : Query} (inside : query.subjects ⊆ met) :
    s.reply query = t.reply query := by
  cases query with
  | create context stamp d => exact congrArg Reply.created (create_congr same context stamp d)
  | build stamp d selection =>
    exact congrArg Reply.built (build_congr (buildReport_congr separated inside same first second selection).1 stamp)
  | analyze context command definition? options =>
    exact congrArg Reply.analyzed (analyze_congr same context command definition? options)
  | suggest d selection => rfl

theorem unstamped_restamped (s : Session) (query : Query) (stamp : Stamp) :
    (s.reply (query.restamped stamp)).unstamped = (s.reply query).unstamped := by
  cases query with
  | create context own d =>
    unfold Query.restamped reply create
    dsimp only
    split <;> rfl
  | build own d selection => rfl
  | analyze | suggest => rfl

theorem checkFile_congr (same : s.settings = t.settings) (stamp other : Stamp) (files : Files) (path : String) :
    (s.checkFile stamp files path).1 = (t.checkFile other files path).1 := by
  unfold checkFile
  cases files.definition path with
  | error e => rfl
  | ok d =>
    have alike := create_congr same {} stamp d
    have restamped := Reply.created.inj (t.unstamped_restamped (.create {} other d) stamp)
    change FileReport.ofOutcome path (s.create {} stamp d).1 = FileReport.ofOutcome path (t.create {} other d).1
    rw [alike, ← FileReport.ofOutcome_unstamped, restamped, FileReport.ofOutcome_unstamped]

theorem settings_checkFile (s : Session) (stamp : Stamp) (files : Files) (path : String) :
    (s.checkFile stamp files path).2.settings = s.settings := by
  unfold checkFile
  cases files.definition path with
  | error e => rfl
  | ok d => exact s.settings_perform (.create {} stamp d)

/-- The report on a file is the one of a session that has seen no other file. -/
theorem checkFiles_eq_map (same : s.settings = t.settings) (files : Files) (visits : List (String × Stamp))
    (stamp : Stamp) :
    (s.checkFiles files visits).1 = visits.map fun visit => (t.checkFile stamp files visit.1).1 := by
  induction visits generalizing s with
  | nil => rfl
  | cons visit rest ih =>
    obtain ⟨path, own⟩ := visit
    exact congrArg₂ List.cons (checkFile_congr same own stamp files path)
      (ih ((s.settings_checkFile own files path).trans same))

variable (settings : Settings) (calls : List Call)

/-- Whatever a session was called for, it replies like a new session with its settings: with the same id and time the
replies are equal, and otherwise they are up to ids and times. So a batch of files is reported on as if each file were
alone, in whatever order the files are taken. -/
theorem reply_run_eq_reply_ofSettings (query : Query) (stamp : Stamp)
    (separated : Separated (calls.flatMap Call.subjects ++ query.subjects)) :
    (((ofSettings settings).run calls).reply query = (ofSettings settings).reply query ∧
      (((ofSettings settings).run calls).reply (query.restamped stamp)).unstamped =
        ((ofSettings settings).reply query).unstamped) ∧
    ∀ (files : Files) (visits : List (String × Stamp)),
      (((ofSettings settings).run calls).checkFiles files visits).1 =
          visits.map (fun visit => ((ofSettings settings).checkFile stamp files visit.1).1) ∧
        ∀ order, order.Perm visits →
          (((ofSettings settings).run calls).checkFiles files order).1.Perm
            (((ofSettings settings).run calls).checkFiles files visits).1 := by
  have same : ((ofSettings settings).run calls).settings = (ofSettings settings).settings := settings_run ..
  have fresh (met : List Subject) : (ofSettings settings).classifier.Recalls met := recalls_ofCapacity 1024 met
  have equal : ((ofSettings settings).run calls).reply query = (ofSettings settings).reply query := by
    refine reply_congr separated same (recalls_run separated (fun call member => ?_) (fresh _)) (fresh _) ?_
    · exact fun x inside => List.mem_append_left _ (List.mem_flatMap.2 ⟨call, member, inside⟩)
    · exact List.subset_append_right ..
  refine ⟨⟨equal, by rw [unstamped_restamped, equal]⟩, fun files visits => ?_⟩
  refine ⟨checkFiles_eq_map same files visits stamp, fun order permuted => ?_⟩
  rw [checkFiles_eq_map same files order stamp, checkFiles_eq_map same files visits stamp]
  exact permuted.map _

/-- A command with a port, which was built before and is built again when other things were asked for. -/
theorem reply_run_eq_reply_ofSettings_listen :
    let d : Definition := { name := "listen", command := "nc -l \x7b\x7bport\x7d\x7d", parameters := [port.parameter] }
    let selection : Selection := { mode := .executable, parameterValues := SortedList.empty.insert ("port", "80") }
    let calls : List Call := [.build ⟨"t1", "a"⟩ d selection, .classify host.parameter host.context,
      .create {} ⟨"t2", "b"⟩ d, .clear none .build]
    let query : Query := .build ⟨"t3", "c"⟩ d selection
    Separated (calls.flatMap Call.subjects ++ query.subjects) ∧
      ((ofSettings {}).run calls).reply query = (ofSettings {}).reply query ∧
      ((ofSettings {}).build ⟨"t3", "c"⟩ d selection).1.built? = some "nc -l 80" := by
  intro d selection calls query
  have separated : Separated (calls.flatMap Call.subjects ++ query.subjects) :=
    separated_of_key_ne key_port_ne_host (by decide)
  refine ⟨separated, (reply_run_eq_reply_ofSettings {} calls query ⟨"t4", "d"⟩ separated).1.1, ?_⟩
  decide +kernel

end Session

end ShellTemplate
