import ShellTemplate.Classifier
import ShellTemplate.Proofs.JsonContract

namespace ShellTemplate

namespace Digest

/-- No two of the byte strings have one digest. -/
def Separates (strings : List (List UInt8)) : Prop :=
  ∀ a ∈ strings, ∀ b ∈ strings, hex a = hex b → a = b

end Digest

theorem toList_byteArray (bytes : ByteArray) : bytes.toList = bytes.data.toList := by
  have loop (i : Nat) (read : List UInt8) :
      ByteArray.toList.loop bytes i read = read.reverse ++ bytes.data.toList.drop i := by
    induction i, read using ByteArray.toList.loop.induct bytes with
    | case1 i read inside ih =>
      have bound : i < bytes.data.toList.length := inside
      have first : bytes.get! i = bytes.data.toList[i] := by
        rw [ByteArray.get!, getElem!_pos bytes.data i inside, Array.getElem_toList]
      rw [ByteArray.toList.loop, if_pos inside, ih, List.reverse_cons, List.append_assoc, List.drop_eq_getElem_cons bound,
        first, List.singleton_append]
    | case2 i read outside =>
      have bound : bytes.data.toList.length ≤ i := Nat.le_of_not_lt outside
      rw [ByteArray.toList.loop, if_neg outside, List.drop_eq_nil_of_le bound, List.append_nil]
  exact loop 0 []

theorem utf8_injective {s t : String} (same : s.toUTF8.toList = t.toUTF8.toList) : s = t := by
  rw [toList_byteArray, toList_byteArray] at same
  exact String.toByteArray_inj.1 (ByteArray.ext (Array.toList_inj.1 same))

open Json

theorem ClassificationContext.isExact_toJson (c : ClassificationContext) : c.toJson.IsExact := by
  simp [toJson]

theorem ClassificationContext.toJson_injective {c c' : ClassificationContext} (same : c.toJson = c'.toJson) :
    c = c' := by
  obtain ⟨first?⟩ := c
  obtain ⟨second?⟩ := c'
  cases first? <;> cases second? <;> simp_all [toJson, memberIf]

theorem Parameter.toJson_injective {p q : Parameter} (same : p.toJson = q.toJson) : p = q := by
  have read := inverts_decoder.encoded p
  rw [same, inverts_decoder.encoded q] at read
  exact (Except.ok.inj read).symm

namespace Classifier

/-- What a classification is about. -/
structure Subject where
  parameter : Parameter
  context : ClassificationContext := {}
deriving DecidableEq

namespace Subject

/-- The written form that the digest of a subject is taken of. -/
def bytes (x : Subject) : List UInt8 :=
  (Json.array [x.parameter.toJson, x.context.toJson]).compact.toUTF8.toList

def key (x : Subject) : String :=
  contentHash x.parameter x.context

def classification (x : Subject) : Classification :=
  .ofParameter x.parameter x.context

/-- Subjects with one written form are one. -/
theorem bytes_injective {x y : Subject} (same : x.bytes = y.bytes) : x = y := by
  have exact (z : Subject) : (Json.array [z.parameter.toJson, z.context.toJson]).IsExact := by
    simp [ClassificationContext.isExact_toJson]
  have json := (exact x).eq_of_compact (exact y) (utf8_injective same)
  simp only [Json.array.injEq, List.cons.injEq, and_true] at json
  obtain ⟨p, context⟩ := x
  obtain ⟨q, other⟩ := y
  obtain rfl := Parameter.toJson_injective json.1
  obtain rfl := ClassificationContext.toJson_injective json.2
  rfl

end Subject

/-- No two of the subjects have one digest. -/
def Separated (met : List Subject) : Prop :=
  Digest.Separates (met.map Subject.bytes)

variable {met : List Subject} {x y : Subject} {c : Classifier}

theorem Separated.eq_of_key (separated : Separated met) (first : x ∈ met) (second : y ∈ met) (same : x.key = y.key) :
    x = y :=
  Subject.bytes_injective (separated _ (List.mem_map_of_mem first) _ (List.mem_map_of_mem second) same)

/-- Every entry is the classification of a subject that was met, under the key of that subject. -/
def Recalls (c : Classifier) (met : List Subject) : Prop :=
  ∀ entry ∈ c.entries, ∃ x ∈ met, entry = (x.key, x.classification)

theorem recalls_ofCapacity (capacity : Nat) (met : List Subject) : (ofCapacity capacity).Recalls met :=
  fun _ member => absurd member List.not_mem_nil

theorem recalls_clear (c : Classifier) (met : List Subject) : c.clear.Recalls met :=
  fun _ member => absurd member List.not_mem_nil

theorem Recalls.keep (recalls : c.Recalls met) (member : x ∈ met) : (c.keep x.key x.classification).Recalls met := by
  refine List.forall_mem_cons.2 ⟨⟨x, member, rfl⟩, fun entry inside => ?_⟩
  split at inside
  · exact recalls entry inside
  · contradiction

theorem Recalls.eq_of_lookup (separated : Separated met) (recalls : c.Recalls met) (member : x ∈ met)
    {known : Classification} (found : c.entries.lookup x.key = some known) : known = x.classification := by
  obtain ⟨y, other, same⟩ := recalls _ (mem_of_lookup found)
  obtain ⟨keys, rfl⟩ := Prod.mk.inj same
  rw [separated.eq_of_key member other keys]

section

variable {α β : Type} {m : StateM Classifier α} {a : α}

/-- The computation has one result for all classifiers that recall subjects among these, and it leaves such a one. -/
def Gives (met : List Subject) (m : StateM Classifier α) (a : α) : Prop :=
  ∀ c : Classifier, c.Recalls met → (m.run c).1 = a ∧ (m.run c).2.Recalls met

theorem gives_pure (a : α) : Gives met (pure a) a := fun _ recalls => ⟨rfl, recalls⟩

theorem Gives.bind (first : Gives met m a) {next : α → StateM Classifier β} {b : β} (second : Gives met (next a) b) :
    Gives met (m >>= next) b := by
  intro c recalls
  obtain ⟨result, left⟩ := first c recalls
  change ((next (m.run c).1).run (m.run c).2).1 = b ∧ ((next (m.run c).1).run (m.run c).2).2.Recalls met
  rw [result]
  exact second _ left

theorem Gives.map (first : Gives met m a) (f : α → β) : Gives met (do return f (← m)) (f a) :=
  first.bind (gives_pure (f a))

/-- What is known stays; what is not is classified and kept. -/
theorem run_classify (x : Subject) (c : Classifier) :
    (classify x.parameter x.context).run c =
      match c.entries.lookup x.key with
      | some known => (known, c)
      | none => (x.classification, c.keep x.key x.classification) := by
  simp only [classify, StateT.run_bind, StateT.run_get, pure_bind, Subject.key, Subject.classification]
  cases c.entries.lookup (contentHash x.parameter x.context) <;> rfl

theorem gives_classify (separated : Separated met) (member : x ∈ met) :
    Gives met (classify x.parameter x.context) x.classification := by
  intro c recalls
  rw [run_classify]
  cases found : c.entries.lookup x.key with
  | some known => exact ⟨recalls.eq_of_lookup separated member found, recalls⟩
  | none => exact ⟨rfl, recalls.keep member⟩

/-- What is said about a value, given the classification of its parameter. -/
def valueReport (x : Subject) (value? : Option String) (active : Bool) : Report :=
  match value?.filter fun value => !Text.isBlankText value with
  | some value => Check.value x.parameter.name x.parameter.valueType x.parameter.choices value
  | none =>
    .guarded (needsValue x.classification.rules.mustHaveValue active)
      (.error (.missingRequiredValue x.parameter.name) (some x.parameter.name))

theorem gives_checkValue (separated : Separated met) (member : x ∈ met) (value? : Option String) (active : Bool) :
    Gives met (checkValue x.parameter value? x.context active) (valueReport x value? active) := by
  refine (gives_classify separated member).bind ?_
  unfold valueReport
  cases value?.filter fun value => !Text.isBlankText value with
  | some value => exact gives_pure _
  | none => exact gives_pure _

end

/-- What a classifier is asked for. -/
inductive Request where
  | classify (subject : Subject)
  | checkValue (subject : Subject) (value? : Option String) (active : Bool)
  | clear

inductive Answer where
  | classified (classification : Classification)
  | checked (report : Report)
  | cleared
deriving DecidableEq

namespace Request

def subject? : Request → Option Subject
  | .classify x => some x
  | .checkValue x .. => some x
  | .clear => none

def perform : Request → StateM Classifier Answer
  | .classify x => do return .classified (← Classifier.classify x.parameter x.context)
  | .checkValue x value? active => do return .checked (← Classifier.checkValue x.parameter value? x.context active)
  | .clear => do
    modify Classifier.clear
    return .cleared

/-- What the answer is when nothing was asked before: a classification is that of the subject, and a value is checked by
a new classifier with room for so many entries. -/
def alone (fresh : Nat) : Request → Answer
  | .classify x => .classified (Classification.ofParameter x.parameter x.context)
  | .checkValue x value? active =>
    .checked ((Classifier.checkValue x.parameter value? x.context active).run (ofCapacity fresh)).1
  | .clear => .cleared

end Request

theorem separated_singleton (x : Subject) : Separated [x] := by
  intro a first b second _
  rw [List.mem_singleton.1 first, List.mem_singleton.1 second]

theorem gives_perform (separated : Separated met) {request : Request} (inside : ∀ x ∈ request.subject?, x ∈ met)
    (fresh : Nat) : Gives met request.perform (request.alone fresh) := by
  cases request with
  | classify x => exact (gives_classify separated (inside x rfl)).map Answer.classified
  | checkValue x value? active =>
    have alone := gives_checkValue (separated_singleton x) List.mem_cons_self value? active
    rw [Request.alone, (alone _ (recalls_ofCapacity fresh [x])).1]
    exact (gives_checkValue separated (inside x rfl) value? active).map Answer.checked
  | clear => exact fun c _ => ⟨rfl, recalls_clear c met⟩

theorem gives_mapM (separated : Separated met) {requests : List Request}
    (inside : ∀ request ∈ requests, ∀ x ∈ request.subject?, x ∈ met) (fresh : Nat) :
    Gives met (requests.mapM Request.perform) (requests.map (Request.alone fresh)) := by
  induction requests with
  | nil => exact gives_pure []
  | cons request rest ih =>
    obtain ⟨first, later⟩ := List.forall_mem_cons.1 inside
    rw [List.mapM_cons]
    exact (gives_perform separated first fresh).bind ((ih later).map _)

/-- No more entries are kept than there is room for. -/
def Fits (c : Classifier) : Prop :=
  c.size ≤ c.capacity

theorem fits_keep (c : Classifier) (key : String) (classification : Classification) :
    (c.keep key classification).Fits := by
  have room := c.capacity_pos
  change (List.length (if c.size < c.capacity then c.entries else [])) + 1 ≤ c.capacity
  split
  · rename_i less
    exact less
  · exact room

/-- The computation leaves the room as it is, and it does not keep more than there is room for. -/
def Bounded {α : Type} (m : StateM Classifier α) : Prop :=
  ∀ c : Classifier, c.Fits → (m.run c).2.capacity = c.capacity ∧ (m.run c).2.Fits

section

variable {α β : Type} {m : StateM Classifier α}

theorem bounded_pure (a : α) : Bounded (pure a) := fun _ fits => ⟨rfl, fits⟩

theorem Bounded.bind (first : Bounded m) {next : α → StateM Classifier β} (second : ∀ a, Bounded (next a)) :
    Bounded (m >>= next) := by
  intro c fits
  obtain ⟨same, still⟩ := first c fits
  obtain ⟨again, after⟩ := second (m.run c).1 _ still
  exact ⟨again.trans same, after⟩

theorem bounded_classify (x : Subject) : Bounded (classify x.parameter x.context) := by
  intro c fits
  rw [run_classify]
  cases c.entries.lookup x.key with
  | some known => exact ⟨rfl, fits⟩
  | none => exact ⟨rfl, fits_keep c _ _⟩

theorem bounded_checkValue (x : Subject) (value? : Option String) (active : Bool) :
    Bounded (checkValue x.parameter value? x.context active) := by
  refine (bounded_classify x).bind fun classification => ?_
  split <;> exact bounded_pure _

theorem bounded_perform (request : Request) : Bounded request.perform := by
  cases request with
  | classify x => exact (bounded_classify x).bind fun _ => bounded_pure _
  | checkValue x value? active => exact (bounded_checkValue x value? active).bind fun _ => bounded_pure _
  | clear => exact fun _ _ => ⟨rfl, Nat.zero_le _⟩

theorem bounded_mapM (requests : List Request) : Bounded (requests.mapM Request.perform) := by
  induction requests with
  | nil => exact bounded_pure _
  | cons request rest ih =>
    rw [List.mapM_cons]
    exact (bounded_perform request).bind fun _ => ih.bind fun _ => bounded_pure _

end

theorem capacity_ofCapacity (capacity : Nat) : (ofCapacity capacity).capacity = max 1 capacity := by
  simp only [ofCapacity]
  split <;> omega

/-- The subjects of requests. -/
def subjects (requests : List Request) : List Subject :=
  requests.filterMap Request.subject?

/-- Where no digests collide, every answer is what it is when nothing was asked before; and there are never more
entries than there is room for. -/
theorem answers_eq_alone (capacity fresh : Nat) (requests : List Request) (separated : Separated (subjects requests)) :
    ((requests.mapM Request.perform).run (ofCapacity capacity)).1 = requests.map (Request.alone fresh) ∧
      ∀ before, before <+: requests →
        ((before.mapM Request.perform).run (ofCapacity capacity)).2.size ≤ max 1 capacity := by
  constructor
  · have inside (request : Request) (member : request ∈ requests) (x : Subject) (about : x ∈ request.subject?) :
        x ∈ subjects requests := List.mem_filterMap.2 ⟨request, member, about⟩
    exact (gives_mapM separated inside fresh _ (recalls_ofCapacity capacity _)).1
  · intro before _
    obtain ⟨same, fits⟩ := bounded_mapM before (ofCapacity capacity) (Nat.zero_le _)
    rw [← capacity_ofCapacity, ← same]
    exact fits

theorem separated_of_key_ne (differ : x.key ≠ y.key) (inside : ∀ z ∈ met, z = x ∨ z = y) : Separated met := by
  intro a first b second same
  obtain ⟨z, known, rfl⟩ := List.mem_map.1 first
  obtain ⟨w, also, rfl⟩ := List.mem_map.1 second
  have keys : z.key = w.key := same
  rcases inside z known with rfl | rfl <;> rcases inside w also with rfl | rfl
  · rfl
  · exact absurd keys differ
  · exact absurd keys.symm differ
  · rfl

/-- A port that may be given, and a host that must. -/
def port : Subject where
  parameter := { name := "port", valueType := .number }

def host : Subject where
  parameter := { name := "host", required? := some true }
  context := { subcommand? := some "connect" }

theorem key_port_ne_host : port.key ≠ host.key := by
  change Digest.hex (String.toUTF8 _).toList ≠ Digest.hex (String.toUTF8 _).toList
  rw [toList_byteArray, toList_byteArray]
  decide +kernel

def portAndHost : List Request :=
  [.classify port, .checkValue host none false, .classify port, .clear, .checkValue port (some "x") false]

/-- With room for one entry, the second subject drives out the first, which is then classified anew. -/
theorem answers_portAndHost :
    Separated (subjects portAndHost) ∧
      ((portAndHost.mapM Request.perform).run (ofCapacity 0)).1 =
        [.classified port.classification, .checked (.error (.missingRequiredValue "host") (some "host")),
          .classified port.classification, .cleared,
          .checked (.error (.invalidValue "port" .number "x") (some "port"))] ∧
      ∀ before, before <+: portAndHost → ((before.mapM Request.perform).run (ofCapacity 0)).2.size ≤ 1 := by
  have separated : Separated (subjects portAndHost) := separated_of_key_ne key_port_ne_host (by decide)
  obtain ⟨answers, sizes⟩ := answers_eq_alone 0 1024 portAndHost separated
  have alone : portAndHost.map (Request.alone 1024) =
      [.classified port.classification, .checked (.error (.missingRequiredValue "host") (some "host")),
        .classified port.classification, .cleared,
        .checked (.error (.invalidValue "port" .number "x") (some "port"))] := by decide
  exact ⟨separated, answers.trans alone, sizes⟩

end Classifier

end ShellTemplate
