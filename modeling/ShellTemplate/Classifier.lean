import ShellTemplate.Check.Value
import ShellTemplate.Classification

namespace ShellTemplate

/-- Classifications that were asked for before, by content hash. -/
structure Classifier where
  capacity : Nat
  entries : List (String × Classification) := []
  capacity_pos : 0 < capacity

namespace Classifier

/-- An empty classifier, with room for one entry at least. -/
def ofCapacity (capacity : Nat) : Classifier where
  capacity := if capacity = 0 then 1 else capacity
  capacity_pos := by split <;> omega

def standard : Classifier :=
  ofCapacity 1024

instance : Inhabited Classifier := ⟨standard⟩

def size (c : Classifier) : Nat :=
  c.entries.length

def clear (c : Classifier) : Classifier :=
  { c with entries := [] }

/-- Keeps an entry; when there is no room left, the others go first. -/
def keep (c : Classifier) (key : String) (classification : Classification) : Classifier :=
  { c with entries := (key, classification) :: if c.size < c.capacity then c.entries else [] }

def classify (p : Parameter) (context : ClassificationContext) : StateM Classifier Classification := do
  let key := contentHash p context
  match (← get).entries.lookup key with
  | some known => return known
  | none =>
    let classification := Classification.ofParameter p context
    modify (·.keep key classification)
    return classification

/-- Whether a value must be present, given whether the parameter's condition holds. -/
def needsValue (policy : ValuePolicy) (active : Bool) : Bool :=
  match policy with
  | .always => true
  | .conditional => active
  | .never => false

/-- Checks a value against the classification and type of its parameter; a blank value is none. -/
def checkValue (p : Parameter) (value? : Option String) (context : ClassificationContext)
    (active : Bool) : StateM Classifier Report := do
  let classification ← classify p context
  match value?.filter fun value => !Text.isBlankText value with
  | some value => return Check.value p.name p.valueType p.choices value
  | none =>
    return .guarded (needsValue classification.rules.mustHaveValue active)
      (.error (.missingRequiredValue p.name) (some p.name))

end Classifier

end ShellTemplate
