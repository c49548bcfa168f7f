import ShellTemplate.Json.Decimal
import ShellTemplate.Sorted

namespace ShellTemplate

/-- A JSON value. The members of an object stand as written, so a key may occur twice. -/
inductive Json where
  | null
  | boolean (value : Bool)
  | integer (value : Int)
  | decimal (value : Decimal)
  | text (value : String)
  | array (items : List Json)
  | object (members : List (String × Json))
  /-- A text with half of a surrogate pair, or an object with such a key. It is the value of no type, but
  it can be passed over. -/
  | garbled
deriving Repr, Inhabited

namespace Json

mutual

def decEq : (a b : Json) → Decidable (a = b)
  | .null, .null => isTrue rfl
  | .garbled, .garbled => isTrue rfl
  | .boolean x, .boolean y => decidable_of_iff (x = y) (by simp)
  | .integer x, .integer y => decidable_of_iff (x = y) (by simp)
  | .decimal x, .decimal y => decidable_of_iff (x = y) (by simp)
  | .text x, .text y => decidable_of_iff (x = y) (by simp)
  | .array xs, .array ys =>
    match decEqItems xs ys with
    | isTrue same => isTrue (by rw [same])
    | isFalse differ => isFalse fun same => differ (Json.array.inj same)
  | .object xs, .object ys =>
    match decEqMembers xs ys with
    | isTrue same => isTrue (by rw [same])
    | isFalse differ => isFalse fun same => differ (Json.object.inj same)
  | .null, .boolean _ | .null, .integer _ | .null, .decimal _ | .null, .text _ | .null, .array _
  | .null, .object _ | .null, .garbled | .boolean _, .null | .boolean _, .integer _
  | .boolean _, .decimal _ | .boolean _, .text _ | .boolean _, .array _ | .boolean _, .object _
  | .boolean _, .garbled | .integer _, .null | .integer _, .boolean _ | .integer _, .decimal _
  | .integer _, .text _ | .integer _, .array _ | .integer _, .object _ | .integer _, .garbled
  | .decimal _, .null | .decimal _, .boolean _ | .decimal _, .integer _ | .decimal _, .text _
  | .decimal _, .array _ | .decimal _, .object _ | .decimal _, .garbled | .text _, .null
  | .text _, .boolean _ | .text _, .integer _ | .text _, .decimal _ | .text _, .array _
  | .text _, .object _ | .text _, .garbled | .array _, .null | .array _, .boolean _
  | .array _, .integer _ | .array _, .decimal _ | .array _, .text _ | .array _, .object _
  | .array _, .garbled | .object _, .null | .object _, .boolean _ | .object _, .integer _
  | .object _, .decimal _ | .object _, .text _ | .object _, .array _ | .object _, .garbled
  | .garbled, .null | .garbled, .boolean _ | .garbled, .integer _ | .garbled, .decimal _
  | .garbled, .text _ | .garbled, .array _ | .garbled, .object _ => isFalse nofun

def decEqItems : (xs ys : List Json) → Decidable (xs = ys)
  | [], [] => isTrue rfl
  | [], _ :: _ | _ :: _, [] => isFalse nofun
  | x :: xs, y :: ys =>
    match decEq x y, decEqItems xs ys with
    | isTrue head, isTrue tail => isTrue (by rw [head, tail])
    | isFalse head, _ => isFalse fun same => head (List.cons.inj same).1
    | _, isFalse tail => isFalse fun same => tail (List.cons.inj same).2

def decEqMembers : (xs ys : List (String × Json)) → Decidable (xs = ys)
  | [], [] => isTrue rfl
  | [], _ :: _ | _ :: _, [] => isFalse nofun
  | (k, x) :: xs, (l, y) :: ys =>
    match decEq x y, decEqMembers xs ys with
    | isTrue head, isTrue tail =>
      decidable_of_iff (k = l) (by simp [head, tail])
    | isFalse head, _ => isFalse fun same => head (Prod.mk.inj (List.cons.inj same).1).2
    | _, isFalse tail => isFalse fun same => tail (List.cons.inj same).2

end

instance : DecidableEq Json := decEq

/-- The value of a key; nothing stands for an absent key and for a value that is no object. -/
def member? (key : String) : Json → Option Json
  | .object members => members.lookup key
  | _ => none

/-- A member that is left out when there is no value. -/
def memberIf {α : Type} (key : String) (encode : α → Json) : Option α → List (String × Json)
  | some value => [(key, encode value)]
  | none => []

/-- A list member that is left out when the list is empty. -/
def memberIfAny {α : Type} (key : String) (encode : α → Json) : List α → List (String × Json)
  | [] => []
  | values => [(key, .array (values.map encode))]

mutual

/-- The value with the members of every object sorted by key; of members with one key the last stays. -/
def sorted : Json → Json
  | .array items => .array (sortedItems items)
  | .object members => .object (sortedMembers [] members)
  | other => other

def sortedItems : List Json → List Json
  | [] => []
  | item :: rest => item.sorted :: sortedItems rest

def sortedMembers (done : List (String × Json)) : List (String × Json) → List (String × Json)
  | [] => done
  | (key, value) :: rest => sortedMembers (insertSorted Prod.fst (key, value.sorted) done) rest

end

end Json

end ShellTemplate
