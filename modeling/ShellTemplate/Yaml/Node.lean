import ShellTemplate.Yaml.Token.Lexer

namespace ShellTemplate.Yaml

/-- A value of a document. An alias stands for the node with the given number. -/
inductive Node where
  | scalar (s : Scalar)
  | sequence (items : List Node)
  | mapping (entries : List (Node × Node))
  | alias (number : Nat)

/-- The root of a stream, if it has a document, and what each number stands for. A collection that has a
number is kept without its parts, as an alias of it may be one of them. -/
structure Document where
  root? : Option Node
  numbered : List (Nat × Node)

namespace Document

/-- The node that an alias stands for; any other node stands for itself. -/
def resolve? (d : Document) : Node → Option Node
  | .alias number => d.numbered.lookup number
  | node => some node

end Document

namespace Node

def empty : Node :=
  .scalar (.empty none)

/-- What is known while tokens are read. -/
structure Reading where
  tokens : List Token
  shorthands : List (String × String) := []
  /-- The number that each anchor has now. -/
  names : List (String × Nat) := []
  /-- What the numbers stand for, the newest first. -/
  numbered : List (Nat × Node) := []

abbrev Reader := StateT Reading Option

namespace Reader

def peek : Reader (Option Token) :=
  return (← get).tokens.head?

def skip : Reader Unit :=
  modify fun r => { r with tokens := r.tokens.drop 1 }

/-- Whether one of the tokens comes next. -/
def sees (ts : List Token) : Reader Bool :=
  return (← peek).any ts.contains

/-- Passes the token if it comes next. -/
def skipIf (t : Token) : Reader Bool := do
  let found ← sees [t]
  if found then skip
  return found

/-- Gives a node to an anchor. The number is that of the different anchors before it, so that a second use
of a name may take the number of another one. -/
def record (anchor? : Option String) (node : Node) : Reader Unit :=
  match anchor? with
  | none => return ()
  | some name => modify fun r =>
    let number := r.names.length
    { r with
      names := (name, number) :: r.names.filter (·.1 != name)
      numbered := (number, node) :: r.numbered }

def anchor? : Reader (Option String) := do
  match ← peek with
  | some (.anchor name) => skip; return some name
  | _ => return none

/-- A tag in full. A handle is the one of a shorthand. -/
def tag? : Reader (Option String) := do
  match ← peek with
  | some (.tag handle suffix) =>
    skip
    if handle.isEmpty then return some suffix
    else
      match (← get).shorthands.lookup handle with
      | some expansion => return some (expansion ++ suffix)
      | none => failure
  | _ => return none

/-- An anchor and a tag, in either order. -/
def properties : Reader (Option String × Option String) := do
  match ← anchor? with
  | some name => return (some name, ← tag?)
  | none => do
    let tag? ← tag?
    return (← anchor?, tag?)

mutual

/-- A node. Block collections do not stand inside brackets, and a sequence that is the value of a key needs
no indentation. The number of nested steps is bounded. -/
def node (steps : Nat) (block keyed : Bool) : Reader Node := do
  match steps with
  | 0 => failure
  | steps + 1 =>
    match ← peek with
    | some (.alias name) =>
      skip
      match (← get).names.lookup name with
      | some number => return .alias number
      | none => failure
    | _ =>
      let (anchor?, tag?) ← properties
      match ← peek, block, keyed with
      | some .blockEntry, _, true =>
        record anchor? (.sequence [])
        return .sequence (← keyedSequence steps)
      | some (.scalar style text), _, _ =>
        skip
        let node := Node.scalar ⟨style, tag?, text⟩
        record anchor? node
        return node
      | some .flowSequence, _, _ =>
        skip
        record anchor? (.sequence [])
        return .sequence (← flowSequence steps true)
      | some .flowMapping, _, _ =>
        skip
        record anchor? (.mapping [])
        return .mapping (← flowMapping steps true)
      | some .blockSequence, true, _ =>
        skip
        record anchor? (.sequence [])
        return .sequence (← blockSequence steps)
      | some .blockMapping, true, _ =>
        skip
        record anchor? (.mapping [])
        return .mapping (← blockMapping steps)
      | _, _, _ =>
        if anchor?.isNone && tag?.isNone then failure
        else
          let node := Node.scalar (.empty tag?)
          record anchor? node
          return node

/-- A node in a block, or an empty one before tokens that no node begins with. -/
def blockPart (steps : Nat) (keyed : Bool) (stops : List Token) : Reader Node := do
  match steps with
  | 0 => failure
  | steps + 1 => if ← sees stops then return .empty else node steps true keyed

/-- A node inside brackets, or an empty one. -/
def flowPart (steps : Nat) (stops : List Token) : Reader Node := do
  match steps with
  | 0 => failure
  | steps + 1 => if ← sees stops then return .empty else node steps false false

def blockSequence (steps : Nat) : Reader (List Node) := do
  match steps with
  | 0 => failure
  | steps + 1 =>
    if ← skipIf .blockEnd then return []
    else if ← skipIf .blockEntry then
      let item ← blockPart steps false [.blockEntry, .blockEnd]
      return item :: (← blockSequence steps)
    else failure

/-- A sequence that ends without a token of its own. -/
def keyedSequence (steps : Nat) : Reader (List Node) := do
  match steps with
  | 0 => failure
  | steps + 1 =>
    if ← skipIf .blockEntry then
      let item ← blockPart steps false [.blockEntry, .key, .value, .blockEnd]
      return item :: (← keyedSequence steps)
    else return []

def blockMapping (steps : Nat) : Reader (List (Node × Node)) := do
  match steps with
  | 0 => failure
  | steps + 1 =>
    if ← skipIf .blockEnd then return []
    else if ← skipIf .key then
      let stops := [Token.key, .value, .blockEnd]
      let key ← blockPart steps true stops
      let value ← if ← skipIf .value then blockPart steps true stops else pure .empty
      return (key, value) :: (← blockMapping steps)
    else failure

/-- A mapping of one entry among the items of a sequence. Where the key is left out, the token after it is
passed over. -/
def flowPair (steps : Nat) : Reader (Node × Node) := do
  match steps with
  | 0 => failure
  | steps + 1 =>
    let key ←
      if ← sees [.value, .flowEntry, .flowSequenceEnd] then
        skip
        pure .empty
      else node steps false false
    let value ←
      if ← skipIf .value then flowPart steps [.flowEntry, .flowSequenceEnd] else pure .empty
    return (key, value)

/-- The items of a sequence in brackets. A comma may stand after the last one. -/
def flowSequence (steps : Nat) (first : Bool) : Reader (List Node) := do
  match steps with
  | 0 => failure
  | steps + 1 =>
    if ← skipIf .flowSequenceEnd then return []
    else
      let parted ← if first then pure true else skipIf .flowEntry
      if !parted then failure
      else if ← skipIf .key then
        let pair ← flowPair steps
        return .mapping [pair] :: (← flowSequence steps false)
      else if ← skipIf .flowSequenceEnd then return []
      else
        let item ← node steps false false
        return item :: (← flowSequence steps false)

/-- The entries of a mapping in brackets. An entry may be a key alone. -/
def flowMapping (steps : Nat) (first : Bool) : Reader (List (Node × Node)) := do
  match steps with
  | 0 => failure
  | steps + 1 =>
    if ← skipIf .flowMappingEnd then return []
    else
      let parted ← if first then pure true else skipIf .flowEntry
      if !parted then failure
      else if ← skipIf .key then
        let key ← flowPart steps [.value, .flowEntry, .flowMappingEnd]
        let value ←
          if ← skipIf .value then flowPart steps [.flowEntry, .flowMappingEnd] else pure .empty
        return (key, value) :: (← flowMapping steps false)
      else if ← skipIf .flowMappingEnd then return []
      else
        let key ← node steps false false
        return (key, .empty) :: (← flowMapping steps false)

end

/-- The directives before a document: a version at most, and shorthands, each handle once. -/
def directives (versioned : Bool) : List Token → Option (List (String × String) × List Token)
  | .version major minor :: rest =>
    if versioned || major ≠ 1 || (minor ≠ 1 && minor ≠ 2) then none else directives true rest
  | .shorthand handle expansion :: rest => do
    let (shorthands, rest) ← directives versioned rest
    if (shorthands.lookup handle).isSome then none else some ((handle, expansion) :: shorthands, rest)
  | rest => some ([], rest)

/-- The handles that need no directive. -/
def usualShorthands : List (String × String) :=
  [("!", "!"), ("!!", "tag:yaml.org,2002:")]

def isDirective : Token → Bool
  | .version .. | .shorthand .. => true
  | _ => false

/-- The root of the first document, if there is one. Without a mark before it, it has no directives and
is not empty. -/
def root? : Reader (Option Node) := do
  let ts := (← get).tokens
  let steps := 4 * ts.length + 4
  match ts with
  | [] => return none
  | t :: _ =>
    if isDirective t || t == .documentStart then
      let (shorthands, rest) ← (directives false ts : Option _)
      modify fun r => { r with tokens := rest, shorthands := shorthands ++ usualShorthands }
      if !(← skipIf .documentStart) then failure
      else
        let next? ← peek
        if next?.all fun t => isDirective t || t == .documentStart || t == .documentEnd then
          return some .empty
        else return some (← node steps true false)
    else
      modify fun r => { r with shorthands := usualShorthands }
      return some (← node steps true false)

end Reader

end Node

/-- The document of a stream, which has one at most. -/
def Document.ofText? (text : String) : Option Document := do
  let tokens ← Token.ofText? text
  let (root?, r) ← Node.Reader.root?.run { tokens }
  if r.tokens.all (· == .documentEnd) then some { root?, numbered := r.numbered } else none

end ShellTemplate.Yaml
