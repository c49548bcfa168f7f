import ShellTemplate.Text.Width

namespace ShellTemplate

/-- The control and redirect operators of a command line. -/
inductive Operator where
  | pipe
  | pipeAll
  | and
  | or
  | sequence
  | background
  | redirectOut
  | redirectAppend
  | redirectAll
  | redirectIn
  | hereDocument
  | duplicateOut
  | duplicateIn
deriving DecidableEq, Repr, Inhabited

inductive Operator.Family where
  | pipe
  | logic
  | sequence
  | background
  | redirect
deriving DecidableEq, Repr

inductive Operator.Side where
  | left
  | right
deriving DecidableEq, Repr

/-- Where an operator may stand. -/
structure Operator.Rules where
  commandBefore : Bool
  commandAfter : Bool
  /-- Nothing of the same component may follow. -/
  endsCommand : Bool
  /-- The next word is the target of the operator. -/
  takesTarget : Bool
deriving DecidableEq, Repr

/-- Whether a space stands before and after an operator. -/
structure Operator.Spacing where
  before : Bool
  after : Bool
deriving DecidableEq, Repr

namespace Operator

/-- Every operator, in the order of the registry. -/
def all : List Operator :=
  [.pipe, .pipeAll, .and, .or, .sequence, .background, .redirectOut, .redirectAppend, .redirectAll,
    .redirectIn, .hereDocument, .duplicateOut, .duplicateIn]

def symbol : Operator → String
  | .pipe => "|"
  | .pipeAll => "|&"
  | .and => "&&"
  | .or => "||"
  | .sequence => ";"
  | .background => "&"
  | .redirectOut => ">"
  | .redirectAppend => ">>"
  | .redirectAll => "&>"
  | .redirectIn => "<"
  | .hereDocument => "<<"
  | .duplicateOut => ">&"
  | .duplicateIn => "<&"

def family : Operator → Family
  | .pipe | .pipeAll => .pipe
  | .and | .or => .logic
  | .sequence => .sequence
  | .background => .background
  | .redirectOut | .redirectAppend | .redirectAll | .redirectIn | .hereDocument | .duplicateOut
  | .duplicateIn => .redirect

def name : Operator → String
  | .pipe => "pipe"
  | .pipeAll => "pipe-all"
  | .and => "and"
  | .or => "or"
  | .sequence => "sequence"
  | .background => "background"
  | .redirectOut => "redirect-out"
  | .redirectAppend => "redirect-append"
  | .redirectAll => "redirect-all"
  | .redirectIn => "redirect-in"
  | .hereDocument => "here-document"
  | .duplicateOut => "duplicate-out"
  | .duplicateIn => "duplicate-in"

def description : Operator → String
  | .pipe => "Send standard output to the next command"
  | .pipeAll => "Send standard output and standard error to the next command"
  | .and => "Run the next command only if the previous one succeeded"
  | .or => "Run the next command only if the previous one failed"
  | .sequence => "Run the next command after the previous one finishes"
  | .background => "Run the command in the background"
  | .redirectOut => "Write standard output to a file"
  | .redirectAppend => "Append standard output to a file"
  | .redirectAll => "Write standard output and standard error to a file"
  | .redirectIn => "Read standard input from a file"
  | .hereDocument => "Read standard input until a delimiter line"
  | .duplicateOut => "Point an output descriptor at another descriptor"
  | .duplicateIn => "Point an input descriptor at another descriptor"

def isRedirect (op : Operator) : Bool :=
  op.family == .redirect

/-- Control operators close the component before them. -/
def isControl (op : Operator) : Bool :=
  !op.isRedirect

/-- Whether the words after the operator belong to a new component; after `&` they do not. -/
def opensComponent (op : Operator) : Bool :=
  match op.family with
  | .pipe | .logic | .sequence => true
  | .background | .redirect => false

/-- A lower number binds tighter. -/
def precedence (op : Operator) : Nat :=
  match op.family with
  | .redirect => 0
  | .pipe => 1
  | .logic => 2
  | .sequence => 3
  | .background => 4

def associativity (op : Operator) : Side :=
  if op.isRedirect then .right else .left

/-- Whether the operator may occur twice in one component. -/
def canChain (op : Operator) : Bool :=
  op.opensComponent

def rules (op : Operator) : Rules :=
  match op.family with
  | .pipe | .logic => ⟨true, true, false, false⟩
  | .sequence => ⟨true, false, false, false⟩
  | .background => ⟨true, false, true, false⟩
  | .redirect => ⟨true, false, false, true⟩

/-- A semicolon follows its command at once, and a duplicated descriptor follows its operator at once. -/
def spacing : Operator → Spacing
  | .sequence => ⟨false, true⟩
  | .duplicateOut | .duplicateIn => ⟨true, false⟩
  | _ => ⟨true, true⟩

def ofSymbol? (text : String) : Option Operator :=
  all.find? (·.symbol == text)

theorem ofSymbol?_symbol (op : Operator) : ofSymbol? op.symbol = some op := by
  cases op <;> decide

theorem symbol_of_ofSymbol? {text : String} {op : Operator} (found : ofSymbol? text = some op) :
    op.symbol = text := by
  simpa using List.find?_some found

/-- The operator at the beginning of the characters; one of two characters wins over one of one. -/
def leading? (cs : List Char) : Option Operator :=
  match cs with
  | [] => none
  | [c] => ofSymbol? (String.ofList [c])
  | c :: d :: _ => ofSymbol? (String.ofList [c, d]) <|> ofSymbol? (String.ofList [c])

/-- The operator at a byte position of a text; none if a character does not begin there. -/
def at? (s : String) (position : Nat) : Option Operator :=
  (Text.dropBytes? position s.toList).bind leading?

/-- An operator word without the descriptor number before it. -/
def bare (word : String) : String :=
  String.ofList (word.toList.dropWhile Char.isDigit)

/-- Whether the second operator may follow the first at once. -/
def mayFollow (first second : String) : Bool :=
  first == "|" && second == "&"

end Operator

end ShellTemplate
