import ShellTemplate.Text.Blank
import ShellTemplate.Token.Segment

namespace ShellTemplate

/-- What quotes a place inside a word. -/
inductive QuoteContext where
  | unquoted
  | single
  | double
deriving DecidableEq, Repr, Inhabited

namespace QuoteContext

/-- A quote opens a run of its kind, and the same quote closes it. -/
def step (context : QuoteContext) (c : Char) : QuoteContext :=
  match context with
  | .unquoted => if c == '\'' then .single else if c == '"' then .double else .unquoted
  | .single => if c == '\'' then .unquoted else .single
  | .double => if c == '"' then .unquoted else .double

/-- The context after as many bytes as `ahead`, where the characters begin in the given context. A
backslash outside single quotes hides the next character. -/
def after (context : QuoteContext) (ahead : Nat) : List Char → QuoteContext
  | [] => context
  | [c] => if ahead = 0 then context else step context c
  | c :: d :: rest =>
    if ahead = 0 then context
    else if c == '\\' && context != .single then after context (ahead - c.utf8Size - d.utf8Size) rest
    else after (step context c) (ahead - c.utf8Size) (d :: rest)

/-- The context at a byte of a word. -/
def atByte (text : String) (offset : Nat) : QuoteContext :=
  after .unquoted offset text.toList

def name : QuoteContext → String
  | .unquoted => "unquoted"
  | .single => "single"
  | .double => "double"

/-- The characters that make an unquoted value need quotes, beside the blanks. -/
def isSpecial (c : Char) : Bool :=
  ['<', '>', '"', '\'', '|', '&', ';', '(', ')', '$', '\x60', '\\', '*', '?', '#', '~', '\x7b',
    '\x7d'].contains c

def escapeDouble (cs : List Char) : List Char :=
  cs.flatMap fun c => if Segment.isEscapable c then ['\\', c] else [c]

/-- A single quote inside single quotes: the run is closed, the quote escaped, and a run opened. -/
def escapeSingle (cs : List Char) : List Char :=
  cs.flatMap fun c => if c == '\'' then ['\'', '\\', '\'', '\''] else [c]

/-- Writes a value so that it is read back as it is in the context. -/
def escape (context : QuoteContext) (value : String) : String :=
  let cs := value.toList
  match context with
  | .unquoted =>
    if cs.any fun c => Text.isBlank c || isSpecial c then
      String.ofList ('"' :: (escapeDouble cs ++ ['"']))
    else value
  | .double => String.ofList (escapeDouble cs)
  | .single => String.ofList (escapeSingle cs)

end QuoteContext

end ShellTemplate
