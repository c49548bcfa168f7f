import ShellTemplate.Check.Security
import ShellTemplate.Quoting
import ShellTemplate.Structure.Render
import ShellTemplate.Text.Digit

namespace ShellTemplate

namespace Check

/-- The braced runs of a text that are no placeholders, where they are not in single quotes: there
braces are meant for another tool. -/
def strayRuns (text : String) : List String :=
  ((Placeholder.malformedRuns text).filter fun (_, span) =>
    QuoteContext.atByte text span.start != .single).map Prod.fst

def inCommand (issue : Issue) : Report :=
  .error issue (some "command")

def adviseCommand (issue : Issue) : Report :=
  .warning issue (some "command")

/-- Checks one operator against its neighbours: it must not lead, must not follow another operator
unless the pair is allowed, and may need a command after it. -/
def operator (previous? : Option Token) (t : Token) (isLast : Bool) : Report :=
  match Operator.ofSymbol? t.value with
  | none => {}
  | some op =>
    (match previous? with
      | none => .guarded op.rules.commandBefore (inCommand (.leadingSeparator t.value))
      | some previous =>
        .guarded (previous.isSeparator && !Operator.mayFollow previous.value t.value)
          (inCommand (.consecutiveSeparators previous.value t.value))) ++
      .guarded (isLast && op.rules.commandAfter) (adviseCommand (.danglingSeparator t.value))

def operators (previous? : Option Token) : List Token → Report
  | [] => {}
  | t :: rest =>
    .guarded t.isSeparator (operator previous? t rest.isEmpty) ++ operators (some t) rest

/-- One letter or digit or more after a hyphen, a letter first after two, two hyphens alone, or a
negative number. -/
def isOptionFlag : List Char → Bool
  | '-' :: '-' :: rest => rest.isEmpty || Text.isFlagName rest
  | '-' :: rest =>
    (!rest.isEmpty && rest.all Char.isAlphanum) ||
      match Text.splitFirst? (· == '.') rest with
      | some (whole, fraction) => Text.isDigits whole && Text.isDigits fraction
      | none => Text.isDigits rest
  | _ => false

/-- A flag with a placeholder in it is well formed. One with an inline value has a name after its
hyphens. -/
def isWellFormedOption (t : Token) : Bool :=
  let flag := t.flag.toList
  Text.holdsRun ['\x7b', '\x7b'] flag ||
    match t.inlineValue? with
    | some value => !value.isEmpty && Text.isFlag flag
    | none => isOptionFlag flag

/-- Each option must be well formed, and a repeated one is worth a warning. -/
def options (seen : List String) : List Token → Report
  | [] => {}
  | t :: rest =>
    .guarded (!isWellFormedOption t) (inCommand (.malformedOption t.text)) ++
      .guarded (seen.contains t.text) (adviseCommand (.duplicateOptionToken t.text)) ++
      options (t.text :: seen) rest

/-- The operators that may not be repeated in one component, but are; sorted. -/
def repeatedOperators (redirects : List Redirect) : List String :=
  let texts := redirects.map (·.operator.text)
  (texts.foldl (fun sorted text => insertSorted id text sorted) []).filter fun text =>
    1 < texts.count text && !(Operator.ofSymbol? (Operator.bare text)).all (·.canChain)

def component (index : Nat) (c : Component) : Report :=
  if c.isEmpty then {}
  else
    .guarded c.baseCommand?.isNone (inCommand (.missingBaseCommand index)) ++
    .concat (c.redirects.map fun r =>
      .guarded r.target?.isNone (inCommand (.missingRedirectTarget r.operator.value))) ++
    .concat ((repeatedOperators c.redirects).map fun text => adviseCommand (.repeatedOperator text)) ++
    .guarded (!c.trailing.isEmpty &&
        c.terminator?.any fun t => (Operator.ofSymbol? t.value).any (·.rules.endsCommand))
      (inCommand .backgroundNotTerminal) ++
    options [] c.options

def components (index : Nat) : List Component → Report
  | [] => {}
  | c :: rest => component index c ++ components (index + 1) rest

def token (t : Token) : Report :=
  .guarded t.flags.unterminatedQuote (adviseCommand (.unterminatedQuote t.text)) ++
    .concat ((strayRuns t.text).map fun run => adviseCommand (.malformedPlaceholder run))

/-- The two logic operators have the same precedence, so a chain of both deserves grouping. -/
def precedence (s : Structure) : Report :=
  let values := s.separators.map (·.value)
  .guarded (values.contains "&&" && values.contains "||")
    (.suggestion .mixedLogicChain (some "command"))

end Check

/-- Checks a structure, with security and precedence if asked for. -/
def Structure.check (s : Structure) (security precedence : Bool) : Report :=
  if s.isEmpty then Check.inCommand .emptyCommand
  else
    Check.operators none s.tokens ++ Check.components 0 s.components ++
      .concat (s.tokens.map Check.token) ++ .guarded precedence (Check.precedence s) ++
      .guarded security (Security.scan s.render s)

end ShellTemplate
