import ShellTemplate.Layout
import ShellTemplate.Quoting
import ShellTemplate.Selection
import ShellTemplate.Token.Lexer

namespace ShellTemplate

/-- Why a build cannot be done: the selection names what the definition does not declare, or a value is
missing. -/
inductive BuildError where
  | undeclaredOption (flag : String)
  | undeclaredParameter (name : String)
  | missingRequiredValue (name : String)
  | unknownSeparator (symbol : String)
deriving DecidableEq, Repr

def BuildError.message : BuildError → String
  | .undeclaredOption flag => s!"option is not declared by this command: {flag}"
  | .undeclaredParameter name => s!"parameter is not declared by this command: {name}"
  | .missingRequiredValue name => s!"missing required value for parameter '{name}'"
  | .unknownSeparator symbol => s!"unknown separator: {symbol}"

/-- Whether an occurrence of a placeholder must be filled. A plain one must unless its parameter is
declared optional; any other must if its parameter is required and it has no default of its own. -/
def Placeholder.mustBeFilled (p : Placeholder) (parameter? : Option Parameter) : Bool :=
  (p.isRequired && parameter?.all fun q => q.required? != some false) ||
    (parameter?.any (·.isRequired) && p.inlineDefault?.isNone)

/-- Whether a build needs a value for the parameter: one of its placeholders must be filled, or it is
required and the template never mentions it. -/
def Definition.needsValue (d : Definition) (p : Parameter) : Bool :=
  let occurrences := (Placeholder.scan d.command).filter (·.name == p.name)
  p.parentOption?.isNone &&
    if occurrences.isEmpty then p.isRequired else occurrences.any (·.mustBeFilled (some p))

/-- A separator token that is a control operator. -/
def Token.isControl (t : Token) : Bool :=
  t.isSeparator && (Operator.ofSymbol? t.value).any (·.isControl)

namespace Build

/-- The first option, parameter or operator of the selection that is not declared. -/
def checkReferences (d : Definition) (s : Selection) : Except BuildError Unit :=
  match (s.options.toList ++ s.optionValues.toList.map Prod.fst).find? fun flag =>
    (d.findOption? flag).isNone with
  | some flag => .error (.undeclaredOption flag)
  | none =>
    match (s.parameterValues.toList.map Prod.fst).find? fun name => (d.findParameter? name).isNone with
    | some name => .error (.undeclaredParameter name)
    | none =>
      match s.trailing.find? fun segment => (Operator.ofSymbol? segment.symbol).isNone with
      | some segment => .error (.unknownSeparator segment.symbol)
      | none => .ok ()

/-- The declared default of a parameter, if defaults are to be used. -/
def fallback? (s : Selection) (p : Parameter) : Option String :=
  if s.useDefaults then p.fallback? else none

/-- The value of an option: its own, else that of the parameter that is bound to it. -/
def optionValue? (s : Selection) (o : CommandOption) (bound? : Option Parameter) : Option String :=
  (s.optionValue? o).or (bound?.bind fun p => (s.value? p.name).or (fallback? s p))

/-- The name under which the value of an option is asked for. -/
def valueName (o : CommandOption) (bound? : Option Parameter) : String :=
  match bound? with
  | some p => p.name
  | none => o.valueName

/-- What an occurrence of a placeholder stands for. -/
def occurrenceValue? (s : Selection) (p : Placeholder) (parameter? : Option Parameter) :
    Option String :=
  (s.value? p.name).or <|
    if s.useDefaults then p.inlineDefault?.or (parameter?.bind (·.fallback?)) else none

def escaped (s : Selection) (context : QuoteContext) (value : String) : String :=
  if s.escapeValues then context.escape value else value

/-- What stands for one occurrence of a placeholder inside a word. -/
def occurrenceText (d : Definition) (s : Selection) (word : String) (p : Placeholder) :
    Except BuildError String :=
  let parameter? := d.findParameter? p.name
  match occurrenceValue? s p parameter? with
  | some value => .ok (escaped s (.atByte word p.span.start) value)
  | none =>
    if !p.mustBeFilled parameter? then .ok ""
    else if s.validateRequired then .error (.missingRequiredValue p.name)
    else .ok (String.ofList (Placeholder.written p.name p.kind))

/-- A word with its placeholders replaced. The characters begin at byte `position` of the word. -/
def fillFrom (d : Definition) (s : Selection) (word : String) (position : Nat) (cs : List Char) :
    Except BuildError String :=
  match _found : Placeholder.leading? cs with
  | some (name, kind, after) => do
    let stop := position + Text.width (Placeholder.written name kind)
    let text ← occurrenceText d s word ⟨name, kind, ⟨position, stop⟩⟩
    return text ++ (← fillFrom d s word stop after)
  | none =>
    match cs with
    | [] => .ok ""
    | c :: rest => do return String.singleton c ++ (← fillFrom d s word (position + c.utf8Size) rest)
termination_by cs.length
decreasing_by
  · exact Placeholder.leading?_shorter _found
  · simp

/-- The text of a template word in the built command. In a template a word that is one placeholder is
shown anew, and any other word stays. -/
def wordText (d : Definition) (s : Selection) (t : Token) : Except BuildError String :=
  if !t.flags.isPlaceholder then .ok t.text
  else if s.mode == .template then
    match Placeholder.ofText? t.text with
    | some p => .ok (Placeholder.shown p.name (p.mustBeFilled (d.findParameter? p.name)))
    | none => .ok t.text
  else fillFrom d s t.text 0 t.text.toList

def word (text : String) : Piece :=
  ⟨text, false⟩

def tokenPiece (d : Definition) (s : Selection) (t : Token) : Except BuildError Piece :=
  if t.isSeparator then .ok ⟨t.text, true⟩ else (wordText d s t).map word

/-- The value of a selected option in the built command. -/
def optionText (d : Definition) (s : Selection) (o : CommandOption) : Except BuildError String :=
  let bound? := d.optionParameter? o
  let name := valueName o bound?
  if s.mode == .template then .ok (Placeholder.shown name true)
  else
    match optionValue? s o bound? with
    | some value => .ok (escaped s .unquoted value)
    | none =>
      if s.validateRequired then .error (.missingRequiredValue name)
      else .ok (Placeholder.shown name true)

/-- Whether one of the tokens spells the option. -/
def isSpelledIn (tokens : List Token) (o : CommandOption) : Bool :=
  tokens.any fun t => t.isOption && o.isSpelled t.flag

/-- The words of a selected option that the template does not spell out itself. -/
def optionPieces (d : Definition) (s : Selection) (first : List Token) (o : CommandOption) :
    Except BuildError (List Piece) :=
  match s.selectedSpelling? o with
  | none => .ok []
  | some spelling =>
    if isSpelledIn first o then .ok []
    else if o.hasValue then do return [word spelling, word (← optionText d s o)]
    else .ok [word spelling]

/-- The word of a parameter that the template never mentions. -/
def parameterText? (s : Selection) (p : Parameter) : Except BuildError (Option String) :=
  if s.mode == .template then .ok (some (Placeholder.shown p.name p.isRequired))
  else
    match (s.value? p.name).or (fallback? s p) with
    | some value => .ok (some (escaped s .unquoted value))
    | none =>
      if !p.isRequired then .ok none
      else if s.validateRequired then .error (.missingRequiredValue p.name)
      else .ok (some (Placeholder.shown p.name true))

/-- The parameters that the template never mentions and that are no option's value. -/
def unmentioned (d : Definition) : List Parameter :=
  let mentioned := Placeholder.names d.command
  d.parameters.filter fun p => p.parentOption?.isNone && !mentioned.contains p.name

/-- The leading words of a component that can name a command and hold no placeholder. -/
def isHeadWord (t : Token) : Bool :=
  t.isWord && !t.flags.isPlaceholder

/-- Adds the selected subcommands that neither the template nor the words so far hold. -/
def addSubcommands (s : Selection) (values : List String) (words : List String) : List String →
    List String
  | [] => words
  | name :: rest =>
    if values.contains name || words.contains name then addSubcommands s values words rest
    else addSubcommands s values (words ++ [escaped s .unquoted name]) rest

def trailingPieces (t : TrailingSegment) : List Piece :=
  ⟨t.symbol, true⟩ :: (t.target?.map fun target => word (Text.trim target)).toList

/-- The pieces of the built command: the head of the template, subcommands, options, the rest of the
first component, parameters that the template never mentions, the other components, and at last the
trailing segments. -/
def pieces (d : Definition) (s : Selection) : Except BuildError (List Piece) := do
  let tokens := Token.scan d.command
  let first := tokens.takeWhile fun t => !t.isControl
  let others := tokens.dropWhile fun t => !t.isControl
  let head := first.takeWhile isHeadWord
  let words := addSubcommands s (tokens.map (·.value)) (head.map (·.text)) s.subcommands
  let options ← d.options.mapM (optionPieces d s first)
  let rest ← (first.dropWhile isHeadWord).mapM (tokenPiece d s)
  let parameters ← (unmentioned d).mapM (parameterText? s)
  let tail ← others.mapM (tokenPiece d s)
  return words.map word ++ options.flatten ++ rest ++ (parameters.filterMap id).map word ++ tail ++
    s.trailing.flatMap trailingPieces

end Build

/-- The built command, or nothing in validation mode. -/
def Definition.build (d : Definition) (s : Selection) : Except BuildError (Option String) := do
  Build.checkReferences d s
  if s.mode == .validation then return none
  return some (Piece.join (← Build.pieces d s))

end ShellTemplate
