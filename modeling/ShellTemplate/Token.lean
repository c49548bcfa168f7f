import ShellTemplate.Span
import ShellTemplate.Text.Blank

namespace ShellTemplate

inductive TokenKind where
  | argument
  | option
  | parameter
  | separator
  | quoted
  | path
deriving DecidableEq, Repr, Inhabited

/-- What the shape of a word tells apart from its kind. -/
structure TokenFlags where
  isShort : Bool := false
  isLong : Bool := false
  hasValue : Bool := false
  isRequired : Bool := false
  isOptional : Bool := false
  isVariadic : Bool := false
  isPlaceholder : Bool := false
  unterminatedQuote : Bool := false
deriving DecidableEq, Repr, Inhabited

/-- A word or operator of a command line: `text` is its source, `value` what remains after quotes and
escapes are taken away. -/
structure Token where
  kind : TokenKind
  text : String
  value : String
  span : Span
  flags : TokenFlags := {}
deriving DecidableEq, Repr, Inhabited

namespace TokenKind

def all : List TokenKind :=
  [.argument, .option, .parameter, .separator, .quoted, .path]

def name : TokenKind → String
  | .argument => "argument"
  | .option => "option"
  | .parameter => "parameter"
  | .separator => "separator"
  | .quoted => "quoted"
  | .path => "path"

def decoder : Decoder TokenKind :=
  .choice (all.map fun kind => (kind.name, kind))

end TokenKind

namespace TokenFlags

def toJson (f : TokenFlags) : Json :=
  .object [("is_short", .boolean f.isShort), ("is_long", .boolean f.isLong),
    ("has_value", .boolean f.hasValue), ("is_required", .boolean f.isRequired),
    ("is_optional", .boolean f.isOptional), ("is_variadic", .boolean f.isVariadic),
    ("is_placeholder", .boolean f.isPlaceholder), ("unterminated_quote", .boolean f.unterminatedQuote)]

def record : Record TokenFlags :=
  mk <$> .required "is_short" Decoder.boolean <*> .required "is_long" Decoder.boolean
    <*> .required "has_value" Decoder.boolean <*> .required "is_required" Decoder.boolean
    <*> .required "is_optional" Decoder.boolean <*> .required "is_variadic" Decoder.boolean
    <*> .required "is_placeholder" Decoder.boolean <*> .required "unterminated_quote" Decoder.boolean

def decoder : Decoder TokenFlags :=
  record.decode "struct TokenFlags"

end TokenFlags

namespace Token

def isSeparator (t : Token) : Bool :=
  t.kind == .separator

def isOption (t : Token) : Bool :=
  t.kind == .option

/-- Only arguments and paths can name a command. -/
def isWord (t : Token) : Bool :=
  t.kind == .argument || t.kind == .path

/-- The flag and the inline value of an option written `flag=value`. -/
def inlineParts? (t : Token) : Option (String × String) :=
  if t.isOption then
    (Text.splitFirst? (· == '=') t.value.toList).map fun (flag, value) =>
      (String.ofList flag, String.ofList value)
  else none

/-- An option without its inline value; for other tokens the whole value. -/
def flag (t : Token) : String :=
  match t.inlineParts? with
  | some (flag, _) => flag
  | none => t.value

def inlineValue? (t : Token) : Option String :=
  t.inlineParts?.map Prod.snd

def toJson (t : Token) : Json :=
  .object [("kind", .text t.kind.name), ("text", .text t.text), ("value", .text t.value),
    ("span", t.span.toJson), ("flags", t.flags.toJson)]

def record : Record Token :=
  mk <$> .required "kind" TokenKind.decoder <*> .required "text" Decoder.text
    <*> .required "value" Decoder.text <*> .required "span" Span.decoder
    <*> .defaulted "flags" TokenFlags.decoder {}

def decoder : Decoder Token :=
  record.decode "struct Token"

end Token

end ShellTemplate
