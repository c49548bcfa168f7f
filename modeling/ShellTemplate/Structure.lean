import ShellTemplate.Token

namespace ShellTemplate

/-- A redirect operator with the word that it redirects to. -/
structure Redirect where
  operator : Token
  target? : Option Token := none
deriving DecidableEq, Repr

/-- The words between two control operators, sorted by what they are. -/
structure Component where
  baseCommand? : Option Token := none
  subcommand? : Option Token := none
  options : List Token := []
  arguments : List Token := []
  parameters : List Token := []
  redirects : List Redirect := []
  /-- The control operator that closed the component. -/
  terminator? : Option Token := none
  /-- The words after a background operator that opened no component. -/
  trailing : List Token := []
  /-- All words and redirects in the order of the source. -/
  tokens : List Token := []
deriving DecidableEq, Repr

/-- A command line as components; the lists beside them gather what is in the components. -/
structure Structure where
  baseCommand? : Option Token := none
  subcommands : List Token := []
  options : List Token := []
  arguments : List Token := []
  parameters : List Token := []
  separators : List Token := []
  components : List Component := []
  tokens : List Token := []
deriving DecidableEq, Repr

namespace Redirect

def toJson (r : Redirect) : Json :=
  .object (("operator", r.operator.toJson) :: Json.memberIf "target" Token.toJson r.target?)

def record : Record Redirect :=
  mk <$> .required "operator" Token.decoder <*> .optional "target" Token.decoder

def decoder : Decoder Redirect :=
  record.decode "struct Redirect"

end Redirect

def tokensToJson (ts : List Token) : Json :=
  .array (ts.map Token.toJson)

namespace Component

def isEmpty (c : Component) : Bool :=
  c.tokens.isEmpty

def toJson (c : Component) : Json :=
  .object (Json.memberIf "base_command" Token.toJson c.baseCommand? ++
    Json.memberIf "subcommand" Token.toJson c.subcommand? ++
    [("options", tokensToJson c.options), ("arguments", tokensToJson c.arguments),
      ("parameters", tokensToJson c.parameters), ("redirects", .array (c.redirects.map Redirect.toJson))] ++
    Json.memberIf "terminator" Token.toJson c.terminator? ++
    Json.memberIfAny "trailing" Token.toJson c.trailing ++ [("tokens", tokensToJson c.tokens)])

def record : Record Component :=
  mk <$> .optional "base_command" Token.decoder <*> .optional "subcommand" Token.decoder
    <*> .required "options" (.items Token.decoder) <*> .required "arguments" (.items Token.decoder)
    <*> .required "parameters" (.items Token.decoder) <*> .required "redirects" (.items Redirect.decoder)
    <*> .optional "terminator" Token.decoder <*> .defaulted "trailing" (.items Token.decoder) []
    <*> .required "tokens" (.items Token.decoder)

def decoder : Decoder Component :=
  record.decode "struct Component"

end Component

namespace Structure

def isEmpty (s : Structure) : Bool :=
  s.tokens.isEmpty

/-- The names of the base commands of the components, in order. -/
def commands (s : Structure) : List String :=
  s.components.filterMap fun c => c.baseCommand?.map (·.value)

def toJson (s : Structure) : Json :=
  .object (Json.memberIf "base_command" Token.toJson s.baseCommand? ++
    [("subcommands", tokensToJson s.subcommands), ("options", tokensToJson s.options),
      ("arguments", tokensToJson s.arguments), ("parameters", tokensToJson s.parameters),
      ("separators", tokensToJson s.separators),
      ("components", .array (s.components.map Component.toJson)), ("tokens", tokensToJson s.tokens)])

def record : Record Structure :=
  mk <$> .optional "base_command" Token.decoder <*> .required "subcommands" (.items Token.decoder)
    <*> .required "options" (.items Token.decoder) <*> .required "arguments" (.items Token.decoder)
    <*> .required "parameters" (.items Token.decoder) <*> .required "separators" (.items Token.decoder)
    <*> .required "components" (.items Component.decoder) <*> .required "tokens" (.items Token.decoder)

def decoder : Decoder Structure :=
  record.decode "struct CommandStructure"

end Structure

end ShellTemplate
