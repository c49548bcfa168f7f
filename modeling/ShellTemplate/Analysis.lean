import ShellTemplate.Check.Structure

namespace ShellTemplate

/-- Which findings an analysis has. -/
structure AnalysisOptions where
  security : Bool := true
  precedence : Bool := true
deriving DecidableEq, Repr

/-- All that can be told about a command line. -/
structure Analysis where
  command : String
  tokens : List Token
  parsed : Structure
  report : Report
  security? : Option SecurityReport
  placeholders : List String
deriving DecidableEq, Repr

namespace AnalysisOptions

def record : Record AnalysisOptions :=
  mk <$> .defaulted "check_security" Decoder.boolean true
    <*> .defaulted "check_precedence" Decoder.boolean true

def decoder : Decoder AnalysisOptions :=
  record.decode "struct AnalyzerOptions"

end AnalysisOptions

namespace Analysis

/-- Security findings stand in a report of their own, not among the others. -/
def ofCommand (command : String) (options : AnalysisOptions) : Analysis :=
  let tokens := Token.scan command
  let parsed := Structure.ofTokens tokens
  { command, tokens, parsed
    report := parsed.check false options.precedence
    security? := if options.security then some (.assess command parsed) else none
    placeholders := Placeholder.names command }

def isValid (a : Analysis) : Bool :=
  a.report.isValid

/-- The messages of all findings that are no errors, each once. -/
def hints (a : Analysis) : List String :=
  let findings := (a.security?.map (·.findings)).getD []
  Text.distinct ((a.report.warnings ++ a.report.suggestions ++ findings).map (·.message))

def toJson (a : Analysis) : Json :=
  .object ([("command", .text a.command), ("tokens", tokensToJson a.tokens),
    ("structure", a.parsed.toJson), ("validation", a.report.toJson)] ++
    Json.memberIf "security" SecurityReport.toJson a.security? ++
    [("placeholders", .array (a.placeholders.map .text))])

end Analysis

end ShellTemplate
