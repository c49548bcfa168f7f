import ShellTemplate.Definition.Kinds

namespace ShellTemplate

/-- What a problem is about. -/
inductive IssueCategory where
  /-- Malformed tokens or operators out of place. -/
  | form
  /-- Well-formed input that makes no sense. -/
  | meaning
  /-- Content that may do harm; this is advice. -/
  | security
  /-- Changes that the user may not make. -/
  | permission
  /-- Requests that cannot be carried out. -/
  | system
deriving DecidableEq, Repr, Inhabited

namespace IssueCategory

def all : List IssueCategory :=
  [.form, .meaning, .security, .permission, .system]

def name : IssueCategory → String
  | .form => "syntax"
  | .meaning => "semantic"
  | .security => "security"
  | .permission => "permission"
  | .system => "system"

def decoder : Decoder IssueCategory :=
  .choice (all.map fun category => (category.name, category))

end IssueCategory

/-- Every problem that a check can report. -/
inductive Issue where
  | emptyCommand
  | missingBaseCommand (index : Nat)
  | malformedOption (option : String)
  | malformedPlaceholder (run : String)
  | leadingSeparator (symbol : String)
  | consecutiveSeparators (first : String) (second : String)
  | danglingSeparator (symbol : String)
  | missingRedirectTarget (symbol : String)
  | backgroundNotTerminal
  | unterminatedQuote (text : String)
  | repeatedOperator (symbol : String)
  | mixedLogicChain
  | duplicateOptionToken (option : String)
  | missingField (field : String)
  | tooShort (field : String) (min : Nat)
  | tooLong (field : String) (max : Nat)
  | invalidCharacters (field : String)
  | tooMany (field : String) (max : Nat)
  | unknownCategory (category : String)
  | forbiddenCategory (category : String)
  | categoryTooDeep (category : String) (level : UInt8)
  | invalidTag (tag : String)
  | duplicateTag (tag : String)
  | invalidParameterName (name : String)
  | duplicateParameter (name : String)
  | requiredAfterOptional (name : String)
  | requiredWithDefault (name : String)
  | missingDescription (name : String)
  | unknownClassification (name : String)
  | danglingReference (sourceName : String) (target : String)
  | undefinedPlaceholder (name : String)
  | unusedParameter (name : String)
  | missingFlag
  | invalidFlag (flag : String)
  | duplicateFlag (flag : String)
  | missingValueType (flag : String)
  | duplicateName (name : String)
  | duplicateCommand (command : String)
  | missingRequiredValue (name : String)
  | invalidValue (name : String) (expected : ValueType) (value : String)
  | notInEnum (name : String) (value : String) (allowed : String)
  | suspiciousPath (name : String) (value : String)
  | requiredOptionNotSelected (flag : String)
  | missingOptionValue (flag : String)
  | optionConflict (option : String) (conflictsWith : String)
  | missingDependency (option : String) (requires : String)
  | unsubstitutedPlaceholder (run : String)
  | injectionPattern (description : String)
  | destructiveCommand (command : String)
  | privilegeEscalation (command : String)
  | systemCommand (id : String)
  | protectedField (field : String)
  | nonUpdatableField (field : String)
  | commandNotFound (id : String)
  | failure (message : String)
  | hint (message : String)
deriving DecidableEq, Repr, Inhabited

namespace Issue

/-- The wording of each problem. -/
def message : Issue → String
  | .emptyCommand => "command is empty"
  | .missingBaseCommand index => s!"component {index} has no base command"
  | .malformedOption option => s!"malformed option: {option}"
  | .malformedPlaceholder run => s!"malformed placeholder: {run}"
  | .leadingSeparator symbol => s!"command cannot start with separator '{symbol}'"
  | .consecutiveSeparators first second => s!"consecutive separators '{first}' and '{second}'"
  | .danglingSeparator symbol => s!"separator '{symbol}' expects a command after it"
  | .missingRedirectTarget symbol => s!"redirect '{symbol}' has no target"
  | .backgroundNotTerminal => "background operator '&' must end its command"
  | .unterminatedQuote text => s!"unterminated quote in {text}"
  | .repeatedOperator symbol => s!"operator '{symbol}' is repeated within one command"
  | .mixedLogicChain => "mixing '&&' and '||' relies on left-to-right evaluation; consider grouping"
  | .duplicateOptionToken option => s!"option {option} appears more than once"
  | .missingField field => s!"{field} is required"
  | .tooShort field min => s!"{field} must be at least {min} characters"
  | .tooLong field max => s!"{field} must be at most {max} characters"
  | .invalidCharacters field => s!"{field} contains invalid characters"
  | .tooMany field max => s!"at most {max} {field} are allowed"
  | .unknownCategory category => s!"category does not exist: {category}"
  | .forbiddenCategory category => s!"commands cannot be placed in category {category}"
  | .categoryTooDeep category level =>
    s!"category {category} is nested too deeply (level {level.toNat})"
  | .invalidTag tag => s!"invalid tag: {tag}"
  | .duplicateTag tag => s!"duplicate tag: {tag}"
  | .invalidParameterName name => s!"invalid parameter name: {name}"
  | .duplicateParameter name => s!"duplicate parameter: {name}"
  | .requiredAfterOptional name => s!"required parameter {name} follows an optional parameter"
  | .requiredWithDefault name => s!"required parameter {name} declares a default value"
  | .missingDescription name => s!"parameter {name} has no description"
  | .unknownClassification name => s!"parameter {name} has an unrecognised classification"
  | .danglingReference sourceName target => s!"{sourceName} references undeclared {target}"
  | .undefinedPlaceholder name => s!"placeholder \x7b\x7b{name}\x7d\x7d has no parameter definition"
  | .unusedParameter name => s!"parameter {name} is not used in the command"
  | .missingFlag => "option has no flag"
  | .invalidFlag flag => s!"invalid option flag: {flag}"
  | .duplicateFlag flag => s!"duplicate option flag: {flag}"
  | .missingValueType flag => s!"option {flag} takes a value but declares no value type"
  | .duplicateName name => s!"a command named {name} already exists"
  | .duplicateCommand command => s!"an identical command already exists: {command}"
  | .missingRequiredValue name => s!"missing required value for parameter '{name}'"
  | .invalidValue name expected value => s!"value '{value}' for {name} is not a valid {expected.name}"
  | .notInEnum name value allowed => s!"value '{value}' for {name} is not one of: {allowed}"
  | .suspiciousPath name value => s!"path value for {name} looks suspicious: {value}"
  | .requiredOptionNotSelected flag => s!"required option {flag} is not selected"
  | .missingOptionValue flag => s!"option {flag} requires a value"
  | .optionConflict option conflictsWith => s!"option {option} conflicts with {conflictsWith}"
  | .missingDependency option requires =>
    s!"option {option} depends on {requires}, which is not selected"
  | .unsubstitutedPlaceholder run => s!"placeholder {run} was not substituted"
  | .injectionPattern description => s!"possible command injection: {description}"
  | .destructiveCommand command => s!"destructive command: {command}"
  | .privilegeEscalation command => s!"privilege escalation: {command}"
  | .systemCommand id => s!"system command {id} cannot be modified"
  | .protectedField field => s!"field {field} is protected"
  | .nonUpdatableField field => s!"field {field} cannot be updated"
  | .commandNotFound id => s!"command not found: {id}"
  | .failure message => message
  | .hint message => message

/-- The name under which a problem is written. -/
def code : Issue → String
  | .emptyCommand => "empty_command"
  | .missingBaseCommand .. => "missing_base_command"
  | .malformedOption .. => "malformed_option"
  | .malformedPlaceholder .. => "malformed_placeholder"
  | .leadingSeparator .. => "leading_separator"
  | .consecutiveSeparators .. => "consecutive_separators"
  | .danglingSeparator .. => "dangling_separator"
  | .missingRedirectTarget .. => "missing_redirect_target"
  | .backgroundNotTerminal => "background_not_terminal"
  | .unterminatedQuote .. => "unterminated_quote"
  | .repeatedOperator .. => "repeated_operator"
  | .mixedLogicChain => "mixed_logic_chain"
  | .duplicateOptionToken .. => "duplicate_option_token"
  | .missingField .. => "missing_field"
  | .tooShort .. => "too_short"
  | .tooLong .. => "too_long"
  | .invalidCharacters .. => "invalid_characters"
  | .tooMany .. => "too_many"
  | .unknownCategory .. => "unknown_category"
  | .forbiddenCategory .. => "forbidden_category"
  | .categoryTooDeep .. => "category_too_deep"
  | .invalidTag .. => "invalid_tag"
  | .duplicateTag .. => "duplicate_tag"
  | .invalidParameterName .. => "invalid_parameter_name"
  | .duplicateParameter .. => "duplicate_parameter"
  | .requiredAfterOptional .. => "required_after_optional"
  | .requiredWithDefault .. => "required_with_default"
  | .missingDescription .. => "missing_description"
  | .unknownClassification .. => "unknown_classification"
  | .danglingReference .. => "dangling_reference"
  | .undefinedPlaceholder .. => "undefined_placeholder"
  | .unusedParameter .. => "unused_parameter"
  | .missingFlag => "missing_flag"
  | .invalidFlag .. => "invalid_flag"
  | .duplicateFlag .. => "duplicate_flag"
  | .missingValueType .. => "missing_value_type"
  | .duplicateName .. => "duplicate_name"
  | .duplicateCommand .. => "duplicate_command"
  | .missingRequiredValue .. => "missing_required_value"
  | .invalidValue .. => "invalid_value"
  | .notInEnum .. => "not_in_enum"
  | .suspiciousPath .. => "suspicious_path"
  | .requiredOptionNotSelected .. => "required_option_not_selected"
  | .missingOptionValue .. => "missing_option_value"
  | .optionConflict .. => "option_conflict"
  | .missingDependency .. => "missing_dependency"
  | .unsubstitutedPlaceholder .. => "unsubstituted_placeholder"
  | .injectionPattern .. => "injection_pattern"
  | .destructiveCommand .. => "destructive_command"
  | .privilegeEscalation .. => "privilege_escalation"
  | .systemCommand .. => "system_command"
  | .protectedField .. => "protected_field"
  | .nonUpdatableField .. => "non_updatable_field"
  | .commandNotFound .. => "command_not_found"
  | .failure .. => "system"
  | .hint .. => "hint"

/-- What a problem tells beside its name: nothing, one value, or named values. -/
def detail? : Issue → Option Json
  | .emptyCommand => none
  | .missingBaseCommand index => some (.integer index)
  | .malformedOption option => some (.text option)
  | .malformedPlaceholder run => some (.text run)
  | .leadingSeparator symbol => some (.text symbol)
  | .consecutiveSeparators first second =>
    some (.object [("first", .text first), ("second", .text second)])
  | .danglingSeparator symbol => some (.text symbol)
  | .missingRedirectTarget symbol => some (.text symbol)
  | .backgroundNotTerminal => none
  | .unterminatedQuote text => some (.text text)
  | .repeatedOperator symbol => some (.text symbol)
  | .mixedLogicChain => none
  | .duplicateOptionToken option => some (.text option)
  | .missingField field => some (.text field)
  | .tooShort field min => some (.object [("field", .text field), ("min", .integer min)])
  | .tooLong field max => some (.object [("field", .text field), ("max", .integer max)])
  | .invalidCharacters field => some (.object [("field", .text field)])
  | .tooMany field max => some (.object [("field", .text field), ("max", .integer max)])
  | .unknownCategory category => some (.text category)
  | .forbiddenCategory category => some (.text category)
  | .categoryTooDeep category level =>
    some (.object [("category", .text category), ("level", .integer level.toNat)])
  | .invalidTag tag => some (.text tag)
  | .duplicateTag tag => some (.text tag)
  | .invalidParameterName name => some (.text name)
  | .duplicateParameter name => some (.text name)
  | .requiredAfterOptional name => some (.text name)
  | .requiredWithDefault name => some (.text name)
  | .missingDescription name => some (.text name)
  | .unknownClassification name => some (.text name)
  | .danglingReference sourceName target =>
    some (.object [("source_name", .text sourceName), ("target", .text target)])
  | .undefinedPlaceholder name => some (.text name)
  | .unusedParameter name => some (.text name)
  | .missingFlag => none
  | .invalidFlag flag => some (.text flag)
  | .duplicateFlag flag => some (.text flag)
  | .missingValueType flag => some (.text flag)
  | .duplicateName name => some (.text name)
  | .duplicateCommand command => some (.text command)
  | .missingRequiredValue name => some (.text name)
  | .invalidValue name expected value =>
    some (.object [("name", .text name), ("expected", .text expected.name), ("value", .text value)])
  | .notInEnum name value allowed =>
    some (.object [("name", .text name), ("value", .text value), ("allowed", .text allowed)])
  | .suspiciousPath name value => some (.object [("name", .text name), ("value", .text value)])
  | .requiredOptionNotSelected flag => some (.text flag)
  | .missingOptionValue flag => some (.text flag)
  | .optionConflict option conflictsWith =>
    some (.object [("option", .text option), ("conflicts_with", .text conflictsWith)])
  | .missingDependency option requires =>
    some (.object [("option", .text option), ("requires", .text requires)])
  | .unsubstitutedPlaceholder run => some (.text run)
  | .injectionPattern description => some (.text description)
  | .destructiveCommand command => some (.text command)
  | .privilegeEscalation command => some (.text command)
  | .systemCommand id => some (.text id)
  | .protectedField field => some (.text field)
  | .nonUpdatableField field => some (.text field)
  | .commandNotFound id => some (.text id)
  | .failure message => some (.text message)
  | .hint message => some (.text message)

def toJson (i : Issue) : Json :=
  .object (("code", .text i.code) :: Json.memberIf "detail" id i.detail?)

def category : Issue → IssueCategory
  | .emptyCommand | .missingBaseCommand .. | .malformedOption .. | .malformedPlaceholder ..
  | .leadingSeparator .. | .consecutiveSeparators .. | .danglingSeparator ..
  | .missingRedirectTarget .. | .backgroundNotTerminal | .unterminatedQuote ..
  | .repeatedOperator .. | .mixedLogicChain | .duplicateOptionToken .. => .form
  | .injectionPattern .. | .destructiveCommand .. | .privilegeEscalation .. => .security
  | .systemCommand .. | .protectedField .. | .nonUpdatableField .. => .permission
  | .commandNotFound .. | .failure .. => .system
  | _ => .meaning

/-- How the detail of a problem is read. -/
abbrev Form := String × Decoder Issue

def plain (name : String) (issue : Issue) : Form :=
  (issue.code, fun json =>
    match json with
    | .null => .ok issue
    | other => other.mismatch ("unit variant Issue::" ++ name))

def about (code : String) (make : String → Issue) : Form :=
  (code, fun json => (Decoder.text json).map make)

def counted (code : String) (make : Nat → Issue) : Form :=
  (code, fun json => (Decoder.natural "usize" json).map make)

def named (code name : String) (r : Record Issue) : Form :=
  (code, fun json =>
    match json with
    | .object members => r.ofMembers false members
    | other => other.mismatch ("struct variant Issue::" ++ name))

def textOf (name : String) : Record String :=
  .required name Decoder.text

def countOf (name : String) : Record Nat :=
  .required name (Decoder.natural "usize")

/-- Every problem that can be read, in the order in which an unknown name is told what is known. -/
def forms : List Form :=
  [plain "EmptyCommand" .emptyCommand,
    counted "missing_base_command" .missingBaseCommand,
    about "malformed_option" .malformedOption,
    about "malformed_placeholder" .malformedPlaceholder,
    about "leading_separator" .leadingSeparator,
    named "consecutive_separators" "ConsecutiveSeparators"
      (.consecutiveSeparators <$> textOf "first" <*> textOf "second"),
    about "dangling_separator" .danglingSeparator,
    about "missing_redirect_target" .missingRedirectTarget,
    plain "BackgroundNotTerminal" .backgroundNotTerminal,
    about "unterminated_quote" .unterminatedQuote,
    about "repeated_operator" .repeatedOperator,
    plain "MixedLogicChain" .mixedLogicChain,
    about "duplicate_option_token" .duplicateOptionToken,
    about "missing_field" .missingField,
    named "too_short" "TooShort" (.tooShort <$> textOf "field" <*> countOf "min"),
    named "too_long" "TooLong" (.tooLong <$> textOf "field" <*> countOf "max"),
    named "invalid_characters" "InvalidCharacters" (.invalidCharacters <$> textOf "field"),
    named "too_many" "TooMany" (.tooMany <$> textOf "field" <*> countOf "max"),
    about "unknown_category" .unknownCategory,
    about "forbidden_category" .forbiddenCategory,
    named "category_too_deep" "CategoryTooDeep"
      (.categoryTooDeep <$> textOf "category" <*> .required "level" Decoder.byte),
    about "invalid_tag" .invalidTag,
    about "duplicate_tag" .duplicateTag,
    about "invalid_parameter_name" .invalidParameterName,
    about "duplicate_parameter" .duplicateParameter,
    about "required_after_optional" .requiredAfterOptional,
    about "required_with_default" .requiredWithDefault,
    about "missing_description" .missingDescription,
    about "unknown_classification" .unknownClassification,
    named "dangling_reference" "DanglingReference"
      (.danglingReference <$> textOf "source_name" <*> textOf "target"),
    about "undefined_placeholder" .undefinedPlaceholder,
    about "unused_parameter" .unusedParameter,
    plain "MissingFlag" .missingFlag,
    about "invalid_flag" .invalidFlag,
    about "duplicate_flag" .duplicateFlag,
    about "missing_value_type" .missingValueType,
    about "duplicate_name" .duplicateName,
    about "duplicate_command" .duplicateCommand,
    about "missing_required_value" .missingRequiredValue,
    named "invalid_value" "InvalidValue"
      (.invalidValue <$> textOf "name" <*> .required "expected" ValueType.decoder <*> textOf "value"),
    named "not_in_enum" "NotInEnum"
      (.notInEnum <$> textOf "name" <*> textOf "value" <*> textOf "allowed"),
    named "suspicious_path" "SuspiciousPath" (.suspiciousPath <$> textOf "name" <*> textOf "value"),
    about "required_option_not_selected" .requiredOptionNotSelected,
    about "missing_option_value" .missingOptionValue,
    named "option_conflict" "OptionConflict"
      (.optionConflict <$> textOf "option" <*> textOf "conflicts_with"),
    named "missing_dependency" "MissingDependency"
      (.missingDependency <$> textOf "option" <*> textOf "requires"),
    about "unsubstituted_placeholder" .unsubstitutedPlaceholder,
    about "injection_pattern" .injectionPattern,
    about "destructive_command" .destructiveCommand,
    about "privilege_escalation" .privilegeEscalation,
    about "system_command" .systemCommand,
    about "protected_field" .protectedField,
    about "non_updatable_field" .nonUpdatableField,
    about "command_not_found" .commandNotFound,
    about "system" .failure,
    about "hint" .hint]

/-- The members under the name and the detail of a problem. The name must stand; the detail may be left
out only where there is none. -/
def ofMembers (code? detail? : Option Json) : Except DecodeError Issue :=
  match code? with
  | none => .error (.missingField "code")
  | some code =>
    match Decoder.choice forms code with
    | .error e => .error e
    | .ok read =>
      match detail? with
      | some detail => read detail
      | none =>
        match read .null with
        | .ok issue => .ok issue
        | .error _ => .error (.missingField "detail")

/-- The members of an object with this key must not be repeated. -/
def unrepeated (key : String) (members : List (String × Json)) : Except DecodeError Unit :=
  if 1 < (members.filter fun member => member.1 == key).length then .error (.duplicateField key)
  else .ok ()

def decoder : Decoder Issue
  | .object members => do
    let issue ← ofMembers (members.lookup "code") (members.lookup "detail")
    unrepeated "code" members
    unrepeated "detail" members
    .ok issue
  | .array [] => .error (.invalidLength 0 "adjacently tagged enum Issue")
  | .array [code] => do
    let _ ← Decoder.choice forms code
    .error (.invalidLength 1 "adjacently tagged enum Issue")
  | .array (code :: detail :: more) => do
    let issue ← ofMembers (some code) (some detail)
    if more.isEmpty then .ok issue
    else .error (.invalidLength (more.length + 2) "fewer elements in array")
  | other => other.mismatch "adjacently tagged enum Issue"

end Issue

end ShellTemplate
