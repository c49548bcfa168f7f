import ShellTemplate.Definition
import ShellTemplate.Digest
import ShellTemplate.Json.Printer

namespace ShellTemplate

/-- What follows from a classification for the value of a parameter. -/
structure ValueRules where
  mustHaveValue : ValuePolicy
  allowEmpty : Bool
  priority : Priority
  placement : Placement
  orderMatters : Bool
  canBeOmitted : Bool
  affectsExecution : Bool
deriving DecidableEq, Repr

/-- A parameter seen along four axes, with the category and rules that follow. -/
structure Classification where
  requirement : Requirement
  level : Level
  scope : Scope
  position : Position
  category : Category
  rules : ValueRules
deriving DecidableEq, Repr

/-- Where a parameter is classified: under a subcommand or not. -/
structure ClassificationContext where
  subcommand? : Option String := none
deriving DecidableEq, Repr

namespace Category

def ofAxes : Requirement → Level → Category
  | .required, .command => .requiredCommand
  | .optional, .command => .optionalCommand
  | .required, .option => .requiredOption
  | .optional, .option => .optionalOption
  | .conditional, _ => .conditional
  | _, .global => .global
  | _, _ => .unknown

end Category

namespace ValueRules

/-- The requirement decides about values, the level about the place. -/
def ofAxes (requirement : Requirement) (level : Level) : ValueRules :=
  let (mustHaveValue, allowEmpty, priority) : ValuePolicy × Bool × Priority :=
    match requirement with
    | .required => (.always, false, .high)
    | .optional => (.never, true, .medium)
    | .conditional => (.conditional, false, .high)
    | .none => (.never, true, .low)
  let (placement, orderMatters, canBeOmitted, affectsExecution) : Placement × Bool × Bool × Bool :=
    match level with
    | .command | .subcommand => (.flexible, true, false, true)
    | .option => (.fixed, false, true, false)
    | .global => (.flexible, false, true, true)
  { mustHaveValue, allowEmpty, priority, placement, orderMatters, canBeOmitted, affectsExecution }

def toJson (r : ValueRules) : Json :=
  .object [("mustHaveValue", .text r.mustHaveValue.name), ("allowEmpty", .boolean r.allowEmpty),
    ("priority", .text r.priority.name), ("placement", .text r.placement.name),
    ("orderMatters", .boolean r.orderMatters), ("canBeOmitted", .boolean r.canBeOmitted),
    ("affectsExecution", .boolean r.affectsExecution)]

end ValueRules

namespace Classification

/-- Every axis that the author did not set follows from the rest of the declaration. -/
def ofParameter (p : Parameter) (context : ClassificationContext) : Classification :=
  let requirement : Requirement :=
    if p.isRequired then .required else if p.condition?.isSome then .conditional else .optional
  let level : Level := p.level?.getD <|
    if p.parentOption?.isSome then .option
    else if p.scope? == some .global || "global-".toList.isPrefixOf p.name.toList then .global
    else if context.subcommand?.isSome then .subcommand
    else .command
  let scope : Scope := p.scope?.getD <|
    match level with
    | .global => .global
    | .subcommand => .inherited
    | .option | .command => .local
  let position : Position := p.position?.getD <|
    if p.parentOption?.isSome then .value
    else if p.isFlag then .flag
    else if Text.isIdentifier p.name.toList then .named
    else .positional
  { requirement, level, scope, position, category := .ofAxes requirement level,
    rules := .ofAxes requirement level }

def toJson (c : Classification) : Json :=
  .object [("requirement", .text c.requirement.name), ("level", .text c.level.name),
    ("scope", .text c.scope.name), ("position", .text c.position.name),
    ("category", .text c.category.name), ("rules", c.rules.toJson)]

end Classification

namespace ClassificationContext

def toJson (c : ClassificationContext) : Json :=
  .object (Json.memberIf "subcommand" .text c.subcommand?)

end ClassificationContext

/-- The digest of what decides a classification: the parameter and its context as JSON. -/
def contentHash (p : Parameter) (context : ClassificationContext) : String :=
  Digest.hex (Json.array [p.toJson, context.toJson]).compact.toUTF8.toList

end ShellTemplate
