import ShellTemplate.Operator
import ShellTemplate.Structure

namespace ShellTemplate

/-- The subcommands that a base command is known for. -/
def knownSubcommands : String → List String
  | "git" =>
    ["clone", "pull", "push", "commit", "add", "status", "log", "branch", "checkout", "merge", "fetch",
      "rebase", "diff", "tag", "stash", "remote", "reset", "switch"]
  | "docker" =>
    ["run", "build", "pull", "push", "ps", "images", "exec", "logs", "stop", "start", "rm", "rmi",
      "compose"]
  | "npm" =>
    ["install", "run", "build", "test", "publish", "init", "start", "stop", "ci", "uninstall", "update"]
  | "yarn" => ["add", "remove", "install", "run", "build", "test", "upgrade"]
  | "pnpm" => ["add", "remove", "install", "run", "build", "test", "update"]
  | "kubectl" =>
    ["get", "create", "delete", "apply", "describe", "logs", "exec", "edit", "scale", "rollout"]
  | "aws" => ["s3", "ec2", "iam", "lambda", "cloudformation", "sts"]
  | "cargo" =>
    ["build", "run", "test", "check", "clippy", "fmt", "doc", "publish", "add", "new", "install"]
  | _ => []

/-- A step of a token stream: a word, a redirect with its target, or a control operator. -/
inductive Element where
  | word (token : Token)
  | redirect (redirect : Redirect)
  | control (op : Operator) (token : Token)
deriving DecidableEq, Repr

/-- The steps of a token stream. A redirect takes the next token unless that is a separator; a
separator that is no operator is passed over. -/
def Element.ofTokens : List Token → List Element
  | [] => []
  | t :: rest =>
    if !t.isSeparator then .word t :: ofTokens rest
    else
      match Operator.ofSymbol? t.value with
      | none => ofTokens rest
      | some op =>
        if op.isRedirect then
          match rest with
          | [] => [.redirect ⟨t, none⟩]
          | next :: more =>
            if next.isSeparator then .redirect ⟨t, none⟩ :: ofTokens (next :: more)
            else .redirect ⟨t, some next⟩ :: ofTokens more
        else .control op t :: ofTokens rest

namespace Component

/-- The first word that can name a command is the base command, and the first later argument that is
known as a subcommand of it is the subcommand. -/
def addWord (c : Component) (t : Token) : Component :=
  let c := { c with tokens := c.tokens ++ [t] }
  match t.kind with
  | .option => { c with options := c.options ++ [t] }
  | .parameter => { c with parameters := c.parameters ++ [t] }
  | .quoted => { c with arguments := c.arguments ++ [t] }
  | .separator => c
  | .argument | .path =>
    match c.baseCommand? with
    | none => { c with baseCommand? := some t }
    | some base =>
      if c.subcommand?.isNone && t.kind == .argument && (knownSubcommands base.value).contains t.value then
        { c with subcommand? := some t }
      else { c with arguments := c.arguments ++ [t] }

def addRedirect (c : Component) (r : Redirect) : Component :=
  { c with
    tokens := c.tokens ++ r.operator :: r.target?.toList
    redirects := c.redirects ++ [r] }

def addTrailing (c : Component) (ts : List Token) : Component :=
  { c with trailing := c.trailing ++ ts }

mutual

/-- The components of the steps, where `current` is being read. -/
def gather (current : Component) : List Element → List Component
  | [] => if current.isEmpty then [] else [current]
  | .word t :: rest => gather (current.addWord t) rest
  | .redirect r :: rest => gather (current.addRedirect r) rest
  | .control op t :: rest =>
    let closed := { current with terminator? := some t }
    if op.opensComponent then closed :: gather {} rest else gatherTrailing closed rest

/-- The components of the steps after a background operator. Until an operator opens a component, all
words trail the one that was closed. -/
def gatherTrailing (closed : Component) : List Element → List Component
  | [] => [closed]
  | .word t :: rest => gatherTrailing (closed.addTrailing [t]) rest
  | .redirect r :: rest => gatherTrailing (closed.addTrailing (r.operator :: r.target?.toList)) rest
  | .control op _ :: rest =>
    if op.opensComponent then closed :: gather {} rest else gatherTrailing closed rest

end

end Component

namespace Structure

/-- The structure with the given components, whose top-level lists gather those of the components. -/
def ofComponents (tokens : List Token) (components : List Component) : Structure where
  baseCommand? := components.findSome? (·.baseCommand?)
  subcommands := components.filterMap (·.subcommand?)
  options := components.flatMap (·.options)
  arguments := components.flatMap (·.arguments)
  parameters := components.flatMap (·.parameters)
  separators := tokens.filter (·.isSeparator)
  components
  tokens

/-- Every token list has a structure; what is wrong with it is for checks to tell. -/
def ofTokens (tokens : List Token) : Structure :=
  ofComponents tokens (Component.gather {} (Element.ofTokens tokens))

end Structure

end ShellTemplate
