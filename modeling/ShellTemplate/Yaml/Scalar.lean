namespace ShellTemplate.Yaml

inductive ScalarStyle where
  | plain
  | quoted
  | literal
  | folded
deriving DecidableEq, Repr

/-- A text as it stands in a document, with its tag if it has one. -/
structure Scalar where
  style : ScalarStyle
  tag? : Option String
  text : String
deriving DecidableEq, Repr

namespace Scalar

/-- What stands where a value is left out. -/
def empty (tag? : Option String) : Scalar :=
  ⟨.plain, tag?, ""⟩

def isEmpty (s : Scalar) : Bool :=
  s.style == .plain && s.text.isEmpty

end Scalar

end ShellTemplate.Yaml
