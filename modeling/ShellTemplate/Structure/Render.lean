import ShellTemplate.Layout
import ShellTemplate.Sorted
import ShellTemplate.Structure.Parser
import ShellTemplate.Token.Lexer

namespace ShellTemplate

def Token.piece (t : Token) : Piece :=
  ⟨t.text, t.isSeparator⟩

/-- The words of a component, redirect operators left out. -/
def Component.words (c : Component) : List Token :=
  c.baseCommand?.toList ++ c.subcommand?.toList ++ c.options ++ c.arguments ++ c.parameters ++
    c.redirects.filterMap (·.target?) ++ c.trailing

namespace Structure

/-- The words of the components and the operators, in the order of the source. Of tokens that claim the
same place the last one gathered stays. -/
def ordered (s : Structure) : List Token :=
  (s.components.flatMap Component.words ++ s.separators).foldl
    (fun placed t => insertSorted (·.span.start) t placed) []

/-- The command line of a structure: words keep their source, single spaces stand between them, and
operators follow their own spacing. -/
def render (s : Structure) : String :=
  Piece.join (s.ordered.map Token.piece)

/-- The structure of a command line. -/
def ofCommand (command : String) : Structure :=
  ofTokens (Token.scan command)

end Structure

end ShellTemplate
