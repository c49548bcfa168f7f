import ShellTemplate.Sorted
import ShellTemplate.Text.Blank

namespace ShellTemplate.Path

/-- A step from one place to the next. -/
inductive Step where
  | root
  | here
  | up
  | name (text : String)
deriving DecidableEq, Repr

/-- The text that orders steps: the root first, names last and among themselves by character. -/
def Step.rank : Step → String
  | .root => "0"
  | .here => "1"
  | .up => "2"
  | .name text => "3" ++ text

/-- The parts between slashes; there is one more part than slashes. -/
def parts : List Char → List (List Char)
  | [] => [[]]
  | c :: rest =>
    if c == '/' then [] :: parts rest
    else match parts rest with
      | part :: others => (c :: part) :: others
      | [] => [[c]]

def step? (part : List Char) : Option Step :=
  if part = [] ∨ part = ['.'] then none
  else if part = ['.', '.'] then some .up
  else some (.name (String.ofList part))

/-- The steps of a path. A slash at the beginning is the root, and a dot counts only there. -/
def steps (path : String) : List Step :=
  match parts path.toList with
  | [] :: first :: rest => .root :: (first :: rest).filterMap step?
  | ['.'] :: rest => .here :: rest.filterMap step?
  | others => others.filterMap step?

/-- Paths are ordered step by step; two spellings of the same steps are one path. -/
def orderKey (path : String) : List String :=
  (steps path).map Step.rank

/-- The paths in order. Of two spellings of one path the first stays. -/
def arranged (paths : List String) : List String :=
  paths.foldr (insertSorted orderKey) []

/-- Whether the last part of a path is a name that ends in `.json`, with something before it. -/
def isJson (path : String) : Bool :=
  let name := ((parts path.toList).getLast?.getD []).reverse
  "nosj.".toList.isPrefixOf name && "nosj.".length < name.length

/-- The path of a name in a directory. -/
def join (directory name : String) : String :=
  if directory.toList.getLast? = some '/' then directory ++ name else directory ++ "/" ++ name

end ShellTemplate.Path
