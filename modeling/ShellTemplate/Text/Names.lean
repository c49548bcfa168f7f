namespace ShellTemplate.Text

/-- The characters that may follow the first letter of an identifier. -/
def isNameChar (c : Char) : Bool :=
  c.isAlphanum || c == '_' || c == '-'

/-- An ASCII letter, then ASCII letters, digits, underscores and hyphens. -/
def isIdentifier : List Char → Bool
  | [] => false
  | c :: rest => c.isAlpha && rest.all isNameChar

/-- A letter, then letters, digits and hyphens, all ASCII. -/
def isFlagName : List Char → Bool
  | [] => false
  | c :: rest => c.isAlpha && rest.all fun c => c.isAlphanum || c == '-'

/-- One hyphen or two and a name. -/
def isFlag : List Char → Bool
  | '-' :: '-' :: rest => isFlagName rest
  | '-' :: rest => isFlagName rest
  | _ => false

/-- Whether `run` occurs in the characters. -/
def holdsRun (run : List Char) : List Char → Bool
  | [] => run.isEmpty
  | c :: rest => run.isPrefixOf (c :: rest) || holdsRun run rest

/-- The text with its ASCII letters in lowercase. -/
def asciiLowercase (s : String) : String :=
  s.map Char.toLower

/-- Keeps the first occurrence of each element. -/
def distinct {α : Type} [BEq α] (xs : List α) : List α :=
  xs.foldl (fun kept x => if kept.contains x then kept else kept ++ [x]) []

end ShellTemplate.Text
