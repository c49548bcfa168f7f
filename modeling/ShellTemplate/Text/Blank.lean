namespace ShellTemplate.Text

/-- The blanks are the 25 characters with the Unicode property White_Space. -/
def isBlank (c : Char) : Bool :=
  let n := c.toNat
  (9 ≤ n && n ≤ 13) || n == 32 || n == 0x85 || n == 0xA0 || n == 0x1680 ||
    (0x2000 ≤ n && n ≤ 0x200A) || n == 0x2028 || n == 0x2029 || n == 0x202F || n == 0x205F ||
    n == 0x3000

def dropEndWhile (p : Char → Bool) (cs : List Char) : List Char :=
  (cs.reverse.dropWhile p).reverse

/-- The text without the blanks at its two ends. -/
def trim (s : String) : String :=
  String.ofList (dropEndWhile isBlank (s.toList.dropWhile isBlank))

/-- The text without the blanks at its two ends; a blank text is none. -/
def trimmed? (s : String) : Option String :=
  let trimmed := trim s
  if trimmed.isEmpty then none else some trimmed

/-- Holds of a text that is empty or all blanks. -/
def isBlankText (s : String) : Bool :=
  s.toList.all isBlank

/-- The number of maximal runs of blanks. -/
def blankRuns : List Char → Nat
  | [] => 0
  | [c] => if isBlank c then 1 else 0
  | c :: d :: rest => (if isBlank c && !isBlank d then 1 else 0) + blankRuns (d :: rest)

/-- Splits at the first character with the property, which is dropped. -/
def splitFirst? (p : Char → Bool) : List Char → Option (List Char × List Char)
  | [] => none
  | c :: rest =>
    if p c then some ([], rest)
    else (splitFirst? p rest).map fun (before, after) => (c :: before, after)

end ShellTemplate.Text
