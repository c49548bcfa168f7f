import ShellTemplate.Operator
import ShellTemplate.Text.Blank
import ShellTemplate.Text.Names

namespace ShellTemplate

/-- A part of a word. A quoted run holds its body as written and whether its closing quote was found; a
braced run holds what follows its two opening braces, the closing ones included. -/
inductive Segment where
  | plain (c : Char)
  | escaped (c : Char)
  | lastBackslash
  | singleQuoted (body : List Char) (closed : Bool)
  | doubleQuoted (body : List Char) (closed : Bool)
  | braced (run : List Char)
deriving DecidableEq, Repr

namespace Segment

/-- The characters that a backslash escapes between double quotes. -/
def isEscapable (c : Char) : Bool :=
  c == '"' || c == '\\' || c == '$' || c == '\x60'

/-- The body of a double-quoted run without the backslashes that escape. -/
def unescape : List Char → List Char
  | [] => []
  | [c] => [c]
  | c :: d :: rest =>
    if c == '\\' && isEscapable d then d :: unescape rest else c :: unescape (d :: rest)

def closing (quote : Char) (closed : Bool) : List Char :=
  if closed then [quote] else []

/-- The characters as they stand on the command line. -/
def source : Segment → List Char
  | .plain c => [c]
  | .escaped c => ['\\', c]
  | .lastBackslash => ['\\']
  | .singleQuoted body closed => '\'' :: (body ++ closing '\'' closed)
  | .doubleQuoted body closed => '"' :: (body ++ closing '"' closed)
  | .braced run => '\x7b' :: '\x7b' :: run

/-- The characters that the command gets. -/
def value : Segment → List Char
  | .plain c => [c]
  | .escaped c => [c]
  | .lastBackslash => ['\\']
  | .singleQuoted body _ => body
  | .doubleQuoted body _ => unescape body
  | .braced run => '\x7b' :: '\x7b' :: run

/-- The value with the quotes kept; it decides the kind of the word. -/
def shape : Segment → List Char
  | .singleQuoted body closed => '\'' :: (body ++ closing '\'' closed)
  | .doubleQuoted body closed => '"' :: (unescape body ++ closing '"' closed)
  | other => other.value

def isUnterminated : Segment → Bool
  | .singleQuoted _ closed | .doubleQuoted _ closed => !closed
  | _ => false

/-- A double-quoted run after its opening quote: the body as written, whether the closing quote was
found, and the rest. -/
def doubleBody : List Char → List Char × Bool × List Char
  | [] => ([], false, [])
  | [c] => if c == '"' then ([], true, []) else ([c], false, [])
  | c :: d :: rest =>
    if c == '"' then ([], true, d :: rest)
    else if c == '\\' && isEscapable d then
      let (body, closed, after) := doubleBody rest
      (c :: d :: body, closed, after)
    else
      let (body, closed, after) := doubleBody (d :: rest)
      (c :: body, closed, after)

/-- The characters through the first two closing braces side by side, or all of them. -/
def bracedRun : List Char → List Char × List Char
  | [] => ([], [])
  | [c] => ([c], [])
  | c :: d :: rest =>
    if c == '\x7d' && d == '\x7d' then ([c, d], rest)
    else
      let (run, after) := bracedRun (d :: rest)
      (c :: run, after)

theorem length_doubleBody (cs : List Char) : (doubleBody cs).2.2.length ≤ cs.length := by
  fun_induction doubleBody cs <;> simp_all only [List.length_nil, List.length_cons] <;> omega

theorem length_bracedRun (cs : List Char) : (bracedRun cs).2.length ≤ cs.length := by
  fun_induction bracedRun cs <;> simp_all only [List.length_nil, List.length_cons] <;> omega

/-- The segment that begins with the given character, and the rest. -/
def read (c : Char) (rest : List Char) : Segment × List Char :=
  if c == '\\' then
    match rest with
    | [] => (.lastBackslash, [])
    | d :: after => (.escaped d, after)
  else if c == '\'' then
    let body := rest.takeWhile (· != '\'')
    match rest.dropWhile (· != '\'') with
    | [] => (.singleQuoted body false, [])
    | _ :: after => (.singleQuoted body true, after)
  else if c == '"' then
    let (body, closed, after) := doubleBody rest
    (.doubleQuoted body closed, after)
  else if c == '\x7b' then
    match rest with
    | '\x7b' :: inner =>
      let (run, after) := bracedRun inner
      (.braced run, after)
    | _ => (.plain c, rest)
  else (.plain c, rest)

theorem length_read (c : Char) (rest : List Char) : (read c rest).2.length ≤ rest.length := by
  unfold read
  split
  · split <;> simp
  · split
    · have bound := (List.dropWhile_suffix (l := rest) (· != '\'')).length_le
      split
      · simp
      · rename_i run
        rw [run] at bound
        simp only [List.length_cons] at bound ⊢
        omega
    · split
      · exact length_doubleBody rest
      · split
        · split
          · have bound := length_bracedRun ‹_›
            simp only [List.length_cons]
            omega
          · simp
        · simp

end Segment

/-- The segments of a word. -/
abbrev Word := List Segment

namespace Word

def source (w : Word) : List Char :=
  w.flatMap Segment.source

def value (w : Word) : List Char :=
  w.flatMap Segment.value

def shape (w : Word) : List Char :=
  w.flatMap Segment.shape

def isUnterminated (w : Word) : Bool :=
  w.any Segment.isUnterminated

/-- A number against a redirect names the descriptor that is redirected. -/
def isDescriptor (w : Word) : Bool :=
  !w.isEmpty && w.source.all Char.isDigit

/-- The segments up to the next blank, operator or end, and the rest. -/
def read (cs : List Char) : Word × List Char :=
  match cs with
  | [] => ([], [])
  | c :: rest =>
    if Text.isBlank c || (Operator.leading? (c :: rest)).isSome then ([], c :: rest)
    else
      let first := Segment.read c rest
      let more := read first.2
      (first.1 :: more.1, more.2)
termination_by cs.length
decreasing_by
  have bound := Segment.length_read c rest
  simp only [List.length_cons]
  omega

theorem length_read (cs : List Char) : (read cs).2.length ≤ cs.length := by
  fun_induction read cs with
  | case1 => simp
  | case2 => simp
  | case3 c rest _ first more ih =>
    have bound : first.2.length ≤ rest.length := Segment.length_read c rest
    have tail : more.2.length ≤ first.2.length := ih
    simp only [List.length_cons]
    omega

/-- The run as a word, if a blank or the end follows. -/
def ended? (run after : List Char) : Option (Word × List Char) :=
  if after.head?.all Text.isBlank then some (run.map Segment.plain, after) else none

/-- A bare name in angle brackets, with or without three dots, that a blank or the end follows. -/
def angled? : List Char → Option (Word × List Char)
  | '<' :: rest =>
    let name := rest.takeWhile Text.isNameChar
    match rest.dropWhile Text.isNameChar with
    | '>' :: tail =>
      if Text.isIdentifier name then
        let run := '<' :: (name ++ ['>'])
        match tail with
        | '.' :: '.' :: '.' :: after => ended? (run ++ ['.', '.', '.']) after
        | after => ended? run after
      else none
    | _ => none
  | _ => none

theorem ended?_rest {run after rest : List Char} {w : Word}
    (found : ended? run after = some (w, rest)) : rest = after := by
  unfold ended? at found
  split at found
  · simp only [Option.some.injEq, Prod.mk.injEq] at found
    exact found.2.symm
  · simp at found

theorem length_angled? {cs after : List Char} {w : Word} (found : angled? cs = some (w, after)) :
    after.length < cs.length := by
  unfold angled? at found
  split at found
  · rename_i rest
    have bound := (List.dropWhile_suffix (l := rest) Text.isNameChar).length_le
    dsimp only at found
    split at found
    · rename_i run
      rw [run] at bound
      simp only [List.length_cons] at bound ⊢
      split at found
      · split at found
        · have same := ended?_rest found
          simp only [List.length_cons] at bound
          rw [same]
          omega
        · rw [ended?_rest found]
          omega
      · simp at found
    · simp at found
  · simp at found

end Word

end ShellTemplate
