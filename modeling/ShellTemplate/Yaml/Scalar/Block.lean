import ShellTemplate.Yaml.Cursor
import ShellTemplate.Yaml.Scalar

namespace ShellTemplate.Yaml.Scalar

/-- What becomes of the breaks after the last line of a block. -/
inductive Chomping where
  | strip
  | clip
  | keep
deriving DecidableEq

def chomping? (c : Char) : Option Chomping :=
  if c == '+' then some .keep else if c == '-' then some .strip else none

/-- A digit of the header of a block, which is not zero. -/
def indicator? (c : Char) : Option Nat :=
  if c.isDigit && c != '0' then some (c.toNat - 48) else none

/-- The header of a block after its first character: how it ends and how far it is indented (zero if that
is to be found out), in either order. A zero digit is refused with the rest of the line. -/
def blockHeader (cs : List Char) : Chomping × Nat × Nat :=
  match cs with
  | [] => (.clip, 0, 0)
  | a :: rest =>
    match chomping? a, indicator? a with
    | some chomping, _ =>
      match rest.head?.bind indicator? with
      | some digit => (chomping, digit, 2)
      | none => (chomping, 0, 1)
    | none, some digit =>
      match rest.head?.bind chomping? with
      | some chomping => (chomping, digit, 2)
      | none => (.clip, digit, 1)
    | none, none => (.clip, 0, 0)

/-- Passes spaces as far as the given column, or all of them if it is zero, which stands for an unknown
indentation. -/
def skipIndentation (indent : Nat) (c : Cursor) : Cursor :=
  let spaces := (c.rest.takeWhile (· == ' ')).length
  c.skip (if indent = 0 ∨ spaces ≤ indent - c.column then spaces else indent - c.column)

theorem length_skipIndentation (indent : Nat) (c : Cursor) :
    (skipIndentation indent c).rest.length ≤ c.rest.length := by
  simp only [skipIndentation, Cursor.length_skip]
  omega

/-- Passes empty lines and the indentation of the line after them: their breaks, the widest indentation
so far, and the place after it. -/
def skipEmptyLines (indent widest : Nat) (c : Cursor) : Option (List Char × Nat × Cursor) :=
  let start := skipIndentation indent c
  let widest := if widest < start.column then start.column else widest
  match _shape : start.rest with
  | [] => some ([], widest, start)
  | ch :: _ =>
    if ch == '\t' && (indent == 0 || start.column < indent) then none
    else if isBreak ch then do
      let (breaks, widest, after) ← skipEmptyLines indent widest start.newline
      return (breakText ch :: breaks, widest, after)
    else some ([], widest, start)
termination_by c.rest.length
decreasing_by
  have skipped := length_skipIndentation indent c
  have passed := Cursor.length_newline (skipIndentation indent c)
  have shape := congrArg List.length _shape
  simp only [start, List.length_cons] at *
  omega

theorem length_skipEmptyLines {indent widest widest' : Nat} {c after : Cursor} {breaks : List Char}
    (found : skipEmptyLines indent widest c = some (breaks, widest', after)) :
    after.rest.length ≤ c.rest.length := by
  fun_induction skipEmptyLines indent widest c generalizing breaks widest' after with
  | case1 _ c =>
    simp only [Option.some.injEq, Prod.mk.injEq] at found
    obtain ⟨_, _, rfl⟩ := found
    exact length_skipIndentation indent c
  | case2 => simp at found
  | case3 _ c start =>
    rename_i ih
    have skipped := length_skipIndentation indent c
    have passed := Cursor.length_newline start
    simp only [Option.bind_eq_bind, Option.bind_eq_some_iff, Option.pure_def, Option.some.injEq,
      Prod.mk.injEq] at found
    obtain ⟨⟨_, _, _⟩, inner, _, _, rfl⟩ := found
    have bound := ih inner
    simp only [start] at *
    omega
  | case4 _ c =>
    simp only [Option.some.injEq, Prod.mk.injEq] at found
    obtain ⟨_, _, rfl⟩ := found
    exact length_skipIndentation indent c

/-- The lines of a block after the empty ones before them. -/
structure BlockLines where
  text : List Char := []
  /-- The break of the last line. -/
  last? : Option Char
  /-- The breaks of the empty lines after it. -/
  empty : List Char
  after : Cursor

/-- How a break goes into the text of a folded block: as a space if an empty line does not follow, and not
at all if one does. Beside a line that begins with a blank it stays. -/
def foldedBreak (literal besideBlank : Bool) (break? : Option Char) (empty : List Char) : List Char :=
  if !literal && break? == some '\n' && !besideBlank then if empty.isEmpty then [' '] else []
  else break?.toList

/-- Reads lines that stand at the column `indent`. The line before ended with `break?`, and empty lines
with the breaks `empty` came after it. -/
def readLines (literal : Bool) (indent : Nat) (break? : Option Char) (empty : List Char)
    (afterBlank : Bool) (c : Cursor) : Option BlockLines :=
  match _shape : c.rest with
  | [] => some { last? := break?, empty, after := c }
  | ch :: rest =>
    if c.column ≠ indent then some { last? := break?, empty, after := c }
    else
      let blank := isGap ch
      let line := ch :: rest.takeWhile fun d => !isBreak d
      let stop := (c.skip 1).skipLine
      let next := if stop.isAtBreak then stop.newline else stop
      match _found : skipEmptyLines indent 0 next with
      | none => none
      | some (more, _, start) =>
        (readLines literal indent (stop.rest.head?.map breakText) more blank start).map fun later =>
          { later with
            text := foldedBreak literal (afterBlank || blank) break? empty ++ empty ++ line ++ later.text }
termination_by c.rest.length
decreasing_by
  have passed := length_skipEmptyLines _found
  have skipped := Cursor.length_skip c 1
  have line := Cursor.length_skipWhile (c.skip 1) fun ch => !isBreak ch
  have ended := Cursor.length_newline stop
  have shape := congrArg List.length _shape
  simp only [next, stop, Cursor.skipLine, List.length_cons] at *
  split at passed <;> omega

/-- The text of a block after its first character, and the place after it. The parts of the collection
around it stand left of the column `outer`. -/
def readBlock (literal : Bool) (outer : Nat) (c : Cursor) : Option (List Char × Cursor) := do
  let (chomping, digit, width) := blockHeader c.rest
  let c ← (c.skip width).finishLine?
  let given := if digit = 0 then 0 else if outer = 0 then digit else outer - 1 + digit
  let (empty, widest, start) ← skipEmptyLines given 0 c
  let least := if outer = 0 then 1 else outer
  let indent := if given ≠ 0 then given else if widest < least then least else widest
  let lines ← readLines literal indent none empty false start
  let ending :=
    match chomping with
    | .strip => []
    | .clip => lines.last?.toList
    | .keep => lines.last?.toList ++ lines.empty
  return (lines.text ++ ending, lines.after)

end ShellTemplate.Yaml.Scalar
