import ShellTemplate.Operator

namespace ShellTemplate

/-- A word to lay out, with the mark that it is an operator. -/
structure Piece where
  text : String
  isOperator : Bool
deriving DecidableEq, Repr, Inhabited

namespace Piece

def operator? (p : Piece) : Option Operator :=
  if p.isOperator then Operator.ofSymbol? (Operator.bare p.text) else none

def spaceBefore (p : Piece) : Bool :=
  match p.operator? with
  | some op => op.spacing.before
  | none => true

def spaceAfter (p : Piece) : Bool :=
  match p.operator? with
  | some op => op.spacing.after
  | none => true

/-- The words after `previous`, each with the space before it if both sides want one. -/
def joinAfter (previous : Piece) : List Piece → String
  | [] => ""
  | p :: rest =>
    (if previous.spaceAfter && p.spaceBefore then " " else "") ++ p.text ++ joinAfter p rest

/-- The words in one line; empty words leave no trace. -/
def join (pieces : List Piece) : String :=
  match pieces.filter fun p => !p.text.isEmpty with
  | [] => ""
  | p :: rest => p.text ++ joinAfter p rest

end Piece

end ShellTemplate
