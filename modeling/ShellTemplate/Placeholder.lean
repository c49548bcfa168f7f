import ShellTemplate.Span
import ShellTemplate.Text.Names
import ShellTemplate.Text.Width

namespace ShellTemplate

/-- What a placeholder stands for when it gets no value. -/
inductive PlaceholderKind where
  | required
  | optional
  | defaulted (value : String)
deriving DecidableEq, Repr, Inhabited

/-- A substitution point of a template with the place where it stands. -/
structure Placeholder where
  name : String
  kind : PlaceholderKind
  span : Span
deriving DecidableEq, Repr, Inhabited

namespace Placeholder

def isRequired (p : Placeholder) : Bool :=
  p.kind == .required

def inlineDefault? (p : Placeholder) : Option String :=
  match p.kind with
  | .defaulted value => some value
  | _ => none

/-- The mark between the name and the closing braces. -/
def kindMark : PlaceholderKind → List Char
  | .required => []
  | .optional => ['?']
  | .defaulted value => ':' :: value.toList

/-- The written form of a placeholder. -/
def written (name : String) (kind : PlaceholderKind) : List Char :=
  '\x7b' :: '\x7b' :: (name.toList ++ (kindMark kind ++ ['\x7d', '\x7d']))

/-- The name, kind and written form of a placeholder at the beginning of the characters, and what
follows it. -/
def leading? : List Char → Option (String × PlaceholderKind × List Char)
  | '\x7b' :: '\x7b' :: c :: rest =>
    if c.isAlpha then
      let name := String.ofList (c :: rest.takeWhile Text.isNameChar)
      match rest.dropWhile Text.isNameChar with
      | '\x7d' :: '\x7d' :: after => some (name, .required, after)
      | '?' :: '\x7d' :: '\x7d' :: after => some (name, .optional, after)
      | ':' :: rest =>
        match rest.dropWhile (· != '\x7d') with
        | '\x7d' :: '\x7d' :: after =>
          some (name, .defaulted (String.ofList (rest.takeWhile (· != '\x7d'))), after)
        | _ => none
      | _ => none
    else none
  | _ => none

theorem length_dropWhile_le {α : Type} (p : α → Bool) (xs : List α) :
    (xs.dropWhile p).length ≤ xs.length :=
  (List.dropWhile_suffix p).length_le

theorem leading?_shorter {cs after : List Char} {name : String} {kind : PlaceholderKind}
    (found : leading? cs = some (name, kind, after)) : after.length < cs.length := by
  unfold leading? at found
  split at found
  · rename_i c rest
    have bound := length_dropWhile_le Text.isNameChar rest
    split at found
    · split at found
      · rename_i run
        simp only [Option.some.injEq, Prod.mk.injEq] at found
        obtain ⟨_, _, rfl⟩ := found
        rw [run] at bound
        simp only [List.length_cons] at bound ⊢
        omega
      · rename_i run
        simp only [Option.some.injEq, Prod.mk.injEq] at found
        obtain ⟨_, _, rfl⟩ := found
        rw [run] at bound
        simp only [List.length_cons] at bound ⊢
        omega
      · rename_i tail run
        split at found
        · rename_i stop
          have shorter := length_dropWhile_le (· != '\x7d') tail
          simp only [Option.some.injEq, Prod.mk.injEq] at found
          obtain ⟨_, _, rfl⟩ := found
          rw [run] at bound
          rw [stop] at shorter
          simp only [List.length_cons] at bound shorter ⊢
          omega
        · simp at found
      · simp at found
    · simp at found
  · simp at found

/-- The placeholders of the characters that begin at byte `position`, from left to right; where none
begins, the search goes on one character later. -/
def scanFrom (position : Nat) (cs : List Char) : List Placeholder :=
  match _found : leading? cs with
  | some (name, kind, after) =>
    let stop := position + Text.width (written name kind)
    ⟨name, kind, ⟨position, stop⟩⟩ :: scanFrom stop after
  | none =>
    match cs with
    | [] => []
    | c :: rest => scanFrom (position + c.utf8Size) rest
termination_by cs.length
decreasing_by
  · exact leading?_shorter _found
  · simp

/-- Every well-formed placeholder of a text, in order. -/
def scan (s : String) : List Placeholder :=
  scanFrom 0 s.toList

/-- The placeholder that a text consists of, if it is one. -/
def ofText? (s : String) : Option Placeholder :=
  match scan s with
  | [p] => if p.span = ⟨0, s.utf8ByteSize⟩ then some p else none
  | _ => none

/-- The names in the order in which each first occurs. -/
def names (s : String) : List String :=
  Text.distinct ((scan s).map (·.name))

/-- A run of two opening braces, characters other than a closing brace, and two closing braces, at the
beginning of the characters; and what follows it. -/
def leadingRun? : List Char → Option (List Char × List Char)
  | '\x7b' :: '\x7b' :: rest =>
    match rest.dropWhile (· != '\x7d') with
    | '\x7d' :: '\x7d' :: after =>
      some ('\x7b' :: '\x7b' :: (rest.takeWhile (· != '\x7d') ++ ['\x7d', '\x7d']), after)
    | _ => none
  | _ => none

theorem leadingRun?_shorter {cs run after : List Char}
    (found : leadingRun? cs = some (run, after)) : after.length < cs.length := by
  unfold leadingRun? at found
  split at found
  · rename_i rest
    split at found
    · rename_i stop
      have bound := length_dropWhile_le (· != '\x7d') rest
      simp only [Option.some.injEq, Prod.mk.injEq] at found
      obtain ⟨_, rfl⟩ := found
      rw [stop] at bound
      simp only [List.length_cons] at bound ⊢
      omega
    · simp at found
  · simp at found

/-- The braced runs of the characters that begin at byte `position`, each with its place. -/
def runsFrom (position : Nat) (cs : List Char) : List (List Char × Span) :=
  match _found : leadingRun? cs with
  | some (run, after) =>
    let stop := position + Text.width run
    (run, ⟨position, stop⟩) :: runsFrom stop after
  | none =>
    match cs with
    | [] => []
    | c :: rest => runsFrom (position + c.utf8Size) rest
termination_by cs.length
decreasing_by
  · exact leadingRun?_shorter _found
  · simp

/-- The braced runs that are no placeholders, each with its place. -/
def malformedRuns (s : String) : List (String × Span) :=
  ((runsFrom 0 s.toList).map fun (run, span) => (String.ofList run, span)).filter
    fun (run, _) => (ofText? run).isNone

/-- How a template shows a parameter: an optional one stands in brackets. -/
def shown (name : String) (required : Bool) : String :=
  let braced := String.ofList (written name .required)
  if required then braced else "[" ++ braced ++ "]"

end Placeholder

end ShellTemplate
