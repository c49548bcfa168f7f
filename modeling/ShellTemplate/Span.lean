import ShellTemplate.Json.Decode

namespace ShellTemplate

/-- A range of bytes of a UTF-8 text: from `start` up to, not including, `stop`. -/
structure Span where
  start : Nat
  stop : Nat
deriving DecidableEq, Repr, Inhabited

namespace Span

def shift (offset : Nat) (s : Span) : Span :=
  ⟨s.start + offset, s.stop + offset⟩

def toJson (s : Span) : Json :=
  .object [("start", .integer s.start), ("end", .integer s.stop)]

def record : Record Span :=
  mk <$> .required "start" (Decoder.natural "usize") <*> .required "end" (Decoder.natural "usize")

/-- A span has no members but its two ends. -/
def decoder : Decoder Span
  | .object members => record.ofMembers true members
  | .array items => record.ofItems "struct Range" items
  | other => other.mismatch "struct Range"

end Span

end ShellTemplate
