import ShellTemplate.Yaml.Scalar

namespace ShellTemplate.Yaml

/-- The parts of a YAML stream. Block collections begin and end without marks of their own in the text;
their tokens follow from the indentation. -/
inductive Token where
  | version (major minor : Nat)
  /-- Says what a handle before a tag stands for. -/
  | shorthand (handle expansion : String)
  | documentStart
  | documentEnd
  | blockSequence
  | blockMapping
  | blockEnd
  | flowSequence
  | flowSequenceEnd
  | flowMapping
  | flowMappingEnd
  | blockEntry
  | flowEntry
  | key
  | value
  | alias (name : String)
  | anchor (name : String)
  | tag (handle suffix : String)
  | scalar (style : ScalarStyle) (text : String)
deriving DecidableEq, Repr

end ShellTemplate.Yaml
