import ShellTemplate.Proofs.JsonText
import ShellTemplate.Proofs.ReportReading
import ShellTemplate.Proofs.SelectionReading

namespace ShellTemplate

namespace Json

@[simp] theorem isExact_text (value : String) : (Json.text value).IsExact := .text value

@[simp] theorem isExact_boolean (value : Bool) : (Json.boolean value).IsExact := .boolean value

@[simp] theorem isExact_natural {n : Nat} : (Json.integer n).IsExact ↔ n < UInt64.size := by
  constructor
  · rintro (_ | _ | ⟨_, high⟩)
    exact Int.ofNat_lt.1 high
  · intro small
    exact .integer (by omega) (by omega)

@[simp] theorem isExact_array {items : List Json} : (Json.array items).IsExact ↔ ∀ item ∈ items, item.IsExact :=
  ⟨fun | .array each => each, .array⟩

/-- The values of the members are exact. -/
def AreExact (members : List (String × Json)) : Prop :=
  ∀ member ∈ members, member.2.IsExact

@[simp] theorem isExact_object {members : List (String × Json)} : (Json.object members).IsExact ↔ AreExact members :=
  ⟨fun | .object each => each, .object⟩

@[simp] theorem areExact_nil : AreExact [] := nofun

@[simp] theorem areExact_cons {member : String × Json} {members : List (String × Json)} :
    AreExact (member :: members) ↔ member.2.IsExact ∧ AreExact members :=
  List.forall_mem_cons

@[simp] theorem areExact_append {members others : List (String × Json)} :
    AreExact (members ++ others) ↔ AreExact members ∧ AreExact others :=
  List.forall_mem_append

variable {α : Type} {name : String} {encode : α → Json}

@[simp] theorem areExact_memberIf {value? : Option α} :
    AreExact (memberIf name encode value?) ↔ ∀ value ∈ value?, (encode value).IsExact := by
  cases value? <;> simp [memberIf]

@[simp] theorem areExact_memberIfAny {values : List α} :
    AreExact (memberIfAny name encode values) ↔ ∀ value ∈ values, (encode value).IsExact := by
  cases values <;> simp [memberIfAny]

@[simp] theorem isExact_items {values : List α} :
    (Json.array (values.map encode)).IsExact ↔ ∀ value ∈ values, (encode value).IsExact := by
  rw [isExact_array, List.forall_mem_map]

end Json

open Json

@[simp] theorem isExact_textsToJson (values : List String) : (textsToJson values).IsExact := by
  simp [textsToJson]

@[simp] theorem Condition.isExact_toJson (c : Condition) : c.toJson.IsExact := by
  cases c <;> simp [toJson]

@[simp] theorem Parameter.isExact_toJson (p : Parameter) : p.toJson.IsExact := by
  have mark : AreExact (if p.isFlag then [("isFlag", Json.boolean true)] else []) := by
    cases p.isFlag <;> simp
  simp [toJson, mark]

@[simp] theorem CommandOption.isExact_toJson (o : CommandOption) : o.toJson.IsExact := by
  simp [toJson]

/-- The numbers of a definition that have no fixed width. -/
def Definition.numbers (d : Definition) : List Nat :=
  [d.usageCount]

theorem Definition.isExact_toJson_iff {d : Definition} :
    d.toJson.IsExact ↔ ∀ n ∈ d.numbers, n < UInt64.size := by
  have version : d.version.toNat < UInt64.size := Nat.lt_trans d.version.toNat_lt (by decide)
  simp only [toJson, members, isExact_object, areExact_append, areExact_cons, areExact_nil, areExact_memberIf,
    isExact_text, isExact_boolean, isExact_natural, isExact_items, isExact_textsToJson, Parameter.isExact_toJson,
    CommandOption.isExact_toJson, version, implies_true, true_and, and_true, numbers, List.forall_mem_singleton]

@[simp] theorem TrailingSegment.isExact_toJson (t : TrailingSegment) : t.toJson.IsExact := by
  simp [toJson]

@[simp] theorem Assignments.isExact_toJson (s : Assignments) : s.toJson.IsExact := by
  rw [toJson_eq, isExact_object]
  exact List.forall_mem_map.2 fun _ _ => isExact_text _

theorem Selection.isExact_toJson (s : Selection) : s.toJson.IsExact := by
  simp [toJson]

/-- Where a token stands. -/
def Token.numbers (t : Token) : List Nat :=
  [t.span.start, t.span.stop]

theorem Token.isExact_toJson_iff {t : Token} : t.toJson.IsExact ↔ ∀ n ∈ t.numbers, n < UInt64.size := by
  simp [toJson, Span.toJson, TokenFlags.toJson, numbers]

/-- Where the tokens of a redirect stand. -/
def Redirect.numbers (r : Redirect) : List Nat :=
  (r.operator :: r.target?.toList).flatMap Token.numbers

/-- Where the tokens of a component stand, those of each of its lists. -/
def Component.numbers (c : Component) : List Nat :=
  (c.baseCommand?.toList ++ c.subcommand?.toList ++ c.options ++ c.arguments ++ c.parameters).flatMap Token.numbers ++
    c.redirects.flatMap Redirect.numbers ++ (c.terminator?.toList ++ c.trailing ++ c.tokens).flatMap Token.numbers

/-- Where the tokens of a structure stand, those of each of its lists and components. -/
def Structure.numbers (s : Structure) : List Nat :=
  (s.baseCommand?.toList ++ s.subcommands ++ s.options ++ s.arguments ++ s.parameters ++ s.separators).flatMap
      Token.numbers ++ s.components.flatMap Component.numbers ++ s.tokens.flatMap Token.numbers

theorem isExact_tokensToJson {ts : List Token} :
    (tokensToJson ts).IsExact ↔ ∀ n ∈ ts.flatMap Token.numbers, n < UInt64.size := by
  simp only [tokensToJson, isExact_items, Token.isExact_toJson_iff, List.forall_mem_flatMap]

theorem areExact_memberIf_token {name : String} {t? : Option Token} :
    AreExact (memberIf name Token.toJson t?) ↔ ∀ n ∈ t?.toList.flatMap Token.numbers, n < UInt64.size := by
  simp only [areExact_memberIf, Token.isExact_toJson_iff, List.forall_mem_flatMap, Option.mem_toList, Option.mem_def]

theorem Redirect.isExact_toJson_iff {r : Redirect} : r.toJson.IsExact ↔ ∀ n ∈ r.numbers, n < UInt64.size := by
  simp only [toJson, isExact_object, areExact_cons, areExact_memberIf_token, Token.isExact_toJson_iff, numbers,
    List.flatMap_cons, List.forall_mem_append]

theorem Component.isExact_toJson_iff {c : Component} : c.toJson.IsExact ↔ ∀ n ∈ c.numbers, n < UInt64.size := by
  simp only [toJson, isExact_object, areExact_append, areExact_cons, areExact_nil, areExact_memberIf_token,
    areExact_memberIfAny, isExact_tokensToJson, isExact_items, Token.isExact_toJson_iff, Redirect.isExact_toJson_iff,
    numbers, List.flatMap_append, List.forall_mem_append, List.forall_mem_flatMap, and_assoc, and_true]

theorem Structure.isExact_toJson_iff {s : Structure} : s.toJson.IsExact ↔ ∀ n ∈ s.numbers, n < UInt64.size := by
  simp only [toJson, isExact_object, areExact_append, areExact_cons, areExact_nil, areExact_memberIf_token,
    isExact_tokensToJson, isExact_items, Component.isExact_toJson_iff, numbers, List.flatMap_append,
    List.forall_mem_append, List.forall_mem_flatMap, and_assoc, and_true]

/-- The numbers of a problem that have no fixed width. -/
def Issue.numbers : Issue → List Nat
  | .missingBaseCommand n | .tooShort _ n | .tooLong _ n | .tooMany _ n => [n]
  | _ => []

theorem Issue.isExact_toJson_iff {i : Issue} : i.toJson.IsExact ↔ ∀ n ∈ i.numbers, n < UInt64.size := by
  have level (n : UInt8) : n.toNat < UInt64.size := Nat.lt_trans n.toNat_lt (by decide)
  cases i <;> simp [toJson, detail?, numbers, level]

/-- The numbers of a report that have no fixed width. -/
def Report.numbers (r : Report) : List Nat :=
  r.diagnostics.flatMap (·.issue.numbers)

theorem Diagnostic.isExact_toJson_iff {d : Diagnostic} :
    d.toJson.IsExact ↔ ∀ n ∈ d.issue.numbers, n < UInt64.size := by
  simp [toJson, Issue.isExact_toJson_iff]

theorem Report.isExact_toJson_iff {r : Report} : r.toJson.IsExact ↔ ∀ n ∈ r.numbers, n < UInt64.size := by
  simp only [toJson, diagnosticsToJson, isExact_object, areExact_cons, areExact_nil, isExact_items,
    Diagnostic.isExact_toJson_iff, numbers, diagnostics, List.flatMap_append, List.forall_mem_append,
    List.forall_mem_flatMap, and_assoc, and_true]

/-- A value comes back from its JSON form, from every restatement of the form, where the members of objects may stand in
any order, and from the text of the form if the value's numbers without fixed width have 64 bits. -/
structure Decoder.RoundTrips {α : Type} (value : Decoder α) (encode : α → Json) (numbers : α → List Nat) : Prop where
  encoded : ∀ a, value (encode a) = .ok a
  restated : ∀ a json, json.Restates (encode a) → value json = .ok a
  exact_iff : ∀ a, (encode a).IsExact ↔ ∀ n ∈ numbers a, n < UInt64.size
  written : ∀ a, (∀ n ∈ numbers a, n < UInt64.size) → (parse? (encode a).compact).map value = some (.ok a)

theorem Decoder.Inverts.encoded {α : Type} {value : Decoder α} {encode : α → Json} (inverts : value.Inverts encode)
    (a : α) : value (encode a) = .ok a :=
  inverts.reads a _ (.refl (inverts.plain a))

theorem Decoder.Inverts.roundTrips {α : Type} {value : Decoder α} {encode : α → Json} {numbers : α → List Nat}
    (inverts : value.Inverts encode) (exact_iff : ∀ a, (encode a).IsExact ↔ ∀ n ∈ numbers a, n < UInt64.size) :
    value.RoundTrips encode numbers where
  encoded := inverts.encoded
  restated := inverts.reads
  exact_iff
  written a fits := by
    rw [parse?_compact ((exact_iff a).2 fits), Option.map_some, inverts.encoded a]

/-- Where a form holds no numbers without fixed width, there is nothing to be asked of them. -/
theorem isExact_iff_of_forall {α : Type} {encode : α → Json} (always : ∀ a, (encode a).IsExact) (a : α) :
    (encode a).IsExact ↔ ∀ n ∈ ([] : List Nat), n < UInt64.size :=
  iff_of_true (always a) nofun

theorem Condition.inverts_decoder : decoder.Inverts toJson :=
  ⟨reads_decoder, isPlain_toJson⟩

theorem Parameter.inverts_decoder : decoder.Inverts toJson :=
  ⟨reads_decoder, isPlain_toJson⟩

theorem CommandOption.inverts_decoder : decoder.Inverts toJson :=
  ⟨reads_decoder, isPlain_toJson⟩

theorem Definition.inverts_decoder : decoder.Inverts toJson :=
  Record.Matches.inverts matches_record standUnder_members "struct CommandDefinition"

/-- Definitions with their parameters, options and conditions, selections, tokens, structures, and reports with every
kind of problem come back from JSON as they were, and from its text where the numbers without fixed width have 64 bits:
how often a command was used, where tokens stand, and the counts in problems. -/
theorem jsonContract_roundTrips :
    (Definition.decoder.RoundTrips Definition.toJson Definition.numbers ∧
      Parameter.decoder.RoundTrips Parameter.toJson (fun _ => []) ∧
      CommandOption.decoder.RoundTrips CommandOption.toJson (fun _ => []) ∧
      Condition.decoder.RoundTrips Condition.toJson fun _ => []) ∧
    Selection.decoder.RoundTrips Selection.toJson (fun _ => []) ∧ Token.decoder.RoundTrips Token.toJson Token.numbers ∧
    Structure.decoder.RoundTrips Structure.toJson Structure.numbers ∧
    (Report.decoder.RoundTrips Report.toJson Report.numbers ∧
      Diagnostic.decoder.RoundTrips Diagnostic.toJson (·.issue.numbers) ∧
      Issue.decoder.RoundTrips Issue.toJson Issue.numbers) := by
  refine ⟨⟨?_, ?_, ?_, ?_⟩, ?_, ?_, ?_, ?_, ?_, ?_⟩
  · exact Definition.inverts_decoder.roundTrips fun _ => Definition.isExact_toJson_iff
  · exact Parameter.inverts_decoder.roundTrips (isExact_iff_of_forall Parameter.isExact_toJson)
  · exact CommandOption.inverts_decoder.roundTrips (isExact_iff_of_forall CommandOption.isExact_toJson)
  · exact Condition.inverts_decoder.roundTrips (isExact_iff_of_forall Condition.isExact_toJson)
  · exact Selection.inverts_decoder.roundTrips (isExact_iff_of_forall Selection.isExact_toJson)
  · exact Token.inverts_decoder.roundTrips fun _ => Token.isExact_toJson_iff
  · exact Structure.inverts_decoder.roundTrips fun _ => Structure.isExact_toJson_iff
  · exact Report.inverts_decoder.roundTrips fun _ => Report.isExact_toJson_iff
  · exact Diagnostic.inverts_decoder.roundTrips fun _ => Diagnostic.isExact_toJson_iff
  · exact Issue.inverts_decoder.roundTrips fun _ => Issue.isExact_toJson_iff

end ShellTemplate
