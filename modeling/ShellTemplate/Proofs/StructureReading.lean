import ShellTemplate.Proofs.DefinitionReading
import ShellTemplate.Structure

namespace ShellTemplate

/-- A value is read from whatever restates its JSON form, and so from the form itself. -/
structure Decoder.Inverts {α : Type} (value : Decoder α) (encode : α → Json) : Prop where
  reads : value.Reads encode
  plain : ∀ a, (encode a).isPlain = true

namespace Record

variable {α : Type} {r : Record α} {write : α → List (String × Json)}

theorem Matches.inverts (matched : r.Matches write) (named : ∀ a, Json.StandUnder (r.fields.map (·.name)) (write a))
    (kind : String) : Decoder.Inverts (r.decode kind) fun a => .object (write a) where
  reads := matched.reads kind
  plain a := Json.isPlain_object_iff.2 ⟨(named a).keys.nodup matched.names, (named a).plain⟩

/-- Where every key is that of a field, it does not matter whether other keys are refused. -/
theorem visit_strict {fields : List Field} {members : List (String × Json)} {seen : List String}
    (known : ∀ entry ∈ members, ∃ f ∈ fields, f.spellings.contains entry.1 = true) :
    visit fields true seen members = visit fields false seen members := by
  induction members generalizing seen with
  | nil => rfl
  | cons entry rest ih =>
    obtain ⟨key, json⟩ := entry
    obtain ⟨named, later⟩ := List.forall_mem_cons.1 known
    unfold visit
    cases found : fields.find? (·.spellings.contains key) with
    | none =>
      obtain ⟨f, member, spelled⟩ := named
      exact absurd spelled (List.find?_eq_none.1 found f member)
    | some f => simp only [ih later]

/-- A record whose values have no other keys than those of its fields is read strictly too. -/
theorem ofMembers_strict (matched : r.Matches write) {a : α}
    (named : Json.StandUnder (r.fields.map (·.name)) (write a)) {members : List (String × Json)}
    (keys : (members.map Prod.fst).Nodup)
    (restates : ∀ key, Option.Rel Json.Restates (members.lookup key) ((write a).reverse.lookup key)) :
    r.ofMembers true members = .ok a := by
  have known : ∀ entry ∈ members, ∃ f ∈ r.fields, f.spellings.contains entry.1 = true := by
    intro entry member
    have stands := restates entry.1
    rw [lookup_of_mem keys member] at stands
    cases written : (write a).reverse.lookup entry.1 with
    | none =>
      rw [written] at stands
      cases stands
    | some json =>
      have inside := List.mem_reverse.1 (mem_of_lookup written)
      have own := named.keys.subset (List.mem_map_of_mem inside)
      obtain ⟨f, field, same⟩ := List.mem_map.1 own
      exact ⟨f, field, List.contains_iff_mem.2 (same ▸ (matched.spelled f field).1)⟩
  have lenient := matched.ofMembers keys restates
  rw [ofMembers, visit_strict known]
  exact lenient

end Record

open Decoder Json

namespace Span

def members (s : Span) : List (String × Json) :=
  s.toJson.members

theorem matches_record : record.Matches members where
  sound := by
    unfold record
    repeat first | apply Record.IsSound.seq | apply Record.IsSound.map | exact Record.isSound_field ..
  names := by decide
  spelled := Record.spelled_of_plain (by decide)
  yields find s each := by
    simp only [members, toJson, Json.members] at each
    have start : (Record.required "start" (Decoder.natural "usize")).Yields find s.start :=
      Record.yields_written (reads_natural "usize") (by simpa [lookup_cons_eq_ite] using each "start")
    have stop : (Record.required "end" (Decoder.natural "usize")).Yields find s.stop :=
      Record.yields_written (reads_natural "usize") (by simpa [lookup_cons_eq_ite] using each "end")
    exact (start.map mk).seq stop

theorem inverts_decoder : decoder.Inverts toJson where
  plain _ := rfl
  reads s json restates := by
    obtain ⟨own, rfl, keys, each⟩ := restates.exists_members
    have named : StandUnder (record.fields.map (·.name)) s.members := (standUnder_nil.cons rfl "end").cons rfl "start"
    exact Record.ofMembers_strict matches_record named keys each

end Span

theorem TokenKind.reads_decoder : decoder.Reads fun kind => .text kind.name :=
  reads_choice fun kind => by cases kind <;> decide

namespace TokenFlags

def members (f : TokenFlags) : List (String × Json) :=
  f.toJson.members

theorem matches_record : record.Matches members where
  sound := by
    unfold record
    repeat first | apply Record.IsSound.seq | apply Record.IsSound.map | exact Record.isSound_field ..
  names := by decide
  spelled := Record.spelled_of_plain (by decide)
  yields find f each := by
    simp only [members, toJson, Json.members] at each
    have mark {name : String} {set : Bool} (found : Option.Rel Restates (find name) (some (.boolean set))) :
        (Record.required name Decoder.boolean).Yields find set := Record.yields_written reads_boolean found
    have isShort := mark (by simpa [lookup_cons_eq_ite] using each "is_short")
    have isLong := mark (by simpa [lookup_cons_eq_ite] using each "is_long")
    have hasValue := mark (by simpa [lookup_cons_eq_ite] using each "has_value")
    have isRequired := mark (by simpa [lookup_cons_eq_ite] using each "is_required")
    have isOptional := mark (by simpa [lookup_cons_eq_ite] using each "is_optional")
    have isVariadic := mark (by simpa [lookup_cons_eq_ite] using each "is_variadic")
    have isPlaceholder := mark (by simpa [lookup_cons_eq_ite] using each "is_placeholder")
    have unterminatedQuote := mark (by simpa [lookup_cons_eq_ite] using each "unterminated_quote")
    exact (((((((isShort.map mk).seq isLong).seq hasValue).seq isRequired).seq isOptional).seq isVariadic).seq
      isPlaceholder).seq unterminatedQuote

theorem standUnder_members (f : TokenFlags) : StandUnder (record.fields.map (·.name)) f.members :=
  (((((((standUnder_nil.cons rfl "unterminated_quote").cons rfl "is_placeholder").cons rfl "is_variadic").cons rfl
    "is_optional").cons rfl "is_required").cons rfl "has_value").cons rfl "is_long").cons rfl "is_short"

theorem inverts_decoder : decoder.Inverts toJson :=
  Record.Matches.inverts matches_record standUnder_members "struct TokenFlags"

end TokenFlags

namespace Token

def members (t : Token) : List (String × Json) :=
  t.toJson.members

theorem matches_record : record.Matches members where
  sound := by
    unfold record
    repeat first | apply Record.IsSound.seq | apply Record.IsSound.map | exact Record.isSound_field ..
  names := by decide
  spelled := Record.spelled_of_plain (by decide)
  yields find t each := by
    simp only [members, toJson, Json.members] at each
    have kind : (Record.required "kind" TokenKind.decoder).Yields find t.kind :=
      Record.yields_written TokenKind.reads_decoder (by simpa [lookup_cons_eq_ite] using each "kind")
    have text : (Record.required "text" Decoder.text).Yields find t.text :=
      Record.yields_written reads_text (by simpa [lookup_cons_eq_ite] using each "text")
    have value : (Record.required "value" Decoder.text).Yields find t.value :=
      Record.yields_written reads_text (by simpa [lookup_cons_eq_ite] using each "value")
    have span : (Record.required "span" Span.decoder).Yields find t.span :=
      Record.yields_written (Inverts.reads Span.inverts_decoder) (by simpa [lookup_cons_eq_ite] using each "span")
    have flags : (Record.defaulted "flags" TokenFlags.decoder {}).Yields find t.flags :=
      Record.yields_written (Inverts.reads TokenFlags.inverts_decoder) (by simpa [lookup_cons_eq_ite] using each "flags")
    exact ((((kind.map mk).seq text).seq value).seq span).seq flags

theorem standUnder_members (t : Token) : StandUnder (record.fields.map (·.name)) t.members :=
  ((((standUnder_nil.cons (Inverts.plain TokenFlags.inverts_decoder t.flags) "flags").cons
    (Inverts.plain Span.inverts_decoder t.span) "span").cons rfl "value").cons rfl "text").cons rfl "kind"

theorem inverts_decoder : decoder.Inverts toJson :=
  Record.Matches.inverts matches_record standUnder_members "struct Token"

end Token

theorem Token.toJson_ne_null (t : Token) : t.toJson ≠ .null := Json.noConfusion

namespace Redirect

def members (r : Redirect) : List (String × Json) :=
  r.toJson.members

theorem matches_record : record.Matches members where
  sound := by
    unfold record
    repeat first | apply Record.IsSound.seq | apply Record.IsSound.map | exact Record.isSound_field ..
  names := by decide
  spelled := Record.spelled_of_plain (by decide)
  yields find r each := by
    simp only [members, toJson, Json.members, List.reverse_cons, List.lookup_append, reverse_memberIf, lookup_memberIf]
      at each
    have operator : (Record.required "operator" Token.decoder).Yields find r.operator :=
      Record.yields_written (Inverts.reads Token.inverts_decoder) (by simpa [lookup_cons_eq_ite] using each "operator")
    have target : (Record.optional "target" Token.decoder).Yields find r.target? :=
      Record.yields_optional (Inverts.reads Token.inverts_decoder) Token.toJson_ne_null
        (by simpa [lookup_cons_eq_ite] using each "target")
    exact (operator.map mk).seq target

theorem standUnder_members (r : Redirect) : StandUnder (record.fields.map (·.name)) r.members :=
  (standUnder_memberIf (Inverts.plain Token.inverts_decoder) "target" r.target?).cons
    (Inverts.plain Token.inverts_decoder r.operator) "operator"

theorem inverts_decoder : decoder.Inverts toJson :=
  Record.Matches.inverts matches_record standUnder_members "struct Redirect"

end Redirect

/-- A list of tokens that must stand. -/
theorem Token.yields_tokens {find : String → Option Json} {name : String} {ts : List Token}
    (found : Option.Rel Restates (find name) (some (tokensToJson ts))) :
    (Record.required name (.items Token.decoder)).Yields find ts :=
  Record.yields_written (reads_items (Inverts.reads Token.inverts_decoder)) found

theorem Token.isPlain_tokensToJson (ts : List Token) : (tokensToJson ts).isPlain = true :=
  isPlain_items (Inverts.plain Token.inverts_decoder) ts

namespace Component

def members (c : Component) : List (String × Json) :=
  c.toJson.members

theorem matches_record : record.Matches members where
  sound := by
    unfold record
    repeat first | apply Record.IsSound.seq | apply Record.IsSound.map | exact Record.isSound_field ..
  names := by decide
  spelled := Record.spelled_of_plain (by decide)
  yields find c each := by
    simp only [members, toJson, Json.members, List.reverse_append, List.lookup_append, reverse_memberIf, lookup_memberIf,
      reverse_memberIfAny, lookup_memberIfAny] at each
    have reads := Inverts.reads Token.inverts_decoder
    have baseCommand : (Record.optional "base_command" Token.decoder).Yields find c.baseCommand? :=
      Record.yields_optional reads Token.toJson_ne_null (by simpa [lookup_cons_eq_ite] using each "base_command")
    have subcommand : (Record.optional "subcommand" Token.decoder).Yields find c.subcommand? :=
      Record.yields_optional reads Token.toJson_ne_null (by simpa [lookup_cons_eq_ite] using each "subcommand")
    have options := Token.yields_tokens (by simpa [lookup_cons_eq_ite] using each "options")
    have arguments := Token.yields_tokens (by simpa [lookup_cons_eq_ite] using each "arguments")
    have parameters := Token.yields_tokens (by simpa [lookup_cons_eq_ite] using each "parameters")
    have redirects : (Record.required "redirects" (.items Redirect.decoder)).Yields find c.redirects :=
      Record.yields_written (reads_items (Inverts.reads Redirect.inverts_decoder))
        (by simpa [lookup_cons_eq_ite] using each "redirects")
    have terminator : (Record.optional "terminator" Token.decoder).Yields find c.terminator? :=
      Record.yields_optional reads Token.toJson_ne_null (by simpa [lookup_cons_eq_ite] using each "terminator")
    have trailing : (Record.defaulted "trailing" (.items Token.decoder) []).Yields find c.trailing :=
      Record.yields_items reads (by simpa [lookup_cons_eq_ite] using each "trailing")
    have tokens := Token.yields_tokens (by simpa [lookup_cons_eq_ite] using each "tokens")
    exact ((((((((baseCommand.map mk).seq subcommand).seq options).seq arguments).seq parameters).seq redirects).seq
      terminator).seq trailing).seq tokens

theorem standUnder_members (c : Component) : StandUnder (record.fields.map (·.name)) c.members :=
  have plain := Inverts.plain Token.inverts_decoder
  have tokens := Token.isPlain_tokensToJson
  ((((standUnder_memberIf plain ..).append (standUnder_memberIf plain ..)).append
    ((((standUnder_nil.cons (isPlain_items (Inverts.plain Redirect.inverts_decoder) _) "redirects").cons (tokens _)
      "parameters").cons (tokens _) "arguments").cons (tokens _) "options")).append
    (standUnder_memberIf plain ..)).append (standUnder_memberIfAny plain ..) |>.append
    (standUnder_nil.cons (tokens _) "tokens")

theorem inverts_decoder : decoder.Inverts toJson :=
  Record.Matches.inverts matches_record standUnder_members "struct Component"

end Component

namespace Structure

def members (s : Structure) : List (String × Json) :=
  s.toJson.members

theorem matches_record : record.Matches members where
  sound := by
    unfold record
    repeat first | apply Record.IsSound.seq | apply Record.IsSound.map | exact Record.isSound_field ..
  names := by decide
  spelled := Record.spelled_of_plain (by decide)
  yields find s each := by
    simp only [members, toJson, Json.members, List.reverse_append, List.lookup_append, reverse_memberIf, lookup_memberIf]
      at each
    have baseCommand : (Record.optional "base_command" Token.decoder).Yields find s.baseCommand? :=
      Record.yields_optional (Inverts.reads Token.inverts_decoder) Token.toJson_ne_null
        (by simpa [lookup_cons_eq_ite] using each "base_command")
    have subcommands := Token.yields_tokens (by simpa [lookup_cons_eq_ite] using each "subcommands")
    have options := Token.yields_tokens (by simpa [lookup_cons_eq_ite] using each "options")
    have arguments := Token.yields_tokens (by simpa [lookup_cons_eq_ite] using each "arguments")
    have parameters := Token.yields_tokens (by simpa [lookup_cons_eq_ite] using each "parameters")
    have separators := Token.yields_tokens (by simpa [lookup_cons_eq_ite] using each "separators")
    have components : (Record.required "components" (.items Component.decoder)).Yields find s.components :=
      Record.yields_written (reads_items (Inverts.reads Component.inverts_decoder))
        (by simpa [lookup_cons_eq_ite] using each "components")
    have tokens := Token.yields_tokens (by simpa [lookup_cons_eq_ite] using each "tokens")
    exact (((((((baseCommand.map mk).seq subcommands).seq options).seq arguments).seq parameters).seq separators).seq
      components).seq tokens

theorem standUnder_members (s : Structure) : StandUnder (record.fields.map (·.name)) s.members :=
  have tokens := Token.isPlain_tokensToJson
  (standUnder_memberIf (Inverts.plain Token.inverts_decoder) ..).append
    (((((((standUnder_nil.cons (tokens _) "tokens").cons (isPlain_items (Inverts.plain Component.inverts_decoder) _)
      "components").cons (tokens _) "separators").cons (tokens _) "parameters").cons (tokens _) "arguments").cons (tokens _)
      "options").cons (tokens _) "subcommands")

theorem inverts_decoder : decoder.Inverts toJson :=
  Record.Matches.inverts matches_record standUnder_members "struct CommandStructure"

end Structure

end ShellTemplate
