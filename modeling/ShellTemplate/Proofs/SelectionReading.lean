import Mathlib.Data.List.Nodup
import ShellTemplate.Proofs.DefinitionReading
import ShellTemplate.Proofs.StructureReading
import ShellTemplate.Selection

namespace ShellTemplate

namespace SortedList

variable {α : Type} {key : α → String}

theorem ext_toList {s t : SortedList α key} (same : s.toList = t.toList) : s = t := by
  cases s
  cases t
  cases same
  rfl

theorem insertSorted_of_above {x : α} {xs : List α} (above : ∀ y ∈ xs, key y < key x) :
    insertSorted key x xs = xs ++ [x] := by
  induction xs with
  | nil => rfl
  | cons y rest ih =>
    obtain ⟨first, later⟩ := List.forall_mem_cons.1 above
    have differ : key x ≠ key y := fun same => String.lt_irrefl _ (same ▸ first)
    have order : ¬ key x < key y := fun less => String.lt_irrefl _ (String.lt_trans less first)
    rw [insertSorted, if_neg differ, if_neg order, ih later, List.cons_append]

theorem toList_foldl_insert {s : SortedList α key} {xs : List α}
    (ordered : (s.toList ++ xs).Pairwise fun x y => key x < key y) : (xs.foldl insert s).toList = s.toList ++ xs := by
  induction xs generalizing s with
  | nil => exact (List.append_nil _).symm
  | cons x xs ih =>
    have above : ∀ y ∈ s.toList, key y < key x := fun y member =>
      (List.pairwise_append.1 ordered).2.2 y member x List.mem_cons_self
    have placed : (s.insert x).toList = s.toList ++ [x] := insertSorted_of_above above
    have split : (s.insert x).toList ++ xs = s.toList ++ x :: xs := by
      rw [placed, List.append_assoc, List.singleton_append]
    rw [List.foldl_cons, ih (split ▸ ordered), split]

/-- A sorted list is put together from its own elements. -/
theorem ofList_toList (s : SortedList α key) : ofList s.toList = s :=
  ext_toList (toList_foldl_insert s.ordered)

/-- A table is what is found in it. -/
theorem eq_of_lookup {β : Type} {s t : Table β} (same : ∀ name, s.toList.lookup name = t.toList.lookup name) :
    s = t := by
  have members (entry : String × β) : entry ∈ s.toList ↔ entry ∈ t.toList := by
    constructor
    · intro member
      exact mem_of_lookup (same entry.1 ▸ lookup_of_mem s.nodup_keys member)
    · intro member
      exact mem_of_lookup (same entry.1 ▸ lookup_of_mem t.nodup_keys member)
  have permuted := (List.perm_ext_iff_of_nodup s.nodup_keys.of_map t.nodup_keys.of_map).2 members
  refine ext_toList (permuted.eq_of_pairwise (fun a b _ _ less more => ?_) s.ordered t.ordered)
  exact absurd (String.lt_trans less more) (String.lt_irrefl _)

end SortedList

open Decoder Json

theorem BuildMode.reads_decoder : decoder.Reads fun mode => .text mode.name :=
  reads_choice fun mode => by cases mode <;> decide

theorem NameSet.reads_decoder : decoder.Reads fun s => textsToJson s.toList := by
  intro s json restates
  rw [decoder, reads_items reads_text s.toList json restates, Except.map, SortedList.ofList_toList]

namespace TrailingSegment

def members (t : TrailingSegment) : List (String × Json) :=
  t.toJson.members

theorem matches_record : record.Matches members where
  sound := by
    unfold record
    repeat first | apply Record.IsSound.seq | apply Record.IsSound.map | exact Record.isSound_field ..
  names := by decide
  spelled := Record.spelled_of_plain (by decide)
  yields find t each := by
    simp only [members, toJson, Json.members, List.reverse_cons, List.lookup_append, reverse_memberIf, lookup_memberIf]
      at each
    have symbol : (Record.required "symbol" Decoder.text).Yields find t.symbol :=
      Record.yields_written reads_text (by simpa [lookup_cons_eq_ite] using each "symbol")
    have target : (Record.optional "target" Decoder.text).Yields find t.target? :=
      Record.yields_optional reads_text text_ne_null (by simpa [lookup_cons_eq_ite] using each "target")
    exact (symbol.map mk).seq target

theorem inverts_decoder : decoder.Inverts toJson :=
  Record.Matches.inverts matches_record
    (fun t => (standUnder_memberIf (fun _ => rfl) "target" t.target?).cons rfl "symbol")
    "struct TrailingSegment"

end TrailingSegment

namespace Assignments

/-- The member under which a value is written. -/
def member (entry : String × String) : String × Json :=
  (entry.1, .text entry.2)

theorem toJson_eq (s : Assignments) : s.toJson = .object (s.toList.map member) := rfl

theorem mapping_members (entries : List (String × String)) :
    mapping text (.object (entries.map member)) = .ok entries := by
  change (entries.map member).mapM (Decoder.member text) = _
  induction entries with
  | nil => rfl
  | cons entry rest ih =>
    rw [List.map_cons, List.mapM_cons, ih]
    rfl

theorem lookup_members (entries : List (String × String)) (name : String) :
    (entries.map member).lookup name = (entries.lookup name).map .text := by
  induction entries with
  | nil => rfl
  | cons entry rest ih =>
    rw [List.map_cons, lookup_cons_eq_ite, lookup_cons_eq_ite, ih, apply_ite (Option.map Json.text)]
    rfl

theorem exists_members {members : List (String × Json)} (each : ∀ other ∈ members, ∃ value, other.2 = .text value) :
    ∃ entries : List (String × String), members = entries.map member := by
  induction members with
  | nil => exact ⟨[], rfl⟩
  | cons first rest ih =>
    obtain ⟨name, json⟩ := first
    obtain ⟨⟨value, rfl⟩, others⟩ := List.forall_mem_cons.1 each
    obtain ⟨entries, rfl⟩ := ih others
    exact ⟨(name, value) :: entries, rfl⟩

theorem reads_decoder : decoder.Reads toJson := by
  intro s json restates
  obtain ⟨own, rfl, distinct, each⟩ := restates.exists_members
  have stands (name : String) : own.lookup name = (s.toList.lookup name).map .text := by
    have found := each name
    change Option.Rel Restates _ ((s.toList.map member).reverse.lookup name) at found
    rw [← List.map_reverse, lookup_members, lookup_reverse_of_nodup s.nodup_keys] at found
    cases given : s.toList.lookup name <;> cases mine : own.lookup name <;> simp only [given, mine] at found
    case none.none => rfl
    case some.some value json =>
      cases found with
      | some same => rw [same.eq_text]; rfl
    all_goals cases found
  obtain ⟨entries, rfl⟩ := exists_members fun entry inside => by
    have found := stands entry.1
    rw [lookup_of_mem distinct inside] at found
    obtain ⟨value, _, same⟩ := Option.map_eq_some_iff.1 found.symm
    exact ⟨value, same.symm⟩
  have keys : (entries.map Prod.fst).Nodup := by rwa [List.map_map] at distinct
  rw [decoder, mapping_members]
  refine congrArg Except.ok (SortedList.eq_of_lookup fun name => ?_)
  rw [SortedList.lookup_ofList, lookup_reverse_of_nodup keys]
  have found := stands name
  rw [lookup_members] at found
  exact Option.map_injective (fun _ _ same => Json.text.inj same) found

theorem isPlain_toJson (s : Assignments) : s.toJson.isPlain = true := by
  refine isPlain_object_iff.2 ⟨?_, List.forall_mem_map.2 fun _ _ => rfl⟩
  rw [List.map_map]
  exact s.nodup_keys

end Assignments

namespace Selection

def members (s : Selection) : List (String × Json) :=
  s.toJson.members

theorem matches_record : record.Matches members where
  sound := by
    unfold record
    repeat first | apply Record.IsSound.seq | apply Record.IsSound.map | exact Record.isSound_field ..
  names := by decide
  spelled := Record.spelled_of_plain (by decide)
  yields find s each := by
    simp only [members, toJson, Json.members] at each
    have mark {name : String} {set : Bool} (found : Option.Rel Restates (find name) (some (.boolean set))) :
        (Record.defaulted name Decoder.boolean true).Yields find set := Record.yields_written reads_boolean found
    have mode : (Record.defaulted "mode" BuildMode.decoder .template).Yields find s.mode :=
      Record.yields_written BuildMode.reads_decoder (by simpa [lookup_cons_eq_ite] using each "mode")
    have subcommands : (Record.defaulted "selectedSubcommands" (.items Decoder.text) []).Yields find s.subcommands :=
      Record.yields_written (reads_items reads_text)
        (by simpa [lookup_cons_eq_ite, textsToJson] using each "selectedSubcommands")
    have options : (Record.defaulted "selectedOptions" NameSet.decoder {}).Yields find s.options :=
      Record.yields_written NameSet.reads_decoder (by simpa [lookup_cons_eq_ite] using each "selectedOptions")
    have assigned {name : String} {a : Assignments} (found : Option.Rel Restates (find name) (some a.toJson)) :
        (Record.defaulted name Assignments.decoder {}).Yields find a :=
      Record.yields_written Assignments.reads_decoder found
    have parameterValues := assigned (by simpa [lookup_cons_eq_ite] using each "parameterValues")
    have optionValues := assigned (by simpa [lookup_cons_eq_ite] using each "optionValues")
    have trailing : (Record.defaulted "trailing" (.items TrailingSegment.decoder) []).Yields find s.trailing :=
      Record.yields_written (reads_items (Inverts.reads TrailingSegment.inverts_decoder))
        (by simpa [lookup_cons_eq_ite] using each "trailing")
    have useDefaults := mark (by simpa [lookup_cons_eq_ite] using each "useDefaults")
    have validateRequired := mark (by simpa [lookup_cons_eq_ite] using each "validateRequired")
    have escapeValues := mark (by simpa [lookup_cons_eq_ite] using each "escapeValues")
    exact ((((((((mode.map mk).seq subcommands).seq options).seq parameterValues).seq optionValues).seq trailing).seq
      useDefaults).seq validateRequired).seq escapeValues

theorem standUnder_members (s : Selection) : StandUnder (record.fields.map (·.name)) s.members :=
  have texts (values : List String) : (textsToJson values).isPlain = true := isPlain_items (fun _ => rfl) values
  have segments := isPlain_items (Inverts.plain TrailingSegment.inverts_decoder) s.trailing
  ((((((((standUnder_nil.cons rfl "escapeValues").cons rfl "validateRequired").cons rfl "useDefaults").cons segments
    "trailing").cons s.optionValues.isPlain_toJson "optionValues").cons s.parameterValues.isPlain_toJson
    "parameterValues").cons (texts _) "selectedOptions").cons (texts _) "selectedSubcommands").cons rfl "mode"

theorem inverts_decoder : decoder.Inverts toJson :=
  Record.Matches.inverts matches_record standUnder_members "struct BuildConfig"

end Selection

end ShellTemplate
