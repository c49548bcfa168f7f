import Mathlib.Data.List.Forall2
import ShellTemplate.Json.Decode
import ShellTemplate.Proofs.SortedLookup

namespace ShellTemplate

namespace Json

theorem text_ne_null (value : String) : Json.text value ≠ .null := Json.noConfusion

theorem boolean_ne_null (value : Bool) : Json.boolean value ≠ .null := Json.noConfusion

def members : Json → List (String × Json)
  | .object members => members
  | _ => []

mutual

/-- Whether no key stands twice in an object, at any depth. -/
def isPlain : Json → Bool
  | .array items => arePlain items
  | .object members => decide (members.map Prod.fst).Nodup && membersArePlain members
  | _ => true

def arePlain : List Json → Bool
  | [] => true
  | item :: rest => item.isPlain && arePlain rest

def membersArePlain : List (String × Json) → Bool
  | [] => true
  | (_, value) :: rest => value.isPlain && membersArePlain rest

end

/-- The value is another one up to the order in which members stand. -/
structure Restates (json value : Json) : Prop where
  plain : json.isPlain = true
  same : json.sorted = value.sorted

theorem arePlain_iff {items : List Json} : arePlain items = true ↔ ∀ item ∈ items, item.isPlain = true := by
  induction items with
  | nil => simp [arePlain]
  | cons item rest ih => simp [arePlain, ih]

theorem membersArePlain_iff {members : List (String × Json)} :
    membersArePlain members = true ↔ ∀ member ∈ members, member.2.isPlain = true := by
  induction members with
  | nil => simp [membersArePlain]
  | cons member rest ih => simp [membersArePlain, ih]

theorem isPlain_object_iff {members : List (String × Json)} :
    (Json.object members).isPlain = true ↔
      (members.map Prod.fst).Nodup ∧ ∀ member ∈ members, member.2.isPlain = true := by
  rw [isPlain, Bool.and_eq_true, decide_eq_true_iff, membersArePlain_iff]

/-- Of the members with one key the last counts. -/
theorem lookup_sortedMembers (done members : List (String × Json)) (key : String) :
    (sortedMembers done members).lookup key = ((members.reverse.lookup key).map sorted).or (done.lookup key) := by
  induction members generalizing done with
  | nil => rfl
  | cons member rest ih =>
    rw [sortedMembers, ih, lookup_insertSorted, List.reverse_cons, List.lookup_append, lookup_cons_eq_ite]
    cases rest.reverse.lookup key with
    | some value => rfl
    | none => by_cases same : key = member.1 <;> simp [same]

/-- Neither a list nor an object. -/
def isScalar : Json → Bool
  | .array _ | .object _ => false
  | _ => true

/-- Sorting touches no value without parts and makes none. -/
theorem eq_of_sorted_eq {json value : Json} (scalar : value.isScalar = true) (same : json.sorted = value.sorted) :
    json = value := by
  cases json <;> cases value <;> simp_all [sorted, isScalar]

theorem Restates.refl {json : Json} (plain : json.isPlain = true) : json.Restates json := ⟨plain, rfl⟩

variable {json : Json}

theorem Restates.eq_text {value : String} (restates : json.Restates (.text value)) : json = .text value :=
  eq_of_sorted_eq rfl restates.same

theorem Restates.eq_boolean {value : Bool} (restates : json.Restates (.boolean value)) : json = .boolean value :=
  eq_of_sorted_eq rfl restates.same

theorem Restates.eq_integer {value : Int} (restates : json.Restates (.integer value)) : json = .integer value :=
  eq_of_sorted_eq rfl restates.same

theorem Restates.eq_null (restates : json.Restates .null) : json = .null :=
  eq_of_sorted_eq rfl restates.same

theorem Restates.ne_null {value : Json} (restates : json.Restates value) (present : value ≠ .null) : json ≠ .null := by
  rintro rfl
  exact present (eq_of_sorted_eq rfl restates.same.symm)

theorem restates_of_items {own items : List Json} (plain : ∀ item ∈ own, item.isPlain = true)
    (same : sortedItems own = sortedItems items) : List.Forall₂ Restates own items := by
  induction own generalizing items with
  | nil =>
    cases items with
    | nil => exact .nil
    | cons => simp [sortedItems] at same
  | cons item rest ih =>
    cases items with
    | nil => simp [sortedItems] at same
    | cons other others =>
      simp only [sortedItems, List.cons.injEq] at same
      exact .cons ⟨plain item List.mem_cons_self, same.1⟩
        (ih (fun later member => plain later (List.mem_cons_of_mem _ member)) same.2)

theorem Restates.exists_items {items : List Json} (restates : json.Restates (.array items)) :
    ∃ own, json = .array own ∧ List.Forall₂ Restates own items := by
  obtain ⟨plain, same⟩ := restates
  cases json with
  | array own => exact ⟨own, rfl, restates_of_items (arePlain_iff.1 plain) (Json.array.inj same)⟩
  | _ => simp [sorted] at same

/-- The members restate those of the object, wherever they stand. -/
theorem Restates.exists_members {members : List (String × Json)} (restates : json.Restates (.object members)) :
    ∃ own, json = .object own ∧ (own.map Prod.fst).Nodup ∧
      ∀ key, Option.Rel Restates (own.lookup key) (members.reverse.lookup key) := by
  obtain ⟨plain, same⟩ := restates
  cases json with
  | object own =>
    obtain ⟨distinct, plainMembers⟩ := isPlain_object_iff.1 plain
    refine ⟨own, rfl, distinct, fun key => ?_⟩
    have found := congrArg (List.lookup key) (Json.object.inj same)
    rw [lookup_sortedMembers, lookup_sortedMembers, lookup_reverse_of_nodup distinct] at found
    simp only [List.lookup_nil, Option.or_none] at found
    cases mine : own.lookup key with
    | none =>
      rw [mine, Option.map_none, eq_comm, Option.map_eq_none_iff] at found
      rw [found]
      exact .none
    | some value =>
      rw [mine, Option.map_some, eq_comm, Option.map_eq_some_iff] at found
      obtain ⟨theirs, there, equal⟩ := found
      rw [there]
      exact .some ⟨plainMembers _ (mem_of_lookup mine), equal.symm⟩
  | _ => simp [sorted] at same

theorem Restates.exists_member {key : String} {value : Json} (restates : json.Restates (.object [(key, value)])) :
    ∃ own, json = .object [(key, own)] ∧ own.Restates value := by
  obtain ⟨own, rfl, distinct, each⟩ := restates.exists_members
  have keys (entry : String × Json) (member : entry ∈ own) : entry.1 = key := by
    by_contra differ
    have absent := each entry.1
    simp [lookup_of_mem distinct member, lookup_cons_eq_ite, differ] at absent
  have held := each key
  cases own with
  | nil => simp at held
  | cons first rest =>
    obtain ⟨name, given⟩ := first
    obtain rfl : name = key := keys _ List.mem_cons_self
    cases rest with
    | nil => exact ⟨given, rfl, by simpa [lookup_cons_eq_ite] using held⟩
    | cons second others =>
      have again := keys second (by simp)
      simp [again] at distinct

section

variable {α : Type} {encode : α → Json}

/-- The members stand under some of the names, in their order, and no key stands twice in a value of theirs. -/
structure StandUnder (names : List String) (members : List (String × Json)) : Prop where
  keys : (members.map Prod.fst).Sublist names
  plain : ∀ member ∈ members, member.2.isPlain = true

theorem StandUnder.append {names later : List String} {members others : List (String × Json)} (first : StandUnder names members)
    (second : StandUnder later others) : StandUnder (names ++ later) (members ++ others) where
  keys := by
    rw [List.map_append]
    exact first.keys.append second.keys
  plain := List.forall_mem_append.2 ⟨first.plain, second.plain⟩

theorem standUnder_nil : StandUnder [] [] := ⟨.slnil, nofun⟩

theorem StandUnder.cons {names : List String} {members : List (String × Json)} {value : Json}
    (plain : value.isPlain = true) (name : String) (later : StandUnder names members) :
    StandUnder (name :: names) ((name, value) :: members) where
  keys := later.keys.cons_cons name
  plain := List.forall_mem_cons.2 ⟨plain, later.plain⟩

theorem standUnder_memberIf (plain : ∀ a, (encode a).isPlain = true) (name : String) (value? : Option α) :
    StandUnder [name] (memberIf name encode value?) := by
  cases value? with
  | none => exact ⟨List.nil_sublist _, nofun⟩
  | some value => exact standUnder_nil.cons (plain value) name

theorem isPlain_items (plain : ∀ a, (encode a).isPlain = true) (values : List α) :
    (Json.array (values.map encode)).isPlain = true := by
  rw [isPlain, arePlain_iff, List.forall_mem_map]
  exact fun value _ => plain value

theorem standUnder_memberIfAny (plain : ∀ a, (encode a).isPlain = true) (name : String) (values : List α) :
    StandUnder [name] (memberIfAny name encode values) := by
  cases values with
  | nil => exact ⟨List.nil_sublist _, nofun⟩
  | cons value rest => exact standUnder_nil.cons (isPlain_items plain _) name

end

end Json

end ShellTemplate
