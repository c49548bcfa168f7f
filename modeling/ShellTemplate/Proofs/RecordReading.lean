import ShellTemplate.Proofs.JsonRestating
import ShellTemplate.Proofs.RecordFields

namespace ShellTemplate

namespace Decoder

variable {α : Type} {value : Decoder α} {encode : α → Json}

/-- Whatever restates the JSON form of a value is read as the value. -/
def Reads (value : Decoder α) (encode : α → Json) : Prop :=
  ∀ a json, json.Restates (encode a) → value json = .ok a

theorem reads_text : Reads text .text := fun a json restates => by rw [restates.eq_text, text]

theorem reads_boolean : Reads boolean .boolean := fun a json restates => by rw [restates.eq_boolean, boolean]

theorem reads_natural (kind : String) : Reads (natural kind) fun n => .integer n :=
  fun a json restates => by rw [restates.eq_integer]; rfl

theorem reads_word : Reads word fun n => .integer n.toNat :=
  fun a json restates => by rw [restates.eq_integer, word_toNat]

theorem reads_items (reads : Reads value encode) : Reads (items value) fun as => .array (as.map encode) := by
  intro as json restates
  obtain ⟨own, rfl, each⟩ := restates.exists_items
  rw [List.forall₂_map_right_iff] at each
  clear restates
  change own.mapM value = .ok as
  induction each with
  | nil => rfl
  | cons first _ ih => rw [List.mapM_cons, reads _ _ first, ih]; rfl

theorem reads_nullable (reads : Reads value encode) (present : ∀ a, encode a ≠ .null) :
    Reads value.nullable fun a? => (a?.map encode).getD .null := by
  intro a? json restates
  cases a? with
  | none => rw [restates.eq_null, nullable]
  | some a =>
    have shown := restates.ne_null (present a)
    have read := reads a json restates
    cases json <;> simp_all [nullable, Except.map]

/-- A value that stands as its name is read if the name is known. -/
theorem reads_choice {known : List (String × α)} {name : α → String} (named : ∀ a, known.lookup (name a) = some a) :
    Reads (choice known) fun a => .text (name a) := by
  intro a json restates
  rw [restates.eq_text, choice, variant, named]

end Decoder

namespace Record

variable {α β : Type} {r : Record α} {find : String → Option Json}

/-- The record is put together from what stands under the names of its fields, and then each of these values passes
the check of its field. -/
structure IsSound (r : Record α) : Prop where
  congr : ∀ find other : String → Option Json, (∀ f ∈ r.fields, find f.name = other f.name) →
    r.assemble find = r.assemble other
  checked : ∀ find a, r.assemble find = .ok a → ∀ f ∈ r.fields, ∀ json, find f.name = some json → f.check json = .ok ()

theorem isSound_field (name : String) (spellings : List String) (value : Decoder α) (absent : Except DecodeError α) :
    (field name spellings value absent).IsSound where
  congr find other same := by
    simp only [field, same _ (List.mem_singleton.2 rfl)]
  checked find a made f member json found := by
    obtain rfl := List.mem_singleton.1 member
    change find name = some json at found
    simp only [field, found] at made
    simp [made, Except.map]

theorem IsSound.map (sound : r.IsSound) (f : α → β) : (f <$> r).IsSound where
  congr find other same := congrArg (Except.map f) (sound.congr find other same)
  checked find b made := by
    obtain ⟨a, assembled, _⟩ := assemble_map_eq_ok_iff.1 made
    exact sound.checked find a assembled

theorem IsSound.seq {make : Record (α → β)} (first : make.IsSound) (sound : r.IsSound) : (make <*> r).IsSound where
  congr find other same := by
    have left := first.congr find other fun f member => same f (List.mem_append_left _ member)
    have right := sound.congr find other fun f member => same f (List.mem_append_right _ member)
    change (make.assemble find >>= fun g => (r.assemble find).map g) = (make.assemble other >>= fun g => (r.assemble other).map g)
    rw [left, right]
  checked find b made f member := by
    obtain ⟨g, makes, a, assembled, _⟩ := assemble_seq_eq_ok_iff.1 made
    rcases List.mem_append.1 member with early | late
    · exact first.checked find g makes f early
    · exact sound.checked find a assembled f late

theorem find?_eq_of_nodup {fields : List Field} (names : (fields.map (·.name)).Nodup) {f : Field} (member : f ∈ fields) :
    fields.find? (·.name == f.name) = some f := by
  induction fields with
  | nil => contradiction
  | cons first rest ih =>
    rw [List.map_cons, List.nodup_cons] at names
    rcases List.mem_cons.1 member with rfl | later
    · exact List.find?_cons_of_pos (beq_self_eq_true _)
    · have other : first.name ≠ f.name := fun same => names.1 (same ▸ List.mem_map_of_mem later)
      rw [List.find?_cons_of_neg (by simpa using other)]
      exact ih names.2 later

/-- No field stands under two of its spellings, and none under another than its name. -/
structure Fits (fields : List Field) (members : List (String × Json)) : Prop where
  names : (fields.map (·.name)).Nodup
  keys : (members.map Prod.fst).Nodup
  spelled : ∀ f ∈ fields, f.name ∈ f.spellings ∧ ∀ key ∈ f.spellings, key ≠ f.name → members.lookup key = none

variable {fields : List Field} {members : List (String × Json)}

theorem Fits.key_eq (fits : Fits fields members) {f : Field} (known : f ∈ fields) {entry : String × Json}
    (member : entry ∈ members) (spelled : f.spellings.contains entry.1 = true) : entry.1 = f.name := by
  by_contra differ
  have absent := (fits.spelled f known).2 entry.1 (by simpa using spelled) differ
  rw [lookup_of_mem fits.keys member] at absent
  contradiction

theorem Fits.lookup_eq (fits : Fits fields members) {f : Field} (known : f ∈ fields) :
    lookup fields members f.name = members.lookup f.name := by
  unfold lookup
  rw [find?_eq_of_nodup fits.names known]
  dsimp only
  cases found : members.find? fun entry => f.spellings.contains entry.1 with
  | some entry =>
    have member := List.mem_of_find?_eq_some found
    have spelled := List.find?_some found
    have named := fits.key_eq known member spelled
    rw [← named, lookup_of_mem fits.keys member]
    rfl
  | none =>
    refine (List.lookup_eq_none_iff.2 fun entry member => bne_iff_ne.2 fun same => ?_).symm
    have own := List.find?_eq_none.1 found entry member
    rw [← same] at own
    exact own (by simpa using (fits.spelled f known).1)

theorem Fits.tail {entry : String × Json} (fits : Fits fields (entry :: members)) : Fits fields members where
  names := fits.names
  keys := (List.nodup_cons.1 fits.keys).2
  spelled f known := ⟨(fits.spelled f known).1, fun key other differ => by
    have absent := (fits.spelled f known).2 key other differ
    rw [lookup_cons_eq_ite] at absent
    split at absent
    · contradiction
    · exact absent⟩

theorem visit_eq_ok {seen : List String} (fits : Fits fields members) (unseen : ∀ entry ∈ members, entry.1 ∉ seen)
    (checked : ∀ f ∈ fields, ∀ json, (f.name, json) ∈ members → f.check json = .ok ()) :
    visit fields false seen members = .ok () := by
  induction members generalizing seen with
  | nil => rfl
  | cons entry rest ih =>
    obtain ⟨key, json⟩ := entry
    have later (f : Field) (known : f ∈ fields) (value : Json) (member : (f.name, value) ∈ rest) :=
      checked f known value (List.mem_cons_of_mem _ member)
    have fresh := (List.nodup_cons.1 fits.keys).1
    unfold visit
    cases found : fields.find? (·.spellings.contains key) with
    | none => exact ih fits.tail (fun entry member => unseen entry (List.mem_cons_of_mem _ member)) later
    | some f =>
      have known := List.mem_of_find?_eq_some found
      have spelled := List.find?_some found
      have named : key = f.name := fits.key_eq known List.mem_cons_self spelled
      subst named
      have new : seen.contains f.name = false := by simpa using unseen _ List.mem_cons_self
      simp only [new, Bool.false_eq_true, if_false, checked f known json List.mem_cons_self]
      refine ih fits.tail (fun entry member => ?_) later
      rw [List.mem_cons, not_or]
      refine ⟨?_, unseen entry (List.mem_cons_of_mem _ member)⟩
      exact fun same => fresh (List.mem_map.2 ⟨entry, member, same⟩)

/-- A record is read if it can be put together from the members and these fit its fields. -/
theorem ofMembers_eq_ok (sound : r.IsSound) (fits : Fits r.fields members) {a : α}
    (assembled : r.assemble (members.lookup ·) = .ok a) : r.ofMembers false members = .ok a := by
  have visited : visit r.fields false [] members = .ok () :=
    visit_eq_ok fits (fun _ _ => List.not_mem_nil) fun f known json member =>
      sound.checked _ a assembled f known json (lookup_of_mem fits.keys member)
  have same := sound.congr (lookup r.fields members) (members.lookup ·) fun f known => fits.lookup_eq known
  change (visit r.fields false [] members >>= fun _ => r.assemble (lookup r.fields members)) = _
  rw [visited, same]
  exact assembled

/-- The record is put together as a certain value. -/
def Yields (r : Record α) (find : String → Option Json) (a : α) : Prop :=
  r.assemble find = .ok a

theorem Yields.map {a : α} (yields : r.Yields find a) (f : α → β) : (f <$> r).Yields find (f a) :=
  assemble_map_eq_ok_iff.2 ⟨a, yields, rfl⟩

theorem Yields.seq {make : Record (α → β)} {g : α → β} {a : α} (first : make.Yields find g) (yields : r.Yields find a) :
    (make <*> r).Yields find (g a) :=
  assemble_seq_eq_ok_iff.2 ⟨g, first, a, yields, rfl⟩

section

variable {name : String} {spellings : List String} {value : Decoder α} {encode : α → Json}

/-- A field stands as its value is written, or it is left out and the value is the one for that case. -/
theorem yields_field (reads : value.Reads encode) {absent : Except DecodeError α} {a : α} {written? : Option Json}
    (found : Option.Rel Json.Restates (find name) written?) (written : ∀ json ∈ written?, json = encode a)
    (omitted : written? = none → absent = .ok a) : (field name spellings value absent).Yields find a := by
  unfold Yields field
  dsimp only
  cases stands : find name with
  | none =>
    rw [stands] at found
    cases found
    exact omitted rfl
  | some json =>
    rw [stands] at found
    cases found with
    | some restates => exact reads a json (written _ rfl ▸ restates)

theorem yields_written (reads : value.Reads encode) {absent : Except DecodeError α} {a : α}
    (found : Option.Rel Json.Restates (find name) (some (encode a))) : (field name spellings value absent).Yields find a :=
  yields_field reads found (fun _ same => (Option.some.inj same).symm) nofun

theorem yields_optional (reads : value.Reads encode) (present : ∀ a, encode a ≠ .null) {a? : Option α}
    (found : Option.Rel Json.Restates (find name) (a?.map encode)) : (optional name value).Yields find a? := by
  refine yields_field (Decoder.reads_nullable reads present) found ?_ ?_ <;> cases a? <;> simp

/-- A list that is left out when it is empty. -/
theorem yields_items (reads : value.Reads encode) {as : List α}
    (found : Option.Rel Json.Restates (find name) (if as = [] then none else some (.array (as.map encode)))) :
    (defaulted name (.items value) []).Yields find as := by
  refine yields_field (Decoder.reads_items reads) found ?_ ?_
  · intro json same
    split at same <;> simp_all
  · intro omitted
    split at omitted
    · rename_i empty
      rw [empty]
    · contradiction

/-- A mark that is left out when it is not set. -/
theorem yields_mark {set : Bool} (found : Option.Rel Json.Restates (find name) (if set then some (.boolean true) else none)) :
    (defaulted name Decoder.boolean false).Yields find set := by
  refine yields_field Decoder.reads_boolean found ?_ ?_ <;> cases set <;> simp

end

/-- The record has the fields that its values are written with: each value is put together again from members that
restate its own. -/
structure Matches (r : Record α) (members : α → List (String × Json)) : Prop where
  sound : r.IsSound
  names : (r.fields.map (·.name)).Nodup
  spelled : ∀ f ∈ r.fields, f.name ∈ f.spellings ∧
    ∀ key ∈ f.spellings, key ≠ f.name → ∀ a, (members a).reverse.lookup key = none
  yields : ∀ find a, (∀ key, Option.Rel Json.Restates (find key) ((members a).reverse.lookup key)) → r.Yields find a

theorem spelled_of_plain {write : α → List (String × Json)}
    (plain : r.fields.all (fun f => f.spellings == [f.name]) = true) :
    ∀ f ∈ r.fields, f.name ∈ f.spellings ∧
      ∀ key ∈ f.spellings, key ≠ f.name → ∀ a, (write a).reverse.lookup key = none := by
  intro f known
  have one : f.spellings = [f.name] := beq_iff_eq.1 (List.all_eq_true.1 plain f known)
  rw [one]
  exact ⟨List.mem_singleton.2 rfl, fun key member differ => absurd (List.mem_singleton.1 member) differ⟩

theorem Matches.ofMembers {write : α → List (String × Json)} (matched : r.Matches write)
    (keys : (members.map Prod.fst).Nodup) {a : α}
    (restates : ∀ key, Option.Rel Json.Restates (members.lookup key) ((write a).reverse.lookup key)) :
    r.ofMembers false members = .ok a := by
  refine ofMembers_eq_ok matched.sound ⟨matched.names, keys, fun f known => ?_⟩ (matched.yields _ a restates)
  refine ⟨(matched.spelled f known).1, fun key other differ => ?_⟩
  have absent := restates key
  rw [(matched.spelled f known).2 key other differ a] at absent
  cases stands : members.lookup key with
  | none => rfl
  | some json =>
    rw [stands] at absent
    cases absent

theorem Matches.reads {write : α → List (String × Json)} (matched : r.Matches write) (kind : String) :
    Decoder.Reads (r.decode kind) fun a => .object (write a) := by
  intro a json restates
  obtain ⟨own, rfl, keys, each⟩ := restates.exists_members
  exact matched.ofMembers keys each

end Record

end ShellTemplate
