import Mathlib.Data.List.TakeWhile
import ShellTemplate.Json.Parser
import ShellTemplate.Json.Printer

namespace ShellTemplate.Json

/-- Every number in the value is a whole one of 64 bits, signed or not, and every text in it is one. -/
inductive IsExact : Json → Prop
  | null : IsExact .null
  | boolean (value : Bool) : IsExact (.boolean value)
  | integer {value : Int} (low : -(UInt64.size / 2 : Nat) ≤ value) (high : value < UInt64.size) :
      IsExact (.integer value)
  | text (value : String) : IsExact (.text value)
  | array {items : List Json} (each : ∀ item ∈ items, IsExact item) : IsExact (.array items)
  | object {members : List (String × Json)} (each : ∀ member ∈ members, IsExact member.2) : IsExact (.object members)

section

variable {c : Char} {cs rest : List Char} {fuel : Nat}

theorem hexValue?_hexDigit : ∀ n < 16, hexValue? (hexDigit n) = some n := by decide

theorem stringBody?_of_escape? (escape : escape? cs = some (some c, rest)) :
    stringBody? (fuel + 1) ('\\' :: cs) =
      (stringBody? fuel rest).map fun (body?, after) => (body?.map (c :: ·), after) := by
  simp only [stringBody?, escape, show ('\\' == '"') = false by decide, beq_self_eq_true, if_true, Bool.false_eq_true,
    if_false, Option.bind_eq_bind, Option.bind_some]
  cases stringBody? fuel rest <;> rfl

/-- A control character is escaped by its number. -/
theorem escape?_of_control (low : c.toNat < 32) :
    escape? ('u' :: '0' :: '0' :: hexDigit (c.toNat / 16) :: hexDigit (c.toNat % 16) :: rest) = some (some c, rest) := by
  have upper := hexValue?_hexDigit (c.toNat / 16) (by omega)
  have lower := hexValue?_hexDigit (c.toNat % 16) (by omega)
  have zero : hexValue? '0' = some 0 := by decide
  have whole : c.toNat / 16 * 16 + c.toNat % 16 = c.toNat := by omega
  have small : c.toNat < 0xD800 := by omega
  simp [escape?, codeUnit?, zero, upper, lower, whole, small]

/-- What a character is written as is read as that character. -/
theorem stringBody?_escaped (c : Char) (rest : List Char) (fuel : Nat) :
    stringBody? (fuel + 1) ((escaped c).toList ++ rest) =
      (stringBody? fuel rest).map fun (body?, after) => (body?.map (c :: ·), after) := by
  unfold escaped
  split
  case h_8 quote backslash _ _ _ _ _ =>
    split
    · rename_i low
      simpa using stringBody?_of_escape? (escape?_of_control low)
    · rename_i high
      simp only [String.toList_singleton, List.singleton_append, stringBody?, beq_false_of_ne quote,
        beq_false_of_ne backslash, Bool.false_eq_true, if_false, high]
      cases stringBody? fuel rest <;> rfl
  all_goals simpa using stringBody?_of_escape? rfl

theorem escaped_ne_nil (c : Char) : (escaped c).toList ≠ [] := by
  unfold escaped
  split
  case h_8 => split <;> simp
  all_goals simp

/-- The characters of a text between its quotes. -/
def bodyOf (s : String) : List Char :=
  s.toList.flatMap fun c => (escaped c).toList

theorem toList_quoted (s : String) : (quoted s).toList = '"' :: (bodyOf s ++ ['"']) := by
  have written (cs : List Char) (before : String) :
      (cs.foldl (fun written c => written ++ escaped c) before).toList =
        before.toList ++ cs.flatMap fun c => (escaped c).toList := by
    induction cs generalizing before with
    | nil => simp
    | cons c cs ih => rw [List.foldl_cons, ih, String.toList_append, List.flatMap_cons, List.append_assoc]
  simp [quoted, written, bodyOf]

theorem length_le_flatMap_escaped (cs : List Char) : cs.length ≤ (cs.flatMap fun c => (escaped c).toList).length := by
  induction cs with
  | nil => exact Nat.le_refl _
  | cons c cs ih =>
    have first := List.length_pos_iff.2 (escaped_ne_nil c)
    rw [List.flatMap_cons, List.length_append, List.length_cons]
    omega

theorem stringBody?_flatMap_escaped (enough : cs.length < fuel) :
    stringBody? fuel ((cs.flatMap fun c => (escaped c).toList) ++ '"' :: rest) = some (some cs, rest) := by
  induction cs generalizing fuel with
  | nil =>
    obtain ⟨fuel, rfl⟩ := Nat.exists_eq_succ_of_ne_zero (by omega : fuel ≠ 0)
    rfl
  | cons c cs ih =>
    obtain ⟨fuel, rfl⟩ := Nat.exists_eq_succ_of_ne_zero (by omega : fuel ≠ 0)
    rw [List.flatMap_cons, List.append_assoc, stringBody?_escaped, ih (Nat.lt_of_succ_lt_succ enough)]
    rfl

theorem stringBody?_bodyOf (s : String) (rest : List Char) :
    stringBody? ((bodyOf s ++ '"' :: rest).length + 1) (bodyOf s ++ '"' :: rest) = some (some s.toList, rest) := by
  refine stringBody?_flatMap_escaped ?_
  have short : s.toList.length ≤ (bodyOf s).length := length_le_flatMap_escaped s.toList
  rw [List.length_append]
  omega

end

/-- The characters are none or begin with one that ends a number. -/
def EndsNumber (rest : List Char) : Prop :=
  ∀ c ∈ rest.head?, c = ',' ∨ c = ']' ∨ c = '\x7d'

section

variable {rest : List Char}

theorem ofDigits_toDigits (n : Nat) : ofDigits (Nat.toDigits 10 n) = n :=
  Nat.ofDigitChars_toDigits (by decide) (by decide)

theorem head?_toDigits_ne_zero {n : Nat} (positive : 0 < n) : (Nat.toDigits 10 n).head? ≠ some '0' := by
  induction n using Nat.strongRecOn with
  | ind n ih =>
    by_cases small : n < 10
    · have digit : ∀ d < 10, 0 < d → [Nat.digitChar d].head? ≠ some '0' := by decide
      rw [Nat.toDigits_of_lt_base small]
      exact digit n small positive
    · have shorter := ih (n / 10) (by omega) (by omega)
      rw [Nat.toDigits_of_base_le (by decide) (by omega), List.head?_append]
      cases first : (Nat.toDigits 10 (n / 10)).head? with
      | none => exact absurd (List.head?_eq_none_iff.1 first) Nat.toDigits_ne_nil
      | some c => simpa [first] using shorter

theorem digits?_toDigits (ends : EndsNumber rest) (n : Nat) :
    digits? (Nat.toDigits 10 n ++ rest) = some (Nat.toDigits 10 n, rest) := by
  have digits : ∀ c ∈ Nat.toDigits 10 n, c.isDigit = true := fun c => Nat.isDigit_of_mem_toDigits (by decide) (by decide)
  have none : rest.takeWhile Char.isDigit = [] ∧ rest.dropWhile Char.isDigit = rest := by
    cases rest with
    | nil => exact ⟨rfl, rfl⟩
    | cons c rest =>
      rcases ends c rfl with rfl | rfl | rfl <;> exact ⟨rfl, rfl⟩
  unfold digits?
  rw [List.takeWhile_append_of_pos digits, List.dropWhile_append_of_pos digits, none.1, none.2, List.append_nil]
  split
  · rename_i empty
    exact absurd empty Nat.toDigits_ne_nil
  · rfl

/-- The digits of a number are read as the number. -/
theorem unsigned?_toDigits (ends : EndsNumber rest) (negative : Bool) (n : Nat) :
    unsigned? negative (Nat.toDigits 10 n ++ rest) = some (wholeNumber negative n, rest) := by
  have read := digits?_toDigits ends n
  have value := ofDigits_toDigits n
  rcases Nat.eq_zero_or_pos n with rfl | positive
  · cases rest with
    | nil => simp [unsigned?, ofDigits, digitValue]
    | cons c rest => rcases ends c rfl with rfl | rfl | rfl <;> simp [unsigned?, ofDigits, digitValue]
  · have first := head?_toDigits_ne_zero positive
    cases written : Nat.toDigits 10 n with
    | nil => exact absurd written Nat.toDigits_ne_nil
    | cons d ds =>
      rw [written, List.cons_append] at read
      rw [written, List.head?_cons] at first
      have nonzero : d ≠ '0' := fun same => first (congrArg some same)
      rw [written] at value
      cases rest with
      | nil =>
        rw [List.append_nil] at read
        simp [unsigned?, nonzero, read, value]
      | cons c rest => rcases ends c rfl with rfl | rfl | rfl <;> simp [unsigned?, nonzero, read, value]

theorem toList_toString_int (n : Int) :
    (toString n).toList = if 0 ≤ n then Nat.toDigits 10 n.toNat else '-' :: Nat.toDigits 10 (-n).toNat := by
  change n.repr.toList = _
  rw [Int.repr_eq_if]
  split <;> simp [Nat.toList_repr]

theorem exists_digit (n : Nat) : ∃ c cs, Nat.toDigits 10 n = c :: cs ∧ c.isDigit = true := by
  cases written : Nat.toDigits 10 n with
  | nil => exact absurd written Nat.toDigits_ne_nil
  | cons c cs =>
    exact ⟨c, cs, rfl, Nat.isDigit_of_mem_toDigits (by decide) (by decide) (written ▸ List.mem_cons_self)⟩

theorem isSpace_of_isDigit {c : Char} (digit : c.isDigit = true) : isSpace c = false := by
  refine Bool.eq_false_iff.2 fun space => ?_
  simp only [isSpace, Bool.or_eq_true, beq_iff_eq] at space
  rcases space with ((rfl | rfl) | rfl) | rfl <;> contradiction

theorem value?_of_digit {c : Char} {cs : List Char} (digit : c.isDigit = true) (fuel : Nat) :
    value? (fuel + 1) (c :: cs) = unsigned? false (c :: cs) := by
  unfold value?
  simp only [skipSpace, List.dropWhile_cons, isSpace_of_isDigit digit, Bool.false_eq_true, if_false]
  split <;> simp_all

theorem value?_integer (ends : EndsNumber rest) {n : Int} (low : -(UInt64.size / 2 : Nat) ≤ n)
    (high : n < UInt64.size) (fuel : Nat) :
    value? (fuel + 1) ((toString n).toList ++ rest) = some (.integer n, rest) := by
  rw [toList_toString_int]
  split
  · have whole : wholeNumber false n.toNat = .integer n := by
      have fits : n.toNat < UInt64.size := by omega
      simp only [wholeNumber, Bool.not_false, Bool.true_and, decide_eq_true fits, if_true, integer.injEq]
      omega
    obtain ⟨c, cs, written, digit⟩ := exists_digit n.toNat
    rw [← whole, ← unsigned?_toDigits ends, written]
    exact value?_of_digit digit fuel
  · have whole : wholeNumber true (-n).toNat = .integer n := by
      have fits : 0 < (-n).toNat ∧ (-n).toNat ≤ UInt64.size / 2 := by omega
      simp only [wholeNumber, Bool.not_true, Bool.false_and, Bool.false_eq_true, if_false, Bool.true_and,
        decide_eq_true fits.1, decide_eq_true fits.2, if_true, integer.injEq]
      omega
    rw [← whole, ← unsigned?_toDigits ends]
    rfl

end

/-- The text of the value begins with no space and with no bracket that ends an array. -/
theorem IsExact.exists_head {json : Json} (exact : json.IsExact) :
    ∃ c cs, json.compact.toList = c :: cs ∧ isSpace c = false ∧ c ≠ ']' := by
  cases exact with
  | null => exact ⟨'n', _, rfl, by decide⟩
  | boolean value => cases value <;> exact ⟨_, _, rfl, by decide⟩
  | @integer n low high =>
    rw [compact, toList_toString_int]
    split
    · obtain ⟨c, cs, written, digit⟩ := exists_digit n.toNat
      exact ⟨c, cs, written, isSpace_of_isDigit digit, by rintro rfl; contradiction⟩
    · exact ⟨'-', _, rfl, by decide⟩
  | text value => exact ⟨'"', _, toList_quoted value, by decide⟩
  | array each => exact ⟨'[', _, by rw [compact, String.toList_append, String.toList_append]; rfl, by decide⟩
  | object each => exact ⟨'\x7b', _, by rw [compact, String.toList_append, String.toList_append]; rfl, by decide⟩

/-- The text of the value is read as the value, whatever follows that ends a number. -/
def ReadsBack (json : Json) : Prop :=
  ∀ fuel rest, 2 * json.compact.toList.length ≤ fuel → EndsNumber rest →
    value? fuel (json.compact.toList ++ rest) = some (json, rest)

section

variable {rest : List Char} {fuel : Nat}

theorem endsNumber_cons {c : Char} (mark : c = ',' ∨ c = ']' ∨ c = '\x7d') : EndsNumber (c :: rest) :=
  fun _ same => Option.some.inj same ▸ mark

theorem skipSpace_of_not {c : Char} (mark : isSpace c = false) : skipSpace (c :: rest) = c :: rest := by
  rw [skipSpace, List.dropWhile_cons, mark]
  rfl

theorem items?_compactItems {items : List Json} (each : ∀ item ∈ items, ReadsBack item) (filled : items ≠ [])
    (enough : 2 * (compactItems items).toList.length < fuel) :
    items? fuel ((compactItems items).toList ++ ']' :: rest) = some (items, rest) := by
  induction items generalizing fuel with
  | nil => contradiction
  | cons item items ih =>
    obtain ⟨fuel, rfl⟩ := Nat.exists_eq_succ_of_ne_zero (by omega : fuel ≠ 0)
    have first := each item List.mem_cons_self
    cases items with
    | nil =>
      rw [compactItems] at enough ⊢
      have read := first fuel (']' :: rest) (by omega) (endsNumber_cons (by decide))
      simp [items?, read, skipSpace_of_not (by decide : isSpace ']' = false)]
    | cons next items =>
      have comma : ",".toList = [','] := rfl
      simp only [compactItems, String.toList_append, comma, List.length_append, List.append_assoc, List.length_cons,
        List.cons_append, List.nil_append] at enough ⊢
      have later : items? fuel _ = _ :=
        ih (fun item member => each item (List.mem_cons_of_mem _ member)) (by simp) (by omega)
      have read := first fuel (',' :: ((compactItems (next :: items)).toList ++ ']' :: rest)) (by omega)
        (endsNumber_cons (by decide))
      simp [items?, read, skipSpace_of_not (by decide : isSpace ',' = false), later]

/-- A member is read up to its value. -/
theorem members?_key (key : String) (fuel : Nat) (cs : List Char) :
    members? (fuel + 1) ((quoted key).toList ++ ':' :: cs) =
      (value? fuel cs).bind fun (value, rest) =>
        match skipSpace rest with
        | ',' :: rest => (members? fuel rest).bind fun (later?, rest) => some (later?.map ((key, value) :: ·), rest)
        | '\x7d' :: rest => some (some [(key, value)], rest)
        | _ => none := by
  have named := stringBody?_bodyOf key (':' :: cs)
  rw [toList_quoted, List.cons_append, List.append_assoc, List.singleton_append]
  simp only [members?, skipSpace_of_not (by decide : isSpace '"' = false),
    skipSpace_of_not (by decide : isSpace ':' = false), named, Option.bind_eq_bind, Option.bind_some, Option.map_some,
    String.ofList_toList]
  rfl

theorem members?_compactMembers {members : List (String × Json)} (each : ∀ member ∈ members, ReadsBack member.2)
    (filled : members ≠ []) (enough : 2 * (compactMembers members).toList.length < fuel) :
    members? fuel ((compactMembers members).toList ++ '\x7d' :: rest) = some (some members, rest) := by
  have colon : ":".toList = [':'] := rfl
  induction members generalizing fuel with
  | nil => contradiction
  | cons member members ih =>
    obtain ⟨key, value⟩ := member
    obtain ⟨fuel, rfl⟩ := Nat.exists_eq_succ_of_ne_zero (by omega : fuel ≠ 0)
    have first : ReadsBack value := each (key, value) List.mem_cons_self
    cases members with
    | nil =>
      simp only [compactMembers, String.toList_append, colon, List.length_append, List.append_assoc, List.length_cons,
        List.cons_append, List.nil_append] at enough ⊢
      have read := first fuel ('\x7d' :: rest) (by omega) (endsNumber_cons (by decide))
      rw [members?_key, read]
      rfl
    | cons next members =>
      have comma : ",".toList = [','] := rfl
      simp only [compactMembers, String.toList_append, colon, comma, List.length_append, List.append_assoc,
        List.length_cons, List.cons_append, List.nil_append] at enough ⊢
      have later : members? fuel _ = _ :=
        ih (fun member known => each member (List.mem_cons_of_mem _ known)) (by simp) (by omega)
      have read := first fuel (',' :: ((compactMembers (next :: members)).toList ++ '\x7d' :: rest)) (by omega)
        (endsNumber_cons (by decide))
      rw [members?_key, read]
      exact congrArg (Option.bind · _) later

end

theorem IsExact.readsBack_of_succ {json : Json} (exact : json.IsExact)
    (step : ∀ fuel rest, 2 * json.compact.toList.length ≤ fuel + 1 → EndsNumber rest →
      value? (fuel + 1) (json.compact.toList ++ rest) = some (json, rest)) : json.ReadsBack := by
  intro fuel rest enough ends
  obtain ⟨c, cs, head, _⟩ := exact.exists_head
  rw [head, List.length_cons] at enough
  obtain ⟨fuel, rfl⟩ := Nat.exists_eq_succ_of_ne_zero (by omega : fuel ≠ 0)
  exact step fuel rest (by rw [head, List.length_cons]; exact enough) ends

theorem value?_array {item : Json} {items : List Json} (exact : item.IsExact)
    (each : ∀ other ∈ item :: items, ReadsBack other) {fuel : Nat} {rest : List Char}
    (enough : 2 * (compactItems (item :: items)).toList.length < fuel) :
    value? (fuel + 1) ('[' :: ((compactItems (item :: items)).toList ++ ']' :: rest)) =
      some (.array (item :: items), rest) := by
  have read : items? fuel (_ ++ ']' :: rest) = _ := items?_compactItems each (by simp) enough
  obtain ⟨c, cs, head, mark, closing⟩ := exact.exists_head
  have begins : ∃ more, (compactItems (item :: items)).toList ++ ']' :: rest = c :: more := by
    cases items <;> simp [compactItems, head]
  obtain ⟨more, begins⟩ := begins
  rw [begins] at read ⊢
  simp [value?, skipSpace_of_not (by decide : isSpace '[' = false), skipSpace_of_not mark, closing, read]

theorem IsExact.readsBack {json : Json} (exact : json.IsExact) : json.ReadsBack := by
  induction exact with
  | null => exact IsExact.null.readsBack_of_succ fun _ _ _ _ => rfl
  | boolean value => exact (IsExact.boolean value).readsBack_of_succ fun _ _ _ _ => by cases value <;> rfl
  | integer low high =>
    exact (IsExact.integer low high).readsBack_of_succ fun fuel _ _ ends => value?_integer ends low high fuel
  | text value =>
    refine (IsExact.text value).readsBack_of_succ fun fuel rest _ _ => ?_
    have body := stringBody?_bodyOf value rest
    rw [compact, toList_quoted, List.cons_append, List.append_assoc, List.singleton_append]
    change (stringBody? _ _).map _ = _
    rw [body]
    change some (Json.text (String.ofList value.toList), rest) = _
    rw [String.ofList_toList]
  | @array items exact each =>
    refine (IsExact.array exact).readsBack_of_succ fun fuel rest enough _ => ?_
    have written : (Json.array items).compact.toList = '[' :: ((compactItems items).toList ++ [']']) := by
      rw [compact, String.toList_append, String.toList_append]
      rfl
    rw [written, List.length_cons, List.length_append, List.length_singleton] at enough
    rw [written, List.cons_append, List.append_assoc, List.singleton_append]
    cases items with
    | nil => rfl
    | cons item items => exact value?_array (exact item List.mem_cons_self) each (by omega)
  | @object members exact each =>
    refine (IsExact.object exact).readsBack_of_succ fun fuel rest enough _ => ?_
    have written : (Json.object members).compact.toList = '\x7b' :: ((compactMembers members).toList ++ ['\x7d']) := by
      rw [compact, String.toList_append, String.toList_append]
      rfl
    rw [written, List.length_cons, List.length_append, List.length_singleton] at enough
    rw [written, List.cons_append, List.append_assoc, List.singleton_append]
    cases members with
    | nil => rfl
    | cons member members =>
      have read : members? fuel (_ ++ '\x7d' :: rest) = _ := members?_compactMembers each (by simp) (by omega)
      obtain ⟨more, begins⟩ : ∃ more, (compactMembers (member :: members)).toList ++ '\x7d' :: rest = '"' :: more := by
        cases members <;> simp [compactMembers, toList_quoted]
      rw [begins] at read ⊢
      simp [value?, skipSpace_of_not (by decide : isSpace '\x7b' = false),
        skipSpace_of_not (by decide : isSpace '"' = false), read]

/-- The text of an exact value is read as the value. -/
theorem parse?_compact {json : Json} (exact : json.IsExact) : parse? json.compact = some json := by
  have read := exact.readsBack (2 * json.compact.toList.length + 2) [] (by omega) (by simp [EndsNumber])
  rw [List.append_nil] at read
  simp [parse?, read, skipSpace]

/-- Exact values with one text are one. -/
theorem IsExact.eq_of_compact {a b : Json} (first : a.IsExact) (second : b.IsExact) (same : a.compact = b.compact) :
    a = b := by
  have read := parse?_compact first
  rw [same, parse?_compact second] at read
  exact (Option.some.inj read).symm

end ShellTemplate.Json
