import ShellTemplate.Text.Blank
import ShellTemplate.Text.Lowercase

namespace ShellTemplate.Text

namespace CaseRun

/-- The code points of the lowercase forms. -/
def image (run : CaseRun) : CaseRun :=
  { run with first := (run.first + run.shift).toNat, last := (run.last + run.shift).toNat }

/-- One run ends before the other one begins, or they take turns. -/
def isApart (a b : CaseRun) : Bool :=
  a.last.blt b.first || b.last.blt a.first ||
    b.stride == 2 && (a.stride == 2 || a.first == a.last) && (a.first + b.first) % 2 == 1

theorem holds_iff {run : CaseRun} {n : Nat} :
    run.holds n = true ↔ run.first ≤ n ∧ n ≤ run.last ∧ (n - run.first) % run.stride = 0 := by
  simp [holds, and_assoc]

theorem holds_eq_false_of_isApart {a b : CaseRun} (apart : a.isApart b = true) {n : Nat} (held : a.holds n = true) :
    b.holds n = false := by
  rw [holds_iff] at held
  rw [← Bool.not_eq_true, holds_iff]
  simp only [isApart, Bool.or_eq_true, Bool.and_eq_true, Nat.blt_eq, beq_iff_eq] at apart
  rintro ⟨after, before, even⟩
  rcases apart with (ends | ends) | ⟨⟨two, turns⟩, odd⟩
  · omega
  · omega
  · rw [two] at even
    rcases turns with other | single
    · rw [other] at held
      omega
    · omega

theorem holds_image {run : CaseRun} (positive : 0 ≤ run.first + run.shift) {n : Nat} (held : run.holds n = true) :
    run.image.holds (n + run.shift).toNat = true := by
  rw [holds_iff] at held ⊢
  simp only [image]
  refine ⟨by omega, by omega, ?_⟩
  rw [show (n + run.shift).toNat - (run.first + run.shift).toNat = n - run.first by omega]
  exact held.2.2

end CaseRun

/-- The runs of the characters that are not their own lowercase form. -/
def capitalRuns : List CaseRun :=
  lowercaseRuns.toList ++ [⟨0x41, 0x5A, 1, 32⟩, ⟨0x130, 0x130, 1, 0⟩]

/-- The code points of the blanks above ASCII. -/
def wideBlanks : List Nat :=
  [0x85, 0xA0, 0x1680, 0x2000, 0x2001, 0x2002, 0x2003, 0x2004, 0x2005, 0x2006, 0x2007, 0x2008, 0x2009, 0x200A, 0x2028,
    0x2029, 0x202F, 0x205F, 0x3000]

/-- The lowercase forms are characters, and neither capitals nor blanks. -/
def CaseRun.isSettled (run : CaseRun) : Bool :=
  decide (0 ≤ run.first + run.shift) &&
    (run.image.last < 0xD800 || 0xDFFF < run.image.first && run.image.last < 0x110000) &&
    capitalRuns.all run.image.isApart && wideBlanks.all (!run.image.holds ·) && 32 < run.image.first

theorem isSettled_lowercaseRuns : lowercaseRuns.toList.all CaseRun.isSettled = true := by
  decide +kernel

/-- Lowercasing leaves the character alone. -/
def IsLower (c : Char) : Prop :=
  lowerChar c = c ∧ c ≠ 'Σ' ∧ c ≠ 'İ'

instance (c : Char) : Decidable (IsLower c) :=
  inferInstanceAs (Decidable (_ ∧ _ ∧ _))

theorem toLower_eq_self {c : Char} (small : ¬ (0x41 ≤ c.toNat ∧ c.toNat ≤ 0x5A)) : c.toLower = c := by
  unfold Char.toLower
  rw [dif_neg]
  simpa [UInt32.le_iff_toNat_le] using small

theorem isLower_of_not_capital {c : Char} (small : ∀ run ∈ capitalRuns, run.holds c.toNat = false) : IsLower c := by
  have other {d : Char} (capital : capitalRuns.any (·.holds d.toNat) = true) : c ≠ d := by
    rintro rfl
    obtain ⟨run, member, held⟩ := List.any_eq_true.1 capital
    rw [small run member] at held
    contradiction
  refine ⟨?_, other (by decide +kernel), other (by decide +kernel)⟩
  unfold lowerChar
  split
  · have ascii := small ⟨0x41, 0x5A, 1, 32⟩ (by simp [capitalRuns])
    refine toLower_eq_self fun capital => ?_
    rw [CaseRun.holds_iff.2 ⟨capital.1, capital.2, Nat.mod_one _⟩] at ascii
    contradiction
  · have missed : lowercaseRuns.find? (·.holds c.toNat) = none := by
      rw [Array.find?_eq_none]
      intro run member
      rw [small run (List.mem_append_left _ (Array.mem_toList_iff.2 member))]
      exact Bool.false_ne_true
    rw [missed]

theorem isBlank_iff_of_wide {c : Char} (wide : 128 ≤ c.toNat) : isBlank c = true ↔ c.toNat ∈ wideBlanks := by
  simp only [isBlank, wideBlanks, Bool.or_eq_true, Bool.and_eq_true, decide_eq_true_eq, beq_iff_eq, List.mem_cons,
    List.not_mem_nil, or_false]
  omega

/-- What a character turns into is lowercase, and no blank unless the character is one. -/
def TurnsInto (c d : Char) : Prop :=
  IsLower d ∧ (isBlank d = true → isBlank c = true)

theorem TurnsInto.isBlank_eq_false {c d : Char} (turned : TurnsInto c d) (visible : isBlank c = false) : isBlank d = false :=
  Bool.eq_false_iff.2 fun blank => Bool.eq_false_iff.1 visible (turned.2 blank)

theorem turnsInto_of_ascii (n : Fin 128) : TurnsInto (Char.ofNat n) (lowerChar (Char.ofNat n)) := by
  revert n
  unfold TurnsInto
  decide +kernel

theorem turnsInto_of_run {c : Char} {run : CaseRun} (member : run ∈ lowercaseRuns) (held : run.holds c.toNat = true) :
    TurnsInto c (Char.ofNat (c.toNat + run.shift).toNat) := by
  have settled := List.all_eq_true.1 isSettled_lowercaseRuns run (Array.mem_toList_iff.2 member)
  simp only [CaseRun.isSettled, Bool.and_eq_true, Bool.or_eq_true, decide_eq_true_eq, List.all_eq_true] at settled
  obtain ⟨⟨⟨⟨positive, valid⟩, apart⟩, bright⟩, visible⟩ := settled
  have form := CaseRun.holds_image positive held
  have bounds := CaseRun.holds_iff.1 form
  have point : (Char.ofNat (c.toNat + run.shift).toNat).toNat = (c.toNat + run.shift).toNat := by
    rw [Char.ofNat, dif_pos]
    · rfl
    · simp only [Nat.isValidChar]
      omega
  refine ⟨isLower_of_not_capital fun other capital => ?_, fun blank => ?_⟩
  · rw [point]
    exact CaseRun.holds_eq_false_of_isApart (apart other capital) form
  · exfalso
    by_cases wide : 128 ≤ (Char.ofNat (c.toNat + run.shift).toNat).toNat
    · rw [isBlank_iff_of_wide wide, point] at blank
      simpa [form] using bright _ blank
    · simp only [isBlank, point, Bool.or_eq_true, Bool.and_eq_true, decide_eq_true_eq, beq_iff_eq] at blank
      omega

theorem turnsInto_lowerChar {c : Char} (sigma : c ≠ 'Σ') (dotted : c ≠ 'İ') : TurnsInto c (lowerChar c) := by
  by_cases ascii : c.toNat < 128
  · have small := turnsInto_of_ascii ⟨c.toNat, ascii⟩
    rwa [Char.ofNat_toNat] at small
  · cases found : lowercaseRuns.find? (·.holds c.toNat) with
    | none =>
      have form : lowerChar c = c := by
        unfold lowerChar
        rw [if_neg ascii, found]
      rw [TurnsInto, form]
      exact ⟨⟨form, sigma, dotted⟩, id⟩
    | some run =>
      have form : lowerChar c = Char.ofNat (c.toNat + run.shift).toNat := by
        unfold lowerChar
        rw [if_neg ascii, found]
      have held := Array.find?_some found
      rw [form]
      exact turnsInto_of_run (Array.mem_of_find?_eq_some found) held

/-- What a character becomes between others, of which the ones before it stand last one first. -/
def lowered (seen rest : List Char) (c : Char) : List Char :=
  if c == 'Σ' then [if casedNeighbour seen && !casedNeighbour rest then 'ς' else 'σ']
  else if c == 'İ' then ['i', '\u0307']
  else [lowerChar c]

theorem lowerFrom_cons (seen rest : List Char) (c : Char) :
    lowerFrom seen (c :: rest) = lowered seen rest c ++ lowerFrom (c :: seen) rest := by
  rw [lowerFrom, lowered]
  split
  · rfl
  · split <;> rfl

theorem turnsInto_of_mem_lowered {seen rest : List Char} {c d : Char} (member : d ∈ lowered seen rest c) :
    TurnsInto c d := by
  have small : IsLower 'σ' ∧ IsLower 'ς' ∧ IsLower 'i' ∧ IsLower '\u0307' := by decide +kernel
  have visible : isBlank 'σ' = false ∧ isBlank 'ς' = false ∧ isBlank 'i' = false ∧ isBlank '\u0307' = false := by decide
  unfold lowered at member
  split at member
  · obtain rfl := List.mem_singleton.1 member
    split <;> simp [TurnsInto, small, visible]
  · split at member
    · rw [List.mem_cons, List.mem_singleton] at member
      rcases member with rfl | rfl <;> simp [TurnsInto, small, visible]
    · obtain rfl := List.mem_singleton.1 member
      exact turnsInto_lowerChar (by simp_all) (by simp_all)

theorem lowered_ne_nil (seen rest : List Char) (c : Char) : lowered seen rest c ≠ [] := by
  unfold lowered
  split
  · exact List.cons_ne_nil _ _
  · split <;> exact List.cons_ne_nil _ _

theorem lowerFrom_cons_ne_nil (seen rest : List Char) (c : Char) : lowerFrom seen (c :: rest) ≠ [] := by
  rw [lowerFrom_cons]
  exact List.append_ne_nil_of_left_ne_nil (lowered_ne_nil seen rest c) _

theorem isLower_of_mem_lowerFrom {seen cs : List Char} {d : Char} (member : d ∈ lowerFrom seen cs) : IsLower d := by
  induction cs generalizing seen with
  | nil => contradiction
  | cons c rest ih =>
    rw [lowerFrom_cons, List.mem_append] at member
    rcases member with here | later
    · exact (turnsInto_of_mem_lowered here).1
    · exact ih later

theorem lowerFrom_of_isLower {cs : List Char} (small : ∀ c ∈ cs, IsLower c) (seen : List Char) : lowerFrom seen cs = cs := by
  induction cs generalizing seen with
  | nil => rfl
  | cons c rest ih =>
    obtain ⟨⟨same, sigma, dotted⟩, others⟩ := List.forall_mem_cons.1 small
    rw [lowerFrom, if_neg (by simpa using sigma), if_neg (by simpa using dotted), same, ih others]

theorem lowercase_lowercase (s : String) : lowercase (lowercase s) = lowercase s := by
  rw [lowercase, lowercase, String.toList_ofList,
    lowerFrom_of_isLower fun c member => isLower_of_mem_lowerFrom member]

/-- A lowercase form begins with no blank unless the text does. -/
theorem head?_lowerFrom {seen cs : List Char} (visible : ∀ c, cs.head? = some c → isBlank c = false) {d : Char}
    (first : (lowerFrom seen cs).head? = some d) : isBlank d = false := by
  cases cs with
  | nil => simp [lowerFrom] at first
  | cons c rest =>
    rw [lowerFrom_cons, List.head?_append, List.head?_eq_some_head (lowered_ne_nil seen rest c), Option.some_or] at first
    have turned := turnsInto_of_mem_lowered (List.head_mem (lowered_ne_nil seen rest c))
    rw [Option.some.inj first] at turned
    exact turned.isBlank_eq_false (visible c rfl)

/-- A lowercase form ends with no blank unless the text does. -/
theorem getLast?_lowerFrom {seen cs : List Char} (visible : ∀ c, cs.getLast? = some c → isBlank c = false) {d : Char}
    (last : (lowerFrom seen cs).getLast? = some d) : isBlank d = false := by
  induction cs generalizing seen with
  | nil => simp [lowerFrom] at last
  | cons c rest ih =>
    rw [lowerFrom_cons] at last
    cases rest with
    | nil =>
      have turned := turnsInto_of_mem_lowered (List.mem_of_getLast? (by simpa [lowerFrom] using last))
      exact turned.isBlank_eq_false (visible c rfl)
    | cons next rest =>
      rw [List.getLast?_append, List.getLast?_eq_some_getLast (lowerFrom_cons_ne_nil (c :: seen) rest next),
        Option.some_or] at last
      rw [← List.getLast?_eq_some_getLast] at last
      exact ih (fun e own => visible e (List.getLast?_cons_cons.trans own)) last

end ShellTemplate.Text
