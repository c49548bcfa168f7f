import ShellTemplate.Build
import ShellTemplate.Proofs.Reading
import ShellTemplate.Proofs.TextRuns

namespace ShellTemplate

namespace QuoteContext

/-- The values that stand for all others when a reader meets them: a letter, a digit, up to three dots,
another character without a meaning of its own, and one that must be escaped. -/
def probes : List String :=
  ["a", "1", ".", "..", "...", "/", "$"]

/-- A value that is written as it is in every context. -/
def isPlain (cs : List Char) : Bool :=
  cs.all fun c => !Text.isBlank c && !isSpecial c

/-- The value that stands for a value. -/
def probe (value : String) : String :=
  if !isPlain value.toList then "$"
  else if value.toList = ['.'] ∨ value.toList = ['.', '.'] ∨ value.toList = ['.', '.', '.'] then value
  else if value.toList.all Text.isNameChar then if value.toList.head?.any Char.isAlpha then "a" else "1"
  else "/"

theorem isPlain_cons {c : Char} {cs : List Char} :
    isPlain (c :: cs) = true ↔ (Text.isBlank c = false ∧ isSpecial c = false) ∧ isPlain cs = true := by
  simp [isPlain]

theorem ne_of_not_special {c d : Char} (plain : isSpecial c = false) (special : isSpecial d = true) : c ≠ d := by
  rintro rfl
  rw [plain] at special
  contradiction

theorem escapeDouble_of_isPlain {cs : List Char} (plain : isPlain cs = true) : escapeDouble cs = cs := by
  induction cs with
  | nil => rfl
  | cons c cs ih =>
    obtain ⟨⟨_, ordinary⟩, others⟩ := isPlain_cons.1 plain
    have single : Segment.isEscapable c = false := by
      simp [Segment.isEscapable, ne_of_not_special ordinary (show isSpecial '"' = true by decide),
        ne_of_not_special ordinary (show isSpecial '\\' = true by decide),
        ne_of_not_special ordinary (show isSpecial '$' = true by decide),
        ne_of_not_special ordinary (show isSpecial '\x60' = true by decide)]
    have tail := ih others
    simp only [escapeDouble, List.flatMap_cons] at tail ⊢
    rw [tail, single]
    rfl

theorem escapeSingle_of_isPlain {cs : List Char} (plain : isPlain cs = true) : escapeSingle cs = cs := by
  induction cs with
  | nil => rfl
  | cons c cs ih =>
    obtain ⟨⟨_, ordinary⟩, others⟩ := isPlain_cons.1 plain
    have other : c ≠ '\'' := ne_of_not_special ordinary (by decide)
    have tail := ih others
    simp only [escapeSingle, List.flatMap_cons] at tail ⊢
    rw [tail, if_neg (by simpa using other)]
    rfl

theorem any_eq_not_isPlain (cs : List Char) : (cs.any fun c => Text.isBlank c || isSpecial c) = !isPlain cs := by
  simp [isPlain, List.not_all_eq_any_not]

theorem escape_of_isPlain {value : String} (context : QuoteContext) (plain : isPlain value.toList = true) :
    context.escape value = value := by
  cases context with
  | unquoted => simp [escape, any_eq_not_isPlain, plain]
  | single => simp [escape, escapeSingle_of_isPlain plain]
  | double => simp [escape, escapeDouble_of_isPlain plain]

theorem escape_unquoted_of_not_isPlain {value : String} (special : isPlain value.toList = false) :
    (unquoted.escape value).toList = '"' :: (escapeDouble value.toList ++ ['"']) := by
  simp [escape, any_eq_not_isPlain, special]

end QuoteContext

namespace Reading

open QuoteContext

theorem read_escapeDouble (cs : List Char) : double.read (escapeDouble cs) = ([], double) := by
  induction cs with
  | nil => rfl
  | cons c cs ih =>
    simp only [escapeDouble, List.flatMap_cons] at ih ⊢
    by_cases escapes : Segment.isEscapable c = true
    · rw [if_pos escapes, List.cons_append, List.cons_append, List.nil_append, read_cons, read_cons]
      exact congrArg (emit [] ∘ emit []) ih
    · have step : double.step c = ([], double) := by
        simp only [Segment.isEscapable, Bool.or_eq_true, beq_iff_eq, not_or] at escapes
        simp [Reading.step, escapes]
      rw [if_neg escapes, List.cons_append, List.nil_append, read_cons, step]
      exact congrArg (emit []) ih

theorem read_escapeSingle (cs : List Char) : single.read (escapeSingle cs) = ([], single) := by
  induction cs with
  | nil => rfl
  | cons c cs ih =>
    simp only [escapeSingle, List.flatMap_cons] at ih ⊢
    by_cases quote : c = '\''
    · subst quote
      have around : single.read ['\'', '\\', '\'', '\''] = ([], single) := rfl
      rw [if_pos (beq_self_eq_true _), read_append, around, ih]
      rfl
    · have step : single.step c = ([], single) := by simp [Reading.step, quote]
      rw [if_neg (by simpa using quote), List.cons_append, List.nil_append, read_cons, step]
      exact congrArg (emit []) ih

section

variable {c : Char} (ordinary : isSpecial c = false)

include ordinary

theorem fromWord_of_ordinary (blank : Text.isBlank c = false) : fromWord c = ([], word) := by
  have differs {d : Char} (special : isSpecial d = true) : c ≠ d := ne_of_not_special ordinary special
  refine fromWord_of_plain blank ?_ fun member => ?_
  · cases mark : Operator.isMark c with
    | false => rfl
    | true =>
      rcases Operator.isMark_iff.1 mark with rfl | rfl | rfl | rfl | rfl <;> exact absurd rfl (differs (by decide))
  · simp only [List.mem_cons, List.not_mem_nil, or_false] at member
    rcases member with rfl | rfl | rfl | rfl <;> exact absurd rfl (differs (by decide))

theorem fromBetween_of_ordinary (blank : Text.isBlank c = false) : fromBetween c = ([], word) := by
  rw [fromBetween_of_ne (ne_of_not_special ordinary (by decide)), fromWord_of_ordinary ordinary blank]

theorem fromPending_of_ordinary (op : Operator) (blank : Text.isBlank c = false) : fromPending op c = ([op], word) := by
  have differs {d : Char} (special : isSpecial d = true) : c ≠ d := ne_of_not_special ordinary special
  have apart : op.growsBy [c] = false :=
    Operator.growsBy_eq_false ⟨differs (by decide), differs (by decide), differs (by decide), differs (by decide)⟩
  have stays : op.grow? c = none := by simpa [Operator.growsBy] using apart
  simp only [fromPending, stays, fromBetween_of_ordinary ordinary blank, emit, List.append_nil]

end

def isDots (cs : List Char) : Bool :=
  cs.all (· == '.')

/-- Where the reader stands behind a value that is written as it is. -/
def afterPlain (r : Reading) (cs : List Char) : List Operator × Reading :=
  match r with
  | between | word | brace | escape => ([], word)
  | single => ([], single)
  | double | doubleEscape => ([], double)
  | braced _ => ([], braced false)
  | pending op => ([op], word)
  | angle => if Text.isIdentifier cs then ([], name) else ([.redirectIn], word)
  | name => if cs.all Text.isNameChar then ([], name) else ([.redirectIn], word)
  | dots count =>
    if isDots cs ∧ count + cs.length ≤ 3 then ([], dots (count + cs.length))
    else ([.redirectIn, .redirectOut], word)

/-- A state that no plain character ends. -/
theorem read_stays {r : Reading} {cs : List Char} (plain : isPlain cs = true)
    (stays : ∀ c, Text.isBlank c = false → isSpecial c = false → r.step c = ([], r)) : r.read cs = ([], r) := by
  induction cs with
  | nil => rfl
  | cons c cs ih =>
    obtain ⟨⟨blank, ordinary⟩, others⟩ := isPlain_cons.1 plain
    rw [read_cons, stays c blank ordinary, ih others]
    rfl

theorem read_name_plain {cs : List Char} (plain : isPlain cs = true) : name.read cs = name.afterPlain cs := by
  induction cs with
  | nil => rfl
  | cons c cs ih =>
    obtain ⟨⟨blank, ordinary⟩, others⟩ := isPlain_cons.1 plain
    by_cases inside : Text.isNameChar c = true
    · rw [read_cons, show name.step c = ([], name) from if_pos inside]
      simp only [ih others, afterPlain, List.all_cons, inside, Bool.true_and]
      rfl
    · have close : c ≠ '>' := ne_of_not_special ordinary (by decide)
      have step : name.step c = ([.redirectIn], word) := by
        simp only [Reading.step, if_neg inside, if_neg close, fromWord_of_ordinary ordinary blank, emit, List.append_nil]
      have wordStays := @read_stays word cs others fun d solid usual => fromWord_of_ordinary usual solid
      rw [read_cons, step, wordStays]
      simp [afterPlain, inside, emit]

theorem read_dots_plain {cs : List Char} {count : Nat} (plain : isPlain cs = true) (few : count ≤ 3 ∨ cs ≠ []) :
    (dots count).read cs = (dots count).afterPlain cs := by
  induction cs generalizing count with
  | nil =>
    have bound : count ≤ 3 := few.resolve_right (by simp)
    simp [afterPlain, isDots, bound]
  | cons c cs ih =>
    obtain ⟨⟨blank, ordinary⟩, others⟩ := isPlain_cons.1 plain
    by_cases more : c = '.' ∧ count < 3
    · obtain ⟨rfl, less⟩ := more
      have step : (dots count).step '.' = ([], dots (count + 1)) := by simp [Reading.step, less]
      rw [read_cons, step]
      simp only [ih others (Or.inl less), afterPlain, List.length_cons]
      rw [show count + 1 + cs.length = count + (cs.length + 1) by omega]
      rfl
    · have wordStays := @read_stays word cs others fun d solid usual => fromWord_of_ordinary usual solid
      have step : (dots count).step c = ([.redirectIn, .redirectOut], word) := by
        simp only [Reading.step, if_neg more, blank, Bool.false_eq_true, false_and, if_false,
          fromWord_of_ordinary ordinary blank, fromPending_of_ordinary ordinary _ blank, emit, List.append_nil]
        split <;> rfl
      have tooMany : ¬(isDots (c :: cs) = true ∧ count + (c :: cs).length ≤ 3) := by
        rintro ⟨allDots, bound⟩
        rw [isDots, List.all_cons, Bool.and_eq_true, beq_iff_eq] at allDots
        rw [List.length_cons] at bound
        exact more ⟨allDots.1, by omega⟩
      rw [read_cons, step, wordStays, afterPlain, if_neg tooMany]
      rfl

/-- A state whose next character decides about an operator before it, and then begins a word. -/
theorem read_once {r : Reading} {c : Char} {cs : List Char} {found : List Operator}
    (step : r.step c = (found, word)) (plain : isPlain cs = true) : r.read (c :: cs) = (found, word) := by
  have wordStays := @read_stays word cs plain fun d solid usual => fromWord_of_ordinary usual solid
  rw [read_cons, step, wordStays, emit, List.append_nil]

/-- Values that are written as they are are told apart by few properties only. -/
theorem read_plain (r : Reading) {cs : List Char} (plain : isPlain cs = true) (filled : cs ≠ []) :
    r.read cs = r.afterPlain cs := by
  cases cs with
  | nil => exact absurd rfl filled
  | cons c cs =>
    obtain ⟨⟨blank, ordinary⟩, others⟩ := isPlain_cons.1 plain
    have differs {d : Char} (special : isSpecial d = true) : c ≠ d := ne_of_not_special ordinary special
    have doubleStays {ds : List Char} (plain : isPlain ds = true) : double.read ds = ([], double) := by
      refine read_stays plain fun d _ usual => ?_
      simp [Reading.step, ne_of_not_special usual (show isSpecial '"' = true by decide),
        ne_of_not_special usual (show isSpecial '\\' = true by decide)]
    cases r with
    | between => exact read_once (fromBetween_of_ordinary ordinary blank) others
    | word => exact read_once (fromWord_of_ordinary ordinary blank) others
    | brace =>
      have step : brace.step c = ([], word) := by
        rw [Reading.step, if_neg (differs (by decide)), fromWord_of_ordinary ordinary blank]
      exact read_once step others
    | escape => exact read_once rfl others
    | single =>
      refine read_stays plain fun d _ usual => ?_
      simp [Reading.step, ne_of_not_special usual (show isSpecial '\'' = true by decide)]
    | double => exact doubleStays plain
    | doubleEscape =>
      rw [read_cons, show doubleEscape.step c = ([], double) from rfl, doubleStays others]
      rfl
    | braced afterBrace =>
      have step : (braced afterBrace).step c = ([], braced false) := by
        simp [Reading.step, differs (show isSpecial '\x7d' = true by decide)]
      have stays := @read_stays (braced false) cs others fun d _ usual => by
        simp [Reading.step, ne_of_not_special usual (show isSpecial '\x7d' = true by decide)]
      rw [read_cons, step, stays]
      rfl
    | pending op => exact read_once (fromPending_of_ordinary ordinary op blank) others
    | angle =>
      by_cases alpha : c.isAlpha = true
      · rw [read_cons, show angle.step c = ([], name) from if_pos alpha, read_name_plain others]
        simp only [afterPlain, Text.isIdentifier, alpha, Bool.true_and]
        rfl
      · have step : angle.step c = ([.redirectIn], word) := by
          simp only [Reading.step, if_neg alpha, fromPending_of_ordinary ordinary _ blank]
        rw [read_once step others]
        simp [afterPlain, Text.isIdentifier, alpha]
    | name => exact read_name_plain plain
    | dots count => exact read_dots_plain plain (Or.inr filled)

theorem afterPlain_congr (r : Reading) {cs ds : List Char} (identifier : Text.isIdentifier cs = Text.isIdentifier ds)
    (names : cs.all Text.isNameChar = ds.all Text.isNameChar)
    (solid : ¬(isDots cs = true ∧ cs.length ≤ 3)) (solid' : ¬(isDots ds = true ∧ ds.length ≤ 3)) :
    r.afterPlain cs = r.afterPlain ds := by
  cases r with
  | angle => simp only [afterPlain, identifier]
  | name => simp only [afterPlain, names]
  | dots count =>
    rw [afterPlain, if_neg fun ⟨all, bound⟩ => solid ⟨all, by omega⟩, afterPlain,
      if_neg fun ⟨all, bound⟩ => solid' ⟨all, by omega⟩]
  | _ => rfl

/-- A plain value and its probe have the properties that tell values apart in common. -/
theorem afterPlain_probe (r : Reading) {value : String} (plain : isPlain value.toList = true)
    (filled : value.toList ≠ []) : r.afterPlain (probe value).toList = r.afterPlain value.toList := by
  unfold probe
  rw [plain, Bool.not_true, if_neg Bool.false_ne_true]
  split
  · rfl
  rename_i noDots
  have solid : ¬(isDots value.toList = true ∧ value.toList.length ≤ 3) := by
    rintro ⟨allDots, bound⟩
    have whole := List.eq_replicate_iff.2 ⟨rfl, fun c member => beq_iff_eq.1 (List.all_eq_true.1 allDots c member)⟩
    have positive := List.length_pos_iff.2 filled
    generalize value.toList.length = count at whole bound positive
    obtain rfl | rfl | rfl : count = 1 ∨ count = 2 ∨ count = 3 := by omega
    · exact noDots (Or.inl whole)
    · exact noDots (Or.inr (Or.inl whole))
    · exact noDots (Or.inr (Or.inr whole))
  by_cases inside : value.toList.all Text.isNameChar = true
  · have identifier : Text.isIdentifier value.toList = value.toList.head?.any Char.isAlpha := by
      cases chars : value.toList with
      | nil => rfl
      | cons c cs =>
        rw [chars, List.all_cons, Bool.and_eq_true] at inside
        simp [Text.isIdentifier, inside.2]
    rw [if_pos inside]
    cases alpha : value.toList.head?.any Char.isAlpha with
    | true => exact afterPlain_congr r (by rw [identifier, alpha]; rfl) (by rw [inside]; rfl) (by decide) solid
    | false => exact afterPlain_congr r (by rw [identifier, alpha]; rfl) (by rw [inside]; rfl) (by decide) solid
  · have notIdentifier : Text.isIdentifier value.toList = false := by
      cases identifier : Text.isIdentifier value.toList with
      | false => rfl
      | true => exact absurd (List.all_eq_true.2 (Text.isNameChar_of_isIdentifier identifier)) inside
    rw [Bool.not_eq_true] at inside
    rw [if_neg (by rw [inside]; decide)]
    exact afterPlain_congr r (by rw [notIdentifier]; rfl) (by rw [inside]; rfl) (by decide) solid

end Reading

end ShellTemplate
