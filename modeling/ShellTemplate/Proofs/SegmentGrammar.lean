import Mathlib.Data.List.TakeWhile
import ShellTemplate.Proofs.WordReread

namespace ShellTemplate

namespace Segment

/-- The characters that stand for themselves in a word, except that two opening braces begin a run. -/
def isBareword (c : Char) : Bool :=
  !Text.isBlank c && !(['\'', '"', '\\', '|', '&', ';', '<', '>'].contains c)

/-- A body between double quotes and what it stands for. A backslash is taken away before the characters
that it escapes and kept before all others. -/
inductive Unquotes (closed : Bool) : List Char → List Char → Prop
  | nil : Unquotes closed [] []
  | escape {c body value} : isEscapable c = true → Unquotes closed body value →
      Unquotes closed ('\\' :: c :: body) (c :: value)
  | char {c body value} : c ≠ '"' →
      (c = '\\' → ∀ d, (body ++ closing '"' closed).head? = some d → isEscapable d = false) →
      Unquotes closed body value → Unquotes closed (c :: body) (c :: value)

theorem isBareword_iff {c : Char} : isBareword c = true ↔
    Text.isBlank c = false ∧ Operator.isMark c = false ∧ c ≠ '\'' ∧ c ≠ '"' ∧ c ≠ '\\' := by
  rw [← Bool.not_eq_true (Operator.isMark c), Operator.isMark_iff]
  simp only [isBareword, Bool.and_eq_true, Bool.not_eq_true', List.contains_eq_mem, decide_eq_false_iff_not,
    List.mem_cons, List.not_mem_nil, or_false]
  grind

theorem Unquotes.value_eq {closed : Bool} {body value : List Char} (unquotes : Unquotes closed body value) :
    value = unescape body := by
  induction unquotes with
  | nil => rfl
  | escape escapable _ ih => rw [unescape, if_pos (by simp [escapable]), ih]
  | @char c body value _ keeps _ ih =>
    cases body with
    | nil => rw [ih]; rfl
    | cons d body =>
      rw [unescape, if_neg, ih]
      rintro both
      obtain ⟨isBackslash, escapable⟩ := Bool.and_eq_true_iff.1 both
      simp [keeps (beq_iff_eq.1 isBackslash) d rfl] at escapable

theorem Unquotes.doubleBody_eq {closed : Bool} {body value : List Char} (unquotes : Unquotes closed body value)
    (rest : List Char) (last : closed = false → rest = []) :
    doubleBody (body ++ (closing '"' closed ++ rest)) = (body, closed, rest) := by
  induction unquotes with
  | nil =>
    cases closed with
    | true => exact doubleBody_quote rest
    | false => rw [last rfl]; rfl
  | escape escapable _ ih => simp [doubleBody, escapable, ih]
  | @char c body value other keeps _ ih =>
    cases more : body ++ (closing '"' closed ++ rest) with
    | nil =>
      obtain ⟨rfl, isEnd⟩ := List.append_eq_nil_iff.1 more
      obtain ⟨isOpen, rfl⟩ := List.append_eq_nil_iff.1 isEnd
      cases closed with
      | true => simp [closing] at isOpen
      | false => simp [doubleBody, closing, other]
    | cons d tail =>
      rw [more] at ih
      have kept : ¬(c == '\\' && isEscapable d) = true := by
        intro both
        obtain ⟨isBackslash, escapable⟩ := Bool.and_eq_true_iff.1 both
        cases inside : body ++ closing '"' closed with
        | nil =>
          obtain ⟨rfl, isOpen⟩ := List.append_eq_nil_iff.1 inside
          cases closed with
          | true => simp [closing] at isOpen
          | false => simp [closing, last rfl] at more
        | cons e front =>
          rw [← List.append_assoc, inside, List.cons_append] at more
          have same := keeps (beq_iff_eq.1 isBackslash) e (by rw [inside]; rfl)
          rw [(List.cons.inj more).1, escapable] at same
          exact absurd same (by decide)
      rw [List.cons_append, more, doubleBody, if_neg (by simpa using other), if_neg kept, ih]

theorem unquotes_doubleBody (cs : List Char) :
    Unquotes (doubleBody cs).2.1 (doubleBody cs).1 (unescape (doubleBody cs).1) := by
  fun_induction doubleBody cs with
  | case1 => exact .nil
  | case2 => exact .nil
  | case3 c other => exact .char (by simpa using other) (fun _ d next => by simp [closing] at next) .nil
  | case4 => exact .nil
  | case5 c d rest _ escapes body closed after found ih =>
    obtain ⟨isBackslash, escapable⟩ := Bool.and_eq_true_iff.1 escapes
    cases beq_iff_eq.1 isBackslash
    rw [found] at ih
    rw [unescape, if_pos escapes]
    exact .escape escapable ih
  | case6 c d rest other kept body closed after found ih =>
    obtain ⟨more, next⟩ := doubleBody_head d rest []
    rw [found] at ih next
    simp only [List.append_nil] at next
    have value : unescape (c :: body) = c :: unescape body := by
      cases body with
      | nil => rfl
      | cons e tail =>
        cases (List.cons.inj next).1
        rw [unescape, if_neg kept]
    rw [value]
    refine .char (by simpa using other) (fun isBackslash e head => ?_) ih
    rw [next] at head
    cases head
    simpa [isBackslash] using kept

theorem not_closes_cons_iff {c d : Char} {cs : List Char} : ¬['\x7d', '\x7d'] <:+: c :: d :: cs ↔
    ¬(c = '\x7d' ∧ d = '\x7d') ∧ ¬['\x7d', '\x7d'] <:+: d :: cs := by
  rw [List.infix_cons_iff, List.cons_prefix_cons, List.cons_prefix_cons, not_or]
  simp [eq_comm]

/-- The run of a braced segment ends with the first two closing braces, or it takes all that follows. -/
theorem bracedRun_cases (cs : List Char) :
    (∃ run, (bracedRun cs).1 = run ++ ['\x7d', '\x7d'] ∧ ¬['\x7d', '\x7d'] <:+: run ++ ['\x7d']) ∨
      (bracedRun cs).2 = [] ∧ ¬['\x7d', '\x7d'] <:+: (bracedRun cs).1 := by
  fun_induction bracedRun cs with
  | case1 => exact Or.inr ⟨rfl, by simp⟩
  | case2 c => exact Or.inr ⟨rfl, fun holds => by simpa using holds.length_le⟩
  | case3 c d rest closes =>
    simp only [Bool.and_eq_true, beq_iff_eq] at closes
    obtain ⟨rfl, rfl⟩ := closes
    exact Or.inl ⟨[], rfl, fun holds => by simpa using holds.length_le⟩
  | case4 c d rest apart run after found ih =>
    obtain ⟨more, next⟩ := bracedRun_head d rest
    rw [found] at ih next
    simp only [Bool.and_eq_true, beq_iff_eq] at ih next apart
    subst next
    rcases ih with ⟨front, split, first⟩ | ⟨ends, none⟩
    · refine Or.inl ⟨c :: front, by rw [split]; rfl, ?_⟩
      cases front with
      | nil =>
        cases (List.cons.inj split).1
        exact not_closes_cons_iff.2 ⟨apart, first⟩
      | cons e front =>
        cases (List.cons.inj split).1
        exact not_closes_cons_iff.2 ⟨apart, first⟩
    · exact Or.inr ⟨ends, not_closes_cons_iff.2 ⟨apart, none⟩⟩

theorem bracedRun_of_first {run : List Char} (first : ¬['\x7d', '\x7d'] <:+: run ++ ['\x7d']) (rest : List Char) :
    bracedRun (run ++ '\x7d' :: '\x7d' :: rest) = (run ++ ['\x7d', '\x7d'], rest) := by
  induction run with
  | nil => rfl
  | cons c run ih =>
    cases run with
    | nil =>
      obtain ⟨apart, _⟩ := not_closes_cons_iff.1 first
      have other : ¬(c == '\x7d' && '\x7d' == '\x7d') = true := by simpa using apart
      rw [List.cons_append, List.nil_append, bracedRun, if_neg other]
      rfl
    | cons d run =>
      obtain ⟨apart, later⟩ := not_closes_cons_iff.1 first
      have other : ¬(c == '\x7d' && d == '\x7d') = true := by simpa using apart
      simp only [List.cons_append] at ih later ⊢
      rw [bracedRun, if_neg other, ih later]

theorem bracedRun_of_none {run : List Char} (none : ¬['\x7d', '\x7d'] <:+: run) : bracedRun run = (run, []) := by
  induction run with
  | nil => rfl
  | cons c run ih =>
    cases run with
    | nil => rfl
    | cons d run =>
      obtain ⟨apart, later⟩ := not_closes_cons_iff.1 none
      have other : ¬(c == '\x7d' && d == '\x7d') = true := by simpa using apart
      rw [bracedRun, if_neg other, ih later]

theorem read_double (cs : List Char) :
    read '"' cs = (.doubleQuoted (doubleBody cs).1 (doubleBody cs).2.1, (doubleBody cs).2.2) := by
  simp [read]

theorem Unquotes.read_closed {body value : List Char} (unquotes : Unquotes true body value) (rest : List Char) :
    read '"' (body ++ '"' :: rest) = (.doubleQuoted body true, rest) := by
  have whole := unquotes.doubleBody_eq rest nofun
  simp only [closing, if_true, List.cons_append, List.nil_append] at whole
  rw [read_double, whole]

theorem read_braced (cs : List Char) : read '\x7b' ('\x7b' :: cs) = (.braced (bracedRun cs).1, (bracedRun cs).2) := by
  simp [read]

theorem read_single {body : List Char} (inside : '\'' ∉ body) (rest : List Char) :
    read '\'' (body ++ '\'' :: rest) = (.singleQuoted body true, rest) := by
  have plain := Text.bne_of_not_mem inside
  simp [read, List.takeWhile_append_of_pos plain, List.dropWhile_append_of_pos plain]

theorem read_openSingle {body : List Char} (inside : '\'' ∉ body) :
    read '\'' body = (.singleQuoted body false, []) := by
  have plain := Text.bne_of_not_mem inside
  have taken : body.takeWhile (· != '\'') = body := List.takeWhile_eq_self_iff.2 plain
  have dropped : body.dropWhile (· != '\'') = [] := List.dropWhile_eq_nil_iff.2 plain
  simp [read, taken, dropped]

theorem read_plain {c : Char} {rest : List Char} (bareword : isBareword c = true)
    (apart : c = '\x7b' → rest.head? ≠ some '\x7b') : read c rest = (.plain c, rest) := by
  obtain ⟨_, _, notSingle, notDouble, notBackslash⟩ := isBareword_iff.1 bareword
  by_cases isBrace : c = '\x7b'
  · subst isBrace
    cases rest with
    | nil => rfl
    | cons d rest => simp_all [read]
  · simp [read, notSingle, notDouble, notBackslash, isBrace]

/-- How a segment may begin. -/
inductive Opens : Char → List Char → Prop
  | lastBackslash : Opens '\\' []
  | escaped {c rest} : Opens '\\' (c :: rest)
  | single {body rest} : '\'' ∉ body → Opens '\'' (body ++ '\'' :: rest)
  | openSingle {rest} : '\'' ∉ rest → Opens '\'' rest
  | double {rest} : Opens '"' rest
  | braced {rest} : Opens '\x7b' ('\x7b' :: rest)
  | plain {c rest} : isBareword c = true → (c = '\x7b' → rest.head? ≠ some '\x7b') → Opens c rest

theorem opens_of_goesOn {c : Char} {rest : List Char} (goesOn : Word.stopsAt (c :: rest) = false) : Opens c rest := by
  simp only [Word.stopsAt, Bool.or_eq_false_iff] at goesOn
  by_cases isBackslash : c = '\\'
  · subst isBackslash
    cases rest with
    | nil => exact .lastBackslash
    | cons d after => exact .escaped
  by_cases isSingle : c = '\''
  · subst isSingle
    by_cases closes : '\'' ∈ rest
    · obtain ⟨body, after, rfl, inside⟩ := List.eq_append_cons_of_mem closes
      exact .single inside
    · exact .openSingle closes
  by_cases isDouble : c = '"'
  · subst isDouble
    exact .double
  by_cases isRun : c = '\x7b' ∧ rest.head? = some '\x7b'
  · obtain ⟨rfl, second⟩ := isRun
    obtain ⟨inner, rfl⟩ := List.head?_eq_some_iff.1 second
    exact .braced
  · have bareword := isBareword_iff.2 ⟨goesOn.1, goesOn.2, isSingle, isDouble, isBackslash⟩
    exact .plain bareword fun isBrace second => isRun ⟨isBrace, second⟩

end Segment

end ShellTemplate
