import Mathlib.Data.List.Pairwise
import ShellTemplate.Proofs.PlaceholderFlag
import ShellTemplate.Proofs.PlaceholderForms

namespace ShellTemplate

/-- The ranges have no byte in common. -/
def Span.IsApart (a b : Span) : Prop :=
  a.stop ≤ b.start ∨ b.stop ≤ a.start

namespace Placeholder

/-- The braced run with the body. -/
def braced (body : List Char) : List Char :=
  '\x7b' :: '\x7b' :: (body ++ ['\x7d', '\x7d'])

/-- Reading finds exactly the braced runs whose body holds no closing brace. -/
theorem leadingRun?_eq_some_iff {cs run after : List Char} :
    leadingRun? cs = some (run, after) ↔ ∃ body, '\x7d' ∉ body ∧ run = braced body ∧ cs = run ++ after := by
  constructor
  · intro found
    unfold leadingRun? at found
    split at found
    · rename_i rest
      have whole := @List.takeWhile_append_dropWhile _ (· != '\x7d') rest
      split at found
      · rename_i stop
        obtain ⟨rfl, rfl⟩ := Prod.mk.inj (Option.some.inj found)
        rw [stop] at whole
        refine ⟨rest.takeWhile (· != '\x7d'), fun member => ?_, rfl, ?_⟩
        · exact absurd (List.all_eq_true.1 List.all_takeWhile _ member) (by decide)
        · simp [whole]
      · contradiction
    · contradiction
  · rintro ⟨body, unclosed, rfl, rfl⟩
    have inside := Text.bne_of_not_mem unclosed
    have taken := @Text.takeWhile_run _ _ ('\x7d' :: '\x7d' :: after) inside rfl
    have dropped := @Text.dropWhile_run _ _ ('\x7d' :: '\x7d' :: after) inside rfl
    simp [braced, leadingRun?, taken, dropped]

theorem written_eq_braced (name : String) (kind : PlaceholderKind) :
    written name kind = braced (name.toList ++ kindMark kind) := by
  simp [written, braced]

/-- A placeholder is a braced run. -/
theorem leadingRun?_of_leading? {cs after : List Char} {name : String} {kind : PlaceholderKind}
    (found : leading? cs = some (name, kind, after)) : leadingRun? cs = some (written name kind, after) := by
  obtain ⟨writable, whole⟩ := leading?_eq_some_iff.1 found
  exact leadingRun?_eq_some_iff.2 ⟨_, writable.unclosed, written_eq_braced name kind, whole⟩

/-- A text has its first closing brace at one place. -/
theorem eq_of_closed {front back rest rest' : List Char} (unclosed : '\x7d' ∉ front) (unclosed' : '\x7d' ∉ back)
    (same : front ++ '\x7d' :: rest = back ++ '\x7d' :: rest') : front = back ∧ rest = rest' := by
  have taken := congrArg (List.takeWhile (· != '\x7d')) same
  rw [Text.takeWhile_run (Text.bne_of_not_mem unclosed) rfl, Text.takeWhile_run (Text.bne_of_not_mem unclosed') rfl] at taken
  subst taken
  exact ⟨rfl, (List.cons.inj (List.append_cancel_left same)).2⟩

/-- The first closing braces end every placeholder before them, so that the scan can be cut behind them. -/
theorem scanFrom_closed_append {body : List Char} (unclosed : '\x7d' ∉ body) (position : Nat) (after : List Char) :
    scanFrom position (body ++ ['\x7d', '\x7d'] ++ after) =
      scanFrom position (body ++ ['\x7d', '\x7d']) ++
        scanFrom (position + Text.width (body ++ ['\x7d', '\x7d'])) after := by
  induction body generalizing position with
  | nil =>
    have step (position : Nat) (rest : List Char) :
        scanFrom position ('\x7d' :: rest) = scanFrom (position + Char.utf8Size '\x7d') rest :=
      scanFrom_of_none (leading?_of_ne (by decide) rest)
    simp only [List.nil_append, List.cons_append, step, scanFrom_nil, Text.width_cons, Text.width_nil, Nat.add_zero,
      Nat.add_assoc]
  | cons c body ih =>
    cases found : leading? (c :: body ++ ['\x7d', '\x7d'] ++ after) with
    | none =>
      have alone : leading? (c :: (body ++ ['\x7d', '\x7d'])) = none := by
        cases shorter : leading? (c :: (body ++ ['\x7d', '\x7d'])) with
        | none => rfl
        | some result =>
          have longer := leading?_append shorter after
          rw [← List.cons_append, found] at longer
          contradiction
      have others : '\x7d' ∉ body := fun member => unclosed (List.mem_cons_of_mem c member)
      rw [List.cons_append, List.cons_append] at found ⊢
      rw [scanFrom_of_none found, scanFrom_of_none alone, ih others, Text.width_cons, Nat.add_assoc]
    | some result =>
      obtain ⟨name, kind, rest⟩ := result
      obtain ⟨writable, whole⟩ := leading?_eq_some_iff.1 found
      have split : (c :: body) ++ '\x7d' :: '\x7d' :: after =
          ('\x7b' :: '\x7b' :: (name.toList ++ kindMark kind)) ++ '\x7d' :: '\x7d' :: rest := by
        simpa [written] using whole
      obtain ⟨front, back⟩ := eq_of_closed unclosed (by simpa using writable.unclosed) split
      have closed : c :: body ++ ['\x7d', '\x7d'] = written name kind := by
        rw [front]
        simp [written]
      rw [scanFrom_of_leading? found, closed, scanFrom_written writable, (List.cons.inj back).2, List.singleton_append]

/-- The placeholders of a text are those of its braced runs, in order. -/
theorem scanFrom_eq_flatMap_runs (position : Nat) (cs : List Char) :
    scanFrom position cs = (runsFrom position cs).flatMap fun run => scanFrom run.2.start run.1 := by
  fun_induction runsFrom position cs with
  | case1 position cs run after found stop ih =>
    obtain ⟨body, unclosed, rfl, rfl⟩ := leadingRun?_eq_some_iff.1 found
    have cut := @scanFrom_closed_append ('\x7b' :: '\x7b' :: body) (by simpa using unclosed) position after
    rw [List.flatMap_cons, ← ih]
    exact cut
  | case2 => exact scanFrom_nil _
  | case3 position c rest none ih =>
    have unread : leading? (c :: rest) = Option.none := by
      cases found : leading? (c :: rest) with
      | none => rfl
      | some result =>
        have run := leadingRun?_of_leading? found
        rw [none] at run
        contradiction
    rw [scanFrom_of_none unread, ih]

theorem mem_scan_iff {text : String} {p : Placeholder} :
    p ∈ scan text ↔ ∃ run ∈ runsFrom 0 text.toList, p ∈ scanFrom run.2.start run.1 := by
  rw [scan, scanFrom_eq_flatMap_runs, List.mem_flatMap]

theorem mem_malformedRuns_iff {text : String} {run : String × Span} :
    run ∈ malformedRuns text ↔ (run.1.toList, run.2) ∈ runsFrom 0 text.toList ∧ ofText? run.1 = none := by
  rw [malformedRuns, List.mem_filter, Option.isNone_iff_eq_none]
  refine and_congr_left fun _ => ?_
  rw [List.mem_map]
  constructor
  · rintro ⟨⟨run, span⟩, member, rfl⟩
    rwa [String.toList_ofList]
  · intro member
    exact ⟨_, member, by simp⟩

theorem braced_of_mem_runsFrom {position : Nat} {cs : List Char} {run : List Char × Span}
    (member : run ∈ runsFrom position cs) :
    (∃ body, '\x7d' ∉ body ∧ run.1 = braced body) ∧ position ≤ run.2.start ∧
      run.2.stop = run.2.start + Text.width run.1 := by
  fun_induction runsFrom position cs with
  | case1 position cs run after found stop ih =>
    obtain ⟨body, unclosed, shape, _⟩ := leadingRun?_eq_some_iff.1 found
    rcases List.mem_cons.1 member with rfl | later
    · exact ⟨⟨body, unclosed, shape⟩, Nat.le_refl _, rfl⟩
    · obtain ⟨inner, start, width⟩ := ih later
      exact ⟨inner, Nat.le_trans (Nat.le_add_right _ _) start, width⟩
  | case2 => exact absurd member List.not_mem_nil
  | case3 position c rest _ ih =>
    obtain ⟨inner, start, width⟩ := ih member
    exact ⟨inner, Nat.le_trans (Nat.le_add_right _ _) start, width⟩

theorem apart_runsFrom (position : Nat) (cs : List Char) :
    (runsFrom position cs).Pairwise fun run other => run.2.stop ≤ other.2.start := by
  fun_induction runsFrom position cs with
  | case1 position cs run after found stop ih =>
    exact List.pairwise_cons.2 ⟨fun other later => (braced_of_mem_runsFrom later).2.1, ih⟩
  | case2 => exact .nil
  | case3 position c rest _ ih => exact ih

/-- Two braced runs of a text are one or have no byte in common. -/
theorem eq_or_isApart {text : String} {run other : List Char × Span} (member : run ∈ runsFrom 0 text.toList)
    (member' : other ∈ runsFrom 0 text.toList) : run = other ∨ run.2.IsApart other.2 := by
  have symmetric : Std.Symm fun run other : List Char × Span => run.2.IsApart other.2 := ⟨fun _ _ => Or.symm⟩
  have apart := (apart_runsFrom 0 text.toList).imp fun ends => show Span.IsApart _ _ from Or.inl ends
  by_cases same : run = other
  · exact Or.inl same
  · exact Or.inr (apart.forall member member' same)

/-- A braced run holds a placeholder exactly if it ends in one. -/
theorem scanFrom_ne_nil_iff_suffix {body : List Char} (unclosed : '\x7d' ∉ body) (position : Nat) :
    scanFrom position (braced body) ≠ [] ↔
      ∃ name kind, IsWritable name kind ∧ written name kind <:+ braced body := by
  rw [scanFrom_ne_nil_iff]
  constructor
  · rintro ⟨front, name, kind, back, writable, whole⟩
    refine ⟨name, kind, writable, front, ?_⟩
    have twice := congrArg (List.count '\x7d') whole
    simp only [written_eq_braced, braced, List.count_append, List.count_cons, List.count_nil,
      List.count_eq_zero_of_not_mem unclosed, List.count_eq_zero_of_not_mem writable.unclosed, beq_self_eq_true,
      if_true] at twice
    have nothing : '\x7d' ∉ front := List.count_eq_zero.1 (by omega)
    have split : ('\x7b' :: '\x7b' :: body) ++ '\x7d' :: ['\x7d'] =
        (front ++ '\x7b' :: '\x7b' :: (name.toList ++ kindMark kind)) ++ '\x7d' :: ('\x7d' :: back) := by
      simpa [written, braced] using whole
    have inner : '\x7d' ∉ front ++ '\x7b' :: '\x7b' :: (name.toList ++ kindMark kind) := by
      simpa [nothing] using writable.unclosed
    obtain ⟨_, closing⟩ := eq_of_closed (by simpa using unclosed) inner split
    rw [whole, ← (List.cons.inj closing).2, List.append_nil]
  · rintro ⟨name, kind, writable, front, whole⟩
    exact ⟨front, name, kind, [], writable, by rw [List.append_nil, whole]⟩

/-- A braced run is malformed, or it is a placeholder with the same place. -/
theorem covered_of_mem_runsFrom {text : String} {run : List Char × Span} (member : run ∈ runsFrom 0 text.toList) :
    (∃ malformed ∈ malformedRuns text, malformed.2 = run.2) ∨ ∃ p ∈ scan text, p.span = run.2 := by
  cases read : ofText? (String.ofList run.1) with
  | none =>
    have malformed : (String.ofList run.1, run.2) ∈ malformedRuns text :=
      mem_malformedRuns_iff.2 ⟨by rwa [String.toList_ofList], read⟩
    exact Or.inl ⟨_, malformed, rfl⟩
  | some q =>
    obtain ⟨writable, same, _⟩ := ofText?_eq_some_iff.1 read
    obtain ⟨_, _, stop⟩ := braced_of_mem_runsFrom member
    have spelled : run.1 = written q.name q.kind := by rw [← toList_form, ← same, String.toList_ofList]
    have found := scanFrom_written writable run.2.start
    rw [← spelled, ← stop] at found
    exact Or.inr ⟨_, mem_scan_iff.2 ⟨run, member, found ▸ List.mem_singleton_self _⟩, rfl⟩

/-- A placeholder reaches into a malformed run exactly if it stands at the end of the run. -/
theorem forall_isApart_iff {text : String} {malformed : String × Span} (member : malformed ∈ malformedRuns text) :
    (∀ p ∈ scan text, malformed.2.IsApart p.span) ↔
      ∀ before name kind, IsWritable name kind → malformed.1 ≠ before ++ form name kind := by
  obtain ⟨stands, _⟩ := mem_malformedRuns_iff.1 member
  obtain ⟨⟨body, unclosed, shape⟩, _, stop⟩ := braced_of_mem_runsFrom stands
  have holds := scanFrom_ne_nil_iff_suffix unclosed malformed.2.start
  rw [← shape] at holds
  constructor
  · rintro apart before name kind writable same
    have ends : written name kind <:+ malformed.1.toList := ⟨before.toList, by rw [same, String.toList_append, toList_form]⟩
    obtain ⟨p, inside⟩ := List.exists_mem_of_ne_nil _ (holds.2 ⟨name, kind, writable, ends⟩)
    have bounds := span_of_mem_scanFrom inside
    have outside := apart p (mem_scan_iff.2 ⟨_, stands, inside⟩)
    simp only [Span.IsApart] at bounds outside stop
    omega
  · intro plain p found
    obtain ⟨run, member', inside⟩ := mem_scan_iff.1 found
    have bounds := span_of_mem_scanFrom inside
    obtain ⟨_, _, stop'⟩ := braced_of_mem_runsFrom member'
    rcases eq_or_isApart stands member' with rfl | apart
    · obtain ⟨name, kind, writable, front, whole⟩ := holds.1 (List.ne_nil_of_mem inside)
      refine absurd ?_ (plain (String.ofList front) name kind writable)
      rw [← String.toList_inj, String.toList_append, String.toList_ofList, toList_form, whole]
    · simp only [Span.IsApart] at apart ⊢
      omega

/-- Every braced run is malformed or a placeholder. It is not both, in that no placeholder shares a byte with a
malformed run, exactly if no malformed run ends in a placeholder. -/
theorem malformed_apart_iff (text : String) :
    (∀ run ∈ runsFrom 0 text.toList,
      (∃ malformed ∈ malformedRuns text, malformed.2 = run.2) ∨ ∃ p ∈ scan text, p.span = run.2) ∧
    ((∀ malformed ∈ malformedRuns text, ∀ p ∈ scan text, malformed.2.IsApart p.span) ↔
      ∀ malformed ∈ malformedRuns text, ∀ before name kind, IsWritable name kind →
        malformed.1 ≠ before ++ form name kind) :=
  ⟨fun _ => covered_of_mem_runsFrom, forall₂_congr fun _ => forall_isApart_iff⟩

/-- A third opening brace in front of a placeholder: the run from the first brace on is malformed, and the
placeholder inside it is found all the same. -/
theorem malformed_overlaps_of_triple_brace :
    ∃ malformed ∈ malformedRuns "\x7b\x7b\x7ba\x7d\x7d", ∃ p ∈ scan "\x7b\x7b\x7ba\x7d\x7d",
      ¬ malformed.2.IsApart p.span := by
  refine ⟨("\x7b\x7b\x7ba\x7d\x7d", ⟨0, 6⟩), by decide +kernel, ⟨"a", .required, ⟨1, 6⟩⟩, by decide +kernel, ?_⟩
  simp [Span.IsApart]

end Placeholder

end ShellTemplate
