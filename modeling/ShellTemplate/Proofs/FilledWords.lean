import ShellTemplate.Build
import ShellTemplate.Proofs.PlaceholderFlag

namespace ShellTemplate

/-- The same selection, where missing values are let through. -/
def Selection.relaxed (s : Selection) : Selection :=
  { s with validateRequired := false }

namespace Build

/-- The strict computation succeeds exactly if the condition holds, and then the lenient one makes the
same. -/
structure Agrees {α : Type} (condition : Prop) (strict lenient : Except BuildError α) : Prop where
  succeeds_iff : (∃ a, strict = .ok a) ↔ condition
  kept : ∀ a, strict = .ok a → lenient = .ok a

namespace Agrees

variable {α β : Type} {p q : Prop}

theorem ok (a : α) : Agrees True (.ok a) (.ok a) :=
  ⟨⟨fun _ => trivial, fun _ => ⟨a, rfl⟩⟩, fun _ same => same⟩

theorem error (e : BuildError) (lenient : Except BuildError α) : Agrees False (.error e) lenient :=
  ⟨by simp, by simp⟩

theorem congr {x y : Except BuildError α} (agrees : Agrees p x y) (same : p ↔ q) : Agrees q x y :=
  ⟨agrees.succeeds_iff.trans same, agrees.kept⟩

theorem bind {x y : Except BuildError α} {f g : α → Except BuildError β} (agrees : Agrees p x y)
    (next : ∀ a, Agrees q (f a) (g a)) : Agrees (p ∧ q) (x >>= f) (y >>= g) := by
  cases first : x with
  | error e =>
    refine (error e _).congr ⟨False.elim, fun holds => ?_⟩
    obtain ⟨a, made⟩ := agrees.succeeds_iff.2 holds.1
    simp [first] at made
  | ok a =>
    have holds : p := agrees.succeeds_iff.1 ⟨a, first⟩
    rw [agrees.kept a first]
    exact (next a).congr ⟨fun other => ⟨holds, other⟩, And.right⟩

theorem map {x y : Except BuildError α} (f : α → β) (agrees : Agrees p x y) :
    Agrees p (x.map f) (y.map f) := by
  cases first : x with
  | error e =>
    rw [first] at agrees
    exact (error e _).congr (by simpa using agrees.succeeds_iff)
  | ok a =>
    rw [agrees.kept a first]
    exact (ok (f a)).congr ⟨fun _ => agrees.succeeds_iff.1 ⟨a, first⟩, fun _ => trivial⟩

theorem mapM {holds : α → Prop} {f g : α → Except BuildError β} {xs : List α}
    (agrees : ∀ x ∈ xs, Agrees (holds x) (f x) (g x)) :
    Agrees (∀ x ∈ xs, holds x) (xs.mapM f) (xs.mapM g) := by
  induction xs with
  | nil => exact (ok []).congr (by simp)
  | cons x xs ih =>
    rw [List.mapM_cons, List.mapM_cons]
    have tail := ih fun y member => agrees y (List.mem_cons_of_mem _ member)
    have whole := (agrees x List.mem_cons_self).bind fun y => tail.bind fun ys => ok (y :: ys)
    exact whole.congr (by simp)

end Agrees

/-- A placeholder that must be filled, but has no value. -/
def isUnfilled (d : Definition) (s : Selection) (p : Placeholder) : Bool :=
  (occurrenceValue? s p (d.findParameter? p.name)).isNone && p.mustBeFilled (d.findParameter? p.name)

theorem fillFrom_of_leading? {d : Definition} {s : Selection} {word : String} {position : Nat}
    {cs after : List Char} {name : String} {kind : PlaceholderKind}
    (found : Placeholder.leading? cs = some (name, kind, after)) :
    fillFrom d s word position cs = (do
      let stop := position + Text.width (Placeholder.written name kind)
      let text ← occurrenceText d s word ⟨name, kind, ⟨position, stop⟩⟩
      return text ++ (← fillFrom d s word stop after)) := by
  rw [fillFrom]
  split
  · rename_i again
    rw [found] at again
    simp only [Option.some.injEq, Prod.mk.injEq] at again
    obtain ⟨rfl, rfl, rfl⟩ := again
    rfl
  · simp_all

theorem fillFrom_of_none {d : Definition} {s : Selection} {word : String} {position : Nat} {c : Char}
    {rest : List Char} (none : Placeholder.leading? (c :: rest) = none) :
    fillFrom d s word position (c :: rest) = (do
      return String.singleton c ++ (← fillFrom d s word (position + c.utf8Size) rest)) := by
  rw [fillFrom]
  split
  · simp_all
  · rfl

theorem fillFrom_nil (d : Definition) (s : Selection) (word : String) (position : Nat) :
    fillFrom d s word position [] = .ok "" := by
  rw [fillFrom]
  rfl

section

variable {d : Definition} {s : Selection}

theorem occurrenceText_agrees (enforced : s.validateRequired = true) (word : String) (p : Placeholder) :
    Agrees (isUnfilled d s p = false) (occurrenceText d s word p) (occurrenceText d s.relaxed word p) := by
  have same : occurrenceValue? s.relaxed p (d.findParameter? p.name) =
      occurrenceValue? s p (d.findParameter? p.name) := rfl
  unfold occurrenceText isUnfilled
  dsimp only
  rw [same]
  cases occurrenceValue? s p (d.findParameter? p.name) with
  | some value => exact (Agrees.ok _).congr (by simp)
  | none =>
    cases needed : p.mustBeFilled (d.findParameter? p.name) with
    | false => exact (Agrees.ok "").congr (by simp)
    | true =>
      simp only [Bool.not_true, Bool.false_eq_true, if_false, enforced, if_true]
      exact (Agrees.error _ _).congr (by simp)

theorem fillFrom_agrees (enforced : s.validateRequired = true) (word : String) (position : Nat) (cs : List Char) :
    Agrees (∀ p ∈ Placeholder.scanFrom position cs, isUnfilled d s p = false)
      (fillFrom d s word position cs) (fillFrom d s.relaxed word position cs) := by
  fun_induction Placeholder.scanFrom position cs with
  | case1 position cs name kind after found stop ih =>
    rw [fillFrom_of_leading? found, fillFrom_of_leading? found]
    have step := (@occurrenceText_agrees d s enforced word ⟨name, kind, ⟨position, stop⟩⟩).bind fun text =>
      ih.bind fun more => Agrees.ok (text ++ more)
    exact step.congr (by simp)
  | case2 =>
    rw [fillFrom_nil, fillFrom_nil]
    exact (Agrees.ok "").congr (by simp)
  | case3 position c rest none ih =>
    rw [fillFrom_of_none none, fillFrom_of_none none]
    exact (ih.bind fun more => Agrees.ok (String.singleton c ++ more)).congr (by simp)

theorem tokenPiece_agrees (executable : s.mode = .executable) (enforced : s.validateRequired = true)
    {command : String} {t : Token} (member : t ∈ Token.scan command) :
    Agrees (∀ p ∈ Placeholder.scan t.text, isUnfilled d s p = false) (tokenPiece d s t)
      (tokenPiece d s.relaxed t) := by
  unfold tokenPiece
  cases operator : t.isSeparator with
  | true => exact (Agrees.ok _).congr (by simp [Token.scan_text_eq_nil member (Or.inl operator)])
  | false =>
    refine Agrees.map word ?_
    unfold wordText
    cases flagged : t.flags.isPlaceholder with
    | false => exact (Agrees.ok _).congr (by simp [Token.scan_text_eq_nil member (Or.inr flagged)])
    | true =>
      have alike : s.relaxed.mode = .executable := executable
      simp only [executable, alike]
      exact fillFrom_agrees enforced t.text 0 t.text.toList


end

/-- Of a selection, only the switch for escaping matters to subcommands. -/
theorem addSubcommands_congr {s t : Selection} (same : s.escapeValues = t.escapeValues)
    (values words names : List String) : addSubcommands s values words names = addSubcommands t values words names := by
  induction names generalizing words with
  | nil => rfl
  | cons name rest ih =>
    unfold addSubcommands
    rw [ih, ih, escaped, same]
    rfl

theorem bind_eq_ok_iff {α β : Type} {x : Except BuildError α} {f : α → Except BuildError β} {b : β} :
    x >>= f = .ok b ↔ ∃ a, x = .ok a ∧ f a = .ok b := by
  cases x with
  | error e => exact ⟨nofun, nofun⟩
  | ok a => exact ⟨fun made => ⟨a, rfl, made⟩, fun ⟨_, same, made⟩ => by cases same; exact made⟩

theorem eq_ok_of_toOption {α : Type} {x : Except BuildError α} {a : α} (made : x.toOption = some a) :
    x = .ok a := by
  cases x with
  | error e => cases made
  | ok b => rw [Option.some.inj made]

theorem build_eq_ok_iff {d : Definition} {s : Selection} (executable : s.mode = .executable) {built? : Option String} :
    d.build s = .ok built? ↔
      checkReferences d s = .ok () ∧ ∃ ps, pieces d s = .ok ps ∧ built? = some (Piece.join ps) := by
  unfold Definition.build
  rw [executable, bind_eq_ok_iff]
  constructor
  · rintro ⟨_, references, made⟩
    obtain ⟨ps, pieces, same⟩ := bind_eq_ok_iff.1 made
    exact ⟨references, ps, pieces, (Except.ok.inj same).symm⟩
  · rintro ⟨references, ps, pieces, rfl⟩
    exact ⟨(), references, bind_eq_ok_iff.2 ⟨ps, pieces, rfl⟩⟩

theorem pieces_of_build {d : Definition} {s : Selection} {built : String} (done : d.build s = .ok (some built)) :
    ∃ ps, pieces d s = .ok ps ∧ built = Piece.join ps := by
  unfold Definition.build at done
  obtain ⟨_, _, done⟩ := bind_eq_ok_iff.1 done
  split at done
  · exact absurd (Except.ok.inj done) nofun
  · obtain ⟨ps, made, done⟩ := bind_eq_ok_iff.1 done
    exact ⟨ps, made, (Option.some.inj (Except.ok.inj done)).symm⟩

end Build

end ShellTemplate
