import ShellTemplate.Proofs.MarkedWords
import ShellTemplate.Proofs.ValueExposure

namespace ShellTemplate

open QuoteContext

namespace Reading

/-- On the way through the marks no value that needs quotes is exposed. -/
def Covers : Reading → List Mark → Prop
  | _, [] => True
  | r, .fixed c :: ms => (r.step c).2.Covers ms
  | r, .value context text :: ms =>
    (isPlain text.toList = false → r.isExposed context = false) ∧ (r.read (context.escape text).toList).2.Covers ms

instance decidableCovers : (r : Reading) → (ms : List Mark) → Decidable (r.Covers ms)
  | _, [] => .isTrue trivial
  | r, .fixed c :: ms => decidableCovers (r.step c).2 ms
  | r, .value context text :: ms =>
    have := decidableCovers (r.read (context.escape text).toList).2 ms
    inferInstanceAs (Decidable (_ ∧ _))

theorem read_fixed (r : Reading) (c : Char) : r.read (Mark.fixed c).source = r.step c := by
  simp [Mark.source, read_cons, emit]

/-- Where no value is exposed, the marks are read as those of the probes are. -/
theorem read_map_probe {r : Reading} {ms : List Mark} (filled : Build.AllFilled ms)
    (covers : r.Covers (ms.map (Mark.mapValue probe))) :
    r.read (ms.flatMap Mark.source) = r.read ((ms.map (Mark.mapValue probe)).flatMap Mark.source) := by
  induction ms generalizing r with
  | nil => rfl
  | cons m ms ih =>
    obtain ⟨here, others⟩ := List.forall_mem_cons.1 filled
    rw [List.map_cons, List.flatMap_cons, List.flatMap_cons, read_append, read_append]
    cases m with
    | fixed c =>
      rw [Mark.mapValue, read_fixed, ih others covers]
    | value context text =>
      obtain ⟨hidden, behind⟩ := covers
      have covered (special : isPlain text.toList = false) : r.isExposed context = false :=
        hidden (by rw [probe_eq_dollar special]; decide)
      have same : r.read (Mark.value context text).source = r.read (Mark.value context (probe text)).source :=
        read_escape r context here covered
      rw [Mark.mapValue, same]
      exact congrArg (emit _) (ih others behind)

/-- Before the first exposed value all is covered. -/
theorem exists_exposed {r : Reading} {ms : List Mark} (uncovered : ¬ r.Covers ms) :
    ∃ front context text back, ms = front ++ Mark.value context text :: back ∧ r.Covers front ∧
      isPlain text.toList = false ∧ (r.read (front.flatMap Mark.source)).2.isExposed context = true := by
  induction ms generalizing r with
  | nil => exact absurd trivial uncovered
  | cons m ms ih =>
    -- The first exposed value of the rest is the first one here if `m` is covered.
    have later (behind : ¬ (r.read m.source).2.Covers ms)
        (extend : ∀ front, (r.read m.source).2.Covers front → r.Covers (m :: front)) :
        ∃ front context text back, m :: ms = front ++ Mark.value context text :: back ∧ r.Covers front ∧
          isPlain text.toList = false ∧ (r.read (front.flatMap Mark.source)).2.isExposed context = true := by
      obtain ⟨front, context, text, back, rfl, covers, special, exposed⟩ := ih behind
      refine ⟨m :: front, context, text, back, rfl, extend front covers, special, ?_⟩
      rw [List.flatMap_cons, read_append]
      exact exposed
    cases m with
    | fixed c =>
      rw [read_fixed] at later
      exact later uncovered fun _ covers => covers
    | value context text =>
      by_cases hidden : isPlain text.toList = false → r.isExposed context = false
      · exact later (fun behind => uncovered ⟨hidden, behind⟩) fun _ covers => ⟨hidden, covers⟩
      · rw [Classical.not_imp, Bool.not_eq_false] at hidden
        exact ⟨[], context, text, ms, rfl, trivial, hidden.1, hidden.2⟩

end Reading

end ShellTemplate
