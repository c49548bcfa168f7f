import ShellTemplate.Proofs.CoveredMarks
import ShellTemplate.Proofs.MarkedVariation
import ShellTemplate.Proofs.ProbeSelections
import ShellTemplate.Proofs.ReadingScan

namespace ShellTemplate

open QuoteContext

namespace Token

theorem operators_text (ms : List Mark) :
    operators (Mark.text ms) = (Reading.between.run (ms.flatMap Mark.source)).map Operator.symbol := by
  rw [operators_eq_run, Mark.text, String.toList_ofList]

theorem operators_text_probe {ms : List Mark} (filled : Build.AllFilled ms)
    (covers : Reading.between.Covers (ms.map (Mark.mapValue probe))) :
    operators (Mark.text ms) = operators (Mark.text (ms.map (Mark.mapValue probe))) := by
  rw [operators_text, operators_text, Reading.run, Reading.run, Reading.read_map_probe filled covers]

end Token

/-- With probes for values, no value that needs quotes is exposed, and all builds have the same operators. -/
structure Definition.IsSealed (d : Definition) (s : Selection) : Prop where
  covers : ∀ t ∈ s.probeVariations, ∀ ms, Build.marks d t = .ok ms → Reading.between.Covers ms
  constant : ∀ t ∈ s.probeVariations, ∀ u ∈ s.probeVariations, ∀ b c,
    d.build t = .ok (some b) → d.build u = .ok (some c) → Token.operators b = Token.operators c

instance (d : Definition) (s : Selection) : Decidable (d.IsSealed s) :=
  decidable_of_iff
    ((∀ t ∈ s.probeVariations, ∀ ms ∈ (Build.marks d t).toOption, Reading.between.Covers ms) ∧
      ∀ t ∈ s.probeVariations, ∀ u ∈ s.probeVariations, ∀ b ∈ (d.build t).toOption.join,
        ∀ c ∈ (d.build u).toOption.join, Token.operators b = Token.operators c)
    ⟨fun ⟨covers, constant⟩ =>
      ⟨fun t member ms made => covers t member ms (by rw [made]; rfl),
        fun t first u second b c built others =>
          constant t first u second b (by rw [built]; rfl) c (by rw [others]; rfl)⟩,
    fun isSealed =>
      ⟨fun t member ms made => isSealed.covers t member ms (Build.eq_ok_of_toOption made),
        fun t first u second b built c others => isSealed.constant t first u second b c
          (Build.eq_ok_of_toOption (Option.join_eq_some_iff.1 built))
          (Build.eq_ok_of_toOption (Option.join_eq_some_iff.1 others))⟩⟩

namespace Build

variable {d : Definition} {s : Selection}

theorem marks_of_isProbe {ms : List Mark} (isProbe : s.IsProbe) (made : marks d s = .ok ms) :
    ms.map (Mark.mapValue probe) = ms := by
  have moved := marks_mapValues Selection.keeps_probe d s
  rw [Selection.mapValues_eq_self isProbe, made] at moved
  exact (Except.ok.inj moved).symm

/-- A value for the place of one probe. -/
def inject (value : String) (text : String) : String :=
  if text = "$" then value else text

theorem keeps_inject {value : String} (filled : Text.isBlankText value = false) : Assignments.Keeps (inject value) := by
  intro text kept
  unfold inject
  split
  · exact filled
  · exact kept

theorem map_probe_inject {value : String} (special : isPlain value.toList = false) (ms : List Mark) :
    (ms.map (Mark.mapValue (inject value))).map (Mark.mapValue probe) = ms.map (Mark.mapValue probe) := by
  rw [List.map_map]
  refine List.map_congr_left fun m _ => ?_
  cases m with
  | fixed c => rfl
  | value context text =>
    refine congrArg (Mark.value context) ?_
    unfold inject
    split
    · rename_i dollar
      rw [dollar, probe_eq_dollar special]
      decide
    · rfl

/-- An exposed value can be exchanged for one that brings more operators with it. -/
theorem exists_variation_of_not_covers (executable : s.mode = .executable) (escapes : s.escapeValues = true)
    {ms : List Mark} (isProbe : s.IsProbe) (made : marks d s = .ok ms) (uncovered : ¬ Reading.between.Covers ms) :
    ∃ t ns, s.Varies t ∧ marks d t = .ok ns ∧
      Token.operators (Mark.text ms) ≠ Token.operators (Mark.text ns) := by
  have fixed := marks_of_isProbe isProbe made
  obtain ⟨front, context, text, back, rfl, covers, special, exposed⟩ := Reading.exists_exposed uncovered
  simp only [List.map_append, List.map_cons] at fixed
  obtain ⟨fixedFront, fixedRest⟩ := List.append_inj fixed (List.length_map _)
  obtain rfl : text = "$" := by
    have same : Mark.value context (probe text) = Mark.value context text := (List.cons.inj fixedRest).1
    rw [probe_eq_dollar special] at same
    exact (Mark.value.inj same).2.symm
  let count := (Token.operators (Mark.text (front ++ Mark.value context "$" :: back))).length
  obtain ⟨value, needsQuotes, filled, many⟩ := Reading.exists_injection exposed (count + 1)
  have keeps := keeps_inject filled
  have injected := marks_mapValues keeps d s
  rw [made] at injected
  refine ⟨s.mapValues (inject value), _, Selection.varies_mapValues keeps s, injected, fun same => ?_⟩
  -- The exchange changes nothing before the exposed value, since the new value has the same probe.
  have probed : (front.map (Mark.mapValue (inject value))).map (Mark.mapValue probe) = front :=
    (map_probe_inject needsQuotes front).trans fixedFront
  have filledFront : AllFilled (front.map (Mark.mapValue (inject value))) := by
    have all := allFilled_of_marks (s := s.mapValues (inject value)) executable escapes injected
    exact fun m member => all m (by rw [List.map_append]; exact List.mem_append_left _ member)
  have ahead := Reading.read_map_probe filledFront (by rw [probed]; exact covers)
  rw [probed] at ahead
  have length := congrArg List.length same
  rw [Token.operators_text (List.map _ _), List.map_append, List.map_cons, List.flatMap_append, List.flatMap_cons,
    Reading.run_append, Reading.run_append, ahead, Mark.mapValue] at length
  simp only [inject, if_pos, Mark.source, List.length_map, List.length_append] at length
  omega

/-- The values of a selection have no influence on the operators of what is built exactly if the
definition seals them. -/
theorem operators_invariant_iff (executable : s.mode = .executable) (escapes : s.escapeValues = true) :
    (∀ t u b c, s.Varies t → s.Varies u → d.build t = .ok (some b) → d.build u = .ok (some c) →
      Token.operators b = Token.operators c) ↔ d.IsSealed s := by
  have made {t : Selection} (varies : s.Varies t) {b : String} :
      d.build t = .ok (some b) ↔ ∃ ms, marks d t = .ok ms ∧ Mark.text ms = b :=
    build_eq_ok_iff_marks (varies.mode.trans executable) (varies.escapeValues.trans escapes)
  constructor
  · intro invariant
    refine ⟨fun t member ms marks => by_contra fun uncovered => ?_, fun t first u second b c => ?_⟩
    · obtain ⟨varies, isProbe⟩ := Selection.mem_probeVariations_iff.1 member
      obtain ⟨u, ns, further, others, differ⟩ := exists_variation_of_not_covers (varies.mode.trans executable)
        (varies.escapeValues.trans escapes) isProbe marks uncovered
      have both := varies.trans further
      have builtFirst := (made varies).2 ⟨ms, marks, rfl⟩
      have builtSecond := (made both).2 ⟨ns, others, rfl⟩
      exact differ (invariant t u _ _ varies both builtFirst builtSecond)
    · obtain ⟨variesFirst, _⟩ := Selection.mem_probeVariations_iff.1 first
      obtain ⟨variesSecond, _⟩ := Selection.mem_probeVariations_iff.1 second
      exact invariant t u b c variesFirst variesSecond
  · intro isSealed t u b c first second builtFirst builtSecond
    -- A build has the operators of the build with the probes of its values.
    have probed {v : Selection} {b : String} (varies : s.Varies v) (built : d.build v = .ok (some b)) :
        v.mapValues probe ∈ s.probeVariations ∧
          ∃ c, d.build (v.mapValues probe) = .ok (some c) ∧ Token.operators b = Token.operators c := by
      obtain ⟨ms, marks, rfl⟩ := (made varies).1 built
      have filled := allFilled_of_marks (varies.mode.trans executable) (varies.escapeValues.trans escapes) marks
      have both := varies.trans (Selection.varies_mapValues Selection.keeps_probe v)
      have member := Selection.mem_probeVariations_iff.2 ⟨both, Selection.isProbe_mapValues v⟩
      have probes : Build.marks d (v.mapValues probe) = .ok (ms.map (Mark.mapValue probe)) := by
        rw [marks_mapValues Selection.keeps_probe, marks]
        rfl
      have covers := isSealed.covers _ member _ probes
      exact ⟨member, _, (made both).2 ⟨_, probes, rfl⟩, Token.operators_text_probe filled covers⟩
    obtain ⟨memberFirst, b', builtProbes, sameFirst⟩ := probed first builtFirst
    obtain ⟨memberSecond, c', builtOthers, sameSecond⟩ := probed second builtSecond
    rw [sameFirst, sameSecond]
    exact isSealed.constant _ memberFirst _ memberSecond b' c' builtProbes builtOthers

/-- Between quotes of both kinds and inside a word any value is safe. -/
theorem operators_invariant_of_quoted_placeholders :
    let d : Definition :=
      { name := "print", command := "echo \"\x7b\x7bx\x7d\x7d\" '\x7b\x7bx\x7d\x7d' a\x7b\x7bx\x7d\x7d | wc",
        parameters := [{ name := "x" }] }
    let s : Selection := { mode := .executable, parameterValues := SortedList.empty.insert ("x", "a") }
    d.IsSealed s ∧ ∀ t u b c, s.Varies t → s.Varies u → d.build t = .ok (some b) → d.build u = .ok (some c) →
      Token.operators b = Token.operators c := by
  intro d s
  have isSealed : d.IsSealed s := by decide +kernel
  exact ⟨isSealed, (operators_invariant_iff (show s.mode = .executable from rfl) rfl).2 isSealed⟩

/-- Behind a backslash the quotes around a value are lost, so that a value can bring an operator with it. -/
theorem operators_vary_of_escaped_placeholder :
    let d : Definition := { name := "print", command := "echo \\\x7b\x7bx\x7d\x7d", parameters := [{ name := "x" }] }
    let s : Selection := { mode := .executable, parameterValues := SortedList.empty.insert ("x", "a") }
    let t : Selection := { mode := .executable, parameterValues := SortedList.empty.insert ("x", ";") }
    s.Varies t ∧ ∃ b c, d.build s = .ok (some b) ∧ d.build t = .ok (some c) ∧
      Token.operators b ≠ Token.operators c := by
  intro d s t
  have varies : s.Varies t := ⟨rfl, .cons ⟨rfl, Or.inr (by decide)⟩ .nil, .nil⟩
  have plain : (d.build s).toOption = some (some "echo \\a") := by decide +kernel
  have injected : (d.build t).toOption = some (some "echo \\\";\"") := by decide +kernel
  refine ⟨varies, _, _, eq_ok_of_toOption plain, eq_ok_of_toOption injected, ?_⟩
  decide +kernel

end Build

end ShellTemplate
