import ShellTemplate.Proofs.PlaceholderWritten
import ShellTemplate.Proofs.TokenTiles

namespace ShellTemplate

namespace Placeholder

/-- The same placeholder in a text that begins `offset` bytes earlier. -/
def shift (offset : Nat) (p : Placeholder) : Placeholder :=
  { p with span := p.span.shift offset }

theorem scanFrom_shift (offset position : Nat) (cs : List Char) :
    scanFrom (position + offset) cs = (scanFrom position cs).map (shift offset) := by
  fun_induction scanFrom position cs with
  | case1 position cs name kind after found stop ih =>
    rw [scanFrom_of_leading? found, List.map_cons, ← ih]
    simp only [shift, Span.shift, stop]
    rw [show position + offset + Text.width (written name kind) =
      position + Text.width (written name kind) + offset by omega]
  | case2 position _ => rw [scanFrom_nil]; rfl
  | case3 position c rest none ih =>
    rw [scanFrom_of_none none, ← ih, show position + offset + c.utf8Size = position + c.utf8Size + offset by omega]

theorem scanFrom_blanks {position : Nat} {gap : List Char} (blank : gap.all Text.isBlank = true) :
    scanFrom position gap = [] := by
  induction gap generalizing position with
  | nil => exact scanFrom_nil position
  | cons c rest ih =>
    obtain ⟨first, others⟩ := Bool.and_eq_true_iff.1 (List.all_cons ▸ blank)
    have other : c ≠ '\x7b' := by
      rintro rfl
      exact absurd first (by decide)
    rw [scanFrom_of_none (leading?_of_ne other rest), ih others]

theorem append_of_width_le {front back run after : List Char} (same : front ++ back = run ++ after)
    (bound : Text.width run ≤ Text.width front) : ∃ rest, front = run ++ rest := by
  rcases List.append_eq_append_iff.1 same with ⟨more, runSplit, _⟩ | ⟨rest, frontSplit, _⟩
  · cases more with
    | nil => exact ⟨[], by simpa using runSplit.symm⟩
    | cons c more =>
      have positive := c.utf8Size_pos
      rw [runSplit, Text.width_append, Text.width_cons] at bound
      omega
  · exact ⟨rest, frontSplit⟩

/-- The scan can be cut wherever no placeholder stands across the cut. -/
theorem scanFrom_append {position : Nat} {front back : List Char}
    (apart : ∀ p ∈ scanFrom position (front ++ back),
      p.span.stop ≤ position + Text.width front ∨ position + Text.width front ≤ p.span.start) :
    scanFrom position (front ++ back) =
      scanFrom position front ++ scanFrom (position + Text.width front) back := by
  fun_induction scanFrom position front with
  | case1 position front name kind after found stop ih =>
    obtain ⟨_, whole⟩ := leading?_eq_some_iff.1 found
    have total : position + Text.width front = stop + Text.width after := by
      rw [whole, Text.width_append, Nat.add_assoc]
    rw [scanFrom_of_leading? (leading?_append found back)] at apart ⊢
    have tail := ih fun p member => total ▸ apart p (List.mem_cons_of_mem _ member)
    rw [List.cons_append, total, ← tail]
  | case2 position _ => simp
  | case3 position c rest none ih =>
    have still : leading? (c :: (rest ++ back)) = Option.none := by
      cases found : leading? (c :: (rest ++ back)) with
      | none => rfl
      | some result =>
        obtain ⟨name, kind, after⟩ := result
        obtain ⟨writable, whole⟩ := leading?_eq_some_iff.1 found
        have positive := c.utf8Size_pos
        have within : Text.width (written name kind) ≤ Text.width (c :: rest) := by
          rw [List.cons_append, scanFrom_of_leading? found] at apart
          rcases apart _ List.mem_cons_self with inside | outside
          · dsimp only at inside
            omega
          · rw [Text.width_cons] at outside
            dsimp only at outside
            omega
        obtain ⟨left, frontSplit⟩ := append_of_width_le (List.cons_append ▸ whole) within
        rw [frontSplit, leading?_written writable] at none
        simp at none
    have total : position + Text.width (c :: rest) = position + c.utf8Size + Text.width rest := by
      rw [Text.width_cons, Nat.add_assoc]
    rw [List.cons_append, scanFrom_of_none still] at apart ⊢
    rw [total]
    exact ih fun p member => total ▸ apart p member

end Placeholder

namespace Token

/-- The placeholders of a token's own text, at their places in the command line. -/
def placeholders (t : Token) : List Placeholder :=
  (Placeholder.scan t.text).map (.shift t.span.start)

/-- The placeholder begins and ends inside the token. -/
def Covers (t : Token) (p : Placeholder) : Prop :=
  t.span.start ≤ p.span.start ∧ p.span.stop ≤ t.span.stop

theorem placeholders_eq (t : Token) : t.placeholders = Placeholder.scanFrom t.span.start t.text.toList := by
  rw [placeholders, Placeholder.scan, ← Placeholder.scanFrom_shift, Nat.zero_add]

theorem covers_of_mem_placeholders {t : Token} {p : Placeholder}
    (width : t.span.stop = t.span.start + Text.width t.text.toList) (member : p ∈ t.placeholders) : t.Covers p := by
  rw [placeholders_eq] at member
  have bounds := Placeholder.span_of_mem_scanFrom member
  exact ⟨bounds.1, width ▸ bounds.2.2⟩

/-- If each placeholder of the text stays in one token, the tokens hold them all, in order. The induction
cuts the scan at both ends of each token. -/
theorem Tiles.scanFrom_eq {position : Nat} {cs : List Char} {ts : List Token} (tiles : Tiles position cs ts)
    (covered : ∀ p ∈ Placeholder.scanFrom position cs, ∃ t ∈ ts, t.Covers p) :
    Placeholder.scanFrom position cs = ts.flatMap placeholders := by
  induction tiles with
  | done blank => rw [Placeholder.scanFrom_blanks blank, List.flatMap_nil]
  | @token position gap t rest ts blank _ span tail ih =>
    have start : t.span.start = position + Text.width gap := by rw [span]
    have stop : t.span.stop = position + Text.width gap + Text.width t.text.toList := by rw [span]
    have later := tail.start_ge
    have front : Placeholder.scanFrom position (gap ++ (t.text.toList ++ rest)) =
        Placeholder.scanFrom t.span.start (t.text.toList ++ rest) := by
      rw [Placeholder.scanFrom_append, Placeholder.scanFrom_blanks blank, List.nil_append, start]
      intro p member
      obtain ⟨u, holds, covers⟩ := covered p member
      refine Or.inr ?_
      rcases List.mem_cons.1 holds with rfl | held
      · exact start ▸ covers.1
      · have bound := later u held
        have inside := covers.1
        omega
    rw [front] at covered ⊢
    have back : Placeholder.scanFrom t.span.start (t.text.toList ++ rest) =
        t.placeholders ++ Placeholder.scanFrom t.span.stop rest := by
      rw [Placeholder.scanFrom_append, placeholders_eq, stop, start]
      intro p member
      obtain ⟨u, holds, covers⟩ := covered p member
      rcases List.mem_cons.1 holds with rfl | held
      · exact Or.inl (by rw [start, ← stop]; exact covers.2)
      · refine Or.inr ?_
        rw [start, ← stop]
        exact Nat.le_trans (later u held) covers.1
    rw [back] at covered ⊢
    rw [List.flatMap_cons, ih]
    intro p member
    obtain ⟨u, holds, covers⟩ := covered p (List.mem_append_right _ member)
    rcases List.mem_cons.1 holds with rfl | held
    · have bounds := Placeholder.span_of_mem_scanFrom member
      have inside := covers.2
      omega
    · exact ⟨u, held, covers⟩

end Token

/-- The tokens of a command line hold its placeholders, in order and in place, exactly if no placeholder
reaches over the end of a token. -/
theorem Placeholder.scan_eq_flatMap_placeholders_iff (command : String) :
    Placeholder.scan command = (Token.scan command).flatMap Token.placeholders ↔
      ∀ p ∈ Placeholder.scan command, ∃ t ∈ Token.scan command, t.Covers p := by
  have tiles := Token.tiles_scan command
  constructor
  · intro same p member
    rw [same] at member
    obtain ⟨t, holds, inside⟩ := List.mem_flatMap.1 member
    exact ⟨t, holds, Token.covers_of_mem_placeholders (tiles.width_text t holds) inside⟩
  · exact tiles.scanFrom_eq

/-- An escaped brace ends no token, but the blank in the default behind it does. -/
theorem Placeholder.scan_ne_flatMap_of_escaped_brace :
    Placeholder.scan "\\\x7b\x7bx:a b\x7d\x7d" ≠
      (Token.scan "\\\x7b\x7bx:a b\x7d\x7d").flatMap Token.placeholders := by
  decide +kernel

end ShellTemplate
