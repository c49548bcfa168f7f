import ShellTemplate.Proofs.TokenScans

namespace ShellTemplate

@[simp] theorem Word.token_text (position : Nat) (w : Word) : (w.token position).text = String.ofList w.source := rfl

@[simp] theorem Word.token_value (position : Nat) (w : Word) : (w.token position).value = String.ofList w.value := rfl

@[simp] theorem Word.token_span (position : Nat) (w : Word) :
    (w.token position).span = ⟨position, position + Text.width w.source⟩ := rfl

@[simp] theorem Operator.token_text (position : Nat) (descriptor : List Char) (op : Operator) :
    (op.token position descriptor).text = String.ofList (descriptor ++ op.symbol.toList) := rfl

@[simp] theorem Operator.token_value (position : Nat) (descriptor : List Char) (op : Operator) :
    (op.token position descriptor).value = op.symbol := rfl

@[simp] theorem Operator.token_span (position : Nat) (descriptor : List Char) (op : Operator) :
    (op.token position descriptor).span =
      ⟨position, position + Text.width (descriptor ++ op.symbol.toList)⟩ := rfl

@[simp] theorem Operator.token_isSeparator (position : Nat) (descriptor : List Char) (op : Operator) :
    (op.token position descriptor).isSeparator = true := rfl

@[simp] theorem Operator.symbol_ne_empty (op : Operator) : op.symbol ≠ "" := by
  cases op <;> decide

/-- Whatever its kind, a word is no operator and keeps the flags that do not depend on the kind. -/
theorem Word.classify_cases (shape : List Char) (unterminated : Bool) :
    (classify shape unterminated).1 ≠ .separator ∧
      (classify shape unterminated).2.unterminatedQuote = unterminated ∧
      (classify shape unterminated).2.isPlaceholder = !(Placeholder.scanFrom 0 shape).isEmpty ∧
      ((classify shape unterminated).1 = .quoted → unterminated = false ∧ isEnclosed shape = true) := by
  unfold classify
  dsimp only
  split
  · exact ⟨nofun, rfl, rfl, nofun⟩
  · split
    · exact ⟨nofun, rfl, rfl, nofun⟩
    · split
      · rename_i enclosed
        exact ⟨nofun, rfl, rfl, fun _ => by simpa using enclosed⟩
      · split <;> exact ⟨nofun, rfl, rfl, nofun⟩

theorem Word.token_isSeparator (position : Nat) (w : Word) : (w.token position).isSeparator = false :=
  beq_false_of_ne (classify_cases w.shape w.isUnterminated).1

namespace Token

/-- Tokens that follow each other without overlap, with nothing but blanks between them. -/
inductive Tiles : Nat → List Char → List Token → Prop
  | done {position gap} : gap.all Text.isBlank = true → Tiles position gap []
  | token {position gap t rest ts} : gap.all Text.isBlank = true → t.text.toList ≠ [] →
      t.span = ⟨position + Text.width gap, position + Text.width gap + Text.width t.text.toList⟩ →
      Tiles t.span.stop rest ts → Tiles position (gap ++ (t.text.toList ++ rest)) (t :: ts)

theorem Tiles.blank {position : Nat} {c : Char} {rest : List Char} {ts : List Token}
    (blank : Text.isBlank c = true) (tiles : Tiles (position + c.utf8Size) rest ts) :
    Tiles position (c :: rest) ts := by
  cases tiles with
  | done gap => exact .done (by simp [blank, gap])
  | @token _ gap t rest ts allBlank filled span tail =>
    refine @Tiles.token position (c :: gap) t rest ts (by simp [blank, allBlank]) filled ?_ tail
    rw [span, Text.width_cons, Nat.add_assoc position]

/-- A token that begins at once. -/
theorem Tiles.here {position : Nat} {t : Token} {cs rest : List Char} {ts : List Token}
    (whole : t.text.toList ++ rest = cs) (filled : t.text.toList ≠ [])
    (span : t.span = ⟨position, position + Text.width t.text.toList⟩) (tail : Tiles t.span.stop rest ts) :
    Tiles position cs (t :: ts) := by
  have tiles := @Tiles.token position [] t rest ts rfl filled (by simpa using span) tail
  simpa [whole] using tiles

theorem Scans.tiles {position : Nat} {cs : List Char} {ts : List Token} (scans : Scans position cs ts) :
    Tiles position cs ts := by
  induction scans with
  | done => exact .done rfl
  | blank blank _ ih => exact ih.blank blank
  | @angled position cs w after ts found _ ih =>
    refine .here ?_ ?_ (by simp) ih
    · rw [Word.token_text, String.toList_ofList, Word.source_append_of_angled? found]
    · obtain ⟨name, dots, _, _, _, _, rfl⟩ := Word.angled?_eq_some_iff.1 found
      rw [Word.token_text, String.toList_ofList, Word.source_map_plain]
      exact List.cons_ne_nil _ _
  | @operator position cs op ts _ found _ ih =>
    refine .here ?_ (by simp) (by simp) ih
    simpa using Operator.symbol_append_skip found
  | @descriptor position cs op ts _ found _ _ _ ih =>
    refine .here ?_ (by simp) (by simp) ih
    rw [Operator.token_text, String.toList_ofList, List.append_assoc, Operator.symbol_append_skip found,
      Word.source_read]
  | @attached position middle cs op ts goesOn found _ start _ ih =>
    have next := @Tiles.here middle _ _ _ _ (by simpa using Operator.symbol_append_skip found) (by simp) (by simp) ih
    subst start
    refine .here ?_ (by simpa using Word.source_ne_nil goesOn) (by simp) next
    rw [Word.token_text, String.toList_ofList, Word.source_read]
  | @word position cs ts goesOn _ _ ih =>
    refine .here ?_ (by simpa using Word.source_ne_nil goesOn) (by simp) ih
    rw [Word.token_text, String.toList_ofList, Word.source_read]

theorem Tiles.start_ge {position : Nat} {cs : List Char} {ts : List Token} (tiles : Tiles position cs ts) :
    ∀ t ∈ ts, position ≤ t.span.start := by
  induction tiles with
  | done => simp
  | @token position gap t rest ts _ _ span _ ih =>
    intro u member
    rcases List.mem_cons.1 member with rfl | later
    · rw [span]
      exact Nat.le_add_right _ _
    · have bound := ih u later
      rw [span] at bound
      dsimp only at bound
      omega

theorem Tiles.text_ne_nil {position : Nat} {cs : List Char} {ts : List Token} (tiles : Tiles position cs ts) :
    ∀ t ∈ ts, t.text.toList ≠ [] := by
  induction tiles with
  | done => simp
  | token _ filled _ _ ih => exact List.forall_mem_cons.2 ⟨filled, ih⟩

theorem Tiles.width_text {position : Nat} {cs : List Char} {ts : List Token} (tiles : Tiles position cs ts) :
    ∀ t ∈ ts, t.span.stop = t.span.start + Text.width t.text.toList := by
  induction tiles with
  | done => simp
  | @token position gap t rest ts _ _ span _ ih =>
    intro u member
    rcases List.mem_cons.1 member with rfl | later
    · rw [span]
    · exact ih u later

theorem Tiles.rising {position : Nat} {cs : List Char} {ts : List Token}
    (tiles : Tiles position cs ts) :
    ts.Pairwise fun t u => t.span.start < u.span.start := by
  induction tiles with
  | done => exact .nil
  | @token position gap t rest ts _ filled span tail ih =>
    refine List.pairwise_cons.2 ⟨fun u member => ?_, ih⟩
    have bound := tail.start_ge u member
    obtain ⟨c, more, text⟩ := List.exists_cons_of_ne_nil filled
    have positive := c.utf8Size_pos
    rw [span, text, Text.width_cons] at bound
    rw [span]
    dsimp only at bound ⊢
    omega

/-- The tokens of a command line are slices of it, and only blanks stand between them. -/
theorem tiles_scan (command : String) : Tiles 0 command.toList (scan command) :=
  (scans_scanFrom 0 command.toList).tiles

theorem text_ne_empty {command : String} {t : Token} (member : t ∈ scan command) : t.text ≠ "" :=
  fun empty => (tiles_scan command).text_ne_nil t member (by rw [empty]; rfl)

/-- Every token is a word, a name in angle brackets or an operator, and digits stand only against an operator
that redirects. -/
theorem cases_of_mem_scanFrom {position : Nat} {cs : List Char} {t : Token} (member : t ∈ scanFrom position cs) :
    (∃ start w, t = Word.token start w ∧ ((∃ rest, Word.stopsAt rest = false ∧ (Word.read rest).1 = w) ∨
      ∃ rest after, Word.angled? rest = some (w, after))) ∨
      ∃ start digits op, t = Operator.token start digits op ∧ digits.all Char.isDigit = true ∧
        (digits = [] ∨ op.isRedirect = true) := by
  have scans := scans_scanFrom position cs
  generalize scanFrom position cs = ts at member scans
  induction scans with
  | done => simp at member
  | blank _ _ ih => exact ih member
  | angled found _ ih =>
    rcases List.mem_cons.1 member with rfl | later
    · exact Or.inl ⟨_, _, rfl, Or.inr ⟨_, _, found⟩⟩
    · exact ih later
  | operator _ _ _ ih =>
    rcases List.mem_cons.1 member with rfl | later
    · exact Or.inr ⟨_, [], _, rfl, rfl, Or.inl rfl⟩
    · exact ih later
  | descriptor _ _ redirects isDescriptor _ ih =>
    rcases List.mem_cons.1 member with rfl | later
    · exact Or.inr ⟨_, _, _, rfl, (Bool.and_eq_true_iff.1 isDescriptor).2, Or.inr redirects⟩
    · exact ih later
  | attached goesOn _ _ _ _ ih =>
    rcases List.mem_cons.1 member with rfl | later
    · exact Or.inl ⟨_, _, rfl, Or.inl ⟨_, goesOn, rfl⟩⟩
    · rcases List.mem_cons.1 later with rfl | last
      · exact Or.inr ⟨_, [], _, rfl, rfl, Or.inl rfl⟩
      · exact ih last
  | word goesOn _ _ ih =>
    rcases List.mem_cons.1 member with rfl | later
    · exact Or.inl ⟨_, _, rfl, Or.inl ⟨_, goesOn, rfl⟩⟩
    · exact ih later

end Token

end ShellTemplate
