import ShellTemplate.Check.Security
import ShellTemplate.Proofs.Respacing
import ShellTemplate.Proofs.UnplacedComponents

namespace ShellTemplate

namespace Security

/-- A pattern that begins nowhere in blanks and does not tell blanks between tokens apart. -/
structure IgnoresGaps (begins : List Char → Bool) : Prop where
  empty : begins [] = false
  blank : ∀ c rest, Text.isBlank c = true → begins (c :: rest) = false
  respaced : ∀ cs ds, Respaced cs ds → begins cs = true → begins ds = true

theorem isSolid_isAlpha : IsSolid Char.isAlpha := by
  intro c letter
  constructor
  · refine Bool.eq_false_iff.2 fun blank => ?_
    rw [Text.not_alpha_of_isBlank blank] at letter
    contradiction
  · refine Bool.eq_false_iff.2 fun mark => ?_
    rcases Operator.isMark_iff.1 mark with rfl | rfl | rfl | rfl | rfl <;> exact absurd letter (by decide)

theorem isSolid_isWordChar : IsSolid Text.isWordChar := by
  intro c word
  constructor
  · refine Bool.eq_false_iff.2 fun blank => ?_
    rw [Text.not_wordChar_of_isBlank blank] at word
    contradiction
  · refine Bool.eq_false_iff.2 fun mark => ?_
    rcases Operator.isMark_iff.1 mark with rfl | rfl | rfl | rfl | rfl <;> exact absurd word (by decide)

theorem beginsRemoval_eq_true_iff {cs : List Char} :
    beginsRemoval cs = true ↔ ∃ rest c option letters, cs = ';' :: rest ∧
      rest.dropWhile Text.isBlank = 'r' :: 'm' :: c :: option ∧ Text.isBlank c = true ∧
      option.dropWhile Text.isBlank = '-' :: letters ∧
      ((letters.takeWhile Char.isAlpha).any fun c => c == 'r' || c == 'f') = true := by
  constructor
  · intro begins
    unfold beginsRemoval at begins
    split at begins
    · rename_i rest
      split at begins
      · rename_i c option command
        obtain ⟨blank, begins⟩ := Bool.and_eq_true_iff.1 begins
        split at begins
        · rename_i letters hyphen
          exact ⟨rest, c, option, letters, rfl, command, blank, hyphen, begins⟩
        · contradiction
      · contradiction
    · contradiction
  · rintro ⟨rest, c, option, letters, rfl, command, blank, hyphen, holds⟩
    simp only [beginsRemoval, command, blank, hyphen, holds, Bool.and_self]

/-- The name of the command, the blank behind it and the letters of its option are found in both texts. -/
theorem ignoresGaps_beginsRemoval : IgnoresGaps beginsRemoval where
  empty := rfl
  blank c rest blank := by
    refine Bool.eq_false_iff.2 fun begins => ?_
    obtain ⟨_, _, _, _, same, _⟩ := beginsRemoval_eq_true_iff.1 begins
    rw [(List.cons.inj same).1] at blank
    exact absurd blank (by decide)
  respaced cs ds related begins := by
    obtain ⟨rest, c, option, letters, rfl, command, blank, hyphen, holds⟩ := beginsRemoval_eq_true_iff.1 begins
    obtain ⟨rest', rfl⟩ := related.exists_cons
    have behind := related.dropBlanks
    rw [List.tail_cons, List.tail_cons, command] at behind
    obtain ⟨more, named, behindName⟩ := behind.tail (by decide) (by decide)
    have dropped := behindName.dropBlanks
    rw [List.tail_cons, List.tail_cons, List.dropWhile_cons_of_pos blank, hyphen] at dropped
    obtain ⟨letters', hyphen'⟩ := dropped.exists_cons
    cases more with
    | nil => contradiction
    | cons d option' =>
      have blank' : Text.isBlank d = true := by
        refine Classical.byContradiction fun solid => ?_
        rw [List.dropWhile_cons_of_neg solid] at hyphen'
        obtain ⟨rfl, _⟩ := List.cons.inj hyphen'
        obtain ⟨_, same, _⟩ := behindName.symm.tail (by decide) (by decide)
        simp only [List.cons.injEq, true_and] at same
        rw [same.1] at blank
        exact absurd blank (by decide)
      rw [List.dropWhile_cons_of_pos blank'] at hyphen'
      rw [List.dropWhile_cons_of_pos blank', hyphen'] at dropped
      have same := dropped.takeWhile_tail isSolid_isAlpha rfl
      rw [List.tail_cons, List.tail_cons] at same
      exact beginsRemoval_eq_true_iff.2 ⟨rest', d, option', letters', rfl, named, blank', hyphen', same ▸ holds⟩

theorem contains_congr {c : Char} {cs ds : List Char} (solid : Text.isBlank c = false)
    (same : cs.filter (fun c => !Text.isBlank c) = ds.filter fun c => !Text.isBlank c) : cs.contains c = ds.contains c := by
  have kept (es : List Char) : (es.filter fun c => !Text.isBlank c).contains c = es.contains c := by
    rw [Bool.eq_iff_iff, List.contains_iff_mem, List.contains_iff_mem, List.mem_filter, solid]
    exact and_iff_left rfl
  rw [← kept cs, same, kept ds]

theorem ignoresGaps_beginsSubstitution : IgnoresGaps beginsSubstitution where
  empty := rfl
  blank c rest blank := by
    unfold beginsSubstitution
    split
    · rename_i same
      rw [(List.cons.inj same).1] at blank
      exact absurd blank (by decide)
    · rfl
  respaced cs ds related begins := by
    unfold beginsSubstitution at begins
    split at begins
    · rename_i rest
      obtain ⟨rest', rfl, behind⟩ := related.tail (by decide) (by decide)
      have same := contains_congr (show Text.isBlank ')' = false by decide) behind.filter_eq
      rw [List.contains_cons, List.contains_cons, begins] at same
      simpa [beginsSubstitution] using same.symm
    · contradiction

theorem ignoresGaps_beginsBackticks : IgnoresGaps beginsBackticks where
  empty := rfl
  blank c rest blank := by
    unfold beginsBackticks
    split
    · rename_i same
      rw [(List.cons.inj same).1] at blank
      exact absurd blank (by decide)
    · rfl
  respaced cs ds related begins := by
    unfold beginsBackticks at begins
    split at begins
    · rename_i rest
      obtain ⟨rest', rfl⟩ := related.exists_cons
      have solid : Text.isBlank '\x60' = false := by decide
      have same := related.filter_eq
      simp only [List.filter_cons, solid, Bool.not_false, if_true, List.cons.injEq, true_and] at same
      exact (contains_congr solid same).symm.trans begins
    · contradiction

/-- A run of characters ends where the text does not go on with one of them. -/
theorem isPrefixOf_and_ends {p : Char → Bool} {run : List Char} (all : run.all p = true) (text : List Char) :
    (run.isPrefixOf text && !(text.drop run.length).head?.any p) = (text.takeWhile p == run) := by
  induction run generalizing text with
  | nil => cases text with
    | nil => rfl
    | cons c text => cases inside : p c <;> simp [inside]
  | cons d run ih =>
    obtain ⟨first, others⟩ := Bool.and_eq_true_iff.1 all
    cases text with
    | nil => rfl
    | cons c text =>
      rw [List.isPrefixOf_cons_cons, List.length_cons, List.drop_succ_cons, Bool.and_assoc, ih others, List.takeWhile_cons]
      cases same : d == c with
      | false =>
        have other : (c == d) = false := by rw [BEq.comm, same]
        cases p c <;> simp [other]
      | true => simp [← beq_iff_eq.1 same, first]

/-- A shell is named where the longest run of word characters is its name. -/
theorem beginsShellPipe_cons (rest : List Char) :
    beginsShellPipe ('|' :: rest) = ["sh", "bash", "zsh", "dash"].any fun shell =>
      (rest.dropWhile Text.isBlank).takeWhile Text.isWordChar == shell.toList := by
  have shells : ["sh", "bash", "zsh", "dash"].all fun shell => shell.toList.all Text.isWordChar := by decide
  rw [beginsShellPipe]
  rw [Bool.eq_iff_iff, List.any_eq_true, List.any_eq_true]
  refine exists_congr fun shell => and_congr_right fun known => ?_
  rw [← isPrefixOf_and_ends (List.all_eq_true.1 shells shell known), String.length_toList]

theorem ignoresGaps_beginsShellPipe : IgnoresGaps beginsShellPipe where
  empty := rfl
  blank c rest blank := by
    unfold beginsShellPipe
    split
    · rename_i same
      rw [(List.cons.inj same).1] at blank
      exact absurd blank (by decide)
    · rfl
  respaced cs ds related begins := by
    cases cs with
    | nil => contradiction
    | cons c rest =>
      obtain ⟨rest', rfl⟩ := related.exists_cons
      have pipe : c = '|' := by
        unfold beginsShellPipe at begins
        split at begins
        · rename_i same
          exact (List.cons.inj same).1
        · contradiction
      subst pipe
      have same := related.dropBlanks.takeWhile isSolid_isWordChar
      rw [List.tail_cons, List.tail_cons] at same
      rwa [beginsShellPipe_cons, same, ← beginsShellPipe_cons] at begins

theorem ignoresGaps_of_mem : ∀ pattern ∈ injections, IgnoresGaps pattern.1 := by
  simp only [injections, List.forall_mem_cons]
  exact ⟨ignoresGaps_beginsRemoval, ignoresGaps_beginsSubstitution, ignoresGaps_beginsBackticks,
    ignoresGaps_beginsShellPipe, fun _ member => absurd member List.not_mem_nil⟩

namespace IgnoresGaps

variable {begins : List Char → Bool}

/-- The pattern is searched for behind the blanks only. -/
theorem somewhere_append (ignores : IgnoresGaps begins) {gap : List Char} (blank : gap.all Text.isBlank = true)
    (rest : List Char) : somewhere begins (gap ++ rest) = somewhere begins rest := by
  induction gap with
  | nil => rfl
  | cons c gap ih =>
    obtain ⟨first, others⟩ := Bool.and_eq_true_iff.1 blank
    rw [List.cons_append, somewhere, ignores.blank c _ first, Bool.false_or, ih others]

theorem somewhere_of_blanks (ignores : IgnoresGaps begins) {gap : List Char} (blank : gap.all Text.isBlank = true) :
    somewhere begins gap = false := by
  have whole := ignores.somewhere_append blank []
  rw [List.append_nil] at whole
  rw [whole, somewhere, ignores.empty]

/-- What the pattern finds in one text it finds in the other, behind the character with which both begin. -/
theorem somewhere_tail (ignores : IgnoresGaps begins) {cs ds : List Char} (related : Respaced cs ds)
    (found : somewhere begins cs.tail = true) : somewhere begins ds.tail = true := by
  induction related with
  | nil => exact found
  | last blank _ =>
    rw [List.tail_cons, ignores.somewhere_of_blanks blank] at found
    contradiction
  | @inside b cs ds related ih =>
    rw [List.tail_cons] at found ⊢
    cases cs with
    | nil => cases related; exact found
    | cons c cs =>
      obtain ⟨ds, rfl⟩ := related.exists_cons
      rw [somewhere, Bool.or_eq_true] at found ⊢
      exact found.imp (ignores.respaced _ _ related) ih
  | @across b c gap gap' cs ds blank blank' _ _ related ih =>
    rw [List.tail_cons, ignores.somewhere_append blank, somewhere, Bool.or_eq_true] at found
    rw [List.tail_cons, ignores.somewhere_append blank', somewhere, Bool.or_eq_true]
    exact found.imp (ignores.respaced _ _ related) ih

end IgnoresGaps

theorem exists_text_eq_cons {command : String} : ∀ t ∈ Token.scan command,
    ∃ c rest, t.text.toList = c :: rest ∧ Text.isBlank c = false :=
  fun _ member => Token.exists_text_eq_cons member

/-- Texts that are the same tokens are searched with the same outcome. -/
theorem somewhere_eq {cs ds : List Char} {ts : List Token}
    (filled : ∀ t ∈ ts, ∃ c rest, t.text.toList = c :: rest ∧ Text.isBlank c = false)
    (first : Token.Gapped true cs ts) (second : Token.Gapped true ds ts) :
    ∀ pattern ∈ injections, somewhere pattern.1 cs = somewhere pattern.1 ds := by
  intro pattern known
  -- a `;` before both texts is an operator, so that either may begin with a blank or without one
  have related : Respaced (';' :: cs) (';' :: ds) := Token.Gapped.respaced filled first second
  have ignores := ignoresGaps_of_mem pattern known
  exact Bool.eq_iff_iff.2 ⟨ignores.somewhere_tail related, ignores.somewhere_tail related.symm⟩

theorem scan_congr {command other : String} {s t : Structure}
    (same : ∀ pattern ∈ injections, somewhere pattern.1 command.toList = somewhere pattern.1 other.toList)
    (found : s.components.map component = t.components.map component) : scan command s = scan other t := by
  unfold scan
  rw [found]
  congr 2
  refine List.map_congr_left fun pattern known => ?_
  have here := same pattern known
  dsimp only at here ⊢
  rw [here]

theorem component_unplaced (c : Component) : component c.unplaced = component c := by
  unfold component Component.unplaced
  cases c.baseCommand? with
  | none => rfl
  | some base => cases c.arguments <;> rfl

/-- A command line and the one that is laid out from its structure have the same findings, in the same order,
and so the same risk; and so has every command line that is the same tokens. -/
theorem scan_render (command : String) :
    scan (Structure.ofCommand command).render (Structure.ofCommand command) =
        scan command (Structure.ofCommand command) ∧
      SecurityReport.assess (Structure.ofCommand command).render (Structure.ofCommand command) =
        SecurityReport.assess command (Structure.ofCommand command) ∧
      ∀ other : String, (Token.scan other).map Token.unplaced = (Token.scan command).map Token.unplaced →
        SecurityReport.assess other (Structure.ofCommand other) =
          SecurityReport.assess command (Structure.ofCommand command) := by
  have assess_congr {line other : String} {s t : Structure} (same : scan line s = scan other t) :
      SecurityReport.assess line s = SecurityReport.assess other t := by
    rw [SecurityReport.assess, SecurityReport.assess, same]
  have laidOut : scan (Structure.ofCommand command).render (Structure.ofCommand command) =
      scan command (Structure.ofCommand command) := by
    refine scan_congr (somewhere_eq exists_text_eq_cons ?_ (Token.gapped_scan command)) rfl
    rw [Structure.render_ofCommand]
    exact Token.gapped_join command
  refine ⟨laidOut, assess_congr laidOut, fun other same => assess_congr (scan_congr ?_ ?_)⟩
  · have filled : ∀ t ∈ (Token.scan command).map Token.unplaced,
        ∃ c rest, t.text.toList = c :: rest ∧ Text.isBlank c = false :=
      List.forall_mem_map.2 exists_text_eq_cons
    have second := (Token.gapped_scan other).unplaced
    rw [same] at second
    exact somewhere_eq filled second (Token.gapped_scan command).unplaced
  · have components (line : String) : (Structure.ofCommand line).components.map component =
        (Structure.ofTokens ((Token.scan line).map Token.unplaced)).components.map component := by
      rw [Structure.components_unplaced, List.map_map]
      exact List.map_congr_left fun c _ => (component_unplaced c).symm
    rw [components other, components command, same]

/-- The sequence into a removal is found however it is spaced. -/
theorem scan_render_of_spaces :
    (Token.scan "ls ; rm  -rf build").map Token.unplaced = (Token.scan "ls;rm -rf build").map Token.unplaced ∧
      (SecurityReport.assess "ls ; rm  -rf build" (Structure.ofCommand "ls ; rm  -rf build")).risk = .high := by
  have same : (Token.scan "ls ; rm  -rf build").map Token.unplaced =
      (Token.scan "ls;rm -rf build").map Token.unplaced := by
    decide +kernel
  refine ⟨same, ?_⟩
  rw [(scan_render "ls;rm -rf build").2.2 _ same]
  decide +kernel

end Security

end ShellTemplate
