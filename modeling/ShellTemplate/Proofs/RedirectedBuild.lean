import ShellTemplate.Proofs.AcceptedOperators
import ShellTemplate.Proofs.LaidOutBuild

namespace ShellTemplate

namespace Build

namespace Entry

/-- The first word that is laid out, if no operator comes before it. -/
def leadingText? : List Entry → Option String
  | [] => none
  | e :: rest =>
    if e.piece.text.isEmpty then leadingText? rest
    else if e.piece.isOperator then none
    else some e.piece.text

/-- Behind a redirect, a word is laid out that is not the target in the template: that one is missing or empty. -/
def overtake : List Entry → Bool
  | [] => false
  | e :: rest => (e.token?.isNone || e.piece.text.isEmpty) && (leadingText? (e :: rest)).isSome

/-- Whether a redirect is followed by a word that is not its target. What follows a background operator is no
redirect, until an operator opens a component. -/
def misaim (behind : Bool) : List Entry → Bool
  | [] => false
  | e :: rest =>
    match e.token? with
    | none => misaim behind rest
    | some t =>
      if t.isRedirect then (!behind && overtake rest) || misaim behind rest
      else if t.isControl then misaim (!t.opensComponent) rest
      else misaim behind rest

end Entry

/-- Whether a redirect of the template is followed, in what is built, by a word that is not its target. -/
def misaims (d : Definition) (s : Selection) : Bool :=
  Entry.misaim false (entries d s)

/-- The target of a redirect of the built command is the text of its target in the template. -/
def KeepsTarget (d : Definition) (s : Selection) (made given : Redirect) : Prop :=
  made.operator.text = given.operator.text ∧
    ∀ target ∈ made.target?, ∃ w ∈ given.target?, wordText d s w = .ok target.text

namespace Entry

variable {d : Definition} {s : Selection} {built : String} {es : List Entry} {us : List Token} {behind : Bool}

/-- The tokens of the built command are what the entries lay out. -/
structure IsRead (built : String) (es : List Entry) (us : List Token) : Prop where
  scanned : ∀ u ∈ us, u ∈ Token.scan built
  pieces : us.map Token.piece = (es.map Entry.piece).filter fun p => !p.text.isEmpty

theorem IsRead.of_empty {e : Entry} (read : IsRead built (e :: es) us) (empty : e.piece.text = "") :
    IsRead built es us where
  scanned := read.scanned
  pieces := by
    have pieces := read.pieces
    rwa [List.map_cons, List.filter_cons_of_neg (by simp [empty])] at pieces

theorem IsRead.of_filled {e : Entry} (read : IsRead built (e :: es) us) (filled : e.piece.text ≠ "") :
    ∃ u vs, us = u :: vs ∧ u ∈ Token.scan built ∧ u.piece = e.piece ∧ IsRead built es vs := by
  have pieces := read.pieces
  rw [List.map_cons, List.filter_cons_of_pos (by simpa using filled)] at pieces
  obtain ⟨u, vs, rfl, same, rest⟩ := List.map_eq_cons_iff.1 pieces
  obtain ⟨here, later⟩ := List.forall_mem_cons.1 read.scanned
  exact ⟨u, vs, rfl, here, same, later, rest⟩

theorem IsRead.leadingText?_eq (read : IsRead built es us) : (Token.leadingWord? us).map Token.text = leadingText? es := by
  induction es generalizing us with
  | nil =>
    have none : us = [] := List.map_eq_nil_iff.1 read.pieces
    rw [none]
    rfl
  | cons e es ih =>
    rw [leadingText?]
    rcases Decidable.em (e.piece.text = "") with empty | filled
    · rw [empty, ih (read.of_empty empty)]
      rfl
    · obtain ⟨u, vs, rfl, _, same, _⟩ := read.of_filled filled
      rw [if_neg (by simpa using filled), ← same, Token.leadingWord?]
      change _ = if u.isSeparator = true then _ else some u.text
      split <;> rfl

theorem forall_mem_iff_of_never {α : Type} {fits : α → Prop} {o : Option α} (never : ∀ a ∈ o, ¬ fits a) :
    (∀ a ∈ o, fits a) ↔ o.isSome = false := by
  cases o with
  | none => simp
  | some a => simpa using never a rfl

/-- The target that is read is the target of the template exactly if no other word overtakes that one. -/
theorem target_kept_iff (laidOut : LaidOut d s es) (read : IsRead built es us) :
    (∀ target ∈ Token.leadingWord? us, ∃ w ∈ Token.leadingWord? (es.filterMap Entry.token?),
        wordText d s w = .ok target.text) ↔ overtake es = false := by
  have leads := read.leadingText?_eq
  have filled : ∀ target ∈ Token.leadingWord? us, target.text ≠ "" := by
    intro target leading
    obtain ⟨rest, rfl, _⟩ := Token.exists_of_leadingWord? leading
    exact Token.text_ne_empty (read.scanned target List.mem_cons_self)
  cases laidOut with
  | done =>
    have nothing : Token.leadingWord? us = none := Option.map_eq_none_iff.1 leads
    simp [nothing, overtake]
  | @token t p es member made rest =>
    cases separator : t.isSeparator with
    | true =>
      cases tokenPiece_of_separator separator made
      have kept : (t.text.isEmpty) = false := by simpa using Token.text_ne_empty member
      have nothing : Token.leadingWord? us = none := by
        refine Option.map_eq_none_iff.1 (leads.trans ?_)
        simp [leadingText?, Token.piece, kept, separator]
      simp [nothing, overtake, Token.piece, kept]
    | false =>
      obtain ⟨text, written, rfl⟩ := tokenPiece_of_word separator made
      have given : Token.leadingWord? ((⟨some t, word text⟩ :: es).filterMap Entry.token?) = some t := by
        simp [Token.leadingWord?, separator]
      rw [given]
      rcases Decidable.em (text = "") with rfl | nonempty
      · rw [forall_mem_iff_of_never, ← Option.isSome_map (f := Token.text), leads]
        · simp [overtake, word]
        · rintro target leading ⟨_, ⟨⟩, same⟩
          exact filled target leading (Except.ok.inj (same.symm.trans written))
      · have kept : text.isEmpty = false := by simpa using nonempty
        refine iff_of_true (fun target leading => ⟨t, rfl, ?_⟩) (by simp [overtake, word, kept])
        rw [Option.mem_def.1 leading] at leads
        simp only [leadingText?, word, kept, Option.map_some, Bool.false_eq_true, if_false, Option.some.injEq] at leads
        rw [written, leads]
  | @added text es apart rest =>
    have given : Token.leadingWord? ((⟨none, word text⟩ :: es).filterMap Entry.token?) = none := apart
    rw [given, forall_mem_iff_of_never, ← Option.isSome_map (f := Token.text), leads]
    · simp [overtake]
    · rintro target _ ⟨_, ⟨⟩, _⟩

/-- The redirects of a built command keep their targets exactly if none is overtaken. The tokens of the template and those
of the built command are followed together, along what is laid out. -/
theorem forall₂_redirects_iff (laidOut : LaidOut d s es) (read : IsRead built es us) :
    List.Forall₂ (KeepsTarget d s) (Token.redirects behind us) (Token.redirects behind (es.filterMap Entry.token?)) ↔
      misaim behind es = false := by
  induction laidOut generalizing us behind with
  | done =>
    rw [List.map_eq_nil_iff.1 read.pieces]
    exact iff_of_true .nil rfl
  | @token t p es member made rest ih =>
    cases separator : t.isSeparator with
    | true =>
      cases tokenPiece_of_separator separator made
      obtain ⟨u, vs, rfl, scanned, same, later⟩ := read.of_filled (Token.text_ne_empty member)
      have text : u.text = t.text := congrArg Piece.text same
      have operator : u.isSeparator = true := (congrArg Piece.isOperator same).trans separator
      obtain ⟨op, known⟩ := Token.exists_operator member separator
      have alike : Operator.ofSymbol? u.value = some op := by
        rw [← Token.operator?_piece scanned operator, same, Token.operator?_piece member separator, known]
      have isRedirect := Token.isRedirect_eq separator known
      simp only [List.filterMap_cons, misaim, isRedirect]
      cases redirects : op.isRedirect with
      | true =>
        have isRedirect' := (Token.isRedirect_eq operator alike).trans redirects
        rw [Token.redirects_redirect isRedirect', Token.redirects_redirect (isRedirect.trans redirects)]
        cases behind with
        | true => simpa using ih later
        | false =>
          simp only [Bool.false_eq_true, if_false, List.singleton_append, List.forall₂_cons, KeepsTarget, text, true_and,
            target_kept_iff rest later, ih later, if_true, Bool.not_false, Bool.true_and, Bool.or_eq_false_iff]
      | false =>
        have isControl : t.isControl = true := by
          rw [Token.isControl_eq separator known, Operator.isControl, redirects]
          rfl
        rw [Token.redirects_control operator alike redirects, Token.redirects_control separator known redirects, isControl,
          Token.opensComponent_eq separator known]
        exact ih later
    | false =>
      obtain ⟨text, written, rfl⟩ := tokenPiece_of_word separator made
      have step : misaim behind (⟨some t, word text⟩ :: es) = misaim behind es := by
        simp [misaim, Token.isRedirect, Token.isControl, separator]
      simp only [List.filterMap_cons, Token.redirects_word separator, step]
      rcases Decidable.em (text = "") with empty | filled
      · exact ih (read.of_empty empty)
      · obtain ⟨u, vs, rfl, _, same, later⟩ := read.of_filled filled
        rw [Token.redirects_word (congrArg Piece.isOperator same)]
        exact ih later
  | @added text es _ rest ih =>
    simp only [List.filterMap_cons, misaim]
    rcases Decidable.em (text = "") with empty | filled
    · exact ih (read.of_empty empty)
    · obtain ⟨u, vs, rfl, _, same, later⟩ := read.of_filled filled
      rw [Token.redirects_word (congrArg Piece.isOperator same)]
      exact ih later

end Entry

end Build

namespace Definition

open Build

/-- The redirects of a built command are those of the template, one by one, and those that have a target have the text of
the target in the template. -/
def KeepsTargets (d : Definition) (s : Selection) (built : String) : Prop :=
  List.Forall₂ (KeepsTarget d s) (Structure.ofCommand built).redirects (Structure.ofCommand d.command).redirects

/-- A build with nothing selected and of whole words keeps the targets of its redirects exactly if behind no redirect a
missing or an empty target lets another word come first. -/
theorem keepsTargets_iff {d : Definition} {s : Selection} {built : String} (noSubcommands : s.subcommands = [])
    (noOptions : s.options = {}) (noTrailing : s.trailing = []) (done : d.build s = .ok (some built))
    (whole : laysOutWhole d s = true) : d.KeepsTargets s built ↔ misaims d s = false := by
  obtain ⟨ps, made, rfl⟩ := pieces_of_build done
  have readBack := (readBack_iff_laysOutWhole noSubcommands noOptions noTrailing made).2 whole
  obtain ⟨laidOut, same⟩ := entries_laidOut noSubcommands noOptions noTrailing made
  have read : Entry.IsRead (Piece.join ps) (entries d s) (Token.scan (Piece.join ps)) :=
    ⟨fun _ member => member, by rw [same]; exact readBack⟩
  have kept := @Entry.forall₂_redirects_iff d s _ _ _ false laidOut read
  rw [filterMap_token?_entries] at kept
  rw [KeepsTargets, Structure.ofCommand, Structure.ofCommand, Structure.redirects_ofTokens, Structure.redirects_ofTokens]
  exact kept

/-- A flag and the target of the last redirect in its component are left out. -/
theorem keepsTargets_of_sort :
    let d : Definition :=
      { name := "sort", command := "sort \x7b\x7bflag?\x7d\x7d < \x7b\x7bin\x7d\x7d > \x7b\x7bout?\x7d\x7d | wc"
        parameters :=
          [{ name := "in" }, { name := "flag", required? := some false }, { name := "out", required? := some false }] }
    let s : Selection :=
      { mode := .executable, parameterValues := SortedList.empty.insert ("in", "my file") }
    d.build s = .ok (some "sort < \"my file\" > | wc") ∧ d.KeepsTargets s "sort < \"my file\" > | wc" := by
  intro d s
  have done : d.build s = .ok (some "sort < \"my file\" > | wc") := Build.eq_ok_of_toOption (by decide +kernel)
  exact ⟨done, (keepsTargets_iff rfl rfl rfl done (by decide +kernel)).2 (by decide +kernel)⟩

/-- The name of a file to read becomes that of the file to write. -/
theorem not_keepsTargets_of_missing_target :
    let d : Definition :=
      { name := "sort", command := "sort > \x7b\x7bout?\x7d\x7d names.txt"
        parameters := [{ name := "out", required? := some false }] }
    let s : Selection := { mode := .executable }
    d.build s = .ok (some "sort > names.txt") ∧ ¬ d.KeepsTargets s "sort > names.txt" := by
  intro d s
  have done : d.build s = .ok (some "sort > names.txt") := Build.eq_ok_of_toOption (by decide +kernel)
  let operator : Token := ⟨.separator, ">", ">", ⟨5, 6⟩, {}⟩
  let file : Token := ⟨.path, "names.txt", "names.txt", ⟨7, 16⟩, {}⟩
  let out : Token :=
    ⟨.parameter, "\x7b\x7bout?\x7d\x7d", "\x7b\x7bout?\x7d\x7d", ⟨7, 15⟩, { isOptional := true, isPlaceholder := true }⟩
  have made : (Structure.ofCommand "sort > names.txt").redirects = [⟨operator, some file⟩] := by decide +kernel
  have given : (Structure.ofCommand d.command).redirects = [⟨operator, some out⟩] := by decide +kernel
  have missing : wordText d s out = .ok "" := Build.eq_ok_of_toOption (by decide +kernel)
  refine ⟨done, fun keeps => ?_⟩
  rw [KeepsTargets, made, given, List.forall₂_cons] at keeps
  obtain ⟨w, ⟨⟩, same⟩ := keeps.1.2 file rfl
  exact absurd (Except.ok.inj (missing.symm.trans same)) (by decide)

end Definition

end ShellTemplate
