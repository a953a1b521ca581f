import DdlSchema.Proofs.Text.SpanKeeping
import DdlSchema.Proofs.Text.Tokens

/-! The seams that removed comments leave. A comment without a line break leaves nothing behind, so what
stood on its two sides comes together: words and spans can become one there, and the marks of a comment can
come about. Where no seam does that, the tokens of what is left are those of the pieces between the
comments, and it holds no comment. -/

set_option autoImplicit false

namespace DdlSchema.Text

def pieces (list : List Part) : List (List Char) :=
  (list.splitOnP Part.isComment).map fun piece => piece.flatMap Part.source

/-- The segment and its new neighbour, if a comment is behind it. The neighbour is a line break if the
comments that follow hold one. -/
def seamBehind (segment : Segment) : List Part → Option (Segment × Segment)
  | .comment span :: rest => (remains (.comment span :: rest)).head?.map fun next => (segment, next)
  | _ => none

/-- The neighbours that come together where comments are taken away. -/
def seams : List Part → List (Segment × Segment)
  | [] => []
  | .comment _ :: rest => seams rest
  | .kept segment :: rest => (seamBehind segment rest).toList ++ seams rest

/-- Whether a hash that was kept has come to begin a line: between it and a line break inside a comment,
which may have come before, there are only blanks and comments. -/
def surfaces (fresh : Bool) : List Part → Bool
  | [] => false
  | .comment span :: rest => surfaces (fresh || span.contains '\n') rest
  | .kept (.plain c) :: rest => (fresh && c == '#') || surfaces (fresh && isBlank c) rest
  | .kept (.quoted _) :: rest => surfaces false rest

/-! Parts side by side. -/

theorem head?_of_partsFrom {lineStart : Bool} {text : List Char} {segment : Segment}
    (first : (partsFrom lineStart text).head? = some (.kept segment)) :
    text.head? = segment.text.head? := by
  fun_cases partsFrom lineStart text with
  | case1 => rw [partsFrom] at first; cases first
  | case2 c rest quote => rw [partsFrom, if_pos quote] at first; cases first; rfl
  | case3 c rest plain opens => rw [partsFrom, if_neg plain, if_pos opens] at first; cases first
  | case4 c rest plain others opens =>
    rw [partsFrom, if_neg plain, if_neg others, if_pos opens] at first
    cases first
  | case5 c rest plain others more =>
    rw [partsFrom, if_neg plain, if_neg others, if_neg more] at first
    cases first
    rfl

theorem head?_behind_quotedTail (quote : Char) (text : List Char) :
    (quotedTail quote text).2.head? ≠ some quote := by
  fun_induction quotedTail quote text with
  | case1 => simp
  | case2 c => simp
  | case3 c d rest escape inner after read ih => rwa [read] at ih
  | case4 c d rest single same =>
    rintro ⟨⟩
    simp [beq_iff_eq.mp same] at single
  | case5 c d rest single apart inner after read ih => rwa [read] at ih

/-- Kept segments side by side make up neither one span nor the opening of a comment. -/
def Separate (first second : Part) : Prop :=
  ∀ segment next, first = .kept segment → second = .kept next →
    sameQuote segment next = false ∧ opensPair segment next = false

theorem separate_partsFrom (lineStart : Bool) (text : List Char) :
    (partsFrom lineStart text).IsChain Separate := by
  fun_induction partsFrom lineStart text with
  | case1 => exact .nil
  | case2 lineStart c rest quote ih =>
    refine List.isChain_cons.mpr ⟨?_, ih⟩
    rintro _ here segment next ⟨rfl⟩ rfl
    refine ⟨?_, rfl⟩
    -- a span goes on over a doubled quote, so the next one does not open with the same
    cases next with
    | plain d => rfl
    | quoted span =>
      have behind := head?_behind_quotedTail c rest
      rw [head?_of_partsFrom here] at behind
      exact beq_eq_false_iff_ne.mpr fun same => behind same.symm
  | case3 lineStart c rest plain opens ih =>
    refine List.isChain_cons.mpr ⟨?_, ih⟩
    rintro _ _ segment next ⟨⟩
  | case4 lineStart c rest plain others opens ih =>
    refine List.isChain_cons.mpr ⟨?_, ih⟩
    rintro _ _ segment next ⟨⟩
  | case5 lineStart c rest plain others more ih =>
    refine List.isChain_cons.mpr ⟨?_, ih⟩
    rintro _ here segment next ⟨rfl⟩ rfl
    refine ⟨rfl, ?_⟩
    rw [Bool.eq_false_iff, ne_eq, opensPair_eq_true]
    simp only [Bool.or_eq_true, Bool.and_eq_true, beq_iff_eq, not_or, not_and] at others more
    rintro (⟨⟨rfl⟩, rfl⟩ | ⟨⟨rfl⟩, rfl⟩)
    · exact others.1 rfl (head?_of_partsFrom here)
    · exact more rfl (head?_of_partsFrom here)

theorem faithful_remains (lineStart : Bool) (text : List Char) :
    Faithful (remains (partsFrom lineStart text)) := by
  have breaks : ∀ (span : List Char) (c : Char), c ∈ span.filter (· == '\n') → isQuote c = false := by
    intro span c member
    rw [beq_iff_eq.mp (List.mem_filter.mp member).2]
    rfl
  fun_induction partsFrom lineStart text with
  | case1 => trivial
  | case2 lineStart c rest quote ih =>
    refine ⟨⟨c, _, rfl, quote, quotedTail_self c rest, fun others => ?_⟩, ih⟩
    refine closesTail_quotedTail fun none => others ?_
    rw [none, partsFrom]
    rfl
  | case3 lineStart c rest plain opens ih => exact Faithful.append_plain (breaks _) ih
  | case4 lineStart c rest plain others opens ih => exact Faithful.append_plain (breaks _) ih
  | case5 lineStart c rest plain others more ih => exact ⟨by simpa using plain, ih⟩

/-! Tokens between the comments. -/

def Part.spaced : Part → Segment
  | .kept segment => segment
  | .comment _ => .plain ' '

theorem mem_splitOnP {α : Type} (separates : α → Bool) (list : List α) :
    ∃ first others, list.splitOnP separates = first :: others ∧
      (first <+: list ∧ ∀ entry ∈ first, separates entry = false) ∧
      ∀ piece ∈ others, piece <:+: list ∧ ∀ entry ∈ piece, separates entry = false := by
  induction list with
  | nil => exact ⟨[], [], rfl, ⟨List.prefix_refl _, nofun⟩, nofun⟩
  | cons entry rest ih =>
    obtain ⟨first, others, same, ⟨front, own⟩, all⟩ := ih
    have later : ∀ piece ∈ others,
        piece <:+: entry :: rest ∧ ∀ entry ∈ piece, separates entry = false := fun piece member =>
      ⟨(all piece member).1.trans (List.suffix_cons _ _).isInfix, (all piece member).2⟩
    rw [List.splitOnP_cons_eq_if_modifyHead, same]
    split
    · refine ⟨[], _, rfl, ⟨List.nil_prefix, nofun⟩, fun piece member => ?_⟩
      rcases List.mem_cons.mp member with rfl | inside
      · exact ⟨front.isInfix.trans (List.suffix_cons _ _).isInfix, own⟩
      · exact later piece inside
    · next other =>
      refine ⟨entry :: first, others, rfl, ⟨List.cons_prefix_cons.mpr ⟨rfl, front⟩, ?_⟩, later⟩
      exact List.forall_mem_cons.mpr ⟨Bool.eq_false_iff.mpr other, own⟩

theorem apart_remains {piece : List Part} (none : ∀ part ∈ piece, part.isComment = false)
    (chain : piece.IsChain Separate) :
    (remains piece).IsChain fun first second => sameQuote first second = false := by
  induction piece with
  | nil => exact .nil
  | cons part rest ih =>
    obtain ⟨first, later⟩ := List.isChain_cons.mp chain
    obtain ⟨own, others⟩ := List.forall_mem_cons.mp none
    cases part with
    | comment span => cases own
    | kept segment =>
      refine List.isChain_cons.mpr ⟨fun next here => ?_, ih others later⟩
      cases rest with
      | nil => cases here
      | cons part rest =>
        cases part with
        | comment span => cases others _ List.mem_cons_self
        | kept next =>
          cases here
          exact (first _ rfl _ _ rfl rfl).1

theorem segments_piece {lineStart : Bool} {text : List Char} {piece : List Part}
    (part : piece <:+: partsFrom lineStart text) (none : ∀ part ∈ piece, part.isComment = false) :
    segments (piece.flatMap Part.source) = remains piece := by
  obtain ⟨before, after, split⟩ := part
  have faithful := faithful_remains lineStart text
  have chain := separate_partsFrom lineStart text
  rw [← split] at faithful chain
  rw [remains_append, remains_append] at faithful
  have own : Faithful (remains piece) := Faithful.of_append (Faithful.front faithful)
  have inner := (List.isChain_append.mp (List.isChain_append.mp chain).1).2.1
  rw [← remains_of_kept none, segments_spelled own, joined_of_apart (apart_remains none inner)]

theorem tokens_splitOnP (list : List Part) :
    (list.splitOnP Part.isComment).flatMap (fun piece => tokens (remains piece)) =
      tokens (list.map Part.spaced) := by
  induction list with
  | nil => rw [List.splitOnP_nil]; rfl
  | cons part rest ih =>
    rw [List.splitOnP_cons_eq_if_modifyHead, List.map_cons]
    cases part with
    | comment span =>
      rw [if_pos (show (Part.comment span).isComment = true from rfl), List.flatMap_cons, ih, Part.spaced,
        tokens_blank]
      rfl
    | kept segment =>
      obtain ⟨first, others, same⟩ := List.exists_cons_of_ne_nil (List.splitOnP_ne_nil Part.isComment rest)
      rw [if_neg (show ¬ (Part.kept segment).isComment = true from Bool.false_ne_true), same,
        List.modifyHead_cons, List.flatMap_cons, remains_kept, Part.spaced]
      rw [same, List.flatMap_cons] at ih
      refine tokens_cons_append ?_ ih
      -- the first piece and the list with blanks begin with the same segment, or a word ends in both
      cases rest with
      | nil =>
        rw [List.splitOnP_nil] at same
        cases same
        rfl
      | cons next rest =>
        rw [List.splitOnP_cons_eq_if_modifyHead] at same
        cases next with
        | comment span =>
          cases same
          simp [Part.spaced, remains, bothWords_blank]
        | kept next =>
          obtain ⟨inner, outer, split⟩ := List.exists_cons_of_ne_nil
            (List.splitOnP_ne_nil Part.isComment rest)
          rw [split] at same
          cases same
          rfl

theorem tokens_pieces (text : List Char) :
    (pieces (parts text)).flatMap (fun piece => tokens (segments piece)) =
      tokens ((parts text).map Part.spaced) := by
  obtain ⟨first, others, same, ⟨front, own⟩, all⟩ :=
    mem_splitOnP Part.isComment (parts text)
  have read : ∀ piece ∈ (parts text).splitOnP Part.isComment,
      tokens (segments (piece.flatMap Part.source)) = tokens (remains piece) := by
    rw [same]
    intro piece member
    rcases List.mem_cons.mp member with rfl | later
    · rw [segments_piece front.isInfix own]
    · rw [segments_piece (all piece later).1 (all piece later).2]
  rw [pieces, List.flatMap_map, ← tokens_splitOnP]
  exact List.flatMap_congr read

/-! Tokens across the seams. -/

theorem grouped_breaks (together : Segment → Segment → Bool) (span : List Char) (list : List Segment) :
    grouped together ((span.filter (· == '\n')).map .plain ++ list) = grouped together list := by
  induction span with
  | nil => rfl
  | cons c span ih =>
    rw [List.filter_cons]
    split
    · next ends =>
      rw [beq_iff_eq.mp ends, List.map_cons, List.cons_append, grouped, if_neg (by decide), ih]
    · exact ih

theorem isToken_of_bonds {first second : Segment} (bond : bonds first second = true) :
    isToken first = true := by
  cases first with
  | plain c => cases second <;> simp_all [bonds, bothWords, sameQuote, isWordSegment, isToken]
  | quoted span => rfl

theorem any_bonds_remains {segment : Segment} {rest : List Part}
    (apart : ∀ part ∈ rest.head?, Separate (.kept segment) part) :
    (remains rest).head?.any (bonds segment) =
      ((rest.map Part.spaced).head?.any (bothWords segment) ||
        (seamBehind segment rest).any fun seam => bonds seam.1 seam.2) := by
  cases rest with
  | nil => rfl
  | cons next rest =>
    cases next with
    | kept next =>
      change bonds segment next = (bothWords segment next || false)
      rw [bonds, (apart _ rfl _ _ rfl rfl).1]
    | comment span =>
      rw [seamBehind, Option.any_map, List.map_cons, List.head?_cons, Option.any_some, Part.spaced,
        bothWords_blank, Bool.false_or]

theorem grouped_remains {list : List Part} (chain : list.IsChain Separate)
    (none : ∀ seam ∈ seams list, bonds seam.1 seam.2 = false) :
    grouped bonds (remains list) = tokens (list.map Part.spaced) := by
  induction list with
  | nil => rfl
  | cons part rest ih =>
    obtain ⟨apart, later⟩ := List.isChain_cons.mp chain
    cases part with
    | comment span =>
      rw [remains_comment, grouped_breaks, List.map_cons, Part.spaced, tokens_blank, ih later none]
    | kept segment =>
      rw [seams] at none
      have here : ((seamBehind segment rest).any fun seam => bonds seam.1 seam.2) = false := by
        rw [Option.any_eq_false]
        intro seam member
        rw [none seam (List.mem_append_left _ (Option.mem_toList.mpr member))]
      have rest := ih later fun seam member => none seam (List.mem_append_right _ member)
      rw [remains_kept, List.map_cons, Part.spaced, tokens, grouped, grouped, any_bonds_remains apart, here,
        Bool.or_false, rest, tokens]

theorem length_grouped_remains {list : List Part} (chain : list.IsChain Separate) :
    (grouped bonds (remains list)).length + (seams list).countP (fun seam => bonds seam.1 seam.2) =
      (tokens (list.map Part.spaced)).length := by
  induction list with
  | nil => rfl
  | cons part rest ih =>
    obtain ⟨apart, later⟩ := List.isChain_cons.mp chain
    have ih := ih later
    cases part with
    | comment span => rwa [remains_comment, grouped_breaks, List.map_cons, Part.spaced, tokens_blank]
    | kept segment =>
      rw [remains_kept, List.map_cons, Part.spaced, tokens, length_grouped_cons, length_grouped_cons,
        any_bonds_remains apart, ← tokens, ← ih, seams, List.countP_append]
      have token := @isToken_of_bonds segment
      cases rest with
      | nil => rfl
      | cons next rest =>
        cases next with
        | kept next =>
          simp [seamBehind]
          omega
        | comment span =>
          rw [seamBehind]
          cases (remains (.comment span :: rest)).head? with
          | none => simp; omega
          | some next =>
            cases bond : bonds segment next with
            | false => simp [bond]; omega
            | true => simp [bond, token bond, Part.spaced, bothWords_blank]; omega

/-! Comments across the seams. -/

theorem quiet_joined (lineStart : Bool) (list : List Segment) :
    Quiet lineStart (joined list) ↔ Quiet lineStart list := by
  induction list generalizing lineStart with
  | nil => rfl
  | cons segment rest ih =>
    cases segment with
    | plain c =>
      rw [joined, Quiet, Quiet, forall_head_opensPair, forall_head_opensPair, head?_joined_plain,
        head?_joined_plain, ih]
    | quoted span =>
      rw [quiet_quoted, ← ih, joined]
      split
      · next read =>
        rw [read, quiet_quoted]
        split <;> simp only [quiet_quoted]
      · exact quiet_quoted lineStart span _

theorem quiet_breaks (lineStart : Bool) (span : List Char) (list : List Segment) :
    Quiet lineStart ((span.filter (· == '\n')).map .plain ++ list) ↔
      Quiet (lineStart || span.contains '\n') list := by
  induction span generalizing lineStart with
  | nil => simp
  | cons c span ih =>
    rw [List.filter_cons, List.contains_cons]
    split
    · next ends =>
      obtain rfl := beq_iff_eq.mp ends
      have alone : ∀ next, opensPair (.plain '\n') next = false := by
        intro next
        cases next <;> rfl
      rw [List.map_cons, List.cons_append, Quiet, Segment.leavesStart, ih]
      simp [alone, Segment.isHash]
    · next other =>
      have apart : ('\n' == c) = false := by
        rw [beq_eq_false_iff_ne]
        rintro rfl
        exact other rfl
      rw [ih, apart, Bool.false_or]

theorem pairs_remains_iff {segment : Segment} {rest : List Part}
    (apart : ∀ part ∈ rest.head?, Separate (.kept segment) part) :
    (∀ next ∈ (remains rest).head?, opensPair segment next = false) ↔
      ∀ seam ∈ seamBehind segment rest, opensPair seam.1 seam.2 = false := by
  cases rest with
  | nil => simp [remains, seamBehind]
  | cons next rest =>
    cases next with
    | kept next => simpa [remains, seamBehind, Part.left] using (apart _ rfl _ _ rfl rfl).2
    | comment span => simp [seamBehind]

theorem seams_kept (joins : Segment → Segment → Bool) (segment : Segment) (rest : List Part) :
    (∀ seam ∈ seams (.kept segment :: rest), joins seam.1 seam.2 = false) ↔
      (∀ seam ∈ seamBehind segment rest, joins seam.1 seam.2 = false) ∧
        ∀ seam ∈ seams rest, joins seam.1 seam.2 = false := by
  rw [seams, List.forall_mem_append]
  simp only [Option.mem_toList, Option.mem_def]

theorem quiet_remains_iff (lineStart fresh : Bool) (text : List Char) :
    Quiet (lineStart || fresh) (remains (partsFrom lineStart text)) ↔
      (∀ seam ∈ seams (partsFrom lineStart text), opensPair seam.1 seam.2 = false) ∧
        surfaces fresh (partsFrom lineStart text) = false := by
  have chain := separate_partsFrom lineStart text
  -- `lineStart` is what the scanner knew in the text, `fresh` what line breaks of comments have added since
  fun_induction partsFrom lineStart text generalizing fresh with
  | case1 => simp [remains, seams, surfaces, Quiet]
  | case2 lineStart c rest quote ih =>
    obtain ⟨apart, later⟩ := List.isChain_cons.mp chain
    have alone := (pairs_remains_iff apart).mp fun next _ => rfl
    rw [remains_kept, quiet_quoted, seams_kept, surfaces, and_iff_right alone]
    exact ih false later
  | case3 lineStart c rest plain opens ih =>
    rw [remains_comment, quiet_breaks, Bool.or_assoc, seams, surfaces]
    exact ih _ (List.isChain_cons.mp chain).2
  | case4 lineStart c rest plain others opens ih =>
    rw [remains_comment, quiet_breaks, Bool.or_assoc, seams, surfaces]
    exact ih _ (List.isChain_cons.mp chain).2
  | case5 lineStart c rest plain others more ih =>
    obtain ⟨apart, later⟩ := List.isChain_cons.mp chain
    have rest := ih (fresh && isBlank c) later
    -- a hash that begins a line of the text opens a comment, so it is not kept
    have unhashed : (lineStart && c == '#') = false := by
      rw [Bool.or_eq_true, not_or, Bool.and_comm, Bool.and_comm (c == '#')] at others
      exact Bool.eq_false_iff.mpr others.2
    rw [Bool.or_assoc, ← Bool.and_or_distrib_right] at rest
    rw [remains_kept, Quiet, pairs_remains_iff apart, seams_kept, surfaces, Segment.leavesStart,
      Segment.isHash, Bool.and_or_distrib_right _ _ (c == '#'), unhashed, Bool.false_or,
      Bool.or_eq_false_iff]
    constructor
    · rintro ⟨alone, still, quiet⟩
      exact ⟨⟨alone, (rest.mp quiet).1⟩, still, (rest.mp quiet).2⟩
    · rintro ⟨⟨alone, others⟩, still, under⟩
      exact ⟨alone, still, rest.mpr ⟨others, under⟩⟩

theorem no_comment_left_iff (text : List Char) :
    (∀ part ∈ parts (stripComments text), part.isComment = false) ↔
      (∀ seam ∈ seams (parts text), opensPair seam.1 seam.2 = false) ∧
        surfaces false (parts text) = false := by
  have faithful : Faithful (remains (parts text)) := faithful_remains true text
  rw [parts, ← quiet_segments_iff, stripComments_eq_remains, segments_spelled faithful, quiet_joined]
  exact quiet_remains_iff true false text

-- the line break of a block comment puts the hash on a line of its own
example : stripComments "a/*\n*/#b".toList = "a\n#b".toList := by decide

/-- Where the scanner stands, there is the text cut: it is in a part of which it has read the first
characters, and it has put out what is left of these and of all parts before. The tokens of what is left
of a text are those of the pieces between its comments just if no two neighbours at a seam bond, and each
two that do are one token less. No comment is left just if no two open one and if no hash has come to
begin a line. -/
theorem seams_decide (text : List Char) :
    (∀ place scanner out, Visits text place scanner out → ∃ before read,
      parts text = before ++ scanner.ahead read (text.drop place) ∧
        text.take place = before.flatMap Part.source ++ read ∧
        out = spelled (remains before) ++ read.filter scanner.keeps) ∧
    (tokens (segments (stripComments text)) =
        (pieces (parts text)).flatMap (fun piece => tokens (segments piece)) ↔
      ∀ seam ∈ seams (parts text), bonds seam.1 seam.2 = false) ∧
    (tokens (segments (stripComments text))).length +
        (seams (parts text)).countP (fun seam => bonds seam.1 seam.2) =
      ((pieces (parts text)).flatMap fun piece => tokens (segments piece)).length ∧
    ((∀ part ∈ parts (stripComments text), part.isComment = false) ↔
      (∀ seam ∈ seams (parts text), opensPair seam.1 seam.2 = false) ∧
        surfaces false (parts text) = false) := by
  have faithful : Faithful (remains (parts text)) := faithful_remains true text
  have chain : (parts text).IsChain Separate := separate_partsFrom true text
  have lengths := length_grouped_remains chain
  have left : tokens (segments (stripComments text)) = grouped bonds (remains (parts text)) := by
    rw [stripComments_eq_remains, tokens_spelled faithful]
  rw [tokens_pieces, left]
  refine ⟨fun place scanner out visits => ?_, ⟨fun same => ?_, grouped_remains chain⟩, lengths,
    no_comment_left_iff text⟩
  · obtain ⟨before, read, whole, fresh, kept⟩ := visits.cut
    have source : (parts text).flatMap Part.source = text := source_partsFrom true text
    rw [whole, List.flatMap_append, source_ahead fresh, ← List.append_assoc] at source
    refine ⟨before, read, whole, ?_, kept⟩
    exact List.append_cancel_right ((List.take_append_drop place text).trans source.symm)
  · rw [same, Nat.add_eq_left, List.countP_eq_zero] at lengths
    exact fun seam member => Bool.eq_false_iff.mpr (lengths seam member)

/-- Two words become one, and two dashes the opening of a comment. -/
theorem comments_can_fuse :
    (¬ ∀ text, tokens (segments (stripComments text)) =
      (pieces (parts text)).flatMap fun piece => tokens (segments piece)) ∧
    ¬ ∀ text, ∀ part ∈ parts (stripComments text), part.isComment = false := by
  constructor
  · intro always
    exact absurd (always "a/**/b".toList) (by decide +kernel)
  · intro always
    exact absurd (always "-/**/-".toList) (by decide +kernel)

end DdlSchema.Text
