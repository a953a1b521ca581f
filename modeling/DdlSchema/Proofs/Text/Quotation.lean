import DdlSchema.Text.Case
import DdlSchema.Text.Paren

/-! A literal in the middle of a text. Its quotes are no blanks and belong to no phrase, and commas between
them do not separate. So words, phrases and clauses around a literal are found whatever it holds. -/

set_option autoImplicit false

namespace DdlSchema.Text

def quotation (content : List Char) : List Char := '\x27' :: (content ++ ['\x27'])

theorem append_quotation (front content back : List Char) :
    front ++ (quotation content ++ back) = front ++ '\x27' :: (content ++ '\x27' :: back) := by
  simp [quotation]

/-! Squeezing. -/

/-- The rest of a squeezed text behind a character that is no blank; `pending` tells that there are blanks
before the rest. -/
def gapped : Bool → List Char → List Char
  | _, [] => []
  | pending, c :: rest =>
    if isBlank c then gapped true rest
    else if pending then ' ' :: c :: gapped false rest
    else c :: gapped false rest

theorem intercalate_words (text : List Char) :
    (∀ current, current ≠ [] →
      [' '].intercalate (wordsFrom current text) = current.reverse ++ gapped false text) ∧
    gapped true text =
      if wordsFrom [] text = [] then [] else ' ' :: [' '].intercalate (wordsFrom [] text) := by
  -- both at once: words behind a started one, and words behind a gap
  induction text with
  | nil =>
    refine ⟨fun current some_ => ?_, rfl⟩
    simp [wordsFrom, some_, gapped]
  | cons c rest ih =>
    obtain ⟨behind, between⟩ := ih
    by_cases blank : isBlank c = true
    · refine ⟨fun current some_ => ?_, by simpa [wordsFrom, gapped, blank] using between⟩
      simp only [wordsFrom, gapped, blank, if_true, List.isEmpty_eq_false_iff.mpr some_, between]
      cases words : wordsFrom [] rest with
      | nil => simp
      | cons word others => simp [List.intercalate_cons_cons]
    · have single := behind [c] (List.cons_ne_nil c [])
      have more : wordsFrom [c] rest ≠ [] := by
        intro none
        rw [none] at single
        cases single
      refine ⟨fun current some_ => ?_, ?_⟩
      · rw [wordsFrom, if_neg blank, behind _ (List.cons_ne_nil c current)]
        simp [gapped, blank]
      · rw [wordsFrom, if_neg blank, if_neg more, single]
        simp [gapped, blank]

section

variable {mark : Char}

theorem squeeze_blank (blank : isBlank mark = true) (rest : List Char) :
    squeeze (mark :: rest) = squeeze rest := by
  simp [squeeze, words, wordsFrom, blank]

theorem squeeze_solid (solid : isBlank mark = false) (rest : List Char) :
    squeeze (mark :: rest) = mark :: gapped false rest := by
  rw [squeeze, words, wordsFrom, solid, if_neg Bool.false_ne_true]
  exact (intercalate_words rest).1 [mark] (List.cons_ne_nil mark [])

theorem gapped_solid {front : List Char} (solid : ∀ c ∈ front, isBlank c = false) (rest : List Char) :
    gapped false (front ++ rest) = front ++ gapped false rest := by
  induction front with
  | nil => rfl
  | cons c front ih =>
    rw [List.cons_append, gapped, solid c List.mem_cons_self, if_neg Bool.false_ne_true,
      if_neg Bool.false_ne_true, ih fun d member => solid d (List.mem_cons_of_mem _ member)]
    rfl

theorem gapped_mark (solid : isBlank mark = false) (pending : Bool) (front : List Char) :
    ∃ lead, ∀ back, gapped pending (front ++ mark :: back) = lead ++ mark :: gapped false back := by
  induction front generalizing pending with
  | nil =>
    refine ⟨if pending then [' '] else [], fun back => ?_⟩
    rw [List.nil_append, gapped, solid, if_neg Bool.false_ne_true]
    cases pending <;> rfl
  | cons c front ih =>
    by_cases blank : isBlank c = true
    · obtain ⟨lead, all⟩ := ih true
      exact ⟨lead, fun back => by rw [List.cons_append, gapped, if_pos blank, all]⟩
    · obtain ⟨lead, all⟩ := ih false
      refine ⟨(if pending then [' ', c] else [c]) ++ lead, fun back => ?_⟩
      rw [List.cons_append, gapped, if_neg blank, all]
      cases pending <;> rfl

/-- What a text is squeezed to behind a mark does not depend on what stands in front of it. -/
theorem squeeze_mark (solid : isBlank mark = false) (front : List Char) :
    ∃ lead, ∀ back, squeeze (front ++ mark :: back) = lead ++ mark :: gapped false back := by
  induction front with
  | nil => exact ⟨[], squeeze_solid solid⟩
  | cons c front ih =>
    by_cases blank : isBlank c = true
    · obtain ⟨lead, all⟩ := ih
      exact ⟨lead, fun back => (squeeze_blank blank _).trans (all back)⟩
    · obtain ⟨lead, all⟩ := gapped_mark solid false front
      refine ⟨c :: lead, fun back => ?_⟩
      rw [List.cons_append, squeeze_solid (Bool.eq_false_iff.mpr blank), all]
      rfl

/-! Phrases. -/

theorem isPrefixOf_mark {part : List Char} (other : mark ∉ part) (front back : List Char) :
    part.isPrefixOf (front ++ mark :: back) = part.isPrefixOf front := by
  induction part generalizing front with
  | nil => rfl
  | cons c part ih =>
    obtain ⟨apart, rest⟩ := not_or.mp fun member => other (List.mem_cons.mpr member)
    cases front with
    | nil => simp [List.isPrefixOf, Ne.symm apart]
    | cons d front => rw [List.cons_append, List.isPrefixOf, List.isPrefixOf, ih rest]

theorem occursIn_mark {part : List Char} (other : mark ∉ part) (front back : List Char) :
    occursIn part (front ++ mark :: back) = (occursIn part front || occursIn part back) := by
  have here := isPrefixOf_mark other
  induction front with
  | nil =>
    have start := here [] back
    rw [List.nil_append] at start
    rw [List.nil_append, occursIn, occursIn, start]
    cases part <;> rfl
  | cons c front ih =>
    have start := here (c :: front) back
    rw [List.cons_append] at start
    rw [List.cons_append, occursIn, occursIn, start, ih, Bool.or_assoc]

/-! Trimming. -/

theorem trimLeft_mark (solid : isBlank mark = false) (front back : List Char) :
    trimLeft (front ++ mark :: back) = trimLeft front ++ mark :: back := by
  induction front with
  | nil => simp [trimLeft, solid]
  | cons c front ih =>
    by_cases blank : isBlank c = true
    · simpa [trimLeft, blank] using ih
    · simp [trimLeft, blank]

theorem trimRight_mark (solid : isBlank mark = false) (front back : List Char) :
    trimRight (front ++ mark :: back) = front ++ mark :: trimRight back := by
  have mirrored := trimLeft_mark solid back.reverse front.reverse
  unfold trimLeft at mirrored
  simp [trimRight, mirrored]

theorem trim_quotation (front content back : List Char) :
    trim (front ++ (quotation content ++ back)) = trimLeft front ++ (quotation content ++ trimRight back) := by
  have solid : isBlank '\x27' = false := by decide
  rw [trim, append_quotation, append_quotation, trimLeft_mark solid,
    ← List.cons_append, ← List.append_assoc, trimRight_mark solid]
  simp

end

/-! Clauses. -/

/-- The open quote and the depth behind one more character. -/
def commaStep : Option Char × Int → Char → Option Char × Int
  | (some quote, depth), c => (if c == quote then none else some quote, depth)
  | (none, depth), c =>
    if isQuote c then (some c, depth)
    else if c == '(' then (none, depth + 1)
    else if c == ')' then (none, depth - 1)
    else (none, depth)

def commaState (state : Option Char × Int) (text : List Char) : Option Char × Int :=
  text.foldl commaStep state

/-- The pieces with a character in front of the first one. -/
def putFront (c : Char) : List (List Char) → List (List Char)
  | piece :: others => (c :: piece) :: others
  | [] => [[c]]

theorem commaPieces_cons (quote : Option Char) (depth : Int) (c : Char) (text : List Char) :
    commaPieces quote depth (c :: text) =
      let state := commaStep (quote, depth) c
      let inner := commaPieces state.1 state.2 text
      if quote.isNone && c == ',' && depth == 0 then [] :: inner else putFront c inner := by
  cases quote with
  | some quote => rfl
  | none =>
    by_cases comma : c = ','
    · subst comma
      rfl
    · have other : (c == ',') = false := beq_false_of_ne comma
      simp only [commaPieces, commaStep, other, Bool.false_and, Bool.and_false]
      by_cases opens : isQuote c = true
      · simp only [opens, if_true]
        rfl
      · by_cases deeper : (c == '(') = true
        · simp only [opens, deeper, if_true]
          rfl
        · by_cases higher : (c == ')') = true
          · simp only [opens, deeper, higher, if_true]
            rfl
          · simp only [opens, deeper, higher]
            rfl

theorem commaPieces_ne_nil (quote : Option Char) (depth : Int) (text : List Char) :
    commaPieces quote depth text ≠ [] := by
  cases text with
  | nil => exact List.cons_ne_nil _ _
  | cons c text =>
    rw [commaPieces_cons]
    simp only
    split
    · exact List.cons_ne_nil _ _
    · cases commaPieces _ _ text <;> exact List.cons_ne_nil _ _

theorem subset_of_mem_commaPieces {quote : Option Char} {depth : Int} {text piece : List Char}
    (member : piece ∈ commaPieces quote depth text) : piece ⊆ text := by
  induction text generalizing quote depth piece with
  | nil => simp_all [commaPieces]
  | cons c text ih =>
    rw [commaPieces_cons] at member
    simp only at member
    split at member
    · rcases List.mem_cons.mp member with rfl | later
      · exact List.nil_subset _
      · exact List.subset_cons_of_subset c (ih later)
    · obtain ⟨first, others, pieces⟩ := List.exists_cons_of_ne_nil
        (commaPieces_ne_nil (commaStep (quote, depth) c).1 (commaStep (quote, depth) c).2 text)
      rw [pieces, putFront] at member
      rcases List.mem_cons.mp member with rfl | later
      · exact List.cons_subset_cons c (ih (pieces ▸ List.mem_cons_self))
      · exact List.subset_cons_of_subset c (ih (pieces ▸ List.mem_cons_of_mem _ later))

theorem commaPieces_append (state : Option Char × Int) (text : List Char) {rest first : List Char}
    {later : List (List Char)}
    (pieces : commaPieces (commaState state text).1 (commaState state text).2 rest = first :: later) :
    commaPieces state.1 state.2 (text ++ rest) = (commaPieces state.1 state.2 text).dropLast ++
      ((commaPieces state.1 state.2 text).getLastD [] ++ first) :: later := by
  induction text generalizing state with
  | nil => exact pieces
  | cons c text ih =>
    have inner := ih (commaStep state c) pieces
    have some_ := commaPieces_ne_nil (commaStep state c).1 (commaStep state c).2 text
    rw [List.cons_append, commaPieces_cons, commaPieces_cons]
    simp only [inner]
    generalize commaPieces (commaStep state c).1 (commaStep state c).2 text = own at some_
    split
    · simp [List.dropLast_cons_of_ne_nil some_, List.getLastD_eq_getLast?, List.getLast?_cons,
        List.getLast?_eq_some_getLast some_]
    · cases own with
      | nil => exact absurd rfl some_
      | cons piece others => cases others <;> simp [putFront]

theorem commaStep_inside (depth : Int) {quote c : Char} (other : c ≠ quote) :
    commaStep (some quote, depth) c = (some quote, depth) := by
  simp [commaStep, other]

section

variable {quote : Char} {content : List Char}

theorem commaState_closed (depth : Int) (opens : isQuote quote = true) (plain : quote ∉ content) :
    commaState (none, depth) (quote :: (content ++ [quote])) = (none, depth) := by
  have inside : ∀ content : List Char, quote ∉ content →
      commaState (some quote, depth) (content ++ [quote]) = (none, depth) := by
    intro content plain
    induction content with
    | nil => simp [commaState, commaStep]
    | cons c content ih =>
      obtain ⟨apart, rest⟩ := not_or.mp fun member => plain (List.mem_cons.mpr member)
      rw [List.cons_append, commaState, List.foldl_cons, commaStep_inside depth (Ne.symm apart)]
      exact ih rest
  have first : commaStep (none, depth) quote = (some quote, depth) := by simp [commaStep, opens]
  rw [commaState, List.foldl_cons, first]
  exact inside content plain

theorem commaPieces_closed (depth : Int) (opens : isQuote quote = true) (plain : quote ∉ content) :
    commaPieces none depth (quote :: (content ++ [quote])) = [quote :: (content ++ [quote])] := by
  have inside : ∀ content : List Char, quote ∉ content →
      commaPieces (some quote) depth (content ++ [quote]) = [content ++ [quote]] := by
    intro content plain
    induction content with
    | nil =>
      rw [List.nil_append, commaPieces_cons]
      simp [commaPieces, putFront]
    | cons c content ih =>
      obtain ⟨apart, rest⟩ := not_or.mp fun member => plain (List.mem_cons.mpr member)
      rw [List.cons_append, commaPieces_cons, commaStep_inside depth (Ne.symm apart)]
      simp only [ih rest]
      rfl
  have comma : (quote == ',') = false := by
    rw [beq_eq_false_iff_ne]
    rintro rfl
    cases opens
  rw [commaPieces_cons]
  simp only [commaStep, opens, if_true, inside content plain, comma, Bool.and_false, Bool.false_and]
  rfl

end

/-- The pieces that are clauses. -/
def clausesOf (pieces : List (List Char)) : List (List Char) :=
  (pieces.map trim).filter fun piece => !piece.isEmpty

/-- A literal outside other quotes stands in one clause, and the others are the same whatever it holds. -/
theorem splitCommas_quotation {before content : List Char} (back : List Char)
    (outside : (commaState (none, 0) before).1 = none) (plain : '\x27' ∉ content) :
    let pieces := commaPieces none 0 before
    let others := commaPieces none (commaState (none, 0) before).2 back
    splitCommas (before ++ (quotation content ++ back)) = clausesOf pieces.dropLast ++
      (trimLeft (pieces.getLastD []) ++ (quotation content ++ trimRight (others.headD []))) ::
        clausesOf others.tail := by
  intro pieces others
  obtain ⟨first, later, others_⟩ : ∃ first later, others = first :: later :=
    List.exists_cons_of_ne_nil (commaPieces_ne_nil _ _ back)
  have behind : commaPieces none (commaState (none, 0) before).2 (quotation content ++ back) =
      (quotation content ++ first) :: later := by
    have joined := @commaPieces_append (none, (commaState (none, 0) before).2) (quotation content) back
      first later (by rw [quotation, commaState_closed _ rfl plain]; exact others_)
    rw [quotation, commaPieces_closed _ rfl plain] at joined
    exact joined
  have whole := @commaPieces_append (none, 0) before (quotation content ++ back) (quotation content ++ first)
    later (by rw [outside, behind])
  have filled : ∀ front rest, (front ++ (quotation content ++ rest)).isEmpty = false := by
    intro front rest
    cases front <;> rfl
  simp only at whole
  rw [splitCommas, whole, others_]
  simp [clausesOf, trim_quotation, filled, pieces]

end DdlSchema.Text
