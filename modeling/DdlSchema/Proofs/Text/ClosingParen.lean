import Mathlib.Data.List.Find
import Mathlib.Order.Bounds.Defs
import DdlSchema.Proofs.Text.Places
import DdlSchema.Proofs.Text.Separation

/-! The parenthesis that closes another one. It is the first closing one outside of quoted spans up to which as
many are closed as are opened. -/

set_option autoImplicit false

namespace DdlSchema.Text

/-- How many times the character stands outside of the spans from `place` to `last`, both included. -/
def bareCount (text : List Char) (place last : Nat) (mark : Char) : Nat :=
  (outside text place).countP fun stop => stop ≤ last && text[stop]? == some mark

/-- A closing parenthesis behind `start`, outside of spans, up to which as many are closed as are opened. -/
structure Closes (text : List Char) (start close : Nat) : Prop where
  behind : start < close
  bare : close ∈ outside text start
  closing : text[close]? = some ')'
  level : bareCount text start close '(' = bareCount text start close ')'

-- An integer, as more may be closed than is opened.
/-- The level behind `last`, if it is `depth` in front of `place`. -/
def levelAfter (text : List Char) (depth : Int) (place last : Nat) : Int :=
  depth + bareCount text place last '(' - bareCount text place last ')'

section

variable {text : List Char} {place last : Nat} {c : Char}

theorem bareCount_quote (here : text[place]? = some c) (quote : isQuote c = true) :
    bareCount text place = bareCount text (quotedEnd text place) := by
  funext last mark
  rw [bareCount, outside_quote here quote, bareCount]

theorem bareCount_plain (here : text[place]? = some c) (plain : isQuote c = false) (last : Nat) (mark : Char) :
    bareCount text place last mark =
      bareCount text (place + 1) last mark + if place ≤ last ∧ c = mark then 1 else 0 := by
  rw [bareCount, outside_plain here plain, List.countP_cons, bareCount, here]
  simp

theorem bareCount_before (before : last < place) (mark : Char) : bareCount text place last mark = 0 := by
  rw [bareCount, List.countP_eq_zero]
  intro stop member
  have after := le_of_mem_outside member
  have beyond : ¬ stop ≤ last := by omega
  simp [beyond]

theorem levelAfter_quote (here : text[place]? = some c) (quote : isQuote c = true) (depth : Int) (last : Nat) :
    levelAfter text depth place last = levelAfter text depth (quotedEnd text place) last := by
  rw [levelAfter, bareCount_quote here quote, levelAfter]

theorem levelAfter_plain (here : text[place]? = some c) (plain : isQuote c = false) (reached : place ≤ last)
    (depth : Int) :
    levelAfter text depth place last = levelAfter text (depth + (Segment.plain c).rise) (place + 1) last := by
  rw [levelAfter, bareCount_plain here plain, bareCount_plain here plain, levelAfter, Segment.rise]
  by_cases opens : c = '('
  · simp [reached, opens]
    omega
  · by_cases closes : c = ')'
    · simp [reached, closes]
      omega
    · simp [opens, closes]

theorem levelAfter_before (before : last < place) (depth : Int) : levelAfter text depth place last = depth := by
  rw [levelAfter, bareCount_before before, bareCount_before before]
  simp

end

/-! The search. -/

section

variable {text : List Char} {place : Nat} {c : Char}

theorem closingFrom_quote (here : text[place]? = some c) (quote : isQuote c = true) (depth : Int) :
    closingFrom depth place (segments (text.drop place)) =
      closingFrom depth (quotedEnd text place) (segments (text.drop (quotedEnd text place))) := by
  have width : place + (spanAt text place).length = quotedEnd text place := by
    rw [spanAt_eq here, quotedEnd_eq here, List.length_cons]
    omega
  rw [segments_quote here quote, closingFrom, width]

theorem closingFrom_other (here : text[place]? = some c) (plain : isQuote c = false) (depth : Int) :
    closingFrom depth place (segments (text.drop place)) =
      if c = ')' ∧ depth = 1 then some place
      else closingFrom (depth + (Segment.plain c).rise) (place + 1) (segments (text.drop (place + 1))) := by
  rw [segments_other here plain, closingFrom, Segment.rise]
  by_cases opens : c = '('
  · simp [opens]
  · by_cases closes : c = ')'
    · by_cases last : depth = 1
      · simp [closes, last]
      · simp [closes, last, Int.sub_eq_add_neg]
    · simp [opens, closes]

end

theorem closingFrom_eq_find? (text : List Char) (depth : Int) (place : Nat) :
    closingFrom depth place (segments (text.drop place)) =
      (outside text place).find? fun stop =>
        text[stop]? == some ')' && levelAfter text depth place stop == 0 := by
  fun_induction stops text place generalizing depth with
  | case1 place beyond =>
    rw [segments_beyond beyond, outside, stops_none beyond]
    rfl
  | case2 place c here ih =>
    cases quote : isQuote c with
    | true =>
      rw [scanOn, if_pos quote] at ih
      rw [closingFrom_quote here quote, ih, outside_quote here quote]
      simp only [levelAfter_quote here quote]
    | false =>
      rw [scanOn, if_neg (by simp [quote])] at ih
      have own : levelAfter text depth place place = depth + (Segment.plain c).rise := by
        rw [levelAfter_plain here quote (Nat.le_refl place), levelAfter_before (Nat.lt_succ_self place)]
      have later : ∀ stop ∈ outside text (place + 1), levelAfter text depth place stop =
          levelAfter text (depth + (Segment.plain c).rise) (place + 1) stop := fun stop member =>
        levelAfter_plain here quote (Nat.le_of_succ_le (le_of_mem_outside member)) depth
      rw [closingFrom_other here quote, ih, outside_plain here quote, List.find?_cons, here, own]
      -- the search ends at a closing parenthesis on level one, where the level behind it is zero
      by_cases closes : c = ')' ∧ depth = 1
      · obtain ⟨rfl, rfl⟩ := closes
        rfl
      · have apart : ((some c == some ')') && depth + (Segment.plain c).rise == 0) = false := by
          rw [Bool.and_eq_false_iff, beq_eq_false_iff_ne, beq_eq_false_iff_ne, Ne, Option.some.injEq]
          by_cases closing : c = ')'
          · have other : depth ≠ 1 := fun last => closes ⟨closing, last⟩
            have down : (Segment.plain c).rise = -1 := by rw [closing]; rfl
            exact .inr (by rw [down]; omega)
          · exact .inl closing
        rw [if_neg closes, apart]
        exact List.find?_congr fun stop member => by rw [later stop member]

theorem levelAfter_pos {text : List Char} {depth : Int} {place close : Nat} (positive : 0 < depth)
    (found : closingFrom depth place (segments (text.drop place)) = some close) {last : Nat}
    (before : last < close) : 0 < levelAfter text depth place last := by
  fun_induction stops text place generalizing depth with
  | case1 place beyond =>
    rw [segments_beyond beyond] at found
    cases found
  | case2 place c here ih =>
    cases quote : isQuote c with
    | true =>
      rw [scanOn, if_pos quote] at ih
      rw [closingFrom_quote here quote] at found
      rw [levelAfter_quote here quote]
      exact ih positive found
    | false =>
      rw [scanOn, if_neg (by simp [quote])] at ih
      rw [closingFrom_other here quote] at found
      by_cases reached : place ≤ last
      · split at found
        · cases found
          omega
        · next other =>
          rw [levelAfter_plain here quote reached]
          refine ih ?_ found
          by_cases closing : c = ')'
          · -- a step down from one would have been the end
            have deep : depth ≠ 1 := fun last => other ⟨closing, last⟩
            have down : (Segment.plain c).rise = -1 := by rw [closing]; rfl
            omega
          · have up : 0 ≤ (Segment.plain c).rise := by
              simp only [Segment.rise, beq_iff_eq, closing, if_false]
              split <;> decide
            omega
      · rwa [levelAfter_before (Nat.lt_of_not_le reached)]

theorem find?_eq_some_iff_isLeast {list : List Nat} (ascends : list.Pairwise (· < ·)) (fits : Nat → Bool)
    (entry : Nat) :
    list.find? fits = some entry ↔ IsLeast {other | other ∈ list ∧ fits other = true} entry := by
  induction list with
  | nil => simp [IsLeast]
  | cons first list ih =>
    obtain ⟨above, ascends⟩ := List.pairwise_cons.mp ascends
    rw [List.find?_cons]
    cases here : fits first with
    | true =>
      constructor
      · rintro ⟨⟩
        refine ⟨⟨List.mem_cons_self, here⟩, ?_⟩
        rintro other ⟨member, -⟩
        rcases List.mem_cons.mp member with rfl | later
        · exact Nat.le_refl other
        · exact Nat.le_of_lt (above other later)
      · rintro ⟨⟨member, -⟩, least⟩
        have below := least ⟨List.mem_cons_self, here⟩
        rcases List.mem_cons.mp member with rfl | later
        · rfl
        · exact absurd (above entry later) (Nat.not_lt.mpr below)
    | false =>
      -- an entry that does not fit is not in the set
      have same : {other | other ∈ first :: list ∧ fits other = true} =
          {other | other ∈ list ∧ fits other = true} := by
        ext other
        simp only [Set.mem_ofPred_eq, List.mem_cons]
        constructor
        · rintro ⟨rfl | later, fit⟩
          · rw [here] at fit
            cases fit
          · exact ⟨later, fit⟩
        · exact fun ⟨later, fit⟩ => ⟨.inr later, fit⟩
      rw [same]
      exact ih ascends

section

variable {text : List Char} {start : Nat}

theorem outside_ascend (text : List Char) (place : Nat) : (outside text place).Pairwise (· < ·) :=
  (stops_ascend text place).filter _

theorem closes_iff (opens : text[start]? = some '(') (close : Nat) : Closes text start close ↔
    close ∈ outside text start ∧
      (text[close]? == some ')' && levelAfter text 0 start close == 0) = true := by
  rw [Bool.and_eq_true, beq_iff_eq, beq_iff_eq, levelAfter]
  constructor
  · rintro ⟨-, bare, closing, level⟩
    exact ⟨bare, closing, by omega⟩
  · rintro ⟨bare, closing, level⟩
    refine ⟨?_, bare, closing, by omega⟩
    have other : start ≠ close := by
      rintro rfl
      rw [opens] at closing
      cases closing
    exact Nat.lt_of_le_of_ne (le_of_mem_outside bare) other

/-- The parenthesis that closes another one is the first one outside of quoted spans up to which as many are
closed as are opened, so that before it more are opened. There is none just where no parenthesis is such. -/
theorem closing_paren_least (opens : text[start]? = some '(') :
    (∀ close, closingParen? text start = some close ↔ IsLeast {place | Closes text start place} close) ∧
    (closingParen? text start = none ↔ ∀ place, ¬ Closes text start place) ∧
    ∀ close, closingParen? text start = some close → ∀ last, start ≤ last → last < close →
      bareCount text start last ')' < bareCount text start last '(' := by
  have search := closingFrom_eq_find? text 0 start
  refine ⟨fun close => ?_, ?_, fun close found last reached before => ?_⟩
  · rw [closingParen?, search, find?_eq_some_iff_isLeast (outside_ascend text start)]
    simp only [closes_iff opens]
  · rw [closingParen?, search, List.find?_eq_none]
    simp only [closes_iff opens, not_and]
  · have plain : isQuote '(' = false := by decide
    have onward := closingFrom_other opens plain 0
    rw [closingParen?, onward, if_neg (by decide)] at found
    have positive := levelAfter_pos (by decide) found before
    rw [← levelAfter_plain opens plain reached, levelAfter] at positive
    omega

theorem closing_paren_least_quoted :
    let text := "f(a')\\')',\"(\" (b)) c)".toList
    text[1]? = some '(' ∧ closingParen? text 1 = some 17 ∧ IsLeast {place | Closes text 1 place} 17 ∧
      ∀ last, 1 ≤ last → last < 17 → bareCount text 1 last ')' < bareCount text 1 last '(' := by
  intro text
  have opens : text[1]? = some '(' := by decide
  have found : closingParen? text 1 = some 17 := by decide +kernel
  obtain ⟨least, -, level⟩ := closing_paren_least opens
  exact ⟨opens, found, (least 17).mp found, level 17 found⟩

end

end DdlSchema.Text
