import Mathlib.Data.List.Chain
import DdlSchema.Proofs.Text.Segmentation

/-! The words between quoted spans. A word ends where the next segment is no word character, so a stretch
that is taken away joins two words only if word characters stand on both sides of what is left. -/

set_option autoImplicit false

namespace DdlSchema.Text

/-! Digits are word characters. Both tables ascend, so one walk along them compares the two. -/

/-- The ranges from which on a number can lie in one. -/
def rangesFrom (n : Nat) (ranges : List (Nat × Nat)) : List (Nat × Nat) :=
  ranges.dropWhile fun range => range.1 < n && range.2 < n

theorem inRanges_rangesFrom {base n : Nat} (least : base ≤ n) (ranges : List (Nat × Nat)) :
    inRanges (rangesFrom base ranges) n = inRanges ranges n := by
  induction ranges with
  | nil => rfl
  | cons range ranges ih =>
    rw [rangesFrom, List.dropWhile_cons]
    split
    · next low =>
      simp only [Bool.and_eq_true, decide_eq_true_eq] at low
      have above : ¬ n < range.1 := by omega
      have beyond : ¬ n ≤ range.2 := by omega
      rw [← rangesFrom, ih, inRanges, if_neg above, decide_eq_false beyond, Bool.false_or]
    · rfl

/-- The ten numbers from each of these on lie in one range. -/
def coversTens : List (Nat × Nat) → List Nat → Bool
  | _, [] => true
  | ranges, base :: bases =>
    ((rangesFrom base ranges).head?.any fun range => range.1 ≤ base && base + 9 ≤ range.2) &&
      coversTens (rangesFrom base ranges) bases

theorem inRanges_of_coversTens {ranges : List (Nat × Nat)} {bases : List Nat}
    (ascending : bases.Pairwise (· ≤ ·)) (covers : coversTens ranges bases = true) {base k : Nat}
    (member : base ∈ bases) (small : k < 10) : inRanges ranges (base + k) = true := by
  induction bases generalizing ranges with
  | nil => cases member
  | cons first bases ih =>
    rw [List.pairwise_cons] at ascending
    rw [coversTens, Bool.and_eq_true] at covers
    have least : first ≤ base + k := by
      rcases List.mem_cons.mp member with rfl | later
      · omega
      · exact Nat.le_add_right_of_le (ascending.1 base later)
    rw [← inRanges_rangesFrom least]
    rcases List.mem_cons.mp member with rfl | later
    · cases left : rangesFrom base ranges with
      | nil => simp [left] at covers
      | cons range others =>
        rw [left, List.head?_cons, Option.any_some, Bool.and_eq_true, decide_eq_true_eq,
          decide_eq_true_eq] at covers
        have inside : ¬ base + k < range.1 := by omega
        have below : base + k ≤ range.2 := by omega
        rw [inRanges, if_neg inside, decide_eq_true below, Bool.true_or]
    · exact ih ascending.2 covers.2 later

theorem exists_of_digitFrom {bases : List Nat} {n : Nat} (digit : (digitFrom bases n).isSome = true) :
    ∃ base ∈ bases, ∃ k < 10, n = base + k := by
  induction bases with
  | nil => cases digit
  | cons base bases ih =>
    rw [digitFrom] at digit
    split at digit
    · cases digit
    · next low =>
      split at digit
      · next high => exact ⟨base, List.mem_cons_self, n - base, by omega, by omega⟩
      · obtain ⟨other, member, k, small, same⟩ := ih digit
        exact ⟨other, List.mem_cons_of_mem _ member, k, small, same⟩

theorem isWordChar_of_isDecimal {c : Char} (decimal : isDecimal c = true) : isWordChar c = true := by
  unfold isDecimal digitValue? at decimal
  unfold isWordChar
  split at decimal
  · next ascii =>
    have digit : c.isDigit = true := by
      by_contra other
      rw [if_neg other] at decimal
      cases decimal
    rw [if_pos ascii, Char.isAlphanum, digit, Bool.or_true, Bool.true_or]
  · next beyond =>
    obtain ⟨base, member, k, small, same⟩ := exists_of_digitFrom decimal
    rw [if_neg beyond, same]
    exact inRanges_of_coversTens (by decide +kernel) (by decide +kernel) member small

/-! Words. -/

def isWordSegment : Segment → Bool
  | .plain c => isWordChar c
  | .quoted _ => false

def inWord (segment : Option Segment) : Bool := segment.any isWordSegment

/-- The maximal runs of word characters outside quoted spans. -/
def wordRuns : List Segment → List (List Char)
  | [] => []
  | segment :: rest =>
    if isWordSegment segment then
      if inWord rest.head? then (wordRuns rest).modifyHead (segment.text ++ ·)
      else segment.text :: wordRuns rest
    else wordRuns rest

theorem wordRuns_cons (segment : Segment) (rest : List Segment) :
    wordRuns (segment :: rest) = if isWordSegment segment then
      if inWord rest.head? then (wordRuns rest).modifyHead (segment.text ++ ·)
      else segment.text :: wordRuns rest
    else wordRuns rest := rfl

theorem inWord_shown (segment : Option Segment) :
    (segment.map Segment.shown).any isWordChar = inWord segment := by
  cases segment with
  | none => rfl
  | some segment =>
    cases segment with
    | plain c => rfl
    | quoted span => exact (by decide : isWordChar '\x00' = false)

section

variable {list rest out front : List Segment}

theorem wordRuns_ne_nil (word : inWord list.head? = true) : wordRuns list ≠ [] := by
  induction list with
  | nil => cases word
  | cons segment rest ih =>
    have inside : isWordSegment segment = true := word
    rw [wordRuns, if_pos inside]
    split
    · next more =>
      obtain ⟨first, others, same⟩ := List.exists_cons_of_ne_nil (ih more)
      rw [same]
      exact List.cons_ne_nil _ _
    · exact List.cons_ne_nil _ _

theorem wordRuns_append (apart : inWord front.getLast? = false ∨ inWord rest.head? = false) :
    wordRuns (front ++ rest) = wordRuns front ++ wordRuns rest := by
  induction front with
  | nil => rfl
  | cons segment front ih =>
    cases front with
    | nil =>
      rw [List.singleton_append, wordRuns]
      split
      · next inside =>
        have other : ¬ inWord rest.head? = true := by
          rcases apart with last | other
          · exact absurd (inside.symm.trans last) (by decide)
          · simp [other]
        rw [if_neg other, wordRuns, if_pos inside]
        rfl
      · next outside =>
        rw [wordRuns, if_neg outside]
        rfl
    | cons next front =>
      have later := ih (by simpa using apart)
      rw [List.cons_append, wordRuns_cons segment, later, wordRuns_cons segment]
      split
      · have head : (next :: front ++ rest).head? = (next :: front).head? := rfl
        rw [head]
        split
        · next more =>
          obtain ⟨first, others, same⟩ := List.exists_cons_of_ne_nil (wordRuns_ne_nil more)
          rw [same]
          rfl
        · rfl
      · rfl

theorem inWord_head (outside : ∀ segment ∈ list, isWordSegment segment = false) :
    inWord list.head? = false := by
  cases list with
  | nil => rfl
  | cons segment rest => exact outside segment List.mem_cons_self

theorem inWord_getLast (outside : ∀ segment ∈ list, isWordSegment segment = false) :
    inWord list.getLast? = false := by
  cases last : list.getLast? with
  | none => rfl
  | some segment => exact outside segment (List.mem_of_getLast? last)

theorem wordRuns_of_outside (outside : ∀ segment ∈ list, isWordSegment segment = false) :
    wordRuns list = [] := by
  induction list with
  | nil => rfl
  | cons segment rest ih =>
    rw [wordRuns, if_neg (by simp [outside segment]), ih fun other member =>
      outside other (List.mem_cons_of_mem _ member)]

theorem wordRuns_of_word {word : List Char} (nonempty : word ≠ [])
    (all : ∀ c ∈ word, isWordChar c = true) : wordRuns (word.map .plain) = [word] := by
  induction word with
  | nil => exact absurd rfl nonempty
  | cons c word ih =>
    have first : isWordSegment (.plain c) = true := all c List.mem_cons_self
    rw [List.map_cons, wordRuns, if_pos first]
    cases word with
    | nil => rfl
    | cons d word =>
      have more : inWord ((d :: word).map Segment.plain).head? = true := all d (by simp)
      rw [if_pos more, ih (by simp) fun e member => all e (List.mem_cons_of_mem _ member)]
      rfl

theorem Joins.wordRuns {joined : List Segment} (joins : Joins list joined) :
    wordRuns joined = wordRuns list := by
  have same : ∀ {list joined : List Segment}, Joins list joined →
      inWord joined.head? = inWord list.head? := by
    intro list joined joins
    cases joins <;> rfl
  induction joins with
  | nil => rfl
  | cons segment joins ih => rw [Text.wordRuns, Text.wordRuns, ih, same joins]
  | join _ ih => exact ih

/-! Taking stretches away. -/

/-- Stretches that can be taken away without joining words: each begins outside of words, a word behind
one stands apart from what is left in front of it, and two stretches in a row have no word behind them. -/
structure LeavesApart (removes : Option Segment → List Segment → Option Segment → Prop) : Prop where
  begins : ∀ {before next taken}, removes before taken next → inWord taken.head? = false
  apart : ∀ {before next taken}, removes before taken next → inWord next = true →
    inWord before = false ∧ inWord taken.getLast? = false
  chain : ∀ {before next taken more}, removes before taken more.head? →
    removes (taken.getLast?.or before) more next → inWord next = false

variable {removes : Option Segment → List Segment → Option Segment → Prop} {before : Option Segment}

theorem LeavesApart.head (leaves : LeavesApart removes) (edits : Edits removes [] before rest out)
    {start : Option Segment} {taken : List Segment} (behind : removes start taken rest.head?)
    (same : before = taken.getLast?.or start) (outside : inWord rest.head? = false) :
    inWord out.head? = false := by
  induction edits generalizing start taken with
  | nil => rfl
  | keep => exact outside
  | @replace before more rest out some_ here edits ih =>
    obtain ⟨first, others, rfl⟩ := List.exists_cons_of_ne_nil some_
    subst same
    exact ih here rfl (@LeavesApart.chain _ leaves start _ taken (first :: others) behind here)

theorem LeavesApart.sublist (leaves : LeavesApart removes) (edits : Edits removes [] before rest out)
    (follows : inWord front.getLast? = true → inWord before = true) :
    List.Sublist (wordRuns (front ++ out)) (wordRuns (front ++ rest)) := by
  induction edits generalizing front with
  | nil => exact List.Sublist.refl _
  | @keep before segment rest out _ ih =>
    have later := @ih (front ++ [segment]) (by simp)
    simpa using later
  | @replace before taken rest out some_ here edits ih =>
    have own : List.Sublist (wordRuns out) (wordRuns rest) := @ih [] (fun word => nomatch word)
    have whole : wordRuns (front ++ (taken ++ rest)) = wordRuns front ++ wordRuns (taken ++ rest) := by
      refine wordRuns_append (.inr ?_)
      obtain ⟨first, others, rfl⟩ := List.exists_cons_of_ne_nil some_
      exact @LeavesApart.begins _ leaves _ _ (first :: others) here
    rw [List.nil_append, whole]
    -- a word behind the stretch begins behind what is left, or else nothing goes on there
    cases word : inWord rest.head? with
    | true =>
      obtain ⟨outside, ends⟩ := leaves.apart here word
      have left : inWord front.getLast? = false := by
        rw [Bool.eq_false_iff]
        intro inside
        exact absurd ((follows inside).symm.trans outside) (by decide)
      rw [wordRuns_append (.inl left), wordRuns_append (.inl ends)]
      exact (List.Sublist.refl _).append (own.trans (List.sublist_append_right _ _))
    | false =>
      rw [wordRuns_append (.inr (leaves.head edits here rfl word)), wordRuns_append (.inr word)]
      exact (List.Sublist.refl _).append (own.trans (List.sublist_append_right _ _))

theorem LeavesApart.words (leaves : LeavesApart removes) (edits : Edits removes [] before rest out) :
    List.Sublist (wordRuns out) (wordRuns rest) :=
  @LeavesApart.sublist rest out [] removes before leaves edits fun word => nomatch word

end

/-! Quoted spans with no word behind them. -/

/-- No quoted span is followed by a word character. -/
def Loose (list : List Segment) : Prop :=
  list.IsChain fun first second => (∃ span, first = .quoted span) → isWordSegment second = false

section

variable {removes : Option Segment → List Segment → Option Segment → Prop} {replacement : List Segment}
  {before : Option Segment} {list out : List Segment}

/-- Where the list is loose, a stretch that ends with a quoted span has no word behind it. -/
theorem Edits.loosely (loose : Loose list) (edits : Edits removes replacement before list out) :
    Edits (fun before taken next => removes before taken next ∧
      ((∃ span, taken.getLast? = some (.quoted span)) → inWord next = false))
      replacement before list out := by
  induction edits with
  | nil => exact .nil
  | keep _ ih => exact .keep (ih loose.tail)
  | @replace _ taken rest _ some_ here _ ih =>
    obtain ⟨-, later, between⟩ := List.isChain_append.mp loose
    refine .replace some_ ⟨here, ?_⟩ (ih later)
    rintro ⟨span, last⟩
    cases head : rest.head? with
    | none => rfl
    | some segment => exact between _ last _ head ⟨span, rfl⟩

theorem Edits.loose (outside : ∀ before taken next, removes before taken next → inWord next = false)
    (loose : Loose list) (edits : Edits removes [] before list out) : Loose out := by
  have head : ∀ {before : Option Segment} {list out : List Segment}, Edits removes [] before list out →
      inWord list.head? = false → inWord out.head? = false := by
    intro before list out edits none
    induction edits with
    | nil => rfl
    | keep => exact none
    | replace _ here _ ih => exact ih (outside _ _ _ here)
  induction edits with
  | nil => exact .nil
  | @keep _ segment rest out edits ih =>
    refine List.isChain_cons.mpr ⟨?_, ih loose.tail⟩
    rintro next first ⟨span, rfl⟩
    have none : inWord rest.head? = false := by
      cases start : rest.head? with
      | none => rfl
      | some segment => exact (List.isChain_cons.mp loose).1 _ start ⟨span, rfl⟩
    have left := head edits none
    rwa [first] at left
  | replace _ _ _ ih => exact ih (List.isChain_append.mp loose).2.1

end

end DdlSchema.Text
