import DdlSchema.Proofs.Text.Masking
import DdlSchema.Proofs.Text.Matching

/-! Patterns on masked texts. A pattern keeps marks if it takes every placeholder as a whole or not at
all; where its matches begin outside placeholders, replacing them leaves a masked text. -/

set_option autoImplicit false

namespace DdlSchema.Text

/-! Blanks and letters occur in no placeholder. -/

def blankCodes : List Nat :=
  List.range' 0x9 5 ++ List.range' 0x1c 5 ++ [0x85, 0xa0, 0x1680] ++ List.range' 0x2000 11 ++
    [0x2028, 0x2029, 0x202f, 0x205f, 0x3000]

theorem mem_blankCodes {c : Char} (blank : isBlank c = true) : c.toNat ∈ blankCodes := by
  simp only [isBlank, inRanges, Bool.if_false_left, Bool.and_eq_true, Bool.or_eq_true,
    decide_eq_true_eq, Bool.not_eq_true', decide_eq_false_iff_not, Bool.false_eq_true,
    or_false] at blank
  simp only [blankCodes, List.mem_append, List.mem_range'_1, List.mem_cons, List.not_mem_nil, or_false]
  omega

theorem of_isBlank (holds : Char → Prop) (all : ∀ code ∈ blankCodes, holds (Char.ofNat code)) {c : Char}
    (blank : isBlank c = true) : holds c := by
  simpa using all c.toNat (mem_blankCodes blank)

theorem isPlain_of_isBlank {c : Char} (blank : isBlank c = true) : isPlain c = true :=
  of_isBlank (isPlain · = true) (by decide) blank

theorem toLower_of_not_ascii {c : Char} (beyond : 0x80 ≤ c.toNat) : c.toLower = c := by
  have large : ¬ (c.val ≥ 'A'.val ∧ c.val ≤ 'Z'.val) := by
    rintro ⟨-, small⟩
    have := UInt32.le_iff_toNat_le.mp small
    exact absurd beyond (Nat.not_le.mpr (Nat.lt_of_le_of_lt this (by decide)))
  exact dif_neg large

theorem lt_of_isAlpha {c : Char} (alpha : c.isAlpha = true) : c.toNat < 0x80 := by
  have small : ∀ {last : Char}, last.toNat < 0x80 → c.val ≤ last.val → c.toNat < 0x80 :=
    fun ascii below => Nat.lt_of_le_of_lt (UInt32.le_iff_toNat_le.mp below) ascii
  have either : c.isUpper = true ∨ c.isLower = true := Bool.or_eq_true_iff.mp alpha
  rcases either with upper | lower
  · have range : 'A'.val ≤ c.val ∧ c.val ≤ 'Z'.val := of_decide_eq_true upper
    exact small (by decide) range.2
  · have range : decide (c.val ≤ 'z'.val) = true := (Bool.and_eq_true_iff.mp lower).2
    exact small (by decide) (of_decide_eq_true range)

/-- The letters of ASCII, and the few that are listed with them. -/
def letterCodes : List Nat :=
  List.range' 0x41 26 ++ List.range' 0x61 26 ++ [0x17f, 0x130, 0x131, 0x212a]

theorem mem_letterCodes {letter c : Char} (alpha : letter.isAlpha = true)
    (same : sameLetter letter c = true) : c.toNat ∈ letterCodes := by
  have first := lt_of_isAlpha alpha
  rcases Nat.lt_or_ge c.toNat 0x80 with small | beyond
  · -- within ASCII all pairs are tried
    have ascii : ∀ code < 0x80, code ∈ letterCodes ∨
        ∀ letter < 0x80, (Char.ofNat letter).isAlpha = true →
          sameLetter (Char.ofNat letter) (Char.ofNat code) = false := by
      decide +kernel
    rcases ascii c.toNat small with listed | apart
    · exact listed
    · have other := apart letter.toNat first
      rw [Char.ofNat_toNat, Char.ofNat_toNat, same] at other
      cases other alpha
  · -- beyond ASCII a letter is equal to those that are listed with it only
    have apart : (c.toLower == letter.toLower) = false := by
      have lower : ∀ letter < 0x80, (Char.ofNat letter).toLower.toNat < 0x80 := by decide
      have low := lower letter.toNat first
      rw [Char.ofNat_toNat] at low
      rw [toLower_of_not_ascii beyond, beq_eq_false_iff_ne]
      rintro rfl
      omega
    refine List.mem_append_right _ ?_
    rw [sameLetter, apart, Bool.false_or] at same
    simp only [List.mem_cons, List.not_mem_nil, or_false]
    split at same <;> simp only [Bool.or_eq_true, beq_iff_eq, Bool.false_eq_true] at same <;> omega

/-- What holds of a letter in either case is checked over the codes of letters. -/
theorem of_sameLetter (holds : Char → Prop) (all : ∀ code ∈ letterCodes, holds (Char.ofNat code))
    {letter c : Char} (alpha : letter.isAlpha = true) (same : sameLetter letter c = true) : holds c := by
  simpa using all c.toNat (mem_letterCodes alpha same)

theorem isPlain_of_sameLetter {letter c : Char} (alpha : letter.isAlpha = true)
    (same : sameLetter letter c = true) : isPlain c = true :=
  of_sameLetter (isPlain · = true) (by decide) alpha same

/-! Places between which placeholders are whole. -/

/-- Between the places stand whole placeholders, and so do they behind the second one. -/
def Between (bound : Nat) (place later : Cursor) : Prop :=
  ∃ taken, Pattern.Spans place later taken ∧ Marked bound taken ∧ Marked bound later.rest

namespace Between

variable {bound : Nat} {place middle later : Cursor}

theorem refl (marked : Marked bound place.rest) : Between bound place place :=
  ⟨[], by simp [Pattern.Spans], .nil, marked⟩

theorem rest (between : Between bound place later) : Marked bound later.rest := by
  obtain ⟨taken, -, -, left⟩ := between
  exact left

theorem trans (first : Between bound place middle) (second : Between bound middle later) :
    Between bound place later := by
  obtain ⟨before, spans, markedBefore, -⟩ := first
  obtain ⟨after, spansAfter, markedAfter, rest⟩ := second
  exact ⟨before ++ after, spans.trans spansAfter, markedBefore.append markedAfter, rest⟩

end Between

namespace Pattern

def KeepsMarks (pattern : Pattern) : Prop :=
  ∀ ⦃bound : Nat⦄ ⦃place later : Cursor⦄, Reaches pattern place later → Marked bound place.rest →
    Between bound place later

theorem KeepsMarks.seq {first second : Pattern} (before : KeepsMarks first)
    (after : KeepsMarks second) : KeepsMarks (.seq first second) := by
  rintro bound place later ⟨middle, reach, next⟩ marked
  have start := before reach marked
  exact start.trans (after next start.rest)

theorem KeepsMarks.either {first second : Pattern} (left : KeepsMarks first)
    (right : KeepsMarks second) : KeepsMarks (.either first second) := by
  rintro bound place later (reach | reach) marked
  · exact left reach marked
  · exact right reach marked

theorem KeepsMarks.cons {first : Pattern} {rest : List Pattern} (before : KeepsMarks first)
    (after : KeepsMarks (ofList rest)) : KeepsMarks (ofList (first :: rest)) := by
  intro bound place later reach marked
  obtain ⟨middle, reach, next⟩ := reaches_ofList_cons.mp reach
  have start := before reach marked
  exact start.trans (after next start.rest)

/-- Behind characters that are no mark, no placeholder has been begun. -/
theorem between_of_spans {bound : Nat} {place later : Cursor} {taken : List Char}
    (spans : Spans place later taken) (other : ∀ c ∈ taken, c ≠ '\x00')
    (marked : Marked bound place.rest) : Between bound place later := by
  refine ⟨taken, spans, .of_plain other, ?_⟩
  rw [spans.1] at marked
  clear spans
  induction taken with
  | nil => exact marked
  | cons c taken ih =>
    exact ih (fun d member => other d (List.mem_cons_of_mem _ member))
      (marked.tail (other c List.mem_cons_self))

/-- The pattern takes no mark. -/
def sparesMarks : Pattern → Bool
  | .char accepts | .run accepts _ | .shortRun accepts => !accepts '\x00'
  | .seq first second | .either first second => first.sparesMarks && second.sparesMarks
  | .many body | .capture _ body => body.sparesMarks
  | _ => true

theorem sparesMarks_eq_avoids (pattern : Pattern) : pattern.sparesMarks = pattern.avoids '\x00' := by
  induction pattern with
  | seq first second ihFirst ihSecond | either first second ihFirst ihSecond =>
    rw [sparesMarks, avoids, ihFirst, ihSecond]
  | many body ih | capture label body ih => exact ih
  | _ => rfl

theorem keepsMarks_of_spares {pattern : Pattern} (spares : pattern.sparesMarks = true) :
    KeepsMarks pattern := by
  rw [sparesMarks_eq_avoids] at spares
  intro bound place later reach marked
  obtain ⟨taken, spans⟩ := reach.spans
  refine between_of_spans spans (fun c member mark => ?_) marked
  exact not_mem_of_avoids spares reach spans (mark ▸ member)

/-- What ends at a character that occurs in no placeholder ends at the end of one or outside. -/
theorem between_of_last {bound : Nat} {place later : Cursor} {taken : List Char} {c : Char}
    (spans : Spans place later (taken ++ [c])) (plain : isPlain c = true)
    (marked : Marked bound place.rest) : Between bound place later := by
  have split : place.rest = taken ++ c :: later.rest := by simpa using spans.1
  rw [split] at marked
  obtain ⟨before, after⟩ := marked.cut plain
  exact ⟨_, spans, before.append (.plain (ne_mark_of_isPlain plain) .nil), after⟩

/-! Matches that begin outside placeholders. -/

def BeginsPlain (pattern : Pattern) : Prop :=
  ∀ ⦃place later : Cursor⦄, Reaches pattern place later →
    ∃ c rest, place.rest = c :: rest ∧ isPlain c = true

theorem BeginsPlain.seq {first : Pattern} (begins : BeginsPlain first) (second : Pattern) :
    BeginsPlain (.seq first second) := by
  rintro place later ⟨middle, reach, -⟩
  exact begins reach

theorem BeginsPlain.edge {second : Pattern} (begins : BeginsPlain second) :
    BeginsPlain (.seq .edge second) := by
  rintro place later ⟨middle, ⟨-, rfl⟩, reach⟩
  exact begins reach

theorem BeginsPlain.after {second : Pattern} (begins : BeginsPlain second) (accepts : Char → Bool) :
    BeginsPlain (.seq (.after accepts) second) := by
  rintro place later ⟨middle, ⟨-, rfl⟩, reach⟩
  exact begins reach

theorem BeginsPlain.optional {first second : Pattern} (option : BeginsPlain first)
    (begins : BeginsPlain second) : BeginsPlain (.seq (Pattern.optional first) second) := by
  rintro place later ⟨middle, reach | rfl, next⟩
  · exact option reach
  · exact begins next

theorem beginsPlain_gap : BeginsPlain gap := by
  rintro place later ⟨taken, ⟨rest, here⟩, blank, least, -⟩
  obtain ⟨c, others, rfl⟩ := List.exists_cons_of_length_pos (Nat.lt_of_succ_le least)
  exact ⟨c, others ++ rest, by simpa using here.symm, isPlain_of_isBlank (blank c List.mem_cons_self)⟩

theorem beginsPlain_letters {word : String} {letter : Char} {others : List Char}
    (spelled : word.toList = letter :: others) (alpha : letter.isAlpha = true) :
    BeginsPlain (letters word) := by
  intro place later reach
  obtain ⟨taken, spans, same⟩ := reach.letters
  rw [spelled] at same
  cases same with
  | cons first _ => exact ⟨_, _, spans.1, isPlain_of_sameLetter alpha first⟩

theorem replaceFrom_skip (pattern : Pattern) (replacement taken rest : List Char) (before : Option Char) :
    replaceFrom pattern replacement taken.length before (taken ++ rest) =
      replaceFrom pattern replacement 0 (taken.getLast?.or before) rest := by
  induction taken generalizing before with
  | nil => simp
  | cons c taken ih => rw [List.length_cons, List.cons_append, replaceFrom, ih, getLast?_cons_or]

theorem replaceFrom_found {pattern : Pattern} {taken rest : List Char} {before : Option Char} {found : Match}
    (some_ : taken ≠ []) (matched : pattern.matchAt before (taken ++ rest) = some found)
    (long : found.length = taken.length) (replacement : List Char) :
    pattern.replaceFrom replacement 0 before (taken ++ rest) =
      replacement ++ pattern.replaceFrom replacement 0 (taken.getLast?.or before) rest := by
  obtain ⟨c, taken, rfl⟩ := List.exists_cons_of_ne_nil some_
  obtain ⟨length, captured⟩ := found
  obtain rfl : length = taken.length + 1 := long
  rw [List.cons_append] at matched ⊢
  rw [replaceFrom, matched]
  dsimp only
  rw [replaceFrom_skip, getLast?_cons_or]

/-- At each place a match is replaced or else a character is kept. -/
theorem replaceFrom_step (pattern : Pattern) (replacement : List Char) (before : Option Char) (c : Char)
    (rest : List Char) :
    (∃ taken later found, c :: rest = taken ++ later.rest ∧ taken ≠ [] ∧
      pattern.matchAt before (c :: rest) = some found ∧ found.length = taken.length ∧
      Reaches pattern ⟨before, c :: rest, 0, []⟩ later ∧ Spans ⟨before, c :: rest, 0, []⟩ later taken ∧
      pattern.replaceFrom replacement 0 before (c :: rest) =
        replacement ++ pattern.replaceFrom replacement 0 (taken.getLast?.or before) later.rest) ∨
    pattern.replaceFrom replacement 0 before (c :: rest) =
      c :: pattern.replaceFrom replacement 0 (some c) rest := by
  cases matched : pattern.matchAt before (c :: rest) with
  | none => exact .inr (by rw [replaceFrom, matched])
  | some found =>
    obtain ⟨taken, later, split, long, reach, spans⟩ := matchAt_taken matched
    by_cases empty : taken = []
    · obtain ⟨length, captured⟩ := found
      rw [empty] at long
      obtain rfl : length = 0 := long
      exact .inr (by rw [replaceFrom, matched])
    · have replaced := replaceFrom_found empty (split ▸ matched) long replacement
      exact .inl ⟨taken, later, found, split, empty, rfl, long, reach, spans, split ▸ replaced⟩

theorem replaceFrom_inside {pattern : Pattern} (begins : BeginsPlain pattern)
    (replacement : List Char) {inside : List Char} (mark : ∀ c ∈ inside, isPlain c = false)
    (rest : List Char) (before : Option Char) :
    replaceFrom pattern replacement 0 before (inside ++ rest) =
      inside ++ replaceFrom pattern replacement 0 (inside.getLast?.or before) rest := by
  induction inside generalizing before with
  | nil => simp
  | cons c inside ih =>
    have none : pattern.matchAt before (c :: (inside ++ rest)) = none := by
      cases matched : pattern.matchAt before (c :: (inside ++ rest)) with
      | none => rfl
      | some found =>
        obtain ⟨later, reach, -⟩ := matchAt_sound matched
        obtain ⟨d, others, here, plain⟩ := begins reach
        cases here
        rw [mark c List.mem_cons_self] at plain
        cases plain
    rw [List.cons_append, replaceFrom, none, ih fun d member => mark d (List.mem_cons_of_mem _ member)]
    rw [getLast?_cons_or]
    rfl

theorem not_isPlain_of_mem_markOf {digits : List Char} (decimal : ∀ c ∈ digits, isDecimal c = true) :
    ∀ c ∈ markOf digits, isPlain c = false := by
  intro c member
  simp only [markOf, List.mem_append, List.mem_cons, List.not_mem_nil, or_false] at member
  rcases member with (rfl | inside) | rfl
  · rfl
  · simp [isPlain, decimal c inside]
  · rfl

theorem marked_replaceFrom {pattern : Pattern} (keeps : KeepsMarks pattern)
    (begins : BeginsPlain pattern) {bound : Nat} {replacement text : List Char}
    (written : Marked bound replacement) (marked : Marked bound text) (before : Option Char) :
    Marked bound (replaceFrom pattern replacement 0 before text) := by
  -- a match is followed by a shorter text, which need not be the next one in the derivation
  induction size : text.length using Nat.strongRecOn generalizing text before with
  | ind size ih =>
    cases marked with
    | nil => exact .nil
    | @plain c rest other later =>
      rcases replaceFrom_step pattern replacement before c rest with
        ⟨taken, place, found, split, some_, -, -, reach, -, replaced⟩ | kept
      · obtain ⟨-, -, -, left⟩ := keeps reach (.plain other later)
        have sum := congrArg List.length split
        have := List.length_pos_iff.mpr some_
        rw [List.length_append, size] at sum
        rw [replaced]
        exact written.append (ih _ (by omega) left _ rfl)
      · rw [kept]
        exact .plain other (ih rest.length (by simp [← size]) later (some c) rfl)
    | @mark digits rest nonempty decimal less later =>
      rw [replaceFrom_inside begins replacement (not_isPlain_of_mem_markOf decimal)]
      refine .mark nonempty decimal less (ih rest.length ?_ later _ rfl)
      simp only [← size, markOf, List.length_append, List.length_cons, List.length_nil]
      omega

theorem marked_replaceAll {pattern : Pattern} (keeps : KeepsMarks pattern)
    (begins : BeginsPlain pattern) {bound : Nat} {replacement text : List Char}
    (written : Marked bound replacement) (marked : Marked bound text) :
    Marked bound (pattern.replaceAll replacement text) :=
  marked_replaceFrom keeps begins written marked none

/-- A match that a search finds is a masked text of its own. -/
theorem marked_of_search {pattern : Pattern} (keeps : KeepsMarks pattern)
    (begins : BeginsPlain pattern) {bound : Nat} {text rest : List Char} {found : Match}
    (searched : pattern.search text = some (found, rest)) (marked : Marked bound text) :
    Marked bound (rest.take found.length) := by
  obtain ⟨⟨front, rfl⟩, before, matched⟩ := search_sound searched
  obtain ⟨own, later, split, long, reach, spans⟩ := matchAt_taken matched
  obtain ⟨c, others, here, plain⟩ := begins reach
  -- the match begins at a place where the text can be cut
  have here : rest = c :: others := here
  rw [here] at marked
  have whole : Marked bound rest := here ▸ .plain (ne_mark_of_isPlain plain) (marked.cut plain).2
  obtain ⟨taken, also, inside, -⟩ := keeps reach whole
  rwa [long, split, List.take_left, spans.unique also]

end Pattern

end DdlSchema.Text
