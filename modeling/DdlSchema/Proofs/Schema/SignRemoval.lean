import DdlSchema.Schema.TypeName
import DdlSchema.Proofs.Statement.TableHead

/-! Taking sign modifiers away. A modifier is a word of its own, and the blanks in front of it go with it; all
other characters stay where they are. -/

set_option autoImplicit false

namespace DdlSchema.Schema

open DdlSchema.Text DdlSchema.Text.Pattern
open DdlSchema.Statement (isWordChar_of_letters isWordChar_of_isBlank not_isBlank_of_isWordChar matchAt_eq_none)

def IsSign (word : List Char) : Prop :=
  List.Forall₂ (fun letter c => sameLetter letter c = true) "UNSIGNED".toList word ∨
    List.Forall₂ (fun letter c => sameLetter letter c = true) "ZEROFILL".toList word

theorem IsSign.length {word : List Char} (sign : IsSign word) : word.length = 8 := by
  rcases sign with same | same
  · exact same.length_eq.symm
  · exact same.length_eq.symm

theorem IsSign.ne_nil {word : List Char} (sign : IsSign word) : word ≠ [] :=
  List.ne_nil_of_length_eq_add_one sign.length

theorem IsSign.letters {word : List Char} (sign : IsSign word) : ∀ c ∈ word, isWordChar c = true := by
  rcases sign with same | same
  · exact isWordChar_of_letters (by decide) same
  · exact isWordChar_of_letters (by decide) same

/-- The text begins with blanks and a modifier, and the modifier is a word of its own. -/
structure SignAt (before : Option Char) (gap word rest : List Char) : Prop where
  blank : ∀ c ∈ gap, isBlank c = true
  sign : IsSign word
  apart : gap = [] → before.any isWordChar = false
  ends : rest.head?.any isWordChar = false

namespace SignAt

variable {before : Option Char} {gap word rest : List Char}

theorem head (at_ : SignAt before gap word rest) (others : List Char) :
    (word ++ others).head?.any isBlank = false := by
  obtain ⟨c, word, rfl⟩ := List.exists_cons_of_ne_nil at_.sign.ne_nil
  exact not_isBlank_of_isWordChar (at_.sign.letters c List.mem_cons_self)

theorem cons {c : Char} (blank : isBlank c = true) (at_ : SignAt (some c) gap word rest) :
    SignAt before (c :: gap) word rest := by
  refine ⟨fun d member => ?_, at_.sign, nofun, at_.ends⟩
  rcases List.mem_cons.mp member with rfl | later
  · exact blank
  · exact at_.blank d later

end SignAt

/-! What the pattern finds. -/

theorem signAt_of_reaches {place later : Cursor} (reach : Reaches signModifier place later) :
    ∃ gap word, Spans place later (gap ++ word) ∧ SignAt place.before gap word later.rest := by
  obtain ⟨spaced, ⟨gap, start, blank, -, rfl⟩, _, ⟨apart, rfl⟩, worded, either, ends, rfl⟩ := reach
  obtain ⟨word, spans, sign⟩ : ∃ word, Spans (place.past gap) later word ∧ IsSign word := either.either_letters
  have some_ := sign.ne_nil
  refine ⟨gap, word, (spans_past start).trans spans, blank, sign, ?_, ?_⟩
  · rintro rfl
    obtain ⟨c, others, rfl⟩ := List.exists_cons_of_ne_nil some_
    rw [Cursor.past_nil] at apart spans
    rw [spans.1, List.cons_append, List.head?_cons, Option.any_some,
      sign.letters c List.mem_cons_self] at apart
    simpa using apart
  · exact (either.edge_iff spans some_ sign.letters).mp ⟨ends, rfl⟩

theorem reaches_of_signAt {place : Cursor} {gap word rest : List Char}
    (here : place.rest = gap ++ (word ++ rest)) (at_ : SignAt place.before gap word rest) :
    ∃ later, Reaches signModifier place later := by
  have some_ := at_.sign.ne_nil
  have start : gap <+: place.rest := ⟨word ++ rest, here.symm⟩
  have there : (place.past gap).rest = word ++ rest := rest_past here
  have found : Reaches (.either (letters "UNSIGNED") (letters "ZEROFILL")) (place.past gap)
      ((place.past gap).past word) :=
    at_.sign.imp (reaches_letters there) (reaches_letters there)
  -- a word character follows; a blank stands before it, or what stood before the empty gap
  have apart : Reaches .edge (place.past gap) (place.past gap) := by
    obtain ⟨c, others, split⟩ := List.exists_cons_of_ne_nil some_
    refine ⟨?_, rfl⟩
    have word_ : isWordChar c = true := at_.sign.letters c (by simp [split])
    rw [there, split, List.cons_append, List.head?_cons, Option.any_some, word_]
    cases gap with
    | nil => simp [Cursor.past_nil, at_.apart rfl]
    | cons d gap =>
      have blank := at_.blank _ (List.getLast_mem (List.cons_ne_nil d gap))
      simp only [Cursor.past, List.getLast?_eq_some_getLast (List.cons_ne_nil d gap), Option.some_or,
        Option.any_some, isWordChar_of_isBlank blank]
      exact Bool.false_ne_true
  have ends : Reaches .edge ((place.past gap).past word) ((place.past gap).past word) := by
    rw [found.edge_iff (spans_past ⟨rest, there.symm⟩) some_ at_.sign.letters, rest_past there]
    exact at_.ends
  exact ⟨_, _, ⟨gap, start, at_.blank, Nat.zero_le _, rfl⟩, _, apart, _, found, ends⟩

section

variable {before : Option Char} {gap word rest text : List Char}

/-- Where a modifier is found it is taken with the blanks in front of it. -/
theorem matchAt_signed (at_ : SignAt before gap word rest) :
    ∃ captured, signModifier.matchAt before (gap ++ (word ++ rest)) =
      some ⟨(gap ++ word).length, captured⟩ := by
  have some_ : (signModifier.matchAt before (gap ++ (word ++ rest))).isSome = true :=
    (matchAt_isSome_iff (by decide)).mpr (reaches_of_signAt rfl at_)
  obtain ⟨⟨length, captured⟩, found⟩ := Option.isSome_iff_exists.mp some_
  obtain ⟨later, reach, count, -⟩ := matchAt_sound found
  obtain ⟨gap', word', spans, own⟩ := signAt_of_reaches reach
  have split : gap ++ (word ++ rest) = gap' ++ (word' ++ later.rest) := by
    rw [← List.append_assoc gap', ← spans.1]
  obtain ⟨rfl, -⟩ := run_unique at_.blank own.blank (at_.head rest) (own.head later.rest) split
  refine ⟨captured, found.trans ?_⟩
  have width : length = (gap ++ word).length := by
    have count : length = (gap ++ word').length := count.trans spans.consumed_eq
    rw [count, List.length_append, List.length_append, at_.sign.length, own.sign.length]
  rw [width]

theorem matchAt_unsigned (unsigned : ∀ gap word rest, text = gap ++ (word ++ rest) →
    ¬ SignAt before gap word rest) : signModifier.matchAt before text = none := by
  refine matchAt_eq_none fun later reach => ?_
  obtain ⟨gap, word, spans, at_⟩ := signAt_of_reaches reach
  exact unsigned gap word later.rest (spans.1.trans (List.append_assoc _ _ _)) at_

/-! What is left. -/

/-- The rest of a text without its modifiers, behind a character. -/
def unsigned (before : Option Char) (text : List Char) : List Char :=
  signModifier.replaceFrom [] 0 before text

theorem unsigned_signed (at_ : SignAt before gap word rest) :
    unsigned before (gap ++ (word ++ rest)) = unsigned word.getLast? rest := by
  obtain ⟨captured, found⟩ := matchAt_signed at_
  have some_ := at_.sign.ne_nil
  have last : (gap ++ word).getLast? = word.getLast? := List.getLast?_append_of_ne_nil _ some_
  rw [← List.append_assoc] at found ⊢
  rw [unsigned, replaceFrom_found (List.append_ne_nil_of_right_ne_nil gap some_) found rfl, List.nil_append,
    last, Option.or_of_isSome (List.getLast?_isSome.mpr some_), unsigned]

theorem unsigned_blank (blank : ∀ c ∈ text, isBlank c = true) : unsigned before text = text := by
  induction text generalizing before with
  | nil => rfl
  | cons c text ih =>
    have missed : signModifier.matchAt before (c :: text) = none := by
      refine matchAt_unsigned fun gap word rest split at_ => ?_
      obtain ⟨d, member⟩ := List.exists_mem_of_ne_nil word at_.sign.ne_nil
      have space := blank d (by simp [split, member])
      rw [not_isBlank_of_isWordChar (at_.sign.letters d member)] at space
      cases space
    rw [unsigned, replaceFrom_none missed]
    exact congrArg (c :: ·) (ih fun d member => blank d (List.mem_cons_of_mem _ member))

theorem unsigned_solid {c : Char} (blank : ∀ d ∈ gap, isBlank d = true) (solid : isBlank c = false)
    (none : ∀ word others, c :: rest = word ++ others → ¬ SignAt before gap word others) :
    unsigned before (gap ++ c :: rest) = gap ++ c :: unsigned (some c) rest := by
  have first : (c :: rest).head?.any isBlank = false := solid
  have missed : ∀ {before : Option Char} {gap : List Char}, (∀ d ∈ gap, isBlank d = true) →
      (∀ word others, c :: rest = word ++ others → ¬ SignAt before gap word others) →
        signModifier.matchAt before (gap ++ c :: rest) = .none := by
    intro before gap blank none
    refine matchAt_unsigned fun gap' word others split at_ => ?_
    obtain ⟨rfl, same⟩ := run_unique blank at_.blank first (at_.head others) split
    exact none word others same at_
  induction gap generalizing before with
  | nil => exact replaceFrom_none (missed blank none)
  | cons d gap ih =>
    have later := @ih (some d) (fun e member => blank e (List.mem_cons_of_mem _ member))
      fun word others split at_ => none word others split (at_.cons (blank d List.mem_cons_self))
    exact (replaceFrom_none (missed blank none)).trans (congrArg (d :: ·) later)

end

end DdlSchema.Schema
