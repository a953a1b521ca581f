import DdlSchema.Text.Case
import DdlSchema.Proofs.Text.MarkKeeping

/-! ASCII letters in either case. What is asked of characters one by one, or of a text when its case is changed,
has the same answer whatever the case of its ASCII letters. -/

set_option autoImplicit false

namespace DdlSchema.Text

/-- A class or a map of characters that knows no case among the ASCII letters knows none at all. -/
theorem apply_toLower {α : Type} (f : Char → α)
    (ascii : ∀ code < 0x80, f (Char.ofNat code).toLower = f (Char.ofNat code)) (c : Char) :
    f c.toLower = f c := by
  rcases Nat.lt_or_ge c.toNat 0x80 with small | beyond
  · simpa using ascii c.toNat small
  · rw [toLower_of_not_ascii beyond]

theorem apply_eq {α : Type} {f : Char → α} (free : ∀ c, f c.toLower = f c) {c d : Char}
    (same : c.toLower = d.toLower) : f c = f d := by
  rw [← free c, same, free d]

theorem isBlank_toLower : ∀ c : Char, isBlank c.toLower = isBlank c := apply_toLower _ (by decide)

theorem isWordChar_toLower : ∀ c : Char, isWordChar c.toLower = isWordChar c := apply_toLower _ (by decide)

theorem upperChar_toLower : ∀ c : Char, upperChar c.toLower = upperChar c := apply_toLower _ (by decide)

theorem lowerChar_toLower : ∀ c : Char, lowerChar c.toLower = lowerChar c := apply_toLower _ (by decide)

theorem isCased_toLower : ∀ c : Char, isCased c.toLower = isCased c := apply_toLower _ (by decide)

theorem isCaseIgnorable_toLower : ∀ c : Char, isCaseIgnorable c.toLower = isCaseIgnorable c :=
  apply_toLower _ (by decide)

theorem sameLetter_toLower (letter c : Char) : sameLetter letter c.toLower = sameLetter letter c := by
  have lower := apply_toLower Char.toLower (by decide) c
  have code : ∀ n ∈ [0x17f, 0x130, 0x131, 0x212a], (c.toLower.toNat == n) = (c.toNat == n) := by
    intro n member
    refine apply_toLower (fun c => c.toNat == n) ?_ c
    revert n
    decide
  simp only [List.forall_mem_cons] at code
  obtain ⟨long, dotted, dotless, kelvin, -⟩ := code
  rw [sameLetter, sameLetter, lower, long, dotted, dotless, kelvin]

/-- The characters, if any, differ in case at most. -/
def SameCase (first second : Option Char) : Prop := first.map Char.toLower = second.map Char.toLower

namespace SameCase

variable {first second : Option Char} {f : Char → Bool}

theorem any_eq (same : SameCase first second) (free : ∀ c, f c.toLower = f c) :
    first.any f = second.any f := by
  have lower : ∀ side : Option Char, (side.map Char.toLower).any f = side.any f := by
    intro side
    simp only [Option.any_map, free]
  rw [← lower first, same, lower second]

theorem all_eq (same : SameCase first second) (free : ∀ c, f c.toLower = f c) :
    first.all f = second.all f := by
  have lower : ∀ side : Option Char, (side.map Char.toLower).all f = side.all f := by
    intro side
    simp only [Option.all_map, free]
  rw [← lower first, same, lower second]

end SameCase

theorem sameCase_some {c d : Char} (lower : c.toLower = d.toLower) : SameCase (some c) (some d) := by
  rw [SameCase, Option.map_some, Option.map_some, lower]

/-! Texts. -/

theorem upper_toLower (text : List Char) : upper (text.map Char.toLower) = upper text := by
  rw [upper, upper, List.flatMap_map]
  exact List.flatMap_congr fun c _ => upperChar_toLower c

theorem startsCased_toLower (text : List Char) : startsCased (text.map Char.toLower) = startsCased text := by
  have passed : isCaseIgnorable ∘ Char.toLower = isCaseIgnorable := funext isCaseIgnorable_toLower
  rw [startsCased, startsCased, List.dropWhile_map, passed]
  cases text.dropWhile isCaseIgnorable with
  | nil => rfl
  | cons c rest => exact isCased_toLower c

theorem lower_toLower (text : List Char) : lower (text.map Char.toLower) = lower text := by
  have from_ : ∀ seen : List Char,
      lowerFrom (seen.map Char.toLower) (text.map Char.toLower) = lowerFrom seen text := by
    induction text with
    | nil => exact fun _ => rfl
    | cons c rest ih =>
      intro seen
      have sigma := apply_toLower (fun c => c.toNat == 0x3a3) (by decide) c
      have later := ih (c :: seen)
      rw [List.map_cons] at later
      rw [List.map_cons, lowerFrom, lowerFrom, sigma, lowerChar_toLower, startsCased_toLower,
        startsCased_toLower, later]
  exact from_ []

end DdlSchema.Text
