import DdlSchema.Proofs.Text.Places
import DdlSchema.Proofs.Text.Segmentation

/-! Masking and back. The literals are the spans of the text in their order, the numbers of the placeholders count
them, and unmasking finds just these placeholders, as long as marks stand in quoted spans only. -/

set_option autoImplicit false

namespace DdlSchema.Text

theorem literals_maskSegments (number : Nat) (list : List Segment) :
    (maskSegments number list).literals = quotedSpans list := by
  induction list generalizing number with
  | nil => rfl
  | cons segment rest ih =>
    cases segment with
    | plain c => exact ih number
    | quoted span => exact congrArg (span :: ·) (ih (number + 1))

theorem not_isQuote_of_mem_placeholder {number : Nat} {c : Char} (member : c ∈ placeholder number) :
    isQuote c = false := by
  have inside := not_isPlain_of_mem_placeholder member
  cases quote : isQuote c with
  | false => rfl
  | true =>
    simp only [isQuote, Bool.or_eq_true, beq_iff_eq] at quote
    rcases quote with (rfl | rfl) | rfl <;> cases inside

theorem not_isQuote_maskSegments {list : List Segment} (plain : ∀ c, .plain c ∈ list → isQuote c = false)
    (number : Nat) : ∀ c ∈ (maskSegments number list).text, isQuote c = false := by
  induction list generalizing number with
  | nil => exact List.forall_mem_nil _
  | cons segment rest ih =>
    have later := ih fun c member => plain c (List.mem_cons_of_mem _ member)
    cases segment with
    | plain c => exact List.forall_mem_cons.mpr ⟨plain c List.mem_cons_self, later number⟩
    | quoted span =>
      exact List.forall_mem_append.mpr ⟨fun c => not_isQuote_of_mem_placeholder, later (number + 1)⟩

theorem placeholders_maskSegments {list : List Segment} (bare : .plain '\x00' ∉ list) (number : Nat) :
    placeholders (maskSegments number list).text = List.range' number (quotedSpans list).length := by
  induction list generalizing number with
  | nil => simp [maskSegments, placeholders, quotedSpans]
  | cons segment rest ih =>
    have later := ih fun member => bare (List.mem_cons_of_mem _ member)
    cases segment with
    | plain c =>
      have other : c ≠ '\x00' := fun same => bare (same ▸ List.mem_cons_self)
      exact (placeholders_cons other _).trans (later number)
    | quoted span =>
      -- the mark that closes a placeholder keeps digits behind it out of its number
      have read := placeholders_markOf (repr_ne_nil number) (fun c => isDecimal_repr)
        (maskSegments (number + 1) rest).text
      rw [decimalValue_repr, later (number + 1)] at read
      exact read

/-- A text whose marks, if any, stand in quoted spans is masked and unmasked without change. What is masked has no
quotes left and the placeholders count up from zero; the literals are the spans that a scan meets, each of which
takes at least a character and ends within the text. -/
theorem mask_reversible {text : List Char} (bare : ∀ place ∈ outside text 0, text[place]? ≠ some '\x00') :
    unmask (mask text) = some text ∧ (∀ c ∈ (mask text).text, isQuote c = false) ∧
      placeholders (mask text).text = List.range (mask text).literals.length ∧
      (mask text).literals = (spanStarts text).map (spanAt text) ∧
      ∀ place < text.length, place < quotedEnd text place ∧ quotedEnd text place ≤ text.length := by
  have unmarked : Segment.plain '\x00' ∉ segments text := by
    intro member
    rw [← @List.drop_zero _ text, plain_mem_drop_iff] at member
    obtain ⟨place, outside, marked⟩ := member
    exact bare place outside marked
  have literals : (mask text).literals = quotedSpans (segments text) := literals_maskSegments 0 _
  refine ⟨?_, not_isQuote_maskSegments (fun c => not_isQuote_of_plain) 0, ?_, ?_, fun place => quotedEnd_bounds⟩
  · rw [unmask, (renders_mask unmarked).unmask, spelled_segments]
  · rw [literals, List.range_eq_range']
    exact placeholders_maskSegments unmarked 0
  · rw [literals, ← @List.drop_zero _ (segments text)]
    exact quotedSpans_drop text 0

/-- A span may hold what looks like a placeholder, and a digit may follow one. -/
theorem mask_reversible_lookalike :
    let text := "a'\x007\x00'1\"b\"`\x00".toList
    (∀ place ∈ outside text 0, text[place]? ≠ some '\x00') ∧ unmask (mask text) = some text ∧
      placeholders (mask text).text = List.range (mask text).literals.length := by
  intro text
  have bare : ∀ place ∈ outside text 0, text[place]? ≠ some '\x00' := by decide +kernel
  obtain ⟨whole, -, numbers, -⟩ := mask_reversible bare
  exact ⟨bare, whole, numbers⟩

end DdlSchema.Text
