import DdlSchema.Text.Quoted

/-! Placeholders. Unmasking fails on a number that stands for no literal and on nothing else. A masked
text whose plain characters hold no mark consists of plain characters and placeholders with numbers in
range (`Marked`), and every cut at a character that occurs in no placeholder leaves two such texts. -/

set_option autoImplicit false

namespace DdlSchema.Text

/-! Reading the marks. -/

/-- The numbers of the placeholders in the text, as unmasking meets them. -/
def placeholders : List Char → List Nat
  | [] => []
  | c :: rest =>
    if c == '\x00' then
      match _found : placeholderTail rest with
      | some (digits, after) => decimalValue digits :: placeholders after
      | none => placeholders rest
    else placeholders rest
  termination_by text => text.length
  decreasing_by
    · have := placeholderTail_length_lt _found
      simp only [List.length_cons]
      omega
    · simp
    · simp

theorem placeholders_cons {c : Char} (other : c ≠ '\x00') (rest : List Char) :
    placeholders (c :: rest) = placeholders rest := by
  rw [placeholders, if_neg (by simpa using other)]

theorem unmaskText_eq_none (literals : List (List Char)) (text : List Char) :
    unmaskText literals text = none ↔ ∃ number ∈ placeholders text, literals.length ≤ number := by
  fun_induction unmaskText literals text with
  | case1 => simp [placeholders]
  | case2 c rest mark digits after found ih =>
    rw [placeholders, if_pos mark]
    split
    · next digits' after' found' =>
      rw [found] at found'
      cases found'
      cases literal : literals[decimalValue digits]? with
      | none => simpa using Or.inl (List.getElem?_eq_none_iff.mp literal)
      | some span =>
        have bound : decimalValue digits < literals.length :=
          (List.getElem?_eq_some_iff.mp literal).1
        cases unmasked : unmaskText literals after <;> simp_all
    · next none => simp [found] at none
  | case3 c rest mark found ih =>
    rw [placeholders, if_pos mark]
    split
    · next digits after some => simp [found] at some
    · simpa using ih
  | case4 c rest other ih =>
    rw [placeholders, if_neg other]
    simpa using ih

theorem unmask_eq_none (masked : Masked) :
    unmask masked = none ↔ ∃ number ∈ placeholders masked.text, masked.literals.length ≤ number :=
  unmaskText_eq_none masked.literals masked.text

/-! Texts of plain characters and placeholders. -/

def markOf (digits : List Char) : List Char := '\x00' :: digits ++ ['\x00']

/-- A character that occurs in no placeholder. -/
def isPlain (c : Char) : Bool := c != '\x00' && !isDecimal c

theorem not_decimal_mark : isDecimal '\x00' = false := by decide

theorem ne_mark_of_isPlain {c : Char} (plain : isPlain c = true) : c ≠ '\x00' := by
  rintro rfl
  cases plain

theorem placeholderTail_digits {digits : List Char} (nonempty : digits ≠ [])
    (decimal : ∀ c ∈ digits, isDecimal c = true) (rest : List Char) :
    placeholderTail (digits ++ '\x00' :: rest) = some (digits, rest) := by
  obtain ⟨digit, others, rfl⟩ := List.exists_cons_of_ne_nil nonempty
  have taken : (digit :: others ++ '\x00' :: rest).takeWhile isDecimal = digit :: others := by
    rw [List.takeWhile_append_of_pos decimal, List.takeWhile_cons_of_neg (by simp [not_decimal_mark]),
      List.append_nil]
  have left : (digit :: others ++ '\x00' :: rest).dropWhile isDecimal = '\x00' :: rest := by
    rw [List.dropWhile_append_of_pos decimal, List.dropWhile_cons_of_neg (by simp [not_decimal_mark])]
  simp only [placeholderTail, taken, left]

theorem placeholders_markOf {digits : List Char} (nonempty : digits ≠ [])
    (decimal : ∀ c ∈ digits, isDecimal c = true) (rest : List Char) :
    placeholders (markOf digits ++ rest) = decimalValue digits :: placeholders rest := by
  rw [markOf, List.append_assoc, List.cons_append, List.singleton_append, placeholders,
    if_pos (by decide)]
  split
  · next digits' after found =>
    rw [placeholderTail_digits nonempty decimal] at found
    cases found
    rfl
  · next none => simp [placeholderTail_digits nonempty decimal] at none

inductive Marked (bound : Nat) : List Char → Prop where
  | nil : Marked bound []
  | plain {c : Char} {rest : List Char} : c ≠ '\x00' → Marked bound rest → Marked bound (c :: rest)
  | mark {digits rest : List Char} : digits ≠ [] → (∀ c ∈ digits, isDecimal c = true) →
      decimalValue digits < bound → Marked bound rest → Marked bound (markOf digits ++ rest)

namespace Marked

variable {bound : Nat}

theorem lt_bound {text : List Char} (marked : Marked bound text) :
    ∀ number ∈ placeholders text, number < bound := by
  induction marked with
  | nil => simp [placeholders]
  | plain other _ ih =>
    rw [placeholders_cons other]
    exact ih
  | @mark digits rest nonempty decimal less _ ih =>
    rw [placeholders_markOf nonempty decimal]
    intro number member
    rcases List.mem_cons.mp member with rfl | later
    · exact less
    · exact ih number later

theorem append {first second : List Char} (before : Marked bound first)
    (after : Marked bound second) : Marked bound (first ++ second) := by
  induction before with
  | nil => exact after
  | plain other _ ih => exact .plain other ih
  | mark nonempty decimal less _ ih =>
    rw [List.append_assoc]
    exact .mark nonempty decimal less ih

theorem of_plain {text : List Char} (none : ∀ c ∈ text, c ≠ '\x00') : Marked bound text := by
  induction text with
  | nil => exact .nil
  | cons c rest ih =>
    exact .plain (none c List.mem_cons_self) (ih fun d member => none d (List.mem_cons_of_mem _ member))

theorem tail {c : Char} {rest : List Char} (marked : Marked bound (c :: rest)) (other : c ≠ '\x00') :
    Marked bound rest := by
  generalize same : c :: rest = text at marked
  cases marked with
  | nil => cases same
  | plain _ later =>
    cases same
    exact later
  | mark nonempty decimal less later =>
    exact absurd (List.cons.inj same).1 other

theorem of_mark {rest : List Char} (marked : Marked bound ('\x00' :: rest)) :
    ∃ digits after, placeholderTail rest = some (digits, after) ∧ Marked bound (markOf digits) ∧
      Marked bound after := by
  generalize same : '\x00' :: rest = text at marked
  cases marked with
  | nil => cases same
  | plain other _ =>
    cases same
    exact absurd rfl other
  | @mark digits after nonempty decimal less later =>
    have split : rest = digits ++ '\x00' :: after := by
      simpa [markOf] using (List.cons.inj same).2
    refine ⟨digits, after, ?_, by simpa using Marked.mark nonempty decimal less .nil, later⟩
    rw [split, placeholderTail_digits nonempty decimal]

/-- A cut at a character that occurs in no placeholder. -/
theorem cut {before after : List Char} {c : Char} (marked : Marked bound (before ++ c :: after))
    (plain : isPlain c = true) : Marked bound before ∧ Marked bound after := by
  generalize same : before ++ c :: after = text at marked
  induction marked generalizing before with
  | nil => simp at same
  | @plain d rest other marked ih =>
    cases before with
    | nil =>
      cases same
      exact ⟨.nil, marked⟩
    | cons e before =>
      cases same
      obtain ⟨first, last⟩ := ih rfl
      exact ⟨.plain other first, last⟩
  | @mark digits rest nonempty decimal less marked ih =>
    have outside : c ∉ markOf digits := by
      simp only [isPlain, Bool.and_eq_true, bne_iff_ne, Bool.not_eq_true'] at plain
      simp only [markOf, List.mem_append, List.mem_cons, List.not_mem_nil, or_false, not_or]
      refine ⟨⟨plain.1, fun member => ?_⟩, plain.1⟩
      rw [decimal c member] at plain
      cases plain.2
    -- the placeholder stands on one side of the cut
    rcases List.append_eq_append_iff.mp same with ⟨between, front, back⟩ | ⟨between, front, back⟩
    · cases between with
      | nil =>
        rw [List.append_nil] at front
        have single : Marked bound (markOf digits) := by
          simpa using Marked.mark nonempty decimal less .nil
        exact ⟨front ▸ single, (ih (show [] ++ c :: after = rest from back)).2⟩
      | cons d between =>
        cases back
        rw [front] at outside
        exact absurd (by simp) outside
    · obtain ⟨first, last⟩ := ih back.symm
      exact ⟨front ▸ .mark nonempty decimal less first, last⟩

end Marked

/-! The text that masking writes. -/

theorem digitValue?_of_isDigit {c : Char} (digit : c.isDigit = true) :
    digitValue? c = some (c.toNat - 0x30) := by
  have small : c.toNat < 0x80 := by
    simp only [Char.isDigit, Bool.and_eq_true, decide_eq_true_eq] at digit
    exact Nat.lt_of_le_of_lt (UInt32.le_iff_toNat_le.mp digit.2) (by decide)
  simp [digitValue?, small, digit]

theorem isDigit_repr {number : Nat} {c : Char} (member : c ∈ (Nat.repr number).toList) :
    c.isDigit = true := by
  rw [Nat.toList_repr] at member
  exact Nat.isDigit_of_mem_toDigits (by decide) (by decide) member

theorem decimalValue_repr (number : Nat) : decimalValue (Nat.repr number).toList = number := by
  -- both ways of reading digits go through them from the left
  have folded : ∀ (text : List Char) (total : Nat), (∀ c ∈ text, c.isDigit = true) →
      text.foldl (fun total c => total * 10 + (digitValue? c).getD 0) total =
        Nat.ofDigitChars 10 text total := by
    intro text
    induction text with
    | nil => exact fun _ _ => rfl
    | cons c rest ih =>
      intro total digits
      have first := digitValue?_of_isDigit (digits c List.mem_cons_self)
      rw [List.foldl_cons, Nat.ofDigitChars_cons, first, Option.getD_some, Nat.mul_comm]
      exact ih _ fun d member => digits d (List.mem_cons_of_mem _ member)
  rw [decimalValue, folded _ 0 fun c => isDigit_repr, Nat.toList_repr]
  exact Nat.ofDigitChars_toDigits (by decide) (by decide)

theorem marked_maskSegments {segments : List Segment} (bare : Segment.plain '\x00' ∉ segments)
    (number : Nat) :
    Marked (number + (maskSegments number segments).literals.length)
      (maskSegments number segments).text := by
  induction segments generalizing number with
  | nil => exact .nil
  | cons segment rest ih =>
    have later : Segment.plain '\x00' ∉ rest := fun member => bare (List.mem_cons_of_mem _ member)
    cases segment with
    | plain c =>
      refine .plain (fun same => bare ?_) (ih later number)
      rw [same]
      exact List.mem_cons_self
    | quoted span =>
      have others := ih later (number + 1)
      -- the span takes one number more
      have room : number + (maskSegments number (.quoted span :: rest)).literals.length =
          number + 1 + (maskSegments (number + 1) rest).literals.length := by
        simp only [maskSegments, List.length_cons]
        omega
      rw [room]
      have decimal : ∀ c ∈ (Nat.repr number).toList, isDecimal c = true := fun c member => by
        simp [isDecimal, digitValue?_of_isDigit (isDigit_repr member)]
      refine .mark ?_ decimal (by rw [decimalValue_repr]; omega) others
      rw [Nat.toList_repr]
      exact Nat.toDigits_ne_nil

/-- A mark in quotes is masked along with what stands around it. -/
theorem marked_mask {text : List Char} (bare : Segment.plain '\x00' ∉ segments text) :
    Marked (mask text).literals.length (mask text).text := by
  simpa [mask] using marked_maskSegments bare 0

theorem unmask_ne_none {masked : Masked} (marked : Marked masked.literals.length masked.text) :
    unmask masked ≠ none := by
  rw [Ne, unmask_eq_none]
  rintro ⟨number, member, beyond⟩
  exact Nat.not_lt.mpr beyond (marked.lt_bound number member)

end DdlSchema.Text
