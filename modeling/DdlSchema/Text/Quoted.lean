import DdlSchema.Text.Letter

/-! Quoted spans and their masking. A span is opened by a single quote, a double quote or a
backtick and runs to the same character; written twice it does not end the span, and in single
quotes a backslash takes the next character along. An unclosed span reaches the end of the text. -/

set_option autoImplicit false

namespace DdlSchema.Text

def isQuote (c : Char) : Bool := c == '\x27' || c == '\x22' || c == '\x60'

def quotedTail (quote : Char) : List Char → List Char × List Char
  | [] => ([], [])
  | [c] => ([c], [])
  | c :: d :: rest =>
    if (c == '\\' && quote == '\x27') || (c == quote && d == quote) then
      let (inner, after) := quotedTail quote rest
      (c :: d :: inner, after)
    else if c == quote then ([c], d :: rest)
    else
      let (inner, after) := quotedTail quote (d :: rest)
      (c :: inner, after)

theorem quotedTail_append (quote : Char) (text : List Char) :
    (quotedTail quote text).1 ++ (quotedTail quote text).2 = text := by
  fun_induction quotedTail quote text <;> simp_all

theorem quotedTail_length_le (quote : Char) (text : List Char) :
    (quotedTail quote text).2.length ≤ text.length := by
  have same := congrArg List.length (quotedTail_append quote text)
  simp only [List.length_append] at same
  omega

/-- The position after the span whose opening character, of any kind, stands at `start`. -/
def quotedEnd (text : List Char) (start : Nat) : Nat :=
  match text.drop start with
  | [] => start
  | quote :: rest => start + 1 + (quotedTail quote rest).1.length

inductive Segment where
  | plain (c : Char)
  | quoted (span : List Char)

def Segment.text : Segment → List Char
  | .plain c => [c]
  | .quoted span => span

def segments : List Char → List Segment
  | [] => []
  | c :: rest =>
    if isQuote c then
      .quoted (c :: (quotedTail c rest).1) :: segments (quotedTail c rest).2
    else .plain c :: segments rest
  termination_by text => text.length
  decreasing_by
    · have := quotedTail_length_le c rest
      simp only [List.length_cons]
      omega
    · simp

/-- The mark that stands for a masked span. -/
def placeholder (number : Nat) : List Char := '\x00' :: (Nat.repr number).toList ++ ['\x00']

structure Masked where
  text : List Char
  literals : List (List Char)

def maskSegments : Nat → List Segment → Masked
  | _, [] => ⟨[], []⟩
  | number, .plain c :: rest =>
    let masked := maskSegments number rest
    ⟨c :: masked.text, masked.literals⟩
  | number, .quoted span :: rest =>
    let masked := maskSegments (number + 1) rest
    ⟨placeholder number ++ masked.text, span :: masked.literals⟩

def mask (text : List Char) : Masked := maskSegments 0 (segments text)

/-- The digits of a placeholder whose opening mark has just been read, and what follows it. -/
def placeholderTail (text : List Char) : Option (List Char × List Char) :=
  match text.takeWhile isDecimal, text.dropWhile isDecimal with
  | digit :: digits, '\x00' :: after => some (digit :: digits, after)
  | _, _ => none

theorem placeholderTail_length_lt {text digits after : List Char}
    (found : placeholderTail text = some (digits, after)) : after.length < text.length := by
  unfold placeholderTail at found
  split at found
  · rename_i digit rest tail taken dropped
    cases found
    have parts := congrArg List.length (List.takeWhile_append_dropWhile (p := isDecimal) (l := text))
    rw [taken, dropped] at parts
    simp only [List.length_append, List.length_cons] at parts
    omega
  · cases found

/-- Puts the literals back. Nothing is rescanned; `none` if a number has no literal. -/
def unmaskText (literals : List (List Char)) : List Char → Option (List Char)
  | [] => some []
  | c :: rest =>
    if c == '\x00' then
      match _found : placeholderTail rest with
      | some (digits, after) => do
        let literal ← literals[decimalValue digits]?
        return literal ++ (← unmaskText literals after)
      | none => (unmaskText literals rest).map (c :: ·)
    else (unmaskText literals rest).map (c :: ·)
  termination_by text => text.length
  decreasing_by
    · have := placeholderTail_length_lt _found
      simp only [List.length_cons]
      omega
    · simp
    · simp

def unmask (masked : Masked) : Option (List Char) := unmaskText masked.literals masked.text

end DdlSchema.Text
