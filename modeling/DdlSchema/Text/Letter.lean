import DdlSchema.Text.WordTable

/-! Classes of characters: blanks, word characters and decimal digits. -/

set_option autoImplicit false

namespace DdlSchema.Text

def inRanges : List (Nat × Nat) → Nat → Bool
  | [], _ => false
  | (low, high) :: rest, n => if n < low then false else n ≤ high || inRanges rest n

def isBlank (c : Char) : Bool :=
  inRanges
    [(0x9, 0xd), (0x1c, 0x20), (0x85, 0x85), (0xa0, 0xa0), (0x1680, 0x1680), (0x2000, 0x200a),
      (0x2028, 0x2029), (0x202f, 0x202f), (0x205f, 0x205f), (0x3000, 0x3000)] c.toNat

def isWordChar (c : Char) : Bool :=
  if c.toNat < 0x80 then c.isAlphanum || c == '_' else inRanges wordRanges c.toNat

def digitFrom : List Nat → Nat → Option Nat
  | [], _ => none
  | base :: rest, n =>
    if n < base then none else if n < base + 10 then some (n - base) else digitFrom rest n

def digitValue? (c : Char) : Option Nat :=
  if c.toNat < 0x80 then (if c.isDigit then some (c.toNat - 0x30) else none)
  else digitFrom digitZeros c.toNat

def isDecimal (c : Char) : Bool := (digitValue? c).isSome

-- Numbers of any length are read. That an interpreter may refuse numerals of thousands of digits is left out.
/-- Most significant digit first; characters that are no digits count as zero. -/
def decimalValue (digits : List Char) : Nat :=
  digits.foldl (fun total c => total * 10 + (digitValue? c).getD 0) 0

def trimLeft (text : List Char) : List Char := text.dropWhile isBlank

def trimRight (text : List Char) : List Char := (text.reverse.dropWhile isBlank).reverse

def trim (text : List Char) : List Char := trimRight (trimLeft text)

def wordsFrom : List Char → List Char → List (List Char)
  | current, [] => if current.isEmpty then [] else [current.reverse]
  | current, c :: rest =>
    if isBlank c then
      if current.isEmpty then wordsFrom [] rest else current.reverse :: wordsFrom [] rest
    else wordsFrom (c :: current) rest

def words (text : List Char) : List (List Char) := wordsFrom [] text

def squeeze (text : List Char) : List Char := [' '].intercalate (words text)

/-- Whether `part` stands somewhere in `text`. -/
def occursIn (part : List Char) : List Char → Bool
  | [] => part.isEmpty
  | c :: rest => part.isPrefixOf (c :: rest) || occursIn part rest

/-- The pieces between the characters that equal `separator`; always at least one. -/
def splitAtChar (separator : Char) : List Char → List (List Char)
  | [] => [[]]
  | c :: rest =>
    if c == separator then [] :: splitAtChar separator rest
    else match splitAtChar separator rest with
      | first :: others => (c :: first) :: others
      | [] => [[c]]

end DdlSchema.Text
