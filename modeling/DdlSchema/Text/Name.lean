import DdlSchema.Text.Paren
import DdlSchema.Text.Pattern

/-! Names as they are written: quoted, qualified, or with the suffixes of an index column. -/

set_option autoImplicit false

namespace DdlSchema.Text

def isBareNameChar (c : Char) : Bool :=
  !(c == '.' || isBlank c || c == '\x60' || c == '\x22' || c == '[' || c == ']')

def nameCloser (c : Char) : Option Char :=
  if c == '\x60' || c == '\x22' then some c else if c == '[' then some ']' else none

/-- The parts of a dotted name from left to right, without their quotes. -/
def nameParts : List Char → List (List Char)
  | [] => []
  | c :: rest =>
    match nameCloser c with
    | some closer =>
      if rest.contains closer then
        rest.takeWhile (· != closer) :: nameParts (rest.dropWhile (· != closer)).tail
      else nameParts rest
    | none =>
      if isBareNameChar c then
        (c :: rest.takeWhile isBareNameChar) :: nameParts (rest.dropWhile isBareNameChar)
      else nameParts rest
  termination_by text => text.length
  decreasing_by
    · have := (List.dropWhile_sublist (l := rest) (· != closer)).length_le
      simp only [List.length_cons, List.length_tail]
      omega
    · simp
    · have := (List.dropWhile_sublist (l := rest) isBareNameChar).length_le
      simp only [List.length_cons]
      omega
    · simp

def isZeroWidth (c : Char) : Bool := c.toNat == 0x200b

def isNameWrapping (c : Char) : Bool :=
  c == '\x60' || c == '\x22' || c == '[' || c == ']' || c == ' '

def cleanName (name : List Char) : List Char :=
  let name := trim (name.filter fun c => !isZeroWidth c)
  match (nameParts name).getLast? with
  | some part => trim part
  | none => ((name.dropWhile isNameWrapping).reverse.dropWhile isNameWrapping).reverse

def indexColumnSuffix : Pattern :=
  .either
    (.ofList [.blanks, .char (· == '('), .blanks, .run isDecimal 1, .blanks, .char (· == ')')])
    (.ofList [.gap, .either (.letters "ASC") (.letters "DESC"), .edge])

/-- The names of a column list; lengths and sort directions are left out. -/
def splitColumns (text : List Char) : List (List Char) :=
  ((splitCommas text).map fun part => cleanName (trim (indexColumnSuffix.replaceAll [] part))).filter
    fun name => !name.isEmpty

end DdlSchema.Text
