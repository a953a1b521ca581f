import DdlSchema.Text.HiddenTable
import DdlSchema.Text.Letter

/-! Texts as they are displayed to a reader: between quotes, with everything escaped that would
not be seen. -/

set_option autoImplicit false

namespace DdlSchema.Text

def hexDigit (n : Nat) : Char :=
  if n < 10 then Char.ofNat (48 + n) else Char.ofNat (87 + n)

/-- The last `count` hexadecimal digits of a number. -/
def hexDigits : Nat → Nat → List Char
  | 0, _ => []
  | count + 1, n => hexDigits count (n / 16) ++ [hexDigit (n % 16)]

def isHidden (c : Char) : Bool :=
  c.toNat < 0x20 || c.toNat == 0x7f || (0x80 ≤ c.toNat && inRanges hiddenRanges c.toNat)

def hiddenCode (c : Char) : List Char :=
  if c.toNat < 0x100 then '\\' :: 'x' :: hexDigits 2 c.toNat
  else if c.toNat < 0x10000 then '\\' :: 'u' :: hexDigits 4 c.toNat
  else '\\' :: 'U' :: hexDigits 8 c.toNat

def displayedChar (quote : Char) (c : Char) : List Char :=
  match c with
  | '\\' => ['\\', '\\']
  | '\n' => ['\\', 'n']
  | '\r' => ['\\', 'r']
  | '\t' => ['\\', 't']
  | c =>
    if c == quote then ['\\', c]
    else if isHidden c then hiddenCode c
    else [c]

def displayedText (text : String) : String :=
  let cs := text.toList
  let quote := if cs.contains '\x27' && !cs.contains '\x22' then '\x22' else '\x27'
  String.ofList (quote :: (cs.flatMap (displayedChar quote) ++ [quote]))

end DdlSchema.Text
