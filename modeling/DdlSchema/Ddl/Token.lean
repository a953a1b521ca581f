import DdlSchema.Text.Case

/-! Tokens of a dialect. -/

set_option autoImplicit false

namespace DdlSchema.Ddl

open DdlSchema.Text

inductive TokenKind where
  /-- A keyword or an unquoted name; keywords of several words are one token. -/
  | word
  | number
  | quotedName
  | string
  | nationalString
  | hexString
  | hexNumber
  | bitString
  | byteString
  /-- A string whose characters may be written by their codes. -/
  | unicodeString
  | dollarString
  /-- A comment that tells how a statement is to be run. -/
  | hint
  | mark
  deriving DecidableEq, Repr

/-- The characters that a backslash and a letter write in a byte string. -/
def controlLetters : List (Char × Char) :=
  [('b', '\x08'), ('f', '\x0c'), ('n', '\n'), ('r', '\r'), ('t', '\t'), ('v', '\x0b')]

structure Token where
  kind : TokenKind
  /-- The content, without quotes and escapes. -/
  text : String
  source : String
  line : Nat
  /-- The positions of the first character and after the last one. -/
  start : Nat
  stop : Nat
  comments : List String := []
  deriving DecidableEq, Repr

namespace Token

def upper (token : Token) : String := upperString token.text

def isMark (token : Token) (text : String) : Bool := token.kind == .mark && token.text == text

def isWord (token : Token) (text : String) : Bool := token.kind == .word && token.upper == text

/-- Whether the token is one of these words. -/
def isAnyWord (token : Token) (words : List String) : Bool :=
  token.kind == .word && words.contains token.upper

end Token

end DdlSchema.Ddl
