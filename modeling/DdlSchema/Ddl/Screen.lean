import DdlSchema.Ddl.Problem
import DdlSchema.Ddl.Token

/-! Constructs that a reader would let pass although the dialect does not have them: foreign
quotes and increment words, empty list elements, parentheses that do not match. -/

set_option autoImplicit false

namespace DdlSchema.Ddl

open DdlSchema.Text

/-- The only dialect that has the word, for words that are in one dialect only. -/
def wordOwner? (word : String) : Option Dialect :=
  if word = "AUTO_INCREMENT" then some .mysql
  else if word = "AUTOINCREMENT" then some .sqlite
  else none

def Token.isQuotedText (token : Token) : Bool :=
  token.kind == .string || token.kind == .quotedName

def screenWord (dialect : Dialect) (token : Token) : Option Problem :=
  if token.isQuotedText then none
  else if token.text.toList.contains '\x60' && dialect == .postgresql then
    some (.foreignQuote token.line)
  else match wordOwner? token.upper with
    | some owner => if owner = dialect then none else some (.misplaced token.line token.text)
    | none => none

def isEmptyElement (previous : Option Token) (token : Token) : Bool :=
  match previous with
  | some previous =>
    (previous.isMark "," && (token.isMark "," || token.isMark ")")) ||
      (previous.isMark "(" && token.isMark ",")
  | none => false

def screenFrom (dialect : Dialect) : Int → Option Token → List Token → Except Problem Unit
  | depth, _, [] => if depth = 0 then .ok () else .error .unexpectedEnd
  | depth, previous, token :: rest =>
    match screenWord dialect token with
    | some problem => .error problem
    | none =>
      let inside :=
        if token.isMark "(" then depth + 1 else if token.isMark ")" then depth - 1 else depth
      if isEmptyElement previous token || inside < 0 || (token.isMark ";" && inside ≠ 0) then
        .error (.misplaced token.line token.text)
      else screenFrom dialect inside (some token) rest

def screenTokens (dialect : Dialect) (tokens : List Token) : Except Problem Unit :=
  screenFrom dialect 0 none tokens

end DdlSchema.Ddl
