import DdlSchema.Text.Pattern
import DdlSchema.Text.Quoted

/-! Column clauses that carry no structure. They are recognised on masked text, so quoted text is
never read, and only after a word, a parenthesis or a placeholder, so that a column may still be
named like a clause. -/

set_option autoImplicit false

namespace DdlSchema.Statement

open DdlSchema.Text DdlSchema.Text.Pattern

def maskedLiteral : Pattern :=
  ofList [.char (· == '\x00'), .run isDecimal 1, .char (· == '\x00')]

def afterClause : Pattern :=
  .seq (.after fun c => isWordChar c || c == ')' || c == '\x00') gap

def isNoParen (c : Char) : Bool := c != '(' && c != ')'

def parenthesized (inner : Pattern) : Pattern :=
  ofList [.char (· == '('), inner, .char (· == ')')]

def shallowExpression : Pattern :=
  let level := fun inner => Pattern.many (.either (.char isNoParen) (parenthesized inner))
  parenthesized (level (level (.run isNoParen 0)))

/-- In the order in which they are removed. -/
def noiseClauses : List Pattern :=
  [ofList [phrase "CHARACTER SET", gap, wordChars],
    ofList [letters "CHARSET", gap, wordChars],
    ofList [letters "COLLATE", gap, .either wordChars maskedLiteral],
    ofList [letters "COMMENT", gap, maskedLiteral],
    .seq (.either (letters "UNSIGNED") (letters "ZEROFILL")) .edge,
    ofList [letters "USING", gap, .either (letters "BTREE") (letters "HASH"), .edge],
    ofList [phrase "GENERATED ALWAYS AS", blanks, shallowExpression, blanks,
      optional (.either (letters "STORED") (letters "VIRTUAL"))]].map (.seq afterClause)

def timestampCall : Pattern :=
  ofList [.edge, letters "current_timestamp", blanks,
    parenthesized (ofList [blanks, .run isDecimal 0, blanks])]

def stripMasked (masked : Masked) : Masked :=
  let stripped := noiseClauses.foldl (fun text clause => clause.replaceAll [] text) masked.text
  { masked with text := timestampCall.replaceAll "CURRENT_TIMESTAMP".toList stripped }

/-- The body without its noise; `none` if it holds a placeholder mark that stands for nothing. -/
def stripNoise (body : List Char) : Option (List Char) := unmask (stripMasked (mask body))

end DdlSchema.Statement
