import DdlSchema.Text.Quoted

/-! Parentheses and commas outside quotes. -/

set_option autoImplicit false

namespace DdlSchema.Text

def closingFrom (depth : Int) (position : Nat) : List Segment → Option Nat
  | [] => none
  | .quoted span :: rest => closingFrom depth (position + span.length) rest
  | .plain c :: rest =>
    if c == '(' then closingFrom (depth + 1) (position + 1) rest
    else if c == ')' then
      if depth == 1 then some position else closingFrom (depth - 1) (position + 1) rest
    else closingFrom depth (position + 1) rest

/-- The position of the parenthesis that closes the one at `start`, quoted spans aside. -/
def closingParen? (text : List Char) (start : Nat) : Option Nat :=
  closingFrom 0 start (segments (text.drop start))

def commaPieces : Option Char → Int → List Char → List (List Char)
  | _, _, [] => [[]]
  | quote, depth, c :: rest =>
    let extend := fun (pieces : List (List Char)) => match pieces with
      | first :: others => (c :: first) :: others
      | [] => [[c]]
    match quote with
    | some q => extend (commaPieces (if c == q then none else quote) depth rest)
    | none =>
      if isQuote c then extend (commaPieces (some c) depth rest)
      else if c == '(' then extend (commaPieces none (depth + 1) rest)
      else if c == ')' then extend (commaPieces none (depth - 1) rest)
      else if c == ',' && depth == 0 then [] :: commaPieces none depth rest
      else extend (commaPieces none depth rest)

def splitCommas (text : List Char) : List (List Char) :=
  ((commaPieces none 0 text).map trim).filter fun piece => !piece.isEmpty

end DdlSchema.Text
