import DdlSchema.Ddl.Dialect

/-! Why a dialect does not accept a text. -/

set_option autoImplicit false

namespace DdlSchema.Ddl

open DdlSchema.Text

inductive Problem where
  /-- A quote or comment is not closed; `context` is the text around the end. -/
  | unclosed (context : String)
  | foreignQuote (line : Nat)
  | misplaced (line : Nat) (near : String)
  | unexpectedEnd
  | unreadable (line : Nat) (near description : String)
  /-- What is wrong, without the place where it was found. -/
  | unplaced (description : String)
  | unsupported (preview : String)
  | unsupportedOption (option : String)
  /-- An unquoted column name that is really an index definition of another dialect. -/
  | indexWord (name : String)
  | untypedColumn (name : String)
  deriving DecidableEq, Repr

def near (line : Nat) (text : String) : String :=
  "Syntax error at line " ++ toString line ++ " near \"" ++ text ++ "\""

namespace Problem

def message : Problem → String
  | .unclosed context => "Syntax error: Error tokenizing '" ++ context ++ "'"
  | .foreignQuote line => "Unexpected character \"\x60\" at line " ++ toString line
  | .misplaced line text => near line text
  | .unexpectedEnd => "Unexpected end of input"
  | .unreadable line text description => near line text ++ ": " ++ description
  | .unplaced description => "Syntax error: " ++ description
  | .unsupported preview => "Unsupported syntax near \"" ++ preview ++ "\""
  | .unsupportedOption option => "Unsupported table option \"" ++ option ++ "\""
  | .indexWord name => "Syntax error near \"" ++ name ++ "\""
  | .untypedColumn name => "Column \"" ++ name ++ "\" has no data type"

def line? : Problem → Option Nat
  | .foreignQuote line | .misplaced line _ | .unreadable line _ _ => some line
  | _ => none

end Problem

/-- One entry of a reader's error report; every field may be missing. -/
structure ErrorDetail where
  description : Option String
  line : Option Int
  highlight : Option String

/-- The text and the line of the first entry; `fallback` stands in for a missing description. -/
def describeDetails (fallback : String) (details : List ErrorDetail) : String × Option Int :=
  let description := match details.head?.bind ErrorDetail.description with
    | some text => if text.isEmpty then fallback else text
    | none => fallback
  match details.head? with
  | some ⟨_, some line, highlight⟩ =>
    ("Syntax error at line " ++ toString line ++ " near \"" ++ highlight.getD "" ++ "\": " ++
      description, some line)
  | _ => ("Syntax error: " ++ description, none)

def errorTips : List (List String × String) :=
  [(["ENGINE"], "Tip: Remove MySQL-specific ENGINE= clauses for better compatibility"),
    (["UUID", "GEN_RANDOM_UUID"],
      "Tip: Replace UUID types and gen_random_uuid() with standard types"),
    (["ENUM"], "Tip: Replace ENUM types with VARCHAR for better compatibility"),
    (["INDEX", "KEY"], "Tip: Remove INDEX definitions inside CREATE TABLE statements"),
    (["\x60"], "Tip: Remove backtick-quoted identifiers or convert to standard quotes")]

def genericTips : List String :=
  ["Tip: Ensure your SQL file contains valid CREATE TABLE statements",
    "Tip: Try removing MySQL-specific directives and comments"]

def errorReport (message : String) : List String :=
  let words := upper message.toList
  let tips := errorTips.filterMap fun (needles, tip) =>
    if needles.any fun needle => occursIn needle.toList words then some tip else none
  ("SQL Parse Error: " ++ message) :: (if tips.isEmpty then genericTips else tips)

end DdlSchema.Ddl
