import DdlSchema.Statement.Noise
import DdlSchema.Statement.Split
import DdlSchema.Text.Comment
import DdlSchema.Text.Paren

/-! What becomes of each statement of a script before a reader sees it. -/

set_option autoImplicit false

namespace DdlSchema.Statement

open DdlSchema.Text DdlSchema.Text.Pattern

def skippedPhrases : List String :=
  ["SET", "START TRANSACTION", "BEGIN", "COMMIT", "ROLLBACK", "LOCK TABLES", "UNLOCK TABLES",
    "INSERT INTO", "REPLACE INTO"]

def skippedHeader : Pattern := .seq (oneOf (skippedPhrases.map phrase)) .edge

def alterHeader : Pattern := .seq (phrase "ALTER TABLE") .edge

def createHeader : Pattern :=
  ofList [letters "CREATE", gap,
    optional (.seq (phrase "OR REPLACE") gap),
    optional (.seq (.either (letters "GLOBAL") (letters "LOCAL")) gap),
    optional (.capture "temporary" (.seq (.either (letters "TEMPORARY") (letters "TEMP")) gap)),
    optional (.seq (letters "UNLOGGED") gap),
    letters "TABLE", .edge]

def createFromQuery : Pattern :=
  ofList [letters "CREATE", gap, optional (.seq (letters "TEMPORARY") gap), letters "TABLE", gap,
    .run (· != '(') 0, .edge, letters "AS", .edge]

def equalsSign : Pattern := ofList [blanks, optional (.char (· == '=')), blanks]

/-- Table options that are kept, in the order in which they are written back. -/
def tableOptions : List Pattern :=
  [ofList [.edge, letters "ENGINE", equalsSign, wordChars],
    ofList [.edge, optional (.seq (letters "DEFAULT") gap), letters "COLLATE", equalsSign, wordChars],
    ofList [.edge, letters "COMMENT", equalsSign, maskedLiteral]]

def canonicalHeader (statement : List Char) (header : Match) : List Char :=
  let header' := if (header.get? "temporary").isSome then "CREATE TEMPORARY TABLE" else "CREATE TABLE"
  header'.toList ++ statement.drop header.length

def keptOption? (tail : Masked) (option : Pattern) : Option (Option (List Char)) :=
  match option.search tail.text with
  | none => some none
  | some (found, text) =>
    (unmask { tail with text := text.take found.length }).map fun text => some (squeeze text)

def keptOptions (tail : List Char) : Option (List (List Char)) :=
  (tableOptions.mapM (keptOption? (mask tail))).map fun options => options.filterMap id

inductive Sanitized where
  | withoutColumns (statement : List Char)
  | statement (text : List Char)

/-- Reduces a statement with a canonical header to its columns and the kept table options. -/
def sanitizeCanonical (statement : List Char) : Option Sanitized := do
  let openPosition := (statement.takeWhile (· != '(')).length
  if openPosition = statement.length || (createFromQuery.matchStart statement).isSome then
    return .withoutColumns statement
  match closingParen? statement openPosition with
  -- unbalanced: left for the readers to report
  | none => return .statement ((← stripNoise statement) ++ [';'])
  | some close =>
    let options ← keptOptions (statement.drop (close + 1))
    let body ← stripNoise (statement.take (close + 1))
    return .statement ([' '].intercalate (body :: options) ++ [';'])

inductive Disposition where
  | skipped (statement : List Char)
  | altering
  | ignored (statement : List Char)
  | withoutColumns (statement : List Char)
  | creating (statement : List Char)

/-- `none` if the statement holds a placeholder mark that stands for nothing. -/
def dispose (statement : List Char) : Option Disposition :=
  if (skippedHeader.matchStart statement).isSome then some (.skipped statement)
  else if (alterHeader.matchStart statement).isSome then some .altering
  else match createHeader.matchStart statement with
    | none => some (.ignored statement)
    | some header => (sanitizeCanonical (canonicalHeader statement header)).map fun
      | .withoutColumns text => .withoutColumns text
      | .statement text => .creating text

def sanitize (statement : List Char) : Option (Option (List Char)) :=
  match createHeader.matchStart statement with
  | none => some none
  | some header => (sanitizeCanonical (canonicalHeader statement header)).map fun
    | .withoutColumns _ => none
    | .statement text => some text

def bare (statement : List Char) : List Char :=
  trim ((trim statement).reverse.dropWhile (· == ';')).reverse

abbrev Splitter : Type := List Char → List (List Char)

/-- The statements of a script without comments and semicolons. -/
def statementsBy (cut : Splitter) (script : List Char) : List (List Char) :=
  (cut (stripComments script)).map bare

def bareStatements (script : List Char) : List (List Char) := statementsBy split script

structure Prepared where
  dispositions : List Disposition

def Prepared.creating (prepared : Prepared) : List (List Char) :=
  prepared.dispositions.filterMap fun
    | .creating statement => some statement
    | _ => none

def Prepared.alterCount (prepared : Prepared) : Nat :=
  prepared.dispositions.countP fun
    | .altering => true
    | _ => false

def Prepared.batch (prepared : Prepared) : List Char := ['\n'].intercalate prepared.creating

/-- Deals with the pieces of a script, however it was cut. -/
def prepareAll (statements : List (List Char)) : Option Prepared :=
  ((statements.filter fun statement => !statement.isEmpty).mapM dispose).map Prepared.mk

def prepare (script : List Char) : Option Prepared := prepareAll (bareStatements script)

/-- A prepared script beside its own text, in which ALTER TABLE statements are looked up. -/
structure Preprocessed where
  original : List Char
  prepared : Prepared

def preprocess (script : List Char) : Option Preprocessed :=
  (prepare script).map fun prepared => ⟨script, prepared⟩

end DdlSchema.Statement
