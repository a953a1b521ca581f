import DdlSchema.Ddl.Reader.Alteration
import DdlSchema.Ddl.Reader.Description
import DdlSchema.Ddl.Reader.Privilege
import DdlSchema.Ddl.Reader.Session
import DdlSchema.Ddl.Reader.Transfer
import DdlSchema.Ddl.Screen

/-! Reading the statements of a text. A statement may hold another one; a bound on the levels, taken
from the number of tokens, makes the reader total. -/

set_option autoImplicit false

namespace DdlSchema.Ddl

open DdlSchema.Text

namespace Reader

/-- A statement as it was read: what it is, its text, and its value where it is one. -/
structure Reading where
  statement : Statement
  text : String
  value : Option Expr := none
  /-- Named queries may stand in front of it. -/
  mayFollow : Bool := false

def Reading.other (text : String) : Reading := ⟨.other text, text, none, false⟩

def Reading.led (lead : String) (reading : Reading) : Reading :=
  match reading.statement with
  | .other text => { reading with statement := .other (lead ++ text), text := lead ++ reading.text }
  | _ => { reading with text := lead ++ reading.text }

def sourceOf (text : List Char) (tokens : List Token) : String :=
  match tokens.head?, tokens.getLast? with
  | some first, some last => String.ofList ((text.take last.stop).drop first.start)
  | _, _ => ""

def verbatim (text : List Char) (tokens : List Token) : String :=
  match tokens with
  | [] => ""
  | first :: rest => first.source ++ " " ++ sourceOf text rest

def command (word : Token) : Reader Reading := do
  advance
  return .other (word.upper ++ " " ++ (← stringText).getD "")

def commonStatementWords : List String :=
  ["ALTER", "ANALYZE", "BEGIN", "CACHE", "COMMENT", "COMMIT", "COPY", "CREATE", "DELETE", "DESC", "DESCRIBE",
    "DROP", "GRANT", "INSERT", "KILL", "LOAD", "MERGE", "PRAGMA", "REVOKE", "ROLLBACK", "SET",
    "TRUNCATE", "UNCACHE", "UPDATE", "USE"]

def statementWords : Dialect → List String
  | .postgresql => "BEGIN TRANSACTION" :: commonStatementWords
  | .mysql => ["EXPLAIN", "SHOW", "START"] ++ commonStatementWords
  | .sqlite => ["ATTACH", "DETACH"] ++ commonStatementWords

def followingWords : List String := ["CREATE", "DELETE", "INSERT", "MERGE", "UPDATE"]

def truncationOrCall (start : Input) : Reader Outcome := do
  if ← openList then
    set start
    return .other ((← withGrammar Inner.call).elim "" printed)
  else truncation

/-- What stands behind the word that begins a statement. `source` gives tokens as they are written,
`nested` reads a statement inside, and `start` is where the word stands. -/
def wordedBody (source : List Token → String) (nested : Reader (Option Reading)) (start : Input)
    (word : String) : Reader Outcome := do
  let dialect ← dialect
  let other := fun (body : Reader String) => return Outcome.other (← body)
  let nestedText := return (← nested).map Reading.text
  let nestedValue := return (← nested).map fun inside => inside.value.getD (.word inside.text)
  match word with
  | "ALTER" => alteration source
  | "ANALYZE" => analysis
  | "ATTACH" => other attachment
  | "BEGIN" | "BEGIN TRANSACTION" | "START" => other transactionStart
  | "CACHE" => other caching
  | "COMMENT" => remarkStatement
  | "COMMIT" | "ROLLBACK" => other (transactionEnd word)
  | "COPY" => copy
  | "CREATE" => definition nestedText
  | "DELETE" => other deletion
  | "DESC" | "DESCRIBE" | "EXPLAIN" => other (description (statementWords dialect) nestedText)
  | "DETACH" => other detachment
  | "DROP" => return (← removal true).elim .verbatim Outcome.other
  | "GRANT" => grant
  | "INSERT" => other insertion
  | "KILL" => other kill
  | "LOAD" => loading
  | "MERGE" => other merger
  | "PRAGMA" => other pragma
  | "REVOKE" => revocation
  | "SET" => settings nestedValue
  | "SHOW" => showing
  | "TRUNCATE" => truncationOrCall start
  | "UNCACHE" => other uncaching
  | "UPDATE" => other modification
  | _ => other use

def wordedStatement (text : List Char) (nested : Reader (Option Reading)) (first : Token) :
    Reader Reading := do
  let start ← get
  advance
  match ← wordedBody (sourceOf text) nested start first.upper with
  | .table definition printed => return ⟨.createTable definition, printed, none, true⟩
  | .other printed => return { Reading.other printed with mayFollow := followingWords.contains first.upper }
  | .verbatim =>
    let _ ← takeRest
    return .other (verbatim text start.rest)

def leadingRemarks (token : Token) : String :=
  let shown := printRemarks token.comments
  if shown.isEmpty then "" else String.ofList (shown.toList.drop 1) ++ " "

def ofValue (value : Expr) : Reading := ⟨.other (printed value), printed value, some value, false⟩

/-- A query, or an expression that stands alone. -/
def valueReading (first : Token) : Reader (Option Reading) := do
  match ← withGrammar queryStatement with
  | none => return none
  | some value =>
    let isQuery := first.isAnyWord ["SELECT", "VALUES"]
    return some (if isQuery then (ofValue value).led (leadingRemarks first) else ofValue value)

def introducedStatement (nested : Reader (Option Reading)) (first : Token) : Reader (Option Reading) := do
  let body := return (← nested).map fun inside => inside.value.getD (.word inside.text)
  match ← withGrammar fun inner => namedQueries inner body with
  | none => return none
  | some named =>
    match ← nested with
    | none => fail "Failed to parse any statement following CTE"
    | some following =>
      match following.value with
      | some value =>
        if value.isQuery then
          return some ((ofValue (.query [named, unwrappedQuery value])).led (leadingRemarks first))
        else fail "column does not support CTE"
      | none =>
        if following.mayFollow then
          return some (following.led (leadingRemarks first ++ printed named))
        else fail "command does not support CTE"

def statementFrom (text : List Char) : Nat → Reader (Option Reading)
  | 0 => return none
  | depth + 1 => do
    let nested := statementFrom text depth
    let dialect ← dialect
    match ← peek with
    | none => return none
    | some first =>
      let isWorded := first.isAnyWord (statementWords dialect)
      let isCall ← secondIs fun next => next.isMark "("
      if first.isMark ";" then
        advance
        return some (.other (leadingRemarks first))
      else if isCommandWord dialect first then some <$> command first
      else if isWorded then
        let reading ← wordedStatement text nested first
        return some (reading.led (leadingRemarks first))
      else if first.isWord "IF" && !isCall then
        return some (.other (verbatim text (← takeRest)))
      else if first.isWord "WITH" then introducedStatement nested first
      else valueReading first

/-- One statement, all tokens of which have to be read. -/
def statement (text : List Char) : Reader (Option Statement) := do
  let reading ← statementFrom text ((← remaining) + 1)
  unless ← isAtEnd do fail "Invalid expression / Unexpected token"
  return reading.map Reading.statement

end Reader

def splitStatements : List Token → List (List Token)
  | [] => [[]]
  | token :: rest =>
    if token.isMark ";" then
      let later := splitStatements rest
      if token.comments.isEmpty then [] :: later else [] :: [token] :: later
    else match splitStatements rest with
      | [] => [[token]]
      | chunk :: later => (token :: chunk) :: later

def readStatements (dialect : Dialect) (text : List Char) : Except Problem (List Statement) := do
  let tokens ← tokenize dialect text
  screenTokens dialect tokens
  let statements ← (splitStatements tokens).mapM fun chunk =>
    (·.1) <$> (Reader.statement text dialect).run { previous := none, rest := chunk }
  return statements.filterMap id

end DdlSchema.Ddl
