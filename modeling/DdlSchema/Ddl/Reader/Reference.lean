import DdlSchema.Ddl.KeyName
import DdlSchema.Ddl.Reader.Property

/-! Reading what a key refers to, and what may be said about a key. -/

set_option autoImplicit false

namespace DdlSchema.Ddl.Reader

open DdlSchema.Text

def isElementList : Reader Bool := do
  let isPostgres := (← dialect) == .postgresql
  let isQuery ← secondIs fun next => next.isMark "(" || next.isAnyWord ["SELECT", "WITH"] ||
    (isPostgres && next.isWord "TABLE")
  return (← openList) && !isQuery

def keyOptionWords : Options :=
  [("NOT", ["ENFORCED"]), ("MATCH", ["FULL", "PARTIAL", "SIMPLE"]),
    ("INITIALLY", ["DEFERRED", "IMMEDIATE"]), ("USING", ["BTREE", "HASH"]), ("DEFERRABLE", []),
    ("NORELY", []), ("RELY", [])]

def keyAction : Reader String := do
  match ← onePhrase ["NO ACTION", "CASCADE", "RESTRICT", "SET NULL", "SET DEFAULT"] with
  | some action => return action
  | none => fail "Invalid key constraint"

def keyOption : Reader (Option String) := do
  if ← keyword "ON" then
    let event := (← anyText).getD "None"
    return some ("ON " ++ event ++ " " ++ (← keyAction))
  else knownOption keyOptionWords

def keyOptions : Reader (List String) := sequence keyOption

def shownOptions (options : List String) : String := String.join (options.map (" " ++ ·))

/-- A part of a table name; a call is none that counts. -/
def tablePart : Reader (Option (Written String)) := do
  let name := orElse softName (return (← stringText).map fun text => ⟨text, true⟩)
  match ← name with
  | some name => return some ⟨name.text, printName none name⟩
  | none => return (← givenValue).map fun value => ⟨"", printed value⟩

def tablePathFrom : Nat → Written String → Reader (Written String)
  | 0, path => return path
  | bound + 1, path => do
    if ← mark "." then
      match ← tablePart with
      | some part => tablePathFrom bound ⟨part.value, path.text ++ "." ++ part.text⟩
      | none => fail "Expected table name"
    else return path

def tableName : Reader (Written String) := do
  match ← tablePart with
  | some first => tablePathFrom (← remaining) first
  | none => fail "Expected table name"

/-- The names in a list of elements, if one follows. -/
def listedNames (list : Reader (List (Written Element))) :
    Reader (Option (Written (List String))) := do
  if ← isElementList then
    let elements ← list
    return some ⟨elements.map fun element => element.value.keyName,
      inParens (commaJoined (elements.map Written.text))⟩
  else return none

def reference (list : Reader (List (Written Element))) : Reader (Written Reference) := do
  let isCall ← secondIs fun next => next.isMark "("
  let isRows ← atKeyword "UNNEST"
  let table ←
    if isRows && isCall then
      let rows ← withGrammar Inner.call
      pure ⟨"", (rows.map printed).getD ""⟩
    else tableName
  let columns := (← listedNames list).getD ⟨[], ""⟩
  let options ← keyOptions
  return ⟨⟨table.value, columns.value, options⟩,
    "REFERENCES " ++ table.text ++ spaced columns.text ++ shownOptions options⟩

end DdlSchema.Ddl.Reader
