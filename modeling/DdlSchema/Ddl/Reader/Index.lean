import DdlSchema.Ddl.Check
import DdlSchema.Ddl.Reader.Reference

/-! Reading what indexes are made of, and the options behind them. -/

set_option autoImplicit false

namespace DdlSchema.Ddl.Reader

open DdlSchema.Text

def comparedValue (inner : Inner) : Reader (Option Expr) := do
  match ← inner.disjunction with
  | none => return none
  | some value =>
    let isEnd ← peekIs fun token => token.isMark "," || token.isMark ")" ||
      token.isAnyWord ["ASC", "DESC", "NULLS", "WITH"]
    if isEnd || (← isAtEnd) then return some value
    else match ← namePath with
      | some path => return some (.phrase [value, .word " ", path])
      | none => fail "Expected table name"

def indexedColumn (inner : Inner) : Reader (Option Expr) := sortKeyOf (comparedValue inner)

def indexedValue (inner : Inner) : Reader (Option Expr) := do
  match ← indexedColumn inner with
  | none => return none
  | some key =>
    if ← keyword "WITH" then
      let operator := ((← peek).map Token.text).getD ""
      advance
      return some (.phrase [key, .word (" WITH " ++ operator)])
    else return some key

def indexSpace : Reader String := do
  if ← allSpelled ["USING", "INDEX", "TABLESPACE"] then
    return " USING INDEX TABLESPACE " ++ (← anyText).getD ""
  else return ""

/-- How an index is kept. A space for it, which begins alike, is none. -/
def indexMethod : Reader String := do
  let space ← indexSpace
  if !space.isEmpty then return space
  else if ← keyword "USING" then return " USING " ++ (← anyText).getD ""
  else return ""

def indexParameters : Reader String := do
  let method ← indexMethod
  let columns ← if ← openList
    then some <$> wrapped (withGrammar fun inner => commaList (indexedValue inner)) else pure none
  let included ← if ← spelled "INCLUDE" then nameList else pure []
  let partition ← if ← keyword "PARTITION BY" then commaList expression else pure []
  let storage ← if ← keyword "WITH" then wrapped propertyList else pure []
  let space ← indexSpace
  let condition ← if ← keyword "WHERE" then expression else pure none
  let place ← if ← keyword "ON" then anyField .strict else pure none
  return method ++ columns.elim "" (fun values => inParens (commaPrinted values)) ++
    (if included.isEmpty then "" else " INCLUDE " ++ inParens (printNames included)) ++
    (if storage.isEmpty then "" else " WITH " ++ inParens (commaJoined (storage.map Property.print))) ++
    space ++ (if partition.isEmpty then "" else " PARTITION BY " ++ commaPrinted partition) ++
    condition.elim "" (fun value => " WHERE " ++ printed value) ++
    place.elim "" fun value => " ON " ++ printed value

def keyLength : Reader (Option String) := do
  if ← mark "(" then
    let length ← ofKind .number
    close
    return length
  else return none

/-- A part of a primary key. MySQL takes the beginning of a column, others take any value. -/
def primaryKeyPart : Reader (Option (Written String)) := do
  if (← dialect) == .mysql then
    match ← anyName with
    | some name =>
      let length ← keyLength
      return some ⟨name.text, printName none name ++ length.elim "" inParens⟩
    | none => return none
  else return (← anyField .strict).map fun value => ⟨value.keyName, printed value⟩

/-- A part of an index of MySQL. -/
def keyPart : Reader (Option KeyPart) := do
  let target ← orElse (withGrammar parenthesis) (return (← anyName).map Expr.name)
  match target with
  | none => return none
  | some target =>
    let length ← keyLength
    let collation ← if ← keyword "COLLATE" then anyText else pure none
    let direction ← oneKeyword ["ASC", "DESC"]
    return some ⟨target, length, collation, direction.map (· == "DESC")⟩

def indexOption : Reader (Option String) := do
  if ← spelled "KEY_BLOCK_SIZE" then
    let _ ← mark "="
    return some ("KEY_BLOCK_SIZE = " ++ (← ofKind .number).getD "")
  else if ← keyword "USING" then return some ("USING " ++ (← anyText).getD "")
  else if ← allSpelled ["WITH", "PARSER"] then
    return some ("WITH PARSER " ++ (← anyText).getD "")
  else if ← keyword "COMMENT" then
    return some ("COMMENT " ++ printString (some .mysql) (← requiredString))
  else
    match ← oneSpelled ["ENGINE_ATTRIBUTE", "SECONDARY_ENGINE_ATTRIBUTE"] with
    | some word =>
      let _ ← mark "="
      return some (word ++ " = " ++ printString (some .mysql) (← requiredString))
    | none => oneSpelled ["VISIBLE", "INVISIBLE"]

def indexOptions : Reader (List String) := sequence indexOption

def index (kind : IndexWord) : Reader (Written Constraint) := do
  if kind != .plain then
    let _ ← oneSpelled ["INDEX", "KEY"]
  let name ← softName
  let method ← if ← keyword "USING" then anyText else pure none
  let parts ← wrapped (commaList keyPart)
  let definition : IndexDefinition := ⟨kind, name, method, parts, ← indexOptions⟩
  return ⟨.index definition, definition.print none⟩

end DdlSchema.Ddl.Reader
