import DdlSchema.Ddl.Reader.Constraint

/-! Reading columns with their constraints, and the list that holds them together with the
constraints of the table. `elements` ties the knot between the two. -/

set_option autoImplicit false

namespace DdlSchema.Ddl.Reader

open DdlSchema.Text

/-- The words in front of which MySQL leaves out the name behind CONSTRAINT. -/
def namelessWords : List String := ["CHECK", "FOREIGN KEY", "PRIMARY KEY", "UNIQUE"]

def isNameless : Reader Bool := do
  let isWord ← peekIs fun token => token.kind == .word && namelessWords.contains token.upper
  return (← dialect) == .mysql && isWord

def shownLead (name : Option Name) : String :=
  name.elim "" fun name => "CONSTRAINT " ++ printName none name ++ " "

/-- A constraint with its own name or without one. A name alone is a constraint as well. -/
def columnConstraint (list : Reader (List (Written Element))) :
    Reader (Option (Written ColumnConstraint)) := do
  let isWorded ← keyword "CONSTRAINT"
  let isNamed := isWorded && !(← isNameless)
  let name ← if isNamed then anyName else pure none
  let own := name.map Name.text
  let isKey := (← dialect) == .mysql && (← peekIs fun token => isSpelled "KEY" token)
  if isKey then
    advance
    return some ⟨⟨own, .primaryKey none⟩, shownLead name ++ "PRIMARY KEY"⟩
  else match ← constraintAmong list (columnConstraintWords (← dialect)) with
    | some kind => return some ⟨⟨own, kind.value⟩, shownLead name ++ kind.text⟩
    | none =>
      return if isWorded then some ⟨⟨own, .other⟩, name.elim "" (printName none)⟩ else none

def computedValue : Reader (Written ColumnConstraint) := do
  let value ← expression
  let isKept := (← oneSpelled ["PERSISTED", "STORED", "VIRTUAL"]).any (· != "VIRTUAL")
  unless ← spelled "AUTO" do
    let _ ← anyType {}
  let isFilled ← keywords ["NOT", "NULL"]
  let tail := if isFilled then " PERSISTED NOT NULL" else if isKept then " PERSISTED" else ""
  return ⟨⟨none, .other⟩, "AS " ++ value.elim "" printed ++ tail⟩

def computedClause (isTyped : Bool) : Reader (Option (Written ColumnConstraint)) := do
  let isWorded ← if isTyped then pure false else keyword "AS"
  let word ← if isWorded then pure none else oneSpelled ["ALIAS", "MATERIALIZED"]
  if isWorded || word.isSome then some <$> computedValue
  else
    let hasList ← secondIs fun next => next.isMark "("
    if isTyped && hasList && (← atKeyword "AS") then
      advance
      let value ← expression
      let isStored := (← oneSpelled ["STORED", "VIRTUAL"]).any (· == "STORED")
      return some ⟨⟨none, .other⟩,
        "AS " ++ value.elim "" printed ++ (if isStored then " PERSISTED" else "")⟩
    else return none

def passage : Reader (Option (Written ColumnConstraint)) := do
  let inwards ← keyword "IN"
  let outwards ← keyword "OUT"
  let words := (if inwards then ["IN"] else []) ++ if outwards then ["OUT"] else []
  return if words.isEmpty then none else some ⟨⟨none, .other⟩, String.intercalate " " words⟩

def definedName : Expr → Name
  | .name name => name
  | value => ⟨value.ownName, false⟩

/-- Where the column comes among the others, which has no meaning for the schema. The words are
written back as they are. -/
def columnPlace : Reader String := do
  match ← take? fun token => isSpelled "AFTER" token || isSpelled "FIRST" token with
  | some token => return " " ++ token.text ++ spaced ((← withGrammar column).elim "" printed)
  | none => return ""

/-- What stands behind the name of a column; a name with nothing behind it is no column yet. -/
def columnTail (list : Reader (List (Written Element))) (value : Expr) : Reader (Written Element) := do
  let type ← anyType { declared := true }
  if ← allSpelled ["FOR", "ORDINALITY"] then
    return ⟨.column ⟨definedName value, none, []⟩, printed value ++ " FOR ORDINALITY"⟩
  else
    let computed ← computedClause type.isSome
    let passage ← if type.isNone && computed.isNone then passage else pure none
    let type ← if passage.isSome then anyType {} else pure type
    let constraints := computed.toList ++ passage.toList ++ (← sequence (columnConstraint list))
    let text := printed value ++ type.elim "" (fun type => " " ++ type.print none) ++
      shownOptions (constraints.map Written.text)
    if type.isNone && constraints.isEmpty then
      match value with
      | .name name => return ⟨.bareColumn name, text⟩
      | value => return ⟨.expression value, text⟩
    else
      let place ← columnPlace
      return ⟨.column ⟨definedName value, type, constraints.map Written.value⟩, text ++ place⟩

def columnOrValue (list : Reader (List (Written Element))) : Reader (Option (Written Element)) := do
  match ← anyField .free with
  | some value => some <$> columnTail list value
  | none => return none

def namedKind (list : Reader (List (Written Element))) : Reader (Option (Written Constraint)) := do
  let isQuoted ← peekIs fun token => token.kind == .quotedName
  match ← if isQuoted then pure none
    else constraintAmong list (columnConstraintWords (← dialect)) with
  | some kind => return some kind
  | none => return (← withGrammar Inner.call).bind fun value => without (printed value)

def tableConstraint (list : Reader (List (Written Element))) :
    Reader (Option (Written Constraint)) := do
  let isQuoted ← peekIs fun token => token.kind == .quotedName
  if isQuoted then return none else constraintAmong list (tableConstraintWords (← dialect))

def namedConstraint (list : Reader (List (Written Element))) : Reader (Written Element) := do
  let name ← anyName
  let kinds ← sequence (namedKind list)
  return ⟨.namedConstraint (name.map Name.text) (kinds.map Written.value),
    "CONSTRAINT " ++ name.elim "" (printName none) ++ shownOptions (kinds.map Written.text)⟩

def listConstraint (list : Reader (List (Written Element))) : Reader (Option (Written Element)) := do
  let isWorded ← keyword "CONSTRAINT"
  let isNamed := isWorded && !(← isNameless)
  if isNamed then some <$> namedConstraint list
  else return (← tableConstraint list).map fun kind => ⟨.constraint kind.value, kind.text⟩

def element (list : Reader (List (Written Element))) : Reader (Option (Written Element)) :=
  orElse (listConstraint list) (columnOrValue list)

def elementsFrom : Nat → Reader (List (Written Element))
  | 0 => return []
  | depth + 1 => wrapped (commaList (element (elementsFrom depth)))

def elements : Reader (List (Written Element)) := do elementsFrom (← remaining)

def listedTable : Reader (Written String) := do
  let lead := if ← keyword "ONLY" then "ONLY " else ""
  let table ← tableName
  let _ ← mark "*"
  let partition := String.join ((← withGrammar chosenPartition).map printed)
  let columns := (← listedNames elements).elim "" fun columns => spaced columns.text
  return ⟨table.value, lead ++ table.text ++ partition ++ columns⟩

end DdlSchema.Ddl.Reader
