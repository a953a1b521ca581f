import DdlSchema.Schema.Model
import DdlSchema.Statement.Prepared
import DdlSchema.Text.Name

/-! Constraints read from ALTER TABLE statements. The statements are too irregular for a grammar:
each clause is classified by its words and then matched with a pattern. -/

set_option autoImplicit false

namespace DdlSchema.Schema

open DdlSchema.Text DdlSchema.Text.Pattern

/-- A spelling that passes for a known word where case is ignored, but names nothing. -/
inductive UnknownSpelling where
  | referentialAction (text : String)
  | indexKind (text : String)
  deriving DecidableEq, Repr

def UnknownSpelling.message : UnknownSpelling → String
  | .referentialAction text => "'" ++ text ++ "' is not a valid ReferentialAction"
  | .indexKind text => "'" ++ text ++ "' is not a valid IndexType"

namespace Clause

def exactly (c : Char) : Pattern := .char (· == c)

def spanOf (opener closer : Char) : Pattern :=
  ofList [exactly opener, .run (· != closer) 1, exactly closer]

def name : Pattern :=
  oneOf [spanOf '\x60' '\x60', spanOf '\x22' '\x22', spanOf '[' ']',
    .run (fun c => isWordChar c || c == '$') 1]

def qualifiedName : Pattern :=
  .seq name (.many (ofList [blanks, exactly '.', blanks, name]))

/-- The inside of a column list; lengths in parentheses may stand in it. -/
def columns : Pattern :=
  oneOrMore (.either (.char Statement.isNoParen) (Statement.parenthesized (.run Statement.isNoParen 0)))

def columnList (label : String) : Pattern := Statement.parenthesized (.capture label columns)

def method : Pattern := optional (ofList [letters "USING", gap, wordChars, blanks])

def header : Pattern :=
  ofList [phrase "ALTER TABLE", gap, optional (.seq (phrase "IF EXISTS") gap),
    optional (.seq (letters "ONLY") gap), .capture "table" qualifiedName, gap,
    .capture "body" (.run (fun _ => true) 1)]

def primaryKey : Pattern :=
  ofList [letters "ADD", gap, optional (ofList [letters "CONSTRAINT", gap, name, gap]),
    phrase "PRIMARY KEY", blanks, method, columnList "columns"]

def action : Pattern := oneOf (ReferentialAction.all.map fun action => phrase action.name)

def onEvent : Pattern :=
  ofList [letters "ON", gap, .capture "event" (.either (letters "DELETE") (letters "UPDATE")), gap,
    .capture "action" action]

def foreignKey : Pattern :=
  ofList [optional (ofList [letters "CONSTRAINT", gap, .capture "name" name, gap]),
    phrase "FOREIGN KEY", blanks, optional (.seq name blanks), columnList "columns", blanks,
    letters "REFERENCES", gap, .capture "table" qualifiedName, blanks,
    optional (columnList "targets"), .capture "actions" (.many (.seq gap onEvent))]

def uniqueKey : Pattern :=
  ofList [letters "ADD", gap,
    optional (ofList [letters "CONSTRAINT", gap, .capture "constraint" name, gap]),
    letters "UNIQUE", blanks,
    optional (.seq (.either (letters "KEY") (letters "INDEX")) .edge), blanks,
    optional (.capture "name" name), blanks, method, columnList "columns"]

def index : Pattern :=
  ofList [letters "ADD", gap,
    optional (.capture "kind" (.either (letters "FULLTEXT") (letters "SPATIAL"))), blanks,
    .either (letters "INDEX") (letters "KEY"), .edge, blanks,
    optional (.capture "name" name), blanks, method, columnList "columns"]

/-- The beginning of a clause in upper case that adds a unique key. -/
def addsUnique : Pattern :=
  ofList [literal "ADD", gap,
    optional (ofList [literal "CONSTRAINT", gap, .run (fun c => !isBlank c) 1, gap]),
    literal "UNIQUE", .edge]

def column : Pattern := .seq (optional (.seq (letters "COLUMN") gap)) (.capture "column" name)

def autoIncrement : Pattern :=
  ofList [oneOf [letters "MODIFY", letters "CHANGE", letters "ALTER"], gap, column]

def sequenceDefault : Pattern :=
  ofList [letters "ALTER", gap, column, gap, phrase "SET DEFAULT nextval", blanks, exactly '(']

end Clause

/-- What the actions behind a reference say; of two for one event the later one counts. -/
structure Actions where
  onDelete : Option ReferentialAction := none
  onUpdate : Option ReferentialAction := none
  deriving DecidableEq, Repr

def Actions.read (actions : Actions) (found : Match) : Except UnknownSpelling Actions :=
  let written := canonicalWords ((found.get? "action").getD [])
  match ReferentialAction.ofName? written with
  | none => .error (.referentialAction written)
  | some action =>
    if upper ((found.get? "event").getD []) == "DELETE".toList then
      .ok { actions with onDelete := some action }
    else .ok { actions with onUpdate := some action }

def referentialActions (text : List Char) : Except UnknownSpelling Actions :=
  (Clause.onEvent.allMatches text).foldlM Actions.read {}

/-- What one clause of an ALTER TABLE statement declares. -/
inductive ClauseReading where
  | primaryKey (clause : PrimaryKeyClause)
  | foreignKeys (keys : List ForeignKey)
  | uniqueKey (clause : UniqueKeyClause)
  | autoIncrement (clause : AutoIncrementClause)
  | index (clause : IndexClause)
  /-- The words of a constraint, but not in a form that is understood. -/
  | unmatched
  | ignored (table : String) (clause : List Char)

def cleanString (name : List Char) : String := String.ofList (cleanName name)

def columnNames (text : List Char) : List String := (splitColumns text).map String.ofList

def Match.columns (found : Match) : List String := columnNames ((found.get? "columns").getD [])

def readForeignKey (table : String) (found : Match) : Except UnknownSpelling (List ForeignKey) := do
  let actions ← referentialActions ((found.get? "actions").getD [])
  let targets := columnNames ((found.get? "targets").getD [])
  return (Match.columns found).mapIdx fun position column =>
    { table
      column
      target := ⟨cleanString ((found.get? "table").getD []), targetColumn targets position⟩
      onDelete := actions.onDelete
      onUpdate := actions.onUpdate
      constraintName := (found.get? "name").map cleanString }

def readIndex (table : String) (found : Match) : Except UnknownSpelling ClauseReading :=
  let kindName := String.ofList (upper ((found.get? "kind").getD "INDEX".toList))
  match IndexKind.ofName? kindName with
  | none => .error (.indexKind kindName)
  | some kind =>
    .ok (.index ⟨table, Match.columns found, (found.get? "name").map cleanString, kind⟩)

def readIncrement (table : String) (pattern : Pattern) (clause : List Char) : ClauseReading :=
  match pattern.search clause with
  | some (found, _) => .autoIncrement ⟨table, cleanString ((found.get? "column").getD [])⟩
  | none => .unmatched

def readClause (table : String) (clause : List Char) : Except UnknownSpelling ClauseReading :=
  let words := upper (squeeze clause)
  let adds := "ADD".toList.isPrefixOf words
  let mentions := fun (phrase : String) => occursIn phrase.toList words
  if adds && mentions "PRIMARY KEY" then
    match Clause.primaryKey.search clause with
    | some (found, _) => .ok (.primaryKey ⟨table, Match.columns found⟩)
    | none => .ok .unmatched
  else if mentions "FOREIGN KEY" then
    ((Clause.foreignKey.allMatches clause).mapM (readForeignKey table)).map fun keys =>
      .foreignKeys keys.flatten
  else if (Clause.addsUnique.matchStart words).isSome then
    match Clause.uniqueKey.search clause with
    | some (found, _) =>
      .ok (.uniqueKey ⟨table, Match.columns found,
        (found.get? "constraint" <|> found.get? "name").map cleanString⟩)
    | none => .ok .unmatched
  else if mentions "AUTO_INCREMENT" then .ok (readIncrement table Clause.autoIncrement clause)
  else if mentions "NEXTVAL" then .ok (readIncrement table Clause.sequenceDefault clause)
  else if adds then
    match Clause.index.search clause with
    | some (found, _) => readIndex table found
    | none => .ok .unmatched
  else .ok (.ignored table clause)

def readStatement (statement : List Char) : Except UnknownSpelling (List ClauseReading) :=
  match Clause.header.matchStart statement with
  | none => .ok []
  | some found =>
    let table := cleanString ((found.get? "table").getD [])
    (splitCommas ((found.get? "body").getD [])).mapM (readClause table)

/-- The readings of all clauses of the ALTER TABLE statements among these, in order. -/
def readAlterations (statements : List (List Char)) :
    Except UnknownSpelling (List ClauseReading) :=
  (statements.mapM readStatement).map List.flatten

def readAlter (script : List Char) : Except UnknownSpelling (List ClauseReading) :=
  readAlterations (Statement.bareStatements script)

def AlterConstraints.add (alter : AlterConstraints) : ClauseReading → AlterConstraints
  | .primaryKey clause => { alter with primaryKeys := alter.primaryKeys ++ [clause] }
  | .foreignKeys keys => { alter with foreignKeys := alter.foreignKeys ++ keys }
  | .uniqueKey clause => { alter with uniqueKeys := alter.uniqueKeys ++ [clause] }
  | .autoIncrement clause => { alter with autoIncrements := alter.autoIncrements ++ [clause] }
  | .index clause => { alter with indexes := alter.indexes ++ [clause] }
  | .unmatched | .ignored _ _ => alter

def AlterConstraints.ofReadings (readings : List ClauseReading) : AlterConstraints :=
  readings.foldl AlterConstraints.add {}

end DdlSchema.Schema
