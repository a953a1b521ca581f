import DdlSchema.Ddl.Reader.DocumentCall
import DdlSchema.Ddl.Reader.Window

/-! Reading calls whose arguments are separated by words. -/

set_option autoImplicit false

namespace DdlSchema.Ddl.Reader

open DdlSchema.Text

def castType (inner : Inner) : Reader DataType := do
  match ← inner.dataType {} with
  | some type => return type
  | none => fail "Expected TYPE after CAST"

/-- The name of a character set behind its words; none where they are not there. -/
def charsetName : Reader (Option String) := do
  if ← characterSetWords then return some ((← orElse anyText stringText).getD "") else return none

def targetType (inner : Inner) : Reader DataType := do
  let type ← castType inner
  match type with
  | .known "CHAR" _ =>
    match ← charsetName with
    | some name => return .userDefined ("CHAR CHARACTER SET " ++ name) []
    | none => return type
  | type => return type

def templated (value : Expr) (type : DataType) (template : String) : Reader Expr := do
  let dialect ← dialect
  return match type with
    | .known "DATE" _ => templateCall dialect "STR_TO_DATE" value (.text template)
    | .known name _ =>
      if isClockType name || name == "DATETIME" then
        templateCall dialect "STR_TO_TIME" value (.text template)
      else .phrase [.word "CAST(", value, .word (" AS " ++ type.print (some dialect) ++ " FORMAT "),
        .text template, .word ")"]
    | type => .cast value type

def castBody (inner : Inner) : Reader Expr := do
  let value ← required inner.disjunction
  unless ← keyword "AS" do fail "Expected AS after CAST"
  let type ← targetType inner
  if ← keyword "FORMAT" then templated value type ((← stringText).getD "")
  else return .cast value type

def convertBody (inner : Inner) : Reader Expr := do
  let value ← required inner.bitwise
  if ← keyword "USING" then
    let name := (← anyText).getD ""
    return .cast value (.userDefined ("CHAR CHARACTER SET " ++ name) [])
  else
    let _ ← mark ","
    return .cast value (← targetType inner)

def momentField (inner : Inner) : Reader Expr := do
  let field ← oneOf [inner.call, return (← stringText).map Expr.text,
    return (← anyName).map fun name => .word (upperString name.text)]
  return field.getD (.word "")

def extractBody (inner : Inner) : Reader Expr := do
  let field ← momentField inner
  let isSeparated ← either (keyword "FROM") (mark ",")
  unless isSeparated do failBehind "Expected FROM or comma after EXTRACT"
  return .known "EXTRACT" [field, ← required inner.bitwise]

def datePartBody (inner : Inner) : Reader Expr := do
  let field ← required inner.typed
  let _ ← mark ","
  let value ← required inner.bitwise
  return match field.bare with
    | .text name => .known "EXTRACT" [.word (upperString name), value]
    | .column [] name => .known "EXTRACT" [.word (upperString name.text), value]
    | field => .known "EXTRACT" [field, value]

def substringBody (inner : Inner) : Reader Expr := do
  let arguments ← commaList inner.bitwise
  let start ← if ← keyword "FROM" then some <$> required inner.bitwise else pure none
  let length ← if ← keyword "FOR" then some <$> required inner.bitwise else pure none
  let lateStart ← if ← keyword "FROM" then some <$> required inner.bitwise else pure none
  let start := match start <|> lateStart, length with
    | none, some _ => some (Expr.number "1")
    | start, _ => start
  return .known "SUBSTRING" (arguments ++ start.toList ++ length.toList)

def positionBody (inner : Inner) : Reader Expr := do
  let arguments ← commaList inner.bitwise
  if ← keyword "IN" then
    let value ← required inner.bitwise
    return .known "STR_POSITION" (value :: arguments.take 1)
  else match arguments with
    | part :: value :: start => return .known "STR_POSITION" (value :: part :: start.take 1)
    | arguments => return .known "STR_POSITION" arguments

def trimBody (inner : Inner) : Reader Expr := do
  let side ← oneSpelled ["LEADING", "TRAILING", "BOTH"]
  let name := match side with
    | some "LEADING" => "LTRIM"
    | some "TRAILING" => "RTRIM"
    | some _ => "BTRIM"
    | none => "TRIM"
  let first ← inner.bitwise
  if ← keyword "FROM" then
    let value ← required inner.bitwise
    return .known name (value :: first.toList)
  else if ← mark "," then
    let removed ← inner.bitwise
    return .known name (first.toList ++ removed.toList)
  else return .known name first.toList

def wordedArgument (inner : Inner) (word : String) : Reader (List Expr) := do
  let isThere ← either (mark ",") (spelled word)
  if isThere then return [.word (" " ++ word ++ " "), ← required inner.bitwise] else return []

def overlayBody (inner : Inner) : Reader Expr := do
  let value ← required inner.bitwise
  let placing ← wordedArgument inner "PLACING"
  let start ← wordedArgument inner "FROM"
  let length ← wordedArgument inner "FOR"
  return .phrase ([.word "OVERLAY(", value] ++ placing ++ start ++ length ++ [.word ")"])

def elementBody (inner : Inner) : Reader Expr := do
  let name ← if ← spelled "NAME" then anyName else pure none
  let content ← if ← mark "," then commaList inner.bitwise else pure []
  return .known "XMLELEMENT" ((name.toList.map fun name => behind "NAME " (.name name)) ++ content)

/-- The condition under which a value is the one that is searched for; nulls are equal here. -/
def isFound (value searched : Expr) : List Expr :=
  let isNull := fun (value : Expr) => Expr.binary "IS" value .null
  let value := guarded value
  match searched.bare with
  | .text _ | .number _ => [.binary "=" value searched]
  | .null => [isNull value]
  | _ =>
    let searched := guarded searched
    [.binary "OR" (.binary "=" value searched) (.paren (.binary "AND" (isNull value) (isNull searched)))]

def foundBranches (value : Expr) : List Expr → List Expr
  | searched :: result :: rest =>
    [.word " WHEN "] ++ isFound value searched ++ [.word " THEN ", result] ++ foundBranches value rest
  | [otherwise] => [.word " ELSE ", otherwise]
  | [] => []

def decodeBody (inner : Inner) : Reader Expr := do
  match ← commaList inner.disjunction with
  | value :: searched :: result :: rest =>
    return .phrase (.word "CASE" :: foundBranches value (searched :: result :: rest) ++ [.word " END"])
  | arguments => return .known "DECODE" arguments

def matchBody (inner : Inner) : Reader Expr := do
  let columns ← commaList inner.column
  let _ ← acceptAll [(·.isMark ")"), isSpelled "AGAINST", (·.isMark "(")]
  let wanted ← stringText
  let mode ← onePhrase ["IN NATURAL LANGUAGE MODE WITH QUERY EXPANSION", "IN NATURAL LANGUAGE MODE",
    "IN BOOLEAN MODE", "WITH QUERY EXPANSION"]
  let mode := mode.elim "" (" " ++ ·)
  return .known "MATCH" (wanted.elim (.word "") Expr.text :: .word mode :: columns)

/-- Values that are put together: the value of a row, the order of the rows and what stands between
two of them. Where one of the last two is missing, an empty word takes its place. -/
def joinedRows (value : Expr) (order : List Expr) (separator : Option Expr) : Expr :=
  .known "GROUP_CONCAT"
    [value, if order.isEmpty then .word "" else .phrase (.word " " :: order), separator.getD (.word "")]

/-- The order of the rows behind a call, as if it stood inside. The parenthesis behind it is left. -/
def groupOrder (inner : Inner) : Reader (List Expr) := do
  let isGroup ← acceptAll [(·.isMark ")"), isSpelled "WITHIN", isSpelled "GROUP", (·.isMark "(")]
  if isGroup then clause "ORDER BY" (sortKeys inner) else return []

def aggregateBody (inner : Inner) (word : String) : Reader Expr := do
  let isDistinct ← keyword "DISTINCT"
  let values ← commaList inner.disjunction
  let order ← clause "ORDER BY" (sortKeys inner)
  match values with
  | [] => return .known word []
  | value :: separator =>
    let order ← if order.isEmpty then groupOrder inner else pure order
    return joinedRows (if isDistinct then behind "DISTINCT " value else value) order separator.head?

/-- Rows put together, where the order belongs to the value that it stands behind. Of several values
that have to differ, SQLite takes the first. -/
def concatenationBody (inner : Inner) : Reader Expr := do
  let isDistinct ← keyword "DISTINCT"
  let values ← commaList inner.disjunction
  let order ← clause "ORDER BY" (sortKeys inner)
  let kept := if (← dialect) == .sqlite then values.take 1 else values
  match values, isDistinct with
  | [], _ => return .known "GROUP_CONCAT" []
  | _ :: _, true => return joinedRows (behind "DISTINCT " (.phrase (separated ", " kept))) order none
  | [value], false => return joinedRows value order none
  | value :: separator :: _, false =>
    let ordered := if order.isEmpty then separator else .phrase (separator :: .word " " :: order)
    return joinedRows value [] (some ordered)

/-- Rows put together in MySQL, where several values of a row are one and a word leads to the
separator. -/
def groupBody (inner : Inner) : Reader Expr := do
  let isDistinct ← keyword "DISTINCT"
  let values ← commaList inner.disjunction
  let order ← clause "ORDER BY" (sortKeys inner)
  let separator ← if ← keyword "SEPARATOR" then inner.field .strict else pure none
  let value := match values with
    | [value] => value
    | values => .known "CONCAT" values
  return joinedRows (if isDistinct then behind "DISTINCT " value else value) order separator

def characterBody (inner : Inner) : Reader Expr := do
  let codes ← commaList inner.disjunction
  if ← keyword "USING" then
    let name := if (← dialect) == .postgresql then "CHR(" else "CHAR("
    let charset := (← anyText).getD ""
    return .phrase ([.word name] ++ separated ", " codes ++ [.word (" USING " ++ charset ++ ")")])
  else return .known "CHR" codes

def insertedValue : Reader Expr :=
  return .call ⟨"VALUES", false⟩ ((← anyName).toList.map Expr.name)

def specialBody? (inner : Inner) (dialect : Dialect) (word : String) : Option (Reader Expr) :=
  match word, dialect with
  | "CAST", _ | "TRY_CAST", _ | "SAFE_CAST", _ => some (castBody inner)
  | "CHAR", _ | "CHR", _ => some (characterBody inner)
  | "CONVERT", _ | "TRY_CONVERT", _ => some (convertBody inner)
  | "DATE_PART", .postgresql => some (datePartBody inner)
  | "DECODE", _ => some (decodeBody inner)
  | "EXTRACT", _ => some (extractBody inner)
  | "GROUP_CONCAT", .mysql => some (groupBody inner)
  | "GROUP_CONCAT", _ => some (concatenationBody inner)
  | "JSON_OBJECT", _ | "JSON_OBJECTAGG", _ => some (documentBody inner word)
  | "JSON_TABLE", _ => some (documentTableBody inner)
  | "JSON_VALUE", .mysql => some (documentValueBody inner)
  | "MATCH", _ => some (matchBody inner)
  | "OVERLAY", _ => some (overlayBody inner)
  | "POSITION", _ => some (positionBody inner)
  | "STRING_AGG", _ => some (aggregateBody inner word)
  | "SUBSTRING", _ | "SUBSTR", .mysql => some (substringBody inner)
  | "TRIM", _ => some (trimBody inner)
  | "VALUES", .mysql => some insertedValue
  | "XMLELEMENT", _ => some (elementBody inner)
  | _, _ => none

end DdlSchema.Ddl.Reader
