import DdlSchema.Ddl.Reader.Call

/-! Reading calls that make documents or look into them. -/

set_option autoImplicit false

namespace DdlSchema.Ddl.Reader

open DdlSchema.Text

def documentFormat (value : Expr) : Reader Expr := do
  return if ← allSpelled ["FORMAT", "JSON"] then .phrase [value, .word " FORMAT JSON"] else value

def documentPair (inner : Inner) : Reader (Option Expr) := do
  let _ ← spelled "KEY"
  let key ← inner.column
  let _ ← either (mark ":") (either (mark ",") (keyword "IS"))
  let _ ← spelled "VALUE"
  let value ← inner.bitwise
  match key, value with
  | none, none => return none
  | key, value => some <$> documentFormat (.binary ":" (key.getD (.word "")) (value.getD (.word "")))

def documentTail (inner : Inner) : Reader String := do
  let nulls := (← onePhrase ["NULL ON NULL", "ABSENT ON NULL"]).elim "" (" " ++ ·)
  let keys := (← onePhrase ["WITH UNIQUE", "WITHOUT UNIQUE"]).elim "" (" " ++ · ++ " KEYS")
  let _ ← spelled "KEYS"
  let type ← if ← keyword "RETURNING" then inner.dataType {} else pure none
  let format ← if type.isSome then documentFormat (.word "") else pure (.word "")
  let encoding ← if ← spelled "ENCODING" then anyText else pure none
  return nulls ++ keys ++ type.elim "" (fun type => " RETURNING " ++ type.print none) ++
    format.print none ++ encoding.elim "" (" ENCODING " ++ ·)

def documentBody (inner : Inner) (name : String) : Reader Expr := do
  let pairs ← if ← mark "*" then pure [Expr.star] else commaList (documentPair inner)
  let tail ← documentTail inner
  return .known name [.phrase [.phrase (separated ", " pairs), .word tail]]

def documentFault (inner : Inner) (event : String) : Reader (List Expr) := do
  match ← onePhrase (["NULL", "ERROR", "TRUE", "FALSE", "EMPTY"].map (· ++ " ON " ++ event)) with
  | some phrase => return [.word (" " ++ phrase)]
  | none =>
    let value ← attempt do
      if ← keyword "DEFAULT" then
        match ← inner.bitwise with
        | none => return none
        | some value =>
          return if ← allSpelled ["ON", event] then
            some [Expr.word " DEFAULT ", value, .word (" ON " ++ event)] else none
      else return none
    return value.getD []

/-- A part of a document as a plain value, which only MySQL reads so. -/
def documentValueBody (inner : Inner) : Reader Expr := do
  let value ← required inner.bitwise
  let _ ← mark ","
  let path ← inner.bitwise
  let type ← if ← keyword "RETURNING" then inner.dataType {} else pure none
  let absent ← documentFault inner "EMPTY"
  let broken ← documentFault inner "ERROR"
  return .phrase ([.word "JSON_VALUE(", value, .word ", "] ++
    (path.map (documentPath (← dialect))).toList ++
    (type.toList.map fun type => .word (" RETURNING " ++ type.print (some .mysql))) ++ absent ++ broken ++
    [.word ")"])

/-- A column of the rows that a document holds, with its type and the path of its values, or the
columns of the rows one level further inside. -/
def documentColumnsFrom (inner : Inner) : Nat → Reader Expr
  | 0 => return .word ""
  | bound + 1 => do
    let _ ← spelled "COLUMNS"
    let path := do
      if ← spelled "PATH" then return (← stringText).toList.flatMap fun path => [Expr.word " PATH ", .text path]
      else return []
    let column := do
      if ← spelled "NESTED" then
        let path ← path
        return some (.phrase (.word "NESTED" :: path ++ [.word " ", ← documentColumnsFrom inner bound]))
      else match ← anyName with
        | none => return none
        | some name =>
          let isNumber ← keywords ["FOR", "ORDINALITY"]
          let type ← inner.dataType { named := false }
          let shown := type.toList.map fun type => Expr.word (" " ++ type.print none)
          return some (.phrase (.name name :: shown ++ (← path) ++
            (if isNumber then [.word " FOR ORDINALITY"] else [])))
    let columns ← if ← openList then wrapped (commaList column) else commaList column
    return .phrase [.word "COLUMNS(", .phrase (separated ", " columns), .word ")"]

def documentTableBody (inner : Inner) : Reader Expr := do
  let value ← documentFormat (← required inner.bitwise)
  let path ← if ← mark "," then stringText else pure none
  let broken ← documentFault inner "ERROR"
  let absent ← documentFault inner "EMPTY"
  let columns ← documentColumnsFrom inner (← remaining)
  return .phrase ([.word "JSON_TABLE(", value] ++
    (path.toList.flatMap fun path => [Expr.word ", ", .text path]) ++ broken ++ absent ++
    [.word " ", columns, .word ")"])

end DdlSchema.Ddl.Reader
