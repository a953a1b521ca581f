import DdlSchema.Schema.Model

/-! The column that is most likely meant as primary key where none is declared. -/

set_option autoImplicit false

namespace DdlSchema.Schema

open DdlSchema.Text

def singularize (name : List Char) : List Char :=
  let small := lower name
  if "ies".toList.isSuffixOf small && name.length > 3 then name.take (name.length - 3) ++ ['y']
  else if "s".toList.isSuffixOf small && name.length > 1 then name.take (name.length - 1)
  else name

def isJunctionName (name : List Char) : Bool :=
  let small := lower name
  ["ables", "ings"].any (fun ending => ending.toList.isSuffixOf small) ||
    ["_has_", "_to_"].any fun infixed => occursIn infixed.toList small

def keyPatterns (table : List Char) : List (List Char) :=
  [lower (table ++ "_id".toList), lower (singularize table ++ "_id".toList), "id".toList,
    "uuid".toList, "guid".toList]

def firstFitting (fits : List Char → List Char → Bool) (patterns : List (List Char))
    (names : List (List Char)) : Option Nat :=
  patterns.findSome? fun pattern => names.findIdx? (fits pattern)

/-- The position of the implied key; `none` only where there are no columns. -/
def implicitKey? (table : String) (columns : List Column) : Option Nat :=
  let names := columns.map fun column => lower column.name.toList
  let patterns := keyPatterns table.toList
  if isJunctionName table.toList && columns.countP Column.isForeignKey ≥ 2 then
    columns.findIdx? Column.isForeignKey
  else
    firstFitting (fun pattern name => name == pattern) patterns names
      <|> firstFitting occursIn patterns names
      <|> columns.findIdx? (fun column => !column.isForeignKey)
      <|> columns.findIdx? fun _ => true

end DdlSchema.Schema
