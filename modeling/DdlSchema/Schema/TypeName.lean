import DdlSchema.Text.Pattern

/-! Canonical column types: one spelling for what the dialects write in several ways. -/

set_option autoImplicit false

namespace DdlSchema.Schema

open DdlSchema.Text

def typeAliases : List (String × String) :=
  [("INTEGER", "INT"), ("INT4", "INT"), ("INT8", "BIGINT"), ("INT2", "SMALLINT"),
    ("NUMERIC", "DECIMAL"), ("SMALLSERIAL", "SMALLINT"), ("BIGSERIAL", "BIGINT"),
    ("SERIAL8", "BIGINT"), ("SERIAL4", "INT"), ("REAL", "DOUBLE"), ("FLOAT8", "DOUBLE"),
    ("FLOAT4", "FLOAT"), ("DOUBLE PRECISION", "DOUBLE"), ("CHARACTER VARYING", "VARCHAR"),
    ("CHAR VARYING", "VARCHAR"), ("CHARACTER", "CHAR"),
    ("NATIONAL CHARACTER VARYING", "NVARCHAR"), ("NATIONAL CHAR VARYING", "NVARCHAR"),
    ("NATIONAL CHARACTER", "NCHAR"), ("NATIONAL CHAR", "NCHAR"),
    ("TIMESTAMPTZ", "TIMESTAMP"), ("TIMETZ", "TIME")]

def numericTypes : List String :=
  ["BIGINT", "INT", "TINYINT", "SMALLINT", "MEDIUMINT", "DECIMAL", "NUMERIC", "DOUBLE", "FLOAT",
    "BIT"]

def textTypes : List String := ["TINYTEXT", "MEDIUMTEXT", "LONGTEXT", "TEXT"]

def temporalTypes : List String := ["TIMESTAMP", "DATETIME", "DATE", "TIME", "YEAR"]

def binaryTypes : List String :=
  ["BINARY", "VARBINARY", "BLOB", "TINYBLOB", "MEDIUMBLOB", "LONGBLOB", "BYTEA"]

def stringTypes : List String := ["VARCHAR", "CHAR", "NCHAR", "NVARCHAR"]

def valueListTypes : List String := ["ENUM", "SET"]

def splitType (type : List Char) : List Char × List Char :=
  if type.contains '(' then (trim (type.takeWhile (· != '(')), type.dropWhile (· != '('))
  else (type, [])

def isFlagName (name : List Char) : Bool :=
  ["IS_", "HAS_", "CAN_"].any (fun start => start.toList.isPrefixOf name) ||
    ["ACTIVE", "ENABLED", "PUBLISHED", "COMPLETED"].any fun word => occursIn word.toList name

def signModifier : Pattern :=
  .ofList [.blanks, .edge, .either (.letters "UNSIGNED") (.letters "ZEROFILL"), .edge]

def isListMark (c : Char) : Bool := c == '(' || c == ',' || c == ')'

def tighten : Option Char → List Char → List Char
  | _, [] => []
  | before, c :: rest =>
    if c == ' ' && (before.any isListMark || rest.head?.any isListMark) then tighten before rest
    else c :: tighten (some c) rest

/-- The type without sign modifiers and without the spaces that carry no meaning. -/
def cleanType (type : List Char) : List Char :=
  tighten none (squeeze (signModifier.replaceAll [] type))

/-- The canonical form of a clean type with an upper case bare name and its parameters; `none`
for a type that is not known. -/
def canonicalType? (columnName : List Char) (base params : String) : Option String :=
  let whole := base ++ params
  let first := String.ofList (base.toList.takeWhile (· != ' '))
  let holds := fun (word : String) => occursIn word.toList base.toList
  if whole = "CHAR(36)" || whole = "UUID" then some "UUID"
  else if (base = "VARCHAR" || base = "CHAR") && "_UUID".toList.isSuffixOf columnName then some "UUID"
  else if temporalTypes.contains first then some first
  else if holds "TEXT" && holds "LONG" then some "LONGTEXT"
  else if holds "TEXT" && holds "MEDIUM" then some "MEDIUMTEXT"
  else if holds "TEXT" && holds "TINY" then some "TINYTEXT"
  else if textTypes.contains base then some "TEXT"
  else if base = "JSON" then some "JSON"
  else if numericTypes.contains base then
    some (if whole = "TINYINT(1)" && isFlagName columnName then "BOOLEAN" else whole)
  else if base = "SERIAL" then some "BIGINT"
  else if base = "BOOL" || base = "BOOLEAN" then some "BOOLEAN"
  else if stringTypes.contains base then some whole
  else if binaryTypes.contains base then some base
  else if base = "INET" then some "VARCHAR"
  else if base = "XML" then some "TEXT"
  else none

/-- The canonical spelling of the declared type of a column; an unknown type in lower case. -/
def normalizeType (columnName type : String) : String :=
  let stripped := trim type.toList
  let (base, params) := splitType stripped
  let valueBase := String.ofList (upper base)
  if valueListTypes.contains valueBase then valueBase ++ String.ofList params
  else
    let clean := cleanType stripped
    let (base, params) := splitType clean
    let base := String.ofList (upper base)
    (canonicalType? (upper columnName.toList) ((typeAliases.lookup base).getD base)
      (String.ofList (upper params))).getD (String.ofList (lower clean))

end DdlSchema.Schema
