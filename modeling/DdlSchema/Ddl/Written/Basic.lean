import DdlSchema.Ddl.Keyword
import DdlSchema.Ddl.Tree

/-! The written form of the smallest parts of a statement: names, literals, types, operators,
intervals and sort keys. Without a dialect they have a form common to all. -/

set_option autoImplicit false

namespace DdlSchema.Ddl

open DdlSchema.Text

/-- Doubles every mark `quote`. -/
def doubled (quote : Char) (text : List Char) : List Char :=
  text.flatMap fun c => if c == quote then [c, c] else [c]

def quotedWith (quote : Char) (text : String) : String :=
  String.ofList (quote :: (doubled quote text.toList ++ [quote]))

def backslashed (c : Char) : List Char :=
  match c with
  | '\\' => ['\\', '\\']
  | '\n' => ['\\', 'n']
  | '\r' => ['\\', 'r']
  | '\t' => ['\\', 't']
  | '\x08' => ['\\', 'b']
  | '\x00' => ['\\', '0']
  | '\x1a' => ['\\', 'Z']
  | c => [c]

def printString (dialect : Option Dialect) (value : String) : String :=
  let content := if dialect = some .mysql then value.toList.flatMap backslashed else value.toList
  quotedWith '\x27' (String.ofList content)

def needsQuotes (dialect : Option Dialect) (text : String) : Bool :=
  if dialect = some .mysql then isKeptByMysql (String.ofList (lower text.toList))
  else text.toList.head?.any isDecimal

def printName (dialect : Option Dialect) (name : Name) : String :=
  let quote := if dialect = some .mysql then '\x60' else '\x22'
  if name.quoted || needsQuotes dialect name.text then quotedWith quote name.text else name.text

def printNames (names : List Name) : String :=
  String.intercalate ", " (names.map (printName none))

def codedLetter : TokenKind → String
  | .nationalString => "N"
  | .hexString => "x"
  | .bitString => "b"
  | .byteString => "e"
  | _ => ""

def codedNumber (base : Nat) (digits : String) : Nat :=
  digits.toList.foldl (fun total c =>
    total * base + (if c.isDigit then c.toNat - 48 else c.toLower.toNat - 87)) 0

def codedCharacterText (c : Char) : List Char :=
  match (controlLetters.map Prod.swap).lookup c with
  | some letter => ['\\', letter]
  | none =>
    if c == '\\' then ['\\', '\\']
    else if c.toNat < 0x20 then
      let digits := Nat.toDigits 16 c.toNat
      ['\\', 'x'] ++ (if digits.length < 2 then '0' :: digits else digits)
    else [c]

/-- A text in which characters are written by their codes; only PostgreSQL writes it as it is. -/
def printUnicode (dialect : Option Dialect) (value : String) : String :=
  let coded := fun (c next : Char) => if c == '\\' && next.isDigit then ['\\', 'u'] else [c]
  let cs := value.toList
  if dialect = some .postgresql then "U&'" ++ value ++ "'"
  else "'" ++ String.ofList ((cs.zipWith coded (cs.tail ++ [' '])).flatten) ++ "'"

def printCoded (dialect : Option Dialect) (kind : TokenKind) (value : String) : String :=
  match dialect, kind with
  | none, .hexString => toString (codedNumber 16 value)
  | none, .bitString => toString (codedNumber 2 value)
  | _, .byteString =>
    codedLetter kind ++ quotedWith '\x27' (String.ofList (value.toList.flatMap codedCharacterText))
  | _, .unicodeString => printUnicode dialect value
  | _, _ => codedLetter kind ++ quotedWith '\x27' value

def commaJoined (parts : List String) : String := String.intercalate ", " parts

def inParens (inside : String) : String := "(" ++ inside ++ ")"

def printMoment (dialect : Option Dialect) (moment : Moment) (arguments : List String) : String :=
  let call := fun (word : String) => word ++ inParens (commaJoined arguments)
  match moment, dialect with
  | .timestamp, some .postgresql | .timestamp, some .sqlite => "CURRENT_TIMESTAMP"
  | .timestamp, _ => call "CURRENT_TIMESTAMP"
  | .date, none => if arguments.isEmpty then "CURRENT_DATE" else call "CURRENT_DATE"
  | .date, some .sqlite => "CURRENT_DATE"
  | .date, _ =>
    "CURRENT_DATE" ++ String.join (arguments.map fun zone => " AT TIME ZONE " ++ zone)
  | .time, some .sqlite => "CURRENT_TIME"
  | .time, _ => call "CURRENT_TIME"

def dialectTypeName (dialect : Option Dialect) (name : String) : String :=
  let shared : List (String × String) :=
    [("NCHAR", "CHAR"), ("NVARCHAR", "VARCHAR"), ("MEDIUMTEXT", "TEXT"), ("LONGTEXT", "TEXT"),
      ("TINYTEXT", "TEXT"), ("BLOB", "VARBINARY"), ("MEDIUMBLOB", "BLOB"), ("LONGBLOB", "BLOB"),
      ("TINYBLOB", "BLOB")]
  let renamed : List (String × String) := match dialect with
    | none => shared
    | some .postgresql =>
      [("DOUBLE", "DOUBLE PRECISION"), ("FLOAT", "REAL"), ("DATETIME", "TIMESTAMP"),
        ("BLOB", "BYTEA"), ("BINARY", "BYTEA"), ("VARBINARY", "BYTEA"), ("TINYINT", "SMALLINT"),
        ("TIMESTAMPNTZ", "TIMESTAMP")] ++ shared
    | some .mysql =>
      [("NCHAR", "CHAR"), ("NVARCHAR", "VARCHAR"), ("TIMESTAMP", "DATETIME"),
        ("TIMESTAMPTZ", "TIMESTAMP"), ("TIMESTAMPLTZ", "TIMESTAMP"), ("TIMESTAMPNTZ", "DATETIME"),
        ("UBIGINT", "BIGINT"), ("UINT", "INT"), ("USMALLINT", "SMALLINT"), ("UTINYINT", "TINYINT"),
        ("UMEDIUMINT", "MEDIUMINT"), ("UDECIMAL", "DECIMAL"), ("UDOUBLE", "DOUBLE")]
    | some .sqlite =>
      [("BOOLEAN", "INTEGER"), ("TINYINT", "INTEGER"), ("SMALLINT", "INTEGER"), ("INT", "INTEGER"),
        ("BIGINT", "INTEGER"), ("FLOAT", "REAL"), ("DOUBLE", "REAL"), ("DECIMAL", "REAL"),
        ("CHAR", "TEXT"), ("NCHAR", "TEXT"), ("VARCHAR", "TEXT"), ("NVARCHAR", "TEXT"),
        ("BINARY", "BLOB"), ("VARBINARY", "BLOB"), ("BLOB", "BLOB")] ++ shared
  (renamed.lookup name).getD name

def castTypeName (dialect : Option Dialect) (name : String) : String :=
  if dialect != some .mysql then name
  else if ["LONGTEXT", "LONGBLOB", "MEDIUMBLOB", "MEDIUMTEXT", "TEXT", "TINYBLOB", "TINYTEXT",
      "VARCHAR"].contains name then "CHAR"
  else if ["BIGINT", "BOOLEAN", "INT", "SMALLINT", "TINYINT", "MEDIUMINT"].contains name then
    "SIGNED"
  else if name == "UBIGINT" then "UNSIGNED"
  else name

def sizedTypeName (dialect : Option Dialect) (name : String) (parameters : List Expr) : String :=
  let isSized := !parameters.isEmpty && (name == "FLOAT" || name == "DOUBLE")
  if dialect = some .postgresql && isSized then "FLOAT" else dialectTypeName dialect name

def withParameters (name : String) (parameters : List String) (separator : String) : String :=
  if parameters.isEmpty then name
  else name ++ "(" ++ String.intercalate separator parameters ++ ")"

/-- A type with its parameters. MySQL says behind them that it has no sign, and has no text of changing
length without a bound. -/
def sizedType (dialect : Option Dialect) (name : String) (raw : List Expr)
    (parameters : List String) : String :=
  let isUnsigned := dialect = some .mysql &&
    ["UBIGINT", "UINT", "USMALLINT", "UTINYINT", "UMEDIUMINT", "UDECIMAL", "UDOUBLE"].contains name
  if dialect = some .mysql && name == "VARCHAR" && raw.isEmpty then "TEXT"
  else withParameters (sizedTypeName dialect name raw) parameters ", " ++
    (if isUnsigned then " UNSIGNED" else "")

def printUnary (operator operand : String) : String :=
  if operator == "!" then "NOT " ++ operand
  else if operator.toList.any Char.isAlpha then operator ++ " " ++ operand
  else if operator == "-" && "-".toList.isPrefixOf operand.toList then "- " ++ operand
  else operator ++ operand

def callOf (name : String) (arguments : List String) : String :=
  name ++ inParens (commaJoined arguments)

def printBinary (dialect : Option Dialect) (operator remarks left right : String) : String :=
  let infixed := fun (symbol : String) => left ++ " " ++ symbol ++ remarks ++ " " ++ right
  match operator, dialect with
  | ".", _ => left ++ "." ++ right
  | ":", some .mysql | ":", some .sqlite => left ++ ", " ++ right
  | ":", _ => left ++ ": " ++ right
  | "^", some .postgresql => infixed "#"
  | "safe /", none => left ++ " / NULLIF(" ++ right ++ ", 0)"
  | "safe /", _ => infixed "/"
  | "DIV", some .sqlite => "CAST(CAST(" ++ left ++ " AS REAL) / " ++ right ++ " AS INTEGER)"
  | "RLIKE", some .postgresql => infixed "~"
  | "RLIKE", some .sqlite => infixed "REGEXP"
  | "RLIKE", _ => callOf "REGEXP_LIKE" [left, right]
  | "~*", some .postgresql => infixed "~*"
  | "~*", _ => callOf "REGEXP_I_LIKE" [left, right]
  | "ILIKE", some .mysql | "ILIKE", some .sqlite =>
    "LOWER(" ++ left ++ ") LIKE LOWER(" ++ right ++ ")"
  | "NOT ILIKE", some .mysql | "NOT ILIKE", some .sqlite =>
    "NOT LOWER(" ++ left ++ ") LIKE LOWER(" ++ right ++ ")"
  | "AT TIME ZONE", some .mysql => left
  | "IS DISTINCT FROM", some .mysql => "NOT " ++ infixed "<=>"
  | "IS NOT DISTINCT FROM", some .mysql => infixed "<=>"
  | "IS DISTINCT FROM", some .sqlite => infixed "IS NOT"
  | "IS NOT DISTINCT FROM", some .sqlite => infixed "IS"
  | "->", some .mysql | "->", none => callOf "JSON_EXTRACT" [left, right]
  | "->>", none => callOf "JSON_EXTRACT_SCALAR" [left, right]
  | "#>", none => callOf "JSONB_EXTRACT" [left, right]
  | "#>>", none => callOf "JSONB_EXTRACT_SCALAR" [left, right]
  | "?", none => callOf "JSONB_CONTAINS" [left, right]
  | "@>", some .mysql => callOf "ARRAY_CONTAINS_ALL" [left, right]
  | _, _ => infixed operator

/-- Units of time that MySQL only has in the singular. -/
def singularUnit (unit : String) : String :=
  ([("DAYS", "DAY"), ("HOURS", "HOUR"), ("MINUTES", "MINUTE"), ("MONTHS", "MONTH"),
    ("QUARTERS", "QUARTER"), ("SECONDS", "SECOND"), ("WEEKS", "WEEK"), ("YEARS", "YEAR"),
    ("MICROSECONDS", "MICROSECOND"), ("MILLISECONDS", "MILLISECOND")].lookup unit).getD unit

/-- `amount` is given as it is printed and, where it has one, by its name; a span has two units. -/
def printInterval (dialect : Option Dialect) (amount : Option (String × String))
    (isWrapped isSpan : Bool) (unit : Option String) : String :=
  let unit := if dialect = some .mysql then unit.map singularUnit else unit
  let tail := unit.elim "" (" " ++ ·)
  match amount with
  | none => "INTERVAL" ++ tail
  | some (printed, name) =>
    if dialect = some .postgresql then
      if name.isEmpty then "INTERVAL" ++ tail
      else if isSpan then "INTERVAL " ++ quotedWith '\x27' name ++ tail
      else "INTERVAL " ++ quotedWith '\x27' (name ++ tail)
    else "INTERVAL " ++ (if isWrapped then inParens printed else printed) ++ tail

/-- A sort key with its direction and, where it is not the usual one, the place of its nulls. Without
a dialect nulls count as small, in PostgreSQL as large. MySQL has no words for the place: there
another key comes first, unless the key is the number of a column. -/
def printSorted (dialect : Option Dialect) (key : String) (isPlace : Bool)
    (descending : Option Bool) (nullsFirst : Bool) : String :=
  let directed := key ++ (match descending with
    | some true => " DESC"
    | some false => " ASC"
    | none => "")
  let isDescending := descending == some true
  let usual := if dialect = some .postgresql then isDescending else !isDescending
  if nullsFirst == usual then directed
  else if dialect = some .mysql then
    if isPlace then directed
    else "CASE WHEN " ++ key ++ " IS NULL THEN 1 ELSE 0 END" ++ (if nullsFirst then " DESC, " else ", ") ++
      directed
  else directed ++ (if nullsFirst then " NULLS FIRST" else " NULLS LAST")

def amountName (amount : Expr) : String :=
  match amount.bare with
  | .column _ own => own.text
  | .unary _ operand => operand.leafText
  | .paren inner => inner.leafText
  | value => value.leafText

def isPlainAmount (amount : Expr) : Bool :=
  match amount.bare with
  | .column _ _ | .number _ | .text _ | .unary "-" _ | .paren _ => true
  | _ => false

end DdlSchema.Ddl
