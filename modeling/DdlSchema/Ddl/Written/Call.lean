import DdlSchema.Ddl.ClockFormat
import DdlSchema.Ddl.Function
import DdlSchema.Ddl.Written.Basic

/-! The written form of calls of known functions, some of which a dialect writes as an operator or
not as a call at all. -/

set_option autoImplicit false

namespace DdlSchema.Ddl

open DdlSchema.Text

def printTrim (dialect : Option Dialect) (side : String) (arguments : List String) : String :=
  let isPhrase := dialect = some .postgresql || dialect = some .mysql
  match arguments with
  | [value, removed] =>
    if isPhrase then
      let lead := match side with
        | "LTRIM" => "LEADING "
        | "RTRIM" => "TRAILING "
        | "BTRIM" => "BOTH "
        | _ => ""
      "TRIM(" ++ lead ++ removed ++ " FROM " ++ value ++ ")"
    else callOf (if side == "BTRIM" then "TRIM" else side) arguments
  | _ => callOf (if side == "BTRIM" then "TRIM" else side) arguments

def Expr.isFraction? : Expr → Option Bool
  | .number digits => some (digits.toList.any fun c => !c.isDigit)
  | .paren inner => inner.isFraction?
  | .unary _ operand => operand.isFraction?
  | .remark operand _ => operand.isFraction?
  | .binary operator left right =>
    if ["+", "-", "*", "/", "%", "safe /"].contains operator then
      match left.isFraction?, right.isFraction? with
      | some first, some second => some (first || second)
      | _, _ => none
    else none
  | .cast _ (.known title _) => if title == "DOUBLE" then some true else none
  | .known title _ => if isFractional title then some true else none
  | _ => none

def writeTemplate (dialect : Option Dialect) (raw : Expr) (printed : String) : String :=
  match dialect, raw.bare with
  | some dialect, .text template => printString (some dialect) (writeClockFormat dialect template)
  | _, _ => printed

def templateFunction (dialect : Option Dialect) (name : String) : String :=
  let renamed : List (String × String) := match dialect with
    | none => []
    | some .postgresql =>
      [("TIME_TO_STR", "TO_CHAR"), ("STR_TO_DATE", "TO_DATE"), ("STR_TO_TIME", "TO_TIMESTAMP"),
        ("UNIX_TO_TIME", "TO_TIMESTAMP")]
    | some .mysql =>
      [("TIME_TO_STR", "DATE_FORMAT"), ("STR_TO_TIME", "STR_TO_DATE"),
        ("UNIX_TO_TIME", "FROM_UNIXTIME")]
    | some .sqlite => [("TIME_TO_STR", "STRFTIME")]
  (renamed.lookup name).getD name

def isServer (dialect : Option Dialect) : Bool :=
  dialect = some .postgresql || dialect = some .mysql

def printAge (later earlier unit : String) : String :=
  let moment := fun (value : String) => "CAST(" ++ value ++ " AS TIMESTAMP)"
  let span := moment later ++ " - " ++ moment earlier
  let age := callOf "AGE" [moment later, moment earlier]
  let years := "EXTRACT(year FROM " ++ age ++ ")"
  let months := "EXTRACT(month FROM " ++ age ++ ")"
  let ratio : Option String := [("MICROSECOND", " * 1000000"), ("MILLISECOND", " * 1000"), ("SECOND", ""),
    ("MINUTE", " / 60"), ("HOUR", " / 3600"), ("DAY", " / 86400")].lookup unit
  let counted := match ratio, unit with
    | some ratio, _ => "EXTRACT(epoch FROM " ++ span ++ ")" ++ ratio
    | none, "WEEK" => "EXTRACT(days FROM (" ++ span ++ ")) / 7"
    | none, "MONTH" => years ++ " * 12 + " ++ months
    | none, "QUARTER" => years ++ " * 4 + " ++ months ++ " / 3"
    | none, "YEAR" => years
    | none, _ => age
  "CAST(" ++ counted ++ " AS BIGINT)"

def printDays (later earlier unit : String) : String :=
  let ratio : Option String := [("MONTH", " / 30.0"), ("YEAR", " / 365.0"), ("HOUR", " * 24.0"),
    ("MINUTE", " * 1440.0"), ("SECOND", " * 86400.0"), ("MILLISECOND", " * 86400000.0"),
    ("MICROSECOND", " * 86400000000.0"), ("NANOSECOND", " * 8640000000000.0")].lookup unit
  "CAST((JULIANDAY(" ++ later ++ ") - JULIANDAY(" ++ earlier ++ "))" ++ ratio.getD "" ++ " AS INTEGER)"

def printDifference (dialect : Option Dialect) (later earlier unit : String)
    (arguments : List String) : String :=
  match dialect with
  | some .postgresql => printAge later earlier unit
  | some .sqlite => printDays later earlier unit
  | some .mysql => callOf "DATEDIFF" [later, earlier]
  | none => callOf "DATEDIFF" arguments

def printMoved (name : String) (amount : Expr) (value printed : String) (unit : Option String) :
    String :=
  let interval := printInterval (some .mysql) (some (printed, amountName amount))
    (!isPlainAmount amount) false (some (unit.getD "DAY"))
  callOf name [value, interval]

/-- A date moved by an amount; PostgreSQL has an operator for it, and SQLite a text. -/
def printShift (dialect : Option Dialect) (name symbol : String) (amount : Expr)
    (value printed : String) (unit : Option String) : String :=
  match dialect with
  | some .postgresql =>
    let shown := match amount.bare with
      | .interval _ _ => printed
      | amount => printInterval dialect (some (printed, amountName amount)) false false unit
    value ++ " " ++ symbol ++ " " ++ shown
  | some .mysql => printMoved name amount value printed unit
  | some .sqlite =>
    if symbol == "+" then
      let modifier := match amount.bare with
        | .text content => content
        | _ => printed
      callOf "DATE" [value, "'" ++ modifier ++ unit.elim "" (" " ++ ·) ++ "'"]
    else callOf name (value :: printed :: unit.toList)
  | none => callOf name (value :: printed :: unit.toList)

def printDate (value : Expr) (printed : String) : String :=
  match value with
  | .known "DATE_OF" _ | .known "WHOLE_DATE" _ | .cast _ (.known "DATE" _) => printed
  | _ => "CAST(" ++ printed ++ " AS DATE)"

def pathParts (path : List Char) : List String :=
  let parts := path.splitBy fun _ next => next != '.' && next != '['
  (parts.map fun part => String.ofList (part.filter fun c => c != '.' && c != '[' && c != ']')).filter
    fun part => part != "$" && part != ""

def printExtraction (dialect : Option Dialect) (name value : String) (path : Expr) (printed : String) :
    String :=
  let word := if name == "JSON_EXTRACT" then "JSON_EXTRACT_PATH" else "JSON_EXTRACT_PATH_TEXT"
  match dialect, path.bare with
  | some .postgresql, .text steps =>
    callOf word (value :: (pathParts steps.toList).map (quotedWith '\x27'))
  | some .postgresql, _ => callOf word [value, printed]
  | _, _ => callOf name [value, printed]

/-- The moment in the zone that all clocks follow; only MySQL has functions of its own for it. -/
def printUniversal (dialect : Option Dialect) (moment : Moment) (name : String)
    (arguments : List String) : String :=
  if dialect = some .mysql && moment != .date then callOf name arguments
  else printMoment dialect moment [quotedWith '\x27' "UTC"]

/-- Rows put together; a separator that is not given is a comma. SQLite is given no
order of the rows. -/
def printJoined (dialect : Option Dialect) (value order separator : String) : String :=
  let given := if separator.isEmpty then quotedWith '\x27' "," else separator
  match dialect with
  | some .postgresql => "STRING_AGG(" ++ value ++ ", " ++ given ++ order ++ ")"
  | some .mysql => "GROUP_CONCAT(" ++ value ++ order ++ " SEPARATOR " ++ given ++ ")"
  | some .sqlite => callOf "GROUP_CONCAT" (value :: (if separator.isEmpty then [] else [separator]))
  | none =>
    callOf "GROUP_CONCAT" ((value ++ order) :: (if separator.isEmpty then [] else [separator]))

def printUnitStart (unit value : String) : String :=
  let dated := fun (parts template : String) =>
    callOf "STR_TO_DATE" [callOf "CONCAT" ["YEAR" ++ inParens value, parts], quotedWith '\x27' template]
  match upperString unit with
  | "WEEK" => dated ("' ', WEEK(" ++ value ++ ", 1), ' 1'") "%Y %u %w"
  | "MONTH" => dated ("' ', MONTH(" ++ value ++ "), ' 1'") "%Y %c %e"
  | "QUARTER" => dated ("' ', QUARTER(" ++ value ++ ") * 3 - 2, ' 1'") "%Y %c %e"
  | "YEAR" => dated "' 1 1'" "%Y %c %e"
  | _ => callOf "DATE" [value]

def printNested (name : String) : List String → String
  | [] => callOf name []
  | [only] => callOf name [only]
  | [first, second] => callOf name [first, second]
  | first :: rest => callOf name [first, printNested name rest]

def printMonthEnd (value : String) : String :=
  "CAST(DATE_TRUNC('MONTH', " ++ value ++ ") + INTERVAL '1 MONTH' - INTERVAL '1 DAY' AS DATE)"

/-- The value below which a part of the rows lies; PostgreSQL has the rows in their order. -/
def printPercentile (dialect : Option Dialect) (name value part : String) : String :=
  if dialect = some .postgresql then name ++ inParens part ++ " WITHIN GROUP (ORDER BY " ++ value ++ ")"
  else callOf name [value, part]

def printDigest (value : String) (length : List String) : String :=
  callOf ("SHA" ++ length.headD "256") [value]

def printMatch (dialect : Option Dialect) (wanted mode : String) (columns : List String) : String :=
  if dialect = some .postgresql then
    let tests := columns.map (· ++ " @@ " ++ wanted)
    let joined := " OR ".intercalate tests
    if tests.length > 1 then inParens joined else joined
  else callOf "MATCH" columns ++ " AGAINST(" ++ wanted ++ mode ++ ")"

def printFrame (dialect : Option Dialect) (kind first last : String) (excluded : List String) :
    String :=
  let canExclude := dialect = some .postgresql || dialect = some .sqlite
  if dialect = some .sqlite && kind == "RANGE" && first == "CURRENT ROW" then "RANGE CURRENT ROW"
  else kind ++ " BETWEEN " ++ first ++ " AND " ++ last ++
    (if canExclude then String.join (excluded.map (" EXCLUDE " ++ ·)) else "")

def printSymmetric (dialect : Option Dialect) (value low high : String) : String :=
  if dialect = some .postgresql then value ++ " BETWEEN SYMMETRIC " ++ low ++ " AND " ++ high
  else
    let test := fun (low high : String) => value ++ " BETWEEN " ++ low ++ " AND " ++ high
    inParens (test low high ++ " OR " ++ test high low)

/-- Whether an array holds a value. In PostgreSQL the answer is unknown for an unknown value only. -/
def printMember (dialect : Option Dialect) (array value : String) (isOperation : Bool) : String :=
  if dialect = some .postgresql then
    let wanted := if isOperation then inParens value else value
    "CASE WHEN " ++ value ++ " IS NULL THEN NULL ELSE " ++
      callOf "COALESCE" [wanted ++ " = ANY" ++ inParens array, "FALSE"] ++ " END"
  else callOf "ARRAY_CONTAINS" [array, value]

def printPlainness (dialect : Option Dialect) (value : String) : String :=
  let pattern := quotedWith '\x27' "^[[:ascii:]]*$"
  match dialect with
  | some .postgresql => inParens (value ++ " ~ " ++ pattern)
  | some .mysql => callOf "REGEXP_LIKE" [value, pattern]
  | some .sqlite => "(NOT " ++ value ++ " GLOB CAST(x'2a5b5e012d7f5d2a' AS TEXT))"
  | none => callOf "IS_ASCII" [value]

/-- A moment cut off to a unit, which MySQL counts from the first of all moments. -/
def printCut (unit value : String) : String :=
  let start := quotedWith '\x27' "0000-01-01 00:00:00"
  let count := callOf "TIMESTAMPDIFF" [unit, start, value]
  callOf "DATE_ADD" [start, "INTERVAL " ++ inParens count ++ " " ++ unit]

def momentField? (name : String) : Option String :=
  [("DAY", "DAY"), ("DAYOFWEEK_ISO", "ISODOW"), ("DAY_OF_MONTH", "DAY"), ("DAY_OF_WEEK", "DOW"),
    ("DAY_OF_YEAR", "DOY"), ("HOUR", "HOUR"), ("MINUTE", "MINUTE"), ("MONTH", "MONTH"),
    ("QUARTER", "QUARTER"), ("SECOND", "SECOND"), ("WEEK", "WEEK"), ("WEEK_OF_YEAR", "WEEK"),
    ("YEAR", "YEAR")].lookup name

def printNamed (dialect : Option Dialect) (name : String) (arguments : List String) : String :=
  let word := writtenFunction dialect name
  if isWrittenBare dialect name arguments.length then word else callOf word arguments

def printKnown (dialect : Option Dialect) (name : String) (raw : List Expr)
    (arguments : List String) : String :=
  match name, raw, arguments with
  | "ARRAY_CONCAT", _, arguments =>
    if dialect = some .postgresql then printNested (writtenFunction dialect name) arguments
    else callOf name arguments
  | "ARRAY_CONTAINS", [_, wanted], [array, value] =>
    let isOperation := match wanted with
      | .binary _ _ _ => true
      | _ => false
    printMember dialect array value isOperation
  | "BETWEEN ASYMMETRIC", _, [value, low, high] =>
    value ++ (if dialect = some .postgresql then " BETWEEN ASYMMETRIC " else " BETWEEN ") ++ low ++
      " AND " ++ high
  | "BETWEEN SYMMETRIC", _, [value, low, high] => printSymmetric dialect value low high
  | "CURRENT_SCHEMA", _, _ =>
    match dialect with
    | some .sqlite => quotedWith '\x27' "main"
    | some .mysql => callOf "SCHEMA" []
    | _ => printNamed dialect name arguments
  | "FRAME", _, kind :: first :: last :: excluded => printFrame dialect kind first last excluded
  | "IGNORE NULLS", _, [value] => if dialect.isSome then value else value ++ " " ++ name
  | "RESPECT NULLS", _, [value] =>
    if dialect = some .postgresql || dialect = some .sqlite then value else value ++ " " ++ name
  | "IS_ASCII", _, [value] => printPlainness dialect value
  | "LAST_DAY", _, value :: _ =>
    if dialect = some .postgresql then printMonthEnd value
    else callOf name (if dialect = some .mysql then [value] else arguments)
  | "MEDIAN", _, [value] =>
    if dialect.isNone then callOf name arguments
    else printPercentile dialect "PERCENTILE_CONT" value "0.5"
  | "PERCENTILE_CONT", _, [value, part] | "PERCENTILE_DISC", _, [value, part] =>
    printPercentile dialect name value part
  | "NVL2", _, value :: result :: otherwise =>
    if dialect.isNone then callOf name arguments
    else "CASE WHEN NOT " ++ value ++ " IS NULL THEN " ++ result ++
      String.join (otherwise.map (" ELSE " ++ ·)) ++ " END"
  | "REGEXP_LIKE", _, value :: pattern :: _ =>
    if dialect = some .postgresql || dialect = some .sqlite then
      printBinary dialect "RLIKE" "" value pattern
    else callOf name arguments
  | "SPACE", _, [count] => callOf "REPEAT" [quotedWith '\x27' " ", count]
  | "EXTRACT", field :: _, [unit, value] =>
    if dialect = some .mysql && upperString field.leafText == "EPOCH" then
      callOf "UNIX_TIMESTAMP" [value]
    else "EXTRACT(" ++ unit ++ " FROM " ++ value ++ ")"
  | "IF", _, condition :: result :: otherwise =>
    if dialect = some .mysql || dialect = some .sqlite then
      callOf (writtenFunction dialect name) arguments
    else
      "CASE WHEN " ++ condition ++ " THEN " ++ result ++
        String.join (otherwise.map (" ELSE " ++ ·)) ++ " END"
  | "ARRAY_SIZE", _, value :: dimension =>
    let first := if dialect = some .postgresql then ["1"] else []
    let isDropped := dialect = some .mysql || dialect = some .sqlite
    let shown := if dimension.isEmpty then first else if isDropped then [] else dimension
    callOf (writtenFunction dialect name) (value :: shown)
  | "GROUP_CONCAT", _, [value, order, separator] => printJoined dialect value order separator
  | "DATE_TRUNC", unit :: _, _ :: value :: _ =>
    if dialect = some .mysql then printUnitStart unit.leafText value else callOf name arguments
  | "CONVERT_TIMEZONE", _, _ =>
    if dialect = some .mysql then
      callOf "CONVERT_TZ" (arguments.getLast?.toList ++ arguments.dropLast)
    else callOf name arguments
  | "COUNT_IF", _, [condition] =>
    match dialect with
    | some .postgresql => "sum(CASE WHEN " ++ condition ++ " THEN 1 ELSE 0 END)"
    | some .sqlite => "sum(IIF(" ++ condition ++ ", 1, 0))"
    | _ => callOf name arguments
  | "DATEDIFF", _, later :: earlier :: rest =>
    printDifference dialect later earlier (rest.headD "") arguments
  | "DATE_OF", [value], [printed] => if dialect = some .mysql then printed else printDate value printed
  | "WHOLE_DATE", [value], [printed] =>
    if dialect = some .mysql then callOf "DATE" [printed] else printDate value printed
  | "DATE_ADD", _ :: amount :: _, value :: printed :: unit =>
    printShift dialect name "+" amount value printed unit.head?
  | "DATE_SUB", _ :: amount :: _, value :: printed :: unit =>
    printShift dialect name "-" amount value printed unit.head?
  | "JSON_ARRAY_CONTAINS", _, [value, document] =>
    if dialect = some .mysql then value ++ " MEMBER OF(" ++ document ++ ")" else callOf name arguments
  | "JSON_EXTRACT", [_, path], [value, printed]
  | "JSON_EXTRACT_SCALAR", [_, path], [value, printed] =>
    printExtraction dialect name value path printed
  | "LEAST", _, _ :: _ :: _ =>
    callOf (if dialect = some .sqlite then "MIN" else name) arguments
  | "LOWER_HEX", _, [value] => callOf "LOWER" [callOf "HEX" [value]]
  | "MATCH", _, wanted :: mode :: columns => printMatch dialect wanted mode columns
  | "MAX", _, _ :: _ :: _ => callOf (if isServer dialect then "GREATEST" else name) arguments
  | "MIN", _, _ :: _ :: _ => callOf (if isServer dialect then "LEAST" else name) arguments
  | "ROUND", [value, _], [printed, places] =>
    if dialect = some .postgresql && value.isFraction? == some true then
      callOf name ["CAST(" ++ printed ++ " AS DECIMAL)", places]
    else callOf name arguments
  | "SHA2", _, value :: length =>
    if dialect = some .postgresql then
      callOf "ENCODE" [printDigest value length, quotedWith '\x27' "hex"]
    else callOf name arguments
  | "SHA2_DIGEST", _, value :: length =>
    if dialect = some .postgresql then printDigest value length else callOf name arguments
  | "STR_POSITION", _, value :: part :: start =>
    if dialect = some .postgresql && start.isEmpty then "POSITION(" ++ part ++ " IN " ++ value ++ ")"
    else if dialect = some .mysql then callOf "LOCATE" (part :: value :: start)
    else if dialect = some .sqlite && start.isEmpty then callOf "INSTR" [value, part]
    else callOf name arguments
  | "SUBSTRING", _, value :: start :: length =>
    if dialect = some .postgresql then
      "SUBSTRING(" ++ value ++ " FROM " ++ start ++ String.join (length.map (" FOR " ++ ·)) ++ ")"
    else callOf name arguments
  | "TIMESTAMP_ADD", _ :: amount :: _, value :: printed :: unit =>
    if dialect = some .mysql then printMoved "DATE_ADD" amount value printed unit.head?
    else callOf name arguments
  | "TIMESTAMP_SUB", _ :: amount :: _, value :: printed :: unit =>
    if dialect = some .mysql then printMoved "DATE_SUB" amount value printed unit.head?
    else callOf name arguments
  | "TIMESTAMP_TRUNC", _, value :: unit :: zone =>
    match dialect with
    | some .postgresql => callOf "DATE_TRUNC" ((quotedWith '\x27' unit) :: value :: zone)
    | some .mysql => printCut unit value
    | _ => callOf name arguments
  | "TIME_TO_UNIX", _, [value] =>
    if dialect = some .postgresql then callOf "DATE_PART" [quotedWith '\x27' "epoch", value]
    else callOf name arguments
  | "TRIM", _, _ | "LTRIM", _, _ | "RTRIM", _, _ | "BTRIM", _, _ => printTrim dialect name arguments
  | "TIME_TO_STR", [_, template], [value, printed]
  | "STR_TO_DATE", [_, template], [value, printed]
  | "STR_TO_TIME", [_, template], [value, printed]
  | "UNIX_TO_TIME", [_, template], [value, printed] =>
    if dialect = some .sqlite && name == "TIME_TO_STR" then
      callOf "STRFTIME" [printed, value]
    else callOf (templateFunction dialect name) [value, writeTemplate dialect template printed]
  | "UNIX_TO_TIME", _, _ => callOf (templateFunction dialect name) arguments
  | "PARSE_JSON", _, [value] =>
    match dialect with
    | some .postgresql => "CAST(" ++ value ++ " AS JSON)"
    | some .mysql | some .sqlite => value
    | none => callOf name arguments
  | "TRUNC", _, [value, _] =>
    if dialect = some .sqlite then callOf name [value] else printNamed dialect name arguments
  | "UNICODE", _, [value] =>
    if dialect = some .mysql then "ORD(CONVERT(" ++ value ++ " USING utf32))"
    else callOf (writtenFunction dialect name) arguments
  | "UTC_DATE", _, _ => printUniversal dialect .date name arguments
  | "UTC_TIME", _, _ => printUniversal dialect .time name arguments
  | "UTC_TIMESTAMP", _, _ => printUniversal dialect .timestamp name arguments
  | name, _, arguments =>
    let field := if dialect = some .postgresql then momentField? name else none
    match field, arguments with
    | some field, value :: _ => callOf "EXTRACT" [field ++ " FROM " ++ value]
    | _, _ => printNamed dialect name arguments

end DdlSchema.Ddl
