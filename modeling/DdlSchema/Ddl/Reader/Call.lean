import DdlSchema.Ddl.Amount
import DdlSchema.Ddl.Printer
import DdlSchema.Ddl.Reader.Grammar

/-! What a call stands for. Calls that the dialects spell in different ways have one form here;
a call that no dialect knows keeps its name. -/

set_option autoImplicit false

namespace DdlSchema.Ddl.Reader

open DdlSchema.Text

def momentOf? (word : String) : Option Moment :=
  [("CURRENT_TIMESTAMP", Moment.timestamp), ("CURRENT_DATE", .date), ("CURRENT_TIME", .time)].lookup
    word

def dialectMoment? (dialect : Dialect) (word : String) : Option Moment :=
  match dialect, word with
  | .postgresql, "NOW" => some .timestamp
  | .mysql, "CURDATE" => some .date
  | .mysql, "CURTIME" => some .time
  | _, _ => momentOf? word

def guarded : Expr → Expr
  | .binary operator left right => .paren (.binary operator left right)
  | value => value

def fullUnit (word : String) : String :=
  ([("D", "DAY"), ("H", "HOUR"), ("M", "MINUTE"), ("MS", "MILLISECOND"), ("NS", "NANOSECOND"),
    ("Q", "QUARTER"), ("S", "SECOND"), ("US", "MICROSECOND"), ("W", "WEEK"), ("Y", "YEAR")].lookup
    word).getD word

def unitText (unit : Expr) : String :=
  upperString (fullUnit (match unit.bare with
    | .column _ own => own.text
    | value => value.leafText))

/-- A string or column that stands for a unit of time; anything else is a value. -/
def asUnit (unit : Expr) : Expr :=
  match unit.bare with
  | .column [] _ | .text _ | .number _ | .word _ => .word (unitText unit)
  | _ => unit

def templateCall (dialect : Dialect) (name : String) (value template : Expr) : Expr :=
  match template.bare with
  | .text marks => .known name [value, .text (readClockFormat dialect marks)]
  | _ => .known name [value, template]

def isKeyPart (c : Char) : Bool := c.isAlphanum || c == '_'

def pathKey? (path : List Char) : Option (List Char × List Char) :=
  let key := path.takeWhile isKeyPart
  if key.isEmpty || key.head?.any Char.isDigit then none else some (key, path.drop key.length)

/-- The steps of a path into a document, each with its mark; `none` where the path is not plain. -/
def pathSteps? : Nat → List Char → Option (List Char)
  | _, [] => some []
  | 0, _ => none
  | bound + 1, c :: rest =>
    let keyed := fun (path : List Char) => (pathKey? path).bind fun (key, after) =>
      (pathSteps? bound after).map fun steps => '.' :: key ++ steps
    if c == '.' then keyed rest
    else if c == '[' then
      let digits := rest.takeWhile Char.isDigit
      match rest.drop digits.length with
      | ']' :: after =>
        if digits.isEmpty then none
        else (pathSteps? bound after).map fun steps => '[' :: digits ++ ']' :: steps
      | _ => none
    else keyed (c :: rest)

/-- A plain path from the root of a document; PostgreSQL takes paths as they are. -/
def documentPath (dialect : Dialect) (path : Expr) : Expr :=
  let rooted := fun (steps : List Char) =>
    (pathSteps? (steps.length + 1) steps).map fun steps => Expr.text (String.ofList ('$' :: steps))
  if dialect == .postgresql then path
  else match path.bare with
    | .text content =>
      let steps := content.toList
      (rooted (if steps.head? == some '$' then steps.drop 1 else steps)).getD path
    | .number digits => (rooted ('[' :: digits.toList ++ [']'])).getD path
    | _ => path

def asDocument (dialect : Dialect) (operator : String) (value : Expr) : Expr :=
  let isWanted := dialect == .postgresql || (dialect == .mysql && operator == "->>")
  if isWanted && value.isString then .cast value (.known "JSON" []) else value

def documentStep (dialect : Dialect) (operator : String) (value path : Expr) : Expr :=
  if operator == "->" || operator == "->>" then
    .binary operator (asDocument dialect operator value) (documentPath dialect path)
  else .binary operator value path

/-- Whether one of two conditions holds and not the other, which PostgreSQL has no operator for. -/
def exclusive (dialect : Dialect) (left right : Expr) : Expr :=
  if dialect == .postgresql then
    .binary "OR" (.paren (.binary "AND" left (.paren (.unary "NOT" right))))
      (.paren (.binary "AND" (.paren (.unary "NOT" left)) right))
  else .binary "XOR" left right

/-- A string or moment that is said to be of a type; SQLite has no such types. -/
def asMoment (dialect : Dialect) (type : String) (value : Expr) : Expr :=
  if dialect == .sqlite then value else .cast value (.known type [])

def asInterval (amount : Expr) : Expr :=
  match amount.bare with
  | .text content =>
    match amountParts content.length content.toList with
    | [(count, unit)] => .interval (some (.text count)) (some (.word (fullUnit (upperString unit))))
    | _ => amount
  | _ => amount

def documentOperator? (word : String) : Option String :=
  [("JSONB_CONTAINS", "?"), ("JSONB_EXTRACT", "#>"), ("JSONB_EXTRACT_SCALAR", "#>>")].lookup word

def operatorCall? (word : String) : Option String :=
  [("ARRAY_CONTAINS_ALL", "@>"), ("ARRAY_HAS_ALL", "@>"), ("ARRAY_OVERLAPS", "&&"),
    ("COLLATE", "COLLATE"), ("JSONB_CONTAINS_ALL_TOP_KEYS", "?&"),
    ("JSONB_CONTAINS_ANY_TOP_KEYS", "?|"), ("JSONB_DELETE_AT_PATH", "#-")].lookup word

def pairedCall? (dialect : Dialect) (word : String) (left right : Expr) : Option Expr :=
  let special := if dialect == .postgresql then documentOperator? word else none
  ((special <|> operatorCall? word).map fun operator => .binary operator left right)

def movedDate? (word : String) : List Expr → Option Expr
  | value :: amount :: _ =>
    match amount.bare with
    | .interval (some count) unit => some (.known word [value, count, unit.getD (.word "DAY")])
    | _ => none
  | _ => none

/-- A moment of which MySQL takes the date. -/
def dateOf (value : Expr) : Expr := .known "DATE_OF" [value]

def datedCall? (word : String) (arguments : List Expr) : Option Expr :=
  let shared := [("DAY", "DAY"), ("DAYOFMONTH", "DAY_OF_MONTH"), ("DAYOFWEEK", "DAY_OF_WEEK"),
    ("DAYOFYEAR", "DAY_OF_YEAR"), ("MONTH", "MONTH"), ("WEEKOFYEAR", "WEEK_OF_YEAR"), ("YEAR", "YEAR")]
  match word, arguments with
  | "DATE", value :: _ => some (.known "WHOLE_DATE" [value])
  | "MONTHNAME", [value] => some (.known "TIME_TO_STR" [dateOf value, .text "%B"])
  | "TO_DAYS", [value] =>
    let days := Expr.known "DATEDIFF" [dateOf value, dateOf (.text "0000-01-01"), .word "DAY"]
    some (.paren (.binary "+" days (.number "1")))
  | "WEEK", [value] => some (.known word [dateOf value])
  | "WEEK", [value, mode] => some (.known word [dateOf value, mode])
  | word, [value] => (shared.lookup word).map fun name => .known name [dateOf value]
  | _, _ => none

def shapedCall? (dialect : Dialect) (word : String) (arguments : List Expr) : Option Expr :=
  match word, dialect, arguments with
  | "ARRAY", _, _ => some (.array arguments)
  | "CONVERT_TO_CHARSET", _, _ => some (.known "CONVERT" arguments)
  | "DATE_ADD", .mysql, _ | "DATE_SUB", .mysql, _ => movedDate? word arguments
  | "DATE_STR_TO_DATE", _, [value] => some (asMoment dialect "DATE" value)
  | "DATE_TO_DATE_STR", _, [value] | "TIME_TO_TIME_STR", _, [value] =>
    some (.cast value (.known "TEXT" []))
  | "INT64", _, [value] => some (.cast value (.known "BIGINT" []))
  | "JSON_AGG", .postgresql, [_] => some (.known "JSON_ARRAY_AGG" arguments)
  | "JSON_EXTRACT_PATH_TEXT", .mysql, [value, path]
  | "JSON_EXTRACT_PATH_TEXT", .sqlite, [value, path]
  | "JSON_EXTRACT_SCALAR", .mysql, [value, path]
  | "JSON_EXTRACT_SCALAR", .sqlite, [value, path] =>
    some (.binary "->>" (asDocument dialect "->>" value) (documentPath dialect path))
  | "JSON_EXTRACT_SCALAR", .postgresql, [_, _] => some (.known word arguments)
  | "JSON_KEYS", _, [value, path] => some (.known word [value, documentPath dialect path])
  | "LEFTPAD", .mysql, [value, length] => some (.known "LPAD" [value, length, .text " "])
  | "RIGHTPAD", .mysql, [value, length] => some (.known "RPAD" [value, length, .text " "])
  | "LEFTPAD", _, _ => some (.known "LPAD" arguments)
  | "RIGHTPAD", _, _ => some (.known "RPAD" arguments)
  | "TIME_STR_TO_TIME", _, [value] => some (asMoment dialect "TIMESTAMP" value)
  | "XOR", _, [left, right] => some (exclusive dialect left right)
  | "BTRIM", .postgresql, value :: removed => some (.known "TRIM" (value :: removed))
  | "DATE_BIN", _, size :: value :: unit :: rest =>
    some (.known word (size :: value :: asUnit unit :: rest))
  | "DATE_BIN", _, _ => some (.known word arguments)
  | "DATE_FORMAT", .mysql, [value, template] => some (templateCall dialect "TIME_TO_STR" value template)
  | "DATE_TRUNC", .postgresql, unit :: value :: zone =>
    some (.known "TIMESTAMP_TRUNC" (value :: .word (unitText unit) :: zone))
  | "DATE_TRUNC", _, unit :: rest => some (.known "DATE_TRUNC" (.text (unitText unit) :: rest))
  | "DIV", .postgresql, [left, right] =>
    some (.cast (.known "DIV" [left, right]) (.known "DECIMAL" []))
  | "FROM_UNIXTIME", .mysql, [value, template] =>
    some (templateCall dialect "UNIX_TO_TIME" value template)
  | "GENERATE_SERIES", .postgresql, [first, last, step] =>
    some (.known word [first, last, asInterval step])
  | "GLOB", _, [pattern, value] => some (.binary "GLOB" value pattern)
  | "INSTR", _, _ | "STRPOS", _, _ => some (.known "STR_POSITION" arguments)
  | "ISNULL", .mysql, [value] => some (.paren (.binary "IS" value .null))
  | "JSON_EXTRACT", _, value :: paths => some (.known word (value :: paths.map (documentPath dialect)))
  | "LIKE", _, [pattern, value] => some (.binary "LIKE" value pattern)
  | "LOCATE", _, part :: value :: start | "CHARINDEX", _, part :: value :: start =>
    some (.known "STR_POSITION" (value :: part :: start))
  | "LOG", .mysql, [value] => some (.known "LN" [value])
  | "LOG2", _, [value] => some (.known "LOG" [.number "2", value])
  | "LOG10", _, [value] => some (.known "LOG" [.number "10", value])
  | "LPAD", .mysql, [value, length] => some (.known "LPAD" [value, length, .text " "])
  | "RPAD", .mysql, [value, length] => some (.known "RPAD" [value, length, .text " "])
  | "LTRIM", _, _ | "RTRIM", _, _ => some (.known word arguments)
  | "MOD", _, [left, right] => some (.binary "%" (guarded left) (guarded right))
  | "SHA256", .postgresql, [value] => some (.known "SHA2_DIGEST" [value, .number "256"])
  | "SHA384", .postgresql, [value] => some (.known "SHA2_DIGEST" [value, .number "384"])
  | "SHA512", .postgresql, [value] => some (.known "SHA2_DIGEST" [value, .number "512"])
  | "STRFTIME", .sqlite, [template] =>
    some (.known "TIME_TO_STR" [.moment .timestamp [], template])
  | "STRFTIME", .sqlite, [template, value] => some (.known "TIME_TO_STR" [value, template])
  | "STRFTIME", .sqlite, _ => some (.known word arguments)
  | "STR_TO_DATE", .mysql, [value, template] =>
    some (templateCall dialect "STR_TO_TIME" value template)
  | "TIMESTAMPADD", .mysql, [unit, amount, value] =>
    some (.known "TIMESTAMP_ADD" [value, amount, .word (unitText unit)])
  | "TIMESTAMPDIFF", .mysql, [unit, earlier, later] =>
    some (.known word [.word (unitText unit), earlier, later])
  | "TIMESTAMPDIFF", .mysql, [later, earlier] =>
    some (.known word [.word "DAY", earlier, later])
  | "TO_CHAR", .postgresql, [value, template] =>
    some (templateCall dialect "TIME_TO_STR" value template)
  | "TO_DATE", .postgresql, [value, template] =>
    some (templateCall dialect "STR_TO_DATE" value template)
  | "TO_TIMESTAMP", .postgresql, [value] => some (.known "UNIX_TO_TIME" [value])
  | "TO_TIMESTAMP", .postgresql, [value, template] =>
    some (templateCall dialect "STR_TO_TIME" value template)
  | "UUID", .postgresql, [value] => some (.cast value (.known "UUID" []))
  | "UPPER", _, [.known "HEX" inner] => some (.known "HEX" inner)
  | word, _, [left, right] =>
    pairedCall? dialect word left right <|>
      (dialectMoment? dialect word).map fun moment => .moment moment arguments
  | _, _, _ => (dialectMoment? dialect word).map fun moment => .moment moment arguments

def withUnit (name : String) (arguments : List Expr) : List Expr :=
  match unitPlace? name with
  | some place => arguments.modify place asUnit
  | none => arguments

def checkInterval (token : Token) (arguments : List Expr) : Reader Unit := do
  match (← dialect), arguments with
  | .mysql, _ :: amount :: _ =>
    if ["DATE_ADD", "DATE_SUB"].contains token.upper then
      failPlainly ("INTERVAL expression expected but got '" ++ amount.print none ++ "'")
  | _, _ => return ()

def callNamed (token : Token) (arguments : List Expr) : Reader Expr := do
  let dialect ← dialect
  let dated := if dialect == .mysql then datedCall? token.upper arguments else none
  match dated <|> shapedCall? dialect token.upper arguments with
  | some value => return value
  | none =>
    checkInterval token arguments
    match knownFunction? dialect token.upper with
    | some (name, arity) =>
      match arity with
      | some most =>
        if most < arguments.length then
          fail ("The number of provided arguments (" ++ toString arguments.length ++
            ") is greater than the maximum number of supported arguments (" ++ toString most ++ ")")
        else return .known name (withUnit name arguments)
      | none => return .known name (withUnit name arguments)
    | none => return .call (nameOf token) arguments

def isKnownCall (dialect : Dialect) (word : String) : Bool :=
  (knownFunction? dialect word).isSome || (dialectMoment? dialect word).isSome ||
    (operatorCall? word).isSome || (documentOperator? word).isSome ||
    ["ARRAY", "CHARINDEX", "DATE_BIN", "DATE_TO_DATE_STR", "DATE_TRUNC", "GLOB", "INSTR", "INT64",
      "JSON_EXTRACT", "JSON_EXTRACT_SCALAR", "LEFTPAD", "LIKE", "LOCATE", "LOG10", "LOG2", "LTRIM",
      "MOD", "RIGHTPAD", "RTRIM", "STRPOS", "TIME_TO_TIME_STR", "XOR"].contains word ||
    (match dialect with
      | .postgresql => ["BTRIM", "DIV", "JSON_AGG", "SHA256", "SHA384", "SHA512", "TO_DATE",
          "TO_TIMESTAMP"]
      | .mysql => ["DATE_FORMAT", "ISNULL", "MONTHNAME", "STR_TO_DATE", "TIMESTAMPADD"]
      | .sqlite => ["STRFTIME"]).contains word

end DdlSchema.Ddl.Reader
