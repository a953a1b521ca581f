import DdlSchema.Ddl.Written.Call

/-! The written form of expressions and types, in a dialect or, without one, in a form common to
all. -/

set_option autoImplicit false

namespace DdlSchema.Ddl

open DdlSchema.Text

def printRemarks (comments : List String) : String :=
  let padded := fun (text : String) =>
    let cs := text.toList
    let front := if cs.head?.all fun c => !isBlank c then [' '] else []
    let back := if cs.getLast?.all fun c => !isBlank c then [' '] else []
    String.ofList (front ++ cs ++ back)
  String.join ((comments.filter fun text => !text.isEmpty).map fun text =>
    " /*" ++ padded text ++ "*/")

/-- The places in brackets, as they are and as they are printed. PostgreSQL counts them from one. -/
def printPlaces (dialect : Option Dialect) (operand : Expr) (places : List Expr)
    (printed : List String) : List String :=
  match places.map Expr.wholeNumber? with
  | [some place] =>
    if dialect = some .postgresql && !operand.isNoArray then [toString (place + 1)] else printed
  | _ => printed

def arrayMarks (dialect : Option Dialect) (members : List Expr) : String × String :=
  let isQuery := match members with
    | .query _ :: _ => true
    | _ => false
  if dialect = some .postgresql && !isQuery then ("ARRAY[", "]") else ("ARRAY(", ")")

mutual

/-- The written form of an expression. Calls of functions that no dialect knows are written in upper
case unless `keepsCase` is set. -/
def Expr.printWith (keepsCase : Bool) (dialect : Option Dialect) : Expr → String
  | .number digits => digits
  | .text value => printString dialect value
  | .coded kind value => printCoded dialect kind value
  | .null => "NULL"
  | .truth value => if value then "TRUE" else "FALSE"
  | .star => "*"
  | .word spelling => spelling
  | .name own => printName dialect own
  | .column qualifiers own =>
    String.intercalate "." ((qualifiers ++ [own]).map (printName dialect))
  | .call function arguments =>
    let name := if function.quoted then printName dialect function
      else if keepsCase then function.text else upperString function.text
    callOf name (printAll keepsCase dialect arguments)
  | .known function arguments =>
    printKnown dialect function arguments (printAll keepsCase dialect arguments)
  | .moment kind arguments => printMoment dialect kind (printAll keepsCase dialect arguments)
  | .cast operand type =>
    match dialect, type with
    | some .mysql, .known "TIMESTAMPTZ" _ | some .mysql, .known "TIMESTAMPLTZ" _ =>
      callOf "TIMESTAMP" [operand.printWith keepsCase dialect]
    | some .sqlite, .known "DATE" _ => callOf "DATE" [operand.printWith keepsCase dialect]
    | dialect, type =>
      "CAST(" ++ operand.printWith keepsCase dialect ++ " AS " ++
        type.printCast keepsCase dialect ++ ")"
  | .unary operator operand => printUnary operator (operand.printWith keepsCase dialect)
  | .binary operator left right =>
    printBinary dialect operator "" (left.printWith keepsCase dialect)
      (right.printWith keepsCase dialect)
  | .paren inner => inParens (inner.printWith keepsCase dialect)
  | .tuple members => inParens (commaJoined (printAll keepsCase dialect members))
  | .array members =>
    let marks := arrayMarks dialect members
    marks.1 ++ commaJoined (printAll keepsCase dialect members) ++ marks.2
  | .subscript operand members =>
    let isWrapped := dialect = some .postgresql && match operand.bare with
      | .array _ => true
      | _ => false
    let printed := operand.printWith keepsCase dialect
    (if isWrapped then inParens printed else printed) ++ "[" ++
      commaJoined (printPlaces dialect operand members (printAll keepsCase dialect members)) ++ "]"
  | .interval amount unit =>
    let isWrapped := amount.any fun value => !isPlainAmount value
    let isSpan := match unit with
      | some (.phrase _) => true
      | _ => false
    printInterval dialect (printAmount keepsCase dialect amount) isWrapped isSpan
      (printUnit keepsCase dialect unit)
  | .sorted key descending nullsFirst =>
    printSorted dialect (key.printWith keepsCase dialect) key.wholeNumber?.isSome descending nullsFirst
  | .parameter name => (if dialect = some .postgresql then "$" else "@") ++ name.printWith keepsCase dialect
  | .phrase parts | .query parts => String.join (printAll keepsCase dialect parts)
  | .remark (.binary operator left right) comments =>
    printBinary dialect operator (printRemarks comments) (left.printWith keepsCase dialect)
      (right.printWith keepsCase dialect)
  | .remark operand comments => operand.printWith keepsCase dialect ++ printRemarks comments

def printAll (keepsCase : Bool) (dialect : Option Dialect) : List Expr → List String
  | [] => []
  | value :: rest => value.printWith keepsCase dialect :: printAll keepsCase dialect rest

def printAmount (keepsCase : Bool) (dialect : Option Dialect) : Option Expr → Option (String × String)
  | none => none
  | some amount => some (amount.printWith keepsCase dialect, amountName amount)

def printUnit (keepsCase : Bool) (dialect : Option Dialect) : Option Expr → Option String
  | none => none
  | some unit => some (unit.printWith keepsCase dialect)

def DataType.printWith (keepsCase : Bool) (dialect : Option Dialect) : DataType → String
  | .known name parameters =>
    sizedType dialect name parameters (printAll keepsCase dialect parameters)
  | .userDefined name parameters => withParameters name (printAll keepsCase dialect parameters) ", "
  | .array element =>
    if dialect = some .postgresql then element.printWith keepsCase dialect ++ "[]"
    else "ARRAY<" ++ element.printWith keepsCase dialect ++ ">"
  | .nested name members =>
    if members.isEmpty then name
    else name ++ "<" ++ commaJoined (printTypes keepsCase dialect members) ++ ">"
  | .member name type => printName dialect name ++ " " ++ type.printWith keepsCase dialect

def DataType.printCast (keepsCase : Bool) (dialect : Option Dialect) : DataType → String
  | .known name parameters =>
    sizedType dialect (castTypeName dialect name) parameters (printAll keepsCase dialect parameters)
  | .userDefined name parameters => withParameters name (printAll keepsCase dialect parameters) ", "
  | .array element =>
    if dialect = some .postgresql then element.printWith keepsCase dialect ++ "[]"
    else "ARRAY<" ++ element.printWith keepsCase dialect ++ ">"
  | .nested name members =>
    if members.isEmpty then name
    else name ++ "<" ++ commaJoined (printTypes keepsCase dialect members) ++ ">"
  | .member name type => printName dialect name ++ " " ++ type.printWith keepsCase dialect

def printTypes (keepsCase : Bool) (dialect : Option Dialect) : List DataType → List String
  | [] => []
  | type :: rest => type.printWith keepsCase dialect :: printTypes keepsCase dialect rest

end

def Expr.print (dialect : Option Dialect) (value : Expr) : String := value.printWith false dialect

def DataType.print (dialect : Option Dialect) (type : DataType) : String :=
  type.printWith false dialect

def DataType.declared : DataType → String
  | .known name parameters =>
    withParameters (if name == "USER-DEFINED" then "" else name) (printAll false none parameters) ","
  | .userDefined name parameters => withParameters name (printAll false none parameters) ","
  | .array element => element.declared ++ "[]"
  | .nested name members => withParameters name (printTypes false none members) ","
  | .member name type => printName none name ++ " " ++ type.declared

def isMomentWord (word : String) : Bool :=
  ["CURRENT_TIMESTAMP", "NOW"].contains (upperString word)

/-- A default as it is displayed: casts do not show, a string shows its content. -/
def Expr.asDefault (dialect : Dialect) : Expr → String
  | .cast operand _ => operand.asDefault dialect
  | .remark (.cast operand _) _ => operand.asDefault dialect
  | value =>
    match value.bare with
    | .null => "NULL"
    | .text content => content
    | .moment .timestamp _ => "CURRENT_TIMESTAMP"
    | .call function _ =>
      if isMomentWord function.text then "CURRENT_TIMESTAMP" else value.printWith true (some dialect)
    | .column _ inner =>
      if isMomentWord inner.text then "CURRENT_TIMESTAMP" else value.printWith true (some dialect)
    | _ => value.printWith true (some dialect)

end DdlSchema.Ddl
