import DdlSchema.Ddl.Token

/-! Statements as the readers understand them. -/

set_option autoImplicit false

namespace DdlSchema.Ddl

structure Name where
  text : String
  quoted : Bool
  deriving DecidableEq, Repr

/-- The current moment, as far as a function call tells it. -/
inductive Moment where
  | timestamp
  | date
  | time
  deriving DecidableEq, Repr

mutual

inductive Expr where
  | number (text : String)
  | text (value : String)
  /-- A string whose first letter tells how it is coded. -/
  | coded (kind : TokenKind) (value : String)
  | null
  | truth (value : Bool)
  | star
  /-- What is no value of its own and is written as it stands, such as a unit. -/
  | word (word : String)
  | name (name : Name)
  /-- A column with its qualifiers, the outermost first. -/
  | column (qualifiers : List Name) (name : Name)
  /-- A function that the dialects do not know; it keeps its spelling. -/
  | call (function : Name) (arguments : List Expr)
  /-- A function under the name that all dialects share. -/
  | known (function : String) (arguments : List Expr)
  | moment (moment : Moment) (arguments : List Expr)
  | cast (operand : Expr) (type : DataType)
  | unary (operator : String) (operand : Expr)
  | binary (operator : String) (left right : Expr)
  | paren (inner : Expr)
  | tuple (members : List Expr)
  | array (members : List Expr)
  | subscript (operand : Expr) (members : List Expr)
  | interval (amount unit : Option Expr)
  /-- A sort key; `nullsFirst` says where its nulls come. -/
  | sorted (key : Expr) (descending : Option Bool) (nullsFirst : Bool)
  | parameter (name : Expr)
  /-- A phrase that is only ever written back: its parts one behind the other. -/
  | phrase (parts : List Expr)
  /-- A query, written back like a phrase. -/
  | query (parts : List Expr)
  /-- An expression with the comments behind it. -/
  | remark (operand : Expr) (comments : List String)

inductive DataType where
  | known (name : String) (parameters : List Expr)
  | userDefined (name : String) (parameters : List Expr)
  | array (element : DataType)
  /-- A type made of other types, such as a map. -/
  | nested (name : String) (members : List DataType)
  | member (name : Name) (type : DataType)

end

def Expr.bare : Expr → Expr
  | .remark operand _ => operand.bare
  | value => value

/-- The whole number that an expression stands for, as far as it is made of digits. -/
def Expr.wholeNumber? : Expr → Option Int
  | .number digits =>
    if digits.toList.all Char.isDigit then digits.toNat?.map Int.ofNat else none
  | .paren inner => inner.wholeNumber?
  | .unary "-" operand => operand.wholeNumber?.map (- ·)
  | .binary operator left right =>
    match operator, left.wholeNumber?, right.wholeNumber? with
    | "+", some first, some second => some (first + second)
    | "-", some first, some second => some (first - second)
    | "*", some first, some second => some (first * second)
    | _, _, _ => none
  | _ => none

def Expr.ofInt (value : Int) : Expr :=
  if value < 0 then .unary "-" (.number (toString value.natAbs)) else .number (toString value.natAbs)

/-- A whole number moved by an amount; any other value is left as it is. -/
def Expr.shifted (amount : Int) (value : Expr) : Expr :=
  match value.wholeNumber? with
  | some place => .ofInt (place + amount)
  | none => value

def Expr.isNoArray (value : Expr) : Bool :=
  match value.bare with
  | .text _ | .number _ => true
  | .cast _ (.array _) => false
  | .cast _ _ => true
  | _ => false

def Expr.leafText : Expr → String
  | .number digits => digits
  | .text value => value
  | .null => "NULL"
  | .star => "*"
  | .word spelling => spelling
  | .name own => own.text
  | _ => ""

def Expr.isQuery : Expr → Bool
  | .query _ => true
  | .paren inner => inner.isQuery
  | .remark operand _ => operand.isQuery
  | _ => false

def Expr.isString (value : Expr) : Bool :=
  match value.bare with
  | .text _ => true
  | _ => false

/-- What REFERENCES points to, with the options behind it as they are understood. -/
structure Reference where
  table : String
  columns : List String
  options : List String

/-- A part of an index: a column or an expression, how much of it, how it is compared, and its
direction. -/
structure KeyPart where
  target : Expr
  length : Option String
  collation : Option String
  descending : Option Bool

inductive IndexWord where
  | plain
  | fulltext
  | spatial
  deriving DecidableEq, Repr

structure IndexDefinition where
  kind : IndexWord
  name : Option Name
  method : Option String
  parts : List KeyPart
  options : List String

/-- The columns of a unique constraint; without parentheses it has a single name. -/
inductive UniqueTarget where
  | nothing
  | single (name : String)
  | columns (name : Option String) (columns : List String)

inductive Constraint where
  /-- The primary key is the column itself where no columns are listed. -/
  | primaryKey (columns : Option (List String))
  | unique (target : UniqueTarget)
  | foreignKey (columns : List String) (reference : Option Reference)
      (onDelete onUpdate : Option String)
  | index (definition : IndexDefinition)
  | nullability (allowed : Bool)
  | default (value : Expr)
  | autoIncrement
  /-- GENERATED AS an identity, or AS an expression that is not said to be stored or virtual. -/
  | identity (expression : Option Expr)
  | collate (name : String)
  | comment (text : String)
  | onUpdate (value : Expr)
  | reference (reference : Reference)
  /-- A constraint without meaning for the schema. -/
  | other

structure ColumnConstraint where
  name : Option String
  kind : Constraint

structure ColumnDefinition where
  name : Name
  type : Option DataType
  constraints : List ColumnConstraint

inductive Element where
  | column (definition : ColumnDefinition)
  | bareColumn (name : Name)
  | constraint (constraint : Constraint)
  | namedConstraint (name : Option String) (kinds : List Constraint)
  | expression (value : Expr)

inductive PropertyPlace where
  /-- In front of the kind of what is defined. -/
  | front
  /-- Behind the name and its list. -/
  | tail
  | list
  /-- In front of what the definition is filled with. -/
  | filling
  | behind
  | dropped
  deriving DecidableEq, Repr

inductive Property where
  | temporary
  | engine (value : Expr)
  | collate (value : Expr)
  | comment (value : Expr)
  | other (place : PropertyPlace) (printed : String)

structure CreateTable where
  name : String
  /-- `none` where the table has no list in parentheses. -/
  elements : Option (List Element)
  properties : List Property

inductive Statement where
  | createTable (definition : CreateTable)
  | other (printed : String)

def CreateTable.entries (definition : CreateTable) : List Element := definition.elements.getD []

end DdlSchema.Ddl
