import DdlSchema.Ddl.Reader.Basic

/-! The readers that refer to each other. A reader that holds such a part takes all of them as an
argument; the recursion is closed in one place, where a bound on the depth makes it total. -/

set_option autoImplicit false

namespace DdlSchema.Ddl.Reader

/-- How a type may be written. -/
structure TypeRules where
  /-- A name of the user may stand for a type. -/
  named : Bool := true
  /-- A type with parameters counts only in front of a string; it may be a call otherwise. -/
  literal : Bool := false
  /-- The type belongs to a column, so that brackets may hold the size of an array. -/
  declared : Bool := false

/-- What may stand where a literal, a call or a name is expected. -/
inductive FieldMode where
  | strict
  /-- Any token that is not reserved is a name. -/
  | free
  /-- Like `free`, behind a dot; no function is known there. -/
  | member
  deriving DecidableEq

structure Grammar where
  disjunction : Reader (Option Expr)
  equality : Reader (Option Expr)
  bitwise : Reader (Option Expr)
  term : Reader (Option Expr)
  unary : Reader (Option Expr)
  typed : Reader (Option Expr)
  /-- A literal, a parenthesis, a call or a name. -/
  field (mode : FieldMode) : Reader (Option Expr)
  column : Reader (Option Expr)
  call : Reader (Option Expr)
  dataType (rules : TypeRules) : Reader (Option DataType)
  query : Reader (Option Expr)
  /-- A query, or one in parentheses, that others may be put together with. -/
  operandQuery : Reader (Option Expr)
  /-- A query with the clauses behind it; any other value is left as it is. -/
  modified (value : Expr) : Reader Expr
  /-- A query with those that are put together with it. -/
  combined (value : Expr) : Reader Expr
  /-- A query where a table is expected, or what stands in parentheses there. -/
  nestedTable : Reader (Option Expr)
  table : Reader (Option Expr)

/-- The parts of a phrase with a separator between two of them. -/
def separated (separator : String) : List Expr → List Expr
  | [] => []
  | [part] => [part]
  | part :: rest => part :: .word separator :: separated separator rest

def behind (words : String) (value : Expr) : Expr := .phrase [.word words, value]

/-- The readers one level further inside. -/
abbrev Inner : Type := Unit → Grammar

/-- Readers that find nothing. -/
def Grammar.empty : Grammar where
  disjunction := return none
  equality := return none
  bitwise := return none
  term := return none
  unary := return none
  typed := return none
  field _ := return none
  column := return none
  call := return none
  dataType _ := return none
  query := return none
  operandQuery := return none
  modified value := return value
  combined value := return value
  nestedTable := return none
  table := return none

namespace Inner

def disjunction (inner : Inner) : Reader (Option Expr) := do (inner ()).disjunction

def equality (inner : Inner) : Reader (Option Expr) := do (inner ()).equality

def bitwise (inner : Inner) : Reader (Option Expr) := do (inner ()).bitwise

def term (inner : Inner) : Reader (Option Expr) := do (inner ()).term

def unary (inner : Inner) : Reader (Option Expr) := do (inner ()).unary

def typed (inner : Inner) : Reader (Option Expr) := do (inner ()).typed

def field (inner : Inner) (mode : FieldMode) : Reader (Option Expr) := do (inner ()).field mode

def column (inner : Inner) : Reader (Option Expr) := do (inner ()).column

def call (inner : Inner) : Reader (Option Expr) := do (inner ()).call

def dataType (inner : Inner) (rules : TypeRules) : Reader (Option DataType) := do
  (inner ()).dataType rules

def query (inner : Inner) : Reader (Option Expr) := do (inner ()).query

def operandQuery (inner : Inner) : Reader (Option Expr) := do (inner ()).operandQuery

def modified (inner : Inner) (value : Expr) : Reader Expr := do (inner ()).modified value

def combined (inner : Inner) (value : Expr) : Reader Expr := do (inner ()).combined value

def nestedTable (inner : Inner) : Reader (Option Expr) := do (inner ()).nestedTable

def table (inner : Inner) : Reader (Option Expr) := do (inner ()).table

end Inner

end DdlSchema.Ddl.Reader
