import DdlSchema.Ddl.Reader.DataType
import DdlSchema.Ddl.Reader.Query

/-! The readers of expressions, types and queries put together. Each refers to the others one level
further inside; a bound on the levels, taken from the number of tokens, makes them total. -/

set_option autoImplicit false

namespace DdlSchema.Ddl.Reader

def grammar : Nat → Grammar
  | 0 => .empty
  | depth + 1 =>
    let inner : Inner := fun _ => grammar depth
    { disjunction := Reader.keptValue inner
      equality := Reader.equality inner
      bitwise := Reader.bitwise inner
      term := Reader.term inner
      unary := Reader.unary inner
      typed := Reader.typed inner
      field := Reader.field inner
      column := Reader.column inner
      call := Reader.call inner .strict
      dataType := Reader.dataType inner
      query := Reader.query inner
      operandQuery := Reader.operandQuery inner
      modified := Reader.modified inner
      combined := Reader.combined inner
      nestedTable := Reader.nestedTable inner
      table := Reader.table inner }

/-- The readers for what is left of the text: no token holds more than a few levels. -/
def wholeGrammar : Reader Inner := do
  let depth := 4 * ((← remaining) + 4)
  return fun _ => grammar depth

def withGrammar {α : Type} (body : Inner → Reader α) : Reader α := do body (← wholeGrammar)

def expression : Reader (Option Expr) := withGrammar Inner.disjunction

def namedExpression : Reader (Option Expr) := aliased false expression

/-- What DEFAULT and the like stand in front of: no comparison, no test. -/
def simpleValue : Reader (Option Expr) := withGrammar Inner.bitwise

def anyField (mode : FieldMode) : Reader (Option Expr) := withGrammar fun inner => inner.field mode

def anyType (rules : TypeRules) : Reader (Option DataType) :=
  withGrammar fun inner => inner.dataType rules

def anyQuery : Reader (Option Expr) := withGrammar query

end DdlSchema.Ddl.Reader
