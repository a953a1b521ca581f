import DdlSchema.Ddl.Reader.Operand

/-! Reading operations, one reader for each level of binding, the tightest first. -/

set_option autoImplicit false

namespace DdlSchema.Ddl.Reader

open DdlSchema.Text

def commented (value : Expr) (comments : List String) : Reader Expr :=
  if comments.isEmpty then remarked value else return withComments value comments

/-- Operators of one level from left to right. `join` puts two operands together. -/
def chainFrom (operator : Reader (Option String)) (operand : Reader (Option Expr))
    (join : String → Expr → Expr → Reader Expr) : Nat → Expr → Reader Expr
  | 0, left => return left
  | bound + 1, left => do
    match ← operator with
    | some symbol =>
      let comments ← takeComments
      let right ← required operand
      let joined ← join symbol left right
      chainFrom operator operand join bound (← commented joined comments)
    | none => return left

def chain (operator : Reader (Option String)) (operand : Reader (Option Expr))
    (join : String → Expr → Expr → Expr) : Reader (Option Expr) := do
  match ← operand with
  | some first =>
    let joined := fun symbol left right => return join symbol left right
    some <$> chainFrom operator operand joined (← remaining) first
  | none => return none

def negation : Reader Bool := either (keyword "NOT") (mark "!")

def guardedDenial (value : Expr) : Expr :=
  match value.bare with
  | .unary "!" _ => .paren value
  | _ => value

/-- Joined strings and steps into documents bind more tightly in SQLite, which shows as
parentheses. -/
def guardedOperand (dialect : Dialect) (value : Expr) : Expr :=
  match value.bare with
  | .binary symbol _ _ =>
    if dialect == .sqlite && ["||", "->", "->>"].contains symbol then .paren value else value
  | _ => guardedDenial value

def unary (inner : Inner) : Reader (Option Expr) := do
  if (← dialect) == .mysql && (← atMark "!") then
    advance
    return some (.unary "!" (← required inner.unary))
  else if ← negation then return some (.unary "NOT" (← required inner.equality))
  else if ← mark "+" then inner.unary
  else if ← mark "-" then return some (.unary "-" (← required inner.unary))
  else if ← mark "~" then return some (.unary "~" (← required inner.unary))
  else if ← mark "|/" then return some (.known "SQRT" [← required inner.unary])
  else if ← mark "||/" then return some (.known "CBRT" [← required inner.unary])
  else typed inner

/-- Joined strings and steps into documents, which SQLite reads from left to right alike. -/
def joinTight (symbol : String) (left right : Expr) : Expr :=
  match symbol, left.bare with
  | "||", _ => .binary symbol left right
  | _, .binary "||" _ _ => documentStep .sqlite symbol (.paren left) right
  | _, _ => documentStep .sqlite symbol left right

/-- Powers in PostgreSQL, joined strings and steps into documents in SQLite. -/
def exponent (inner : Inner) : Reader (Option Expr) := do
  match ← dialect with
  | .postgresql =>
    chain (oneMark ["^"]) (unary inner) fun _ left right => .known "POWER" [left, right]
  | .sqlite => chain (oneMark ["||", "->", "->>"]) (unary inner) joinTight
  | .mysql => unary inner

def zonedFrom (inner : Inner) : Nat → Expr → Reader Expr
  | 0, value => return value
  | bound + 1, value => do
    if ← allSpelled ["AT", "TIME", "ZONE"] then
      zonedFrom inner bound (.binary "AT TIME ZONE" value (← required (unary inner)))
    else return value

def zoned (inner : Inner) : Reader (Option Expr) := do
  match ← exponent inner with
  | some value => some <$> zonedFrom inner (← remaining) value
  | none => return none

def factorOperator : Reader (Option String) := do
  match ← dialect with
  | .postgresql => oneMark ["*", "/", "<->", "<<->>"]
  | _ => orElse (oneMark ["*", "/", "<->", "<<->>"]) (oneKeyword ["DIV"])

def joinFactors (dialect : Dialect) (symbol : String) (left right : Expr) : Expr :=
  let symbol := if symbol == "/" && dialect != .postgresql then "safe /" else symbol
  .binary symbol (guardedOperand dialect left) (guardedOperand dialect right)

def factorFrom (inner : Inner) : Nat → Expr → Reader Expr
  | 0, left => return left
  | bound + 1, left => do
    let start ← get
    match ← factorOperator with
    | none => return left
    | some symbol =>
      let comments ← takeComments
      match ← exponent inner with
      | some right =>
        let joined := joinFactors (← dialect) symbol left right
        factorFrom inner bound (← commented joined comments)
      | none =>
        if symbol == "DIV" then
          set start
          return left
        else fail "Expecting expression"

def factor (inner : Inner) : Reader (Option Expr) := do
  match ← zoned inner with
  | some first => some <$> factorFrom inner (← remaining) first
  | none => return none

def asCollation (value : Expr) : Expr :=
  match value.bare with
  | .column [] name => if name.quoted then .name name else .word name.text
  | _ => value

def termOperator : Reader (Option String) := do
  match ← oneMark ["+", "-", "%"] with
  | some symbol => return some symbol
  | none =>
    match ← oneKeyword (if (← dialect) == .mysql then ["COLLATE", "MOD"] else ["COLLATE"]) with
    | some "MOD" => return some "%"
    | word => return word

def joinTerms (dialect : Dialect) (symbol : String) (left right : Expr) : Expr :=
  if symbol == "COLLATE" then .binary symbol left (asCollation right)
  else .binary symbol (guardedOperand dialect left) (guardedOperand dialect right)

def term (inner : Inner) : Reader (Option Expr) := do
  chain termOperator (factor inner) (joinTerms (← dialect))

def bitwiseOperator : Reader (Option String) := do
  let dialect ← dialect
  let marks := ["&", "|", "^", "??"] ++
    (match dialect with
      | .postgresql => ["||", "#"]
      | _ => [])
  match ← oneMark marks with
  | some "#" => return some "^"
  | some symbol => return some symbol
  | none =>
    if ← acceptAll [(·.isMark "<"), (·.isMark "<")] then return some "<<"
    else if ← acceptAll [(·.isMark ">"), (·.isMark ">")] then return some ">>"
    else return none

def joinBits (dialect : Dialect) (symbol : String) (left right : Expr) : Expr :=
  if symbol == "??" then .known "COALESCE" [left, right]
  else .binary symbol (guardedOperand dialect left) (guardedOperand dialect right)

def bitwise (inner : Inner) : Reader (Option Expr) := do
  chain bitwiseOperator (term inner) (joinBits (← dialect))

def betweenTest (inner : Inner) (value : Expr) : Reader Expr := do
  let manner ← oneSpelled ["SYMMETRIC", "ASYMMETRIC"]
  let low ← required (bitwise inner)
  let _ ← keyword "AND"
  let high ← required (bitwise inner)
  return match manner with
    | some manner => .known ("BETWEEN " ++ manner) [value, low, high]
    | none => .phrase [value, .word " BETWEEN ", low, .word " AND ", high]

def listMember (inner : Inner) : Reader (Option Expr) := orElse inner.query inner.disjunction

/-- A value among others: those of a list or a query, or those of a column. -/
def memberTest (inner : Inner) (value : Expr) : Reader Expr := do
  if ← openList then
    let members ← wrapped do
      match ← commaList (listMember inner) with
      | [only] => return [← inner.modified only]
      | members => return members
    remarked (.phrase [value, .word " IN (", .phrase (separated ", " members), .word ")"])
  else return .phrase [value, .word " IN ", ← required (column inner)]

def testOperator : Reader (Option String) := do
  let dialect ← dialect
  let words := [("LIKE", "LIKE"), ("ILIKE", "ILIKE"), ("GLOB", "GLOB"), ("RLIKE", "RLIKE"),
    ("REGEXP", "RLIKE"), ("SIMILAR TO", "SIMILAR TO"), ("OVERLAPS", "OVERLAPS")] ++
    (if dialect == .sqlite then [("MATCH", "MATCH")] else [])
  let marks := [("~~", "LIKE"), ("~~*", "ILIKE"), ("~~~", "GLOB"), ("~*", "~*"), ("-|-", "-|-"),
    ("&<", "&<"), ("&>", "&>")] ++
    (if dialect == .postgresql then
      [("~", "RLIKE"), ("@>", "@>"), ("<@", "<@"), ("&&", "&&"), ("@@", "@@"), ("?&", "?&"),
        ("?|", "?|"), ("#-", "#-")]
    else [])
  orElse (return (← oneKeyword (words.map Prod.fst)).bind fun word => words.lookup word)
    (return (← oneMark (marks.map Prod.fst)).bind fun sign => marks.lookup sign)

def operatorTest (inner : Inner) (symbol : String) (value : Expr) : Reader Expr := do
  let test ← remarked (.binary symbol value (← required (bitwise inner)))
  if ← keyword "ESCAPE" then return .binary "ESCAPE" test (← required (bitwise inner))
  else return test

def documentKind : Reader Expr := do
  let kind ← oneSpelled ["VALUE", "ARRAY", "OBJECT", "SCALAR"]
  let manner ← oneSpelled ["WITH", "WITHOUT"]
  let isUnique ← keyword "UNIQUE"
  let _ ← spelled "KEYS"
  return .word ("JSON" ++ kind.elim "" (" " ++ ·) ++ manner.elim "" (" " ++ ·) ++
    (if isUnique then " UNIQUE KEYS" else ""))

/-- A test behind IS. In SQLite any two values can be compared so, null or not. -/
def stateOf (dialect : Dialect) (negated : Bool) (value state : Expr) : Expr :=
  let isState := match state.bare with
    | .null | .truth _ => true
    | _ => false
  if dialect == .sqlite && !isState then
    .binary (if negated then "IS DISTINCT FROM" else "IS NOT DISTINCT FROM") value state
  else if negated then .unary "NOT" (.binary "IS" value state)
  else .binary "IS" value state

/-- What stands behind IS; `none` where nothing does. -/
def stateTest (inner : Inner) (value : Expr) : Reader (Option Expr) := attempt do
  let negated ← negation
  if ← allSpelled ["DISTINCT", "FROM"] then
    let symbol := if negated then "IS NOT DISTINCT FROM" else "IS DISTINCT FROM"
    return some (.binary symbol value (← required (bitwise inner)))
  else
    let state ← if ← keyword "JSON" then some <$> documentKind
      else if ← keyword "UNKNOWN" then pure (some .null)
      else bitwise inner
    match state with
    | none => return none
    | some state => some <$> attached inner (stateOf (← dialect) negated value state)

def stateClause (inner : Inner) (value : Expr) : Reader (Option Expr) := attempt do
  if ← keyword "IS" then stateTest inner value else return none

def operatorText : Nat → Reader String
  | 0 => return ""
  | bound + 1 => do
    match ← peek with
    | none => return ""
    | some token =>
      advance
      if token.isMark ")" then return "" else return token.text ++ (← operatorText bound)

def namedOperations (inner : Inner) : Nat → Expr → Reader Expr
  | 0, value => return value
  | bound + 1, value => do
    if ← mark "(" then
      let name ← operatorText (← remaining)
      let operation := .binary ("OPERATOR(" ++ name ++ ")") value (← required (bitwise inner))
      if ← keyword "OPERATOR" then namedOperations inner bound operation else return operation
    else return value

/-- Tests that only PostgreSQL has. -/
def postgresqlTest (inner : Inner) (value : Expr) : Reader (Option Expr) := do
  if (← dialect) == .postgresql && (← atKeyword "OPERATOR") then
    advance
    some <$> namedOperations inner (← remaining) value
  else return none

/-- Tests that only MySQL has. -/
def mysqlTest (inner : Inner) (value : Expr) : Reader (Option Expr) := do
  if ← keyword "SOUNDS LIKE" then
    let right ← required (term inner)
    return some (.binary "=" (.known "SOUNDEX" [value]) (.known "SOUNDEX" [right]))
  else if ← keyword "MEMBER OF" then
    let list ← wrapped (required (aliased false inner.disjunction))
    return some (.phrase [value, .word " MEMBER OF(", list, .word ")"])
  else return none

/-- A test of the value; `negated` says whether it is denied, and `mayState` whether IS belongs to
it. -/
def rangeTest (inner : Inner) (negated mayState : Bool) (value : Expr) : Reader Expr := do
  let state := if mayState then stateClause inner value else return none
  if ← keyword "BETWEEN" then betweenTest inner value
  else if ← keyword "IN" then memberTest inner value
  else match ← oneOf [state, mysqlTest inner value, postgresqlTest inner value] with
    | some test => return test
    | none =>
      match ← testOperator with
      | some symbol => operatorTest inner symbol value
      | none =>
        let isNull ← either (keyword "ISNULL") (if negated then keyword "NULL" else pure false)
        return if isNull then .binary "IS" value .null else value

def denied : Expr → Expr
  | .binary operator left right =>
    if operator == "LIKE" || operator == "ILIKE" then .binary ("NOT " ++ operator) left right
    else .unary "NOT" (.binary operator left right)
  | value => .unary "NOT" value

/-- Tests such as BETWEEN and IN. Behind an operator IS belongs to the whole comparison where it does
not bind more tightly; then `mayState` is not set. -/
def tested (inner : Inner) (mayState : Bool) : Reader (Option Expr) := do
  match ← bitwise inner with
  | none => return none
  | some value =>
    let negated ← negation
    let test ← rangeTest inner negated mayState value
    let test := if ← keyword "NOTNULL" then Expr.unary "NOT" (.binary "IS" test .null) else test
    let test := if negated then denied test else test
    if mayState then orElse (stateClause inner test) (return some test) else return some test

def range (inner : Inner) : Reader (Option Expr) := tested inner true

def compared (inner : Inner) (symbol : String) (left right : Expr) : Reader Expr := do
  let test := Expr.binary symbol (guardedDenial left) (guardedDenial right)
  if (← dialect) == .mysql then return (← stateClause inner (.paren test)).getD test else return test

def comparisons (inner : Inner) (operator : Reader (Option String))
    (operand : Bool → Reader (Option Expr)) (mayState : Bool) : Reader (Option Expr) := do
  match ← operand mayState with
  | some first =>
    let isBound := (← dialect) != .mysql
    some <$> chainFrom operator (operand isBound) (compared inner) (← remaining) first
  | none => return none

def comparison (inner : Inner) (mayState : Bool) : Reader (Option Expr) :=
  comparisons inner (oneMark [">", ">=", "<", "<="]) (tested inner) mayState

def equalityOperator : Reader (Option String) := do
  let written := [("=", "="), ("==", "="), ("<>", "<>"), ("!=", "<>"), ("<=>", "IS NOT DISTINCT FROM")]
  return (← oneMark (written.map Prod.fst)).bind fun sign => written.lookup sign

def equality (inner : Inner) : Reader (Option Expr) :=
  comparisons inner equalityOperator (comparison inner) true

def conjunctionOperator : Reader (Option String) := do
  if (← dialect) == .mysql then
    if ← mark "&&" then return some "AND" else oneKeyword ["AND", "XOR"]
  else oneKeyword ["AND"]

def conjunction (inner : Inner) : Reader (Option Expr) :=
  chain conjunctionOperator (equality inner) Expr.binary

def disjunctionOperator : Reader (Option String) := do
  if (← dialect) == .mysql then
    if ← mark "||" then return some "OR" else oneKeyword ["OR"]
  else oneKeyword ["OR"]

def disjunction (inner : Inner) : Reader (Option Expr) :=
  chain disjunctionOperator (conjunction inner) Expr.binary

def keptValue (inner : Inner) : Reader (Option Expr) := do
  match ← disjunction inner with
  | none => return none
  | some value =>
    if ← mark ":=" then
      let comments ← takeComments
      some <$> commented (.binary ":=" value (← required inner.disjunction)) comments
    else return some value

end DdlSchema.Ddl.Reader
