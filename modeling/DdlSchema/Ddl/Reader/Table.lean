import DdlSchema.Ddl.Reader.Pivot

/-! Reading the tables of a query, with the names they get and all that is joined to them. They are
only ever written back, so a table is a phrase. -/

set_option autoImplicit false

namespace DdlSchema.Ddl.Reader

open DdlSchema.Text

def namePathFrom : Nat → List Name → Reader (List Name)
  | 0, names => return names
  | bound + 1, names => do
    if ← mark "." then
      match ← anyName with
      | some name => namePathFrom bound (names ++ [name])
      | none => return names
    else return names

def namePath : Reader (Option Expr) := do
  match ← orElse softName stringName with
  | none => return none
  | some first =>
    let names ← namePathFrom (← remaining) [first]
    return names.getLast?.map fun last => .column names.dropLast last

/-- A table by its name, or rows that a call gives back; a value that is given later may stand for
it. -/
def tableSource (inner : Inner) : Reader (Option Expr) := do
  let isCall ← secondIs fun next => next.isMark "("
  oneOf [if isCall then inner.call else return none, namePath, givenValue]

def parallelRows (inner : Inner) : Reader (Option Expr) := do
  if ← allSpelled ["ROWS", "FROM"] then
    let sources ← wrapped (commaList inner.table)
    return some (.phrase [.word "ROWS FROM (", .phrase (separated ", " sources), .word ")"])
  else return none

/-- A table that may hold rows of others, of which only its own count behind ONLY. -/
def onlyTable (inner : Inner) : Reader (Option Expr) := do
  match ← parallelRows inner with
  | some rows => return some rows
  | none =>
    let isOnly ← keyword "ONLY"
    let table ← tableSource inner
    return if isOnly then table.map (behind "ONLY ") else table

def valueRow (inner : Inner) : Reader (Option Expr) := do
  let entry := orElse (return (← oneKeyword ["DEFAULT"]).map Expr.word)
    (aliased false inner.disjunction)
  if ← mark "(" then
    let values ← commaList entry
    close
    return some (.tuple values)
  else return (← aliased false inner.disjunction).map fun value => .tuple [value]

def valueRows (inner : Inner) : Reader Expr :=
  return .phrase (.word "VALUES " :: separated ", " (← commaList (valueRow inner)))

def writtenRows (inner : Inner) (isTable : Bool) : Reader (Option Expr) := do
  let isWrapped ← acceptAll [(·.isMark "("), (·.isWord "VALUES")]
  let isThere ← if isWrapped then pure true else keyword "VALUES"
  if !isThere then return none
  else
    let rows ← valueRows inner
    let early ← tableAlias inner []
    if isWrapped then close
    let name ← if early.isEmpty then tableAlias inner [] else pure early
    let rows := if isTable || !name.isEmpty then Expr.paren rows else rows
    return some (.phrase (rows :: name))

def indexHint : Reader (Option Expr) := do
  match ← oneKeyword ["FORCE", "IGNORE", "USE"] with
  | none => return none
  | some word =>
    let _ ← oneKeyword ["INDEX", "KEY"]
    let target ← if ← keyword "FOR" then
      let token ← peek
      advance
      pure (token.map Token.upper)
    else pure none
    let names ← nameList
    return some (.phrase [.word (" " ++ word ++ " INDEX" ++ target.elim "" (" FOR " ++ ·) ++ " ("),
      shownNamesOf names, .word ")"])

def indexChoice : Reader (List Expr) := do
  if ← keyword "INDEXED BY" then return [.word " INDEXED BY ", ← required namePath]
  else if ← allSpelled ["NOT", "INDEXED"] then return [.word " NOT INDEXED"]
  else return []

/-- A part of the rows, chosen by chance. Its size is a share in PostgreSQL and a count elsewhere. -/
def sample (inner : Inner) : Reader (List Expr) := do
  if ← keyword "TABLESAMPLE" then
    let method ← orElse plainWord (oneKeyword ["ROW"])
    let isOpen ← mark "("
    let isNumber ← peekIs fun token => token.kind == .number
    let amount ← if isNumber then inner.unary else literal
    let isShare ← either (keyword "PERCENT") (mark "%")
    let isCount ← if isShare then pure false else keyword "ROWS"
    let isShare := isShare || (!isCount && (← dialect) == .postgresql)
    if isOpen then close
    let seed ← if (← oneSpelled ["SEED", "REPEATABLE"]).isSome then wrapped (ofKind .number)
      else pure none
    return [.word (" TABLESAMPLE " ++ method.elim "" (upperString · ++ " ") ++ "("),
      amount.getD (.word ""), .word (if isShare then " PERCENT)" else " ROWS)"),
      .word (seed.elim "" fun seed => " SEED (" ++ seed ++ ")")]
  else return []

def partList (inner : Inner) : Reader (Option Expr) := do
  match ← oneSpelled ["PARTITION", "SUBPARTITION"] with
  | none => return none
  | some word =>
    let parts ← wrapped (commaList inner.disjunction)
    return some (.phrase [.word (word ++ "("), .phrase (separated ", " parts), .word ")"])

/-- The parts of a table whose rows are meant, which only MySQL knows. -/
def chosenPartition (inner : Inner) : Reader (List Expr) := do
  let isChosen := (← dialect) == .mysql && (← atKeyword "PARTITION")
  let parts ← if isChosen then partList inner else pure none
  return parts.toList.map (behind " ")

def tableTail (inner : Inner) (kept : List String) : Reader (List Expr) := do
  let early ← sequence (pivot inner)
  let _ ← mark "*"
  let partition ← chosenPartition inner
  let name ← tableAlias inner kept
  let choice ← indexChoice
  let hints ← sequence indexHint
  let pivots ← if early.isEmpty then sequence (pivot inner) else pure early
  let sample ← sample inner
  let isNumbered ← acceptAll [(·.isWord "WITH"), (·.isWord "ORDINALITY")]
  let late ← if isNumbered then tableAlias inner kept else pure []
  let numbering := if isNumbered then [.word " WITH ORDINALITY"] else []
  return partition ++ name ++ choice ++ hints ++ pivots ++ sample ++ numbering ++ late

def unnested (inner : Inner) : Reader (Option Expr) := do
  let isThere ← secondIs fun next => next.isMark "("
  if isThere && (← atKeyword "UNNEST") then
    advance
    let lists ← wrapped (commaList inner.equality)
    let isNumbered ← acceptAll [(·.isWord "WITH"), (·.isWord "ORDINALITY")]
    return some (.phrase ([.word "UNNEST(", .phrase (separated ", " lists),
      .word (if isNumbered then ") WITH ORDINALITY" else ")")] ++ (← tableAlias inner [])))
  else return none

def lateralTable (inner : Inner) : Reader (Option Expr) := do
  if ← keyword "LATERAL" then
    match ← oneOf [inner.nestedTable, tableSource inner] with
    | some source => return some (.phrase ([.word "LATERAL ", source] ++ (← tableAlias inner [])))
    | none => return none
  else return none

def singleTable (inner : Inner) (kept : List String) : Reader (Option Expr) := do
  match ← oneOf [lateralTable inner, unnested inner, writtenRows inner true, inner.nestedTable] with
  | some source => return some source
  | none =>
    match ← onlyTable inner with
    | some source => return some (.phrase (source :: (← tableTail inner kept)))
    | none => return none

structure JoinWords where
  method : Option String
  side : Option String
  kind : Option String

def JoinWords.toList (words : JoinWords) : List String :=
  words.method.toList ++ words.side.toList ++ words.kind.toList

def joinWords : Reader JoinWords := do
  let method ← oneKeyword ["ASOF", "NATURAL"]
  let side ← oneKeyword ["LEFT", "RIGHT", "FULL"]
  let kind ← oneKeyword ["ANTI", "CROSS", "INNER", "OUTER", "SEMI", "STRAIGHT_JOIN"]
  return ⟨method, side, kind⟩

def joinCondition (inner : Inner) : Reader (List Expr) := do
  if ← keyword "ON" then return [.word " ON ", ← required inner.disjunction]
  else if ← keyword "USING" then
    return [.word " USING (", shownNamesOf (← nameList), .word ")"]
  else return []

def outerCondition (inner : Inner) (joins : Reader (List Expr)) : Reader (List Expr) := do
  let start ← get
  let joined ← joins
  let condition ← if joined.isEmpty then pure [] else joinCondition inner
  if condition.isEmpty then
    set start
    return []
  else return joined ++ condition

def impliedCondition (dialect : Dialect) (words : JoinWords) : List Expr :=
  let isPlain := words.method.isNone && words.kind.all ["INNER", "OUTER"].contains
  if dialect == .sqlite && isPlain then [.word " ON TRUE"] else []

/-- A joined table behind the ones before it. A join without words and condition is a comma, which
binds like any other join in SQLite. -/
def joinedTableFrom (inner : Inner) : Nat → Reader (Option Expr)
  | 0 => return none
  | bound + 1 => do
    let dialect ← dialect
    if ← mark "," then
      let lead := if dialect == .sqlite then " CROSS JOIN " else ", "
      return (← attemptAll (singleTable inner [])).map (behind lead)
    else attempt do
      let words ← joinWords
      let isStraight := words.kind == some "STRAIGHT_JOIN"
      let isJoin ← if isStraight then pure true else keyword "JOIN"
      if !isJoin then return none
      else match ← singleTable inner [] with
        | none => return none
        | some table =>
          let own ← joinCondition inner
          let isNested := own.isEmpty && words.method.isNone && words.kind != some "CROSS"
          let outer ← if isNested then outerCondition inner (sequence (joinedTableFrom inner bound))
            else pure own
          let condition := if outer.isEmpty then impliedCondition dialect words else outer
          let lead := if words.toList.isEmpty && condition.isEmpty then ", "
            else String.join (words.toList.map (" " ++ ·)) ++ (if isStraight then " " else " JOIN ")
          return some (.phrase (.word lead :: table :: condition))

def joinedTable (inner : Inner) : Reader (Option Expr) := do joinedTableFrom inner (← remaining)

/-- A table with all that is joined to it. The words of `kept` do not rename it. -/
def tableWith (inner : Inner) (kept : List String) : Reader (Option Expr) := do
  match ← singleTable inner kept with
  | none => return none
  | some first => return some (.phrase (first :: (← sequence (joinedTable inner))))

def table (inner : Inner) : Reader (Option Expr) := tableWith inner []

end DdlSchema.Ddl.Reader
