import DdlSchema.Ddl.Lexer
import DdlSchema.Ddl.Reader.Table

/-! Reading queries. They are only ever written back: the clauses of a query may stand in any order and
are written back in the usual one. -/

set_option autoImplicit false

namespace DdlSchema.Ddl.Reader

open DdlSchema.Text

inductive QueryClause where
  | condition
  | groups
  | having
  | cluster
  | distribution
  | sorting
  | windows
  | qualification
  | order
  | limit
  | offset
  | fetch
  | locks
  | sample
  deriving DecidableEq

def QueryClause.all : List QueryClause :=
  [.condition, .groups, .having, .cluster, .distribution, .sorting, .windows, .qualification, .order,
    .limit, .offset, .fetch, .locks, .sample]

abbrev QueryClauses : Type := List (QueryClause × List Expr)

def QueryClauses.covers (clauses : QueryClauses) (clause : QueryClause) : Bool :=
  clauses.any fun (other, _) => other = clause ||
    (other = .limit && clause = .fetch) || (other = .fetch && clause = .limit)

def QueryClauses.parts (clauses : QueryClauses) : List Expr :=
  QueryClause.all.flatMap fun clause => (clauses.lookup clause).getD []

def leading (words : String) (body : List Expr) : List Expr :=
  .word (" " ++ words ++ (if body.isEmpty then "" else " ")) :: body

def commaParts (values : List Expr) : List Expr :=
  if values.isEmpty then [] else [.phrase (separated ", " values)]

def groupCube (inner : Inner) (isBehindWith : Bool) : Reader (Option Expr) := do
  match ← oneKeyword ["CUBE", "ROLLUP"] with
  | none => return none
  | some word =>
    if isBehindWith then return some (.word ("WITH " ++ word))
    else
      let values ← wrapped (commaList inner.bitwise)
      return some (.phrase [.word (word ++ " ("), .phrase (separated ", " values), .word ")"])

def groupingSetsFrom (inner : Inner) : Nat → Reader (Option Expr)
  | 0 => return none
  | bound + 1 => do
    if ← keyword "GROUPING SETS" then
      let member := oneOf [groupingSetsFrom inner bound, groupCube inner false, inner.bitwise]
      let sets ← wrapped (commaList member)
      return some (.phrase [.word "GROUPING SETS (", .phrase (separated ", " sets), .word ")"])
    else return none

structure Grouping where
  values : List Expr := []
  sets : List Expr := []
  cubes : List Expr := []
  rollups : List Expr := []
  hasTotals : Bool := false

def Grouping.parts (grouping : Grouping) : List Expr :=
  let shaped := grouping.sets ++ grouping.cubes ++ grouping.rollups ++
    (if grouping.hasTotals then [.word "WITH TOTALS"] else [])
  let isBare := match shaped with
    | [.word "WITH CUBE"] | [.word "WITH ROLLUP"] => true
    | _ => false
  let gap := if shaped.isEmpty then []
    else if grouping.values.isEmpty || isBare then [.word " "] else [.word ", "]
  (if grouping.values.isEmpty then [] else .word " " :: commaParts grouping.values) ++ gap ++
    commaParts shaped

def groupingFrom (inner : Inner) : Nat → Grouping → Reader Grouping
  | 0, grouping => return grouping
  | bound + 1, grouping => do
    let values ← commaList do
      let isShaped ← peekIs fun token => token.isAnyWord ["CUBE", "ROLLUP"]
      if isShaped then return none else inner.disjunction
    let grouping := { grouping with values := grouping.values ++ values }
    let start ← get
    let isBehindWith ← keyword "WITH"
    let word := (← peek).map Token.upper
    match ← groupCube inner isBehindWith with
    | some shaped =>
      if word == some "ROLLUP" then
        groupingFrom inner bound { grouping with rollups := grouping.rollups ++ [shaped] }
      else groupingFrom inner bound { grouping with cubes := grouping.cubes ++ [shaped] }
    | none =>
      match ← groupingSetsFrom inner (← remaining) with
      | some shaped => groupingFrom inner bound { grouping with sets := grouping.sets ++ [shaped] }
      | none =>
        let hasTotals ← if isBehindWith then spelled "TOTALS" else pure false
        if hasTotals then groupingFrom inner bound { grouping with hasTotals }
        else
          set start
          return grouping

def groupClause (inner : Inner) : Reader (List Expr) := do
  let manner ← oneKeyword ["ALL", "DISTINCT"]
  let grouping ← groupingFrom inner (← remaining) {}
  return .word (" GROUP BY" ++ manner.elim "" (" " ++ ·)) :: grouping.parts

def namedWindow (inner : Inner) : Reader (Option Expr) := do
  let name ← anyName
  let _ ← keyword "AS"
  let named := name.toList.map Expr.name
  if ← openList then
    return some (.phrase (named ++ [.word " AS (", ← wrapped (windowBody inner), .word ")"]))
  else match name, ← softName with
    | none, none => return none
    | _, base => return some (.phrase (named ++ .word " AS " :: base.toList.map Expr.name))

def limitManner (usual : String) : Reader String := do
  let share := if ← either (keyword "PERCENT") (mark "%") then " PERCENT" else ""
  let count := if (← oneKeyword ["ROW", "ROWS"]).isSome then " ROWS" else ""
  let _ ← spelled "ONLY"
  if ← allSpelled ["WITH", "TIES"] then return share ++ count ++ " WITH TIES"
  else if share.isEmpty && count.isEmpty then return usual
  else return share ++ count ++ (if count.isEmpty then "" else " ONLY")

def limitGroups (inner : Inner) : Reader (List Expr) := do
  if ← spelled "BY" then return leading "BY" (commaParts (← commaList inner.bitwise)) else return []

/-- The number of rows behind LIMIT; a percent sign belongs to the limit and is no operator. -/
def limitAmount (inner : Inner) : Reader (Option Expr) := do
  let start ← get
  match ← attemptAll inner.term with
  | some (.binary "%" _ _) =>
    set start
    factor inner
  | some value => return some value
  | none => factor inner

def limitClause (inner : Inner) : Reader QueryClauses := do
  let first ← limitAmount inner
  let manner ← limitManner ""
  if ← mark "," then
    let amount ← inner.term
    let groups ← limitGroups inner
    return [(.limit, leading "LIMIT" (amount.toList ++ [.word manner])),
      (.offset, leading "OFFSET" (first.toList ++ groups))]
  else
    let groups ← limitGroups inner
    return [(.limit, leading "LIMIT" (first.toList ++ .word manner :: groups))]

def fetchClause (inner : Inner) : Reader QueryClauses := do
  let side := (← oneKeyword ["FIRST", "NEXT"]).getD "FIRST"
  let isCounted ← peekIs fun token => !token.isAnyWord ["PERCENT", "ROW", "ROWS"]
  let count ← if isCounted then inner.field .strict else pure none
  let manner ← limitManner " ROWS ONLY"
  return [(.fetch, leading ("FETCH " ++ side) (count.toList) ++ [.word manner])]

def offsetClause (inner : Inner) : Reader QueryClauses := do
  let count ← inner.term
  let _ ← oneKeyword ["ROW", "ROWS"]
  return [(.offset, leading "OFFSET" (count.toList ++ (← limitGroups inner)))]

def rowLock (inner : Inner) : Reader (Option Unit) := do
  match ← onePhrase ["FOR UPDATE", "FOR SHARE", "LOCK IN SHARE MODE", "FOR KEY SHARE",
      "FOR NO KEY UPDATE"] with
  | none => return none
  | some _ =>
    if ← spelled "OF" then
      let _ ← commaList (onlyTable inner)
    if ← spelled "NOWAIT" then return some ()
    else if ← spelled "WAIT" then
      let _ ← orElse literal (parenthesis inner)
    else
      let _ ← allSpelled ["SKIP", "LOCKED"]
    return some ()

/-- A clause that begins with the word, which is read already. -/
def clauseBehind (inner : Inner) (word : String) : Reader QueryClauses := do
  let valued := fun (clause : QueryClause) => do
    return [(clause, leading word [← required inner.disjunction])]
  let sorted := fun (clause : QueryClause) => do return [(clause, leading word [← sortKeys inner])]
  match word with
  | "WHERE" => valued .condition
  | "HAVING" => valued .having
  | "QUALIFY" => valued .qualification
  | "GROUP BY" => return [(.groups, ← groupClause inner)]
  | "ORDER BY" => sorted .order
  | "CLUSTER BY" => sorted .cluster
  | "DISTRIBUTE BY" => sorted .distribution
  | "SORT BY" => sorted .sorting
  | "WINDOW" => return [(.windows, leading word (commaParts (← commaList (namedWindow inner))))]
  | "LIMIT" => limitClause inner
  | "FETCH" => fetchClause inner
  | _ => offsetClause inner

def nextClause (inner : Inner) : Reader (Option QueryClauses) := do
  let locks ← sequence (rowLock inner)
  if !locks.isEmpty then return some [(.locks, [])]
  else
    let part ← sample inner
    if !part.isEmpty then return some [(.sample, part)]
    else match ← oneKeyword ["WHERE", "GROUP BY", "HAVING", "QUALIFY", "WINDOW", "ORDER BY", "LIMIT",
        "FETCH", "OFFSET", "CLUSTER BY", "DISTRIBUTE BY", "SORT BY"] with
      | some word => some <$> clauseBehind inner word
      | none => return none

def clausesFrom (inner : Inner) : Nat → QueryClauses → Reader QueryClauses
  | 0, clauses => return clauses
  | bound + 1, clauses => do
    let first ← peek
    match ← nextClause inner with
    | none => return clauses
    | some found =>
      if (found.take 1).any fun (clause, _) => clauses.covers clause then
        failAt first ("Found multiple '" ++ first.elim "" Token.upper ++ "' clauses")
      else clausesFrom inner bound (found ++ clauses)

def queryTail (inner : Inner) : Reader (List Expr) := do
  let joins ← sequence (joinedTable inner)
  return joins ++ (← clausesFrom inner (← remaining) []).parts

/-- A query with what follows it; anything else is left as it is. -/
def modified (inner : Inner) (value : Expr) : Reader Expr := do
  if value.isQuery then
    let tail ← queryTail inner
    return if tail.isEmpty then value else .query (value :: tail)
  else return value

def combinedFrom (inner : Inner) : Nat → Expr → Reader Expr
  | 0, value => return value
  | bound + 1, value => do
    let start ← get
    let words ← joinWords
    match ← oneKeyword ["UNION", "EXCEPT", "INTERSECT"] with
    | none =>
      set start
      return value
    | some word =>
      let isDistinct ← keyword "DISTINCT"
      let isAll ← if isDistinct then pure false else keyword "ALL"
      let sides := words.side.toList ++ words.kind.toList
      let isNamed ← either (allSpelled ["BY", "NAME"]) (allSpelled ["STRICT", "CORRESPONDING"])
      let isMatched ← spelled "CORRESPONDING"
      let sides := if isMatched && sides.isEmpty then ["INNER"] else sides
      let list ← if isNamed || isMatched then oneSpelled ["ON", "BY"] else pure none
      let columns ← if list.isSome then wrapped (commaList inner.column) else pure []
      let lead := String.join (sides.map (" " ++ ·)) ++ " " ++ word ++ (if isAll then " ALL" else "") ++
        (if isNamed || isMatched then " BY NAME" else "")
      let list := if columns.isEmpty then []
        else [Expr.word " ON (", .phrase (separated ", " columns), .word ")"]
      let next ← required inner.operandQuery
      combinedFrom inner bound (.query ([value, .word lead] ++ list ++ [.word " ", next]))

def combined (inner : Inner) (value : Expr) : Reader Expr := do
  combinedFrom inner (← remaining) value

def asQuery (value : Expr) : Expr :=
  match value with
  | .query [.phrase (.word "VALUES " :: rows)] =>
    .query [.word "SELECT * FROM ", .paren (.phrase (.word "VALUES " :: rows)), .word " AS _values"]
  | .query (.paren (.phrase (.word "VALUES " :: rows)) :: name) =>
    .query (.word "SELECT * FROM " :: .paren (.phrase (.word "VALUES " :: rows)) :: name)
  | value => value

/-- A query with the expressions that may begin one: a query in parentheses is a value as well. -/
def queryStatement (inner : Inner) : Reader (Option Expr) := do
  match ← aliased false inner.disjunction with
  | some value => some <$> (combined inner value >>= modified inner)
  | none =>
    match ← inner.query with
    | some value => some <$> modified inner value
    | none => return none

/-- A query under a name, behind WITH. `body` reads what is in its parentheses. -/
def namedQuery (inner : Inner) (body : Reader (Option Expr)) : Reader (Option Expr) := attempt do
  let name ← rowsName inner []
  let isNamed := match name with
    | .name _ :: _ => true
    | _ => false
  unless isNamed do fail "Expected CTE to have alias"
  let keys ← if ← allSpelled ["USING", "KEY"] then some <$> nameList else pure none
  unless ← keyword "AS" do return none
  let manner ← if ← allSpelled ["NOT", "MATERIALIZED"] then pure "NOT MATERIALIZED "
    else if ← spelled "MATERIALIZED" then pure "MATERIALIZED " else pure ""
  let query ← wrapped body
  let shownKeys := keys.elim [] fun names => [Expr.word " USING KEY (", shownNamesOf names, .word ")"]
  return some (.phrase (name ++ shownKeys ++ [.word (" AS " ++ manner ++ "("),
    (query.map asQuery).getD (.word ""), .word ")"]))

def namedQueriesFrom (query : Reader (Option Expr)) : Nat → Reader (List Expr)
  | 0 => return []
  | bound + 1 => do
    let first ← query
    let isComma ← mark ","
    let isWith ← keyword "WITH"
    if isComma || isWith then return first.toList ++ (← namedQueriesFrom query bound)
    else return first.toList

/-- The named queries in front of a statement; nothing where there are none. -/
def namedQueries (inner : Inner) (body : Reader (Option Expr)) : Reader (Option Expr) := do
  if ← keyword "WITH" then
    let lead := if ← keyword "RECURSIVE" then "WITH RECURSIVE " else "WITH "
    let queries ← namedQueriesFrom (namedQuery inner body) (← remaining)
    return some (.phrase (.word lead :: separated ", " queries ++ [.word " "]))
  else return none

def unwrappedQuery : Expr → Expr
  | .paren inner => unwrappedQuery inner
  | value => value

def introducedQuery (inner : Inner) : Reader (Option Expr) := do
  match ← namedQueries inner (queryStatement inner) with
  | none => return none
  | some named =>
    match ← queryStatement inner with
    | none => fail "Failed to parse any statement following CTE"
    | some value =>
      if value.isQuery then return some (.query [named, unwrappedQuery value])
      else fail "column does not support CTE"

/-- A hint as it is understood: calls and words, or else its text. -/
def hint (inner : Inner) : Reader (Option String) := do
  match ← ofKind .hint with
  | none => return none
  | some content =>
    let dialect ← dialect
    let member := orElse inner.call (return (← plainWord).map fun word => .word (upperString word))
    let body := sequence do
      let members ← commaList member
      return if members.isEmpty then none else some members
    let input := fun (tokens : List Token) => (⟨none, tokens, []⟩ : Input)
    match tokenize dialect content.toList with
    | .error problem => throw problem
    | .ok tokens =>
      match body dialect (input tokens) with
      | .ok (members, ⟨_, [], _⟩) =>
        return some (commaJoined (members.flatten.map fun member => member.print none))
      | _ => return some (String.ofList (trim content.toList))

def distinctness (inner : Inner) : Reader (List Expr) := do
  let isMember ← secondIs fun next => next.isMark "."
  if isMember || (← peekSecond).isNone then return []
  else
    let isAll ← keyword "ALL"
    let isRows := (← dialect) == .mysql && (← atKeyword "DISTINCTROW")
    let isDistinct ← if isRows then keyword "DISTINCTROW" else keyword "DISTINCT"
    let base ← if isDistinct then keyword "ON" else pure false
    let keys ← if base then valueRow inner else pure none
    if isAll && isDistinct then fail "Cannot specify both ALL and DISTINCT after SELECT"
    else if isDistinct then
      return .word " DISTINCT" :: (keys.toList.flatMap fun keys => [.word " ON ", keys])
    else return []

def mannerWords : List String :=
  ["HIGH_PRIORITY", "STRAIGHT_JOIN", "SQL_SMALL_RESULT", "SQL_BIG_RESULT", "SQL_BUFFER_RESULT",
    "SQL_NO_CACHE", "SQL_CALC_FOUND_ROWS"]

def intoTable (inner : Inner) : Reader (List Expr) := do
  if ← keyword "INTO" then
    let isTemporary := (← oneKeyword ["TEMPORARY", "TEMP"]).isSome
    let _ ← spelled "UNLOGGED"
    let _ ← keyword "TABLE"
    let lead := if isTemporary then "CREATE TEMPORARY TABLE " else "CREATE TABLE "
    return [.word lead, ← required (onlyTable inner), .word " AS "]
  else return []

/-- A query behind SELECT. A table in front of it counts unless it has its own. -/
def selection (inner : Inner) (source : List Expr) : Reader Expr := do
  let isMysql := (← dialect) == .mysql
  let hint ← hint inner
  let distinct ← distinctness inner
  let start ← get
  let isKind ← keyword "AS"
  let kind ← if isKind then oneSpelled ["STRUCT", "VALUE"] else pure none
  if kind.isNone then set start
  let manners ← if isMysql then sequence (oneSpelled mannerWords) else pure []
  let values ← commaList (aliased false inner.disjunction)
  let target ← intoTable inner
  let isSource ← if source.isEmpty then keyword "FROM" else pure false
  let own ← if isSource then pure [Expr.word " FROM ", ← required (singleTable inner [])]
    else pure source
  let tail ← queryTail inner
  return .query (target ++ [.word "SELECT"] ++
    (hint.elim [] fun hint => [.word (" /*+ " ++ hint ++ " */")]) ++ distinct ++
    manners.map (fun word => .word (" " ++ word)) ++ (kind.elim [] fun kind => [.word (" AS " ++ kind)]) ++
    (if values.isEmpty then [] else .word " " :: commaParts values) ++ own ++ tail)

/-- A query without those that are put together with it: one that begins with SELECT, or with FROM, or
that is all of a table, or rows that are written out. -/
def plainQuery (inner : Inner) : Reader (Option Expr) := do
  let source ← if ← keyword "FROM" then
    pure [Expr.word " FROM ", ← required (table inner)] else pure []
  if ← keyword "SELECT" then some <$> selection inner source
  else if !source.isEmpty then
    return some (.query (.word "SELECT *" :: source ++ (← queryTail inner)))
  else if (← dialect) == .postgresql && (← atKeyword "TABLE") then
    advance
    let target ← required (singleTable inner [])
    return some (.query ([.word "SELECT * FROM ", target] ++ (← queryTail inner)))
  else return (← writtenRows inner false).map fun rows => match rows with
    | .phrase parts => .query parts
    | rows => rows

def enclosedQuery (inner : Inner) : Reader (Option Expr) := do
  if ← mark "(" then
    let content ← inner.operandQuery
    let whole ← match content with
      | some value => some <$> (combined inner value >>= modified inner)
      | none => pure none
    close
    return whole.map Expr.paren
  else return none

def namedEnclosed (inner : Inner) (enclosed : Reader (Option Expr)) : Reader (Option Expr) := do
  match ← enclosed with
  | none => return none
  | some query =>
    let name ← tableAlias inner []
    let sample ← sample inner
    return some (if name.isEmpty && sample.isEmpty then query else .phrase (query :: name ++ sample))

def operandQuery (inner : Inner) : Reader (Option Expr) := do
  if ← atKeyword "WITH" then introducedQuery inner
  else if ← openList then namedEnclosed inner (enclosedQuery inner)
  else plainQuery inner

def query (inner : Inner) : Reader (Option Expr) := do
  if ← atKeyword "WITH" then introducedQuery inner
  else match ← plainQuery inner with
    | some first => some <$> combined inner first
    | none => return none

/-- A query that stands behind AS, in parentheses or not; it gets no name of its own. -/
def fillingQuery (inner : Inner) : Reader (Option Expr) := do
  let isOpen ← openList
  match ← if isOpen then enclosedQuery inner else query inner with
  | some value => some <$> (combined inner value >>= modified inner)
  | none => return none

/-- What stands in parentheses where a table is expected: a query or a table with its joins. -/
def enclosedTable (inner : Inner) : Reader (Option Expr) := do
  if ← mark "(" then
    let whole ← match ← inner.table with
      | some value =>
        let value ← combined inner value
        let tail ← queryTail inner
        pure (some (if tail.isEmpty then value else .phrase (value :: tail)))
      | none => pure none
    close
    return whole.map Expr.paren
  else return none

def nestedTable (inner : Inner) : Reader (Option Expr) := do
  if ← openList then namedEnclosed inner (enclosedTable inner) else query inner

end DdlSchema.Ddl.Reader
