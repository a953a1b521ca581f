import DdlSchema.Ddl.KeyName
import DdlSchema.Ddl.Reader.SpecialCall

/-! Reading operands: literals, parentheses, calls, columns, and what is attached to them. -/

set_option autoImplicit false

namespace DdlSchema.Ddl.Reader

open DdlSchema.Text

def atLimit : Reader Bool := do
  let isWord ← peekIs fun token => token.isAnyWord ["LIMIT", "OFFSET"]
  let isFollowed ← secondIs fun next => next.kind == .number || next.isMark "(" ||
    next.kind == .word || next.isMark "?" || next.isMark ":" || next.isMark "@" || next.isMark "$"
  return isWord && isFollowed

/-- The name behind AS, or behind nothing where the name alone suffices. -/
def aliasName (isWorded : Bool) : Reader (Option Name) := do
  if isWorded then anyName
  else
    let isString ← peekIs fun token => token.kind == .string
    if isString && (← dialect) != .postgresql then anyName else softName

def aliased (isExplicit : Bool) (body : Reader (Option Expr)) : Reader (Option Expr) := do
  match ← body with
  | none => return none
  | some value =>
    if ← atLimit then return some value
    else
      let isWorded ← keyword "AS"
      if isExplicit && !isWorded then return some value
      else if ← mark "(" then
        let names ← commaList (if isWorded then anyName else softName)
        close
        return some (.phrase [value, .word " AS (", .phrase (separated ", " (names.map Expr.name)),
          .word ")"])
      else match ← aliasName isWorded with
        | some name => return some (.binary "AS" value (.name name))
        | none => return some value

def choiceBranch (inner : Inner) : Reader (Option (List Expr)) := do
  if ← keyword "WHEN" then
    let condition ← required inner.disjunction
    let _ ← keyword "THEN"
    return some [.word " WHEN ", condition, .word " THEN ", ← required inner.disjunction]
  else return none

def choice (inner : Inner) : Reader (Option Expr) := do
  let comments ← takeComments
  let subject ← inner.disjunction
  let branches ← sequence (choiceBranch inner)
  let otherwise ← if ← keyword "ELSE" then inner.disjunction else pure none
  unless ← keyword "END" do failBehind "Expected END after CASE"
  let comments ← if comments.isEmpty then takeComments else pure comments
  let lead := .word "CASE" :: subject.toList.flatMap fun value => [.word " ", value]
  let tail := (otherwise.toList.flatMap fun value => [.word " ELSE ", value]) ++ [.word " END"]
  return some (withComments (.phrase (lead ++ branches.flatten ++ tail)) comments)

def condition (inner : Inner) : Reader (Option Expr) := do
  if ← openList then
    return some (.known "IF" (← wrapped (commaList (aliased true inner.disjunction))))
  else match ← inner.disjunction with
    | none => return none
    | some value =>
      let _ ← keyword "THEN"
      let result ← required inner.disjunction
      let otherwise ← if ← keyword "ELSE" then inner.disjunction else pure none
      let _ ← keyword "END"
      return some (.known "IF" (value :: result :: otherwise.toList))

/-- One of several values; a list in parentheses follows without a blank. -/
def anyOf (inner : Inner) : Reader (Option Expr) := do
  let value ← required inner.bitwise
  let isList := match value.bare with
    | .paren _ => !value.isQuery
    | _ => false
  return some (behind (if isList then "ANY" else "ANY ") value)

def rootOf (inner : Inner) : Reader (Option Expr) := do
  return (← inner.column).map (behind "CONNECT_BY_ROOT ")

def nextOf (inner : Inner) : Reader (Option Expr) := do
  if ← allSpelled ["VALUE", "FOR"] then
    return some (behind "NEXT VALUE FOR " (← required inner.column))
  else return none

def worded (inner : Inner) : Reader (Option Expr) := do
  let isWord := fun (word : String) (token : Token) =>
    token.kind != .quotedName && token.kind != .string && token.upper == word
  let begun := fun (word : String) (body : Reader (Option Expr)) => attempt do
    if ← accept (isWord word) then body else return none
  let isMember ← secondIs fun next => next.isMark "."
  let isCase ← peekIs (isWord "CASE")
  if isCase && isMember then return none
  else
    let value ← oneOf [begun "CASE" (choice inner), begun "IF" (condition inner),
      begun "ANY" (anyOf inner), begun "CONNECT_BY_ROOT" (rootOf inner), begun "NEXT" (nextOf inner)]
    match value with
    | some value => some <$> windowed inner value
    | none => return none

def bareCall : Reader (Option Expr) := do
  let dialect ← dialect
  match ← take? fun token => token.kind == .word &&
      ((momentOf? token.upper).isSome || (bareFunction? dialect token.upper).isSome) with
  | none => return none
  | some token =>
    match momentOf? token.upper with
    | some moment => some <$> remarked (.moment moment [])
    | none => some <$> remarked (.known token.upper [])

def lambdaNames : Reader (Option (List Name)) := do
  if ← mark "(" then
    let names ← commaList anyName
    return if ← mark ")" then some names else none
  else return (← anyName).map fun name => [name]

def lambda (inner : Inner) : Reader (Option Expr) := attempt do
  match ← lambdaNames with
  | none => return none
  | some names =>
    match ← oneMark ["->", "=>"] with
    | some "=>" =>
      let name := (names.head?.map Name.text).getD ""
      return some (.binary "=>" (.word name) (← required inner.disjunction))
    | some symbol =>
      let body ← required inner.disjunction
      return some (match names with
        | [name] => .binary symbol (.name name) body
        | names => .binary symbol (.tuple (names.map Expr.name)) body)
    | none => return none

/-- The value of an argument; a function that is not known may give it a name. -/
def argumentValue (inner : Inner) (isNamed : Bool) : Reader (Option Expr) := do
  let isVariadic := (← dialect) == .postgresql && (← atKeyword "VARIADIC")
  if ← keyword "DISTINCT" then return some (behind "DISTINCT " (← listed inner))
  else if isVariadic then
    advance
    return some (behind "VARIADIC " (← required inner.disjunction))
  else if isNamed then orElse inner.query (aliased true inner.disjunction)
  else orElse inner.query inner.disjunction

def argument (inner : Inner) (isNamed : Bool) : Reader (Option Expr) := do
  match ← lambda inner with
  | some value => return some value
  | none =>
    match ← argumentValue inner isNamed with
    | none => return none
    | some value =>
      let treated ← nullTreatment value
      let order ← clause "ORDER BY" (sortKeys inner)
      let limit ← clause "LIMIT" (required inner.term)
      let clauses := [order, limit].filter fun parts => !parts.isEmpty
      if clauses.isEmpty then return some treated
      else return some (.phrase (treated :: clauses.flatMap fun parts => .word " " :: parts))

def queryTest (inner : Inner) (token : Token) : Reader (Option Expr) := do
  let isTest := token.isAnyWord ["ALL", "ANY", "EXISTS", "SOME"]
  let isQuery ← peekIs fun next => next.isAnyWord ["SELECT", "WITH", "FROM"]
  if isTest && isQuery then
    match ← inner.query with
    | some query =>
      let lead := if token.isWord "SOME" then "ANY("
        else token.upper ++ (if token.isWord "EXISTS" then "(" else " (")
      return some (.phrase [.word lead, query, .word ")"])
    | none => return none
  else return none

def roundedCall (token : Token) (arguments : List Expr) : Reader Expr := do
  let unit ← if ← spelled "TO" then anyText else pure none
  return match unit with
    | some unit => .known token.upper [.phrase (arguments.take 1 ++ [.word (" TO " ++ unit)])]
    | none => .known token.upper (arguments.take 2)

/-- The arguments of a call behind the opening parenthesis, and what the call stands for. -/
def callBody (inner : Inner) (mode : FieldMode) (token : Token) : Reader Expr := do
  let dialect ← dialect
  let special := if mode == .member || token.kind == .string then none
    else specialBody? inner dialect token.upper
  match special with
  | some body => remarked (← body)
  | none =>
    match ← queryTest inner token with
    | some value => return value
    | none =>
      let isKnown := mode != .member && isKnownCall dialect token.upper
      let arguments ← commaList (argument inner (!isKnown))
      if mode == .member then return .call (nameOf token) arguments
      else if isSpelled "CEIL" token || isSpelled "FLOOR" token then roundedCall token arguments
      else callNamed token arguments

def listedCall (inner : Inner) (mode : FieldMode) : Reader (Option Expr) := do
  let dialect ← dialect
  let mayCall := if mode == .strict then isFunctionWord dialect
    else fun token => !isReserved dialect token
  match ← take? mayCall with
  | none => return none
  | some token =>
    advance
    let value := withComments (← callBody inner mode token) token.comments
    close
    some <$> windowed inner (← remarked value)

/-- A call: one that its words tell apart, a name with arguments, or a word alone. -/
def call (inner : Inner) (mode : FieldMode) : Reader (Option Expr) := do
  let isMember := mode == .member
  match ← if isMember then pure none else worded inner with
  | some value => return some value
  | none =>
    if ← secondIs fun next => next.isMark "(" then listedCall inner mode
    else if isMember then return none
    else bareCall

/-- What the values between parentheses stand for. Behind a query the others are left out. -/
def enclosed (inner : Inner) (members : List Expr) : Reader Expr := do
  match members with
  | [] => return .tuple []
  | first :: _ =>
    let value ← inner.modified first
    let isList := (← previous).any fun token => token.isMark ","
    match value.bare with
    | .paren _ =>
      if value.isQuery then return .paren (← inner.combined value)
      else return if isList || members.length > 1 then .tuple members else .paren value
    | .query _ => return .paren value
    | _ => return if isList || members.length > 1 then .tuple members else .paren value

def parenthesis (inner : Inner) : Reader (Option Expr) := do
  if ← mark "(" then
    let comments ← takeComments
    let members ← match ← inner.query with
      | some query => pure [query]
      | none => commaList (aliased false inner.disjunction)
    let content ← enclosed inner members
    let content := withComments (← remarked content) comments
    close
    some <$> remarked content
  else return none

def nameField (mode : FieldMode) : Reader (Option Expr) := do
  match ← ofKind .quotedName with
  | some name => return some (.name ⟨name, true⟩)
  | none =>
    orElse givenValue
      (return (← if mode == .strict then softName else anyName).map Expr.name)

def starClause (inner : Inner) (words : List String) (shown : String) : Reader (List Expr) := do
  if (← oneSpelled words).isSome then
    let columns ← if ← openList then wrapped (commaList (aliased false inner.disjunction))
      else Option.toList <$> aliased true inner.disjunction
    if columns.isEmpty then return []
    else return [.word (" " ++ shown ++ " ("), .phrase (separated ", " columns), .word ")"]
  else return []

/-- A literal; behind a star, what is said of the columns that it stands for. -/
def starred (inner : Inner) : Reader (Option Expr) := do
  match ← literal with
  | some .star =>
    let kept ← starClause inner ["EXCEPT", "EXCLUDE"] "EXCEPT"
    let replaced ← starClause inner ["REPLACE"] "REPLACE"
    let named ← starClause inner ["RENAME"] "RENAME"
    let clauses := kept ++ replaced ++ named
    return some (if clauses.isEmpty then .star else .phrase (.star :: clauses))
  | value => return value

def field (inner : Inner) (mode : FieldMode) : Reader (Option Expr) :=
  let primary := orElse (starred inner) (parenthesis inner)
  match mode with
  | .member => oneOf [call inner mode, primary, nameField mode]
  | mode => oneOf [primary, call inner mode, nameField mode]

def asColumn : Expr → Expr
  | .name name => .column [] name
  | value => value

def columnReference (inner : Inner) : Reader (Option Expr) := do
  return (← field inner .strict).map asColumn

/-- What a bracket holds: a value, or two ends with a colon between them. -/
def bracketMember (inner : Inner) : Reader (Option Expr) := do
  let first ← if ← atMark ":" then pure none else aliased true inner.disjunction
  if ← mark ":" then
    let last ← inner.disjunction
    return some (.phrase (first.toList ++ .word ":" :: last.toList))
  else return first

def bracketMembers (inner : Inner) : Reader (List Expr) := do
  let members ← commaList (bracketMember inner)
  unless ← mark "]" do fail "Expected ]"
  return members

def braceMember (inner : Inner) : Reader (Option Expr) := do
  match ← aliased true inner.disjunction with
  | none => return none
  | some value =>
    if ← mark ":" then
      let content ← required inner.disjunction
      return some (.binary "AS" content (.name ⟨value.ownName, false⟩))
    else return some value

def braced (inner : Inner) : Reader Expr := do
  let members ← commaList (braceMember inner)
  unless ← mark "\x7d" do fail "Expected \x7d"
  return .known "STRUCT" members

/-- What brackets behind a value make of it. Places in PostgreSQL count from one; they are kept as
counted from nought. -/
def subscripted (dialect : Dialect) (value : Expr) (members : List Expr) : Expr :=
  let isArray := match value.bare with
    | .column [] name => upperString name.text == "ARRAY"
    | _ => false
  match members with
  | [place] =>
    if isArray then .array members
    else if dialect == .postgresql && !value.isNoArray then .subscript value [place.shifted (-1)]
    else .subscript value members
  | members => if isArray then .array members else .subscript value members

def qualified (value : Expr) (comments : List String) (member : Expr) : Expr :=
  match value, comments, member with
  | .column outer own, [], .name name => .column (outer ++ [own]) name
  | .remark (.column outer own) remarks, [], .name name =>
    .remark (.column (outer ++ [own]) name) remarks
  | value, comments, member => .binary "." (withComments value comments) member

def stepOperand (inner : Inner) : Reader Expr := required (orElse (columnReference inner) inner.bitwise)

def attachedFrom (inner : Inner) : Nat → Expr → Reader Expr
  | 0, value => return value
  | bound + 1, value => do
    if ← mark "[" then
      attachedFrom inner bound (subscripted (← dialect) value (← bracketMembers inner))
    else if ← mark "\x7b" then attachedFrom inner bound (← braced inner)
    else if ← mark "::" then
      match ← inner.dataType {} with
      | some type => attachedFrom inner bound (← remarked (.cast value type))
      | none => fail "Expected type"
    else if ← mark "." then
      let comments ← takeComments
      match ← field inner .member with
      | some member => attachedFrom inner bound (← remarked (qualified value comments member))
      | none => fail "Expecting name"
    else match ← oneMark (if (← dialect) == .sqlite then ["#>", "#>>", "?"]
      else ["->", "->>", "#>", "#>>", "?"]) with
      | some symbol =>
        let path ← stepOperand inner
        attachedFrom inner bound (documentStep (← dialect) symbol value path)
      | none => return value

def attached (inner : Inner) (value : Expr) : Reader Expr := do
  attachedFrom inner (← remaining) value

def column (inner : Inner) : Reader (Option Expr) := do
  match ← field inner .strict with
  | some (.name name) =>
    let value ← remarked (.column [] name)
    some <$> attached inner value
  | some value => some <$> attached inner value
  | none =>
    if ← mark "[" then
      let members ← bracketMembers inner
      some <$> attached inner (.array members)
    else if ← mark "\x7b" then some <$> attached inner (← braced inner)
    else return none

def typedLiteral (inner : Inner) : Reader (Option Expr) := attempt do
  match ← inner.dataType { named := false, literal := true } with
  | none => return none
  | some type =>
    match ← plainLiteral with
    | none => return none
    | some value =>
      match value.bare with
      | .text _ | .number _ =>
        let value ← attached inner value
        return some (match type with
          | .known "JSON" _ => .known "PARSE_JSON" [value]
          | type => .cast value type)
      | _ => return none

def binaryOperand (inner : Inner) : Reader (Option Expr) := attempt do
  if (← dialect) == .mysql && (← atKeyword "BINARY") then
    match ← inner.dataType { named := false, literal := true } with
    | some type => return (← column inner).map fun value => .cast value type
    | none => return none
  else return none

def typed (inner : Inner) : Reader (Option Expr) := do
  let span := do
    match ← interval inner with
    | some value => some <$> attached inner value
    | none => return none
  oneOf [binaryOperand inner, span, typedLiteral inner, column inner]

end DdlSchema.Ddl.Reader
