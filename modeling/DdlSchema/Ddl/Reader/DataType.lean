import DdlSchema.Ddl.Lexer
import DdlSchema.Ddl.Printer
import DdlSchema.Ddl.Reader.Grammar

/-! Reading types. -/

set_option autoImplicit false

namespace DdlSchema.Ddl.Reader

open DdlSchema.Text

inductive TypeHead where
  | known (name : String)
  | userDefined (name : String)
  /-- A whole type, to which nothing can be added. -/
  | whole (type : DataType)

def typeWord? (dialect : Dialect) (token : Token) : Option String :=
  if token.kind == .word then typeNamed? dialect token.upper else none

/-- The type that a name in quotes spells from its first token to its last. PostgreSQL has a type of its
own under the quoted name of the common one. -/
def quotedType (inner : Inner) (token : Token) : Reader (Option DataType) := fun dialect input =>
  if dialect == .postgresql && token.text == "char" then .ok (none, input)
  else match tokenize dialect token.text.toList with
    | .error _ => .ok (none, input)
    | .ok tokens =>
      if tokens.head?.any fun first => (typeWord? dialect first).isSome then
        let start : Input := { previous := none, rest := tokens }
        match inner.dataType { named := false } dialect start with
        | .ok (some type, after) => .ok (if after.rest.isEmpty then some type else none, input)
        | _ => .ok (none, input)
      else .ok (none, input)

def typePath : Nat → String → Reader String
  | 0, path => return path
  | bound + 1, path => do
    if ← mark "." then
      match ← anyName with
      | some name => typePath bound (path ++ "." ++ printName none name)
      | none => return path ++ "."
    else return path

/-- A name of the user where a type is expected; MySQL has no such types. -/
def userType (inner : Inner) (token : Token) : Reader (Option TypeHead) := do
  let dialect ← dialect
  match ← quotedType inner token with
  | some (.known name []) =>
    advance
    return some (.known name)
  | some type =>
    advance
    return some (.whole type)
  | none =>
    if dialect == .mysql then return none
    else
      advance
      let first := if token.text.isEmpty then "" else printName none (nameOf token)
      return some (.userDefined (← typePath (← remaining) first))

def typeHead (inner : Inner) (rules : TypeRules) : Reader (Option TypeHead) := do
  let dialect ← dialect
  match ← peek with
  | none => return none
  | some token =>
    match typeWord? dialect token with
    | some name =>
      advance
      if isCatalogueType dialect name then return some (.whole (.known name []))
      else return some (.known name)
    | none =>
      let isName := token.kind == .quotedName ||
        (token.kind == .word && isPlainWord dialect token.upper)
      if rules.named && isName then userType inner token else return none

def isNested (name : String) : Bool :=
  ["ARRAY", "LIST", "MAP", "NULLABLE", "OBJECT", "RANGE", "STRUCT", "UNION"].contains name

def isStructured (name : String) : Bool := ["OBJECT", "STRUCT", "UNION"].contains name

def isValueList (name : String) : Bool := name == "ENUM" || name == "SET"

def asSize : Expr → Expr
  | .column [] name => .word (upperString name.text)
  | .remark operand _ => asSize operand
  | value => value

/-- A size; a word behind it, such as a unit, does not count. -/
def size (inner : Inner) : Reader (Option Expr) := do
  match ← inner.typed with
  | none => return none
  | some value =>
    let _ ← anyName
    return some (asSize value)

def TypeRules.inside (rules : TypeRules) : TypeRules := { rules with declared := false }

def innerType (inner : Inner) (rules : TypeRules) : Reader (Option DataType) := do
  match ← inner.dataType rules.inside with
  | none => return none
  | some type =>
    if ← keyword "COLLATE" then
      let _ ← orElse (return (← ofKind .quotedName).map fun _ => Expr.null) inner.column
    return some type

def structureMember (inner : Inner) (rules : TypeRules) : Reader (Option DataType) := do
  let named ← attempt do
    match ← anyName with
    | none => return none
    | some name =>
      let _ ← mark ":"
      return (← inner.dataType { rules with literal := false }).map (DataType.member name)
  match named with
  | some type => return some type
  | none => inner.dataType rules.inside

def memberTypes (inner : Inner) (rules : TypeRules) (name : String) : Reader (List DataType) :=
  commaList (if isStructured name then structureMember inner rules else innerType inner rules)

def vectorParameters (inner : Inner) (parameters : List Expr) : Reader (List Expr) := do
  match parameters with
  | [.word element, length] =>
    let token : Token := ⟨.quotedName, element, element, 1, 0, 0, []⟩
    return match ← quotedType inner token with
      | some type => [.word (type.print none), length]
      | none => parameters
  | parameters => return parameters

/-- What stands in parentheses behind the name of a type; `none` where they are not closed. -/
def typeParameters (inner : Inner) (rules : TypeRules) :
    TypeHead → Reader (Option DataType)
  | .known name => do
    if isNested name then
      let members ← memberTypes inner rules name
      return if ← mark ")" then some (.nested name members) else none
    else
      let parameters ← commaList (if isValueList name then inner.equality else size inner)
      let parameters ← if name == "VECTOR" then vectorParameters inner parameters
        else pure parameters
      return if ← mark ")" then some (.known name parameters) else none
  | .userDefined name => do
    let parameters ← commaList (size inner)
    return if ← mark ")" then some (.userDefined name parameters) else none
  | .whole type => return some type

def angledMembers (inner : Inner) (rules : TypeRules) (name : String) : Reader DataType := do
  let members ← memberTypes inner rules name
  unless ← mark ">" do fail "Expecting >"
  return .nested name members

def zoneClause (name : String) : Reader (String × Bool) := do
  if !isClockType name then return (name, false)
  else if ← allSpelled ["WITH", "TIME", "ZONE"] then
    return (if ["TIME", "TIMETZ", "TIME_NS"].contains name then "TIMETZ" else "TIMESTAMPTZ", true)
  else if ← allSpelled ["WITH", "LOCAL", "TIME", "ZONE"] then return ("TIMESTAMPLTZ", true)
  else
    let isWithout ← allSpelled ["WITHOUT", "TIME", "ZONE"]
    return (name, isWithout)

def intervalUnits : Reader Unit := do
  if (← plainWord).isSome then
    if ← spelled "TO" then
      let _ ← plainWord

def unsigned (name : String) : Reader String := do
  if ← spelled "UNSIGNED" then
    match unsignedType? name with
    | some unsigned => return unsigned
    | none => fail ("Cannot convert " ++ name ++ " to unsigned.")
  else return name

def typeModifiers (rules : TypeRules) : Reader Unit := do
  if rules.declared && (← dialect) == .mysql then
    let _ ← sequence (oneSpelled ["SIGNED", "BINARY", "ASCII", "UNICODE"])

/-- The type with what follows its parameters; `isCall` says whether it had any in parentheses. -/
def typeTail (rules : TypeRules) (type : DataType) (isCall : Bool) :
    Reader (Option DataType) := do
  match type with
  | .known name parameters =>
    let (zoned, hasZone) ← zoneClause name
    if name == "INTERVAL" then intervalUnits
    let followed ← peekIs fun token => token.kind == .string
    if rules.literal && isCall && !hasZone && !followed then return none
    else
      let signed ← unsigned zoned
      typeModifiers rules
      return some (.known signed parameters)
  | .nested "NULLABLE" [member] => return some member
  | .nested name members =>
    let followed ← peekIs fun token => token.kind == .string
    if (rules.literal && isCall && !followed) || (name == "NULLABLE" && members.isEmpty) then
      return none
    else return some type
  | type =>
    let followed ← peekIs fun token => token.kind == .string
    return if rules.literal && isCall && !followed then none else some type

def bareNested (type : DataType) : DataType :=
  match type with
  | .nested "ARRAY" [member] => .array member
  | type => type

def brackets (inner : Inner) (rules : TypeRules) (isArray : Bool) :
    Nat → Bool → DataType → Reader DataType
  | 0, _, type => return type
  | bound + 1, worded, type => do
    let start ← get
    if ← mark "[" then
      let isOpen ← if isArray then mark "]" else pure false
      if isOpen then
        set start
        return type
      else
        let sizes ← commaList inner.disjunction
        let isKept := rules.declared || sizes.isEmpty
        if isKept then
          let _ ← mark "]"
          brackets inner rules false bound false (.array type)
        else
          set start
          return type
    else return if worded then .array type else type

/-- The key and the value of a map between brackets; `none` where an arrow or a bracket is missing. -/
def bracketedMap (inner : Inner) (rules : TypeRules) : Reader (Option DataType) := do
  let key ← inner.dataType rules.inside
  let isPaired ← mark "=>"
  let value ← inner.dataType rules.inside
  let isClosed ← mark "]"
  return if isPaired && isClosed then some (.nested "MAP" (key.toList ++ value.toList)) else none

def openType (inner : Inner) (rules : TypeRules) : TypeHead → Reader (Option DataType)
  | .known name => do
    if isNested name then
      if ← mark "<" then some <$> angledMembers inner rules name
      else if name == "MAP" && (← atMark "[") then
        advance
        bracketedMap inner rules
      else return some (.nested name [])
    else return some (.known name [])
  | .userDefined name => return some (.userDefined name [])
  | .whole type => return some type

def listed? : Nat → DataType → Reader DataType
  | 0, type => return type
  | bound + 1, type => do
    if ← keyword "LIST" then listed? bound (.nested "LIST" [type]) else return type

def dataType (inner : Inner) (rules : TypeRules) : Reader (Option DataType) := attempt do
  match ← typeHead inner rules with
  | none => return none
  | some (.whole type) => return some type
  | some head =>
    let isCall ← mark "("
    match ← if isCall then typeParameters inner rules head else openType inner rules head with
    | none => return none
    | some type =>
      match ← typeTail rules type isCall with
      | none => return none
      | some type =>
        let isArray := match type with
          | .nested "ARRAY" [] => true
          | _ => false
        let listed ← listed? (← remaining) (bareNested type)
        let worded ← keyword "ARRAY"
        some <$> brackets inner rules isArray (← remaining) worded listed

end DdlSchema.Ddl.Reader
