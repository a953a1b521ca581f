import DdlSchema.Ddl.Reader.Column

/-! Reading what CREATE defines. Only tables are kept; anything else is written back. -/

set_option autoImplicit false

namespace DdlSchema.Ddl.Reader

open DdlSchema.Text

/-- What a reader of a statement came to: a table, with the text of its definition, another statement,
or that the statement is shown as it is written. -/
inductive Outcome where
  | table (definition : CreateTable) (printed : String)
  | other (printed : String)
  | verbatim

/-- The words before a name that may be there already; the first of them may stand alone. -/
def whereAbsent : Reader String := do
  if ← spelled "IF" then
    let isDenied ← keyword "NOT"
    let isThere ← if isDenied then keyword "EXISTS" else pure false
    return if isThere then " IF NOT EXISTS" else ""
  else return ""

def whereThere : Reader String := do
  if ← spelled "IF" then return if ← keyword "EXISTS" then " IF EXISTS" else "" else return ""

def earlyProperties : Reader (List Property) := do
  let _ ← mark ","
  return (← sequence earlyProperty).flatten

/-- Words in front of an index that belongs to a table. They are taken even where no index follows. -/
def attachedIndex : Reader (Option Unit) := do
  let _ ← keyword "UNIQUE"
  let _ ← spelled "PRIMARY"
  let _ ← spelled "AMP"
  if ← keyword "INDEX" then
    let _ ← anyName
    let _ ← indexParameters
    return some ()
  else return none

def attachedIndexesFrom : Nat → Reader (List Property)
  | 0 => return []
  | bound + 1 => do
    let index ← attachedIndex
    let options ← properties
    if index.isSome then
      let _ ← mark ","
      return options ++ (← attachedIndexesFrom bound)
    else return options

def copied : Reader String := do
  let lead := if ← spelled "SHALLOW" then " SHALLOW" else ""
  match ← oneSpelled ["CLONE", "COPY"] with
  | some _ => return lead ++ " CLONE " ++ (← listedTable).text
  | none => return ""

/-- What is defined under a name: its list, its options and what it is filled with. -/
structure Definition where
  name : Written String
  entries : Option (List (Written Element))
  properties : List Property
  filling : String
  tail : String

/-- The rows that a table is filled with. A table by its name may stand for them behind AS. -/
def filling (isWorded : Bool) : Reader String := do
  match ← withGrammar fillingQuery with
  | some query => return printed query
  | none =>
    if isWorded then return (← attemptAll (some <$> tableName)).elim "" Written.text else return ""

def sequenceType : Reader (String × List Property) := do
  let type := (← anyType {}).elim "" (DataType.print none)
  return (type, ← properties)

def definitionOf (word : String) (leading : List Property) : Reader Definition := do
  let name ← tableName
  let early ← earlyProperties
  let entries ← if ← isElementList then some <$> elements else pure none
  let middle ← properties
  let isWorded ← keyword "AS"
  let isQuery ← peekIs fun token => token.isMark "(" || token.isAnyWord ["SELECT", "WITH"]
  let behindAs ← if isQuery then pure [] else properties
  let (content, late) ← if word == "SEQUENCE" then sequenceType else do
    pure (← filling isWorded, [])
  let last ← if word == "TABLE" then do
      let options ← properties
      pure (options ++ (← attachedIndexesFrom (← remaining)))
    else pure []
  let isUnbound ← if word == "VIEW" then allSpelled ["WITH", "NO", "SCHEMA", "BINDING"] else pure false
  let copy ← copied
  return ⟨name, entries, leading ++ early ++ middle ++ behindAs ++ late ++ last, content,
    (if isUnbound then " WITH NO SCHEMA BINDING" else "") ++ copy⟩

def placed (place : PropertyPlace) (properties : List Property) : List String :=
  (properties.filter fun property => Property.place property = place).map Property.print

def shownTail (properties : List Property) : String :=
  let listed := placed .list properties
  shownOptions (placed .tail properties) ++
    (if listed.isEmpty then "" else " WITH " ++ inParens (commaJoined listed))

/-- A definition as it is written back. `lead` stands in front of its kind, `subject` is its name with
its list. -/
def shownDefinition (lead kind subject content : String) (properties : List Property) : String :=
  let filled := if content.isEmpty then ""
    else " AS" ++ shownOptions (placed .filling properties) ++ " " ++ content
  "CREATE" ++ lead ++ shownOptions (placed .front properties) ++ " " ++ kind ++ " " ++ subject ++
    shownTail properties ++ filled ++ shownOptions (placed .behind properties)

def Definition.subject (definition : Definition) : String :=
  definition.name.text ++ definition.entries.elim "" fun entries =>
    if entries.isEmpty then "" else " " ++ inParens (commaJoined (entries.map Written.text))

def indexDefinition : Reader (Option String) := do
  let isNameless ← keyword "ON"
  let name ← if isNameless then pure none else anyName
  if !isNameless && name.isNone then return none
  else
    unless isNameless do
      let _ ← keyword "ON"
    let _ ← keyword "TABLE"
    let table ← tableName
    let parameters ← indexParameters
    return some (name.elim "" (fun name => printName none name ++ " ") ++ "ON " ++ table.text ++
      parameters)

def modeWords : List String := ["IN", "INOUT", "OUT", "VARIADIC"]

def isMode : Reader Bool := fun dialect input =>
  let typed := fun (skipped : Nat) (rules : TypeRules) =>
    let rest : Input := ⟨none, input.rest.drop skipped, []⟩
    match anyType rules dialect rest with
    | .ok (some _, _) => true
    | _ => false
  let isWord := dialect == .postgresql && input.rest.head?.any fun token => token.isAnyWord modeWords
  let isNamed := input.rest.tail.head?.any fun token =>
    token.kind == .quotedName || isSoftWord dialect token
  .ok (isWord && !typed 1 { named := false } && isNamed && typed 2 {}, input)

def functionParameter : Reader (Option String) := do
  let isModed ← isMode
  let mode ← if isModed then oneKeyword modeWords else pure none
  match ← anyName with
  | none => return none
  | some name =>
    let _ ← keyword "AS"
    let parameter ← columnTail elements (.name name)
    let words := mode.map fun word => if word == "INOUT" then "IN OUT" else word
    return some (parameter.text ++ words.elim "" (" " ++ ·))

def functionOption : Reader (Option (List Property)) := do
  let isTable ← acceptAll [isSpelled "RETURNS", (·.isWord "TABLE")]
  if isTable then
    let columns ← if ← isElementList then elements else pure []
    return some [.other .tail ("RETURNS TABLE" ++
      (if columns.isEmpty then "" else " " ++ inParens (commaJoined (columns.map Written.text))))]
  else propertyWith propertyList

def functionOptions : Reader (List Property) := return (← sequence functionOption).flatten

def functionBody (nested : Reader (Option String)) : Reader (String × List Property) := do
  let begins := if ← keyword "BEGIN" then "BEGIN " else ""
  let answers := if ← spelled "RETURN" then "RETURN " else ""
  let isText ← peekIs fun token => token.kind == .string
  let (body, options) ←
    if isText then
      let text := printString none ((← stringText).getD "")
      pure (text, ← properties)
    else pure ((← nested).getD "", [])
  let ends := if ← keyword "END" then " END" else ""
  let content := answers ++ body
  return (if content.isEmpty then "" else begins ++ content ++ ends, options)

def functionHead : Reader String := do
  let name ← tableName
  if ← openList then
    return name.text ++ inParens (commaJoined (← wrapped (commaList functionParameter)))
  else return name.text

def functionDefinition (nested : Reader (Option String)) :
    Reader (String × String × List Property) := do
  let subject ← functionHead
  let early ← functionOptions
  let isWorded ← keyword "AS"
  let text ← if isWorded then ofKind .dollarString else pure none
  let middle ← functionOptions
  let (content, late) ← match text with
    | some text => pure (printString none text, [])
    | none => functionBody nested
  return (subject, content, early ++ middle ++ late)

def triggerEvent : Reader String := do
  match ← oneKeyword ["DELETE", "INSERT", "TRUNCATE", "UPDATE"] with
  | none => fail "Expected trigger event (INSERT, UPDATE, DELETE, TRUNCATE)"
  | some "UPDATE" =>
    if ← spelled "OF" then
      return "UPDATE OF " ++ commaPrinted (← commaList (withGrammar Inner.column))
    else return "UPDATE"
  | some word => return word

def triggerEventsFrom : Nat → Reader (List String)
  | 0 => return []
  | bound + 1 => do
    let event ← triggerEvent
    if ← keyword "OR" then return event :: (← triggerEventsFrom bound) else return [event]

def triggerRows : Reader (Option String) := do
  match ← oneSpelled ["NEW", "OLD"] with
  | none => return none
  | some word =>
    unless ← keyword "TABLE" do fail ("Expected TABLE after " ++ word ++ " in REFERENCING clause")
    let _ ← keyword "AS"
    return some (word ++ " TABLE AS " ++ (← anyName).elim "" (printName none))

def triggerDelay : Reader (List String) := do
  match ← knownOption [("DEFERRABLE", []), ("NOT", ["DEFERRABLE"])] with
  | none => return []
  | some manner =>
    let isSaid ← spelled "INITIALLY"
    let state ← if isSaid then oneSpelled ["DEFERRED", "IMMEDIATE"] else pure none
    return [manner] ++ state.elim [] fun state => ["INITIALLY " ++ state]

/-- What a trigger reacts to and does; `none` where it does not call a function. -/
def triggerDefinition : Reader (Option String) := do
  match ← anyName with
  | none => return none
  | some name =>
    match ← knownOption [("AFTER", []), ("BEFORE", []), ("INSTEAD", ["OF"])] with
    | none => return none
    | some timing =>
      let events ← triggerEventsFrom (← remaining)
      unless ← keyword "ON" do fail "Expected ON in trigger definition"
      let table ← tableName
      let source ← if ← keyword "FROM" then
        pure ["FROM " ++ (← tableName).text] else pure []
      let delay ← triggerDelay
      let rows ← if ← spelled "REFERENCING" then do
          let rows ← sequence triggerRows
          pure [String.intercalate " " ("REFERENCING" :: rows)]
        else pure []
      let isEach ← allSpelled ["FOR", "EACH"]
      let each ← if isEach then oneSpelled ["ROW", "STATEMENT"] else pure none
      let condition ← if ← keyword "WHEN" then some <$> required expression else pure none
      if ← keyword "EXECUTE" then
        unless (← oneKeyword ["FUNCTION", "PROCEDURE"]).isSome do
          fail "Expected FUNCTION or PROCEDURE after EXECUTE"
        let call ← withGrammar Inner.column
        let shown := condition.elim [] fun condition => ["WHEN " ++ match condition.bare with
          | .paren _ => printed condition
          | _ => inParens (printed condition)]
        return some (String.intercalate " " ([printName none name, timing,
          String.intercalate " OR " events, "ON", table.text] ++ source ++ delay ++ rows ++
          each.elim [] (fun each => ["FOR EACH " ++ each]) ++ shown ++
          ["EXECUTE FUNCTION " ++ call.elim "" printed]))
      else return none

def typeDefinition : Reader (Option String) := do
  let name ← tableName
  if ← keyword "AS" then
    if ← keyword "ENUM" then
      let names ← wrapped (commaList stringText)
      return some (name.text ++ " AS ENUM" ++ inParens (commaJoined (names.map (printString none))))
    else if ← isElementList then
      let entries ← elements
      return some (name.text ++ " AS " ++ inParens (commaJoined (entries.map Written.text)))
    else return none
  else return none

def definableWords (dialect : Dialect) : List String :=
  ["COLUMN", "CONSTRAINT", "DATABASE", "FOREIGN KEY", "FUNCTION", "INDEX", "NAMESPACE", "PROCEDURE",
    "SCHEMA", "SEQUENCE", "TABLE", "TRIGGER", "VIEW"] ++
    (if dialect = .postgresql then ["TYPE"] else [])

def storageWords : Reader String := do
  if ← allSpelled ["CLUSTERED", "COLUMNSTORE"] then return " CLUSTERED COLUMNSTORE"
  else if ← either (allSpelled ["NONCLUSTERED", "COLUMNSTORE"]) (spelled "COLUMNSTORE") then
    return " NONCLUSTERED COLUMNSTORE"
  else return ""

def wholly (outcome : Outcome) : Reader Outcome := do
  let isOpen ← peekIs fun token => !(token.isMark ")" || token.isMark ",")
  return if isOpen then .verbatim else outcome

/-- A definition behind its word. `nested` reads a statement inside it. -/
def definitionBehind (nested : Reader (Option String)) (lead word : String) (leading : List Property) :
    Reader Outcome := do
  let hurried := if ← spelled "CONCURRENTLY" then " CONCURRENTLY" else ""
  let absent ← whereAbsent
  let kind := word ++ hurried ++ absent
  let shown := fun (subject content : String) (properties : List Property) =>
    Outcome.other (shownDefinition lead kind subject content properties)
  let whole := fun (body : Reader (Option String)) => do
    match ← body with
    | some subject => wholly (shown subject "" leading)
    | none => return .verbatim
  match word with
  | "INDEX" => whole indexDefinition
  | "TRIGGER" => whole triggerDefinition
  | "TYPE" => whole typeDefinition
  | "FUNCTION" | "PROCEDURE" =>
    let (subject, content, properties) ← functionDefinition nested
    wholly (shown subject content (leading ++ properties))
  | "COLUMN" | "CONSTRAINT" | "FOREIGN KEY" => wholly (shown "" "" leading)
  | word =>
    let definition ← definitionOf word leading
    let text := shownDefinition lead kind definition.subject definition.filling
      definition.properties ++ definition.tail
    wholly (if word == "TABLE" then .table ⟨definition.name.value,
        definition.entries.map fun entries => entries.map Written.value, definition.properties⟩ text
      else .other text)

def definition (nested : Reader (Option String)) : Reader Outcome := do
  let words := definableWords (← dialect)
  let replaces ← either (keywords ["OR", "REPLACE"]) (keywords ["OR", "ALTER"])
  let refreshes ← keywords ["OR", "REFRESH"]
  let isUnique ← keyword "UNIQUE"
  let storage ← storageWords
  let isFunction ← secondIs fun next => next.isWord "FUNCTION"
  if isFunction then
    let _ ← keyword "TABLE"
  let lead := storage ++ (if replaces then " OR REPLACE" else "") ++
    (if refreshes then " OR REFRESH" else "") ++ (if isUnique then " UNIQUE" else "")
  match ← oneKeyword words with
  | some word => definitionBehind nested lead word []
  | none =>
    let leading ← properties
    match leading, ← oneKeyword words with
    | _ :: _, some word => definitionBehind nested lead word leading
    | _, _ => return .verbatim

end DdlSchema.Ddl.Reader
