import DdlSchema.Ddl.Reader.SequenceOption

/-! Reading the options of a table that have a form of their own. Each is read behind its first word
and written back as it is understood; `none` stands for words that make no option. -/

set_option autoImplicit false

namespace DdlSchema.Ddl.Reader

open DdlSchema.Text

def spaced (text : String) : String := if text.isEmpty then "" else " " ++ text

def wordOrString : Reader (Option String) :=
  orElse (return (← stringText).map (printString none)) anyText

def shownName : Reader String := return (← anyName).elim "" (printName none)

/-- A value that is no operation; a name alone is a word. -/
def plainValue : Reader Expr := do
  match ← required (anyField .strict) with
  | .name name => return if name.quoted then .name name else .word name.text
  | value => return value

def optionValue : Reader Expr := do
  let _ ← mark "="
  let _ ← keyword "AS"
  plainValue

/-- A word alone, or a literal. -/
def wordOrLiteral : Reader (Option String) :=
  orElse plainWord (return (← literal).map printed)

def characterSet (isDefault : Bool) : Reader String := do
  let _ ← mark "="
  let name := (← wordOrString).getD ""
  return (if isDefault then "DEFAULT " else "") ++ "CHARACTER SET=" ++ name

def likeOptions : Reader (List String) := sequence do
  match ← oneSpelled ["INCLUDING", "EXCLUDING"] with
  | none => return none
  | some word =>
    match ← anyText with
    | some part => return some (word ++ " " ++ upperString part)
    | none => return none

def likeProperty : Reader String := do
  let table ← referredTable
  return String.intercalate " " (("LIKE " ++ table) :: (← likeOptions))

def onProperty : Reader String := do
  match ← onePhrase ["COMMIT PRESERVE ROWS", "COMMIT DELETE ROWS"] with
  | some phrase => return "ON " ++ phrase
  | none => return "ON " ++ (← shownName)

/-- How a checksum is kept; any other value is left. -/
def checksum : Reader String := do
  let _ ← mark "="
  let word ← oneSpelled ["ON", "OFF", "DEFAULT"]
  return "CHECKSUM=" ++ word.getD "OFF"

def clusteredBy : Reader String := do
  let _ ← spelled "BY"
  let columns ← wrapped (commaList (withGrammar Inner.column))
  let order ← if ← allSpelled ["SORTED", "BY"] then
    pure (" SORTED BY " ++ inParens (printed (← wrapped (withGrammar sortKeys)))) else pure ""
  let _ ← spelled "INTO"
  let buckets := (← ofKind .number).getD ""
  let _ ← spelled "BUCKETS"
  return "CLUSTERED BY " ++ inParens (commaPrinted columns) ++ order ++ " INTO " ++ buckets ++
    " BUCKETS"

def distributedBy : Reader String := do
  let isHashed ← allSpelled ["BY", "HASH"]
  let columns ← if isHashed then nameList else pure []
  let isRandom ← if isHashed then pure false else allSpelled ["BY", "RANDOM"]
  let isCounted ← spelled "BUCKETS"
  let isAutomatic ← if isCounted then spelled "AUTO" else pure false
  let count ← if isCounted && !isAutomatic then ofKind .number else pure none
  let order ← withGrammar fun inner => clause "ORDER BY" (sortKeys inner)
  return "DISTRIBUTED BY " ++ (if isRandom then "RANDOM" else "HASH") ++
    (if columns.isEmpty then "" else " " ++ inParens (printNames columns)) ++
    count.elim "" (" BUCKETS " ++ ·) ++ spaced (String.join (order.map printed))

def rowDelimiter (words : List String) : Reader String := do
  if ← allSpelled words then
    return " " ++ String.intercalate " " words ++ " " ++
      printString none ((← stringText).getD "")
  else return ""

def rowShape : Reader String := do
  if ← spelled "SERDE" then
    return "ROW FORMAT SERDE " ++ printString none ((← stringText).getD "")
  else
    let _ ← spelled "DELIMITED"
    let fields ← rowDelimiter ["FIELDS", "TERMINATED", "BY"]
    let escaped ← rowDelimiter ["ESCAPED", "BY"]
    let items ← rowDelimiter ["COLLECTION", "ITEMS", "TERMINATED", "BY"]
    let keys ← rowDelimiter ["MAP", "KEYS", "TERMINATED", "BY"]
    let lines ← rowDelimiter ["LINES", "TERMINATED", "BY"]
    let absent ← rowDelimiter ["NULL", "DEFINED", "AS"]
    return "ROW FORMAT DELIMITED" ++ fields ++ escaped ++ items ++ keys ++ lines ++ absent

def rowFormat : Reader (Option String) := do
  if ← keyword "FORMAT" then return some (← rowShape) else return none

def storedAs : Reader String := do
  if ← spelled "BY" then return "STORED BY " ++ (← wordOrString).getD ""
  else
    let _ ← keyword "AS"
    return "FORMAT=" ++ (← wordOrString).getD ""

def definer : Reader (Option String) := do
  let _ ← mark "="
  let user ← anyText
  let _ ← mark "@"
  let host ← orElse anyText (oneMark ["%"])
  return match user, host with
    | some user, some host => some ("DEFINER=" ++ user ++ "@" ++ host)
    | _, _ => none

def freeSpace : Reader String := do
  let _ ← mark "="
  let amount := (← ofKind .number).getD ""
  return "FREESPACE=" ++ amount ++ (if ← keyword "PERCENT" then " PERCENT" else "")

/-- The share of free blocks at which blocks are put together. -/
def mergeRatio : Reader String := do
  if ← mark "=" then
    let amount := (← ofKind .number).getD ""
    return "MERGEBLOCKRATIO=" ++ amount ++ (if ← keyword "PERCENT" then " PERCENT" else "")
  else return "MERGEBLOCKRATIO="

def blockSize : Reader String := do
  let _ ← mark "="
  let size := (← ofKind .number).getD ""
  let unit ← take? fun token =>
    ["BYTES", "KBYTES", "KILOBYTES"].any fun word => isSpelled word token
  return "DATABLOCKSIZE=" ++ size ++ unit.elim "" fun token => " " ++ token.text

def blockCompression : Reader String := do
  let _ ← mark "="
  let word := (← oneSpelled ["ALWAYS", "MANUAL", "NEVER", "DEFAULT"]).getD "AUTOTEMP()"
  return "BLOCKCOMPRESSION=" ++ word

def dictionarySetting : Reader (Option String) := do
  match ← anyName, ← literal with
  | none, none => return none
  | key, value => return some (key.elim "" (printName none) ++ " " ++ value.elim "" printed)

/-- A part of a dictionary: what kind it is, with its settings. -/
def dictionaryPart (word : String) : Reader String := do
  wrapped do
    let kind ← anyText
    let settings ← if ← mark "(" then
      let settings ← sequence dictionarySetting
      let _ ← mark ")"
      pure settings else pure []
    return word ++ inParens (kind.getD "" ++ inParens (String.intercalate " " settings))

/-- Two ends of what a dictionary may hold; a single one is the upper end. -/
def dictionaryRange (word : String) : Reader String := do
  let ends ← wrapped do
    if ← spelled "MIN" then
      let least := (← wordOrLiteral).getD ""
      let _ ← spelled "MAX"
      pure (least, (← wordOrLiteral).getD "")
    else pure ("0", (← wordOrLiteral).getD "")
  return word ++ "(MIN " ++ ends.1 ++ " MAX " ++ ends.2 ++ ")"

/-- A moment at which rows go, with what happens to them then. -/
def expiryAction : Reader (Option String) := do
  match ← simpleValue with
  | none => return none
  | some moment =>
    let quoted := return printString none ((← stringText).getD "")
    let action ←
      if ← spelled "DELETE" then pure " DELETE"
      else if ← spelled "RECOMPRESS" then
        pure (" RECOMPRESS " ++ (← simpleValue).elim "" printed)
      else if ← allSpelled ["TO", "DISK"] then pure (" TO DISK " ++ (← quoted))
      else if ← allSpelled ["TO", "VOLUME"] then pure (" TO VOLUME " ++ (← quoted))
      else pure ""
    return some (printed moment ++ action)

def expiry : Reader String := do
  let actions ← commaList expiryAction
  let condition ← if ← keyword "WHERE" then expression else pure none
  return "TTL " ++ commaJoined actions ++ condition.elim "" fun value => " WHERE " ++ printed value

def locking : Reader String := do
  let kind ← oneSpelled ["TABLE", "VIEW", "ROW", "DATABASE"]
  let isNamed := kind.any (· != "ROW")
  let target ← if isNamed then pure (" " ++ (← referredTable)) else pure ""
  let side ← oneKeyword ["FOR", "IN"]
  let manner := (← oneSpelled ["ACCESS", "EXCL", "EXCLUSIVE", "SHARE", "READ", "WRITE",
    "CHECKSUM"]).map fun word => if word == "EXCL" then "EXCLUSIVE" else word
  let override := if ← spelled "OVERRIDE" then " OVERRIDE" else ""
  return "LOCKING " ++ kind.getD "None" ++ target ++ side.elim "" (" " ++ ·) ++ " " ++
    manner.getD "None" ++ override

def versioning (word : String) : Reader String := do
  let _ ← mark "="
  if ← spelled "OFF" then return word ++ "=OFF"
  else
    let _ ← keyword "ON"
    return word ++ "=ON"

def optionWith (word phrase : String) : Reader (Option String) := do
  return if ← allSpelled (phrase.splitOn " ") then some (word ++ " " ++ phrase) else none

def dataClause (lead : String) : Reader String := do
  if ← allSpelled ["AND", "STATISTICS"] then return lead ++ " AND STATISTICS"
  else if ← allSpelled ["AND", "NO", "STATISTICS"] then return lead ++ " AND NO STATISTICS"
  else return lead

def isolatedLoading : Reader (Option String) := do
  let denied := if ← spelled "NO" then "NO " else ""
  let concurrent := if ← spelled "CONCURRENT" then "CONCURRENT " else ""
  if ← allSpelled ["ISOLATED", "LOADING"] then
    let target ← knownOption [("FOR", ["ALL", "INSERT", "NONE"])]
    return some ("WITH " ++ denied ++ concurrent ++ "ISOLATED LOADING" ++ target.elim "" (" " ++ ·))
  else return none

def withClause : Reader (Option String) := do
  if ← spelled "JOURNAL" then
    let _ ← keyword "TABLE"
    let _ ← mark "="
    return some ("WITH JOURNAL TABLE=" ++ (← referredTable))
  else match ← oneSpelled ["ENCRYPTION", "SCHEMABINDING", "VIEW_METADATA"] with
    | some word => return some ("WITH " ++ word)
    | none =>
      if ← spelled "DATA" then some <$> dataClause "WITH DATA"
      else if ← allSpelled ["NO", "DATA"] then some <$> dataClause "WITH NO DATA"
      else if ← keyword "SCHEMA" then
        let manner ← requiredOption [("TYPE", ["EVOLUTION"]), ("BINDING", []), ("COMPENSATION", []),
          ("EVOLUTION", [])]
        return some ("WITH SCHEMA " ++ manner.getD "")
      else isolatedLoading

def assignment : Reader (Option String) := attempt do
  match ← withGrammar Inner.column with
  | none => return none
  | some key =>
    if ← mark "=" then
      let word := return (← anyText).map Expr.word
      let value ← orElse simpleValue word
      let shown := match value with
        | some (.column [] name) => name.text
        | some value => printed value
        | none => ""
      let name := match key.bare with
        | .column [] name => name.text
        | .text content => content
        | key => printed key
      return some (name ++ "=" ++ shown)
    else return none

end DdlSchema.Ddl.Reader
