import DdlSchema.Ddl.Reader.TableOption

/-! Reading the options of a table by the words they begin with. -/

set_option autoImplicit false

namespace DdlSchema.Ddl.Reader

open DdlSchema.Text

def Property.print : Property → String
  | .temporary => "TEMPORARY"
  | .engine value => "ENGINE=" ++ printed value
  | .collate value => "COLLATE=" ++ printed value
  | .comment value => "COMMENT=" ++ printed value
  | .other _ text => text

def Property.place : Property → PropertyPlace
  | .temporary => .front
  | .engine _ | .collate _ | .comment _ => .tail
  | .other place _ => place

def placeOf (word : String) : PropertyPlace :=
  if ["ALGORITHM", "DEFINER", "DYNAMIC", "EMPTY", "EXTERNAL", "GLOBAL", "ICEBERG", "MATERIALIZED",
    "MULTISET", "SECURE", "SET", "STREAMING", "TRANSIENT", "UNLOGGED", "VIRTUAL"].contains word then
    .front
  else if ["FORMAT", "HEAP", "PARTITIONED BY", "PARTITIONED_BY", "STORED", "USING"].contains word then
    .list
  else if ["LOCK", "LOCKING"].contains word then .filling
  else if ["BLOCKCOMPRESSION", "CHECKSUM", "DATABLOCKSIZE", "FALLBACK", "FREESPACE", "JOURNAL", "LOG",
    "MERGEBLOCKRATIO"].contains word then .dropped
  else .tail

def wordProperties : List (String × String) :=
  [("DETERMINISTIC", "IMMUTABLE"), ("DYNAMIC", "DYNAMIC"), ("EMPTY", "EMPTY"),
    ("EXTERNAL", "EXTERNAL"), ("HEAP", "HEAP"), ("ICEBERG", "ICEBERG"),
    ("IMMUTABLE", "IMMUTABLE"), ("JOURNAL", "JOURNAL"), ("LOG", "LOG"),
    ("MATERIALIZED", "MATERIALIZED"), ("MULTISET", "MULTISET"), ("SECURE", "SECURE"),
    ("SET", "SET"), ("STABLE", "STABLE"), ("STREAMING", "STREAMING"), ("STRICT", "STRICT"),
    ("TRANSIENT", "TRANSIENT"), ("UNLOGGED", "UNLOGGED"), ("VIRTUAL", "VIRTUAL"),
    ("VOLATILE", "VOLATILE")]

def valueProperties (dialect : Dialect) : List (String × String) :=
  [("ALGORITHM", "ALGORITHM="), ("AUTO_INCREMENT", "AUTO_INCREMENT="), ("DISTSTYLE", "DISTSTYLE="),
    ("EXECUTE", "EXECUTE AS "), ("FORMAT", "FORMAT="), ("LANGUAGE", "LANGUAGE "),
    ("LOCATION", "LOCATION "), ("ROW_FORMAT", "ROW_FORMAT="), ("SHARING", "SHARING="),
    ("USING", if dialect = .sqlite then "USING " else "FORMAT=")] ++
    (if dialect = .mysql then [("LOCK", "LOCK=")] else [])

/-- Options that are a phrase, by their first word, which is taken even where the rest is missing. -/
def phraseProperties : List (String × List String) :=
  [("CONTAINS", ["SQL"]), ("MODIFIES", ["SQL DATA"]), ("NO", ["PRIMARY INDEX", "SQL"]),
    ("READS", ["SQL DATA"])]

def shapedProperties (dialect : Dialect) : List (String × Reader (Option String)) :=
  let given := fun (body : Reader String) => some <$> body
  let listed := fun (lead : String) (list : Reader (List Expr)) =>
    given do return lead ++ inParens (commaPrinted (← list))
  [("ALLOWED_VALUES", given do return "ALLOWED_VALUES " ++ commaPrinted (← commaList literal)),
    ("AUTO", attempt do
      if ← spelled "REFRESH" then return some ("AUTO REFRESH " ++ (← anyText).getD "")
      else return none),
    ("BACKUP", given do return "BACKUP " ++ (← anyText).getD ""),
    ("BLOCKCOMPRESSION", given blockCompression),
    ("CHECKSUM", given checksum),
    ("CLUSTER BY", given do
      return "CLUSTER BY " ++ commaPrinted (← commaList (withGrammar Inner.column))),
    ("CLUSTERED", given clusteredBy),
    ("DATABLOCKSIZE", given blockSize),
    ("DATA_DELETION", given (versioning "DATA_DELETION")),
    ("DEFINER", definer),
    ("DISTKEY", given do return "DISTKEY=" ++ (← wrapped shownName)),
    ("DISTRIBUTED", given distributedBy),
    ("DUPLICATE", given do
      let _ ← spelled "KEY"
      return "DUPLICATE KEY " ++ inParens (printNames (← nameList))),
    ("ENVIRONMENT", listed "ENVIRONMENT " (wrapped (commaList expression))),
    ("FALLBACK", given do
      return if ← spelled "PROTECTION" then "FALLBACK PROTECTION" else "FALLBACK"),
    ("FREESPACE", given freeSpace),
    ("INHERITS", listed "INHERITS " (wrapped (commaList namePath))),
    ("LAYOUT", given (dictionaryPart "LAYOUT")),
    ("LIFETIME", given (dictionaryRange "LIFETIME")),
    ("LIKE", given likeProperty),
    ("LOCK", given locking),
    ("LOCKING", given locking),
    ("MERGEBLOCKRATIO", given mergeRatio),
    ("ON", given onProperty),
    ("ORDER BY", given do return "ORDER BY " ++ printed (← withGrammar sortKeys)),
    ("PARTITIONED BY", given do
      let _ ← mark "="
      return "PARTITIONED_BY=" ++ printed (← required (anyField .strict))),
    ("PARTITIONED_BY", given do
      let _ ← mark "="
      return "PARTITIONED_BY=" ++ printed (← required (anyField .strict))),
    ("PRIMARY KEY", listed "PRIMARY KEY " (wrapped (commaList (anyField .strict)))),
    ("RANGE", given (dictionaryRange "RANGE")),
    ("REMOTE", given do
      let _ ← allSpelled ["WITH", "CONNECTION"]
      return "REMOTE WITH CONNECTION " ++ (← referredTable)),
    ("ROW", rowFormat),
    ("SAMPLE", given do
      let _ ← spelled "BY"
      return "SAMPLE BY " ++ printed (← required simpleValue)),
    ("SECURITY", do
      return (← oneSpelled ["DEFINER", "INVOKER", "NONE"]).map ("SECURITY " ++ ·)),
    ("SETTINGS", given do return "SETTINGS " ++ commaPrinted (← commaList expression)),
    ("SORTKEY", given do return "SORTKEY " ++ inParens (printNames (← nameList))),
    ("SOURCE", given (dictionaryPart "SOURCE")),
    ("STORED", given storedAs),
    ("SYSTEM_VERSIONING", given (versioning "SYSTEM_VERSIONING")),
    ("TO", given do return "TO " ++ (← referredTable)),
    ("TRANSFORM", listed "TRANSFORM" (wrapped (commaList namedExpression))),
    ("TTL", given expiry)] ++
    (if dialect = .postgresql then
      [("TABLESPACE", given do
        let _ ← anyName
        return "")]
    else [])

def propertyWords (dialect : Dialect) : List String :=
  wordProperties.map Prod.fst ++ (valueProperties dialect).map Prod.fst ++
    phraseProperties.map Prod.fst ++ (shapedProperties dialect).map Prod.fst ++
    ["CALLED", "CHARSET", "COLLATE", "COMMENT", "COPY", "ENGINE", "GLOBAL", "PARTITION",
      "PARTITION BY", "RETURNS", "TBLPROPERTIES", "TEMP", "TEMPORARY", "WITH"]

def takenWords : List String :=
  ["CONTAINS", "DEFINER", "MODIFIES", "NO", "PARTITION BY", "READS", "ROW", "SECURITY"]

def returns : Reader (Option String) := do
  if ← allSpelled ["NULL", "ON", "NULL", "INPUT"] then return some "RETURNS NULL ON NULL INPUT"
  else return some ("RETURNS " ++ (← anyType {}).elim "" (DataType.print none))

/-- An option behind its first word; some words bring several. `own` reads a list of options. -/
def namedProperty (own : Reader (List Property)) (isDefault : Bool) (word : String) :
    Reader (Option (List Property)) := do
  let dialect ← dialect
  let place := placeOf word
  let others := fun (body : Reader (Option String)) =>
    return (← body).map fun text => [Property.other place text]
  match wordProperties.lookup word, (valueProperties dialect).lookup word,
      (shapedProperties dialect).lookup word with
  | some shown, _, _ => return some [.other place shown]
  | _, some lead, _ => return some [.other place (lead ++ printed (← optionValue))]
  | _, _, some body => others body
  | none, none, none =>
    match word with
    | "CALLED" => others (optionWith word "ON NULL INPUT")
    | "CHARSET" => return some [.other place (← characterSet isDefault)]
    | "COLLATE" => return some [.collate (← optionValue)]
    | "COMMENT" => return some [.comment (← optionValue)]
    | "COPY" => others (optionWith word "GRANTS")
    | "ENGINE" => return some [.engine (← optionValue)]
    | "GLOBAL" => return some [if ← spelled "TEMPORARY" then .temporary else .other place word]
    | "PARTITION" => others partitionOf
    | "PARTITION BY" => return (← partitionBy).map fun parts => parts.map (Property.other place)
    | "RETURNS" => others returns
    | "TBLPROPERTIES" => some <$> wrapped own
    | "TEMP" | "TEMPORARY" => return some [.temporary]
    | "WITH" => if ← openList then some <$> wrapped own else others (attempt withClause)
    | word =>
      let phrase ← onePhrase ((phraseProperties.lookup word).getD [])
      return phrase.map fun phrase => [.other place (word ++ " " ++ phrase)]

/-- What stands behind a word that begins an option; `none` where no such word follows. Where the word
makes no option after all it is not taken, unless it is one that stays taken. -/
def wordedProperty (own : Reader (List Property)) (isDefault : Bool) :
    Reader (Option (Option (List Property))) := do
  let start ← get
  if ← characterSetWords then return some (some [.other .tail (← characterSet isDefault)])
  else match ← oneSpelled (propertyWords (← dialect)) with
    | none => return none
    | some word =>
      let properties ← namedProperty own isDefault word
      let isLast := word == "WITH" && (← remaining) ≤ 1
      if properties.isNone && !isLast && !takenWords.contains word then set start
      return some properties

def securityClause : Reader (Option String) := do
  if ← allSpelled ["SQL", "SECURITY"] then
    return (← oneSpelled ["DEFINER", "INVOKER", "NONE"]).map ("SQL SECURITY " ++ ·)
  else return none

def compoundSortKey : Reader (Option String) := do
  if ← allSpelled ["COMPOUND", "SORTKEY"] then
    return some ("COMPOUND SORTKEY " ++ inParens (printNames (← nameList)))
  else return none

/-- One option; some bring several. `own` reads a list of them. -/
def propertyWith (own : Reader (List Property)) : Reader (Option (List Property)) := do
  match ← wordedProperty own false with
  | some properties => return properties
  | none =>
    let isDefault ← keyword "DEFAULT"
    match ← if isDefault then wordedProperty own true else pure none with
    | some properties => return properties
    | none =>
      let others := fun (place : PropertyPlace) (body : Reader (Option String)) =>
        return (← body).map fun text => [Property.other place text]
      oneOf [others .front securityClause, others .tail compoundSortKey,
        others .behind sequenceOptions, others .list assignment]

def propertyListFrom : Nat → Reader (List Property)
  | 0 => return []
  | depth + 1 => return (← commaList (propertyWith (propertyListFrom depth))).flatten

def propertyList : Reader (List Property) := do propertyListFrom (← remaining)

def properties : Reader (List Property) :=
  return (← sequence (propertyWith propertyList)).flatten

def leadWords : List (List String) :=
  [["NO"], ["DUAL"], ["BEFORE"], ["DEFAULT"], ["LOCAL"], ["NOT LOCAL"], ["AFTER"],
    ["MIN", "MINIMUM"], ["MAX", "MAXIMUM"]]

def ledWords : List String :=
  ["CHARSET", "COLLATE", "DATABLOCKSIZE", "FALLBACK", "JOURNAL", "LOG", "MERGEBLOCKRATIO"]

/-- An option between the name of a table and its list, which begins with a word of its own. -/
def earlyProperty : Reader (Option (List Property)) := do
  let _ ← mark ","
  let leads ← leadWords.mapM onePhrase
  let word := ((← peek).map Token.upper).getD ""
  let dialect ← dialect
  let isKnown ← peekIs fun token =>
    token.kind != .string && (propertyWords dialect).contains token.upper
  if isKnown && leads.any Option.isSome && !ledWords.contains word then
    let shown := ((← peek).map Token.text).getD ""
    advance
    fail ("Cannot parse property '" ++ shown ++ "'")
  else return (← wordedProperty propertyList false).join

end DdlSchema.Ddl.Reader
