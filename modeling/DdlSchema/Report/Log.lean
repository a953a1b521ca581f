import DdlSchema.Report.Json

/-! Log entries, the two styles they are written in, and which of them are written at all. -/

set_option autoImplicit false

namespace DdlSchema.Report

inductive Level where
  | debug
  | info
  | warning
  | error
  | critical
  deriving DecidableEq, Repr

def Level.all : List Level := [.debug, .info, .warning, .error, .critical]

def Level.name : Level → String
  | .debug => "DEBUG"
  | .info => "INFO"
  | .warning => "WARNING"
  | .error => "ERROR"
  | .critical => "CRITICAL"

def Level.ofName? (name : String) : Option Level := all.find? fun level => level.name == name

def Level.rank : Level → Nat
  | .debug => 10
  | .info => 20
  | .warning => 30
  | .error => 40
  | .critical => 50

/-- The lowest level that is written, by how often more was asked for. -/
def Level.ofVerbosity (verbosity : Int) : Level :=
  if verbosity ≤ 0 then .warning else if verbosity = 1 then .info else .debug

def Level.color : Level → String
  | .debug => "\x1b[36m"
  | .info => "\x1b[32m"
  | .warning => "\x1b[33m"
  | .error => "\x1b[31m"
  | .critical => "\x1b[35m"

def colorEnd : String := "\x1b[0m"

/-- What an entry is about; null says nothing. -/
structure Context where
  table : Json := .null
  dialect : Json := .null
  line : Json := .null
  file : Json := .null
  statement : Json := .null

/-- The parts that say something, each with its long and its short name. -/
def Context.parts (context : Context) : List (String × String × Json) :=
  [("table_name", "table", context.table), ("dialect", "dialect", context.dialect),
    ("line", "line", context.line), ("file_path", "file", context.file),
    ("statement", "stmt", context.statement)].filter fun (_, _, value) => match value with
      | .null => false
      | _ => true

structure LogEntry where
  /-- The name of the level; it need not be one of those that have a colour. -/
  level : String
  logger : String
  message : String
  context : Context := {}
  exception : Option String := none

/-- The name of the logger of a part of the program, or of the program itself. -/
def loggerName (part : String) : String :=
  if part.isEmpty then "schemaflow" else "schemaflow." ++ part

inductive LogStyle where
  | text (colored : Bool)
  | json
  deriving DecidableEq, Repr

/-- The style that the name of a format asks for; colours are for terminals only. -/
def LogStyle.choose (format : String) (noColor isTerminal : Bool) : LogStyle :=
  if format = "json" then .json else .text (!noColor && isTerminal)

def LogStyle.formatter : LogStyle → String
  | .text _ => "ColoredFormatter"
  | .json => "JSONFormatter"

def LogEntry.tag (entry : LogEntry) (colored : Bool) : String :=
  let plain := "[" ++ entry.level ++ "]"
  match Level.ofName? entry.level with
  | some level => if colored then level.color ++ plain ++ colorEnd else plain
  | none => plain

def LogEntry.asText (entry : LogEntry) (colored : Bool) : String :=
  let parts := entry.context.parts.map fun (_, label, value) => label ++ "=" ++ value.display
  let suffix := if parts.isEmpty then "" else " [" ++ String.intercalate ", " parts ++ "]"
  entry.tag colored ++ " " ++ entry.message ++ suffix

def LogEntry.asJson (entry : LogEntry) (timestamp : String) : String :=
  let exception := entry.exception.toList.map fun text => ("exception", Json.text text)
  Json.compact (.object ([("timestamp", .text timestamp), ("level", .text entry.level),
    ("logger", .text entry.logger), ("message", .text entry.message)] ++
    (entry.context.parts.map fun (key, _, value) => (key, value)) ++ exception))

def LogEntry.render (entry : LogEntry) (style : LogStyle) (timestamp : String) : String :=
  match style with
  | .text colored => entry.asText colored
  | .json => entry.asJson timestamp

def LogEntry.reaches (entry : LogEntry) (threshold : Level) : Bool :=
  match Level.ofName? entry.level with
  | some level => threshold.rank ≤ level.rank
  | none => true

/-- The entries that are grave enough, each on a line of its own. -/
def renderLog (entries : List LogEntry) (threshold : Level) (style : LogStyle)
    (timestamp : String) : String :=
  String.join ((entries.filter fun entry => entry.reaches threshold).map fun entry =>
    entry.render style timestamp ++ "\n")

structure Handler where
  level : Level
  style : LogStyle

structure Logger where
  level : Level := .warning
  handlers : List Handler := []

-- The handlers of an earlier setup are dropped, or entries would be written once for each of them.
def Logger.setup (logger : Logger) (verbosity : Int) (style : LogStyle) : Logger :=
  let level := Level.ofVerbosity verbosity
  let cleared := { logger with level, handlers := [] }
  { cleared with handlers := cleared.handlers ++ [⟨level, style⟩] }

def Logger.write (logger : Logger) (entries : List LogEntry) (timestamp : String) : String :=
  let passed := entries.filter fun entry => entry.reaches logger.level
  String.join (logger.handlers.map fun handler => renderLog passed handler.level handler.style timestamp)

end DdlSchema.Report
