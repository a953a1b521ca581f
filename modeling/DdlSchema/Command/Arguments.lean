import DdlSchema.Text.Displayed

/-! The arguments of the command line. Long options may be shortened as long as they stay
unambiguous; values follow as the next word or behind an equals sign. -/

set_option autoImplicit false

namespace DdlSchema.Command

open DdlSchema.Text

inductive Switch where
  | help
  | source
  | dialects
  | isolate
  | jsonOut
  | summary
  | noColor
  | verbose
  | logFormat
  | version
  deriving DecidableEq, Repr

/-- All spellings of the switches, in the order in which they are listed where one is unclear. -/
def spellings : List (String × Switch) :=
  [("-h", .help), ("--help", .help), ("--source", .source), ("--dialects", .dialects),
    ("--isolate-statements", .isolate), ("--json-out", .jsonOut), ("--summary", .summary),
    ("--no-color", .noColor), ("--verbose", .verbose), ("-v", .verbose),
    ("--log-format", .logFormat), ("--version", .version)]

def Switch.takesValue : Switch → Bool
  | .source | .dialects | .jsonOut | .logFormat => true
  | .help | .isolate | .summary | .noColor | .verbose | .version => false

/-- The name of a switch in messages: all its spellings. -/
def Switch.label (switch : Switch) : String :=
  let own := (spellings.filter fun entry => entry.2 == switch).map Prod.fst
  String.intercalate "/" own

structure Arguments where
  source : String
  dialects : Option String := none
  isolate : Bool := false
  jsonOut : Option String := none
  summary : Bool := false
  noColor : Bool := false
  verbosity : Nat := 0
  logFormat : String := "text"
  deriving DecidableEq, Repr

inductive Misuse where
  | ambiguous (word : String) (matching : List String)
  | missingValue (switch : Switch)
  | needlessValue (switch : Switch) (value : String)
  | unknownChoice (label value : String) (choices : List String)
  | missing (labels : List String)
  | unrecognized (words : List String)
  deriving DecidableEq, Repr

def Misuse.message : Misuse → String
  | .ambiguous word matching =>
    "ambiguous option: " ++ word ++ " could match " ++ String.intercalate ", " matching
  | .missingValue switch => "argument " ++ switch.label ++ ": expected one argument"
  | .needlessValue switch value =>
    "argument " ++ switch.label ++ ": ignored explicit argument " ++ displayedText value
  | .unknownChoice label value choices =>
    "argument " ++ label ++ ": invalid choice: " ++ displayedText value ++ " (choose from " ++
      String.intercalate ", " (choices.map displayedText) ++ ")"
  | .missing labels =>
    "the following arguments are required: " ++ String.intercalate ", " labels
  | .unrecognized words => "unrecognized arguments: " ++ String.intercalate " " words

inductive Invocation where
  | run (arguments : Arguments)
  | version
  | help
  | misuse (problem : Misuse)
  deriving DecidableEq, Repr

inductive Word where
  | plain (text : String)
  | separator
  | switch (switch : Switch) (value : Option String)
  /-- A short switch with further letters. -/
  | letters (switch : Switch) (rest : List Char)
  | unknown (text : String)

def splitEquals (word : String) : String × Option String :=
  let cs := word.toList
  let name := cs.takeWhile (· != '=')
  if name.length = cs.length then (word, none)
  else (String.ofList name, some (String.ofList (cs.drop (name.length + 1))))

/-- The switches that a word may stand for, each with its full spelling. -/
def candidates (word : String) : List (String × Word) :=
  if "--".toList.isPrefixOf word.toList then
    let (name, value) := splitEquals word
    (spellings.filter fun entry => name.toList.isPrefixOf entry.1.toList).map
      fun (spelling, switch) => (spelling, .switch switch value)
  else
    (spellings.filter fun entry => entry.1.toList == word.toList.take 2).map
      fun (spelling, switch) => (spelling, .letters switch (word.toList.drop 2))

/-- What stands behind the equals sign of a short switch without a value are letters again. -/
def withValue (name : String) (switch : Switch) (value : Option String) : Word :=
  match value with
  | some text =>
    if name.length = 2 && !switch.takesValue && !text.isEmpty then .letters switch text.toList
    else .switch switch value
  | none => .switch switch none

def isNegativeNumber (word : String) : Bool :=
  match word.toList with
  | '-' :: rest =>
    let whole := rest.takeWhile isDecimal
    match rest.drop whole.length with
    | [] => !whole.isEmpty
    | '.' :: fraction => !fraction.isEmpty && fraction.all isDecimal
    | _ => false
  | _ => false

def classify (word : String) : Except Misuse Word :=
  if !"-".toList.isPrefixOf word.toList || word = "-" then .ok (.plain word)
  else
    let (name, value) := splitEquals word
    match spellings.lookup word, spellings.lookup name with
    | some switch, _ => .ok (.switch switch none)
    | none, some switch => .ok (withValue name switch value)
    | none, none =>
      match candidates word with
      | [(_, meaning)] => .ok meaning
      | _ :: _ :: _ => .error (.ambiguous word ((candidates word).map Prod.fst))
      | [] =>
        if isNegativeNumber word || word.toList.contains ' ' then .ok (.plain word)
        else .ok (.unknown word)

def classifyAll : List String → Except Misuse (List Word)
  | [] => .ok []
  | word :: rest =>
    if word = "--" then .ok (.separator :: rest.map Word.plain)
    else do
      let first ← classify word
      return first :: (← classifyAll rest)

structure Progress where
  hasCommand : Bool := false
  source : Option String := none
  arguments : Arguments := { source := "" }
  extras : List String := []

inductive Step where
  | go (progress : Progress)
  | stop (invocation : Invocation)

def Progress.setFlag (progress : Progress) : Switch → Step
  | .help => .stop .help
  | .version => .stop .version
  | .isolate => .go { progress with arguments := { progress.arguments with isolate := true } }
  | .summary => .go { progress with arguments := { progress.arguments with summary := true } }
  | .noColor => .go { progress with arguments := { progress.arguments with noColor := true } }
  | .verbose =>
    .go { progress with
      arguments := { progress.arguments with verbosity := progress.arguments.verbosity + 1 } }
  | .source | .dialects | .jsonOut | .logFormat => .go progress

def logFormats : List String := ["text", "json"]

def Progress.setValue (progress : Progress) (switch : Switch) (value : String) : Step :=
  match switch with
  | .source => .go { progress with source := some value }
  | .dialects => .go { progress with arguments := { progress.arguments with dialects := some value } }
  | .jsonOut => .go { progress with arguments := { progress.arguments with jsonOut := some value } }
  | .logFormat =>
    if logFormats.contains value then
      .go { progress with arguments := { progress.arguments with logFormat := value } }
    else .stop (.misuse (.unknownChoice switch.label value logFormats))
  | switch => progress.setFlag switch

/-- The switches that a short one and the letters behind it stand for; each letter has to be one. -/
def readLetters (switch : Switch) : List Char → Except Misuse (List Switch)
  | [] => .ok [switch]
  | letter :: rest =>
    match spellings.lookup (String.ofList ['-', letter]) with
    | none => .error (.needlessValue switch (String.ofList (letter :: rest)))
    | some next => (readLetters next rest).map (switch :: ·)

def Progress.setFlags : Progress → List Switch → Step
  | progress, [] => .go progress
  | progress, switch :: rest =>
    match progress.setFlag switch with
    | .go progress => progress.setFlags rest
    | .stop invocation => .stop invocation

def Progress.setLetters (progress : Progress) (switch : Switch) (rest : List Char) : Step :=
  match readLetters switch rest with
  | .error problem => .stop (.misuse problem)
  | .ok switches => progress.setFlags switches

def Progress.addPlain (progress : Progress) (text : String) : Step :=
  if progress.hasCommand then .go { progress with extras := progress.extras ++ [text] }
  else if text = "parse" then .go { progress with hasCommand := true }
  else .stop (.misuse (.unknownChoice "command" text ["parse"]))

def Progress.finish (progress : Progress) : Invocation :=
  let missing := (if progress.hasCommand then [] else ["command"]) ++
    (if progress.source.isSome then [] else ["--source"])
  match progress.source with
  | some source =>
    if !missing.isEmpty then .misuse (.missing missing)
    else if !progress.extras.isEmpty then .misuse (.unrecognized progress.extras)
    else .run { progress.arguments with source }
  | none => .misuse (.missing missing)

/-- Two dashes before the command or right behind it only separate; elsewhere they are one word
too many. -/
def consume : Progress → List Word → Invocation
  | progress, [] => progress.finish
  | progress, .plain text :: .separator :: rest =>
    let extras := if progress.hasCommand then ["--"] else []
    match progress.addPlain text with
    | .go progress => consume { progress with extras := progress.extras ++ extras } rest
    | .stop invocation => invocation
  | progress, .plain text :: rest =>
    match progress.addPlain text with
    | .go progress => consume progress rest
    | .stop invocation => invocation
  | progress, .separator :: rest =>
    let extras := if progress.hasCommand then ["--"] else []
    consume { progress with extras := progress.extras ++ extras } rest
  | progress, .unknown text :: rest =>
    consume { progress with extras := progress.extras ++ [text] } rest
  | progress, .letters switch letters :: rest =>
    match progress.setLetters switch letters with
    | .go progress => consume progress rest
    | .stop invocation => invocation
  | progress, .switch switch value :: rest =>
    if switch.takesValue then
      match value, rest with
      | some value, rest =>
        match progress.setValue switch value with
        | .go progress => consume progress rest
        | .stop invocation => invocation
      | none, .plain value :: rest =>
        match progress.setValue switch value with
        | .go progress => consume progress rest
        | .stop invocation => invocation
      | none, _ => .misuse (.missingValue switch)
    else match value with
      | some value => .misuse (.needlessValue switch value)
      | none =>
        match progress.setFlag switch with
        | .go progress => consume progress rest
        | .stop invocation => invocation

def interpret (words : List String) : Invocation :=
  match classifyAll words with
  | .error problem => .misuse problem
  | .ok words => consume {} words

end DdlSchema.Command
