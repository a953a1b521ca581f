import DdlSchema.Ddl.Keyword
import DdlSchema.Ddl.Problem
import DdlSchema.Ddl.Tree

/-! The state of a reader and its smallest steps. -/

set_option autoImplicit false

namespace DdlSchema.Ddl

open DdlSchema.Text

/-- The token that was read last and those that are still to be read. -/
structure Input where
  previous : Option Token
  rest : List Token
  /-- The comments of the token that was read last, unless they belong to something already. -/
  comments : List String := []

/-- What was read, with the form in which it is written back where no dialect is given. -/
structure Written (α : Type) where
  value : α
  text : String

abbrev Reader (α : Type) : Type := ReaderT Dialect (StateT Input (Except Problem)) α

namespace Reader

def peek : Reader (Option Token) := return (← get).rest.head?

def peekSecond : Reader (Option Token) := return (← get).rest.tail.head?

def previous : Reader (Option Token) := return (← get).previous

def dialect : Reader Dialect := read

def advance : Reader Unit :=
  modify fun input => match input.rest with
    | [] => input
    | token :: rest => ⟨some token, rest, token.comments⟩

def failAt {α : Type} (token : Option Token) (description : String) : Reader α :=
  match token with
  | some token => throw (.unreadable token.line token.source description)
  | none => throw (.unreadable 1 "" description)

def fail {α : Type} (description : String) : Reader α := do
  let input ← get
  failAt (input.rest.head? <|> input.previous) description

def failBehind {α : Type} (description : String) : Reader α := do
  failAt (← previous) description

def failPlainly {α : Type} (description : String) : Reader α := throw (.unplaced description)

/-- The number of tokens left; it bounds every loop of a reader. -/
def remaining : Reader Nat := return (← get).rest.length

def isAtEnd : Reader Bool := return (← get).rest.isEmpty

def peekIs (accepts : Token → Bool) : Reader Bool := return (← peek).any accepts

def secondIs (accepts : Token → Bool) : Reader Bool := return (← peekSecond).any accepts

def accept (accepts : Token → Bool) : Reader Bool := do
  if ← peekIs accepts then
    advance
    return true
  else return false

def mark (text : String) : Reader Bool := accept fun token => token.isMark text

def atMark (text : String) : Reader Bool := peekIs fun token => token.isMark text

def keyword (word : String) : Reader Bool := accept fun token => token.isWord word

def atKeyword (word : String) : Reader Bool := peekIs fun token => token.isWord word

def isSpelled (word : String) (token : Token) : Bool := token.kind != .string && token.upper == word

/-- A token with this text in any case, whatever it is unless a string. -/
def spelled (word : String) : Reader Bool := accept (isSpelled word)

/-- Takes as many tokens as there are tests, all of which have to hold, or none. -/
def acceptAll (tests : List (Token → Bool)) : Reader Bool := do
  let input ← get
  let fits := tests.length ≤ input.rest.length &&
    (tests.zip input.rest).all fun (accepts, token) => accepts token
  if fits then
    for _ in tests do advance
  return fits

def allSpelled (words : List String) : Reader Bool := acceptAll (words.map isSpelled)

def keywords (words : List String) : Reader Bool :=
  acceptAll (words.map fun word token => token.isWord word)

/-- The token that the reader looks at, taken if it is accepted. -/
def take? (accepts : Token → Bool) : Reader (Option Token) := do
  match ← peek with
  | some token =>
    if accepts token then
      advance
      return some token
    else return none
  | none => return none

def oneSpelled (words : List String) : Reader (Option String) := do
  return (← take? fun token => token.kind != .string && words.contains token.upper).map Token.upper

/-- Options, each a word with the phrases one of which has to follow it, if there are any. -/
abbrev Options : Type := List (String × List String)

def onePhrase : List String → Reader (Option String)
  | [] => return none
  | phrase :: rest => do
    if ← allSpelled (phrase.splitOn " ") then return some phrase else onePhrase rest

def knownOption (options : Options) : Reader (Option String) := do
  let start ← get
  match (← peek).bind fun token => (options.lookup token.upper).map (token.upper, ·) with
  | none => return none
  | some (word, phrases) =>
    advance
    if phrases.isEmpty then return some word
    else match ← onePhrase phrases with
      | some phrase => return some (word ++ " " ++ phrase)
      | none =>
        set start
        return none

/-- One of the options, which has to be there unless the text ends. -/
def requiredOption (options : Options) : Reader (Option String) := do
  match ← knownOption options, ← peek with
  | some option, _ => return some option
  | none, none => return none
  | none, some token =>
    advance
    fail ("Unknown option " ++ token.upper)

def oneKeyword (words : List String) : Reader (Option String) := do
  return (← take? fun token => token.isAnyWord words).map Token.upper

def oneMark (symbols : List String) : Reader (Option String) := do
  return (← take? fun token => token.kind == .mark && symbols.contains token.text).map Token.text

def ofKind (kind : TokenKind) : Reader (Option String) := do
  return (← take? fun token => token.kind == kind).map Token.text

def close : Reader Unit := do
  unless ← mark ")" do fail "Expecting )"

/-- Reads with `body` between parentheses. -/
def wrapped {α : Type} (body : Reader α) : Reader α := do
  unless ← mark "(" do fail "Expecting ("
  let result ← body
  close
  return result

/-- What `body` found between commas; it may find nothing. -/
def listFrom {α : Type} (body : Reader (Option α)) : Nat → Reader (List α)
  | 0 => return (← body).toList
  | bound + 1 => do
    let first ← body
    if ← mark "," then
      return first.toList ++ (← listFrom body bound)
    else return first.toList

def commaList {α : Type} (body : Reader (Option α)) : Reader (List α) := do
  listFrom body (← remaining)

/-- What `body` found, again and again, until it finds nothing. -/
def repeatFrom {α : Type} (body : Reader (Option α)) : Nat → Reader (List α)
  | 0 => return []
  | bound + 1 => do
    match ← body with
    | some first => return first :: (← repeatFrom body bound)
    | none => return []

def sequence {α : Type} (body : Reader (Option α)) : Reader (List α) := do
  repeatFrom body ((← remaining) + 1)

def either (first second : Reader Bool) : Reader Bool := do
  if ← first then return true else second

def orElse {α : Type} (first second : Reader (Option α)) : Reader (Option α) := do
  match ← first with
  | some result => return some result
  | none => second

def oneOf {α : Type} : List (Reader (Option α)) → Reader (Option α)
  | [] => return none
  | first :: rest => orElse first (oneOf rest)

/-- Runs `body`, and takes its steps back where it finds nothing. -/
def attempt {α : Type} (body : Reader (Option α)) : Reader (Option α) := do
  let input ← get
  match ← body with
  | some result => return some result
  | none =>
    set input
    return none

/-- Runs `body`, and takes its steps back where it finds nothing or gives up. -/
def attemptAll {α : Type} (body : Reader (Option α)) : Reader (Option α) := fun dialect input =>
  match body dialect input with
  | .ok (some result, after) => .ok (some result, after)
  | .ok (none, _) | .error _ => .ok (none, input)

def required {α : Type} (body : Reader (Option α)) : Reader α := do
  match ← body with
  | some value => return value
  | none => fail "Expecting expression"

def nameOf (token : Token) : Name := ⟨token.text, token.kind == .quotedName || token.kind == .string⟩

def anyName : Reader (Option Name) := do
  let dialect ← dialect
  return (← take? fun token => !isReserved dialect token).map nameOf

def softName : Reader (Option Name) := do
  let dialect ← dialect
  return (← take? fun token => token.kind == .quotedName || isSoftWord dialect token).map nameOf

def anyText : Reader (Option String) := return (← anyName).map Name.text

def stringText : Reader (Option String) := ofKind .string

def requiredString : Reader String := do
  match ← stringText with
  | some text => return text
  | none => fail "Expecting string"

def plainWord : Reader (Option String) := do
  let dialect ← dialect
  return (← take? fun token => token.kind == .word && isPlainWord dialect token.upper).map Token.text

def openList : Reader Bool := atMark "("

def nameList : Reader (List Name) := wrapped (commaList anyName)

def characterSetWords : Reader Bool := do
  either (allSpelled ["CHARACTER", "SET"]) (either (allSpelled ["CHAR", "SET"])
    (if (← dialect) == .mysql then spelled "CHARSET" else return false))

def takeComments : Reader (List String) :=
  modifyGet fun input => (input.comments, { input with comments := [] })

def withComments (value : Expr) (comments : List String) : Expr :=
  if comments.isEmpty then value else .remark value comments

def remarked (value : Expr) : Reader Expr := return withComments value (← takeComments)

end Reader

end DdlSchema.Ddl
