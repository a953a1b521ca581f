import DdlSchema.Ddl.Keyword
import DdlSchema.Ddl.Problem
import DdlSchema.Ddl.Token

/-! Cutting a text into the tokens of a dialect. -/

set_option autoImplicit false

namespace DdlSchema.Ddl

open DdlSchema.Text

namespace Lexer

def isSingle (c : Char) : Bool :=
  ['(', ')', '[', ']', '{', '}', '&', '^', ':', ',', '-', '.', '=', '>', '<', '%', '!', '|', '/',
    '\\', '+', ';', '*', '~', '?', '@', '#', '\x27', '\x60', '\x22'].contains c

/-- Like `isSingle`; PostgreSQL reads the dollar as a mark as well. -/
def isSingleIn (dialect : Dialect) (c : Char) : Bool :=
  isSingle c || (c == '$' && dialect == .postgresql)

def continuesWord (dialect : Dialect) (c : Char) : Bool :=
  match dialect with
  | .postgresql => c == '$'
  | .mysql => c == '@'
  | .sqlite => false

def isWordPart (dialect : Dialect) (c : Char) : Bool :=
  !isBlank c && (continuesWord dialect c || !isSingleIn dialect c)

def stringQuotes : Dialect → List Char
  | .mysql => ['\x27', '\x22']
  | _ => ['\x27']

def nameCloser? (dialect : Dialect) (c : Char) : Option Char :=
  match dialect with
  | .postgresql => if c == '\x22' then some c else none
  | .mysql => if c == '\x60' then some c else none
  | .sqlite => if c == '\x22' || c == '\x60' then some c else if c == '[' then some ']' else none

inductive Escape where
  /-- A character that cannot be written otherwise. -/
  | control (value : Char)
  | dropped
  | kept

structure QuoteRules where
  close : Char
  escapes : List Char
  quotes : List Char
  /-- What a backslash does in front of a character; `none` where it is a character like others. -/
  backslash : Option (Char → Escape)

def mysqlControl? (c : Char) : Option Char :=
  [('0', '\x00'), ('b', '\x08'), ('n', '\n'), ('r', '\r'), ('t', '\t'), ('Z', '\x1a'),
    ('\\', '\\')].lookup c

def mysqlEscape (c : Char) : Escape :=
  match mysqlControl? c with
  | some value => .control value
  | none => if c == '%' || c == '_' then .kept else .dropped

def stringRules (dialect : Dialect) (close : Char) : QuoteRules :=
  match dialect with
  | .mysql => ⟨close, ['\x27', '\x22', '\\'], stringQuotes .mysql, some mysqlEscape⟩
  | _ => ⟨close, ['\x27'], ['\x27'], none⟩

def byteRules (dialect : Dialect) : QuoteRules :=
  { stringRules dialect '\x27' with
    escapes := ['\x27', '\\'], backslash := some fun _ => .kept }

def nameRules (dialect : Dialect) (close : Char) : QuoteRules :=
  let escape := fun (c : Char) => (mysqlControl? c).elim Escape.kept .control
  ⟨close, [close], stringQuotes dialect, if dialect == .mysql then some escape else none⟩

def breaksAt (c : Char) (next : Option Char) : Nat :=
  if c == '\n' || (c == '\r' && next != some '\n') then 1 else 0

def breaksIn : List Char → Nat
  | [] => 0
  | c :: rest => breaksAt c rest.head? + breaksIn rest

structure Quoted where
  value : List Char
  /-- The number of characters, the closing quote included. -/
  length : Nat
  breaks : Nat

def Quoted.grow (quoted : Quoted) (value : List Char) (length breaks : Nat) : Quoted :=
  ⟨value ++ quoted.value, quoted.length + length, quoted.breaks + breaks⟩

/-- Reads up to the closing quote. The error is the number of characters after which the reader
gives up; it is larger by one where it steps over the end of the text. -/
def quotedBody (rules : QuoteRules) : List Char → Except Nat Quoted
  | [] => .error 1
  | [c] => if c == rules.close then .ok ⟨[], 1, 0⟩ else .error 1
  | c :: next :: rest =>
    let pair := fun (value : List Char) => (
      match quotedBody rules rest with
      | .ok quoted => .ok (quoted.grow value 2 0)
      | .error reached => .error (reached + 2) : Except Nat Quoted)
    let escape : Option Escape := if c == '\\' then rules.backslash.map (· next) else none
    match escape with
    | some (.control value) => pair [value]
    | escape =>
      let dropped := match escape with
        | some .dropped => true
        | _ => false
      if rules.escapes.contains c &&
          (next == rules.close || rules.escapes.contains next || dropped) &&
          (!rules.quotes.contains c || c == next) then
        if rest.isEmpty then .error 1
        else pair (if next == rules.close || dropped then [next] else [c, next])
      else if c == rules.close then .ok ⟨[], 1, 0⟩
      else match quotedBody rules (next :: rest) with
        | .ok quoted => .ok (quoted.grow [c] 1 (breaksAt c (some next)))
        | .error reached => .error (reached + 1)

inductive Step where
  | blank
  | comment (text : List Char) (length breaks : Nat)
  | token (kind : TokenKind) (text : List Char) (length breaks : Nat)
  /-- Something that is not closed; `reached` as in `quotedBody`. -/
  | unclosed (reached : Nat)

/-- The line feeds of a quoted text that has neither a doubled quote nor a backslash with a meaning:
only they end a line there. -/
def plainBreaks? (rules : QuoteRules) (body : List Char) : Option Nat :=
  let content := body.takeWhile (· != rules.close)
  let isDoubled := rules.escapes.contains rules.close &&
    (body.drop (content.length + 1)).head? == some rules.close
  if isDoubled || (rules.backslash.isSome && content.contains '\\') then none
  else some (content.countP (· == '\n'))

def quotedStep (kind : TokenKind) (rules : QuoteRules) (opening : Nat) (text : List Char) : Step :=
  let body := text.drop opening
  match quotedBody rules body with
  | .ok quoted =>
    let breaks := (plainBreaks? rules body).getD quoted.breaks
    .token kind quoted.value (quoted.length + opening) breaks
  | .error reached => .unclosed (reached + opening)

/-- The rest of a block comment, as its length and line breaks. Only PostgreSQL nests them. -/
def blockTail (nests : Bool) : Nat → List Char → Except Nat (Nat × Nat)
  | _, [] => .error 1
  | depth, '*' :: '/' :: rest =>
    if depth ≤ 1 then .ok (2, 0)
    else match blockTail nests (depth - 1) rest with
      | .ok (length, breaks) => .ok (length + 2, breaks)
      | .error reached => .error (reached + 2)
  | depth, c :: rest =>
    let opens := nests && c == '/' && rest.head? == some '*'
    match blockTail nests (if opens then depth + 1 else depth) rest with
    | .ok (length, breaks) => .ok (length + 1, breaks + breaksAt c rest.head?)
    | .error reached => .error (reached + 1)

def isLineBreak (c : Char) : Bool := c == '\n' || c == '\r'

def lineComment (mark : Nat) (text : List Char) : Step :=
  let body := (text.drop mark).takeWhile fun c => !isLineBreak c
  .comment body (mark + body.length) 0

/-- Two hyphens begin a comment; MySQL wants a blank behind them, and only a line feed ends it. -/
def dashComment? (dialect : Dialect) (text : List Char) : Option Step :=
  if !"--".toList.isPrefixOf text then none
  else if dialect == .mysql then
    if (text.drop 2).head?.all isBlank then
      let body := (text.drop 2).takeWhile (· != '\n')
      some (.comment body (body.length + 2) 0)
    else none
  else some (lineComment 2 text)

/-- The length of the phrase where the text begins with it; a space stands for any blanks. -/
def phraseLength : List Char → List Char → Option Nat
  | [], _ => some 0
  | ' ' :: phrase, text =>
    let gap := (text.takeWhile isBlank).length
    if gap = 0 then none else (phraseLength phrase (text.drop gap)).map (· + gap)
  | _ :: _, [] => none
  | p :: phrase, c :: text =>
    if upperChar c == [p] then (phraseLength phrase text).map (· + 1) else none

/-- A phrase is a keyword only where a blank, a mark or the end of the text follows. -/
def phraseAt? (dialect : Dialect) (text : List Char) : Option (String × Nat) :=
  (phrases dialect).findSome? fun phrase =>
    match phraseLength phrase.toList text with
    | some length =>
      if (text.drop length).head?.all fun c => isBlank c || isSingleIn dialect c then
        some (phrase, length)
      else none
    | none => none

def wordStep (dialect : Dialect) (text : List Char) : Step :=
  match text with
  | [] => .blank
  | c :: rest =>
    let word := c :: rest.takeWhile (isWordPart dialect)
    .token .word word word.length 0

structure NumberPart where
  length : Nat
  pointed : Bool
  /-- How much of an exponent has been read: its letter, its sign. -/
  exponent : Nat

def numberTail : NumberPart → List Char → NumberPart × List Char
  | part, [] => (part, [])
  | part, c :: rest =>
    if c.isDigit then numberTail { part with length := part.length + 1 } rest
    else if c == '.' && !part.pointed then
      numberTail { part with length := part.length + 1, pointed := true } rest
    else if (c == '-' || c == '+') && part.exponent == 1 && rest.head?.any Char.isDigit then
      numberTail { part with length := part.length + 1, exponent := 2 } rest
    else if (c == 'e' || c == 'E') && part.exponent == 0 then
      numberTail { part with length := part.length + 1, exponent := 1 } rest
    else (part, c :: rest)

def isHexDigit (c : Char) : Bool := c.isDigit || (c.toLower.toNat ≥ 0x61 && c.toLower.toNat ≤ 0x66)

def isBit (c : Char) : Bool := c == '0' || c == '1'

def isBased (isDigit : Char → Bool) (body : List Char) : Bool :=
  !body.isEmpty && (splitAtChar '_' body).all fun digits => !digits.isEmpty && digits.all isDigit

def basedNumber? (dialect : Dialect) (text : List Char) : Option Step :=
  let body := (text.drop 2).takeWhile fun c => !isBlank c && !isSingleIn dialect c
  let length := body.length + 2
  let based := fun (kind : TokenKind) (isDigit : Char → Bool) =>
    if isBased isDigit body then Step.token kind body length 0
    else Step.token .quotedName (text.take length) length 0
  match text with
  | '0' :: base :: _ =>
    if base == 'x' || base == 'X' then
      some (based (if dialect == .sqlite then .hexNumber else .hexString) isHexDigit)
    else if base == 'b' || base == 'B' then
      if dialect == .sqlite then some (.token .number ['0'] 1 0) else some (based .bitString isBit)
    else none
  | _ => none

def numberStep (dialect : Dialect) (text : List Char) : Step :=
  match basedNumber? dialect text with
  | some step => step
  | none =>
    let (part, after) := numberTail ⟨1, false, 0⟩ text.tail
    let joined := after.takeWhile fun c => !isBlank c && !isSingleIn dialect c
    -- a name may begin with digits in MySQL
    if dialect == .mysql && after.head?.any fun c => isWordChar c && !c.isDigit then
      .token .word (text.take (part.length + joined.length)) (part.length + joined.length) 0
    else .token .number (text.take part.length) part.length 0

def letteredString? (dialect : Dialect) (letter quote : Char) : Option TokenKind :=
  if letter.toLower == 'n' && (stringQuotes dialect).contains quote then some .nationalString
  else if quote != '\x27' then none
  else match letter.toLower with
    | 'x' => some .hexString
    | 'b' => if dialect == .sqlite then none else some .bitString
    | 'e' => if dialect == .postgresql then some .byteString else none
    | _ => none

def isCoded (kind : TokenKind) (value : List Char) : Bool :=
  match kind with
  | .hexString => !value.isEmpty && value.all isHexDigit
  | .bitString => !value.isEmpty && value.all isBit
  | _ => true

def numberOf (base : Nat) (digits : List Char) : Nat :=
  digits.foldl (fun total c => total * base + ((digitValue? c).getD (c.toLower.toNat - 87))) 0

def isOctal (c : Char) : Bool := '0' ≤ c && c ≤ '7'

def codedCharacter (after : List Char) : List Char × Nat :=
  let coded := fun (skipped : Nat) (least most base : Nat) (isDigit : Char → Bool) =>
    let digits := ((after.drop skipped).take most).takeWhile isDigit
    if digits.length < least then none
    else some (numberOf base digits, skipped + digits.length)
  let shown := fun (code : Option (Nat × Nat)) => match code with
    | some (value, length) => ([Char.ofNat value], length)
    | none => (after.take 1, 1)
  match after.head? with
  | none => (['\\'], 0)
  | some 'x' => shown (coded 1 1 2 16 isHexDigit)
  | some 'U' => shown (coded 1 8 8 16 isHexDigit)
  | some 'u' =>
    match coded 1 4 4 16 isHexDigit, (after.drop 5).take 2, coded 7 4 4 16 isHexDigit with
    | some (high, _), ['\\', 'u'], some (low, length) =>
      if 0xd800 ≤ high && high < 0xdc00 && 0xdc00 ≤ low && low < 0xe000 then
        ([Char.ofNat (0x10000 + (high - 0xd800) * 0x400 + (low - 0xdc00))], length)
      else shown (some (high, 5))
    | code, _, _ => shown code
  | some c =>
    match controlLetters.lookup c with
    | some value => ([value], 1)
    | none =>
      if isOctal c then shown (coded 0 1 3 8 isOctal) else ([c], 1)

/-- A text in which each backslash becomes what it writes. `skip` counts the characters that belong to
the latest one. -/
def decodeCodes : Nat → List Char → List Char
  | _, [] => []
  | skip + 1, _ :: rest => decodeCodes skip rest
  | 0, c :: rest =>
    if c == '\\' then
      let (shown, length) := codedCharacter rest
      shown ++ decodeCodes length rest
    else c :: decodeCodes 0 rest

def letteredStep (dialect : Dialect) (kind : TokenKind) (quote : Char) (text : List Char) : Step :=
  let rules := if kind == .byteString then byteRules dialect else stringRules dialect quote
  match quotedStep kind rules 2 text with
  | .token kind value length breaks =>
    if !isCoded kind value then .unclosed length
    else .token kind (if kind == .byteString then decodeCodes 0 value else value) length breaks
  | step => step

/-- The length of the text up to and with the first occurrence of `part`. -/
def throughPart? (part : List Char) : List Char → Option Nat
  | [] => none
  | c :: rest =>
    if part.isPrefixOf (c :: rest) then some part.length
    else (throughPart? part rest).map (· + 1)

def dollarStep (text : List Char) : Step :=
  let tag := (text.drop 1).takeWhile isWordChar
  let opening := '$' :: tag ++ ['$']
  if opening.isPrefixOf text then
    match throughPart? opening (text.drop opening.length) with
    | some length =>
      let inner := (text.drop opening.length).take (length - opening.length)
      .token .dollarString inner (opening.length + length) (breaksIn inner)
    | none => .unclosed text.length
  else .token .mark ['$'] 1 0

def markStep (dialect : Dialect) (text : List Char) : Step :=
  match (operators dialect).find? fun operator => operator.toList.isPrefixOf text with
  | some operator => .token .mark operator.toList operator.length 0
  | none =>
    if text.head? == some '$' && dialect == .postgresql then dollarStep text
    else .token .mark (text.take 1) 1 0

/-- What begins with the character `c`, which `rest` follows. -/
def step (dialect : Dialect) (c : Char) (rest : List Char) : Step :=
  let text := c :: rest
  if isBlank c then .blank
  else if c.isDigit then numberStep dialect text
  else match nameCloser? dialect c with
    | some close => quotedStep .quotedName (nameRules dialect close) 1 text
    | none =>
      if (stringQuotes dialect).contains c then quotedStep .string (stringRules dialect c) 1 text
      else match dashComment? dialect text with
      | some comment => comment
      | none =>
        if c == '#' && dialect == .mysql then lineComment 1 text
        else if "/*".toList.isPrefixOf text then
          -- a hint is a comment, too, but only MySQL drops its mark
          let opening := if dialect == .mysql && (rest.drop 1).head? == some '+' then 3 else 2
          match blockTail (dialect == .postgresql) 1 (text.drop opening) with
          | .ok (length, breaks) =>
            .comment ((text.drop opening).take (length - 2)) (length + opening) breaks
          | .error reached => .unclosed (reached + opening)
        else if dialect == .postgresql && (c == 'U' || c == 'u') && rest.take 2 == ['&', '\x27'] then
          quotedStep .unicodeString (stringRules dialect '\x27') 3 text
        else if isSingleIn dialect c then markStep dialect text
        else match phraseAt? dialect text with
          | some (phrase, length) => .token .word phrase.toList length 0
          | none =>
            match rest.head?, rest.head?.bind (letteredString? dialect c) with
            | some quote, some kind => letteredStep dialect kind quote text
            | _, _ => wordStep dialect text

def context (text : List Char) (reached : Nat) : String :=
  let start := reached - 50
  let stop := min (reached + 50) (text.length - 1)
  String.ofList ((text.take stop).drop start)

inductive Lexeme where
  | token (token : Token)
  /-- A comment with the lines on which it begins and ends. -/
  | comment (text : String) (first last : Nat)
  /-- A comment that is a hint behind the words that take one. -/
  | hint (token : Token) (first : Nat)

/-- `skip` counts the characters that belong to what was read last. -/
def lexemesFrom (dialect : Dialect) (whole : List Char) :
    Nat → Nat → Nat → List Char → Except Problem (List Lexeme)
  | _, _, _, [] => .ok []
  | skip + 1, position, line, _ :: rest => lexemesFrom dialect whole skip (position + 1) line rest
  | 0, position, line, c :: rest =>
    match step dialect c rest with
    | .blank => lexemesFrom dialect whole 0 (position + 1) (line + breaksAt c rest.head?) rest
    | .comment text length breaks => do
      let lexemes ← lexemesFrom dialect whole (length - 1) (position + 1) (line + breaks) rest
      let written := (c :: rest).take length
      if dialect == .mysql && "/*+".toList.isPrefixOf written then
        return .hint {
          kind := .hint
          text := String.ofList text
          source := String.ofList written
          line := line + breaks
          start := position
          stop := position + length } line :: lexemes
      else return .comment (String.ofList text) line (line + breaks) :: lexemes
    | .token kind text length breaks => do
      let lexemes ← lexemesFrom dialect whole (length - 1) (position + 1) (line + breaks) rest
      return .token {
        kind
        text := String.ofList text
        source := String.ofList ((c :: rest).take length)
        line := line + breaks
        start := position
        stop := position + length } :: lexemes
    | .unclosed reached => .error (.unclosed (context whole (position + reached)))

structure Attaching where
  tokens : List Token
  waiting : List String
  /-- The line on which the latest token, or a comment that belongs to it, ends. -/
  line : Nat

def Token.addComments (token : Token) (comments : List String) : Token :=
  { token with comments := token.comments ++ comments }

/-- A comment belongs to the token before it if it begins on the same line, and otherwise to the
one behind it. -/
def Attaching.comment (state : Attaching) (text : String) (first last : Nat) : Attaching :=
  let waiting := state.waiting ++ [text]
  match state.tokens with
  | token :: before =>
    if first = state.line then ⟨Token.addComments token waiting :: before, [], last⟩
    else { state with waiting }
  | [] => { state with waiting }

def takesHint (token : Token) : Bool := token.isAnyWord ["DELETE", "INSERT", "SELECT", "UPDATE"]

def Attaching.read (state : Attaching) : Lexeme → Attaching
  | .comment text first last => state.comment text first last
  | .hint token first =>
    if state.tokens.head?.any takesHint then ⟨token :: state.tokens, [], token.line⟩
    else state.comment token.text first token.line
  | .token token =>
    match state.tokens with
    | previous :: before =>
      if token.isMark ";" then
        ⟨token :: Token.addComments previous state.waiting :: before, [], token.line⟩
      else ⟨Token.addComments token state.waiting :: state.tokens, [], token.line⟩
    | [] => ⟨[Token.addComments token state.waiting], [], token.line⟩

def Attaching.finish (state : Attaching) : List Token :=
  match state.tokens with
  | token :: before => (Token.addComments token state.waiting :: before).reverse
  | [] => []

def attachComments (lexemes : List Lexeme) : List Token :=
  (lexemes.foldl Attaching.read ⟨[], [], 0⟩).finish

def textBetween (whole : List Char) (line start stop : Nat) : List Token :=
  let text := String.ofList (trim ((whole.take stop).drop start))
  if text.isEmpty then [] else [⟨.string, text, text, line, start, stop, []⟩]

/-- A statement that begins with a command keeps everything behind its first word as it is
written. `command` is that word while its statement lasts; `begins` says whether a statement may
begin here. -/
def foldCommands (dialect : Dialect) (whole : List Char) :
    Option Token → Bool → List Token → List Token
  | none, _, [] => []
  | some command, _, [] => textBetween whole command.line command.stop whole.length
  | none, begins, token :: rest =>
    if begins && isCommandWord dialect token then
      token :: foldCommands dialect whole (some token) false rest
    else
      token :: foldCommands dialect whole none (token.isMark ";" || isBeginWord dialect token) rest
  | some command, _, token :: rest =>
    if token.isMark ";" then
      textBetween whole command.line command.stop token.start ++
        token :: foldCommands dialect whole none true rest
    else foldCommands dialect whole (some command) false rest

end Lexer

def tokenize (dialect : Dialect) (text : List Char) : Except Problem (List Token) := do
  let lexemes ← Lexer.lexemesFrom dialect text 0 0 1 text
  return Lexer.foldCommands dialect text none true (Lexer.attachComments lexemes)

end DdlSchema.Ddl
