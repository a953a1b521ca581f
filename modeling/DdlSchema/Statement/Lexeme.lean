import DdlSchema.Text.Pattern

/-! The lexemes of a script, as far as they decide where its statements end. -/

set_option autoImplicit false

namespace DdlSchema.Statement

open DdlSchema.Text

inductive LexemeKind where
  | blank
  | lineBreak
  | lineComment
  | blockComment
  | keyword
  | mark
  | other
  deriving DecidableEq, Repr

structure Lexeme where
  kind : LexemeKind
  text : List Char

/-- A letter that can begin a name: a Latin letter, accented capitals and their small forms
included. -/
def beginsName (c : Char) : Bool :=
  c.isAlpha || (0xc0 ≤ c.toNat && c.toNat ≤ 0xdc) ||
    (0xe0 ≤ c.toNat && c.toNat ≤ 0xfc && c.toNat != 0xf7) ||
    [0x17f, 0x130, 0x131, 0x212a, 0x212b].contains c.toNat

def joinsNumber (c : Char) : Bool := c == '_' || beginsName c

def charIn (marks : String) (c : Char) : Bool := marks.toList.contains c

namespace Rule

open Pattern

def exactly (c : Char) : Pattern := .char (· == c)

def namePoint : Pattern := ofList [blanks, exactly '.', .notAhead isDecimal]

def lineBreak : Pattern := oneOf [literal "\r\n", exactly '\r', exactly '\n']

def toLineEnd : Pattern := .seq (.shortRun (· != '\n')) (.either lineBreak .finish)

def lineCommentMark : Pattern := .either (literal "--") (literal "# ")

def blockCommentTail : Pattern := .seq (.shortRun fun _ => true) (literal "*/")

/-- A span in which the quote is written twice or, where `escape` allows, after a backslash. -/
def quotedBy (quote : Char) (escape : Bool) : Pattern :=
  let doubled := ofList [exactly quote, exactly quote]
  let plain := .char (· != quote)
  let inner := if escape then oneOf [doubled, ofList [exactly '\\', exactly quote], plain]
    else .either doubled plain
  ofList [exactly quote, .many inner, exactly quote]

def nameWord : Pattern := .seq (.char beginsName) (.run isWordChar 0)

def digits : Pattern := .run isDecimal 1

def sign : Pattern := optional (exactly '-')

def isHexDigit (c : Char) : Bool := isDecimal c || "abcdef".toList.any fun letter => sameLetter letter c

def numbers : Pattern :=
  oneOf
    [ofList [sign, literal "0", letters "x", .run isHexDigit 1],
      ofList [sign, digits, optional (.seq (exactly '.') digits), letters "e", sign, digits],
      ofList [.notAhead joinsNumber, sign,
        .either (ofList [digits, exactly '.', .run isDecimal 0]) (.seq (exactly '.') digits),
        .notAhead joinsNumber],
      ofList [.notAhead joinsNumber, sign, digits, .notAhead joinsNumber]]

def all : List (Pattern × LexemeKind) := [
  (ofList [lineCommentMark, exactly '+', toLineEnd], .other),
  (.seq (literal "/*+") blockCommentTail, .other),
  (.seq lineCommentMark toLineEnd, .lineComment),
  (.seq (literal "/*") blockCommentTail, .blockComment),
  (lineBreak, .lineBreak),
  (.char isBlank, .blank),
  (oneOf [literal ":=", literal "::", exactly '*'], .other),
  (.either (quotedBy '\x60' false) (quotedBy (Char.ofNat 0xb4) false), .other),
  (oneOf
    [exactly '?',
      ofList [exactly '%', optional (ofList [exactly '(', wordChars, exactly ')']), letters "s"],
      ofList [.notAfter isWordChar, .char (charIn "$:?"), wordChars],
      .seq (exactly '\\') wordChars], .other),
  (.seq (oneOf (["CASE", "IN", "VALUES", "USING", "FROM", "AS"].map letters)) .edge, .keyword),
  (ofList [oneOf [exactly '@', literal "##", exactly '#'], .char beginsName, wordChars], .other),
  (.seq nameWord (.ahead namePoint), .other),
  (.seq (.after (· == '.')) nameWord, .other),
  (.seq nameWord (.ahead (exactly '(')), .other),
  (numbers, .other),
  (.either (quotedBy '\x27' true) (quotedBy '\x22' true), .other),
  (ofList [.notAfter fun c => isWordChar c || c == ']' || c == ')', exactly '[',
    .run (fun c => c != ']' && c != '[') 1, exactly ']'], .other),
  (ofList [letters "END",
    optional (.seq gap (oneOf (["IF", "LOOP", "WHILE", "FOR", "CASE"].map letters))), .edge],
    .keyword),
  (ofList [letters "IF", gap, optional (.seq (letters "NOT") gap), letters "EXISTS", .edge], .keyword),
  (ofList [letters "CREATE", optional (ofList [gap, letters "OR", gap, letters "REPLACE"]), .edge],
    .keyword),
  (.seq (phrase "HANDLER FOR") .edge, .keyword),
  (ofList [letters "GO", .char isBlank, digits, .edge], .keyword),
  (ofList [phrase "AT TIME ZONE", gap, exactly '\x27', .run (· != '\x27') 1, exactly '\x27'], .other),
  (.seq (.char isWordChar) (.run (fun c => isWordChar c || c == '$' || c == '#') 0), .keyword),
  (.char (charIn ";:()[],."), .mark),
  (oneOf [.seq (literal "->") (optional (exactly '>')), .seq (literal "#>") (optional (exactly '>')),
    literal "@>", literal "<@", exactly '-', literal "#-"], .other),
  (.run (charIn "<>=~!") 1, .other),
  (.run (charIn "+/@#%^&|-") 1, .other)]

end Rule

-- A tag is closed by the same letters only: $body$ does not close $Body$, though case counts nowhere else here.
/-- The number of characters up to the end of the first repetition of the tag. -/
def throughTag (tag : List Char) : List Char → Option Nat
  | [] => none
  | c :: rest =>
    if tag.isPrefixOf (c :: rest) then some tag.length else (throughTag tag rest).map (· + 1)

def dollarQuoted (before : Option Char) (text : List Char) : Option Nat :=
  let tag : Pattern := .ofList
    [.notAfter fun c => isWordChar c || c == '\x22' || c == '$', .char (· == '$'),
      .optional (.seq (.char joinsNumber) (.run isWordChar 0)), .char (· == '$')]
  match tag.matchAt before text with
  | some found =>
    (throughTag (text.take found.length) (text.drop found.length)).map (· + found.length)
  | none => none

def firstRule (before : Option Char) (text : List Char) :
    List (Pattern × LexemeKind) → LexemeKind × Nat
  | [] => (.other, 1)
  | (pattern, kind) :: rules =>
    match pattern.matchAt before text with
    | some ⟨length + 1, _⟩ => (kind, length + 1)
    | _ => firstRule before text rules

/-- Kind and length of the lexeme that begins here; what no rule fits is one character. -/
def lexemeAt (before : Option Char) (text : List Char) : LexemeKind × Nat :=
  match dollarQuoted before text with
  | some length => (.other, length)
  | none => firstRule before text Rule.all

/-- `skip` counts the characters that belong to the latest lexeme. -/
def lexemesFrom : Nat → Option Char → List Char → List Lexeme
  | _, _, [] => []
  | skip + 1, _, c :: rest => lexemesFrom skip (some c) rest
  | 0, before, c :: rest =>
    let (kind, length) := lexemeAt before (c :: rest)
    ⟨kind, (c :: rest).take length⟩ :: lexemesFrom (length - 1) (some c) rest

def lexemes (text : List Char) : List Lexeme := lexemesFrom 0 none text

end DdlSchema.Statement
