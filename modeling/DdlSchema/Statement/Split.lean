import DdlSchema.Statement.Lexeme

/-! Cutting a script into statements. A semicolon ends a statement unless it stands inside
parentheses or inside a procedural block. -/

set_option autoImplicit false

namespace DdlSchema.Statement

open DdlSchema.Text

inductive Block where
  | declarations
  | body
  | branch
  | choice
  | loop
  | forLoop
  | whileLoop
  deriving DecidableEq, Repr

structure Progress where
  /-- The latest piece first. -/
  pieces : List (List Char)
  creating : Bool
  level : Int
  blocks : List Block
  /-- The loop that FOR or WHILE has announced and that LOOP or DO begins. -/
  loopAhead : Option Block
  bodyBegan : Bool
  ended : Bool
  onlyBlanks : Bool

def Progress.start : Progress := ⟨[], false, 0, [], none, false, false, true⟩

def Progress.inBody (progress : Progress) : Bool := progress.blocks.contains .body

def Progress.openBlock (progress : Progress) (block : Block) : Progress :=
  { progress with blocks := block :: progress.blocks, level := progress.level + 1 }

def Progress.closeBlock (progress : Progress) : Progress :=
  { progress with blocks := progress.blocks.tail, level := progress.level - 1 }

def closedBy (word : String) : Option (List Block) :=
  [("END IF", [Block.branch]), ("END CASE", [.choice]), ("END LOOP", [.loop, .forLoop, .whileLoop]),
    ("END FOR", [.forLoop]), ("END WHILE", [.whileLoop])].lookup word

/-- The words after which a body that has just begun is only the name of a transaction. -/
def isTransactionWord (word : String) : Bool :=
  ["TRANSACTION", "WORK", "DEFERRED", "IMMEDIATE", "EXCLUSIVE"].contains word

/-- CREATE alone, or CREATE OR REPLACE whatever blanks it is written with. -/
def isCreation (word : String) : Bool :=
  (words word.toList).head? == some "CREATE".toList

def Progress.keyword (progress : Progress) (word : String) : Progress :=
  if isCreation word then { progress with creating := true }
  else if word = "DECLARE" then
    if progress.creating && progress.blocks.isEmpty then progress.openBlock .declarations
    else progress
  else if word = "BEGIN" then
    match progress.blocks with
    | .declarations :: outer => { progress with blocks := .body :: outer, bodyBegan := true }
    | _ => { progress.openBlock .body with bodyBegan := true }
  else if word = "END" then progress.closeBlock
  else match closedBy word with
    | some kinds => if progress.blocks.head?.any kinds.contains then progress.closeBlock else progress
    | none =>
      if !progress.inBody then progress
      else if word = "IF" then progress.openBlock .branch
      else if word = "CASE" then progress.openBlock .choice
      else if word = "FOR" then { progress with loopAhead := some .forLoop }
      else if word = "WHILE" then { progress with loopAhead := some .whileLoop }
      else if word = "LOOP" then
        { progress.openBlock (progress.loopAhead.getD .loop) with loopAhead := none }
      else match word, progress.loopAhead with
        | "DO", some block => { progress.openBlock block with loopAhead := none }
        | _, _ => progress

def Lexeme.word (lexeme : Lexeme) : String := String.ofList (upper lexeme.text)

def Lexeme.isComment (lexeme : Lexeme) : Bool :=
  lexeme.kind == .lineComment || lexeme.kind == .blockComment

def Lexeme.isBlank (lexeme : Lexeme) : Bool := lexeme.kind == .blank || lexeme.kind == .lineBreak

def Progress.read (progress : Progress) (lexeme : Lexeme) : Progress :=
  let progress := { progress with
    pieces := lexeme.text :: progress.pieces
    onlyBlanks := progress.onlyBlanks && lexeme.isBlank }
  if lexeme.isBlank || lexeme.isComment then progress
  else
    let progress :=
      let isTransaction := lexeme.text == [';'] ||
        (lexeme.kind == .keyword && isTransactionWord lexeme.word)
      if progress.bodyBegan && isTransaction then
        { progress.closeBlock with bodyBegan := false }
      else { progress with bodyBegan := false }
    if lexeme.kind == .mark then
      if lexeme.text == ['('] then { progress with level := progress.level + 1 }
      else if lexeme.text == [')'] then { progress with level := progress.level - 1 }
      else if lexeme.text == [';'] then
        { progress with
          loopAhead := none
          ended := progress.ended || (progress.level ≤ 0 && !progress.inBody) }
      else progress
    else if lexeme.kind == .keyword then
      let progress := progress.keyword lexeme.word
      if (words lexeme.text).head? == some ['G', 'O'] then { progress with ended := true } else progress
    else progress

def Progress.text (progress : Progress) : List Char := trim progress.pieces.reverse.flatten

/-- Blanks and a line comment after the end still belong to the statement; a line break does
not. -/
def splitLexemes (progress : Progress) : List Lexeme → List (List Char)
  | [] => if progress.onlyBlanks then [] else [progress.text]
  | lexeme :: rest =>
    if progress.ended && lexeme.kind != .blank && lexeme.kind != .lineComment then
      progress.text :: splitLexemes (Progress.start.read lexeme) rest
    else splitLexemes (progress.read lexeme) rest

/-- The statements of a script, trimmed, each with the semicolon that ends it. -/
def split (text : List Char) : List (List Char) := splitLexemes .start (lexemes text)

end DdlSchema.Statement
