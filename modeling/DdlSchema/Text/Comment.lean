import DdlSchema.Text.Quoted

/-! Removal of comments. A scanner goes through the text once and looks one character ahead. Line breaks
stay, so every remaining character keeps its line. -/

set_option autoImplicit false

namespace DdlSchema.Text

inductive Scope where
  | code
  | quoted (quote : Char)
  | lineComment
  | blockComment
  deriving DecidableEq, Repr

structure Scanner where
  scope : Scope := .code
  /-- Whether a hash begins a comment here: behind the last line break that is no part of a block
  comment there are only blanks and comments. -/
  lineStart : Bool := true
  deriving DecidableEq, Repr

structure Advance where
  kept : List Char := []
  takesNext : Bool := false
  scanner : Scanner
  deriving DecidableEq, Repr

def readCode (lineStart : Bool) (c : Char) (next : Option Char) : Advance :=
  if isQuote c then { kept := [c], scanner := ⟨.quoted c, false⟩ }
  else if c == '-' && next == some '-' then
    { takesNext := true, scanner := ⟨.lineComment, lineStart⟩ }
  else if c == '#' && lineStart then { scanner := ⟨.lineComment, lineStart⟩ }
  else if c == '/' && next == some '*' then
    { takesNext := true, scanner := ⟨.blockComment, lineStart⟩ }
  else { kept := [c], scanner := ⟨.code, c == '\n' || (lineStart && isBlank c)⟩ }

/-- Inside quotes. A quote written twice does not end them, and in single quotes a backslash takes the
next character along. -/
def readQuoted (quote : Char) (lineStart : Bool) (c : Char) (next : Option Char) : Advance :=
  if c == quote then
    if next == some quote then
      { kept := [c, quote], takesNext := true, scanner := ⟨.quoted quote, lineStart⟩ }
    else { kept := [c], scanner := ⟨.code, lineStart⟩ }
  else if c == '\\' && quote == '\x27' then
    { kept := c :: next.toList, takesNext := next.isSome, scanner := ⟨.quoted quote, lineStart⟩ }
  else { kept := [c], scanner := ⟨.quoted quote, lineStart⟩ }

def readLineComment (lineStart : Bool) (c : Char) : Advance :=
  if c == '\n' then { kept := [c], scanner := ⟨.code, true⟩ }
  else { scanner := ⟨.lineComment, lineStart⟩ }

def readBlockComment (lineStart : Bool) (c : Char) (next : Option Char) : Advance :=
  if c == '*' && next == some '/' then { takesNext := true, scanner := ⟨.code, lineStart⟩ }
  else { kept := if c == '\n' then [c] else [], scanner := ⟨.blockComment, lineStart⟩ }

def Scanner.step (scanner : Scanner) (c : Char) (next : Option Char) : Advance :=
  match scanner.scope with
  | .code => readCode scanner.lineStart c next
  | .quoted quote => readQuoted quote scanner.lineStart c next
  | .lineComment => readLineComment scanner.lineStart c
  | .blockComment => readBlockComment scanner.lineStart c next

def Scanner.scan (scanner : Scanner) : List Char → List Char
  | [] => []
  | [c] => (scanner.step c none).kept
  | c :: d :: rest =>
    let advance := scanner.step c (some d)
    if advance.takesNext then advance.kept ++ advance.scanner.scan rest
    else advance.kept ++ advance.scanner.scan (d :: rest)

/-- The text without its block comments, its `--` comments and the `#` comments that begin a
line. Quoted spans are left alone. -/
def stripComments (text : List Char) : List Char := Scanner.scan {} text

end DdlSchema.Text
