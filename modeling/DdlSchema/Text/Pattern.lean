import DdlSchema.Text.Case

/-! Ordered patterns over a text. A pattern tries its choices in a fixed order and comes back to
a later choice when what follows does not fit; the first way that fits is the match. -/

set_option autoImplicit false

namespace DdlSchema.Text

inductive Pattern where
  | empty
  | char (accepts : Char → Bool)
  /-- As many characters of a class as possible, at least `least`. -/
  | run (accepts : Char → Bool) (least : Nat)
  | shortRun (accepts : Char → Bool)
  | seq (first second : Pattern)
  | either (first second : Pattern)
  /-- As many repetitions as possible; each one takes at least one character. -/
  | many (body : Pattern)
  | capture (label : String) (body : Pattern)
  /-- The character before this place is of a class. -/
  | after (accepts : Char → Bool)
  /-- There is no character of the class before this place. -/
  | notAfter (accepts : Char → Bool)
  /-- What follows fits, and is not taken. -/
  | ahead (body : Pattern)
  /-- The character that follows, if any, is not of the class. -/
  | notAhead (accepts : Char → Bool)
  /-- A word character stands on exactly one side of this place. -/
  | edge
  | finish

structure Cursor where
  before : Option Char
  rest : List Char
  consumed : Nat
  captured : List (String × List Char)

structure Match where
  length : Nat
  captured : List (String × List Char)

def Match.get? (found : Match) (label : String) : Option (List Char) :=
  found.captured.lookup label

namespace Pattern

variable {α : Type}

def overRun (accepts : Char → Bool) (captured : List (String × List Char))
    (next : Cursor → Option α) : Nat → Option Char → List Char → Nat → Option α
  | least, before, [], consumed =>
    if least = 0 then next ⟨before, [], consumed, captured⟩ else none
  | least, before, c :: rest, consumed =>
    let stop := fun (_ : Unit) =>
      if least = 0 then next ⟨before, c :: rest, consumed, captured⟩ else none
    if accepts c then
      match overRun accepts captured next (least - 1) (some c) rest (consumed + 1) with
      | some result => some result
      | none => stop ()
    else stop ()

def overShortRun (accepts : Char → Bool) (captured : List (String × List Char))
    (next : Cursor → Option α) : Option Char → List Char → Nat → Option α
  | before, [], consumed => next ⟨before, [], consumed, captured⟩
  | before, c :: rest, consumed =>
    match next ⟨before, c :: rest, consumed, captured⟩ with
    | some result => some result
    | none =>
      if accepts c then overShortRun accepts captured next (some c) rest (consumed + 1) else none

/-- At most `bound` repetitions; a place from which none is left is passed to `next`. -/
def repeatBody (step : Cursor → (Cursor → Option α) → Option α) (next : Cursor → Option α) :
    Nat → Cursor → Option α
  | 0, place => next place
  | bound + 1, place =>
    match step place fun later =>
        if place.consumed < later.consumed then repeatBody step next bound later else none with
    | some result => some result
    | none => next place

/-- Runs the pattern from a place and passes each place where it can end, best first, to `next`
until that one succeeds. -/
def run? : Pattern → Cursor → (Cursor → Option α) → Option α
  | .empty, place, next => next place
  | .char accepts, place, next =>
    match place.rest with
    | [] => none
    | c :: rest =>
      if accepts c then next ⟨some c, rest, place.consumed + 1, place.captured⟩ else none
  | .run accepts least, place, next =>
    overRun accepts place.captured next least place.before place.rest place.consumed
  | .shortRun accepts, place, next =>
    overShortRun accepts place.captured next place.before place.rest place.consumed
  | .seq first second, place, next => run? first place fun middle => run? second middle next
  | .either first second, place, next =>
    match run? first place next with
    | some result => some result
    | none => run? second place next
  | .many body, place, next =>
    repeatBody (fun from_ inner => run? body from_ inner) next place.rest.length place
  | .capture label body, place, next =>
    run? body place fun later =>
      next { later with
        captured := (label, place.rest.take (later.consumed - place.consumed)) :: later.captured }
  | .after accepts, place, next =>
    match place.before with
    | some c => if accepts c then next place else none
    | none => none
  | .notAfter accepts, place, next =>
    match place.before with
    | some c => if accepts c then none else next place
    | none => next place
  | .ahead body, place, next => run? body place fun _ => next place
  | .notAhead accepts, place, next => if place.rest.head?.any accepts then none else next place
  | .edge, place, next =>
    let left := place.before.any isWordChar
    let right := place.rest.head?.any isWordChar
    if left != right then next place else none
  | .finish, place, next => if place.rest.isEmpty then next place else none

/-- The match that begins exactly here, `before` being the character in front of the text. -/
def matchAt (pattern : Pattern) (before : Option Char) (text : List Char) : Option Match :=
  pattern.run? ⟨before, text, 0, []⟩ fun place => some ⟨place.consumed, place.captured⟩

def matchStart (pattern : Pattern) (text : List Char) : Option Match := pattern.matchAt none text

def searchFrom (pattern : Pattern) : Option Char → List Char → Option (Match × List Char)
  | before, [] => (pattern.matchAt before []).map (·, [])
  | before, c :: rest =>
    match pattern.matchAt before (c :: rest) with
    | some found => some (found, c :: rest)
    | none => searchFrom pattern (some c) rest

def search (pattern : Pattern) (text : List Char) : Option (Match × List Char) :=
  pattern.searchFrom none text

/-- All matches from left to right, none overlapping another; empty ones are passed over.
`skip` counts the characters that belong to the latest match. -/
def matchesFrom (pattern : Pattern) : Nat → Option Char → List Char → List Match
  | _, _, [] => []
  | skip + 1, _, c :: rest => matchesFrom pattern skip (some c) rest
  | 0, before, c :: rest =>
    match pattern.matchAt before (c :: rest) with
    | some ⟨length + 1, captured⟩ =>
      ⟨length + 1, captured⟩ :: matchesFrom pattern length (some c) rest
    | _ => matchesFrom pattern 0 (some c) rest

def allMatches (pattern : Pattern) (text : List Char) : List Match := pattern.matchesFrom 0 none text

def replaceFrom (pattern : Pattern) (replacement : List Char) :
    Nat → Option Char → List Char → List Char
  | _, _, [] => []
  | skip + 1, _, c :: rest => replaceFrom pattern replacement skip (some c) rest
  | 0, before, c :: rest =>
    match pattern.matchAt before (c :: rest) with
    | some ⟨length + 1, _⟩ => replacement ++ replaceFrom pattern replacement length (some c) rest
    | _ => c :: replaceFrom pattern replacement 0 (some c) rest

/-- The text with every match of `allMatches` replaced. -/
def replaceAll (pattern : Pattern) (replacement text : List Char) : List Char :=
  pattern.replaceFrom replacement 0 none text

def ofList : List Pattern → Pattern
  | [] => .empty
  | [only] => only
  | first :: rest => .seq first (ofList rest)

def oneOf : List Pattern → Pattern
  | [] => .char fun _ => false
  | [only] => only
  | first :: rest => .either first (oneOf rest)

def optional (body : Pattern) : Pattern := .either body .empty

def oneOrMore (body : Pattern) : Pattern := .seq body (.many body)

def literal (text : String) : Pattern := ofList (text.toList.map fun c => .char (· == c))

/-- The letters of `text` in either case. -/
def letters (text : String) : Pattern := ofList (text.toList.map fun c => .char (sameLetter c))

def blanks : Pattern := .run isBlank 0

def gap : Pattern := .run isBlank 1

def wordChars : Pattern := .run isWordChar 1

def phrase (text : String) : Pattern :=
  ofList (((splitAtChar ' ' text.toList).map fun word => letters (String.ofList word)).intersperse gap)

end Pattern

end DdlSchema.Text
