import DdlSchema.Text.Letter

/-! Amounts of time as a text gives them: numbers, each with the unit that it counts. -/

set_option autoImplicit false

namespace DdlSchema.Ddl

open DdlSchema.Text

/-- An amount and a unit at the front of a text, and the rest. -/
def amountPart? (text : List Char) : Option ((String × String) × List Char) :=
  let body := text.dropWhile isBlank
  let sign := if body.head? == some '-' then ['-'] else []
  let whole := (body.drop sign.length).takeWhile Char.isDigit
  let after := body.drop (sign.length + whole.length)
  let fraction := match after with
    | '.' :: rest => rest.takeWhile Char.isDigit
    | _ => []
  let pointed := if fraction.isEmpty then [] else '.' :: fraction
  let unitStart := (after.drop pointed.length).dropWhile isBlank
  let unit := unitStart.takeWhile Char.isAlpha
  if whole.isEmpty || unit.isEmpty then none
  else some ((String.ofList (sign ++ whole ++ pointed), String.ofList unit),
    (unitStart.drop unit.length).dropWhile isBlank)

def amountParts : Nat → List Char → List (String × String)
  | 0, _ => []
  | _, [] => []
  | bound + 1, c :: rest =>
    match amountPart? (c :: rest) with
    | some (part, after) => part :: amountParts bound after
    | none => amountParts bound rest

end DdlSchema.Ddl
