import DdlSchema.Ddl.Reader.Call

/-! Reading literals, values that are given when a statement runs, and intervals. -/

set_option autoImplicit false

namespace DdlSchema.Ddl.Reader

open DdlSchema.Text

def joinedStrings (first : Expr) : Reader Expr := do
  match ← sequence stringText with
  | [] => return first
  | others => return .known "CONCAT" (first :: others.map Expr.text)

def signedWord (value : Nat) : Int := Int.bmod value (Nat.pow 2 64)

/-- What the token stands for on its own; `none` where it needs more or is no literal. -/
def literalOf? (token : Token) : Option Expr :=
  match token.kind with
  | .string => some (.text token.text)
  | .number => some (.number token.text)
  | .hexNumber => some (.number (toString (signedWord (codedNumber 16 token.text))))
  | .nationalString | .hexString | .bitString | .byteString | .unicodeString | .dollarString =>
    some (.coded token.kind token.text)
  | .word =>
    [("NULL", Expr.null), ("TRUE", .truth true), ("FALSE", .truth false)].lookup token.upper
  | .mark => if token.text == "*" then some .star else none
  | .quotedName | .hint => none

def pointedNumber : Reader (Option Expr) := do
  if (← atMark ".") && (← secondIs fun next => next.kind == .number) then
    advance
    return (← ofKind .number).map fun digits => .number ("0." ++ digits)
  else return none

/-- A text in which characters are written by their codes, with the mark in front of a code. -/
def escaped (value : Expr) : Reader Expr := do
  let isCoded := match value with
    | .coded .unicodeString _ => true
    | _ => false
  let isMarked ← if isCoded then spelled "UESCAPE" else pure false
  if isMarked then
    return .phrase (value :: .word " UESCAPE " :: (← stringText).toList.map Expr.text)
  else return value

def plainLiteral : Reader (Option Expr) := do
  match (← peek).bind literalOf? with
  | some value =>
    advance
    let value ← remarked value
    if value.isString then some <$> joinedStrings value else some <$> escaped value
  | none => pointedNumber

def sessionSetting : Reader (Option Expr) := do
  if ← mark "@@" then
    let first := (← anyText).getD ""
    if ← mark "." then
      return some (.word ("@@" ++ first ++ "." ++ (← anyText).getD ""))
    else return some (.word ("@@" ++ first))
  else return none

/-- A literal behind the name of its character set; the name alone is a column. -/
def introduced : Reader (Option Expr) := do
  let dialect ← dialect
  match ← take? fun token => token.kind == .word && isCharacterSetMark dialect token.upper with
  | none => return none
  | some token =>
    match ← plainLiteral with
    | some value => return some (.phrase [.word (token.text ++ " "), value])
    | none => return some (.name (nameOf token))

def literal : Reader (Option Expr) := oneOf [plainLiteral, introduced, sessionSetting]

def givenName : Reader (Option Expr) := do
  match ← ofKind .quotedName with
  | some name => return some (.name ⟨name, true⟩)
  | none => orElse literal (return (← anyName).map fun name => .word name.text)

def givenValue : Reader (Option Expr) := attempt do
  if ← mark "?" then return some (.word "?")
  else if ← mark ":" then
    match ← orElse (return (← softName).map Name.text) (ofKind .number) with
    | some name => return some (.word (":" ++ name))
    | none => return none
  else if (← oneMark ["@", "$"]).isSome then
    return (← givenName).map Expr.parameter
  else return none

def signedDigits? : Expr → Option String
  | .number digits => some digits
  | .remark operand _ => signedDigits? operand
  | .unary "-" operand => (signedDigits? operand).map ("-" ++ ·)
  | _ => none

def unitWord : Reader (Option Expr) := do
  let dialect ← dialect
  return (← take? fun token => !isReserved dialect token && !token.isWord "AS").map fun token =>
    .word (fullUnit token.upper)

/-- Units that a column may count; in front of another word it is no amount. -/
def isUnit (word : String) : Bool :=
  let units := ["CENTURY", "DAY", "DECADE", "DOW", "DOY", "EPOCH", "HOUR", "ISODOW", "ISOYEAR",
    "MICROSECOND", "MILLENNIUM", "MILLISECOND", "MINUTE", "MONTH", "NANOSECOND", "QUARTER", "SECOND",
    "WEEK", "YEAR"]
  units.contains word || units.any fun unit => unit ++ "S" == word

def asAmount (amount : Expr) : Expr :=
  match signedDigits? amount with
  | some digits => .text digits
  | none => amount

def intervalUnit (inner : Inner) : Reader (Option Expr) := orElse inner.call unitWord

def intervalSpan (inner : Inner) (unit : Option Expr) : Reader (Option Expr) := do
  if ← spelled "TO" then
    let last ← intervalUnit inner
    return some (.phrase (unit.toList ++ .word " TO " :: last.toList))
  else return unit

def interval (inner : Inner) : Reader (Option Expr) := attempt do
  unless ← keyword "INTERVAL" do return none
  let isString ← peekIs fun token => token.kind == .string
  match ← if isString then literal else inner.term with
  | none => return none
  | some amount =>
    let isColumn := match amount.bare with
      | .column [] name => !name.quoted
      | _ => false
    let isFollowed ← peekIs fun token => !isUnit token.upper
    if isColumn && isFollowed then return none
    let start ← get
    let unit ← intervalUnit inner
    match asAmount amount, amount.bare with
    | kept, .text content =>
      let parts := amountParts content.length content.toList
      if !parts.isEmpty then set start
      match parts with
      | [(count, name)] =>
        return some (.interval (some (.text count))
          (← intervalSpan inner (some (.word (fullUnit (upperString name))))))
      | [] => return some (.interval (some kept) (← intervalSpan inner unit))
      | _ => return some (.interval (some kept) (← intervalSpan inner none))
    | kept, _ => return some (.interval (some kept) (← intervalSpan inner unit))

end DdlSchema.Ddl.Reader
