/-! Wildcards in a part of a path: a star stands for any characters, a question mark for one, and
brackets for one character of a class. -/

set_option autoImplicit false

namespace DdlSchema.Command

inductive Wildcard where
  | exactly (c : Char)
  | anyOne
  | anyRun
  /-- One character in any of the closed ranges, or in none of them. -/
  | among (isNegated : Bool) (ranges : List (Char × Char))

namespace Wildcard

def ranges : List Char → List (Char × Char)
  | low :: '-' :: high :: rest => (low, high) :: ranges rest
  | c :: rest => (c, c) :: ranges rest
  | [] => []

def classAt? (text : List Char) : Option (Wildcard × Nat) :=
  let isNegated := text.head? == some '!'
  let body := if isNegated then text.tail else text
  let lead := if body.head? == some ']' then 1 else 0
  let inner := (body.drop lead).takeWhile (· != ']')
  if (body.drop lead).length = inner.length then none
  else
    let members := body.take lead ++ inner
    some (.among isNegated (ranges members), members.length + 1 + (if isNegated then 1 else 0))

/-- `skip` counts the characters that belong to the latest wildcard. -/
def readFrom : Nat → List Char → List Wildcard
  | _, [] => []
  | skip + 1, _ :: rest => readFrom skip rest
  | 0, c :: rest =>
    match c, classAt? rest with
    | '*', _ => .anyRun :: readFrom 0 rest
    | '?', _ => .anyOne :: readFrom 0 rest
    | '[', some (wildcard, length) => wildcard :: readFrom length rest
    | c, _ => .exactly c :: readFrom 0 rest

def read (text : List Char) : List Wildcard := readFrom 0 text

def accepts (c : Char) : Wildcard → Bool
  | .exactly other => c == other
  | .anyOne | .anyRun => true
  | .among isNegated ranges => (ranges.any fun (low, high) => low ≤ c && c ≤ high) != isNegated

def fitsLater (next : List Char → Bool) : List Char → Bool
  | [] => next []
  | c :: rest => next (c :: rest) || fitsLater next rest

def fits : List Wildcard → List Char → Bool
  | [], text => text.isEmpty
  | .anyRun :: wildcards, text => fitsLater (fits wildcards) text
  | wildcard :: wildcards, c :: text => wildcard.accepts c && fits wildcards text
  | _ :: _, [] => false

end Wildcard

def isHiddenName (name : String) : Bool := name.toList.head? == some '.'

def hasWildcard (part : String) : Bool := part.toList.any fun c => c == '*' || c == '?' || c == '['

/-- Whether a part of a path stands for the name of an entry. Only a part that begins with a dot
stands for hidden names. -/
def partFits (part name : String) : Bool :=
  (isHiddenName part || !isHiddenName name) && Wildcard.fits (Wildcard.read part.toList) name.toList

end DdlSchema.Command
