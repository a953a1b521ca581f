import DdlSchema.Ddl.Dialect

/-! The templates after which a moment is written. Each dialect has marks of its own; they are
kept in one common form, in which a mark is a per cent sign and a letter. -/

set_option autoImplicit false

namespace DdlSchema.Ddl

open DdlSchema.Text

def clockMarks : Dialect → List (String × String)
  | .postgresql =>
    [("day", "day"), ("dy", "dy"), ("d", "%u"), ("D", "%u"), ("dd", "%d"), ("DD", "%d"), ("ddd", "%j"),
      ("DDD", "%j"),
      ("FMDD", "%-d"), ("FMDDD", "%-j"), ("FMHH12", "%-I"), ("FMHH24", "%-H"), ("FMMI", "%-M"),
      ("FMMM", "%-m"), ("FMSS", "%-S"), ("HH12", "%I"), ("HH24", "%H"), ("iw", "%V"), ("IW", "%V"),
      ("iyyy", "%G"), ("IYYY", "%G"), ("mi", "%M"), ("MI", "%M"),
      ("mm", "%m"), ("MM", "%m"), ("OF", "%z"), ("ss", "%S"), ("SS", "%S"), ("TMDay", "%A"),
      ("TMDy", "%a"), ("TMMon", "%b"), ("TMMonth", "%B"), ("TZ", "%Z"), ("US", "%f"), ("ww", "%U"),
      ("WW", "%U"), ("yy", "%y"), ("YY", "%y"), ("yyyy", "%Y"), ("YYYY", "%Y")]
  | .mysql =>
    [("%M", "%B"), ("%c", "%-m"), ("%e", "%-d"), ("%h", "%I"), ("%i", "%M"), ("%s", "%S"),
      ("%u", "%W"), ("%k", "%-H"), ("%l", "%-I"), ("%T", "%H:%M:%S"), ("%W", "%A")]
  | .sqlite => []

def longestMark? (marks : List (String × String)) (text : List Char) : Option (Nat × String) :=
  marks.foldl (fun best (mark, value) =>
    let length := mark.length
    if mark.toList.isPrefixOf text && best.all fun (known, _) => known ≤ length then
      some (length, value)
    else best) none

/-- Replaces the marks, longer ones first; the beginning of a mark at the end stays as it is.
`bound` is at least the length of the text. -/
def replaceMarks (marks : List (String × String)) : Nat → List Char → List Char
  | 0, text => text
  | _, [] => []
  | bound + 1, c :: rest =>
    let text := c :: rest
    let isBeginning := marks.any fun (mark, _) => text.isPrefixOf mark.toList
    match longestMark? marks text with
    | some (length, value) =>
      if isBeginning && length != text.length then text
      else value.toList ++ replaceMarks marks bound (text.drop length)
    | none => if isBeginning then text else c :: replaceMarks marks bound rest

def readClockFormat (dialect : Dialect) (template : String) : String :=
  String.ofList (replaceMarks (clockMarks dialect) template.length template.toList)

def writeClockFormat (dialect : Dialect) (template : String) : String :=
  String.ofList (replaceMarks ((clockMarks dialect).map Prod.swap) template.length template.toList)

end DdlSchema.Ddl
