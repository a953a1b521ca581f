import DdlSchema.Text.Displayed

/-! JSON documents and their two written forms: one line, or one line for each member. All
characters outside printable ASCII are escaped. -/

set_option autoImplicit false

namespace DdlSchema.Report

open DdlSchema.Text

inductive Json where
  | null
  | flag (value : Bool)
  /-- A number as its digits. -/
  | number (digits : String)
  | text (value : String)
  | list (members : List Json)
  | object (fields : List (String × Json))
  deriving Inhabited

namespace Json

def ofNat (value : Nat) : Json := .number (toString value)

def ofOption (value : Option String) : Json := value.elim .null .text

def ofStrings (values : List String) : Json := .list (values.map .text)

def escapedUnit (unit : Nat) : List Char := '\\' :: 'u' :: hexDigits 4 unit

def escaped (c : Char) : List Char :=
  if c == '\x22' then ['\\', '\x22']
  else if c == '\\' then ['\\', '\\']
  else if ' ' ≤ c && c ≤ '\x7e' then [c]
  else match c with
    | '\n' => ['\\', 'n']
    | '\r' => ['\\', 'r']
    | '\t' => ['\\', 't']
    | '\x08' => ['\\', 'b']
    | '\x0c' => ['\\', 'f']
    | c =>
      if c.toNat < 0x10000 then escapedUnit c.toNat
      else
        let beyond := c.toNat - 0x10000
        escapedUnit (0xD800 + beyond / 1024) ++ escapedUnit (0xDC00 + beyond % 1024)

def quoted (text : String) : String :=
  "\x22" ++ String.ofList (text.toList.flatMap escaped) ++ "\x22"

mutual

def compact : Json → String
  | .null => "null"
  | .flag value => if value then "true" else "false"
  | .number digits => digits
  | .text value => quoted value
  | .list members => "[" ++ String.intercalate ", " (compactMembers members) ++ "]"
  | .object fields => "\x7b" ++ String.intercalate ", " (compactFields fields) ++ "\x7d"

def compactMembers : List Json → List String
  | [] => []
  | member :: rest => member.compact :: compactMembers rest

def compactFields : List (String × Json) → List String
  | [] => []
  | (name, value) :: rest => (quoted name ++ ": " ++ value.compact) :: compactFields rest

end

/-- Members on lines of their own between two brackets; without members only the brackets. -/
def block (indent opener closer : String) (members : List String) : String :=
  if members.isEmpty then opener ++ closer
  else opener ++ "\n" ++ String.intercalate ",\n" (members.map fun member => indent ++ "  " ++ member)
    ++ "\n" ++ indent ++ closer

mutual

/-- The form with two spaces of indentation for each level, continued at `indent`. -/
def indentedFrom (indent : String) : Json → String
  | .list members => block indent "[" "]" (indentedMembers (indent ++ "  ") members)
  | .object fields => block indent "\x7b" "\x7d" (indentedFields (indent ++ "  ") fields)
  | .null => compact .null
  | .flag value => compact (.flag value)
  | .number digits => digits
  | .text value => compact (.text value)

def indentedMembers (indent : String) : List Json → List String
  | [] => []
  | member :: rest => member.indentedFrom indent :: indentedMembers indent rest

def indentedFields (indent : String) : List (String × Json) → List String
  | [] => []
  | (name, value) :: rest =>
    (quoted name ++ ": " ++ value.indentedFrom indent) :: indentedFields indent rest

end

mutual

/-- The form for display inside other values, where texts are quoted. -/
def displayNested : Json → String
  | .null => "None"
  | .flag value => if value then "True" else "False"
  | .number digits => digits
  | .text value => displayedText value
  | .list members => "[" ++ String.intercalate ", " (displayMembers members) ++ "]"
  | .object fields => "\x7b" ++ String.intercalate ", " (displayFields fields) ++ "\x7d"

def displayMembers : List Json → List String
  | [] => []
  | member :: rest => member.displayNested :: displayMembers rest

def displayFields : List (String × Json) → List String
  | [] => []
  | (name, value) :: rest =>
    (displayedText name ++ ": " ++ value.displayNested) :: displayFields rest

end

/-- The form for display, where a text stands for itself. -/
def display : Json → String
  | .text value => value
  | value => value.displayNested

def indented (value : Json) : String := value.indentedFrom ""

end Json

end DdlSchema.Report
