import DdlSchema.Ddl.Reader.Definition

/-! Reading statements about privileges. Those that are not understood are shown as they are
written. -/

set_option autoImplicit false

namespace DdlSchema.Ddl.Reader

open DdlSchema.Text

def privilegeWord : Reader (Option String) := do
  let isWord := fun (token : Token) =>
    !(token.isMark "," || token.isMark "(" || token.isWord "ON")
  return (← take? isWord).map Token.upper

/-- A privilege with the columns it covers. -/
def privilege : Reader (Option String) := do
  let words ← sequence privilegeWord
  let columns ← if ← openList then wrapped (commaList (withGrammar Inner.column)) else pure []
  return some (String.intercalate " " words ++
    (if columns.isEmpty then "" else inParens (commaPrinted columns)))

/-- Privileges on something; `none` where what they are on is not understood. -/
def privileges : Reader (Option String) := do
  let privileges ← commaList privilege
  let _ ← keyword "ON"
  let kind ← oneKeyword (definableWords (← dialect))
  let subject ← attemptAll (withGrammar tableSource)
  return subject.map fun subject =>
    commaJoined privileges ++ " ON" ++ kind.elim "" (" " ++ ·) ++ " " ++ printed subject

def principal : Reader (Option String) := do
  let kind ← oneSpelled ["ROLE", "GROUP"]
  return (← anyName).map fun name => kind.elim "" (· ++ " ") ++ printName none name

def principals : Reader String := return commaJoined (← commaList principal)

def grant : Reader Outcome := do
  match ← privileges with
  | none => return .verbatim
  | some privileges =>
    if ← spelled "TO" then
      let principals ← principals
      let isShared ← allSpelled ["WITH", "GRANT", "OPTION"]
      return if ← isAtEnd then .other ("GRANT " ++ privileges ++ " TO " ++ principals ++
        (if isShared then " WITH GRANT OPTION" else "")) else .verbatim
    else return .verbatim

def revocation : Reader Outcome := do
  let isOption ← allSpelled ["GRANT", "OPTION", "FOR"]
  match ← privileges with
  | none => return .verbatim
  | some privileges =>
    if ← spelled "FROM" then
      let principals ← principals
      let extent := (← oneSpelled ["CASCADE", "RESTRICT"]).elim "" (" " ++ ·)
      return if ← isAtEnd then .other ("REVOKE " ++ (if isOption then "GRANT OPTION FOR " else "") ++
        privileges ++ " FROM " ++ principals ++ extent) else .verbatim
    else return .verbatim

end DdlSchema.Ddl.Reader
