import DdlSchema.Text.Case

/-! The dialects whose grammars are tried, and how a list of them is given. -/

set_option autoImplicit false

namespace DdlSchema.Ddl

open DdlSchema.Text

inductive Dialect where
  | postgresql
  | mysql
  | sqlite
  deriving DecidableEq, Repr

namespace Dialect

def all : List Dialect := [.postgresql, .mysql, .sqlite]

def name : Dialect → String
  | .postgresql => "postgresql"
  | .mysql => "mysql"
  | .sqlite => "sqlite"

def ofName? (name : String) : Option Dialect :=
  let wanted := String.ofList (lower (trim name.toList))
  if wanted = "postgres" then some .postgresql else all.find? fun dialect => dialect.name == wanted

end Dialect

inductive DialectError where
  | unknown (name : String)
  | noneGiven
  deriving DecidableEq, Repr

def DialectError.message : DialectError → String
  | .unknown name => "Unknown dialect: " ++ name
  | .noneGiven => "At least one dialect is required"

/-- The dialects to try, in the order given; without a list, all of them. -/
def resolveDialects : Option (List String) → Except DialectError (List Dialect)
  | none => .ok Dialect.all
  | some names => do
    let dialects ← names.mapM fun name => match Dialect.ofName? name with
      | some dialect => Except.ok dialect
      | none => Except.error (DialectError.unknown name)
    if dialects.isEmpty then .error .noneGiven else return dialects

/-- The names in a comma list; without any, no list is given. -/
def dialectList (text : String) : Option (List String) :=
  let names := ((splitAtChar ',' text.toList).map trim).filter fun name => !name.isEmpty
  if names.isEmpty then none else some (names.map String.ofList)

end DdlSchema.Ddl
