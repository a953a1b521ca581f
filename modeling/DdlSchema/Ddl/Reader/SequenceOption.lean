import DdlSchema.Ddl.Reader.Partition

/-! Reading the options of a sequence, which may stand with any table. -/

set_option autoImplicit false

namespace DdlSchema.Ddl.Reader

open DdlSchema.Text

/-- What is said about a sequence; each part has its place where it is written back. -/
structure SequenceOptions where
  start : Option String := none
  increment : Option String := none
  least : Option String := none
  most : Option String := none
  cache : Option String := none
  others : List String := []
  owner : Option String := none

def SequenceOptions.print (options : SequenceOptions) : String :=
  let worded := fun (words : String) (value : Option String) =>
    (value.map fun value => words ++ " " ++ value).toList
  String.intercalate " " (worded "START WITH" options.start ++
    worded "INCREMENT BY" options.increment ++ worded "MINVALUE" options.least ++
    worded "MAXVALUE" options.most ++ options.cache.toList ++ options.others ++
    worded "OWNED BY" options.owner)

def sequenceWords : Options :=
  [("CYCLE", []), ("GLOBAL", []), ("KEEP", []), ("NO", ["CYCLE", "CACHE", "MAXVALUE", "MINVALUE"]),
    ("NOCACHE", []), ("NOCYCLE", []), ("NOKEEP", []), ("NOMAXVALUE", []), ("NOMINVALUE", []),
    ("NOORDER", []), ("NOSCALE", []), ("NOSHARD", []), ("ORDER", []),
    ("SCALE", ["EXTEND", "NOEXTEND"]), ("SESSION", []), ("SHARD", ["EXTEND", "NOEXTEND"])]

def sequenceNumber : Reader String := return printed (← required (withGrammar Inner.term))

/-- One more option of a sequence; a comma counts as one without text. -/
def sequenceOption (options : SequenceOptions) : Reader (Option SequenceOptions) := do
  if ← mark "," then return some options
  else if ← spelled "INCREMENT" then
    let _ ← spelled "BY"
    let _ ← mark "="
    return some { options with increment := some (← sequenceNumber) }
  else if ← spelled "MINVALUE" then return some { options with least := some (← sequenceNumber) }
  else if ← spelled "MAXVALUE" then return some { options with most := some (← sequenceNumber) }
  else if ← either (allSpelled ["START", "WITH"]) (spelled "START") then
    let _ ← mark "="
    return some { options with start := some (← sequenceNumber) }
  else if ← spelled "CACHE" then
    let count := (← ofKind .number).elim "" (" " ++ ·)
    return some { options with cache := some ("CACHE" ++ count) }
  else if ← allSpelled ["OWNED", "BY"] then
    if ← spelled "NONE" then return some { options with owner := none }
    else return some { options with owner := some (printed (← required (withGrammar Inner.column))) }
  else
    return (← knownOption sequenceWords).map fun word =>
      { options with others := options.others ++ [word] }

def sequenceOptionsFrom : Nat → SequenceOptions → Reader SequenceOptions
  | 0, options => return options
  | bound + 1, options => do
    match ← sequenceOption options with
    | some options => sequenceOptionsFrom bound options
    | none => return options

def sequenceOptions : Reader (Option String) := do
  let before ← remaining
  let options ← sequenceOptionsFrom before {}
  return if (← remaining) == before then none else some options.print

end DdlSchema.Ddl.Reader
