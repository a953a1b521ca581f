import DdlSchema.Text.CaseTable
import DdlSchema.Text.Letter

/-! Full upper and lower case of a text, and the letters that count as equal when case is ignored. -/

set_option autoImplicit false

namespace DdlSchema.Text

def mapRun : List CaseRun → Nat → Option Nat
  | [], _ => none
  | run :: rest, n =>
    if run.first ≤ n && n ≤ run.last && (n - run.first) % run.step == 0 then
      some (run.target + (n - run.first))
    else mapRun rest n

def changeCase (runs : List CaseRun) (expansions : List (Nat × List Nat)) (c : Char) : List Char :=
  match expansions.lookup c.toNat with
  | some letters => letters.map Char.ofNat
  | none => match mapRun runs c.toNat with
    | some n => [Char.ofNat n]
    | none => [c]

def upperChar (c : Char) : List Char :=
  if c.toNat < 0x80 then [c.toUpper] else changeCase upperRuns upperExpansions c

def lowerChar (c : Char) : List Char :=
  if c.toNat < 0x80 then [c.toLower] else changeCase lowerRuns lowerExpansions c

def isCased (c : Char) : Bool :=
  if c.toNat < 0x80 then c.isAlpha else inRanges casedRanges c.toNat

def isCaseIgnorable (c : Char) : Bool :=
  if c.toNat < 0x80 then [0x27, 0x2e, 0x3a, 0x5e, 0x60].contains c.toNat
  else inRanges caseIgnorableRanges c.toNat

/-- Whether the nearest character that is not passed over is a letter with case. -/
def startsCased (text : List Char) : Bool :=
  match text.dropWhile isCaseIgnorable with
  | [] => false
  | c :: _ => isCased c

/-- `seen` holds what stands before, nearest character first. -/
def lowerFrom : List Char → List Char → List Char
  | _, [] => []
  | seen, c :: rest =>
    -- the capital sigma has a form of its own at the end of a word
    let small :=
      if c.toNat == 0x3a3 then
        [Char.ofNat (if startsCased seen && !startsCased rest then 0x3c2 else 0x3c3)]
      else lowerChar c
    small ++ lowerFrom (c :: seen) rest

def upper (text : List Char) : List Char := text.flatMap upperChar

def lower (text : List Char) : List Char := lowerFrom [] text

theorem upperChar_ne_nil (c : Char) : upperChar c ≠ [] := by
  have expanded : ∀ entry ∈ upperExpansions, entry.2 ≠ [] := by decide
  unfold upperChar
  split
  · simp
  · unfold changeCase
    split
    · next letters found =>
      obtain ⟨before, after, entries, -⟩ := List.lookup_eq_some_iff.mp found
      have entry : (c.toNat, letters) ∈ upperExpansions := by simp [entries]
      simpa using expanded _ entry
    · split <;> simp

theorem length_le_upper (text : List Char) : text.length ≤ (upper text).length := by
  induction text with
  | nil => exact Nat.le_refl _
  | cons c rest ih =>
    have one := List.length_pos_iff.mpr (upperChar_ne_nil c)
    simp only [upper, List.flatMap_cons, List.length_append, List.length_cons] at ih ⊢
    omega

def upperString (text : String) : String := String.ofList (upper text.toList)

def lowerString (text : String) : String := String.ofList (lower text.toList)

/-- Equality of single letters that ignores case. The long s counts as an s, the two Turkish
i letters as an i, and the Kelvin sign as a k. -/
def sameLetter (letter c : Char) : Bool :=
  c.toLower == letter.toLower ||
    (match letter.toLower with
      | 's' => c.toNat == 0x17f
      | 'i' => c.toNat == 0x130 || c.toNat == 0x131
      | 'k' => c.toNat == 0x212a
      | _ => false)

end DdlSchema.Text
