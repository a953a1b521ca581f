import DdlSchema.Text.Name
import DdlSchema.Proofs.Text.Enumeration
import DdlSchema.Proofs.Text.MarkKeeping

/-! Qualified names. A part may be bare or wrapped, and what a wrapping holds is not looked into, so a name is
cut between its parts whatever marks of other wrappings they hold; the last one is the name proper. -/

set_option autoImplicit false

namespace DdlSchema.Text

/-! Entries with a separator between them. -/

/-- An entry with any blanks around it. -/
structure Padded (α : Type) where
  before : List Char
  entry : α
  behind : List Char
  blankBefore : ∀ c ∈ before, isBlank c = true
  blankBehind : ∀ c ∈ behind, isBlank c = true

section

variable {α : Type} (spell : α → List Char)

def Padded.text (padded : Padded α) : List Char := padded.before ++ (spell padded.entry ++ padded.behind)

/-- The entries as they are written, with the separator between them. -/
def joinedBy (separator : Char) (entries : List (Padded α)) : List Char :=
  [separator].intercalate (entries.map (Padded.text spell))

variable {spell}

theorem mem_joinedBy {separator c : Char} {entries : List (Padded α)}
    (member : c ∈ joinedBy spell separator entries) :
    c = separator ∨ isBlank c = true ∨ ∃ padded ∈ entries, c ∈ spell padded.entry := by
  rcases mem_intercalate member with here | ⟨text, inside, here⟩
  · exact .inl (List.mem_singleton.mp here)
  · obtain ⟨padded, listed, rfl⟩ := List.mem_map.mp inside
    rcases List.mem_append.mp here with before | here
    · exact .inr (.inl (padded.blankBefore c before))
    · rcases List.mem_append.mp here with own | behind
      · exact .inr (.inr ⟨padded, listed, own⟩)
      · exact .inr (.inl (padded.blankBehind c behind))

end

/-! Parts. -/

inductive Wrapping where
  | backticks
  | doubleQuotes
  | brackets

namespace Wrapping

def opener : Wrapping → Char
  | backticks => '\x60'
  | doubleQuotes => '\x22'
  | brackets => '['

def closer : Wrapping → Char
  | backticks => '\x60'
  | doubleQuotes => '\x22'
  | brackets => ']'

theorem nameCloser_opener (wrapping : Wrapping) : nameCloser wrapping.opener = some wrapping.closer := by
  cases wrapping <;> rfl

end Wrapping

/-- A part of a qualified name. A bare one has no dots, blanks and marks of a wrapping in it, a wrapped one
anything but the mark that closes it; neither has zero width spaces. -/
inductive NamePart where
  | bare (name : List Char) (some_ : name ≠ [])
      (plain : ∀ c ∈ name, isBlank c = false ∧ c ∉ ['.', '\x60', '\x22', '[', ']'])
      (visible : ∀ c ∈ name, isZeroWidth c = false)
  | wrapped (wrapping : Wrapping) (content : List Char) (open_ : wrapping.closer ∉ content)
      (visible : ∀ c ∈ content, isZeroWidth c = false)

namespace NamePart

/-- What the part stands for. -/
def content : NamePart → List Char
  | bare name .. => name
  | wrapped _ content .. => content

/-- The part as it is written. -/
def text : NamePart → List Char
  | bare name .. => name
  | wrapped wrapping content .. => wrapping.opener :: (content ++ [wrapping.closer])

theorem visible_text (part : NamePart) : ∀ c ∈ part.text, isZeroWidth c = false := by
  cases part with
  | bare name some_ plain visible => exact visible
  | wrapped wrapping content open_ visible =>
    intro c member
    simp only [text, List.mem_cons, List.mem_append, List.not_mem_nil, or_false] at member
    rcases member with rfl | inside | rfl
    · cases wrapping <;> rfl
    · exact visible c inside
    · cases wrapping <;> rfl

end NamePart

/-- A class without the zero width space has no zero width characters. -/
theorem not_isZeroWidth {accepts : Char → Bool} {c : Char} (here : accepts c = true)
    (other : accepts '\u200b' = false) : isZeroWidth c = false := by
  rw [Bool.eq_false_iff]
  intro zero
  have same : c = '\u200b' := Char.toNat_inj.mp (eq_of_beq zero)
  rw [same, other] at here
  cases here

/-! How a name is cut. -/

section

variable {c : Char} {name rest : List Char}

theorem isBareNameChar_iff :
    isBareNameChar c = true ↔ isBlank c = false ∧ c ∉ ['.', '\x60', '\x22', '[', ']'] := by
  simp only [isBareNameChar, Bool.not_eq_true', Bool.or_eq_false_iff, beq_eq_false_iff_ne, List.mem_cons,
    List.not_mem_nil, or_false, not_or]
  tauto

theorem nameCloser_of_isBareNameChar (plain : isBareNameChar c = true) : nameCloser c = none := by
  simp only [isBareNameChar_iff, List.mem_cons, not_or] at plain
  simp [nameCloser, plain]

theorem not_isBareNameChar_of_isBlank (blank : isBlank c = true) : isBareNameChar c = false := by
  simp [isBareNameChar, blank]

theorem nameParts_nil : nameParts [] = [] := by rw [nameParts]

theorem nameParts_cons_blank (blank : isBlank c = true) (rest : List Char) :
    nameParts (c :: rest) = nameParts rest := by
  have closer : nameCloser c = none := of_isBlank (nameCloser · = none) (by decide) blank
  rw [nameParts]
  simp [closer, not_isBareNameChar_of_isBlank blank]

theorem nameParts_blanks {gap : List Char} (blank : ∀ c ∈ gap, isBlank c = true) (rest : List Char) :
    nameParts (gap ++ rest) = nameParts rest := by
  induction gap with
  | nil => rfl
  | cons c gap ih =>
    obtain ⟨here, later⟩ := List.forall_mem_cons.mp blank
    rw [List.cons_append, nameParts_cons_blank here, ih later]

theorem nameParts_dot (rest : List Char) : nameParts ('.' :: rest) = nameParts rest := by
  rw [nameParts]
  rfl

theorem nameParts_bare (some_ : name ≠ []) (plain : ∀ c ∈ name, isBareNameChar c = true)
    (ends : rest.head?.any isBareNameChar = false) : nameParts (name ++ rest) = name :: nameParts rest := by
  obtain ⟨c, name, rfl⟩ := List.exists_cons_of_ne_nil some_
  obtain ⟨here, later⟩ := List.forall_mem_cons.mp plain
  have stop : rest.takeWhile isBareNameChar = [] ∧ rest.dropWhile isBareNameChar = rest := by
    cases rest with
    | nil => exact ⟨rfl, rfl⟩
    | cons d rest =>
      have other : isBareNameChar d = false := ends
      simp [other]
  rw [List.cons_append, nameParts]
  simp only [nameCloser_of_isBareNameChar here, here, if_true, List.takeWhile_append_of_pos later,
    List.dropWhile_append_of_pos later, stop, List.append_nil]

theorem cut_at_closer {closer : Char} {content : List Char} (open_ : closer ∉ content) (rest : List Char) :
    (content ++ closer :: rest).takeWhile (· != closer) = content ∧
      (content ++ closer :: rest).dropWhile (· != closer) = closer :: rest := by
  have inside : ∀ c ∈ content, (c != closer) = true := fun c member =>
    bne_iff_ne.mpr fun same => open_ (same ▸ member)
  constructor
  · simp [List.takeWhile_append_of_pos inside]
  · simp [List.dropWhile_append_of_pos inside]

theorem nameParts_wrapped {opener closer : Char} {content : List Char} (closes : nameCloser opener = some closer)
    (open_ : closer ∉ content) (rest : List Char) :
    nameParts (opener :: (content ++ closer :: rest)) = content :: nameParts rest := by
  have held : (content ++ closer :: rest).contains closer = true := by simp
  obtain ⟨taken, left⟩ := cut_at_closer open_ rest
  rw [nameParts, closes]
  simp only [held, if_true, taken, left, List.tail_cons]

theorem NamePart.nameParts_append (part : NamePart) (ends : rest.head?.any isBareNameChar = false) :
    nameParts (part.text ++ rest) = part.content :: nameParts rest := by
  cases part with
  | bare name some_ plain visible =>
    exact nameParts_bare some_ (fun c member => isBareNameChar_iff.mpr (plain c member)) ends
  | wrapped wrapping content open_ visible =>
    rw [text, List.cons_append, List.append_assoc, List.singleton_append]
    exact nameParts_wrapped wrapping.nameCloser_opener open_ rest

theorem nameParts_padded (padded : Padded NamePart) (ends : rest.head?.any isBareNameChar = false) :
    nameParts (padded.text NamePart.text ++ rest) = padded.entry.content :: nameParts rest := by
  have stops : (padded.behind ++ rest).head?.any isBareNameChar = false := by
    cases same : padded.behind with
    | nil => exact ends
    | cons c gap =>
      refine not_isBareNameChar_of_isBlank (padded.blankBehind c ?_)
      rw [same]
      exact List.mem_cons_self
  rw [Padded.text, List.append_assoc, nameParts_blanks padded.blankBefore, List.append_assoc,
    padded.entry.nameParts_append stops, nameParts_blanks padded.blankBehind]

theorem nameParts_joinedBy (parts : List (Padded NamePart)) :
    nameParts (joinedBy NamePart.text '.' parts) = parts.map fun part => part.entry.content := by
  induction parts with
  | nil => rw [joinedBy, List.map_nil, List.intercalate_nil, nameParts_nil, List.map_nil]
  | cons part others ih =>
    cases others with
    | nil =>
      have single := @nameParts_padded [] part rfl
      rw [List.append_nil, nameParts_nil] at single
      rw [joinedBy, List.map_singleton, List.intercalate_singleton, single, List.map_singleton]
    | cons second others =>
      rw [joinedBy, List.map_cons, List.map_cons, List.intercalate_cons_cons, List.append_assoc,
        nameParts_padded part rfl, List.singleton_append, nameParts_dot, List.map_cons, ← ih]
      rfl

theorem solid_of_nameCloser {opener closer : Char} (closes : nameCloser opener = some closer) :
    isBlank closer = false := by
  unfold nameCloser at closes
  split at closes
  · next quote =>
    obtain rfl := Option.some.inj closes
    simp only [Bool.or_eq_true, beq_iff_eq] at quote
    rcases quote with rfl | rfl <;> decide
  · split at closes
    · obtain rfl := Option.some.inj closes
      decide
    · cases closes

theorem nameParts_concat_blank (blank : isBlank c = true) (text : List Char) :
    nameParts (text ++ [c]) = nameParts text := by
  -- along the parts of the text: each ends in front of the blank, which is handed on to what follows
  fun_induction nameParts text with
  | case1 => rw [List.nil_append, nameParts_cons_blank blank, nameParts_nil]
  | case2 opener rest closer closes inside ih =>
    obtain ⟨content, back, rfl, open_⟩ := List.eq_append_cons_of_mem (List.contains_iff_mem.mp inside)
    obtain ⟨taken, left⟩ := cut_at_closer open_ back
    rw [left, List.tail_cons] at ih ⊢
    rw [taken, List.cons_append, List.append_assoc, List.cons_append, nameParts_wrapped closes open_, ih]
  | case3 opener rest closer closes outside ih =>
    -- the blank does not close what stays open
    have apart : closer ≠ c := by
      rintro rfl
      rw [solid_of_nameCloser closes] at blank
      cases blank
    have still : ¬ (rest ++ [c]).contains closer = true := by simpa [apart] using outside
    rw [List.cons_append, nameParts, closes]
    simp only [still, ih]
    rfl
  | case4 first rest closes plain ih =>
    have run : first :: rest ++ [c] =
        (first :: rest.takeWhile isBareNameChar) ++ (rest.dropWhile isBareNameChar ++ [c]) := by
      simp only [← List.append_assoc, List.cons_append, List.takeWhile_append_dropWhile]
    have ends : (rest.dropWhile isBareNameChar ++ [c]).head?.any isBareNameChar = false := by
      have stop := List.head?_dropWhile_not isBareNameChar rest
      cases left : rest.dropWhile isBareNameChar with
      | nil => exact not_isBareNameChar_of_isBlank blank
      | cons d back =>
        rw [left] at stop
        simpa using stop
    rw [run, nameParts_bare (List.cons_ne_nil _ _) _ ends, ih]
    exact List.forall_mem_cons.mpr ⟨plain, fun d => List.mem_takeWhile_imp⟩
  | case5 first rest closes other ih =>
    rw [List.cons_append, nameParts, closes]
    simp only [other, ih]
    rfl

theorem nameParts_trim (text : List Char) : nameParts (trim text) = nameParts text :=
  reading_trim (fun _ => nameParts_cons_blank) (fun _ => nameParts_concat_blank) text

end

/-- What a qualified name stands for is its last part, whatever stands before. -/
theorem cleanName_joinedBy (qualifiers : List (Padded NamePart)) (last : Padded NamePart) :
    cleanName (joinedBy NamePart.text '.' (qualifiers ++ [last])) = trim last.entry.content := by
  have visible : ∀ c ∈ joinedBy NamePart.text '.' (qualifiers ++ [last]), isZeroWidth c = false := by
    intro c member
    rcases mem_joinedBy member with rfl | blank | ⟨part, -, inside⟩
    · rfl
    · exact not_isZeroWidth blank (by decide)
    · exact part.entry.visible_text c inside
  have all : (joinedBy NamePart.text '.' (qualifiers ++ [last])).filter (fun c => !isZeroWidth c) =
      joinedBy NamePart.text '.' (qualifiers ++ [last]) := by
    rw [List.filter_eq_self]
    intro c member
    rw [visible c member, Bool.not_false]
  rw [cleanName, all, nameParts_trim, nameParts_joinedBy, List.map_append, List.map_singleton,
    List.getLast?_concat]

theorem cleanName_part (part : NamePart) : cleanName part.text = trim part.content := by
  have single := cleanName_joinedBy [] ⟨[], part, [], by simp, by simp⟩
  simpa [joinedBy, Padded.text] using single

end DdlSchema.Text
