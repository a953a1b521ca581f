import DdlSchema.Proofs.Text.ColumnList
import DdlSchema.Proofs.Text.Rewriting

/-! Lists of bare column names. Lengths and sort directions may follow each name, with blanks between all of
them; the list is cut at its own commas only, and of each column the name is left. -/

set_option autoImplicit false

namespace DdlSchema.Text

open Pattern
open DdlSchema.Statement (not_isBlank_of_isWordChar isWordChar_of_isBlank)

/-- Lengths and sort directions, one behind the other, or nothing. -/
inductive Suffixes : List Char → Prop where
  | nil : Suffixes []
  | cons {suffix rest : List Char} (here : IsSuffix rest suffix) (later : Suffixes rest) :
      Suffixes (suffix ++ rest)

/-- A column as it is listed: a word, and any lengths and sort directions behind it. -/
structure ListedColumn where
  name : List Char
  suffixes : List Char
  some_ : name ≠ []
  letters : ∀ c ∈ name, isWordChar c = true
  follow : Suffixes suffixes

def ListedColumn.text (column : ListedColumn) : List Char := column.name ++ column.suffixes

/-! Ends. -/

theorem trim_padded {α : Type} {spell : α → List Char} (padded : Padded α) :
    trim (padded.text spell) = trim (spell padded.entry) := by
  rw [Padded.text, trim_blanks_append padded.blankBefore, trim_append_blanks padded.blankBehind]

section

variable {rest suffix suffixes front : List Char}

theorem IsSuffix.trimRight_append (here : IsSuffix rest suffix) (front : List Char) :
    trimRight (front ++ suffix) = front ++ suffix := by
  cases here with
  | @length gap left digits right =>
    have closes := trimRight_mark (by decide : isBlank ')' = false)
      (front ++ (gap ++ '(' :: (left ++ (digits ++ right)))) []
    simpa [trimRight] using closes
  | @direction gap word _ _ direction =>
    rw [← List.append_assoc]
    exact trimRight_solid direction.ne_nil
      (fun c member => not_isBlank_of_isWordChar (direction.letters c member)) _

theorem Suffixes.trimRight_append (follow : Suffixes suffixes) (ends : trimRight front = front) :
    trimRight (front ++ suffixes) = front ++ suffixes := by
  induction follow generalizing front with
  | nil => rwa [List.append_nil]
  | cons here later ih =>
    rw [← List.append_assoc]
    exact ih (here.trimRight_append front)

end

namespace ListedColumn

variable (column : ListedColumn)

theorem solid : ∀ c ∈ column.name, isBlank c = false := fun c member =>
  not_isBlank_of_isWordChar (column.letters c member)

theorem trimRight_name : trimRight column.name = column.name := trimRight_solid column.some_ column.solid []

theorem trim_text : trim column.text = column.text :=
  trim_of_ends (head_all column.some_ column.solid _) (column.follow.trimRight_append column.trimRight_name)

theorem trim_name : trim column.name = column.name := by
  refine trim_of_ends ?_ column.trimRight_name
  have starts := head_all column.some_ column.solid []
  rwa [List.append_nil] at starts

end ListedColumn

/-! Pieces. -/

section

variable {text rest suffix suffixes : List Char}

theorem leads_word (letters : ∀ c ∈ text, isWordChar c = true) (depth : Int) : Leads depth depth text :=
  leads_inert (fun c member => isInert_of (letters c member) (by decide)) depth

theorem leads_open (depth : Int) : Leads depth (depth + 1) ['('] := by
  refine ⟨?_, rfl⟩
  rw [commaPieces_cons]
  rfl

theorem leads_close (depth : Int) : Leads depth (depth - 1) [')'] := by
  refine ⟨?_, rfl⟩
  rw [commaPieces_cons]
  rfl

theorem IsSuffix.leads (here : IsSuffix rest suffix) : Leads 0 0 suffix := by
  cases here with
  | length blank blankLeft _ decimal blankRight =>
    have digits := leads_word (fun c member => isWordChar_of_isDecimal (decimal c member)) (0 + 1)
    exact (leads_blanks blank 0).append ((leads_open 0).append ((leads_blanks blankLeft _).append
      (digits.append ((leads_blanks blankRight _).append (leads_close _)))))
  | direction _ blank direction => exact (leads_blanks blank 0).append (leads_word direction.letters 0)

theorem Suffixes.leads (follow : Suffixes suffixes) : Leads 0 0 suffixes := by
  induction follow with
  | nil => exact leads_blanks (by simp) 0
  | cons here _ ih => exact here.leads.append ih

end

theorem isPiece_listed (column : Padded ListedColumn) : IsPiece (column.text ListedColumn.text) := by
  have own : Leads 0 0 column.entry.text := (leads_word column.entry.letters 0).append column.entry.follow.leads
  exact isPiece_iff_leads.mpr
    ((leads_blanks column.blankBefore 0).append (own.append (leads_blanks column.blankBehind 0)))

theorem filled_listed (column : Padded ListedColumn) : Filled (column.text ListedColumn.text) := by
  obtain ⟨c, name, spelled⟩ := List.exists_cons_of_ne_nil column.entry.some_
  refine ⟨c, ?_, not_isBlank_of_isWordChar (column.entry.letters c (spelled ▸ List.mem_cons_self))⟩
  simp [Padded.text, ListedColumn.text, spelled]

/-! What is left of a column. -/

section

variable {rest suffix suffixes word : List Char} {c : Char}

theorem IsSuffix.suffixLength?_eq (here : IsSuffix rest suffix) (before : Option Char) :
    suffixLength? before (suffix ++ rest) = some suffix.length :=
  suffixLength?_eq_some_iff.mpr ⟨suffix, rfl, rest, rfl, here⟩

theorem IsSuffix.head (here : IsSuffix rest suffix) : suffix.head?.any isWordChar = false := by
  cases here with
  | @length gap _ _ _ blank =>
    cases gap with
    | nil => exact (by decide : isWordChar '(' = false)
    | cons c gap => exact isWordChar_of_isBlank (blank c List.mem_cons_self)
  | @direction gap word some_ blank =>
    exact head_all some_ (fun c member => isWordChar_of_isBlank (blank c member)) word

theorem matchAt_word (letter : isWordChar c = true) (before : Option Char) (rest : List Char) :
    indexColumnSuffix.matchAt before (c :: rest) = none := by
  cases matched : indexColumnSuffix.matchAt before (c :: rest) with
  | none => rfl
  | some found =>
    have measured : suffixLength? before (c :: rest) = some found.length := by rw [suffixLength?, matched]; rfl
    obtain ⟨suffix, -, behind, split, here⟩ := suffixLength?_eq_some_iff.mp measured
    obtain ⟨d, suffix, rfl⟩ := List.exists_cons_of_ne_nil here.ne_nil
    obtain ⟨rfl, -⟩ := List.cons.inj split
    have other : isWordChar c = false := here.head
    rw [other] at letter
    cases letter

theorem replaceFrom_suffixes (follow : Suffixes suffixes) (before : Option Char) :
    indexColumnSuffix.replaceFrom [] 0 before suffixes = [] := by
  induction follow generalizing before with
  | nil => rfl
  | @cons suffix rest here later ih =>
    -- a suffix is taken away whole, since a text begins with one suffix only, and the next one follows
    have found := here.suffixLength?_eq before
    obtain ⟨c, suffix, rfl⟩ := List.exists_cons_of_ne_nil here.ne_nil
    rw [List.cons_append] at found ⊢
    rw [replaceFrom_suffix, found]
    exact (replaceFrom_skip indexColumnSuffix [] suffix rest (some c)).trans (ih _)

/-- A column keeps its name alone. -/
theorem ListedColumn.replaceAll_text (column : ListedColumn) :
    indexColumnSuffix.replaceAll [] column.text = column.name := by
  rw [replaceAll, ListedColumn.text, replaceFrom_front, replaceFrom_suffixes column.follow, List.append_nil]
  intro earlier c later split
  exact matchAt_word (column.letters c (by rw [split]; simp)) _ _

end

theorem ListedColumn.cleanName_eq (column : ListedColumn) :
    cleanName (trim (indexColumnSuffix.replaceAll [] column.text)) = column.name := by
  have plain : ∀ c ∈ column.name, isBlank c = false ∧ c ∉ ['.', '\x60', '\x22', '[', ']'] := by
    refine fun c member => ⟨column.solid c member, fun mark => ?_⟩
    have none : ∀ d ∈ ['.', '\x60', '\x22', '[', ']'], isWordChar d ≠ true := by decide
    exact none c mark (column.letters c member)
  have visible : ∀ c ∈ column.name, isZeroWidth c = false := fun c member =>
    not_isZeroWidth (column.letters c member) (by decide +kernel)
  have single := cleanName_part (.bare column.name column.some_ plain visible)
  rw [column.replaceAll_text, column.trim_name]
  exact single.trans column.trim_name

theorem splitColumns_joinedBy (columns : List (Padded ListedColumn)) :
    splitColumns (joinedBy ListedColumn.text ',' columns) = columns.map fun column => column.entry.name := by
  have pieces : splitCommas (joinedBy ListedColumn.text ',' columns) =
      columns.map fun column => column.entry.text := by
    rw [joinedBy, splitCommas_intercalate, List.map_map]
    · exact List.map_congr_left fun column _ => (trim_padded column).trans column.entry.trim_text
    · exact List.forall_mem_map.mpr fun column _ => isPiece_listed column
    · exact List.forall_mem_map.mpr fun column _ => filled_listed column
  rw [splitColumns, pieces, List.map_map, List.filter_eq_self.mpr]
  · exact List.map_congr_left fun column _ => column.entry.cleanName_eq
  · refine List.forall_mem_map.mpr fun column _ => ?_
    simp only [Function.comp_apply, column.entry.cleanName_eq]
    simpa using column.entry.some_

/-- Of a qualified name its last part is read, and of a list of columns exactly the names. -/
theorem names_read_as_written :
    (∀ (qualifiers : List (Padded NamePart)) (last : Padded NamePart),
      cleanName (joinedBy NamePart.text '.' (qualifiers ++ [last])) = trim last.entry.content) ∧
    ∀ columns : List (Padded ListedColumn),
      splitColumns (joinedBy ListedColumn.text ',' columns) = columns.map fun column => column.entry.name :=
  ⟨cleanName_joinedBy, splitColumns_joinedBy⟩

theorem names_read_as_written_mixed :
    cleanName "db . `x.\"y` .\t[ a`.b\" ]".toList = "a`.b\"".toList ∧
      splitColumns "id ( 10 )  Desc, desc\tASC ,c".toList = ["id".toList, "desc".toList, "c".toList] := by
  let db : NamePart := .bare "db".toList (by decide) (by decide) (by decide)
  let xy : NamePart := .wrapped .backticks "x.\"y".toList (by decide) (by decide)
  let ab : NamePart := .wrapped .brackets " a`.b\" ".toList (by decide) (by decide)
  have down : IsSuffix [] ("  ".toList ++ "Desc".toList) :=
    .direction (by decide) (by decide) (.inr (by decide)) rfl
  have up : IsSuffix [] ("\t".toList ++ "ASC".toList) := .direction (by decide) (by decide) (.inl (by decide)) rfl
  have ten : IsSuffix ("  ".toList ++ "Desc".toList ++ [])
      (" ".toList ++ '(' :: (" ".toList ++ ("10".toList ++ (" ".toList ++ [')'])))) :=
    .length (by decide) (by decide) (by decide) (by decide) (by decide)
  let id_ : ListedColumn := ⟨"id".toList, _, by decide, by decide, .cons ten (.cons down .nil)⟩
  let desc : ListedColumn := ⟨"desc".toList, _, by decide, by decide, .cons up .nil⟩
  let plain : ListedColumn := ⟨"c".toList, [], by decide, by decide, .nil⟩
  have last := names_read_as_written.1
    [⟨[], db, [' '], by decide, by decide⟩, ⟨[' '], xy, [' '], by decide, by decide⟩]
    ⟨['\t'], ab, [], by decide, by decide⟩
  have names := names_read_as_written.2 [⟨[], id_, [], by decide, by decide⟩,
    ⟨[' '], desc, [' '], by decide, by decide⟩, ⟨[], plain, [], by decide, by decide⟩]
  exact ⟨last, names⟩

end DdlSchema.Text
