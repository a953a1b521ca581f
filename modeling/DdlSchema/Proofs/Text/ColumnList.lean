import DdlSchema.Proofs.Statement.TableHead
import DdlSchema.Proofs.Text.Qualification

/-! Lists of column names in backticks. Whatever a name holds, the list is cut between the names and each
comes out of its quotes; only lengths and sort directions are taken away inside of quotes too. -/

set_option autoImplicit false

namespace DdlSchema.Text

open Pattern
open DdlSchema.Statement (isWordChar_of_letters not_isBlank_of_isWordChar)

def IsDirection (word : List Char) : Prop :=
  List.Forall₂ (fun letter c => sameLetter letter c = true) "ASC".toList word ∨
    List.Forall₂ (fun letter c => sameLetter letter c = true) "DESC".toList word

/-- A length, or a sort direction that is a word of its own, in front of `rest`. -/
inductive IsSuffix (rest : List Char) : List Char → Prop where
  | length {gap left digits right : List Char} (blank : ∀ c ∈ gap, isBlank c = true)
      (blankLeft : ∀ c ∈ left, isBlank c = true) (some_ : digits ≠ [])
      (decimal : ∀ c ∈ digits, isDecimal c = true) (blankRight : ∀ c ∈ right, isBlank c = true) :
      IsSuffix rest (gap ++ '(' :: (left ++ (digits ++ (right ++ [')']))))
  | direction {gap word : List Char} (some_ : gap ≠ []) (blank : ∀ c ∈ gap, isBlank c = true)
      (direction : IsDirection word) (ends : rest.head?.any isWordChar = false) : IsSuffix rest (gap ++ word)

def backquoted (name : List Char) : List Char := '\x60' :: (name ++ ['\x60'])

/-- There is a length or a sort direction somewhere in the text. -/
def HoldsSuffix (text : List Char) : Prop :=
  ∃ front suffix rest, text = front ++ (suffix ++ rest) ∧ IsSuffix rest suffix

section

variable {rest others suffix other word : List Char} {before : Option Char}

theorem IsDirection.letters (direction : IsDirection word) : ∀ c ∈ word, isWordChar c = true := by
  rcases direction with same | same
  · exact isWordChar_of_letters (by decide) same
  · exact isWordChar_of_letters (by decide) same

theorem IsDirection.ne_nil (direction : IsDirection word) : word ≠ [] := by
  rintro rfl
  rcases direction with same | same
  · cases same
  · cases same

theorem not_isBlank_of_isDecimal {c : Char} (decimal : isDecimal c = true) : isBlank c = false :=
  not_isBlank_of_isWordChar (isWordChar_of_isDecimal decimal)

theorem not_isDecimal_of_isBlank {c : Char} (blank : isBlank c = true) : isDecimal c = false := by
  rw [Bool.eq_false_iff]
  intro decimal
  rw [not_isBlank_of_isDecimal decimal] at blank
  cases blank

theorem head_all {accepts : Char → Bool} {text : List Char} (some_ : text ≠ [])
    (none : ∀ c ∈ text, accepts c = false) (rest : List Char) : (text ++ rest).head?.any accepts = false := by
  obtain ⟨c, text, rfl⟩ := List.exists_cons_of_ne_nil some_
  exact none c List.mem_cons_self

namespace IsSuffix

theorem unique (here : IsSuffix rest suffix) (there : IsSuffix others other)
    (same : suffix ++ rest = other ++ others) : suffix = other := by
  have paren : ∀ text : List Char, ('(' :: text).head?.any isBlank = false := fun _ => rfl
  have opens : ∀ {word : List Char}, IsDirection word → ∀ rest, (word ++ rest).head?.any isBlank = false :=
    fun direction => head_all direction.ne_nil fun c member =>
      not_isBlank_of_isWordChar (direction.letters c member)
  -- what follows the blanks tells a length from a direction
  have apart : ∀ {word rest text : List Char}, IsDirection word → word ++ rest ≠ '(' :: text := by
    intro word rest text direction same
    obtain ⟨c, word, rfl⟩ := List.exists_cons_of_ne_nil direction.ne_nil
    obtain ⟨rfl, -⟩ := List.cons.inj same
    exact absurd (direction.letters _ List.mem_cons_self) (by decide)
  cases here with
  | @length gap left digits right blank blankLeft some_ decimal blankRight =>
    cases there with
    | @length gap' left' digits' right' blank' blankLeft' some' decimal' blankRight' =>
      have digit : ∀ {digits : List Char}, digits ≠ [] → (∀ c ∈ digits, isDecimal c = true) →
          ∀ rest, (digits ++ rest).head?.any isBlank = false :=
        fun some_ decimal => head_all some_ fun c member => not_isBlank_of_isDecimal (decimal c member)
      have closes : ∀ {right : List Char}, (∀ c ∈ right, isBlank c = true) →
          ∀ rest, (right ++ ')' :: rest).head?.any isDecimal = false := by
        intro right blank rest
        cases right with
        | nil => rfl
        | cons c right => exact not_isDecimal_of_isBlank (blank c List.mem_cons_self)
      simp only [List.append_assoc, List.cons_append, List.nil_append] at same
      obtain ⟨rfl, opened⟩ := run_unique blank blank' (paren _) (paren _) same
      obtain ⟨rfl, counted⟩ := run_unique blankLeft blankLeft' (digit some_ decimal _) (digit some' decimal' _)
        (List.cons.inj opened).2
      obtain ⟨rfl, behind⟩ := run_unique decimal decimal' (closes blankRight _) (closes blankRight' _) counted
      obtain ⟨rfl, -⟩ := run_unique blankRight blankRight' rfl rfl behind
      rfl
    | direction _ blank' direction _ =>
      rw [List.append_assoc, List.append_assoc] at same
      obtain ⟨-, same⟩ := run_unique blank blank' (paren _) (opens direction _) same
      exact absurd same.symm (apart direction)
  | direction _ blank direction ends =>
    cases there with
    | length blank' =>
      rw [List.append_assoc, List.append_assoc] at same
      obtain ⟨-, same⟩ := run_unique blank blank' (opens direction _) (paren _) same
      exact absurd same (apart direction)
    | direction _ blank' direction' ends' =>
      rw [List.append_assoc, List.append_assoc] at same
      obtain ⟨rfl, spaced⟩ := run_unique blank blank' (opens direction _) (opens direction' _) same
      obtain ⟨rfl, -⟩ := run_unique direction.letters direction'.letters ends ends' spaced
      rfl

theorem ne_nil (here : IsSuffix rest suffix) : suffix ≠ [] := by
  cases here with
  | length => simp
  | direction some_ => exact List.append_ne_nil_of_left_ne_nil some_ _

theorem not_backtick (here : IsSuffix rest suffix) : '\x60' ∉ suffix := by
  have free : ∀ {accepts : Char → Bool} {text : List Char}, (∀ c ∈ text, accepts c = true) →
      accepts '\x60' = false → '\x60' ∉ text := by
    intro accepts text all none member
    rw [all _ member] at none
    cases none
  cases here with
  | length blank blankLeft _ decimal blankRight =>
    simp [free blank rfl, free blankLeft rfl, free decimal rfl, free blankRight rfl]
  | direction _ blank direction _ =>
    simp [free blank rfl, free direction.letters rfl]

/-- What follows counts only where a word could go on. -/
theorem followed (here : IsSuffix rest suffix)
    (ends : rest.head?.any isWordChar = false → others.head?.any isWordChar = false) :
    IsSuffix others suffix := by
  cases here with
  | length blank blankLeft some_ decimal blankRight => exact .length blank blankLeft some_ decimal blankRight
  | direction some_ blank direction last => exact .direction some_ blank direction (ends last)

theorem closed_iff {text : List Char} : (∃ rest, text ++ ['\x60'] = suffix ++ rest ∧ IsSuffix rest suffix) ↔
    ∃ rest, text = suffix ++ rest ∧ IsSuffix rest suffix := by
  have same : ∀ rest : List Char,
      rest.head?.any isWordChar = false ↔ (rest ++ ['\x60']).head?.any isWordChar = false := by
    rintro (_ | ⟨c, rest⟩)
    · simp only [List.head?_nil, Option.any_none, List.nil_append, List.head?_cons, Option.any_some, true_iff]
      decide
    · rfl
  constructor
  · rintro ⟨rest, split, here⟩
    -- a suffix holds no quote, so the quote ends what follows it
    rcases List.eq_nil_or_concat rest with rfl | ⟨rest, c, rfl⟩
    · have last : '\x60' ∈ suffix := by
        rw [← List.append_nil suffix, ← split]
        simp
      exact absurd last here.not_backtick
    · rw [List.concat_eq_append] at here split
      rw [← List.append_assoc] at split
      obtain ⟨rfl, closing⟩ := List.append_inj' split rfl
      rw [← closing] at here
      exact ⟨rest, rfl, here.followed (same rest).mpr⟩
  · rintro ⟨rest, rfl, here⟩
    exact ⟨rest ++ ['\x60'], List.append_assoc _ _ _, here.followed (same rest).mp⟩

end IsSuffix

/-! What the pattern finds. -/

theorem spans_of_char {mark : Char} {place later : Cursor} (reach : Reaches (.char (· == mark)) place later) :
    Spans place later [mark] := by
  obtain ⟨c, rest, here, same, rfl⟩ := reach
  obtain rfl : c = mark := by simpa using same
  exact ⟨here, rfl⟩

theorem suffix_of_reaches {place later : Cursor} (reach : Reaches indexColumnSuffix place later) :
    ∃ suffix, Spans place later suffix ∧ IsSuffix later.rest suffix := by
  rcases reach with length | order
  · obtain ⟨_, ⟨gap, start, blank, -, rfl⟩, _, opens, _, ⟨left, startLeft, blankLeft, -, rfl⟩, _,
      ⟨digits, startDigits, decimal, some_, rfl⟩, _, ⟨right, startRight, blankRight, -, rfl⟩, closes⟩ :=
        length
    have spans := (spans_past start).trans ((spans_of_char opens).trans ((spans_past startLeft).trans
      ((spans_past startDigits).trans ((spans_past startRight).trans (spans_of_char closes)))))
    exact ⟨_, spans, .length blank blankLeft (List.ne_nil_of_length_pos some_) decimal blankRight⟩
  · obtain ⟨_, ⟨gap, start, blank, some_, rfl⟩, _, either, ends, rfl⟩ := order
    obtain ⟨word, spans, direction⟩ : ∃ word, Spans (place.past gap) later word ∧ IsDirection word :=
      either.either_letters
    have single := (either.edge_iff spans direction.ne_nil direction.letters).mp ⟨ends, rfl⟩
    exact ⟨gap ++ word, (spans_past start).trans spans,
      .direction (List.ne_nil_of_length_pos some_) blank direction single⟩

theorem reaches_of_suffix {place : Cursor} (here : place.rest = suffix ++ rest) (is : IsSuffix rest suffix) :
    ∃ later, Reaches indexColumnSuffix place later := by
  cases is with
  | @length gap left digits right blank blankLeft some_ decimal blankRight =>
    simp only [List.append_assoc, List.cons_append, List.nil_append] at here
    have spaced := rest_past here
    have opened := @rest_past _ ['('] _ spaced
    have indented := rest_past opened
    have counted := rest_past indented
    have closing := rest_past counted
    exact ⟨_, .inl ⟨_, reaches_run here blank (Nat.zero_le _), _, reaches_char spaced rfl, _,
      reaches_run opened blankLeft (Nat.zero_le _), _,
      reaches_run indented decimal (List.length_pos_iff.mpr some_), _,
      reaches_run counted blankRight (Nat.zero_le _), reaches_char closing rfl⟩⟩
  | @direction gap word some_ blank direction ends =>
    rw [List.append_assoc] at here
    have spaced := rest_past here
    have found : Reaches (.either (letters "ASC") (letters "DESC")) (place.past gap)
        ((place.past gap).past word) := direction.imp (reaches_letters spaced) (reaches_letters spaced)
    have edge : Reaches .edge ((place.past gap).past word) ((place.past gap).past word) := by
      rw [found.edge_iff (spans_past ⟨rest, spaced.symm⟩) direction.ne_nil direction.letters, rest_past spaced]
      exact ends
    exact ⟨_, .inr ⟨_, reaches_run here blank (List.length_pos_iff.mpr some_), _, found, edge⟩⟩

-- Replacing goes by lengths only, and a length does not depend on what stands before, as a match may.
/-- How much is taken away where the text begins, if anything. -/
def suffixLength? (before : Option Char) (text : List Char) : Option Nat :=
  (indexColumnSuffix.matchAt before text).map Match.length

theorem suffixLength?_eq_some_iff {text : List Char} {length : Nat} :
    suffixLength? before text = some length ↔
      ∃ suffix, suffix.length = length ∧ ∃ rest, text = suffix ++ rest ∧ IsSuffix rest suffix := by
  rw [suffixLength?, Option.map_eq_some_iff]
  constructor
  · rintro ⟨found, matched, rfl⟩
    obtain ⟨later, reach, count, -⟩ := matchAt_sound matched
    obtain ⟨suffix, spans, here⟩ := suffix_of_reaches reach
    exact ⟨suffix, (count.trans spans.consumed_eq).symm, later.rest, spans.1, here⟩
  · rintro ⟨suffix, rfl, rest, rfl, here⟩
    have some_ : (indexColumnSuffix.matchAt before (suffix ++ rest)).isSome = true :=
      (matchAt_isSome_iff (by decide)).mpr (reaches_of_suffix rfl here)
    obtain ⟨found, matched⟩ := Option.isSome_iff_exists.mp some_
    obtain ⟨later, reach, count, -⟩ := matchAt_sound matched
    obtain ⟨own, spans, there⟩ := suffix_of_reaches reach
    obtain rfl := here.unique there spans.1
    exact ⟨found, matched, count.trans spans.consumed_eq⟩

theorem suffixLength?_closed (before other : Option Char) (text : List Char) :
    suffixLength? before (text ++ ['\x60']) = suffixLength? other text := by
  ext length
  rw [suffixLength?_eq_some_iff, suffixLength?_eq_some_iff]
  simp only [IsSuffix.closed_iff]

theorem replaceFrom_suffix (c : Char) (text : List Char) :
    indexColumnSuffix.replaceFrom [] 0 before (c :: text) =
      match suffixLength? before (c :: text) with
      | some (length + 1) => indexColumnSuffix.replaceFrom [] length (some c) text
      | _ => c :: indexColumnSuffix.replaceFrom [] 0 (some c) text := by
  rw [replaceFrom, suffixLength?]
  cases indexColumnSuffix.matchAt before (c :: text) with
  | none => rfl
  | some found =>
    obtain ⟨_ | length, captured⟩ := found
    · rfl
    · rfl

theorem replaceFrom_closed (text : List Char) {skip : Nat} (inside : skip ≤ text.length)
    (before other : Option Char) : indexColumnSuffix.replaceFrom [] skip before (text ++ ['\x60']) =
      indexColumnSuffix.replaceFrom [] skip other text ++ ['\x60'] := by
  induction text generalizing skip before other with
  | nil =>
    obtain rfl : skip = 0 := Nat.le_zero.mp inside
    have unfound : suffixLength? before ['\x60'] = none := by
      have closed := suffixLength?_closed before other []
      have nothing : suffixLength? other [] = none := rfl
      rwa [nothing] at closed
    rw [List.nil_append, replaceFrom_suffix, unfound]
    rfl
  | cons c text ih =>
    cases skip with
    | succ skip => exact ih (Nat.le_of_succ_le_succ inside) _ _
    | zero =>
      have same := suffixLength?_closed before other (c :: text)
      rw [List.cons_append] at same ⊢
      rw [replaceFrom_suffix, replaceFrom_suffix, same]
      split
      · next length found =>
        -- what is taken away ends in front of the closing quote
        obtain ⟨suffix, width, rest, split, -⟩ := suffixLength?_eq_some_iff.mp found
        have long := congrArg List.length split
        rw [List.length_cons, List.length_append, width] at long
        exact ih (by omega) _ _
      · rw [ih (Nat.zero_le _) (some c) (some c), List.cons_append]

theorem replaceAll_backquoted (name : List Char) : indexColumnSuffix.replaceAll [] (backquoted name) =
    backquoted (indexColumnSuffix.replaceAll [] name) := by
  have unfound : suffixLength? none ('\x60' :: (name ++ ['\x60'])) = none := by
    rw [Option.eq_none_iff_forall_ne_some]
    intro length found
    obtain ⟨suffix, -, rest, split, here⟩ := suffixLength?_eq_some_iff.mp found
    obtain ⟨c, suffix, rfl⟩ := List.exists_cons_of_ne_nil here.ne_nil
    obtain ⟨rfl, -⟩ := List.cons.inj split
    exact here.not_backtick List.mem_cons_self
  rw [replaceAll, backquoted, replaceFrom_suffix, unfound]
  exact congrArg _ (replaceFrom_closed name (Nat.zero_le _) _ none)

theorem search_isSome_iff_holdsSuffix {text : List Char} :
    (indexColumnSuffix.search text).isSome = true ↔ HoldsSuffix text := by
  rw [search_isSome_iff]
  have here : ∀ before back, (indexColumnSuffix.matchAt before back).isSome = true ↔
      ∃ suffix rest, back = suffix ++ rest ∧ IsSuffix rest suffix := by
    intro before back
    have measured : (suffixLength? before back).isSome = (indexColumnSuffix.matchAt before back).isSome :=
      Option.isSome_map
    rw [← measured, Option.isSome_iff_exists]
    simp only [suffixLength?_eq_some_iff]
    constructor
    · rintro ⟨-, suffix, -, found⟩
      exact ⟨suffix, found⟩
    · rintro ⟨suffix, found⟩
      exact ⟨suffix.length, suffix, rfl, found⟩
  simp only [here, HoldsSuffix]
  constructor
  · rintro ⟨front, back, rfl, suffix, rest, rfl, is⟩
    exact ⟨front, suffix, rest, rfl, is⟩
  · rintro ⟨front, suffix, rest, rfl, is⟩
    exact ⟨front, suffix ++ rest, rfl, suffix, rest, rfl, is⟩

/-- A name is left as it is just if there is nothing to take away. -/
theorem trim_replaceAll_iff {text : List Char} (trimmed : trim text = text) :
    trim (indexColumnSuffix.replaceAll [] text) = text ↔ ¬ HoldsSuffix text := by
  rw [← search_isSome_iff_holdsSuffix, Bool.not_eq_true, Option.isSome_eq_false_iff,
    Option.isNone_iff_eq_none]
  constructor
  · intro same
    by_contra found
    have shorter : (indexColumnSuffix.replaceAll [] text).length < text.length := by
      refine replaceAll_length_lt (fun before text found matched => ?_) (Option.isSome_iff_ne_none.mpr found)
      have measured : suffixLength? before text = some found.length := by rw [suffixLength?, matched]; rfl
      obtain ⟨suffix, width, _, _, is⟩ := suffixLength?_eq_some_iff.mp measured
      rw [← width]
      exact List.length_pos_iff.mpr is.ne_nil
    have cut := ((trimRight_isPrefixOf (trimLeft (indexColumnSuffix.replaceAll [] text))).sublist.trans
      (List.dropWhile_sublist isBlank)).length_le
    rw [← trim] at cut
    rw [same] at cut
    omega
  · intro unfound
    rw [replaceAll_of_search_eq_none unfound, trimmed]

end

/-! The names of a list. -/

/-- What is a name in backticks: a text that is not empty, without backticks, zero width spaces, and blanks at
its ends. -/
structure IsQuotable (name : List Char) : Prop where
  nonempty : name ≠ []
  plain : '\x60' ∉ name
  visible : ∀ c ∈ name, isZeroWidth c = false
  trimmed : trim name = name

instance (name : List Char) : Decidable (IsQuotable name) :=
  decidable_of_iff (name ≠ [] ∧ '\x60' ∉ name ∧ (name.all fun c => !isZeroWidth c) = true ∧ trim name = name) <| by
    simp only [List.all_eq_true, Bool.not_eq_true']
    exact ⟨fun ⟨nonempty, plain, visible, trimmed⟩ => ⟨nonempty, plain, visible, trimmed⟩,
      fun is => ⟨is.nonempty, is.plain, is.visible, is.trimmed⟩⟩

section

variable {name : List Char}

theorem trim_backquoted (name : List Char) : trim (backquoted name) = backquoted name := by
  have solid : isBlank '\x60' = false := by decide
  rw [trim, backquoted, trimLeft, List.dropWhile_cons_of_neg (by simp [solid]), ← List.cons_append,
    trimRight_mark solid]
  rfl

theorem cleanName_backquoted (plain : '\x60' ∉ name) (visible : ∀ c ∈ name, isZeroWidth c = false) :
    cleanName (backquoted name) = trim name :=
  cleanName_part (.wrapped .backticks name plain visible)

theorem isPiece_backquoted (plain : '\x60' ∉ name) : IsPiece (backquoted name) :=
  ⟨commaPieces_closed 0 rfl plain, commaState_closed 0 rfl plain⟩

theorem column_backquoted (is : IsQuotable name) :
    cleanName (trim (indexColumnSuffix.replaceAll [] (backquoted name))) =
      trim (indexColumnSuffix.replaceAll [] name) := by
  have kept : ∀ c ∈ indexColumnSuffix.replaceAll [] name, c ∈ name :=
    (replaceFrom_sublist indexColumnSuffix 0 none name).subset
  rw [replaceAll_backquoted, trim_backquoted, cleanName_backquoted fun member => is.plain (kept _ member)]
  exact fun c member => is.visible c (kept c member)

end

theorem map_filter_eq_self_iff {α : Type} {list : List α} {f : α → α} {keeps : α → Bool}
    (kept : ∀ entry ∈ list, keeps entry = true) :
    (list.map f).filter keeps = list ↔ ∀ entry ∈ list, f entry = entry := by
  have fixed : list.map f = list ↔ ∀ entry ∈ list, f entry = entry := by
    simpa using @List.map_inj_left _ _ list f id
  rw [← fixed]
  constructor
  · intro same
    -- an entry that is left out would be missing from the length
    have full : (list.map f).filter keeps = list.map f := by
      refine List.filter_sublist.eq_of_length ?_
      rw [same, List.length_map]
    rwa [full] at same
  · intro mapped
    rw [mapped, List.filter_eq_self]
    exact kept

/-- Names in backticks come back without the lengths and sort directions that they hold, and exactly as they
are just if they hold none. -/
theorem splitColumns_backquoted {names : List (List Char)} (quotable : ∀ name ∈ names, IsQuotable name) :
    splitColumns (enumeration (names.map backquoted)) =
        ((names.map fun name => trim (indexColumnSuffix.replaceAll [] name)).filter fun name => !name.isEmpty) ∧
      (splitColumns (enumeration (names.map backquoted)) = names ↔ ∀ name ∈ names, ¬ HoldsSuffix name) := by
  have pieces : splitCommas (enumeration (names.map backquoted)) = names.map backquoted := by
    cases names with
    | nil => rfl
    | cons name others =>
      rw [splitCommas_enumeration (by simp)]
      · rw [List.map_map]
        exact List.map_congr_left fun name _ => trim_backquoted name
      · rintro _ member
        obtain ⟨name, inside, rfl⟩ := List.mem_map.mp member
        exact isPiece_backquoted (quotable name inside).plain
      · rintro _ member
        obtain ⟨name, -, rfl⟩ := List.mem_map.mp member
        exact ⟨'\x60', List.mem_cons_self, rfl⟩
  have columns : splitColumns (enumeration (names.map backquoted)) =
      (names.map fun name => trim (indexColumnSuffix.replaceAll [] name)).filter fun name => !name.isEmpty := by
    rw [splitColumns, pieces, List.map_map]
    exact congrArg _ (List.map_congr_left fun name member => column_backquoted (quotable name member))
  refine ⟨columns, ?_⟩
  -- no name is empty, so that the list stays the same just if each name does
  rw [columns, map_filter_eq_self_iff fun name member => by simp [(quotable name member).nonempty]]
  exact forall₂_congr fun name member => trim_replaceAll_iff (quotable name member).trimmed

theorem splitColumns_backquoted_commas :
    let names := ["a, b".toList, "x.'y\"".toList, "ASC".toList, "(z".toList]
    (∀ name ∈ names, IsQuotable name) ∧ (∀ name ∈ names, ¬ HoldsSuffix name) ∧
      splitColumns (enumeration (names.map backquoted)) = names := by
  intro names
  have quotable : ∀ name ∈ names, IsQuotable name := by decide
  have same : splitColumns (enumeration (names.map backquoted)) = names := by decide +kernel
  exact ⟨quotable, (splitColumns_backquoted quotable).2.mp same, same⟩

/-- Quotes do not keep what looks like a sort direction or a length. -/
theorem quoted_column_can_change : ¬ ∀ names : List (List Char), (∀ name ∈ names, IsQuotable name) →
    splitColumns (enumeration (names.map backquoted)) = names := by
  intro claim
  have same := claim ["a DESC".toList] (by decide)
  have cut : splitColumns (enumeration (["a DESC".toList].map backquoted)) = ["a".toList] := by decide +kernel
  rw [cut] at same
  exact absurd same (by decide)

end DdlSchema.Text
