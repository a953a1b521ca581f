import DdlSchema.Proofs.Statement.NoiseWords

/-! What becomes of the name and the columns of a statement. The name is a part of three texts that are
searched: for a query behind it, for noise and for calls. A name that none of the three takes for
something else is kept, and the columns behind it are kept up to the parenthesis that closes them. -/

set_option autoImplicit false

namespace DdlSchema.Statement

open DdlSchema.Text DdlSchema.Text.Pattern

/-! Names. -/

/-- A name that is written bare, or in double quotes or backticks. -/
inductive IsTableName : List Char → Prop where
  | bare {name : List Char} : name ≠ [] → (∀ c ∈ name, isWordChar c = true) → IsTableName name
  | quoted {quote : Char} {content : List Char} : quote = '\x22' ∨ quote = '\x60' → quote ∉ content →
      '\x00' ∉ content → IsTableName (quote :: (content ++ [quote]))

/-- The beginning of a statement up to the parenthesis behind the name. -/
def tableHead (name : List Char) : List Char := "CREATE TABLE ".toList ++ name ++ " (".toList

def createTable : List Char := ['C', 'R', 'E', 'A', 'T', 'E', ' ', 'T', 'A', 'B', 'L', 'E']

theorem tableHead_eq (name : List Char) : tableHead name = createTable ++ ' ' :: (name ++ [' ', '(']) := by
  have words : "CREATE TABLE ".toList = createTable ++ [' '] := by decide
  have opening : " (".toList = [' ', '('] := by decide
  unfold tableHead
  rw [words, opening]
  rw [List.append_assoc, List.append_assoc]
  rfl

/-- What stands for a name in masked text. -/
inductive MasksName (literals : List (List Char)) : List Char → List Char → Prop where
  | bare {name : List Char} : name ≠ [] → (∀ c ∈ name, isWordChar c = true) →
      MasksName literals name name
  | quoted {number : Nat} {name : List Char} : literals[number]? = some name →
      MasksName literals name (placeholder number)

theorem not_isQuote_of_isWordChar {c : Char} (word : isWordChar c = true) : isQuote c = false := by
  rw [Bool.eq_false_iff]
  intro quote
  simp only [isQuote, Bool.or_eq_true, beq_iff_eq] at quote
  rcases quote with (rfl | rfl) | rfl <;> exact absurd word (by decide)

theorem segments_plain {front : List Char} (plain : ∀ c ∈ front, isQuote c = false) (rest : List Char) :
    segments (front ++ rest) = front.map .plain ++ segments rest := by
  induction front with
  | nil => rfl
  | cons c front ih =>
    rw [List.cons_append, segments, if_neg (by simp [plain c]), ih fun d member =>
      plain d (List.mem_cons_of_mem _ member)]
    rfl

theorem closesTail_of_not_mem {quote : Char} {content : List Char} (double : quote ≠ '\x27')
    (none : quote ∉ content) : closesTail quote (content ++ [quote]) = true := by
  induction content with
  | nil => simp [closesTail]
  | cons c content ih =>
    simp only [List.mem_cons, not_or] at none
    have apart : (c == quote) = false := beq_eq_false_iff_ne.mpr (Ne.symm none.1)
    have single : (quote == '\x27') = false := beq_eq_false_iff_ne.mpr double
    cases content with
    | nil => simp [closesTail, apart, single]
    | cons d content =>
      rw [List.cons_append, List.cons_append, closesTail, if_neg (by simp [apart, single]),
        if_neg (by simp [apart])]
      exact ih none.2

def maskedHead (masked : List Char) : List Char := createTable ++ ' ' :: (masked ++ [' ', '('])

/-- The segments of a statement are those of its head and then the others. -/
theorem segments_tableHead {name : List Char} (named : IsTableName name) (rest : List Char) :
    ∃ own, segments (tableHead name ++ rest) = createTable.map .plain ++
      .plain ' ' :: (own ++ [' ', '('].map .plain) ++ segments rest ∧
      ((own = name.map .plain ∧ name ≠ [] ∧ ∀ c ∈ name, isWordChar c = true) ∨ own = [.quoted name]) := by
  have behind : segments ([' ', '('] ++ rest) = [' ', '('].map .plain ++ segments rest :=
    segments_plain (List.all_iff_forall_prop.mp (by decide)) rest
  have start : segments (tableHead name ++ rest) = createTable.map .plain ++
      .plain ' ' :: segments (name ++ ([' ', '('] ++ rest)) := by
    have words : ∀ c ∈ createTable, isQuote c = false := List.all_iff_forall_prop.mp (by decide)
    rw [tableHead_eq, List.append_assoc, segments_plain words, List.cons_append, List.append_assoc,
      segments, if_neg (by decide)]
  rw [start]
  cases named with
  | bare nonempty word =>
    refine ⟨name.map .plain, ?_, .inl ⟨rfl, nonempty, word⟩⟩
    rw [segments_plain (fun c member => not_isQuote_of_isWordChar (word c member)), behind,
      List.append_assoc, List.cons_append, List.append_assoc]
  | @quoted quote content kind none _ =>
    refine ⟨[.quoted (quote :: (content ++ [quote]))], ?_, .inr rfl⟩
    have isQuote_ : isQuote quote = true := by rcases kind with rfl | rfl <;> rfl
    have double : quote ≠ '\x27' := by rcases kind with rfl | rfl <;> decide
    have other : ([' ', '('] ++ rest).head? ≠ some quote := by rcases kind with rfl | rfl <;> simp
    rw [List.cons_append, segments, if_pos isQuote_,
      quotedTail_append_other (closesTail_of_not_mem double none) other, behind, List.append_assoc]
    rfl

theorem masks_tableHead {name : List Char} (named : IsTableName name) {rest text : List Char}
    {literals : List (List Char)} (renders : Renders literals (segments (tableHead name ++ rest)) text) :
    ∃ head masked others, text = maskedHead masked ++ others ∧ MasksName literals name masked ∧
      Renders literals head (maskedHead masked) ∧ spelled head = tableHead name ∧
      Renders literals (segments rest) others := by
  obtain ⟨own, split, kind⟩ := segments_tableHead named rest
  rw [split] at renders
  obtain ⟨front, others, rfl, first, behind⟩ := renders.of_append
  obtain ⟨words, text, rfl, start, next⟩ := first.of_append
  cases next with
  | plain _ _ next =>
    obtain ⟨masked, between, rfl, middle, last⟩ := next.of_append
    rw [start.eq_of_plain, last.eq_of_plain] at first ⊢
    refine ⟨_, masked, others, rfl, ?_, first, ?_, behind⟩
    · rcases kind with ⟨rfl, nonempty, word⟩ | rfl
      · rw [middle.eq_of_plain]
        exact .bare nonempty word
      · cases middle with
        | quoted found nothing =>
          cases nothing
          rw [List.append_nil]
          exact .quoted found
    · rw [tableHead_eq, spelled_append, spelled_plain, spelled_cons, spelled_append, spelled_plain]
      rcases kind with ⟨rfl, -⟩ | rfl
      · rw [spelled_plain]
        rfl
      · simp [spelled, Segment.text]

/-! Where a clause can begin. -/

/-- The pattern does not begin with a blank or an opening parenthesis. -/
def LeadsOn (pattern : Pattern) : Prop :=
  ∀ ⦃place later⦄, Reaches pattern place later →
    ∃ c rest, place.rest = c :: rest ∧ isBlank c = false ∧ c ≠ '('

theorem not_isBlank_of_isWordChar {c : Char} (word : isWordChar c = true) : isBlank c = false := by
  rw [Bool.eq_false_iff]
  intro blank
  rw [isWordChar_of_isBlank blank] at word
  cases word

theorem ne_paren_of_isWordChar {c : Char} (word : isWordChar c = true) : c ≠ '(' := by
  rintro rfl
  exact absurd word (by decide)

theorem leadsOn_wordChars : LeadsOn wordChars := by
  rintro place later ⟨taken, ⟨rest, here⟩, word, least, -⟩
  obtain ⟨c, taken, rfl⟩ := List.exists_cons_of_length_pos (Nat.lt_of_succ_le least)
  have first := word c List.mem_cons_self
  exact ⟨c, taken ++ rest, here.symm, not_isBlank_of_isWordChar first, ne_paren_of_isWordChar first⟩

theorem leadsOn_letters {word : String} {letter : Char} {others : List Char}
    (spelled : word.toList = letter :: others) (alpha : letter.isAlpha = true) :
    LeadsOn (letters word) := by
  intro place later reach
  obtain ⟨taken, spans, same⟩ := reach.letters
  rw [spelled] at same
  cases same with
  | cons first _ =>
    have first := isWordChar_of_sameLetter alpha first
    exact ⟨_, _, spans.1, not_isBlank_of_isWordChar first, ne_paren_of_isWordChar first⟩

theorem leadsOn_maskedLiteral : LeadsOn maskedLiteral := by
  rintro place later ⟨opened, ⟨c, rest, here, mark, rfl⟩, -⟩
  have same : c = '\x00' := beq_iff_eq.mp mark
  exact ⟨c, rest, here, by rw [same]; decide, by rw [same]; decide⟩

theorem LeadsOn.either {first second : Pattern} (left : LeadsOn first) (right : LeadsOn second) :
    LeadsOn (.either first second) := by
  rintro place later (reach | reach)
  · exact left reach
  · exact right reach

def noiseWord : Pattern := .seq (.either (letters "UNSIGNED") (letters "ZEROFILL")) .edge

/-- A word and, behind a gap, something that is neither blank nor a parenthesis. -/
def GoesOn (place : Cursor) : Prop :=
  ∃ word gap c rest, place.rest = word ++ (gap ++ c :: rest) ∧ (∀ d ∈ word, isWordChar d = true) ∧
    word ≠ [] ∧ gap ≠ [] ∧ (∀ d ∈ gap, isBlank d = true) ∧ isBlank c = false ∧ c ≠ '('

theorem goesOn_of_gap {word : String} {next : Pattern} {place middle spaced later : Cursor}
    (alpha : word.toList.all isWordLetter = true) (some_ : word.toList ≠ [])
    (leads : LeadsOn next) (first : Reaches (letters word) place middle)
    (gapped : Reaches gap middle spaced) (reach : Reaches next spaced later) : GoesOn place := by
  obtain ⟨taken, spans, same⟩ := first.letters
  obtain ⟨blanks, inside, blank, least, rfl⟩ := gapped
  obtain ⟨c, rest, here, other, paren⟩ := leads reach
  have split := (spans.trans (spans_past inside)).1
  rw [here, List.append_assoc] at split
  refine ⟨taken, blanks, c, rest, split, isWordChar_of_letters alpha same, ?_,
    List.ne_nil_of_length_pos (Nat.lt_of_succ_le least), blank, other, paren⟩
  rintro rfl
  exact some_ (List.forall₂_nil_right_iff.mp same)

theorem noiseWord_found {place later : Cursor} (reach : Reaches noiseWord place later) :
    ∃ word rest, place.rest = word ++ rest ∧ (∀ c ∈ word, isWordChar c = true) ∧ word ≠ [] ∧
      rest.head?.any isWordChar = false ∧ (noiseWord.matchStart word).isSome = true := by
  obtain ⟨middle, either, apart, rfl⟩ := reach
  obtain ⟨text, member, found⟩ : ∃ text : String, (text = "UNSIGNED" ∨ text = "ZEROFILL") ∧
      Reaches (letters text) place later := by
    rcases either with found | found
    · exact ⟨_, .inl rfl, found⟩
    · exact ⟨_, .inr rfl, found⟩
  obtain ⟨word, spans, same⟩ := found.letters
  have alpha : text.toList.all isWordLetter = true := by
    rcases member with rfl | rfl <;> decide
  have some_ : text.toList ≠ [] := by
    rcases member with rfl | rfl <;> decide
  have inside := isWordChar_of_letters alpha same
  have nonempty : word ≠ [] := by
    rintro rfl
    exact some_ (List.forall₂_nil_right_iff.mp same)
  have single := (found.edge_iff spans nonempty inside).mp ⟨apart, rfl⟩
  refine ⟨word, later.rest, spans.1, inside, nonempty, single, ?_⟩
  rw [matchStart, matchAt_isSome_iff (by decide)]
  -- the same letters are found at the end of a text, where there is an edge as well
  have here : (Cursor.mk none word 0 []).rest = word ++ [] := (List.append_nil word).symm
  have again := @reaches_letters text ⟨none, word, 0, []⟩ word [] here same
  have ends : Reaches .edge (Cursor.past ⟨none, word, 0, []⟩ word) (Cursor.past ⟨none, word, 0, []⟩ word) := by
    rw [again.edge_iff (spans_past ⟨[], List.append_nil word⟩) nonempty inside, rest_past here]
    rfl
  rcases member with rfl | rfl
  · exact ⟨_, _, .inl again, ends⟩
  · exact ⟨_, _, .inr again, ends⟩

theorem goesOn_or_noiseWord {clause : Pattern} (member : clause ∈ noiseClauses) :
    ∃ body, clause = .seq afterClause body ∧
      ∀ place later, Reaches body place later → GoesOn place ∨ Reaches noiseWord place later := by
  obtain ⟨body, inside, rfl⟩ := List.mem_map.mp member
  refine ⟨body, rfl, fun place later reach => ?_⟩
  simp only [List.mem_cons, List.not_mem_nil, or_false] at inside
  rcases inside with rfl | rfl | rfl | rfl | rfl | rfl | rfl
  · obtain ⟨_, ⟨_, first, _, gapped, next⟩, -⟩ := reach
    exact .inl (goesOn_of_gap (by decide) (by decide) (leadsOn_letters rfl (by decide)) first gapped next)
  · obtain ⟨_, first, _, gapped, next⟩ := reach
    exact .inl (goesOn_of_gap (by decide) (by decide) leadsOn_wordChars first gapped next)
  · obtain ⟨_, first, _, gapped, next⟩ := reach
    exact .inl (goesOn_of_gap (by decide) (by decide) (leadsOn_wordChars.either leadsOn_maskedLiteral)
      first gapped next)
  · obtain ⟨_, first, _, gapped, next⟩ := reach
    exact .inl (goesOn_of_gap (by decide) (by decide) leadsOn_maskedLiteral first gapped next)
  · exact .inr reach
  · obtain ⟨_, first, _, gapped, _, next, -⟩ := reach
    exact .inl (goesOn_of_gap (by decide) (by decide)
      ((leadsOn_letters rfl (by decide)).either (leadsOn_letters rfl (by decide))) first gapped next)
  · obtain ⟨_, ⟨_, first, _, gapped, _, next, -⟩, -⟩ := reach
    exact .inl (goesOn_of_gap (by decide) (by decide) (leadsOn_letters rfl (by decide)) first gapped next)

theorem matchAt_eq_none {pattern : Pattern} {before : Option Char} {text : List Char}
    (never : ∀ later, ¬ Reaches pattern ⟨before, text, 0, []⟩ later) :
    pattern.matchAt before text = none := by
  cases matched : pattern.matchAt before text with
  | none => rfl
  | some found =>
    obtain ⟨later, reach, -⟩ := matchAt_sound matched
    exact absurd reach (never later)

section

variable {clause : Pattern} {before : Option Char} {rest : List Char}

theorem clause_at_other (member : clause ∈ noiseClauses) {c : Char} (other : isBlank c = false) :
    clause.matchAt before (c :: rest) = none := by
  obtain ⟨body, rfl, -⟩ := goesOn_or_noiseWord member
  refine matchAt_eq_none ?_
  rintro later ⟨_, ⟨_, ⟨-, rfl⟩, front, start, blank, least, rfl⟩, -⟩
  obtain ⟨d, front, rfl⟩ := List.exists_cons_of_length_pos (Nat.lt_of_succ_le least)
  obtain ⟨same, -⟩ := List.cons_prefix_cons.mp start
  rw [same] at blank
  rw [blank c List.mem_cons_self] at other
  cases other

theorem clause_at_blank (member : clause ∈ noiseClauses) (single : rest.head?.any isBlank = false)
    {later : Cursor} (reach : Reaches clause ⟨before, ' ' :: rest, 0, []⟩ later) :
    ∃ place : Cursor, place.rest = rest ∧ (GoesOn place ∨ Reaches noiseWord place later) := by
  obtain ⟨body, rfl, goes_on⟩ := goesOn_or_noiseWord member
  obtain ⟨_, ⟨_, ⟨-, rfl⟩, front, start, blank, -, rfl⟩, reach⟩ := reach
  have next := goes_on _ _ reach
  have word : ∀ {word rest : List Char}, (∀ c ∈ word, isWordChar c = true) → word ≠ [] →
      (word ++ rest).head?.any isBlank = false := by
    intro word rest all some_
    obtain ⟨c, word, rfl⟩ := List.exists_cons_of_ne_nil some_
    exact not_isBlank_of_isWordChar (all c List.mem_cons_self)
  have stops : (Cursor.past ⟨before, ' ' :: rest, 0, []⟩ front).rest.head?.any isBlank = false := by
    rcases next with ⟨_, _, _, _, here, all, some_, -⟩ | noise
    · rw [here]
      exact word all some_
    · obtain ⟨_, _, here, all, some_, -⟩ := noiseWord_found noise
      rw [here]
      exact word all some_
  have split : front ++ (Cursor.past ⟨before, ' ' :: rest, 0, []⟩ front).rest = [' '] ++ rest :=
    (spans_past start).1.symm
  exact ⟨_, (run_unique blank (by simp; decide) stops single split).2, next⟩

theorem clause_at_no_word (member : clause ∈ noiseClauses) (single : rest.head?.any isBlank = false)
    (outside : rest.head?.any isWordChar = false) : clause.matchAt before (' ' :: rest) = none := by
  refine matchAt_eq_none fun later reach => ?_
  have none : ∀ {word others : List Char}, rest = word ++ others →
      (∀ c ∈ word, isWordChar c = true) → word = [] := by
    rintro word others rfl all
    cases word with
    | nil => rfl
    | cons c word =>
      rw [List.cons_append, List.head?_cons, Option.any_some, all c List.mem_cons_self] at outside
      cases outside
  obtain ⟨place, here, goes_on | noise⟩ := clause_at_blank member single reach
  · obtain ⟨word, _, _, _, split, all, some_, -⟩ := goes_on
    exact some_ (none (here.symm.trans split) all)
  · obtain ⟨word, _, split, all, some_, -⟩ := noiseWord_found noise
    exact some_ (none (here.symm.trans split) all)

theorem clause_at_name (member : clause ∈ noiseClauses) {literals : List (List Char)}
    {name masked : List Char} (masks : MasksName literals name masked)
    (noise : ¬ (noiseWord.matchStart name).isSome = true) :
    clause.matchAt before (' ' :: (masked ++ ' ' :: '(' :: rest)) = none := by
  cases masks with
  | bare some_ word =>
    refine matchAt_eq_none fun later reach => ?_
    have outside : (' ' :: '(' :: rest).head?.any isWordChar = false :=
      (by decide : isWordChar ' ' = false)
    have single : (name ++ ' ' :: '(' :: rest).head?.any isBlank = false := by
      obtain ⟨c, others, rfl⟩ := List.exists_cons_of_ne_nil some_
      exact not_isBlank_of_isWordChar (word c List.mem_cons_self)
    obtain ⟨place, here, goes_on | found⟩ := clause_at_blank member single reach
    · -- behind a word the pattern goes on with something else than the parenthesis of the columns
      obtain ⟨taken, gap, d, more, split, all, -, some_, blank, other, paren⟩ := goes_on
      have stops : (gap ++ d :: more).head?.any isWordChar = false := by
        obtain ⟨e, gap, rfl⟩ := List.exists_cons_of_ne_nil some_
        exact isWordChar_of_isBlank (blank e List.mem_cons_self)
      have gaps : gap ++ d :: more = [' '] ++ '(' :: rest :=
        (run_unique all word stops outside (split.symm.trans here)).2
      have opening : ('(' :: rest).head?.any isBlank = false := (by decide : isBlank '(' = false)
      have last := (run_unique blank (by simp; decide) (by simpa using other) opening gaps).2
      exact paren (List.cons.inj last).1
    · obtain ⟨taken, more, split, all, -, stops, reads⟩ := noiseWord_found found
      have own := (run_unique all word stops outside (split.symm.trans here)).1
      exact noise (own ▸ reads)
  | quoted =>
    exact clause_at_no_word member (by decide : isBlank '\x00' = false)
      (by decide : isWordChar '\x00' = false)

end

/-! The head is kept. -/

theorem MasksName.not_blank {literals : List (List Char)} {name masked : List Char}
    (masks : MasksName literals name masked) : ∀ c ∈ masked, isBlank c = false := by
  cases masks with
  | bare _ word => exact fun c member => not_isBlank_of_isWordChar (word c member)
  | quoted =>
    intro c member
    have inside := not_isPlain_of_mem_placeholder member
    rw [Bool.eq_false_iff]
    intro blank
    rw [isPlain_of_isBlank blank] at inside
    cases inside

theorem clause_keeps_head {clause : Pattern} (member : clause ∈ noiseClauses)
    {literals : List (List Char)} {name masked : List Char} (masks : MasksName literals name masked)
    (noise : ¬ (noiseWord.matchStart name).isSome = true) (rest : List Char) :
    clause.replaceAll [] (maskedHead masked ++ rest) =
      maskedHead masked ++ clause.replaceFrom [] 0 (some '(') rest := by
  -- the words in front of the name are read off the pattern
  have fixed : ∀ rest : List Char, clause.replaceFrom [] 0 none (createTable ++ ' ' :: rest) =
      createTable ++ clause.replaceFrom [] 0 (some 'E') (' ' :: rest) := by
    intro rest
    obtain ⟨body, inside, rfl⟩ := List.mem_map.mp member
    simp only [List.mem_cons, List.not_mem_nil, or_false] at inside
    rcases inside with rfl | rfl | rfl | rfl | rfl | rfl | rfl <;> rfl
  have whole : maskedHead masked ++ rest = createTable ++ ' ' :: (masked ++ ' ' :: '(' :: rest) := by
    simp [maskedHead]
  have inside : ∀ earlier c later, masked = earlier ++ c :: later →
      clause.matchAt (earlier.getLast?.or (some ' ')) (c :: (later ++ ' ' :: '(' :: rest)) = none := by
    rintro earlier c later rfl
    exact clause_at_other member (masks.not_blank c (by simp))
  have behind : clause.matchAt (masked.getLast?.or (some ' ')) (' ' :: '(' :: rest) = none :=
    clause_at_no_word member (by decide : isBlank '(' = false) (by decide : isWordChar '(' = false)
  rw [whole, replaceAll, fixed, replaceFrom_none (clause_at_name member masks noise),
    replaceFrom_front inside, replaceFrom_none behind,
    replaceFrom_none (clause_at_other member (by decide))]
  simp [maskedHead]

theorem call_at_other {before : Option Char} {c : Char} {rest : List Char}
    (other : isWordChar c = false) : timestampCall.matchAt before (c :: rest) = none := by
  refine matchAt_eq_none fun later reach => ?_
  obtain ⟨text, spans⟩ := reach.spans
  obtain ⟨-, name, digits, call⟩ := isCall_of_reaches reach spans
  obtain ⟨d, others, rfl, word⟩ := call.head
  have same : c :: rest = (d :: others) ++ later.rest := spans.1
  rw [(List.cons.inj same).1, word] at other
  cases other

theorem call_inside_word {b c : Char} {rest : List Char} (before : isWordChar b = true)
    (here : isWordChar c = true) : timestampCall.matchAt (some b) (c :: rest) = none := by
  refine matchAt_eq_none fun later reach => ?_
  obtain ⟨_, ⟨apart, -⟩, -⟩ := reach
  rw [Option.any_some, List.head?_cons, Option.any_some, before, here] at apart
  exact apart rfl

theorem call_keeps_head {literals : List (List Char)} {name masked rest : List Char}
    (masks : MasksName literals name masked)
    (apart : timestampCall.matchAt (some ' ') (masked ++ ' ' :: '(' :: rest) = none) :
    timestampCall.replaceAll "CURRENT_TIMESTAMP".toList (maskedHead masked ++ rest) =
      maskedHead masked ++ timestampCall.replaceFrom "CURRENT_TIMESTAMP".toList 0 (some '(') rest := by
  generalize "CURRENT_TIMESTAMP".toList = written
  have fixed : ∀ rest : List Char, timestampCall.replaceFrom written 0 none (createTable ++ ' ' :: rest) =
      createTable ++ ' ' :: timestampCall.replaceFrom written 0 (some ' ') rest := fun rest => rfl
  have whole : maskedHead masked ++ rest = createTable ++ ' ' :: (masked ++ ' ' :: '(' :: rest) := by
    simp [maskedHead]
  have kept : timestampCall.replaceFrom written 0 (some ' ') (masked ++ ' ' :: '(' :: rest) =
      masked ++ timestampCall.replaceFrom written 0 (masked.getLast?.or (some ' ')) (' ' :: '(' :: rest) := by
    cases masks with
    | bare some_ word =>
      -- a call would have to begin with the name
      obtain ⟨c, others, rfl⟩ := List.exists_cons_of_ne_nil some_
      rw [List.cons_append] at apart ⊢
      rw [replaceFrom_none apart, replaceFrom_front, getLast?_cons_or, List.cons_append]
      rintro earlier d later rfl
      have last : ∃ b, earlier.getLast?.or (some c) = some b ∧ isWordChar b = true := by
        cases front : earlier.getLast? with
        | none => exact ⟨c, rfl, word c List.mem_cons_self⟩
        | some b => exact ⟨b, rfl, word b (by simp [List.mem_of_getLast? front])⟩
      obtain ⟨b, same, before⟩ := last
      rw [same]
      exact call_inside_word before (word d (by simp))
    | quoted =>
      exact replaceFrom_inside beginsPlain_timestampCall written
        (fun c => not_isPlain_of_mem_placeholder) _ _
  rw [whole, replaceAll, fixed, kept, replaceFrom_none (call_at_other (by decide)),
    replaceFrom_none (call_at_other (by decide))]
  simp [maskedHead]

/-- Level noise is taken out of what stands behind the head. -/
def Cleared (list out : List Segment) : Prop :=
  Relation.ReflTransGen (Edits (fun before taken _ => IsNoise before taken) [] (some (.plain '('))) list out

theorem clauses_keep_head {literals : List (List Char)} {name masked : List Char}
    (masks : MasksName literals name masked) (noise : ¬ (noiseWord.matchStart name).isSome = true)
    {clauses : List Pattern} (known : clauses ⊆ noiseClauses) {list : List Segment} {rest : List Char}
    (renders : Renders literals list rest) :
    ∃ out rest', clauses.foldl (fun text clause => clause.replaceAll [] text) (maskedHead masked ++ rest) =
      maskedHead masked ++ rest' ∧ Renders literals out rest' ∧ Cleared list out := by
  induction clauses generalizing list rest with
  | nil => exact ⟨list, rest, rfl, renders, .refl⟩
  | cons clause clauses ih =>
    rw [List.cons_subset] at known
    obtain ⟨keeps, begins⟩ := keepsMarks_noiseClauses known.1
    have behind : (maskedHead masked).getLast? = (some (.plain '(')).map Segment.shown := by
      simp [maskedHead, List.getLast?_append, List.getLast?_cons, Segment.shown]
    obtain ⟨middle, rendered, edits⟩ :=
      edits_replaceFrom keeps begins (List.forall_mem_nil _) rfl behind renders
    obtain ⟨out, rest', same, last, cleared⟩ := ih known.2 rendered
    refine ⟨out, rest', ?_, last, .head (edits.imp fun _ _ _ => isNoise_of_removes known.1) cleared⟩
    rw [List.foldl_cons, clause_keeps_head known.1 masks noise, ← same, behind]
    rfl

theorem Cleared.faithful {list out : List Segment} (cleared : Cleared list out)
    (faithful : Faithful list) : Faithful out := by
  induction cleared with
  | refl => exact faithful
  | tail _ edits ih => exact @Edits.faithful _ [] (List.forall_mem_nil _) _ _ _ edits ih

/-- The name and what stands behind it are taken for a call of the current timestamp. -/
def ReadsAsCall (columns : List Char) : Prop :=
  (timestampCall.matchAt (some ' ')
    ((withoutClauses (mask columns)).text.drop (createTable.length + 1))).isSome = true

theorem strip_tableHead {name rest : List Char} (named : IsTableName name)
    (unmarked : ¬ HasBareMark (tableHead name ++ rest))
    (noise : ¬ (noiseWord.matchStart name).isSome = true) (call : ¬ ReadsAsCall (tableHead name ++ rest)) :
    ∃ middle out, Cleared (segments rest) middle ∧
      Edits (fun before taken _ => IsStamp before taken) ("CURRENT_TIMESTAMP".toList.map .plain)
        (some (.plain '(')) middle out ∧ Faithful out ∧
      stripNoise (tableHead name ++ rest) = some (tableHead name ++ spelled out) := by
  obtain ⟨head, masked, others, split, masks, own, spelledHead, renders⟩ :=
    masks_tableHead named (renders_mask unmarked)
  obtain ⟨middle, rest', same, rendered, cleared⟩ :=
    clauses_keep_head masks noise (List.Subset.refl _) renders
  have without : (withoutClauses (mask (tableHead name ++ rest))).text = maskedHead masked ++ rest' := by
    rw [withoutClauses, split]
    exact same
  have behind : (maskedHead masked ++ rest').drop (createTable.length + 1) =
      masked ++ ' ' :: '(' :: rest' := by
    simp [maskedHead, createTable]
  -- neither stage changes the head: no clause begins in it, nor does a call
  have apart : timestampCall.matchAt (some ' ') (masked ++ ' ' :: '(' :: rest') = none := by
    rw [ReadsAsCall, without, behind] at call
    exact Option.not_isSome_iff_eq_none.mp call
  have last : (maskedHead masked).getLast? = (some (.plain '(')).map Segment.shown := by
    simp [maskedHead, List.getLast?_append, List.getLast?_cons, Segment.shown]
  obtain ⟨out, called, edits⟩ := edits_replaceFrom keepsMarks_timestampCall beginsPlain_timestampCall
    timestamp_plain rfl last rendered
  have stamps := edits.imp fun _ _ _ => isStamp_of_removes
  refine ⟨middle, out, cleared, stamps,
    stamps.faithful (fun c member => (timestamp_plain c member).2) (cleared.faithful (faithful_segments rest)),
    ?_⟩
  have text : (stripMasked (mask (tableHead name ++ rest))).text = maskedHead masked ++
      timestampCall.replaceFrom "CURRENT_TIMESTAMP".toList 0 (maskedHead masked).getLast? rest' := by
    rw [last]
    exact (congrArg (timestampCall.replaceAll "CURRENT_TIMESTAMP".toList) without).trans
      (call_keeps_head masks apart)
  have result := (own.append called).unmask
  rw [spelled_append, spelledHead] at result
  rw [stripNoise, unmask, text]
  exact result

end DdlSchema.Statement
