import DdlSchema.Proofs.Statement.NoiseElements
import DdlSchema.Proofs.Statement.TableHead

/-! The columns of a statement. A statement with a name that is read as one is cut at the parenthesis that
closes the list behind the name, and what is left still begins with the name and ends with that list. -/

set_option autoImplicit false

namespace DdlSchema.Statement

open DdlSchema.Text DdlSchema.Text.Pattern

/-! The closing parenthesis. -/

/-- One step of the search, if the parenthesis that is looked for is not met. -/
theorem closingFrom_plain {depth position : Nat} {c : Char} (open_ : ¬ (c = ')' ∧ depth = 0))
    (rest : List Segment) :
    closingFrom (depth + 1) position (.plain c :: rest) =
      closingFrom (((Segment.plain c).depthBehind depth : Nat) + 1) (position + 1) rest := by
  by_cases opening : c = '('
  · simp [closingFrom, Segment.depthBehind, opening]
  · by_cases closing : c = ')'
    · obtain ⟨less, rfl⟩ := Nat.exists_eq_succ_of_ne_zero fun none => open_ ⟨closing, none⟩
      have deep : ¬ ((less.succ : Nat) : Int) + 1 = 1 := by omega
      have back : ((less.succ : Nat) : Int) + 1 - 1 = (less : Nat) + 1 := by omega
      rw [closingFrom, if_neg (by simpa using opening), if_pos (by simpa using closing),
        if_neg (by simpa using deep), back]
      simp [Segment.depthBehind, closing]
    · simp [closingFrom, Segment.depthBehind, opening, closing]

theorem closingFrom_of_balanced {depth position : Nat} {list : List Segment}
    (balanced : balancedFrom depth list = true) (rest : List Segment) :
    closingFrom (depth + 1) position (list ++ .plain ')' :: rest) =
      some (position + (spelled list).length) := by
  induction list generalizing depth position with
  | nil =>
    have none : depth = 0 := by simpa [balancedFrom] using balanced
    simp [closingFrom, none, spelled]
  | cons segment list ih =>
    rw [balancedFrom, Bool.and_eq_true] at balanced
    obtain ⟨stays, balanced⟩ := balanced
    have later := @ih _ (position + segment.text.length) balanced
    rw [spelled_cons, List.length_append, ← Nat.add_assoc, ← later]
    cases segment with
    | quoted span => rfl
    | plain c => exact closingFrom_plain (by simpa [Segment.isClosing, imp_iff_not_or] using stays) _

theorem closingFrom_spec {depth position close : Nat} {list : List Segment}
    (closed : closingFrom (depth + 1) position list = some close) :
    ∃ front back, list = front ++ .plain ')' :: back ∧ balancedFrom depth front = true ∧
      close = position + (spelled front).length := by
  induction list generalizing depth position with
  | nil => cases closed
  | cons segment list ih =>
    cases segment with
    | quoted span =>
      obtain ⟨front, back, rfl, balanced, same⟩ := ih closed
      exact ⟨.quoted span :: front, back, rfl, balanced, by
        rw [same, spelled_cons, List.length_append, Segment.text, Nat.add_assoc]⟩
    | plain c =>
      by_cases here : c = ')' ∧ depth = 0
      · obtain ⟨rfl, rfl⟩ := here
        have same : some position = some close := closed
        exact ⟨[], list, rfl, rfl, (Option.some.inj same).symm⟩
      · rw [closingFrom_plain here] at closed
        obtain ⟨front, back, rfl, balanced, same⟩ := ih closed
        refine ⟨.plain c :: front, back, rfl, ?_, ?_⟩
        · rw [balancedFrom, balanced, Bool.and_true]
          simpa [Segment.isClosing, imp_iff_not_or] using here
        · rw [same, spelled_cons, List.length_append, Segment.text, List.length_singleton, Nat.add_assoc]

/-! The head of the statement. -/

theorem canonicalHeader_tableHead (name rest : List Char) :
    ∃ header, createHeader.matchStart (tableHead name ++ rest) = some header ∧
      canonicalHeader (tableHead name ++ rest) header = tableHead name ++ rest := by
  have found : ∀ rest : List Char, createHeader.matchStart (createTable ++ ' ' :: rest) =
      some ⟨createTable.length, []⟩ := fun rest => rfl
  have words : "CREATE TABLE".toList = createTable := by decide
  refine ⟨_, by rw [tableHead_eq, List.append_assoc]; exact found _, ?_⟩
  rw [tableHead_eq, List.append_assoc, canonicalHeader, List.drop_left]
  exact congrArg (· ++ _) words

/-- A word in the name that makes a query of what follows. -/
def queryWord : Pattern := ofList [.edge, letters "AS", .edge]

theorem reaches_queryWord {place : Cursor} :
    (∃ later, Reaches queryWord place later) ↔ ∃ word rest, place.rest = word ++ rest ∧
      List.Forall₂ (fun letter c => sameLetter letter c = true) "AS".toList word ∧
      place.before.any isWordChar = false ∧ rest.head?.any isWordChar = false := by
  have spelled : "AS".toList = 'A' :: ['S'] := rfl
  have inside : ∀ {word : List Char},
      List.Forall₂ (fun letter c => sameLetter letter c = true) "AS".toList word →
      word ≠ [] ∧ ∀ c ∈ word, isWordChar c = true := by
    intro word same
    refine ⟨?_, isWordChar_of_letters (by decide) same⟩
    rintro rfl
    rw [spelled] at same
    cases same
  -- the edges say that no word character stands on either side
  constructor
  · rintro ⟨later, _, ⟨apart, rfl⟩, _, reach, ends, rfl⟩
    obtain ⟨word, spans, same⟩ := reach.letters
    obtain ⟨some_, all⟩ := inside same
    refine ⟨word, later.rest, spans.1, same, ?_, ?_⟩
    · obtain ⟨c, word, rfl⟩ := List.exists_cons_of_ne_nil some_
      rw [spans.1, List.cons_append, List.head?_cons, Option.any_some, all c List.mem_cons_self] at apart
      simpa using apart
    · exact (reach.edge_iff spans some_ all).mp ⟨ends, rfl⟩
  · rintro ⟨word, rest, here, same, before, behind⟩
    obtain ⟨some_, all⟩ := inside same
    have reach := @reaches_letters "AS" place word rest here same
    have ends : Reaches .edge (place.past word) (place.past word) := by
      rw [reach.edge_iff (spans_past ⟨rest, here.symm⟩) some_ all, rest_past here]
      exact behind
    exact ⟨_, place, reaches_edge before spelled (by decide) same here, _, reach, ends⟩

theorem behind_letters {word : String} {place later : Cursor} (reach : Reaches (letters word) place later)
    {front rest : List Char} (here : place.rest = front ++ rest)
    (width : word.toList.length = front.length) : later.rest = rest := by
  obtain ⟨taken, spans, same⟩ := reach.letters
  exact (List.append_inj (spans.1.symm.trans here) (same.length_eq.symm.trans width)).2

theorem not_reaches_letters {word : String} {first second : Char} {letters_ : List Char}
    (spelled : word.toList = first :: second :: letters_) {place later : Cursor} {c d : Char}
    {rest : List Char} (here : place.rest = c :: d :: rest) (other : sameLetter second d = false) :
    ¬ Reaches (letters word) place later := by
  intro reach
  obtain ⟨taken, spans, same⟩ := reach.letters
  rw [spelled] at same
  cases same with
  | cons _ same =>
    cases same with
    | cons same _ =>
      have split := spans.1.symm.trans here
      simp only [List.cons_append, List.cons.injEq] at split
      rw [split.2.1, other] at same
      cases same

theorem behind_gap {place later : Cursor} (reach : Reaches gap place later) {rest : List Char}
    (here : place.rest = ' ' :: rest) (single : rest.head?.any isBlank = false) :
    later.rest = rest ∧ later.before = some ' ' := by
  obtain ⟨taken, ⟨others, split⟩, blank, least, rfl⟩ := reach
  obtain ⟨c, taken, rfl⟩ := List.exists_cons_of_length_pos (Nat.lt_of_succ_le least)
  rw [here] at split
  obtain ⟨rfl, behind⟩ := List.cons.inj split
  cases taken with
  | nil => exact ⟨@rest_past place [' '] rest here, rfl⟩
  | cons d taken =>
    rw [← behind] at single
    exact absurd (blank d (by simp)) (Bool.eq_false_iff.mp single)

def Queries (front word back : List Char) : Prop :=
  List.Forall₂ (fun letter c => sameLetter letter c = true) "AS".toList word ∧
    front.getLast?.any isWordChar = false ∧ back.head?.any isWordChar = false

theorem search_queryWord {text : List Char} :
    (queryWord.search text).isSome = true ↔
      ∃ front word back, text = front ++ (word ++ back) ∧ Queries front word back := by
  simp only [search_isSome_iff, matchAt_isSome_iff (show queryWord.repeatsNone = true by decide),
    reaches_queryWord]
  constructor
  · rintro ⟨front, _, rfl, word, back, rfl, same, before, behind⟩
    exact ⟨front, word, back, rfl, same, before, behind⟩
  · rintro ⟨front, word, back, rfl, same, before, behind⟩
    exact ⟨front, word ++ back, rfl, word, back, rfl, same, before, behind⟩

/-- A query is looked for up to the first parenthesis behind the words in front of the name. -/
theorem createFromQuery_head {rest : List Char} (single : rest.head?.any isBlank = false) :
    (createFromQuery.matchStart (createTable ++ ' ' :: rest)).isSome = true ↔
      ∃ front word back, rest = front ++ (word ++ back) ∧ '(' ∉ front ∧ Queries front word back := by
  have space : ∀ front : List Char,
      (front.getLast?.or (some ' ')).any isWordChar = front.getLast?.any isWordChar := by
    intro front
    cases front.getLast? with
    | none => decide
    | some c => rfl
  rw [matchStart, matchAt_isSome_iff (by decide)]
  constructor
  · rintro ⟨later, created, first, spaced, gapped, chosen, temporary, named, table, behind, blank,
      place, ⟨front, ⟨back, split⟩, closed, -, rfl⟩, reach⟩
    have first := @behind_letters _ _ _ first ['C', 'R', 'E', 'A', 'T', 'E']
      (' ' :: 'T' :: 'A' :: 'B' :: 'L' :: 'E' :: ' ' :: rest) rfl rfl
    obtain ⟨gapped, -⟩ := behind_gap gapped first (by decide : isBlank 'T' = false)
    -- the word behind the gap is not another one
    have table_ : chosen.rest = ['T', 'A', 'B', 'L', 'E'] ++ ' ' :: rest := by
      rcases temporary with ⟨_, found, -⟩ | rfl
      · exact absurd found (not_reaches_letters rfl gapped (by decide : sameLetter 'E' 'A' = false))
      · exact gapped
    obtain ⟨here, before⟩ := behind_gap blank (behind_letters table table_ rfl) single
    obtain ⟨word, others, there, same, apart, ends⟩ := reaches_queryWord.mp ⟨later, reach⟩
    rw [rest_past split.symm] at there
    have front_ : (front.getLast?.or (some ' ')).any isWordChar = false := by rwa [← before]
    refine ⟨front, word, others, ?_, fun member => absurd (closed _ member) (by decide), same, ?_, ends⟩
    · rw [← here, ← there, split]
    · rwa [space] at front_
  · rintro ⟨front, word, back, rfl, closed, same, before, behind⟩
    generalize split : front ++ (word ++ back) = rest
    let start : Cursor := ⟨none, createTable ++ ' ' :: rest, 0, []⟩
    let created := start.past ['C', 'R', 'E', 'A', 'T', 'E']
    let spaced := created.past [' ']
    let table := spaced.past ['T', 'A', 'B', 'L', 'E']
    let behind_ := table.past [' ']
    have query : ∃ later, Reaches queryWord (behind_.past front) later := by
      refine reaches_queryWord.mpr ⟨word, back, rest_past split.symm, same, ?_, behind⟩
      exact (space front).trans before
    obtain ⟨later, reach⟩ := query
    have blank : ∀ c ∈ [' '], isBlank c = true := List.all_iff_forall_prop.mp (by decide)
    refine ⟨later, created, @reaches_letters "CREATE" start _ _ rfl (by decide), spaced,
      @reaches_run _ 1 created [' '] _ rfl blank (by decide), spaced, .inr rfl, table,
      @reaches_letters "TABLE" spaced _ _ rfl (by decide), behind_,
      @reaches_run _ 1 table [' '] _ rfl blank (by decide), behind_.past front,
      @reaches_run _ 0 behind_ front (word ++ back) split.symm ?_ (Nat.zero_le _), reach⟩
    intro c member
    exact bne_iff_ne.mpr fun same => closed (same ▸ member)

theorem IsTableName.head {name : List Char} (named : IsTableName name) (rest : List Char) :
    (name ++ rest).head?.any isBlank = false := by
  cases named with
  | bare some_ word =>
    obtain ⟨c, others, rfl⟩ := List.exists_cons_of_ne_nil some_
    exact not_isBlank_of_isWordChar (word c List.mem_cons_self)
  | quoted kind =>
    rcases kind with rfl | rfl
    · exact (by decide : isBlank '\x22' = false)
    · exact (by decide : isBlank '\x60' = false)

theorem createFromQuery_iff {name : List Char} (named : IsTableName name) (open_ : '(' ∉ name)
    (rest : List Char) :
    (createFromQuery.matchStart (tableHead name ++ rest)).isSome = true ↔
      (queryWord.search name).isSome = true := by
  have whole : tableHead name ++ rest = createTable ++ ' ' :: (name ++ ' ' :: '(' :: rest) := by
    simp [tableHead_eq]
  rw [whole, createFromQuery_head (named.head _), search_queryWord]
  have edge : ∀ back : List Char,
      (back ++ ' ' :: '(' :: rest).head?.any isWordChar = back.head?.any isWordChar := by
    intro back
    cases back with
    | nil => exact (by decide : isWordChar ' ' = false)
    | cons c back => rfl
  constructor
  · rintro ⟨front, word, back, split, closed, same, before, behind⟩
    have letters := isWordChar_of_letters (by decide) same
    have some_ : word ≠ [] := by
      rintro rfl
      exact absurd same.length_eq (by decide)
    have split : name ++ ' ' :: '(' :: rest = (front ++ word) ++ back := by
      rw [split, List.append_assoc]
    rcases List.append_eq_append_iff.mp split with ⟨excess, taken, here⟩ | ⟨left, rfl, rfl⟩
    · -- the word does not go past the name
      cases excess with
      | nil => exact ⟨front, word, [], by simpa using taken.symm, same, before, rfl⟩
      | cons d excess =>
        obtain ⟨rfl, next⟩ := List.cons.inj here
        cases excess with
        | nil =>
          have last := congrArg List.getLast? taken
          rw [List.getLast?_append_of_ne_nil _ some_, List.getLast?_concat] at last
          exact absurd (letters _ (List.mem_of_getLast? last)) (by decide)
        | cons e excess =>
          obtain ⟨rfl, -⟩ := List.cons.inj next
          have member : '(' ∈ front ++ word := by rw [taken]; simp
          rcases List.mem_append.mp member with inside | inside
          · exact absurd inside closed
          · exact absurd (letters _ inside) (by decide)
    · exact ⟨front, word, left, List.append_assoc _ _ _, same, before, by rwa [edge] at behind⟩
  · rintro ⟨front, word, back, rfl, same, before, behind⟩
    refine ⟨front, word, back ++ ' ' :: '(' :: rest, by simp, ?_, same, before, by rwa [edge]⟩
    exact fun member => open_ (List.mem_append_left _ member)

/-! Cutting the statement. -/

def Sanitized.text? : Sanitized → Option (List Char)
  | .withoutColumns _ => none
  | .statement text => some text

theorem sanitize_tableHead (name rest : List Char) :
    sanitize (tableHead name ++ rest) =
      (sanitizeCanonical (tableHead name ++ rest)).map Sanitized.text? := by
  obtain ⟨header, found, same⟩ := canonicalHeader_tableHead name rest
  rw [sanitize, found]
  exact congrArg (fun statement => (sanitizeCanonical statement).map Sanitized.text?) same

theorem sanitizeCanonical_of_cut {statement columns tail : List Char}
    (cut : cutColumns? statement = some (columns, tail)) {body : List Char} {options : List (List Char)}
    (stripped : stripNoise columns = some body) (kept : keptOptions tail = some options) :
    sanitizeCanonical statement =
      some (.statement ([' '].intercalate (body :: options) ++ [';'])) := by
  unfold cutColumns? at cut
  unfold sanitizeCanonical
  dsimp only at cut ⊢
  split at cut
  · cases cut
  · next open_ =>
    rw [if_neg open_]
    cases closed : closingParen? statement (statement.takeWhile (· != '(')).length with
    | none =>
      rw [closed] at cut
      cases cut
      cases keptOptions_nil.symm.trans kept
      simp [stripped]
    | some close =>
      rw [closed] at cut
      cases cut
      simp [stripped, kept]

section

variable {front rest : List Char}

theorem takeWhile_first (open_ : '(' ∉ front) (rest : List Char) :
    (front ++ '(' :: rest).takeWhile (· != '(') = front := by
  rw [List.takeWhile_append_of_pos, List.takeWhile_cons_of_neg (by decide), List.append_nil]
  intro c member
  rw [bne_iff_ne]
  rintro rfl
  exact open_ member

theorem cutColumns?_first (open_ : '(' ∉ front)
    (query : ¬ (createFromQuery.matchStart (front ++ '(' :: rest)).isSome = true) :
    cutColumns? (front ++ '(' :: rest) =
      some (match closingFrom 1 (front.length + 1) (segments rest) with
        | none => (front ++ '(' :: rest, [])
        | some close =>
          ((front ++ '(' :: rest).take (close + 1), (front ++ '(' :: rest).drop (close + 1))) := by
  have first : closingFrom 0 front.length (segments ('(' :: rest)) =
      closingFrom 1 (front.length + 1) (segments rest) := by
    rw [segments, if_neg (by decide)]
    rfl
  unfold cutColumns?
  dsimp only
  rw [takeWhile_first open_, if_neg, closingParen?, List.drop_left, first]
  · cases closingFrom 1 (front.length + 1) (segments rest) <;> rfl
  · rw [Bool.or_eq_true, not_or, decide_eq_true_iff, List.length_append, List.length_cons]
    exact ⟨by omega, query⟩

theorem cutColumns?_first_closed (open_ : '(' ∉ front)
    (query : ¬ (createFromQuery.matchStart (front ++ '(' :: rest)).isSome = true)
    {list back : List Segment} (split : segments rest = list ++ .plain ')' :: back)
    (balanced : balancedFrom 0 list = true) :
    cutColumns? (front ++ '(' :: rest) = some (front ++ '(' :: (spelled list ++ [')']), spelled back) := by
  have text : front ++ '(' :: rest = (front ++ '(' :: (spelled list ++ [')'])) ++ spelled back := by
    have whole := spelled_segments rest
    rw [split, spelled_append, spelled_cons] at whole
    rw [← whole]
    simp [Segment.text]
  have close : closingFrom 1 (front.length + 1) (list ++ .plain ')' :: back) =
      some (front.length + 1 + (spelled list).length) := closingFrom_of_balanced balanced back
  have width : front.length + 1 + (spelled list).length + 1 =
      (front ++ '(' :: (spelled list ++ [')'])).length := by
    simp only [List.length_append, List.length_cons, List.length_nil]
    omega
  rw [cutColumns?_first open_ query, split, close]
  dsimp only
  rw [width, text, List.take_left, List.drop_left]

end

section

variable {name rest : List Char}

theorem tableHead_first (open_ : '(' ∉ name) :
    ∃ front, '(' ∉ front ∧ tableHead name = front ++ ['('] := by
  refine ⟨createTable ++ ' ' :: (name ++ [' ']), ?_, by simp [tableHead_eq]⟩
  simp only [List.mem_append, List.mem_cons, List.not_mem_nil, or_false, not_or]
  exact ⟨by decide, by decide, open_, by decide⟩

theorem cutColumns?_tableHead (open_ : '(' ∉ name)
    (query : ¬ (createFromQuery.matchStart (tableHead name ++ rest)).isSome = true) :
    cutColumns? (tableHead name ++ rest) =
      some (match closingFrom 1 (tableHead name).length (segments rest) with
        | none => (tableHead name ++ rest, [])
        | some close =>
          ((tableHead name ++ rest).take (close + 1), (tableHead name ++ rest).drop (close + 1))) := by
  obtain ⟨front, first, head⟩ := tableHead_first open_
  have whole : tableHead name ++ rest = front ++ '(' :: rest := by simp [head]
  have width : (tableHead name).length = front.length + 1 := by simp [head]
  rw [whole] at query ⊢
  rw [width, cutColumns?_first first query]

theorem cutColumns?_closed (open_ : '(' ∉ name)
    (query : ¬ (createFromQuery.matchStart (tableHead name ++ rest)).isSome = true)
    {front back : List Segment} (split : segments rest = front ++ .plain ')' :: back)
    (balanced : balancedFrom 0 front = true) :
    cutColumns? (tableHead name ++ rest) =
      some (tableHead name ++ (spelled front ++ [')']), spelled back) := by
  obtain ⟨words, first, head⟩ := tableHead_first open_
  have whole : ∀ rest, tableHead name ++ rest = words ++ '(' :: rest := by simp [head]
  rw [whole] at query ⊢
  rw [whole, cutColumns?_first_closed first query split balanced]

theorem cutColumns?_cases (open_ : '(' ∉ name)
    (query : ¬ (createFromQuery.matchStart (tableHead name ++ rest)).isSome = true) :
    cutColumns? (tableHead name ++ rest) = some (tableHead name ++ rest, []) ∨
      ∃ front back, segments rest = front ++ .plain ')' :: back ∧ balancedFrom 0 front = true ∧
        cutColumns? (tableHead name ++ rest) =
          some (tableHead name ++ (spelled front ++ [')']), spelled back) := by
  cases closed : closingFrom 1 (tableHead name).length (segments rest) with
  | none =>
    left
    rw [cutColumns?_tableHead open_ query, closed]
  | some close =>
    right
    have found : closingFrom ((0 : Nat) + 1) (tableHead name).length (segments rest) = some close := closed
    obtain ⟨front, back, split, balanced, -⟩ := closingFrom_spec found
    exact ⟨front, back, split, balanced, cutColumns?_closed open_ query split balanced⟩

end

/-! Marks. -/

theorem keptOptions_ne_none {tail : List Char} (unmarked : ¬ HasBareMark tail) :
    ∃ options, keptOptions tail = some options := by
  refine Option.ne_none_iff_exists'.mp fun none => ?_
  obtain ⟨part, member, unread⟩ := (keptOptions_eq_none tail).mp none
  have part_ : part ∈ maskedParts [] tail := List.mem_cons_of_mem _ member
  rcases bareMark_of_maskedParts part_ unread with bare | bare
  · rw [HasBareMark, segments] at bare
    cases bare
  · exact unmarked bare

theorem unmarked_spelled {list : List Segment} (faithful : Faithful list)
    (unmarked : .plain '\x00' ∉ list) : ¬ HasBareMark (spelled list) :=
  fun bare => unmarked ((joins_segments faithful).mem_plain bare)

theorem unmarked_tableHead {name rest : List Char} (named : IsTableName name)
    (unmarked : ¬ HasBareMark rest) : ¬ HasBareMark (tableHead name ++ rest) := by
  obtain ⟨own, split, kind⟩ := segments_tableHead named rest
  intro bare
  rw [HasBareMark, split, List.mem_append] at bare
  refine bare.elim (fun head => ?_) unmarked
  have inside : Segment.plain '\x00' ∈ own := by
    simpa [createTable] using head
  rcases kind with ⟨rfl, -, word⟩ | rfl
  · obtain ⟨c, member, same⟩ := List.mem_map.mp inside
    cases same
    exact absurd (word _ member) (by decide)
  · simp at inside

/-! The columns. -/

theorem edits_listed {removes : Option Segment → List Segment → Prop} {written : List Segment}
    (level : ∀ before taken, removes before taken → levelBehind? 0 taken = some 0)
    (levelWritten : levelBehind? 0 written = some 0) {before : Option Segment} {list out : List Segment}
    (balanced : balancedFrom 0 list = true)
    (edits : Edits (fun before taken _ => removes before taken) written before
      (list ++ [.plain ')']) out) :
    ∃ inner, out = inner ++ [.plain ')'] ∧ balancedFrom 0 inner = true ∧
      (elementsFrom 0 inner).length = (elementsFrom 0 list).length := by
  obtain ⟨inner, rfl, stays, own⟩ := edits.closed level levelWritten balanced
  obtain ⟨first, others, first', others', here, there, -, all⟩ := own.elements level levelWritten 0
  refine ⟨inner, rfl, stays, ?_⟩
  rw [here, there, List.length_cons, List.length_cons, all.length_eq]

theorem Cleared.listed {list out : List Segment} (balanced : balancedFrom 0 list = true)
    (cleared : Cleared (list ++ [.plain ')']) out) :
    ∃ inner, out = inner ++ [.plain ')'] ∧ balancedFrom 0 inner = true ∧
      (elementsFrom 0 inner).length = (elementsFrom 0 list).length := by
  induction cleared with
  | refl => exact ⟨list, rfl, balanced, rfl⟩
  | tail _ edits ih =>
    obtain ⟨middle, rfl, stays, count⟩ := ih
    obtain ⟨inner, rfl, stays', count'⟩ := edits_listed (fun _ _ noise => noise.level) rfl stays edits
    exact ⟨inner, rfl, stays', count'.trans count⟩

theorem strip_columns {name body : List Char} (named : IsTableName name) (balanced : IsBalanced body)
    (closes : Closes body) (unmarked : ¬ HasBareMark (tableHead name ++ (body ++ [')'])))
    (noise : ¬ (noiseWord.matchStart name).isSome = true)
    (call : ¬ ReadsAsCall (tableHead name ++ (body ++ [')']))) :
    ∃ inner, stripNoise (tableHead name ++ (body ++ [')'])) = some (tableHead name ++ (inner ++ [')'])) ∧
      Closes inner ∧ IsBalanced inner ∧ (elements inner).length = (elements body).length := by
  obtain ⟨middle, out, cleared, stamps, faithful, stripped⟩ := strip_tableHead named unmarked noise call
  rw [closes] at cleared
  obtain ⟨list, rfl, level, count⟩ := cleared.listed balanced
  obtain ⟨inner, rfl, levelOut, countOut⟩ :=
    edits_listed (fun _ _ stamp => stamp.level) (by decide) level stamps
  have own := joins_segments faithful.front
  refine ⟨spelled inner, ?_, segments_append_plain faithful, ?_, ?_⟩
  · rw [stripped, spelled_append]
    rfl
  · rw [IsBalanced, own.balancedFrom, levelOut]
  · have same := congrArg List.length (own.elements 0)
    rw [List.length_map, List.length_map] at same
    exact same.trans (countOut.trans count)

/-- The name, or the name with what stands behind it, is taken for noise or for a call. -/
def NameIsNoise (name rest : List Char) : Prop :=
  (noiseWord.matchStart name).isSome = true ∨
    ∃ columns tail, cutColumns? (tableHead name ++ rest) = some (columns, tail) ∧ ReadsAsCall columns

/-- A statement whose head is read as a head keeps it and is cut nowhere in front of its columns. -/
theorem sanitize_keeps_head {name rest : List Char} (named : IsTableName name) (open_ : '(' ∉ name)
    (query : ¬ (createFromQuery.matchStart (tableHead name ++ rest)).isSome = true)
    (unmarked : ¬ HasBareMark rest) (noise : ¬ NameIsNoise name rest) :
    ∃ columns tail out options, cutColumns? (tableHead name ++ rest) = some (columns, tail) ∧
      stripNoise columns = some (tableHead name ++ out) ∧ keptOptions tail = some options ∧
      sanitize (tableHead name ++ rest) =
        some (some ([' '].intercalate ((tableHead name ++ out) :: options) ++ [';'])) := by
  rw [NameIsNoise, not_or] at noise
  obtain ⟨noise, call⟩ := noise
  -- the statement is cut into two parts that hold no mark either
  obtain ⟨inner, tail, cut, bareInner, bareTail⟩ : ∃ inner tail,
      cutColumns? (tableHead name ++ rest) = some (tableHead name ++ inner, tail) ∧
        ¬ HasBareMark inner ∧ ¬ HasBareMark tail := by
    rcases cutColumns?_cases open_ query with cut | ⟨front, back, split, -, cut⟩
    · refine ⟨rest, [], cut, unmarked, ?_⟩
      rw [HasBareMark, segments]
      exact List.not_mem_nil
    · have faithful := faithful_segments rest
      have whole : segments rest = (front ++ [.plain ')']) ++ back := by simp [split]
      have bare : Segment.plain '\x00' ∉ (front ++ [.plain ')']) ++ back := by rwa [← whole]
      rw [List.mem_append, not_or] at bare
      rw [whole] at faithful
      have text : spelled front ++ [')'] = spelled (front ++ [.plain ')']) := by
        rw [spelled_append]
        rfl
      refine ⟨_, _, cut, ?_, unmarked_spelled faithful.of_append bare.2⟩
      rw [text]
      exact unmarked_spelled faithful.front bare.1
  obtain ⟨options, kept⟩ := keptOptions_ne_none bareTail
  obtain ⟨_, out, -, -, -, stripped⟩ := strip_tableHead named (unmarked_tableHead named bareInner) noise
    fun reads => call ⟨_, _, cut, reads⟩
  refine ⟨_, _, _, _, cut, stripped, kept, ?_⟩
  rw [sanitize_tableHead, sanitizeCanonical_of_cut cut stripped kept]
  rfl

theorem prefix_intercalate (first : List Char) (others : List (List Char)) :
    first <+: [' '].intercalate (first :: others) ++ [';'] := by
  cases others with
  | nil => simp
  | cons second others => simp [List.intercalate_cons_cons]

/-- A statement is taken for one without columns if its columns cannot be cut out. -/
theorem sanitize_withoutColumns {name rest : List Char} :
    sanitize (tableHead name ++ rest) = some none ↔ cutColumns? (tableHead name ++ rest) = none := by
  rw [sanitize_tableHead]
  generalize tableHead name ++ rest = statement
  unfold sanitizeCanonical cutColumns?
  dsimp only
  split
  · simp [Sanitized.text?]
  · cases closingParen? statement (statement.takeWhile (· != '(')).length with
    | none => cases stripNoise statement <;> simp [Sanitized.text?]
    | some close =>
      cases options : keptOptions (statement.drop (close + 1)) <;>
        cases body : stripNoise (statement.take (close + 1)) <;> simp [options, body, Sanitized.text?]

theorem cutColumns?_eq_none {name rest : List Char} (named : IsTableName name) (open_ : '(' ∉ name) :
    cutColumns? (tableHead name ++ rest) = none ↔ (queryWord.search name).isSome = true := by
  rw [← createFromQuery_iff named open_ rest]
  constructor
  · intro none
    refine Classical.byContradiction fun query => ?_
    rw [cutColumns?_tableHead open_ query] at none
    cases none
  · intro query
    simp [cutColumns?, query]

/-- A statement whose name is read as a name keeps the name and the columns up to the parenthesis that
closes them, and only a word in the name makes a query of it. -/
theorem columns_kept (name body tail : List Char) (named : IsTableName name) (open_ : '(' ∉ name)
    (balanced : IsBalanced body) (unmarked : ¬ HasBareMark (body ++ ')' :: tail)) :
    (sanitize (tableHead name ++ (body ++ ')' :: tail)) = some none ↔
      (queryWord.search name).isSome = true) ∧
    (¬ (queryWord.search name).isSome = true → ¬ NameIsNoise name (body ++ ')' :: tail) →
      ∃ result, sanitize (tableHead name ++ (body ++ ')' :: tail)) = some (some result) ∧
        tableHead name <+: result ∧
        (Closes body → ∃ inner options,
          result = [' '].intercalate ((tableHead name ++ (inner ++ [')'])) :: options) ++ [';'] ∧
          stripNoise (tableHead name ++ (body ++ [')'])) = some (tableHead name ++ (inner ++ [')'])) ∧
          keptOptions tail = some options ∧ Closes inner ∧ IsBalanced inner ∧
          (elements inner).length = (elements body).length)) := by
  refine ⟨sanitize_withoutColumns.trans (cutColumns?_eq_none named open_), fun query noise => ?_⟩
  rw [← createFromQuery_iff named open_ (body ++ ')' :: tail)] at query
  obtain ⟨columns, others, out, options, cut, stripped, kept, same⟩ :=
    sanitize_keeps_head named open_ query unmarked noise
  refine ⟨_, same, (List.prefix_append _ _).trans (prefix_intercalate _ _), fun closes => ?_⟩
  have faithful := faithful_segments (body ++ [')'])
  rw [closes] at faithful
  have split := segments_append_cons faithful tail
  rw [spelled_segments] at split
  have own := cutColumns?_closed open_ query split balanced
  rw [spelled_segments, spelled_segments, cut] at own
  cases own
  rw [NameIsNoise, not_or] at noise
  have bare : ¬ HasBareMark (body ++ [')']) := by
    rw [HasBareMark, split] at unmarked
    rw [HasBareMark, closes]
    simpa using fun member => unmarked (List.mem_append_left _ member)
  obtain ⟨inner, stripped', closes', balanced', count⟩ := strip_columns named balanced closes
    (unmarked_tableHead named bare) noise.1 fun reads => noise.2 ⟨_, _, cut, reads⟩
  have text : out = inner ++ [')'] := by
    rw [stripped'] at stripped
    exact (List.append_cancel_left (Option.some.inj stripped)).symm
  subst text
  exact ⟨inner, options, rfl, stripped', kept, closes', balanced', count⟩

theorem columns_kept_quoted :
    IsTableName "\"as_it_was, then\"".toList ∧ IsBalanced "id INT, n INT COMMENT 'a)'".toList ∧
    sanitize (tableHead "\"as_it_was, then\"".toList ++
      ("id INT, n INT COMMENT 'a)'".toList ++ ')' :: " ENGINE=InnoDB".toList)) ≠ some none ∧
    ∃ result, sanitize (tableHead "\"as_it_was, then\"".toList ++
      ("id INT, n INT COMMENT 'a)'".toList ++ ')' :: " ENGINE=InnoDB".toList)) = some (some result) ∧
      tableHead "\"as_it_was, then\"".toList <+: result := by
  have named : IsTableName "\"as_it_was, then\"".toList :=
    @IsTableName.quoted '\x22' "as_it_was, then".toList (.inl rfl) (by decide) (by decide)
  have balanced : IsBalanced "id INT, n INT COMMENT 'a)'".toList := by decide +kernel
  have unmarked : ¬ HasBareMark ("id INT, n INT COMMENT 'a)'".toList ++ ')' :: " ENGINE=InnoDB".toList) :=
    fun bare => absurd (mem_of_plain bare) (by decide)
  have query : ¬ (queryWord.search "\"as_it_was, then\"".toList).isSome = true := by decide +kernel
  have noise : ¬ NameIsNoise "\"as_it_was, then\"".toList
      ("id INT, n INT COMMENT 'a)'".toList ++ ')' :: " ENGINE=InnoDB".toList) := by
    have cut : cutColumns? (tableHead "\"as_it_was, then\"".toList ++
        ("id INT, n INT COMMENT 'a)'".toList ++ ')' :: " ENGINE=InnoDB".toList)) =
          some ("CREATE TABLE \"as_it_was, then\" (id INT, n INT COMMENT 'a)')".toList,
            " ENGINE=InnoDB".toList) := by
      decide +kernel
    rintro (own | ⟨columns, tail, cut', call⟩)
    · exact absurd own (by decide +kernel)
    · rw [cut] at cut'
      cases cut'
      rw [ReadsAsCall] at call
      exact absurd call (by decide +kernel)
  obtain ⟨withoutColumns, kept⟩ := columns_kept _ _ _ named (by decide) balanced unmarked
  obtain ⟨result, same, start, -⟩ := kept query noise
  exact ⟨named, balanced, fun none => query (withoutColumns.mp none), result, same, start⟩

/-- A word in a quoted name makes a query of the columns, a parenthesis in one is taken for theirs, and a
bare name can be taken for noise. -/
theorem name_can_hide_columns :
    (¬ ∀ name body tail : List Char, IsTableName name → IsBalanced body →
      ¬ HasBareMark (body ++ ')' :: tail) → sanitize (tableHead name ++ (body ++ ')' :: tail)) ≠ some none) ∧
    (¬ ∀ name body tail result : List Char, IsTableName name → IsBalanced body →
      ¬ HasBareMark (body ++ ')' :: tail) →
        sanitize (tableHead name ++ (body ++ ')' :: tail)) = some (some result) →
          tableHead name <+: result) ∧
    ¬ ∀ name body tail result : List Char, IsTableName name → '(' ∉ name → IsBalanced body →
      ¬ HasBareMark (body ++ ')' :: tail) →
        sanitize (tableHead name ++ (body ++ ')' :: tail)) = some (some result) →
          tableHead name <+: result := by
  have balanced : IsBalanced "id INT".toList := by decide +kernel
  have unmarked : ¬ HasBareMark ("id INT".toList ++ ')' :: []) :=
    fun bare => absurd (mem_of_plain bare) (by decide)
  refine ⟨fun always => ?_, fun always => ?_, fun always => ?_⟩
  · have named : IsTableName "\"sold as is\"".toList :=
      @IsTableName.quoted '\x22' "sold as is".toList (.inl rfl) (by decide) (by decide)
    have own : sanitize (tableHead "\"sold as is\"".toList ++ ("id INT".toList ++ ')' :: [])) = some none := by
      decide +kernel
    exact always _ _ _ named balanced unmarked own
  · have named : IsTableName "\"a(b)\"".toList :=
      @IsTableName.quoted '\x22' "a(b)".toList (.inl rfl) (by decide) (by decide)
    have own : sanitize (tableHead "\"a(b)\"".toList ++ ("id INT".toList ++ ')' :: [])) =
        some (some "CREATE TABLE \"a(b);".toList) := by
      decide +kernel
    exact absurd (always _ _ _ _ named balanced unmarked own) (by decide)
  · have named : IsTableName "unsigned".toList :=
      .bare (by decide) (List.all_iff_forall_prop.mp (by decide))
    have own : sanitize (tableHead "unsigned".toList ++ ("id INT".toList ++ ')' :: [])) =
        some (some "CREATE TABLE (id INT);".toList) := by
      decide +kernel
    exact absurd (always _ _ _ _ named (by decide) balanced unmarked own) (by decide)

end DdlSchema.Statement
