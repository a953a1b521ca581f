import DdlSchema.Proofs.Statement.Splitting
import DdlSchema.Proofs.Text.MarkKeeping
import DdlSchema.Schema.Parse

/-! When statements cannot be prepared. A script can hold the mark that placeholders are written with,
and then a number may stand for no literal; nothing else goes wrong. -/

set_option autoImplicit false

namespace DdlSchema.Statement

open DdlSchema.Text DdlSchema.Text.Pattern

/-! The patterns for noise and table options take placeholders as a whole. -/

theorem keepsMarks_maskedLiteral : KeepsMarks maskedLiteral := by
  intro bound place later reach marked
  obtain ⟨opened, ⟨first, rest, here, mark, rfl⟩, reach⟩ := reaches_ofList_cons.mp reach
  obtain ⟨numbered, ⟨digits, ⟨after, split⟩, decimal, least, rfl⟩, reach⟩ :=
    reaches_ofList_cons.mp reach
  obtain ⟨last, others, there, closing, rfl⟩ := reach
  have opens : first = '\x00' := beq_iff_eq.mp mark
  have closes : last = '\x00' := beq_iff_eq.mp closing
  have split : digits ++ after = rest := split
  subst split
  have behind : after = '\x00' :: others := by
    simpa [Cursor.past, closes] using there
  subst behind
  -- the digits that are taken are all the digits of the placeholder
  have nonempty : digits ≠ [] := List.ne_nil_of_length_pos (Nat.lt_of_succ_le least)
  have own := placeholderTail_digits nonempty decimal others
  rw [here, opens] at marked
  obtain ⟨known, left, tail, whole, ended⟩ := marked.of_mark
  rw [own] at tail
  cases tail
  refine ⟨markOf digits, ⟨?_, ?_⟩, whole, ended⟩
  · simp [here, opens, markOf]
  · simp only [Cursor.past, markOf, List.length_append, List.length_cons, List.length_nil]
    omega

theorem keepsMarks_parenthesized (inner : Pattern) : KeepsMarks (parenthesized inner) := by
  intro bound place later reach marked
  obtain ⟨opened, ⟨first, rest, here, -, rfl⟩, reach⟩ := reaches_ofList_cons.mp reach
  obtain ⟨closed, reach, last⟩ := reaches_ofList_cons.mp reach
  -- what stands in between may be cut anywhere, but no placeholder holds a parenthesis
  obtain ⟨taken, spans⟩ := reach.spans
  obtain ⟨last, others, there, closing, rfl⟩ := last
  have closes : last = ')' := beq_iff_eq.mp closing
  have open_ : Spans place ⟨some first, rest, place.consumed + 1, place.captured⟩ [first] := by
    simp [Spans, here]
  have close : Spans closed ⟨some last, others, closed.consumed + 1, closed.captured⟩ [last] := by
    simp [Spans, there]
  exact between_of_last ((open_.trans spans).trans close) (by rw [closes]; decide) marked

theorem afterClause_seq {body : Pattern} (keeps : KeepsMarks body) :
    KeepsMarks (.seq afterClause body) ∧ BeginsPlain (.seq afterClause body) := by
  have after : KeepsMarks afterClause := keepsMarks_of_spares (by decide)
  exact ⟨after.seq keeps, (beginsPlain_gap.after _).seq body⟩

theorem keepsMarks_noiseClauses {clause : Pattern} (member : clause ∈ noiseClauses) :
    KeepsMarks clause ∧ BeginsPlain clause := by
  obtain ⟨body, inside, rfl⟩ := List.mem_map.mp member
  refine afterClause_seq ?_
  simp only [List.mem_cons, List.not_mem_nil, or_false] at inside
  have words : KeepsMarks wordChars := keepsMarks_of_spares (by decide)
  have space : KeepsMarks gap := keepsMarks_of_spares (by decide)
  -- marks are taken by literals and by the expression of a generated column only
  have literal : KeepsMarks (ofList [maskedLiteral]) := keepsMarks_maskedLiteral
  have nested : KeepsMarks shallowExpression := keepsMarks_parenthesized _
  rcases inside with rfl | rfl | rfl | rfl | rfl | rfl | rfl
  · exact keepsMarks_of_spares (by decide)
  · exact keepsMarks_of_spares (by decide)
  · have collation : KeepsMarks (ofList [.either wordChars maskedLiteral]) :=
      words.either keepsMarks_maskedLiteral
    exact (keepsMarks_of_spares (by decide)).cons (space.cons collation)
  · exact (keepsMarks_of_spares (by decide)).cons (space.cons literal)
  · exact keepsMarks_of_spares (by decide)
  · exact keepsMarks_of_spares (by decide)
  · exact (keepsMarks_of_spares (by decide)).cons ((keepsMarks_of_spares (by decide)).cons
      (nested.cons (keepsMarks_of_spares (by decide))))

theorem keepsMarks_timestampCall : KeepsMarks timestampCall := keepsMarks_of_spares (by decide)

theorem beginsPlain_timestampCall : BeginsPlain timestampCall :=
  ((beginsPlain_letters rfl (by decide)).seq _).edge

theorem marked_stripMasked {bound : Nat} {masked : Masked} (marked : Marked bound masked.text) :
    Marked bound (stripMasked masked).text := by
  have stripped : Marked bound
      (noiseClauses.foldl (fun text clause => clause.replaceAll [] text) masked.text) :=
    List.foldlRecOn noiseClauses _ marked fun text marked clause member =>
      have ⟨keeps, begins⟩ := keepsMarks_noiseClauses member
      marked_replaceAll keeps begins .nil marked
  have bare : '\x00' ∉ "CURRENT_TIMESTAMP".toList := by decide
  exact marked_replaceAll keepsMarks_timestampCall beginsPlain_timestampCall
    (.of_plain fun c member same => bare (same ▸ member)) stripped

theorem keepsMarks_tableOptions {option : Pattern} (member : option ∈ tableOptions) :
    KeepsMarks option ∧ BeginsPlain option := by
  simp only [tableOptions, List.mem_cons, List.not_mem_nil, or_false] at member
  rcases member with rfl | rfl | rfl
  · exact ⟨keepsMarks_of_spares (by decide), ((beginsPlain_letters rfl (by decide)).seq _).edge⟩
  · exact ⟨keepsMarks_of_spares (by decide),
      (((beginsPlain_letters rfl (by decide)).seq _).optional
        ((beginsPlain_letters rfl (by decide)).seq _)).edge⟩
  · have literal : KeepsMarks (ofList [maskedLiteral]) := keepsMarks_maskedLiteral
    have comment : KeepsMarks (ofList [.edge, letters "COMMENT", equalsSign, maskedLiteral]) :=
      (keepsMarks_of_spares (by decide)).cons ((keepsMarks_of_spares (by decide)).cons
        ((keepsMarks_of_spares (by decide)).cons literal))
    exact ⟨comment, ((beginsPlain_letters rfl (by decide)).seq _).edge⟩

/-! The masked parts of a statement. -/

/-- A table option with what it was found in. -/
def keptPart? (tail : Masked) (option : Pattern) : Option Masked :=
  (option.search tail.text).map fun (found, text) => { tail with text := text.take found.length }

/-- All that is unmasked for a statement with these columns and what stands behind them. -/
def maskedParts (body tail : List Char) : List Masked :=
  stripMasked (mask body) :: tableOptions.filterMap (keptPart? (mask tail))

/-- The columns of a statement with a canonical header and what stands behind them. -/
def cutColumns? (statement : List Char) : Option (List Char × List Char) :=
  let openPosition := (statement.takeWhile (· != '(')).length
  if openPosition = statement.length || (createFromQuery.matchStart statement).isSome then none
  else match closingParen? statement openPosition with
    | none => some (statement, [])
    | some close => some (statement.take (close + 1), statement.drop (close + 1))

/-- The parts of a statement that is sanitized. -/
def sanitizedParts? (statement : List Char) : Option (List Char × List Char) :=
  if (skippedHeader.matchStart statement).isSome || (alterHeader.matchStart statement).isSome then none
  else (createHeader.matchStart statement).bind fun header =>
    cutColumns? (canonicalHeader statement header)

theorem keptOption?_eq_none (tail : Masked) (option : Pattern) :
    keptOption? tail option = none ↔ ∃ part, keptPart? tail option = some part ∧ unmask part = none := by
  unfold keptOption? keptPart?
  cases option.search tail.text with
  | none => simp
  | some found => simp

theorem mapM_eq_none {α β : Type} {f : α → Option β} {entries : List α} :
    entries.mapM f = none ↔ ∃ entry ∈ entries, f entry = none := by
  induction entries with
  | nil => simp
  | cons entry rest ih =>
    rw [List.mapM_cons, List.exists_mem_cons_iff, ← ih]
    cases first : f entry with
    | none => simp
    | some result => cases others : rest.mapM f <;> simp

theorem keptOptions_eq_none (tail : List Char) :
    keptOptions tail = none ↔
      ∃ part ∈ tableOptions.filterMap (keptPart? (mask tail)), unmask part = none := by
  simp only [keptOptions, Option.map_eq_none_iff, mapM_eq_none, keptOption?_eq_none,
    List.mem_filterMap]
  constructor
  · rintro ⟨option, inside, part, kept, none⟩
    exact ⟨part, ⟨option, inside, kept⟩, none⟩
  · rintro ⟨part, ⟨option, inside, kept⟩, none⟩
    exact ⟨option, inside, part, kept, none⟩

theorem keptOptions_nil : keptOptions [] = some [] := by
  have empty : mask [] = ⟨[], []⟩ := by simp [mask, segments, maskSegments]
  rw [keptOptions, empty]
  decide

theorem sanitizeCanonical_eq_none (statement : List Char) :
    sanitizeCanonical statement = none ↔ ∃ body tail, cutColumns? statement = some (body, tail) ∧
      ∃ part ∈ maskedParts body tail, unmask part = none := by
  have parts : ∀ body tail, (∃ part ∈ maskedParts body tail, unmask part = none) ↔
      stripNoise body = none ∨ keptOptions tail = none := by
    intro body tail
    rw [maskedParts, List.exists_mem_cons_iff, keptOptions_eq_none, stripNoise]
  simp only [parts]
  unfold sanitizeCanonical cutColumns?
  dsimp only
  split
  · simp
  · cases closed : closingParen? statement (statement.takeWhile (· != '(')).length with
    | none =>
      -- nothing stands behind an open column list, so no option is looked for
      cases body : stripNoise statement <;> simp [body, keptOptions_nil]
    | some close =>
      cases options : keptOptions (statement.drop (close + 1)) <;>
        cases body : stripNoise (statement.take (close + 1)) <;> simp [options, body]

theorem dispose_eq_none (statement : List Char) :
    dispose statement = none ↔ ∃ body tail, sanitizedParts? statement = some (body, tail) ∧
      ∃ part ∈ maskedParts body tail, unmask part = none := by
  unfold dispose sanitizedParts?
  cases skipped : (skippedHeader.matchStart statement).isSome with
  | true => simp
  | false =>
    cases altering : (alterHeader.matchStart statement).isSome with
    | true => simp
    | false =>
      cases createHeader.matchStart statement with
      | none => simp
      | some header => simpa using sanitizeCanonical_eq_none (canonicalHeader statement header)

theorem prepareAll_eq_none (statements : List (List Char)) :
    prepareAll statements = none ↔ ∃ statement ∈ statements, statement ≠ [] ∧
      ∃ body tail, sanitizedParts? statement = some (body, tail) ∧
        ∃ part ∈ maskedParts body tail, unmask part = none := by
  simp only [prepareAll, Option.map_eq_none_iff, mapM_eq_none, dispose_eq_none, List.mem_filter,
    Bool.not_eq_true', List.isEmpty_eq_false_iff, and_assoc]

/-! A mark that is not quoted. -/

theorem mem_of_plain {text : List Char} {c : Char} (member : Segment.plain c ∈ segments text) :
    c ∈ text := by
  fun_induction segments text with
  | case1 => cases member
  | case2 d rest quote ih =>
    simp only [List.mem_cons, reduceCtorEq, false_or] at member
    have same := quotedTail_append d rest
    rw [List.mem_cons, ← same, List.mem_append]
    exact Or.inr (Or.inr (ih member))
  | case3 d rest quote ih =>
    simp only [List.mem_cons, Segment.plain.injEq] at member ⊢
    exact member.imp_right ih

/-- A text holds the mark of placeholders outside its quoted spans. -/
def HasBareMark (text : List Char) : Prop := Segment.plain '\x00' ∈ segments text

theorem bareMark_of_maskedParts {body tail : List Char} {part : Masked}
    (member : part ∈ maskedParts body tail) (none : unmask part = none) :
    HasBareMark body ∨ HasBareMark tail := by
  refine Classical.byContradiction fun bare => ?_
  rw [not_or] at bare
  rcases List.mem_cons.mp member with rfl | kept
  · exact unmask_ne_none (marked_stripMasked (marked_mask bare.1)) none
  · obtain ⟨option, inside, found⟩ := List.mem_filterMap.mp kept
    obtain ⟨⟨found, text⟩, searched, rfl⟩ := Option.map_eq_some_iff.mp found
    obtain ⟨keeps, begins⟩ := keepsMarks_tableOptions inside
    exact unmask_ne_none (marked_of_search keeps begins searched (marked_mask bare.2)) none

theorem mem_of_sanitizedParts? {statement body tail : List Char}
    (parts : sanitizedParts? statement = some (body, tail)) {c : Char} (inside : c ∈ body ∨ c ∈ tail) :
    c ∈ "CREATE TEMPORARY TABLE".toList ∨ c ∈ statement := by
  have cut : ∀ text, cutColumns? text = some (body, tail) → c ∈ text := by
    intro text found
    unfold cutColumns? at found
    dsimp only at found
    split at found
    · cases found
    · split at found
      · cases found
        exact inside.elim id fun nothing => nomatch nothing
      · cases found
        exact inside.elim (fun front => List.mem_of_mem_take front) fun back => List.mem_of_mem_drop back
  unfold sanitizedParts? at parts
  split at parts
  · cases parts
  · obtain ⟨header, -, found⟩ := Option.bind_eq_some_iff.mp parts
    rcases List.mem_append.mp (cut _ found) with written | back
    · left
      have shorter : "CREATE TABLE".toList ⊆ "CREATE TEMPORARY TABLE".toList := by decide
      split at written
      · exact written
      · exact shorter written
    · exact Or.inr (List.mem_of_mem_drop back)

theorem bareMark_of_prepareAll {statements : List (List Char)} (none : prepareAll statements = none) :
    ∃ statement ∈ statements, ∃ body tail, sanitizedParts? statement = some (body, tail) ∧
      (HasBareMark body ∨ HasBareMark tail) := by
  obtain ⟨statement, inside, -, body, tail, parts, part, member, unread⟩ :=
    (prepareAll_eq_none statements).mp none
  exact ⟨statement, inside, body, tail, parts, bareMark_of_maskedParts member unread⟩

theorem mark_of_prepare {script : List Char} (none : prepare script = none) : '\x00' ∈ script := by
  obtain ⟨statement, inside, body, tail, parts, bare⟩ := bareMark_of_prepareAll none
  rcases mem_of_sanitizedParts? parts (bare.imp mem_of_plain mem_of_plain) with header | own
  · exact absurd header (by decide)
  · exact bareStatements_subset inside own

end DdlSchema.Statement

namespace DdlSchema.Schema

open DdlSchema.Statement DdlSchema.Text

theorem mark_of_danglingMark {read : TableReader} {options : ParseOptions} {script : List Char}
    (failed : parseWith split read options script = .error .danglingMark) : '\x00' ∈ script := by
  unfold parseWith at failed
  simp only at failed
  split at failed
  · cases failed
  · next none => exact mark_of_prepare none
  · cases failed

/-- Statements cannot be prepared exactly if unmasking meets a number that no literal of its part has.
It takes the mark of placeholders outside quoted spans to bring that about, so that every script
without the mark is prepared and no parse of it ends there. Numbers are read however long they are. -/
theorem preparation_fails_iff (statements : List (List Char)) (script : List Char) :
    (prepareAll statements = none ↔
      ∃ statement ∈ statements, statement ≠ [] ∧
        ∃ body tail, sanitizedParts? statement = some (body, tail) ∧
          ∃ part ∈ maskedParts body tail,
            ∃ number ∈ placeholders part.text, part.literals.length ≤ number) ∧
    (prepareAll statements = none →
      ∃ statement ∈ statements, ∃ body tail, sanitizedParts? statement = some (body, tail) ∧
        (HasBareMark body ∨ HasBareMark tail)) ∧
    ('\x00' ∉ script → ∃ prepared, prepare script = some prepared) ∧
    (∀ read options, parseWith split read options script = .error .danglingMark → '\x00' ∈ script) := by
  refine ⟨?_, fun none => bareMark_of_prepareAll none, fun bare => ?_,
    fun read options failed => mark_of_danglingMark failed⟩
  · simp only [prepareAll_eq_none, unmask_eq_none]
  · exact Option.ne_none_iff_exists'.mp fun none => bare (mark_of_prepare none)

theorem preparation_fails_iff_number :
    (∃ statement ∈ ["CREATE TABLE t (a INT \x000\x00)".toList], ∃ body tail,
      sanitizedParts? statement = some (body, tail) ∧ (HasBareMark body ∨ HasBareMark tail)) ∧
    (∃ prepared, prepare "CREATE TABLE t (a INT COMMENT 'x');".toList = some prepared) ∧
    '\x00' ∈ "CREATE TABLE t (a INT \x000\x00);".toList := by
  have none : prepareAll ["CREATE TABLE t (a INT \x000\x00)".toList] = none :=
    Option.isNone_iff_eq_none.mp (by decide +kernel)
  have failed : (match parseWith split (fun _ _ => .ok []) ⟨[.mysql], false⟩
      "CREATE TABLE t (a INT \x000\x00);".toList with
      | .error .danglingMark => true
      | _ => false) = true := by
    decide +kernel
  refine ⟨(preparation_fails_iff _ []).2.1 none, (preparation_fails_iff [] _).2.2.1 (by decide), ?_⟩
  split at failed
  · next outcome => exact (preparation_fails_iff [] _).2.2.2 _ _ outcome
  · cases failed

theorem preparation_can_fail : ¬ ∀ script, ∃ prepared, prepare script = some prepared := by
  intro always
  have none : prepare "CREATE TABLE t (a INT \x000\x00);".toList = none :=
    Option.isNone_iff_eq_none.mp (by decide +kernel)
  obtain ⟨prepared, found⟩ := always "CREATE TABLE t (a INT \x000\x00);".toList
  rw [none] at found
  cases found

end DdlSchema.Schema
