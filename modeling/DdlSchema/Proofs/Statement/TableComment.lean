import DdlSchema.Proofs.Schema.TidyType
import DdlSchema.Proofs.Statement.TableColumns
import DdlSchema.Proofs.Text.Quotation

/-! The comment of a table. It is masked with its quotes, so the search for options does not look into it;
but it is squeezed along with the words of its option, after it has been put back. -/

set_option autoImplicit false

namespace DdlSchema.Statement

open DdlSchema.Text DdlSchema.Text.Pattern
open DdlSchema.Schema (Spaced isFilled spaced_squeeze filter_squeeze intercalate_wordsFrom)

/-! The words of a header. -/

/-- The words that headers are rewritten to. -/
def canonicalWords : List (List Char) := ["CREATE TABLE".toList, "CREATE TEMPORARY TABLE".toList]

theorem canonicalHeader_words (statement : List Char) (header : Match) :
    ∃ words ∈ canonicalWords,
      canonicalHeader statement header = words ++ statement.drop header.length := by
  unfold canonicalHeader
  split
  · exact ⟨_, by simp [canonicalWords], rfl⟩
  · exact ⟨_, by simp [canonicalWords], rfl⟩

theorem canonicalWords_plain {words : List Char} (known : words ∈ canonicalWords) :
    '(' ∉ words ∧ ∀ c ∈ words, isQuote c = false ∧ c ≠ '\x00' := by
  simp only [canonicalWords, List.mem_cons, List.not_mem_nil, or_false] at known
  rcases known with rfl | rfl
  · exact ⟨by decide, List.all_iff_forall_prop.mp (by decide)⟩
  · exact ⟨by decide, List.all_iff_forall_prop.mp (by decide)⟩

def queryBehind : Pattern := ofList [gap, .run (· != '(') 0, .edge, letters "AS", .edge]

theorem createFromQuery_words {words rest : List Char} (known : words ∈ canonicalWords) {later : Cursor}
    (reach : Reaches createFromQuery ⟨none, words ++ rest, 0, []⟩ later) :
    ∃ place, place.rest = rest ∧ Reaches queryBehind place later := by
  obtain ⟨created, first, spaced, gapped, chosen, temporary, table, named, reach⟩ := reach
  refine ⟨table, ?_, reach⟩
  simp only [canonicalWords, List.mem_cons, List.not_mem_nil, or_false] at known
  rcases known with rfl | rfl
  · have behind := @behind_letters _ _ _ first "CREATE".toList (" TABLE".toList ++ rest) rfl rfl
    obtain ⟨next, -⟩ := @behind_gap _ _ gapped ("TABLE".toList ++ rest) behind
      (by decide : isBlank 'T' = false)
    rcases temporary with ⟨_, other, -⟩ | rfl
    · exact absurd other (not_reaches_letters rfl next (by decide : sameLetter 'E' 'A' = false))
    · exact behind_letters named next rfl
  · have behind := @behind_letters _ _ _ first "CREATE".toList (" TEMPORARY TABLE".toList ++ rest) rfl rfl
    obtain ⟨next, -⟩ := @behind_gap _ _ gapped ("TEMPORARY TABLE".toList ++ rest) behind
      (by decide : isBlank 'T' = false)
    rcases temporary with ⟨middle, word, blank⟩ | rfl
    · have behind := @behind_letters _ _ _ word "TEMPORARY".toList (" TABLE".toList ++ rest) next rfl
      obtain ⟨next, -⟩ := @behind_gap _ _ blank ("TABLE".toList ++ rest) behind
        (by decide : isBlank 'T' = false)
      exact behind_letters named next rfl
    · exact absurd named (not_reaches_letters rfl next (by decide : sameLetter 'A' 'E' = false))

theorem search_queryWord_of_behind {place later : Cursor} {head rest : List Char}
    (here : place.rest = head ++ '(' :: rest) (reach : Reaches queryBehind place later) :
    (queryWord.search head).isSome = true := by
  obtain ⟨spaced, ⟨blanks, ⟨others, split⟩, blank, least, rfl⟩, _,
    ⟨front, ⟨back, split'⟩, closed, -, rfl⟩, reach⟩ := reach
  obtain ⟨word, after, there, same, before, behind⟩ := reaches_queryWord.mp ⟨later, reach⟩
  have own : isWordChar '(' = false := by decide
  have letters := isWordChar_of_letters (by decide) same
  rw [rest_past split'.symm] at there
  rw [rest_past split.symm] at split'
  -- none of what is taken is a parenthesis, so it all stands in front of the first one
  have whole : head ++ '(' :: rest = (blanks ++ front ++ word) ++ after := by
    rw [← here, ← split, ← split', there, List.append_assoc, List.append_assoc]
  have open_ : '(' ∉ blanks ++ front ++ word := by
    simp only [List.mem_append, not_or]
    refine ⟨⟨fun member => ?_, fun member => ?_⟩, fun member => ?_⟩
    · exact absurd (blank _ member) (by decide)
    · exact absurd (closed _ member) (by decide)
    · exact absurd (letters _ member) (by decide)
  obtain ⟨back', rfl, same'⟩ : ∃ back', head = blanks ++ front ++ word ++ back' ∧
      after = back' ++ '(' :: rest := by
    rcases List.append_eq_append_iff.mp whole with ⟨excess, taken, next⟩ | ⟨left, rfl, next⟩
    · cases excess with
      | nil => exact ⟨[], by simpa using taken.symm, by simpa using next.symm⟩
      | cons d excess =>
        obtain ⟨rfl, -⟩ := List.cons.inj next
        rw [taken] at open_
        exact absurd (by simp) open_
    · exact ⟨left, rfl, next⟩
  refine search_queryWord.mpr ⟨blanks ++ front, word, back', List.append_assoc _ _ _, same, ?_, ?_⟩
  · have some_ : blanks ≠ [] := List.ne_nil_of_length_pos least
    simpa only [Cursor.past, List.getLast?_append, List.getLast?_eq_some_getLast some_, Option.some_or]
      using before
  · rw [same'] at behind
    cases back' with
    | nil => rfl
    | cons c back' => exact behind

/-! The columns in front of a comment. -/

/-- A literal in single quotes that ends with its closing quote. -/
def IsLiteral (text : List Char) : Prop := ∃ tail, text = '\x27' :: tail ∧ closesTail '\x27' tail = true

/-- The option in front of the literal. -/
def commentOption : List Char := "COMMENT=".toList

section

variable {literal : List Char}

theorem segments_literal {front : List Char} (plain : ∀ c ∈ front, isQuote c = false)
    (terminated : IsLiteral literal) :
    segments (front ++ literal) = front.map .plain ++ [.quoted literal] := by
  obtain ⟨tail, rfl, closed⟩ := terminated
  have whole := quotedTail_append_other closed (by simp : [].head? ≠ some '\x27')
  rw [List.append_nil] at whole
  rw [segments_plain plain, segments, if_pos (by decide), whole, segments]

theorem mask_literal {front : List Char} (plain : ∀ c ∈ front, isQuote c = false)
    (terminated : IsLiteral literal) : mask (front ++ literal) = ⟨front ++ placeholder 0, [literal]⟩ := by
  rw [mask, segments_literal plain terminated]
  clear plain
  induction front with
  | nil => simp [maskSegments]
  | cons c front ih => rw [List.map_cons, List.cons_append, maskSegments, ih]; rfl

theorem unmask_literal {front : List Char} (plain : ∀ c ∈ front, isQuote c = false ∧ c ≠ '\x00')
    (terminated : IsLiteral literal) :
    unmask ⟨front ++ placeholder 0, [literal]⟩ = some (front ++ literal) := by
  have free : ∀ c ∈ front, isQuote c = false := fun c member => (plain c member).1
  have unmarked : Segment.plain '\x00' ∉ segments (front ++ literal) := by
    rw [segments_literal free terminated]
    simpa using fun member => (plain _ member).2 rfl
  have restored := (renders_mask unmarked).unmask
  rw [spelled_segments, mask_literal free terminated] at restored
  exact restored

theorem squeeze_comment (terminated : IsLiteral literal) :
    squeeze (commentOption ++ literal) = commentOption ++ squeeze literal := by
  obtain ⟨tail, rfl, -⟩ := terminated
  have quote : isBlank '\x27' = false := by decide
  have option_ : commentOption = 'C' :: "OMMENT=".toList := by decide
  have behind : gapped false ("OMMENT=".toList ++ '\x27' :: tail) =
      "OMMENT=".toList ++ gapped false ('\x27' :: tail) := gapped_solid (List.all_iff_forall_prop.mp (by decide)) _
  have tail_ : gapped false ('\x27' :: tail) = '\x27' :: gapped false tail := by
    simp [gapped, quote]
  rw [option_, List.cons_append, squeeze_solid (by decide), behind, tail_, squeeze_solid quote]
  rfl

theorem keptOption?_eq (tail : Masked) (option : Pattern) :
    keptOption? tail option = match keptPart? tail option with
      | none => some none
      | some part => (unmask part).map fun text => some (squeeze text) := by
  unfold keptOption? keptPart?
  cases option.search tail.text <;> rfl

theorem keptOptions_comment (terminated : IsLiteral literal) :
    keptOptions (' ' :: (commentOption ++ literal)) = some [commentOption ++ squeeze literal] := by
  have plain : ∀ c ∈ ' ' :: commentOption, isQuote c = false ∧ c ≠ '\x00' :=
    List.all_iff_forall_prop.mp (by decide)
  have masked := mask_literal (fun c member => (plain c member).1) terminated
  have restored := unmask_literal (fun c member => plain c (List.mem_cons_of_mem _ member)) terminated
  -- the searches read the masked text, which is the same for all literals
  have parts : tableOptions.map (keptPart? ⟨' ' :: (commentOption ++ placeholder 0), [literal]⟩) =
      [none, none, some ⟨commentOption ++ placeholder 0, [literal]⟩] := rfl
  simp only [tableOptions, List.map_cons, List.map_nil, List.cons.injEq, and_true] at parts
  obtain ⟨engine, collation, comment⟩ := parts
  simp only [List.cons_append] at masked
  rw [keptOptions, masked]
  simp [tableOptions, keptOption?_eq, engine, collation, comment, restored, squeeze_comment terminated]

end

/-! What the literal becomes. -/

theorem squeeze_literal_iff {literal : List Char} (terminated : IsLiteral literal) :
    squeeze literal = literal ↔ Spaced isFilled none literal := by
  constructor
  · intro same
    exact same ▸ spaced_squeeze literal
  · intro spaced
    obtain ⟨tail, rfl, -⟩ := terminated
    exact @intercalate_wordsFrom [] _ spaced fun _ _ => (by decide : isFilled '\x27' = true)

theorem eq_of_filter {longer shorter : List Char} (ends : shorter <:+ longer)
    (same : shorter.filter isFilled = longer.filter isFilled) (filled : longer.head?.any isFilled = true) :
    shorter = longer := by
  obtain ⟨front, rfl⟩ := ends
  rw [List.filter_append, List.self_eq_append_left, List.filter_eq_nil_iff] at same
  cases front with
  | nil => rfl
  | cons c front => exact absurd filled (same c List.mem_cons_self)

theorem suffix_literal_iff {literal result : List Char}
    (ends : commentOption ++ squeeze literal ++ [';'] <:+ result) :
    commentOption ++ literal ++ [';'] <:+ result ↔ squeeze literal = literal := by
  constructor
  · intro own
    have filled : ∀ text : List Char, (commentOption ++ text ++ [';']).head?.any isFilled = true :=
      fun text => (by decide : isFilled 'C' = true)
    have same : (commentOption ++ squeeze literal ++ [';']).filter isFilled =
        (commentOption ++ literal ++ [';']).filter isFilled := by
      simp only [List.filter_append, filter_squeeze]
    have whole : commentOption ++ squeeze literal ++ [';'] = commentOption ++ literal ++ [';'] := by
      rcases List.suffix_or_suffix_of_suffix ends own with shorter | shorter
      · exact eq_of_filter shorter same (filled literal)
      · exact (eq_of_filter shorter same.symm (filled _)).symm
    exact List.append_cancel_left (List.append_cancel_right whole)
  · intro same
    rwa [same] at ends

/-! The statement. -/

section

variable {words head body tail : List Char}

theorem createFromQuery_of_words (known : words ∈ canonicalWords)
    (query : ¬ (queryWord.search head).isSome = true) (rest : List Char) :
    ¬ (createFromQuery.matchStart ((words ++ head) ++ '(' :: rest)).isSome = true := by
  intro found
  rw [matchStart, matchAt_isSome_iff (by decide), List.append_assoc] at found
  obtain ⟨later, reach⟩ := found
  obtain ⟨place, here, reach⟩ := createFromQuery_words known reach
  exact query (search_queryWord_of_behind here reach)

theorem cutColumns?_words (known : words ∈ canonicalWords) (open_ : '(' ∉ head)
    (query : ¬ (queryWord.search head).isSome = true) (closes : Closes body) (balanced : IsBalanced body) :
    cutColumns? ((words ++ head) ++ '(' :: (body ++ ')' :: tail)) =
      some ((words ++ head) ++ '(' :: (body ++ [')']), tail) := by
  have first : '(' ∉ words ++ head :=
    List.not_mem_append (canonicalWords_plain known).1 open_
  have faithful := faithful_segments (body ++ [')'])
  rw [closes] at faithful
  have split := segments_append_cons faithful tail
  rw [spelled_segments] at split
  rw [cutColumns?_first_closed first (createFromQuery_of_words known query _) split balanced,
    spelled_segments, spelled_segments]

theorem hasBareMark_words (known : words ∈ canonicalWords) (rest : List Char) :
    HasBareMark (words ++ rest) ↔ HasBareMark rest := by
  have plain := (canonicalWords_plain known).2
  rw [HasBareMark, HasBareMark, segments_plain fun c member => (plain c member).1, List.mem_append]
  refine or_iff_right fun member => ?_
  obtain ⟨c, inside, same⟩ := List.mem_map.mp member
  cases same
  exact (plain _ inside).2 rfl

theorem stripNoise_ne_none {columns : List Char} (unmarked : ¬ HasBareMark columns) :
    ∃ stripped, stripNoise columns = some stripped :=
  Option.ne_none_iff_exists'.mp (unmask_ne_none (marked_stripMasked (marked_mask unmarked)))

end

/-- A statement whose only option is a comment is answered with the comment, each run of blanks in it made a
single space; so it is kept as it was written if and only if all blanks in it are single spaces. -/
theorem comment_kept_iff {statement head body literal : List Char} {header : Match}
    (found : createHeader.matchStart statement = some header)
    (written : statement.drop header.length =
      head ++ '(' :: (body ++ ')' :: ' ' :: (commentOption ++ literal)))
    (open_ : '(' ∉ head) (query : ¬ (queryWord.search head).isSome = true)
    (closes : Closes body) (balanced : IsBalanced body) (terminated : IsLiteral literal) :
    (¬ HasBareMark (head ++ '(' :: (body ++ [')'])) → ∃ result, sanitize statement = some (some result)) ∧
    sanitize statement ≠ some none ∧
    ∀ result, sanitize statement = some (some result) →
      commentOption ++ squeeze literal ++ [';'] <:+ result ∧
      (commentOption ++ literal ++ [';'] <:+ result ↔ Spaced isFilled none literal) := by
  obtain ⟨words, known, canonical⟩ := canonicalHeader_words statement header
  rw [written, ← List.append_assoc] at canonical
  have cut := @cutColumns?_words words head body (' ' :: (commentOption ++ literal)) known open_ query
    closes balanced
  have kept := keptOptions_comment terminated
  have own : sanitize statement = (sanitizeCanonical (canonicalHeader statement header)).map Sanitized.text? := by
    rw [sanitize, found]
    rfl
  rw [canonical] at own
  cases stripped : stripNoise ((words ++ head) ++ '(' :: (body ++ [')'])) with
  | none =>
    have failed : sanitize statement = none := by
      rw [own, (sanitizeCanonical_eq_none _).mpr ⟨_, _, cut, _, List.mem_cons_self, stripped⟩]
      rfl
    refine ⟨fun unmarked => ?_, by simp [failed], by simp [failed]⟩
    rw [← hasBareMark_words known, ← List.append_assoc] at unmarked
    obtain ⟨_, some_⟩ := stripNoise_ne_none unmarked
    rw [stripped] at some_
    cases some_
  | some columns =>
    have answered : sanitize statement =
        some (some ([' '].intercalate [columns, commentOption ++ squeeze literal] ++ [';'])) := by
      rw [own, sanitizeCanonical_of_cut cut stripped kept]
      rfl
    refine ⟨fun _ => ⟨_, answered⟩, by simp [answered], fun result same => ?_⟩
    rw [answered] at same
    cases same
    have ends : commentOption ++ squeeze literal ++ [';'] <:+
        [' '].intercalate [columns, commentOption ++ squeeze literal] ++ [';'] :=
      ⟨columns ++ [' '], by simp [List.intercalate_cons_cons]⟩
    exact ⟨ends, (suffix_literal_iff ends).trans (squeeze_literal_iff terminated)⟩

theorem comment_kept_iff_temporary :
    IsBalanced "id INT, n INT COMMENT '1,)'".toList ∧ IsLiteral "'it''s (a, b'".toList ∧
    ∃ result, sanitize "create temp table users(id INT, n INT COMMENT '1,)') COMMENT='it''s (a, b'".toList =
      some (some result) ∧ "COMMENT='it''s (a, b';".toList <:+ result := by
  have found : createHeader.matchStart
      "create temp table users(id INT, n INT COMMENT '1,)') COMMENT='it''s (a, b'".toList =
        some ⟨17, [("temporary", "temp ".toList)]⟩ := rfl
  have closes : Closes "id INT, n INT COMMENT '1,)'".toList := by
    simp [Closes, segments, isQuote, quotedTail]
  have balanced : IsBalanced "id INT, n INT COMMENT '1,)'".toList := by decide +kernel
  have terminated : IsLiteral "'it''s (a, b'".toList := ⟨_, rfl, by decide⟩
  have unmarked : ¬ HasBareMark (" users".toList ++ '(' :: ("id INT, n INT COMMENT '1,)'".toList ++ [')'])) :=
    fun bare => absurd (mem_of_plain bare) (by decide)
  obtain ⟨answers, -, exact_⟩ := comment_kept_iff found rfl
    (by decide : '(' ∉ " users".toList) (by decide +kernel) closes balanced terminated
  obtain ⟨result, same⟩ := answers unmarked
  refine ⟨balanced, terminated, result, same, (exact_ result same).2.mpr ?_⟩
  decide

/-- Blanks in a comment are not kept. -/
theorem comment_can_change :
    ¬ ∀ name body literal result : List Char, IsTableName name → '(' ∉ name →
      ¬ (queryWord.search name).isSome = true → Closes body → IsBalanced body → IsLiteral literal →
        '\x00' ∉ literal →
          sanitize (tableHead name ++ (body ++ ')' :: ' ' :: (commentOption ++ literal))) =
            some (some result) → commentOption ++ literal ++ [';'] <:+ result := by
  intro always
  have named : IsTableName "t".toList := .bare (by decide) (List.all_iff_forall_prop.mp (by decide))
  have closes : Closes "id INT".toList := by simp [Closes, segments, isQuote]
  have terminated : IsLiteral "'a  b'".toList := ⟨_, rfl, by decide⟩
  have own : sanitize (tableHead "t".toList ++ ("id INT".toList ++ ')' :: ' ' ::
      (commentOption ++ "'a  b'".toList))) = some (some "CREATE TABLE t (id INT) COMMENT='a b';".toList) := by
    decide +kernel
  have same := always _ _ _ _ named (by decide) (by decide +kernel) closes (by decide +kernel) terminated
    (by decide) own
  exact absurd same (by decide)

end DdlSchema.Statement
