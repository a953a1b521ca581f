import DdlSchema.Proofs.Statement.NoiseRemoval
import DdlSchema.Proofs.Text.Greed
import DdlSchema.Proofs.Text.Words

/-! What stripping leaves of the words. Every clause but one ends where a word ends, so that taking it away
joins nothing. The clause of a generated column takes the blanks behind it along, and a call of the current
timestamp need not have one behind it. -/

set_option autoImplicit false

namespace DdlSchema.Statement

open DdlSchema.Text DdlSchema.Text.Pattern

/-! Words. -/

theorem eq_of_sameLetter_underscore {c : Char} (same : sameLetter '_' c = true) : c = '_' := by
  rcases Nat.lt_or_ge c.toNat 0x80 with small | beyond
  · have ascii : ∀ code < 0x80, sameLetter '_' (Char.ofNat code) = true → Char.ofNat code = '_' := by
      decide +kernel
    simpa [same] using ascii c.toNat small
  · rw [sameLetter, toLower_of_not_ascii beyond] at same
    simpa using same

/-- A letter that stands for word characters only. -/
def isWordLetter (letter : Char) : Bool := letter.isAlpha || letter == '_'

theorem isWordChar_of_letters {word taken : List Char} (letters : word.all isWordLetter = true)
    (same : List.Forall₂ (fun letter c => sameLetter letter c = true) word taken) :
    ∀ c ∈ taken, isWordChar c = true := by
  induction same with
  | nil => simp
  | @cons letter c word taken first _ ih =>
    rw [List.all_cons, Bool.and_eq_true] at letters
    intro d member
    rcases List.mem_cons.mp member with rfl | later
    · rw [isWordLetter, Bool.or_eq_true, beq_iff_eq] at letters
      rcases letters.1 with alpha | rfl
      · exact isWordChar_of_sameLetter alpha first
      · rw [eq_of_sameLetter_underscore first]
        decide
    · exact ih letters.2 d later

/-! Where the clauses end. -/

def EndsInWord (pattern : Pattern) : Prop :=
  ∀ place later, Reaches pattern place later → later.before.any isWordChar = true

theorem endsInWord_letters {word : String} (some_ : word.toList ≠ [])
    (alpha : word.toList.all isWordLetter = true) : EndsInWord (letters word) := by
  intro place later reach
  obtain ⟨taken, spans, same⟩ := reach.letters
  have nonempty : taken ≠ [] := by
    rintro rfl
    exact some_ (List.forall₂_nil_right_iff.mp same)
  rw [reach.before spans, List.getLast?_eq_some_getLast nonempty]
  exact isWordChar_of_letters alpha same _ (List.getLast_mem nonempty)

theorem EndsInWord.either {first second : Pattern} (left : EndsInWord first)
    (right : EndsInWord second) : EndsInWord (.either first second) := by
  rintro place later (reach | reach)
  · exact left place later reach
  · exact right place later reach

/-- No word character follows this place, or a placeholder ends there. -/
def StandsApart (later : Cursor) : Prop :=
  later.rest.head?.any isWordChar = false ∨ later.before = some '\x00'

theorem endsAt_wordChars : EndsAt StandsApart wordChars := (endsAt_run isWordChar 1).imp fun _ => .inl

theorem endsAt_maskedLiteral : EndsAt StandsApart maskedLiteral := by
  refine .seq _ (.seq _ (endsAt_of_reaches ?_))
  rintro place later ⟨c, rest, -, mark, rfl⟩
  exact .inr (congrArg some (beq_iff_eq.mp mark))

theorem endsAt_edge {first : Pattern} (word : EndsInWord first) :
    EndsAt StandsApart (.seq first .edge) := by
  refine endsAt_of_reaches ?_
  rintro place later ⟨middle, reach, apart, rfl⟩
  rw [word place later reach] at apart
  exact .inl (by simpa using Ne.symm apart)

theorem endsAt_clause {clause : Pattern} (member : clause ∈ noiseClauses.dropLast) :
    EndsAt StandsApart clause := by
  simp only [noiseClauses, List.map_cons, List.map_nil, List.dropLast_cons_cons, List.dropLast_singleton,
    List.mem_cons, List.not_mem_nil, or_false] at member
  rcases member with rfl | rfl | rfl | rfl | rfl | rfl <;> refine .seq _ ?_
  · exact .seq _ (.seq _ endsAt_wordChars)
  · exact .seq _ (.seq _ endsAt_wordChars)
  · exact .seq _ (.seq _ (endsAt_wordChars.either endsAt_maskedLiteral))
  · exact .seq _ (.seq _ endsAt_maskedLiteral)
  · exact endsAt_edge ((endsInWord_letters (by decide) (by decide)).either
      (endsInWord_letters (by decide) (by decide)))
  · exact .seq _ (.seq _ (endsAt_edge ((endsInWord_letters (by decide) (by decide)).either
      (endsInWord_letters (by decide) (by decide)))))

theorem inWord_of_removes {literals : List (List Char)} {text rest : List Char}
    {taken : List Segment} {next : Option Segment} (renders : Renders literals taken text)
    (ahead : rest.head? = next.map Segment.shown) :
    rest.head?.any isWordChar = inWord next ∧ text.getLast?.any isWordChar = inWord taken.getLast? := by
  rw [ahead, ← renders.getLast?, inWord_shown, inWord_shown]
  exact ⟨rfl, rfl⟩

theorem next_of_clause {clause : Pattern} (member : clause ∈ noiseClauses.dropLast)
    {literals : List (List Char)} {whole : List Char} {before next : Option Segment} {taken : List Segment}
    (removes : clause.Removes literals whole before taken next)
    (loose : (∃ span, taken.getLast? = some (.quoted span)) → inWord next = false) :
    inWord next = false := by
  obtain ⟨c, others, begins, -⟩ := (isNoise_of_removes (List.dropLast_subset _ member) removes).blank
  obtain ⟨front, text, rest, -, renders, -, ahead, captured, matched⟩ := removes
  obtain ⟨later, -, rfl, ends, apart⟩ := (endsAt_clause member).matchesAt matched rfl
  rcases apart with outside | mark
  · rwa [ahead, inWord_shown] at outside
  · have nonempty : text ≠ [] := by
      rintro rfl
      rw [begins] at renders
      cases renders
    rw [ends, List.getLast?_eq_some_getLast nonempty, Option.some_or] at mark
    rw [← List.getLast?_eq_some_getLast nonempty] at mark
    exact loose (renders.quoted_of_getLast? mark)

theorem words_clear {literals : List (List Char)} {list out : List Segment} (loose : Loose list)
    (clears : Relation.ReflTransGen (Clears noiseClauses.dropLast literals) list out) :
    List.Sublist (wordRuns out) (wordRuns list) ∧ Loose out := by
  induction clears with
  | refl => exact ⟨List.Sublist.refl _, loose⟩
  | tail _ step ih =>
    obtain ⟨words, loose⟩ := ih
    obtain ⟨clause, member, whole, edits⟩ := step
    have own := edits.loosely loose
    have outside : ∀ before taken next, (clause.Removes literals whole before taken next ∧
        ((∃ span, taken.getLast? = some (.quoted span)) → inWord next = false)) → inWord next = false :=
      fun _ _ _ ⟨removes, apart⟩ => next_of_clause member removes apart
    have leaves : LeavesApart fun before taken next => clause.Removes literals whole before taken next ∧
        ((∃ span, taken.getLast? = some (.quoted span)) → inWord next = false) := by
      refine ⟨fun here => ?_, fun here word => ?_, fun _ here => outside _ _ _ here⟩
      · obtain ⟨c, others, rfl, blank⟩ :=
          (isNoise_of_removes (List.dropLast_subset _ member) here.1).blank
        exact isWordChar_of_isBlank blank
      · exact absurd (word.symm.trans (outside _ _ _ here)) (by decide)
    exact ⟨(leaves.words own).trans words,
      own.loose outside loose⟩

/-! Generated columns. -/

def generatedClause : Pattern := noiseClauses.getLast (by decide)

/-- The text from which the clauses of generated columns are removed. -/
def beforeGenerated (masked : Masked) : List Char :=
  noiseClauses.dropLast.foldl (fun text clause => clause.replaceAll [] text) masked.text

theorem withoutClauses_eq (masked : Masked) :
    withoutClauses masked =
      { masked with text := generatedClause.replaceAll [] (beforeGenerated masked) } := rfl

/-- A match has a word right behind it, and there is one at its end or at the end of what is left in front of
it. -/
def Fuses (pattern : Pattern) (replacement whole : List Char) : Prop :=
  ∃ front taken rest, whole = front ++ (taken ++ rest) ∧ pattern.MatchesAt front taken rest ∧
    rest.head?.any isWordChar = true ∧
    ((front ++ replacement).getLast?.any isWordChar = true ∨ taken.getLast?.any isWordChar = true)

def fusesAt (pattern : Pattern) (replacement front back : List Char) : Bool :=
  (pattern.matchAt front.getLast? back).any fun found =>
    (back.drop found.length).head?.any isWordChar &&
      ((front ++ replacement).getLast?.any isWordChar ||
        (back.take found.length).getLast?.any isWordChar)

theorem fuses_iff {pattern : Pattern} {replacement whole : List Char} :
    Fuses pattern replacement whole ↔
      ∃ n < whole.length + 1, fusesAt pattern replacement (whole.take n) (whole.drop n) = true := by
  constructor
  · rintro ⟨front, taken, rest, rfl, ⟨captured, matched⟩, word, ends⟩
    refine ⟨front.length, by simp only [List.length_append]; omega, ?_⟩
    rw [List.take_left, List.drop_left, fusesAt, matched, Option.any_some, List.drop_left, List.take_left,
      Bool.and_eq_true, Bool.or_eq_true]
    exact ⟨word, ends⟩
  · rintro ⟨n, -, fuses⟩
    obtain ⟨found, matched, here⟩ := (Option.any_eq_true _ _).mp fuses
    rw [Bool.and_eq_true, Bool.or_eq_true] at here
    obtain ⟨own, later, split, width, -⟩ := matchAt_taken matched
    rw [split, width, List.drop_left, List.take_left] at here
    refine ⟨whole.take n, own, later.rest, ?_, ⟨found.captured, ?_⟩, here⟩
    · rw [← split, List.take_append_drop]
    · rw [← split, matched, ← width]

instance (pattern : Pattern) (replacement whole : List Char) :
    Decidable (Fuses pattern replacement whole) := decidable_of_iff' _ fuses_iff

theorem endsAt_generatedClause :
    EndsAt (fun later => later.rest.head?.any isBlank = false ∨ later.before.any isWordChar = true)
      generatedClause := by
  have word : EndsInWord (.either (letters "STORED") (letters "VIRTUAL")) :=
    (endsInWord_letters (by decide) (by decide)).either (endsInWord_letters (by decide) (by decide))
  refine .seq _ (.seq _ (.seq _ (.seq _ ?_)))
  exact endsAt_run_optional (fun _ => .inl) fun place later reach => .inr (word place later reach)

theorem leavesApart_generatedClause {literals : List (List Char)} {whole : List Char}
    (spared : ¬ Fuses generatedClause [] whole) :
    LeavesApart (generatedClause.Removes literals whole) := by
  have noise : ∀ {before next taken}, generatedClause.Removes literals whole before taken next →
      IsNoise before taken := isNoise_of_removes (List.getLast_mem _)
  have apart : ∀ {before next taken}, generatedClause.Removes literals whole before taken next →
      inWord next = true → inWord before = false ∧ inWord taken.getLast? = false := by
    intro before next taken removes word
    obtain ⟨front, text, rest, split, renders, behind, ahead, matched⟩ := removes
    obtain ⟨follows, ends⟩ := inWord_of_removes renders ahead
    have neither : ¬ ((front ++ []).getLast?.any isWordChar = true ∨
        text.getLast?.any isWordChar = true) := fun fused =>
      spared ⟨front, text, rest, split, matched, follows.trans word, fused⟩
    rw [List.append_nil, behind, inWord_shown, ends, not_or, Bool.not_eq_true, Bool.not_eq_true]
      at neither
    exact neither
  refine ⟨fun here => ?_, apart, fun {before next taken more} first second => ?_⟩
  · obtain ⟨c, others, rfl, blank⟩ := (noise here).blank
    exact isWordChar_of_isBlank blank
  · -- a second stretch begins with a blank, and the first one would have taken it
    rw [Bool.eq_false_iff]
    intro word
    have outside := (apart second word).1
    obtain ⟨c, others, rfl, blank⟩ := (noise second).blank
    obtain ⟨front, text, rest, -, renders, behind, ahead, captured, matched⟩ := first
    obtain ⟨later, -, rfl, ends, stops⟩ := endsAt_generatedClause.matchesAt matched rfl
    rcases stops with stops | stops
    · rw [ahead] at stops
      exact absurd (blank.symm.trans stops) (by decide)
    · rw [ends, ← renders.getLast?, behind, ← Option.map_or, inWord_shown, outside] at stops
      cases stops

/-! Calls. -/

/-- The second words are the first ones with the name of a call written in capitals and the digits
of its argument left out. -/
inductive CallsShortened : List (List Char) → List (List Char) → Prop where
  | nil : CallsShortened [] []
  | keep (word : List Char) {words out : List (List Char)} : CallsShortened words out →
      CallsShortened (word :: words) (word :: out)
  | call {name : List Char} {argument words out : List (List Char)} :
      List.Forall₂ (fun letter c => sameLetter letter c = true) "current_timestamp".toList name →
      argument.length ≤ 1 → (∀ digits ∈ argument, ∀ c ∈ digits, isDecimal c = true) →
      CallsShortened words out →
      CallsShortened (name :: (argument ++ words)) ("CURRENT_TIMESTAMP".toList :: out)

theorem CallsShortened.refl (words : List (List Char)) : CallsShortened words words := by
  induction words with
  | nil => exact .nil
  | cons word _ ih => exact .keep word ih

theorem CallsShortened.append {first first' second second' : List (List Char)}
    (before : CallsShortened first first') (after : CallsShortened second second') :
    CallsShortened (first ++ second) (first' ++ second') := by
  induction before with
  | nil => exact after
  | keep word _ ih => exact .keep word ih
  | call same short decimal _ ih =>
    rw [List.cons_append, List.append_assoc]
    exact .call same short decimal ih

theorem outside_of_blank {part : List Char}
    (all : ∀ c ∈ part, isBlank c = true ∨ c = '(' ∨ c = ')') :
    ∀ segment ∈ part.map Segment.plain, isWordSegment segment = false := by
  intro segment member
  obtain ⟨c, inside, rfl⟩ := List.mem_map.mp member
  rcases all c inside with blank | rfl | rfl
  · exact isWordChar_of_isBlank blank
  · exact (by decide : isWordChar '(' = false)
  · exact (by decide : isWordChar ')' = false)

theorem wordRuns_of_isCall {name digits text : List Char} (call : IsCall name digits text) :
    ∃ argument : List (List Char), wordRuns (text.map .plain) = name :: argument ∧ argument.length ≤ 1 ∧
      (∀ digits ∈ argument, ∀ c ∈ digits, isDecimal c = true) ∧
      inWord (text.map Segment.plain).getLast? = false := by
  obtain ⟨front, left, right, rfl, same, blank, decimal⟩ := call
  have word := isWordChar_of_letters (by decide) same
  have named : name ≠ [] := by
    rintro rfl
    cases same
  have opens : ∀ segment ∈ (front ++ '(' :: left).map Segment.plain, isWordSegment segment = false :=
    outside_of_blank fun c member => by
      rcases List.mem_append.mp member with member | member
      · exact .inl (blank c (by simp [member]))
      · exact (List.mem_cons.mp member).elim (fun paren => .inr (.inl paren))
          fun member => .inl (blank c (by simp [member]))
  have closes : ∀ segment ∈ (right ++ [')']).map Segment.plain, isWordSegment segment = false :=
    outside_of_blank fun c member => by
      rcases List.mem_append.mp member with member | member
      · exact .inl (blank c (by simp [member]))
      · exact .inr (.inr (List.mem_singleton.mp member))
  have split : (name ++ (front ++ '(' :: (left ++ (digits ++ right) ++ [')']))).map Segment.plain =
      name.map .plain ++ ((front ++ '(' :: left).map .plain ++
        (digits.map .plain ++ (right ++ [')']).map .plain)) := by
    simp
  have argument : wordRuns (digits.map .plain) = if digits = [] then [] else [digits] := by
    split
    · next none => rw [none]; rfl
    · next some_ => exact wordRuns_of_word some_ fun c member => isWordChar_of_isDecimal (decimal c member)
  refine ⟨if digits = [] then [] else [digits], ?_, ?_, ?_, ?_⟩
  · have behind : inWord ((front ++ '(' :: left).map Segment.plain ++
        (digits.map Segment.plain ++ (right ++ [')']).map Segment.plain)).head? = false := by
      have head := inWord_head opens
      cases front <;> exact head
    rw [split, wordRuns_append (.inr behind), wordRuns_append (.inl (inWord_getLast opens)),
      wordRuns_append (.inr (inWord_head closes)), wordRuns_of_outside opens, wordRuns_of_outside closes,
      wordRuns_of_word named word, argument, List.append_nil]
    rfl
  · split <;> simp
  · split
    · simp
    · simpa using decimal
  · have last : (name ++ (front ++ '(' :: (left ++ (digits ++ right) ++ [')']))).getLast? = some ')' := by
      simp [List.getLast?_append, List.getLast?_cons]
    rw [List.getLast?_map, last]
    exact (by decide : isWordChar ')' = false)

theorem calls_shorten {literals : List (List Char)} {whole : List Char}
    (spared : ¬ Fuses timestampCall "CURRENT_TIMESTAMP".toList whole) {before : Option Segment}
    {list out front : List Segment}
    (edits : Edits (timestampCall.Removes literals whole) ("CURRENT_TIMESTAMP".toList.map .plain) before
      list out)
    (follows : inWord front.getLast? = true → inWord before = true) :
    CallsShortened (wordRuns (front ++ list)) (wordRuns (front ++ out)) := by
  have outside : ∀ {before next taken}, timestampCall.Removes literals whole before taken next →
      inWord next = false := by
    intro before next taken removes
    rw [Bool.eq_false_iff]
    intro word
    obtain ⟨front, text, rest, split, renders, -, ahead, matched⟩ := removes
    refine spared ⟨front, text, rest, split, matched, (inWord_of_removes renders ahead).1.trans word, .inl ?_⟩
    rw [List.getLast?_append]
    rfl
  -- no call begins where no word does
  have head : ∀ {before list out}, Edits (timestampCall.Removes literals whole)
      ("CURRENT_TIMESTAMP".toList.map .plain) before list out → inWord list.head? = false →
      inWord out.head? = false := by
    intro before list out edits none
    cases edits with
    | nil => rfl
    | keep => exact none
    | replace _ here =>
      obtain ⟨name, digits, text, call, rfl⟩ := (isStamp_of_removes here).call
      obtain ⟨c, rest, rfl, word⟩ := call.head
      exact absurd (word.symm.trans none) (by decide)
  induction edits generalizing front with
  | nil => exact .refl _
  | @keep before segment rest out _ ih =>
    have later := @ih (front ++ [segment]) (by simp)
    simpa using later
  | @replace before taken rest out _ here edits ih =>
    have own : CallsShortened (wordRuns rest) (wordRuns out) := @ih [] (fun word => nomatch word)
    have none := outside here
    have stamp := isStamp_of_removes here
    have left : inWord front.getLast? = false := by
      rw [Bool.eq_false_iff]
      intro inside
      have apart := stamp.apart
      rw [inWord_shown, follows inside] at apart
      cases apart
    obtain ⟨name, digits, text, call, rfl⟩ := stamp.call
    obtain ⟨argument, words, short, decimal, ends⟩ := wordRuns_of_isCall call
    have written : wordRuns ("CURRENT_TIMESTAMP".toList.map .plain) = ["CURRENT_TIMESTAMP".toList] := by
      decide
    obtain ⟨_, _, _, -, same, -⟩ := call
    rw [wordRuns_append (.inl left), wordRuns_append (.inl left), wordRuns_append (.inl ends),
      wordRuns_append (.inr (head edits none)), words, written]
    exact (CallsShortened.refl _).append (.call same short decimal own)

/-! The whole text. -/

theorem wordRuns_spelled {list : List Segment} (faithful : Faithful list) :
    wordRuns (segments (spelled list)) = wordRuns list := (joins_segments faithful).wordRuns

/-- Stripping loses words and joins none, and of a call of the current timestamp its digits go and its name is
written anew. This needs a generated column whose clause is removed to have no word right behind it, unless
one stands apart from there, and it needs calls to have none right behind them. -/
theorem words_stay_apart (text : List Char) (unmarked : '\x00' ∉ text) (loose : Loose (segments text))
    (spared : ¬ Fuses generatedClause [] (beforeGenerated (mask text)))
    (apart : ¬ Fuses timestampCall "CURRENT_TIMESTAMP".toList (withoutClauses (mask text)).text) :
    ∃ middle result, unmask (withoutClauses (mask text)) = some middle ∧ stripNoise text = some result ∧
      List.Sublist (wordRuns (segments middle)) (wordRuns (segments text)) ∧
      CallsShortened (wordRuns (segments middle)) (wordRuns (segments result)) := by
  have last : generatedClause ∈ noiseClauses := List.getLast_mem _
  obtain ⟨first, rendered, clears⟩ :=
    exists_clears (List.dropLast_subset noiseClauses) (renders_mask (not_hasBareMark unmarked))
  obtain ⟨keeps, begins⟩ := keepsMarks_noiseClauses last
  obtain ⟨middle, cleared, edits⟩ := edits_replaceAll keeps begins (List.forall_mem_nil _) rendered
  obtain ⟨out, called, calls⟩ := exists_called cleared
  have faithful : Faithful middle := faithful_clears (faithful_segments text)
    ((clears.lift id fun _ _ ⟨clause, member, cleared⟩ =>
      ⟨clause, List.dropLast_subset _ member, cleared⟩).tail ⟨generatedClause, last, _, edits⟩)
  refine ⟨spelled middle, spelled out, ?_, called.unmask, ?_, ?_⟩
  · rw [withoutClauses_eq]
    exact cleared.unmask
  · rw [wordRuns_spelled faithful]
    exact ((leavesApart_generatedClause spared).words edits).trans (words_clear loose clears).1
  · rw [wordRuns_spelled faithful, wordRuns_spelled (calls.faithful (fun c member => (timestamp_plain c member).2) faithful)]
    exact @calls_shorten _ _ apart none middle out [] calls fun word => nomatch word

theorem words_stay_apart_stored :
    Loose (segments "a INT GENERATED ALWAYS AS (b) STORED NOT NULL COMMENT 'n'".toList) ∧
    ∃ middle result,
      stripNoise "a INT GENERATED ALWAYS AS (b) STORED NOT NULL COMMENT 'n'".toList = some result ∧
      List.Sublist (wordRuns (segments middle))
        (wordRuns (segments "a INT GENERATED ALWAYS AS (b) STORED NOT NULL COMMENT 'n'".toList)) ∧
      CallsShortened (wordRuns (segments middle)) (wordRuns (segments result)) := by
  have loose : Loose (segments "a INT GENERATED ALWAYS AS (b) STORED NOT NULL COMMENT 'n'".toList) := by
    simp [Loose, segments, isQuote, quotedTail]
  obtain ⟨middle, result, -, stripped, words, calls⟩ := words_stay_apart
    "a INT GENERATED ALWAYS AS (b) STORED NOT NULL COMMENT 'n'".toList (by decide) loose (by decide +kernel)
    (by decide +kernel)
  exact ⟨loose, middle, result, stripped, words, calls⟩

/-- The blank behind a generated column goes with its clause, so that the type and the next clause become one
word. -/
theorem words_can_fuse :
    ¬ ∀ text result : List Char, '\x00' ∉ text → Loose (segments text) → stripNoise text = some result →
      List.Sublist ((wordRuns (segments result)).map lower) ((wordRuns (segments text)).map lower) := by
  intro always
  have stripped : stripNoise "a INT GENERATED ALWAYS AS (b) NOT NULL".toList =
      some "a INTNOT NULL".toList := by
    decide +kernel
  have loose : Loose (segments "a INT GENERATED ALWAYS AS (b) NOT NULL".toList) := by
    simp [Loose, segments, isQuote]
  exact absurd (always _ _ (by decide) loose stripped) (by decide +kernel)

end DdlSchema.Statement
