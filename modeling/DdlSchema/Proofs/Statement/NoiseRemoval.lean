import DdlSchema.Proofs.Schema.Preparation
import DdlSchema.Proofs.Text.Finding
import DdlSchema.Proofs.Text.Level

/-! What the noise patterns remove. Each match of a clause stands behind a word, a parenthesis or a quoted
span, begins with a blank and stays level; a match of a timestamp call is the call. Stripping a body is a
row of such edits of its segments. -/

set_option autoImplicit false

namespace DdlSchema.Statement

open DdlSchema.Text DdlSchema.Text.Pattern

/-! One clause. -/

/-- A clause is noise only behind a type or another clause. -/
def endsClause (c : Char) : Bool := isWordChar c || c == ')' || c == '\x00'

theorem endsClause_of_isBlank {c : Char} (blank : isBlank c = true) : endsClause c = false :=
  of_isBlank (endsClause · = false) (by decide +kernel) blank

theorem reaches_parenthesized {inner : Pattern} {place later : Cursor}
    (reach : Reaches (parenthesized inner) place later) :
    ∃ opened closed inside, Reaches inner opened closed ∧ Spans opened closed inside ∧
      Spans place later ('(' :: (inside ++ [')'])) := by
  obtain ⟨opened, ⟨first, others, here, opening, rfl⟩, reach⟩ := reaches_ofList_cons.mp reach
  obtain ⟨closed, within, last⟩ := reaches_ofList_cons.mp reach
  obtain ⟨inside, spans⟩ := within.spans
  obtain ⟨last, others', there, closing, rfl⟩ := last
  have opens : first = '(' := beq_iff_eq.mp opening
  have closes : last = ')' := beq_iff_eq.mp closing
  have open_ : Spans place ⟨some first, others, place.consumed + 1, place.captured⟩ ['('] := by
    simp [Spans, here, opens]
  have close : Spans closed ⟨some last, others', closed.consumed + 1, closed.captured⟩ [')'] := by
    simp [Spans, there, closes]
  exact ⟨_, closed, inside, within, spans, open_.trans (spans.trans close)⟩

theorem staysLevel_plain {floor : Nat} {pattern : Pattern} (opening : pattern.avoids '(' = true)
    (closing : pattern.avoids ')' = true) (comma : pattern.avoids ',' = true) : StaysLevel floor pattern :=
  staysLevel_of_avoids opening closing (.inr comma)

theorem staysLevel_parenthesized {inner : Pattern} (stays : StaysLevel 1 inner) :
    StaysLevel 0 (parenthesized inner) := by
  intro place later taken reach spans level _ rest
  obtain ⟨opened, closed, inside, reach, spansInside, whole⟩ := reaches_parenthesized reach
  have inner := stays reach spansInside (level + 1) (by omega) (')' :: rest)
  rw [spans.unique whole]
  simpa [levelBehind?, Segment.separates, Segment.isClosing, Segment.depthBehind] using inner

theorem staysLevel_shallowExpression : StaysLevel 0 shallowExpression := by
  have level : ∀ {inner : Pattern}, StaysLevel 1 inner →
      StaysLevel 1 (.many (.either (.char isNoParen) (parenthesized inner))) := fun stays =>
    .many (.either (staysLevel_of_avoids (by decide) (by decide) (.inl (by decide)))
      fun _ _ _ reach spans level _ rest =>
        staysLevel_parenthesized stays reach spans level (Nat.zero_le level) rest)
  exact staysLevel_parenthesized
    (level (level (staysLevel_of_avoids (by decide) (by decide) (.inl (by decide)))))

theorem staysLevel_noiseClauses {clause : Pattern} (member : clause ∈ noiseClauses) :
    StaysLevel 0 clause := by
  obtain ⟨body, inside, rfl⟩ := List.mem_map.mp member
  refine (staysLevel_plain (by decide) (by decide) (by decide)).seq ?_
  simp only [List.mem_cons, List.not_mem_nil, or_false] at inside
  rcases inside with rfl | rfl | rfl | rfl | rfl | rfl | rfl
  · exact staysLevel_plain (by decide) (by decide) (by decide)
  · exact staysLevel_plain (by decide) (by decide) (by decide)
  · exact staysLevel_plain (by decide) (by decide) (by decide)
  · exact staysLevel_plain (by decide) (by decide) (by decide)
  · exact staysLevel_plain (by decide) (by decide) (by decide)
  · exact staysLevel_plain (by decide) (by decide) (by decide)
  · exact (staysLevel_plain (by decide) (by decide) (by decide)).cons
      ((staysLevel_plain (by decide) (by decide) (by decide)).cons
        (staysLevel_shallowExpression.cons (staysLevel_plain (by decide) (by decide) (by decide))))

/-- A stretch of noise stands behind a clause, begins with a blank and stays level. -/
structure IsNoise (before : Option Segment) (taken : List Segment) : Prop where
  behind : (before.map Segment.shown).any endsClause = true
  blank : ∃ c rest, taken = .plain c :: rest ∧ isBlank c = true
  level : levelBehind? 0 taken = some 0

theorem isNoise_of_removes {clause : Pattern} (member : clause ∈ noiseClauses)
    {literals : List (List Char)} {whole : List Char} {before next : Option Segment}
    {taken : List Segment} (removes : clause.Removes literals whole before taken next) :
    IsNoise before taken := by
  obtain ⟨text, later, renders, -, reach, spans⟩ := removes.reaches
  have level := staysLevel_noiseClauses member reach spans 0 (Nat.le_refl 0) []
  rw [List.append_nil, ← renders.levelBehind?] at level
  obtain ⟨body, -, rfl⟩ := List.mem_map.mp member
  obtain ⟨middle, ⟨start, ⟨behind, rfl⟩, gap⟩, body⟩ := reach
  refine ⟨behind, ?_, level⟩

  -- the gap in front is not empty, and a blank is no mark
  obtain ⟨front, inside, blank, least, rfl⟩ := gap
  obtain ⟨c, front, rfl⟩ := List.exists_cons_of_length_pos (Nat.lt_of_succ_le least)
  obtain ⟨rest, spansBody⟩ := body.spans
  have whole := spans.unique ((spans_past inside).trans spansBody)
  have first := blank c List.mem_cons_self
  have other : c ≠ '\x00' := by
    rintro rfl
    exact absurd first (by decide)
  obtain ⟨others, same, -⟩ := (whole ▸ renders).of_cons other
  exact ⟨c, others, same, first⟩

/-! A call of the current timestamp. -/

/-- The name, and at most a number of digits in parentheses, with blanks between. -/
def IsCall (name digits text : List Char) : Prop :=
  ∃ front left right, text = name ++ (front ++ '(' :: (left ++ (digits ++ right) ++ [')'])) ∧
    List.Forall₂ (fun letter c => sameLetter letter c = true) "current_timestamp".toList name ∧
    (∀ c ∈ front ++ left ++ right, isBlank c = true) ∧ ∀ c ∈ digits, isDecimal c = true

theorem isWordChar_of_isBlank {c : Char} (blank : isBlank c = true) : isWordChar c = false :=
  of_isBlank (isWordChar · = false) (by decide +kernel) blank

theorem isWordChar_of_sameLetter {letter c : Char} (alpha : letter.isAlpha = true)
    (same : sameLetter letter c = true) : isWordChar c = true :=
  of_sameLetter (isWordChar · = true) (by decide +kernel) alpha same

theorem isCall_of_reaches {place later : Cursor} {text : List Char}
    (reach : Reaches timestampCall place later) (spans : Spans place later text) :
    place.before.any isWordChar = false ∧ ∃ name digits, IsCall name digits text := by
  obtain ⟨start, ⟨apart, rfl⟩, whole⟩ := reaches_ofList_cons.mp reach
  obtain ⟨named, word, argument⟩ := reaches_ofList_cons.mp whole
  obtain ⟨spaced, ⟨front, inFront, blankFront, -, rfl⟩, argument⟩ := reaches_ofList_cons.mp argument
  obtain ⟨name, spansName, same⟩ := word.letters
  obtain ⟨opened, closed, inside, parts, spansInside, spansArgument⟩ := reaches_parenthesized argument
  obtain ⟨_, ⟨left, inLeft, blankLeft, -, rfl⟩, others⟩ := reaches_ofList_cons.mp parts
  obtain ⟨_, ⟨digits, inDigits, decimal, -, rfl⟩, last⟩ := reaches_ofList_cons.mp others
  obtain ⟨right, inRight, blankRight, -, rfl⟩ := last
  have all := spans.unique (spansName.trans ((spans_past inFront).trans spansArgument))
  have between := spansInside.unique
    ((spans_past inLeft).trans ((spans_past inDigits).trans (spans_past inRight)))
  refine ⟨?_, name, digits, front, left, right, by rw [all, between], same, ?_, decimal⟩
  · cases same with
    | cons first _ =>
      have word := isWordChar_of_sameLetter (by decide) first
      rw [spansName.1, List.cons_append, List.head?_cons, Option.any_some, word] at apart
      simpa using apart
  · simp only [List.mem_append]
    rintro c ((member | member) | member)
    · exact blankFront c member
    · exact blankLeft c member
    · exact blankRight c member

theorem reaches_parenthesized_past {inner : Pattern} {place : Cursor} {inside rest : List Char}
    (here : place.rest = '(' :: (inside ++ ')' :: rest))
    (reach : Reaches inner (place.past ['(']) ((place.past ['(']).past inside)) :
    Reaches (parenthesized inner) place (((place.past ['(']).past inside).past [')']) := by
  have opened := @rest_past place ['('] _ here
  exact reaches_ofList_cons.mpr ⟨_, reaches_char here rfl,
    reaches_ofList_cons.mpr ⟨_, reach, reaches_char (rest_past opened) rfl⟩⟩

theorem reaches_edge {place : Cursor} (apart : place.before.any isWordChar = false) {word : String}
    {letter : Char} {letters taken rest : List Char} (spelled : word.toList = letter :: letters)
    (alpha : letter.isAlpha = true)
    (same : List.Forall₂ (fun letter c => sameLetter letter c = true) word.toList taken)
    (here : place.rest = taken ++ rest) : Reaches .edge place place := by
  rw [spelled] at same
  cases same with
  | @cons _ c _ others first _ =>
    have inside : isWordChar c = true := isWordChar_of_sameLetter alpha first
    have sides : place.before.any isWordChar ≠ place.rest.head?.any isWordChar := by
      rw [here, apart, List.cons_append, List.head?_cons, Option.any_some, inside]
      exact Bool.false_ne_true
    exact ⟨sides, rfl⟩

theorem reaches_argument {place : Cursor} {left digits right rest : List Char}
    (blank : ∀ c ∈ left ++ right, isBlank c = true) (decimal : ∀ c ∈ digits, isDecimal c = true)
    (here : place.rest = left ++ (digits ++ (right ++ rest))) :
    Reaches (ofList [blanks, .run isDecimal 0, blanks]) place
      (place.past (left ++ (digits ++ right))) := by
  have indented := rest_past here
  have counted := rest_past indented
  rw [← past_past, ← past_past]
  exact reaches_ofList_cons.mpr ⟨_, reaches_run here (fun c member => blank c (by simp [member]))
    (Nat.zero_le _), reaches_ofList_cons.mpr ⟨_, reaches_run indented decimal (Nat.zero_le _),
      reaches_run counted (fun c member => blank c (by simp [member])) (Nat.zero_le _)⟩⟩

theorem reaches_of_isCall {place : Cursor} (apart : place.before.any isWordChar = false)
    {name digits text rest : List Char} (call : IsCall name digits text)
    (here : place.rest = text ++ rest) : ∃ later, Reaches timestampCall place later := by
  obtain ⟨front, left, right, rfl, same, blank, decimal⟩ := call
  simp only [List.append_assoc, List.cons_append, List.nil_append] at here
  have spelled : "current_timestamp".toList = 'c' :: "urrent_timestamp".toList := rfl
  have edge : Reaches .edge place place := reaches_edge apart spelled (by decide) same here
  have word := @reaches_letters "current_timestamp" place name _ here same
  have named := rest_past here
  have between := reaches_run named (fun c member => blank c (by simp [member])) (Nat.zero_le _)
  have spaced := rest_past named
  have opened := @rest_past _ ['('] _ spaced
  have argument := reaches_argument
    (fun c member => blank c (by simpa [or_assoc] using .inr (by simpa using member))) decimal opened
  have enclosed : ((place.past name).past front).rest =
      '(' :: ((left ++ (digits ++ right)) ++ ')' :: rest) := by
    simpa using spaced
  have whole := reaches_parenthesized_past enclosed argument
  exact ⟨_, reaches_ofList_cons.mpr ⟨place, edge, reaches_ofList_cons.mpr ⟨_, word,
    reaches_ofList_cons.mpr ⟨_, between, whole⟩⟩⟩⟩

/-- A stretch of plain characters that is a call and begins a word. -/
structure IsStamp (before : Option Segment) (taken : List Segment) : Prop where
  apart : (before.map Segment.shown).any isWordChar = false
  call : ∃ name digits text, IsCall name digits text ∧ taken = text.map .plain
  level : levelBehind? 0 taken = some 0

theorem staysLevel_timestampCall : StaysLevel 0 timestampCall := by
  refine (staysLevel_plain (by decide) (by decide) (by decide)).cons
    ((staysLevel_plain (by decide) (by decide) (by decide)).cons
      ((staysLevel_plain (by decide) (by decide) (by decide)).cons (staysLevel_parenthesized ?_)))
  exact staysLevel_plain (by decide) (by decide) (by decide)

theorem isStamp_of_removes {literals : List (List Char)} {whole : List Char}
    {before next : Option Segment} {taken : List Segment}
    (removes : timestampCall.Removes literals whole before taken next) :
    IsStamp before taken := by
  obtain ⟨text, later, renders, -, reach, spans⟩ := removes.reaches
  have level := staysLevel_timestampCall reach spans 0 (Nat.le_refl 0) []
  rw [List.append_nil, ← renders.levelBehind?] at level
  obtain ⟨apart, name, digits, call⟩ := isCall_of_reaches reach spans
  have other : '\x00' ∉ text := not_mem_of_avoids (by decide) reach spans
  exact ⟨apart, ⟨name, digits, text, call, renders.of_plain fun c member same => other (same ▸ member)⟩,
    level⟩

theorem IsCall.head {name digits text : List Char} (call : IsCall name digits text) :
    ∃ c rest, text = c :: rest ∧ isWordChar c = true := by
  obtain ⟨front, left, right, rfl, same, -⟩ := call
  cases same with
  | cons first _ => exact ⟨_, _, rfl, isWordChar_of_sameLetter (by decide) first⟩

/-! The whole removal. -/

/-- What is left when the clauses are removed, before calls are rewritten. -/
def withoutClauses (masked : Masked) : Masked :=
  { masked with text := noiseClauses.foldl (fun text clause => clause.replaceAll [] text) masked.text }

def Clears (clauses : List Pattern) (literals : List (List Char)) (list out : List Segment) : Prop :=
  ∃ clause ∈ clauses, ∃ whole, Edits (clause.Removes literals whole) [] none list out

theorem exists_clears {clauses : List Pattern} (known : clauses ⊆ noiseClauses)
    {literals : List (List Char)} {list : List Segment} {text : List Char}
    (renders : Renders literals list text) :
    ∃ out, Renders literals out (clauses.foldl (fun text clause => clause.replaceAll [] text) text) ∧
      Relation.ReflTransGen (Clears clauses literals) list out := by
  induction clauses generalizing list text with
  | nil => exact ⟨list, renders, .refl⟩
  | cons clause clauses ih =>
    rw [List.cons_subset] at known
    obtain ⟨keeps, begins⟩ := keepsMarks_noiseClauses known.1
    obtain ⟨middle, rendered, edits⟩ := edits_replaceAll keeps begins (List.forall_mem_nil _) renders
    obtain ⟨out, last, later⟩ := ih known.2 rendered
    have rest : Relation.ReflTransGen (Clears (clause :: clauses) literals) middle out :=
      later.lift id fun _ _ ⟨clause, member, cleared⟩ =>
        ⟨clause, List.mem_cons_of_mem _ member, cleared⟩
    exact ⟨out, last, .head ⟨clause, List.mem_cons_self, text, edits⟩ rest⟩

theorem faithful_clears {clauses : List Pattern} {literals : List (List Char)} {list out : List Segment}
    (faithful : Faithful list) (clears : Relation.ReflTransGen (Clears clauses literals) list out) :
    Faithful out := by
  induction clears with
  | refl => exact faithful
  | tail _ step ih =>
    obtain ⟨clause, -, whole, edits⟩ := step
    exact @Edits.faithful _ [] (List.forall_mem_nil _) _ _ _ edits ih

theorem timestamp_plain : ∀ c ∈ "CURRENT_TIMESTAMP".toList, c ≠ '\x00' ∧ isQuote c = false :=
  List.all_iff_forall_prop.mp (by decide)

theorem exists_called {literals : List (List Char)} {list : List Segment} {text : List Char}
    (renders : Renders literals list text) :
    ∃ out, Renders literals out (timestampCall.replaceAll "CURRENT_TIMESTAMP".toList text) ∧
      Edits (timestampCall.Removes literals text) ("CURRENT_TIMESTAMP".toList.map .plain) none list out :=
  edits_replaceAll keepsMarks_timestampCall beginsPlain_timestampCall timestamp_plain renders

theorem not_hasBareMark {text : List Char} (none : '\x00' ∉ text) : ¬ HasBareMark text :=
  fun bare => none (mem_of_plain bare)

/-- Stripping removes clauses from the segments of a body and then rewrites calls. -/
theorem exists_stripNoise {body : List Char} (bare : ¬ HasBareMark body) :
    ∃ middle out, Relation.ReflTransGen (Clears noiseClauses (mask body).literals) (segments body) middle ∧
      Edits (timestampCall.Removes (mask body).literals (withoutClauses (mask body)).text)
        ("CURRENT_TIMESTAMP".toList.map .plain) none middle out ∧
      Renders (mask body).literals middle (withoutClauses (mask body)).text ∧
      Renders (mask body).literals out (stripMasked (mask body)).text := by
  obtain ⟨middle, cleared, clears⟩ := exists_clears (List.Subset.refl _) (renders_mask bare)
  obtain ⟨out, called, edits⟩ := exists_called cleared
  exact ⟨middle, out, clears, edits, cleared, called⟩

end DdlSchema.Statement
