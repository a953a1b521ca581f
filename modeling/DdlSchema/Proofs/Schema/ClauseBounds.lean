import Mathlib.Data.List.Infix
import DdlSchema.Proofs.Text.Containment
import DdlSchema.Proofs.Text.Level
import DdlSchema.Proofs.Text.Quotation
import DdlSchema.Schema.Alter

/-! Where clauses cannot run into a literal. Two parts of their patterns take a quote: a quoted name, which
needs its own quotes on both sides, and a column list, which closes its parentheses. If no such thing is left
open in front of the literal, whatever begins there also ends there. -/

set_option autoImplicit false

namespace DdlSchema.Schema

open DdlSchema.Text DdlSchema.Text.Pattern

/-- The header up to where the clauses begin. -/
def Clause.headStart : Pattern :=
  ofList [phrase "ALTER TABLE", gap, optional (.seq (phrase "IF EXISTS") gap),
    optional (.seq (letters "ONLY") gap), .capture "table" qualifiedName, gap]

/-! Patterns that do not leave the front of a text. -/

/-- From each place in the front, the pattern leads to another one there. -/
def StaysIn (front rest : List Char) (pattern : Pattern) : Prop :=
  ∀ ⦃place later : Cursor⦄ ⦃tail : List Char⦄, tail <:+ front → place.rest = tail ++ rest →
    Reaches pattern place later → ∃ tail', tail' <:+ front ∧ later.rest = tail' ++ rest

section

variable {front rest : List Char} {first second body pattern : Pattern}

theorem StaysIn.contained (stays : StaysIn front rest pattern) : Contained pattern front rest := by
  intro before tail inside later reach
  obtain ⟨tail', -, there⟩ := stays inside rfl reach
  obtain ⟨taken, whole, count⟩ := reach.spans
  have lengths := congrArg List.length whole
  simp only [there, List.length_append] at lengths count
  omega

theorem StaysIn.seq (before : StaysIn front rest first) (after : StaysIn front rest second) :
    StaysIn front rest (.seq first second) := by
  rintro place later tail inside here ⟨middle, reach, onward⟩
  obtain ⟨tail', inside', there⟩ := before inside here reach
  exact after inside' there onward

theorem StaysIn.either (left : StaysIn front rest first) (right : StaysIn front rest second) :
    StaysIn front rest (.either first second) := by
  rintro place later tail inside here (reach | reach)
  · exact left inside here reach
  · exact right inside here reach

theorem StaysIn.many (stays : StaysIn front rest body) : StaysIn front rest (.many body) := by
  intro place later tail inside here reach
  induction reach with
  | refl => exact ⟨tail, inside, here⟩
  | tail _ step earlier =>
    obtain ⟨tail', inside', there⟩ := earlier
    exact stays inside' there step

theorem StaysIn.capture (label : String) (stays : StaysIn front rest body) :
    StaysIn front rest (.capture label body) := by
  rintro place later tail inside here ⟨inner, reach, rfl⟩
  obtain ⟨tail', inside', there⟩ := stays inside here reach
  exact ⟨tail', inside', there⟩

theorem staysIn_empty : StaysIn front rest .empty := by
  rintro place later tail inside here rfl
  exact ⟨tail, inside, here⟩

theorem StaysIn.optional (stays : StaysIn front rest body) : StaysIn front rest (optional body) :=
  stays.either staysIn_empty

theorem staysIn_ofList {patterns : List Pattern} (stays : ∀ pattern ∈ patterns, StaysIn front rest pattern) :
    StaysIn front rest (ofList patterns) := by
  induction patterns with
  | nil => exact staysIn_empty
  | cons first patterns ih =>
    obtain ⟨here, later⟩ := List.forall_mem_cons.mp stays
    intro place last tail inside start reach
    exact here.seq (ih later) inside start (reaches_ofList_cons.mp reach)

theorem staysIn_oneOf {patterns : List Pattern} (stays : ∀ pattern ∈ patterns, StaysIn front rest pattern) :
    StaysIn front rest (oneOf patterns) := by
  induction patterns with
  | nil =>
    rintro place later tail inside here ⟨c, others, -, refused, -⟩
    cases refused
  | cons first patterns ih =>
    obtain ⟨here, later⟩ := List.forall_mem_cons.mp stays
    cases patterns with
    | nil => exact here
    | cons second patterns => exact here.either (ih later)

/-- What is taken ends in the front, or else it goes on into the rest. -/
theorem staysIn_of_spans
    (ends : ∀ place later tail taken, tail <:+ front → place.rest = tail ++ rest →
      Reaches pattern place later → Spans place later taken →
      ∀ more, more ≠ [] → more <+: rest → taken ≠ tail ++ more) :
    StaysIn front rest pattern := by
  intro place later tail inside here reach
  obtain ⟨taken, spans⟩ := reach.spans
  rcases List.append_eq_append_iff.mp (here.symm.trans spans.1) with ⟨more, long, within⟩ | ⟨left, short, same⟩
  · cases more with
    | nil => exact ⟨[], List.nil_suffix, by simpa using within.symm⟩
    | cons c more =>
      exact absurd long (ends _ _ _ _ inside here reach spans _ (List.cons_ne_nil c more)
        ⟨later.rest, within.symm⟩)
  · exact ⟨left, (List.suffix_append taken left).trans (short ▸ inside), same⟩

theorem staysIn_of_avoids {mark : Char} (begins : rest.head? = some mark)
    (avoids : pattern.avoids mark = true) : StaysIn front rest pattern := by
  refine staysIn_of_spans fun place later tail taken inside here reach spans more some_ start long => ?_
  obtain ⟨c, more, rfl⟩ := List.exists_cons_of_ne_nil some_
  obtain ⟨others, rfl⟩ := start
  obtain rfl : c = mark := Option.some.inj begins
  exact not_mem_of_avoids avoids reach spans (long ▸ by simp)

end

theorem spans_between {opener closer : Char} {body : Pattern} {place later : Cursor} {taken : List Char}
    (reach : Reaches (ofList [.char (· == opener), body, .char (· == closer)]) place later)
    (spans : Spans place later taken) :
    ∃ inner start stop, taken = opener :: (inner ++ [closer]) ∧ Reaches body start stop ∧
      Spans start stop inner := by
  obtain ⟨opened, first, reach⟩ := reaches_ofList_cons.mp reach
  obtain ⟨filled, middle, reach⟩ := reaches_ofList_cons.mp reach
  obtain ⟨closed, last, nothing⟩ := reaches_ofList_cons.mp reach
  cases nothing
  obtain ⟨c, others, begins, opens, rfl⟩ := first
  obtain ⟨d, others', ends, closes, rfl⟩ := last
  obtain ⟨inner, between⟩ := middle.spans
  have opens : c = opener := beq_iff_eq.mp opens
  have closes : d = closer := beq_iff_eq.mp closes
  subst opens closes
  refine ⟨inner, _, _, spans.unique ?_, middle, between⟩
  have step : Spans place ⟨some c, others, place.consumed + 1, place.captured⟩ [c] := by
    simp [Spans, begins]
  exact step.trans (between.trans (by simp [Spans, ends]))

/-- What begins otherwise than the rest is no beginning of it. -/
theorem ne_of_begins {rest more inner : List Char} {opener : Char} (other : rest.head? ≠ some opener)
    (start : more <+: rest) : opener :: inner ≠ more := by
  rintro rfl
  obtain ⟨others, rfl⟩ := start
  exact other rfl

/-! Quoted names. -/

/-- The span is not opened in the front, or not closed in the rest. -/
theorem staysIn_spanOf {front rest : List Char} {opener closer : Char} (other : rest.head? ≠ some opener)
    (apart : opener ∉ front ∨ closer ∉ rest) : StaysIn front rest (Clause.spanOf opener closer) := by
  refine staysIn_of_spans fun place later tail taken inside here reach spans more some_ start long => ?_
  obtain ⟨inner, _, _, whole, -, -⟩ := spans_between reach spans
  rw [whole] at long
  rcases apart with unopened | unclosed
  · cases tail with
    | nil => exact ne_of_begins other start long
    | cons c tail =>
      obtain ⟨rfl, -⟩ := List.cons.inj long
      exact unopened (inside.subset List.mem_cons_self)
  · have last : more.getLast? = some closer := by
      have both := congrArg List.getLast? long
      rw [← List.cons_append, List.getLast?_concat, List.getLast?_append_of_ne_nil _ some_] at both
      exact both.symm
    exact unclosed (start.subset (List.mem_of_getLast? last))

/-! Column lists. -/

/-- Nothing is closed that is not opened, and the other way round. -/
structure Nested (text : List Char) : Prop where
  level : text.count '(' = text.count ')'
  above : ∀ part, part <+: text → part.count ')' ≤ part.count '('

theorem Nested.append {first second : List Char} (before : Nested first) (after : Nested second) :
    Nested (first ++ second) := by
  refine ⟨by rw [List.count_append, List.count_append, before.level, after.level], fun part start => ?_⟩
  obtain ⟨others, whole⟩ := start
  rcases List.append_eq_append_iff.mp whole with ⟨left, short, -⟩ | ⟨more, rfl, same⟩
  · exact before.above part ⟨left, short.symm⟩
  · have level := before.level
    have above := after.above more ⟨others, same.symm⟩
    rw [List.count_append, List.count_append]
    omega

theorem nested_of_none {text : List Char} (opens : '(' ∉ text) (closes : ')' ∉ text) : Nested text := by
  refine ⟨by rw [List.count_eq_zero.mpr opens, List.count_eq_zero.mpr closes], fun part start => ?_⟩
  rw [List.count_eq_zero.mpr fun member => closes (start.subset member)]
  exact Nat.zero_le _

theorem Nested.unclosed {inner part more : List Char} (nested : Nested inner) (begun : part ≠ [])
    (unfinished : more ≠ []) (whole : '(' :: (inner ++ [')']) = part ++ more) :
    part.count ')' < part.count '(' := by
  obtain ⟨c, part, rfl⟩ := List.exists_cons_of_ne_nil begun
  obtain ⟨rfl, same⟩ := List.cons.inj whole
  have inside : part <+: inner := by
    rcases List.append_eq_append_iff.mp same with ⟨left, rfl, last⟩ | ⟨left, short, -⟩
    · cases left with
      | nil => exact ⟨[], by simp⟩
      | cons d left =>
        obtain ⟨-, last⟩ := List.cons.inj last
        exact absurd (List.append_eq_nil_iff.mp last.symm).2 unfinished
    · exact ⟨left, short.symm⟩
  have above := nested.above part inside
  rw [List.count_cons_self, List.count_cons_of_ne (by decide)]
  omega

theorem Nested.parenthesized {inner : List Char} (nested : Nested inner) :
    Nested ('(' :: (inner ++ [')'])) := by
  have level := nested.level
  refine ⟨by simp [level], fun part start => ?_⟩
  obtain ⟨more, whole⟩ := start
  by_cases begun : part = []
  · simp [begun]
  · by_cases finished : more = []
    · rw [finished, List.append_nil] at whole
      simp [whole, level]
    · exact Nat.le_of_lt (nested.unclosed begun finished whole.symm)

def StaysNested (pattern : Pattern) : Prop :=
  ∀ ⦃place later : Cursor⦄ ⦃taken : List Char⦄, Reaches pattern place later → Spans place later taken →
    Nested taken

section

variable {first second body pattern : Pattern}

theorem StaysNested.seq (before : StaysNested first) (after : StaysNested second) :
    StaysNested (.seq first second) :=
  Takes.seq Nested.append before after

theorem StaysNested.either (left : StaysNested first) (right : StaysNested second) :
    StaysNested (.either first second) :=
  Takes.either left right

theorem StaysNested.many (stays : StaysNested body) : StaysNested (.many body) :=
  Takes.many (nested_of_none List.not_mem_nil List.not_mem_nil) Nested.append stays

theorem staysNested_of_avoids (opens : pattern.avoids '(' = true) (closes : pattern.avoids ')' = true) :
    StaysNested pattern :=
  fun _ _ _ reach spans =>
    nested_of_none (not_mem_of_avoids opens reach spans) (not_mem_of_avoids closes reach spans)

theorem StaysNested.parenthesized (stays : StaysNested body) :
    StaysNested (Statement.parenthesized body) := by
  intro place later taken reach spans
  obtain ⟨inner, _, _, rfl, middle, between⟩ := spans_between reach spans
  exact (stays middle between).parenthesized

end

theorem staysNested_columns : StaysNested Clause.columns := by
  have part : StaysNested (.either (.char Statement.isNoParen)
      (Statement.parenthesized (.run Statement.isNoParen 0))) :=
    (staysNested_of_avoids rfl rfl).either (staysNested_of_avoids rfl rfl).parenthesized
  exact part.seq part.many

/-- No list is left open in the front, nor does the rest begin with one. -/
theorem staysIn_columnList {front rest : List Char} (other : rest.head? ≠ some '(')
    (closed : ∀ tail ∈ front.tails, tail.count '(' ≤ tail.count ')') (label : String) :
    StaysIn front rest (Clause.columnList label) := by
  refine staysIn_of_spans fun place later tail taken inside here reach spans more some_ start long => ?_
  obtain ⟨inner, _, _, whole, ⟨stop, middle, rfl⟩, between⟩ := spans_between reach spans
  rw [whole] at long
  by_cases begun : tail = []
  · rw [begun] at long
    exact ne_of_begins other start long
  · have unclosed := (staysNested_columns middle between).unclosed begun some_ long
    have level := closed tail ((List.mem_tails _ _).mpr inside)
    omega

/-! The patterns of clauses. -/

/-- Neither a name nor a list is left open in front of the rest, which begins with a literal. -/
structure Settled (front rest : List Char) : Prop where
  literal : rest.head? = some '\x27'
  backquoted : '\x60' ∉ front ∨ '\x60' ∉ rest
  quoted : '\x22' ∉ front ∨ '\x22' ∉ rest
  bracketed : '[' ∉ front
  listed : ∀ tail ∈ front.tails, tail.count '(' ≤ tail.count ')'

namespace Settled

variable {front rest : List Char} (settled : Settled front rest)

include settled

theorem avoiding {pattern : Pattern} (avoids : pattern.avoids '\x27' = true) :
    StaysIn front rest pattern :=
  staysIn_of_avoids settled.literal avoids

theorem list (label : String) : StaysIn front rest (Clause.columnList label) :=
  staysIn_columnList (by simp [settled.literal]) settled.listed label

theorem name : StaysIn front rest Clause.name := by
  have other : ∀ {opener : Char}, '\x27' ≠ opener → rest.head? ≠ some opener := by
    intro opener apart
    simpa [settled.literal] using apart
  refine staysIn_oneOf (List.forall_mem_cons.mpr ⟨?_, List.forall_mem_cons.mpr ⟨?_,
    List.forall_mem_cons.mpr ⟨?_, List.forall_mem_singleton.mpr ?_⟩⟩⟩)
  · exact staysIn_spanOf (other (by decide)) settled.backquoted
  · exact staysIn_spanOf (other (by decide)) settled.quoted
  · exact staysIn_spanOf (other (by decide)) (.inl settled.bracketed)
  · exact settled.avoiding rfl

theorem qualifiedName : StaysIn front rest Clause.qualifiedName := by
  refine settled.name.seq (StaysIn.many (staysIn_ofList ?_))
  simp only [List.forall_mem_cons]
  exact ⟨settled.avoiding rfl, settled.avoiding rfl, settled.avoiding rfl, settled.name,
    List.forall_mem_nil _⟩

theorem constraint {body : Pattern} (stays : StaysIn front rest body) :
    StaysIn front rest (optional (ofList [letters "CONSTRAINT", gap, body, gap])) := by
  refine StaysIn.optional (staysIn_ofList ?_)
  simp only [List.forall_mem_cons]
  exact ⟨settled.avoiding rfl, settled.avoiding rfl, stays, settled.avoiding rfl, List.forall_mem_nil _⟩

theorem headStart : Contained Clause.headStart front rest := by
  refine StaysIn.contained (staysIn_ofList ?_)
  simp only [List.forall_mem_cons]
  exact ⟨settled.avoiding rfl, settled.avoiding rfl, settled.avoiding rfl, settled.avoiding rfl,
    settled.qualifiedName.capture "table", settled.avoiding rfl, List.forall_mem_nil _⟩

theorem primaryKey : Contained Clause.primaryKey front rest := by
  refine StaysIn.contained (staysIn_ofList ?_)
  simp only [List.forall_mem_cons]
  exact ⟨settled.avoiding rfl, settled.avoiding rfl, settled.constraint settled.name,
    settled.avoiding rfl, settled.avoiding rfl, settled.avoiding rfl, settled.list "columns",
    List.forall_mem_nil _⟩

theorem foreignKey : Contained Clause.foreignKey front rest := by
  refine StaysIn.contained (staysIn_ofList ?_)
  simp only [List.forall_mem_cons]
  exact ⟨settled.constraint (settled.name.capture "name"), settled.avoiding rfl, settled.avoiding rfl,
    (settled.name.seq (settled.avoiding rfl)).optional, settled.list "columns", settled.avoiding rfl,
    settled.avoiding rfl, settled.avoiding rfl, settled.qualifiedName.capture "table",
    settled.avoiding rfl, (settled.list "targets").optional, settled.avoiding rfl,
    List.forall_mem_nil _⟩

end Settled

end DdlSchema.Schema
