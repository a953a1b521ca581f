import DdlSchema.Proofs.Schema.ClauseContents
import DdlSchema.Proofs.Text.Enumeration
import DdlSchema.Proofs.Text.Finding
import DdlSchema.Proofs.Text.Spelling

/-! The header of an ALTER TABLE statement on a quoted table. The name goes up to the next quote, and all
that follows it is the body, unless a dot joins it to the name. -/

set_option autoImplicit false

namespace DdlSchema.Text

/-- Nothing is taken from the left of a text that begins with no blank. -/
theorem trimLeft_cons {c : Char} (solid : isBlank c = false) (rest : List Char) :
    trimLeft (c :: rest) = c :: rest := by
  rw [trimLeft, List.dropWhile_cons, solid, if_neg Bool.false_ne_true]

def Undotted (text : List Char) : Prop := (trimLeft text).head? ≠ some '.'

instance (text : List Char) : Decidable (Undotted text) := inferInstanceAs (Decidable (_ ≠ _))

theorem Undotted.of_append {front back : List Char} (undotted : Undotted (front ++ back)) :
    Undotted front := by
  unfold Undotted trimLeft at *
  rw [List.dropWhile_append] at undotted
  split at undotted
  · next empty => simp [List.isEmpty_iff.mp empty]
  · next some_ =>
    rwa [List.head?_append_of_ne_nil _ (by simpa using some_)] at undotted

theorem Undotted.append {front : List Char} (undotted : Undotted front)
    (filled : Filled front) (back : List Char) : Undotted (front ++ back) := by
  obtain ⟨c, member, solid⟩ := filled
  obtain ⟨lead, behind, rfl⟩ := List.append_of_mem member
  rw [Undotted, trimLeft_mark solid] at undotted
  rw [Undotted, List.append_assoc, List.cons_append, trimLeft_mark solid]
  generalize trimLeft lead = front at undotted ⊢
  cases front <;> simpa using undotted

theorem undotted_cons_blank {c : Char} (blank : isBlank c = true) {text : List Char} :
    Undotted (c :: text) ↔ Undotted text := by
  rw [Undotted, Undotted, trimLeft, List.dropWhile_cons, if_pos blank, trimLeft]

theorem Undotted.ne_dot {text gap rest : List Char} (undotted : Undotted text)
    (blank : ∀ c ∈ gap, isBlank c = true) : text ≠ gap ++ '.' :: rest := by
  rintro rfl
  refine undotted ?_
  rw [trimLeft, List.dropWhile_append_of_pos blank]
  rfl

end DdlSchema.Text

namespace DdlSchema.Text.Pattern

theorem run?_many_isSome {α : Type} {body : Pattern} {place : Cursor} {next : Cursor → Option α}
    (ends : (next place).isSome = true) : (run? (.many body) place next).isSome = true := by
  rw [run?]
  cases place.rest.length with
  | zero => exact ends
  | succ bound =>
    rw [repeatBody]
    split
    · rfl
    · exact ends

theorem run?_gap {α : Type} {c : Char} (solid : isBlank c = false) {before : Option Char}
    {rest : List Char} {consumed : Nat} {captured : List (String × List Char)}
    {next : Cursor → Option α} :
    run? gap ⟨before, ' ' :: c :: rest, consumed, captured⟩ next =
      next ⟨some ' ', c :: rest, consumed + 1, captured⟩ := by
  have blank : isBlank ' ' = true := by decide
  simp only [gap, run?, overRun, blank, solid, if_true, Bool.false_eq_true, if_false, Nat.sub_self,
    Nat.one_ne_zero]
  cases next ⟨some ' ', c :: rest, consumed + 1, captured⟩ <;> rfl

end DdlSchema.Text.Pattern

namespace DdlSchema.Schema

open DdlSchema.Text DdlSchema.Text.Pattern

/-! The header of a statement on a quoted table. -/

def alterTable : List Char := "ALTER TABLE ".toList

def Clause.options : Pattern :=
  .seq (optional (.seq (phrase "IF EXISTS") gap)) (optional (.seq (letters "ONLY") gap))

def Clause.opening : Pattern :=
  .seq (.seq (phrase "ALTER TABLE") gap) Clause.options

def Clause.subject : Pattern := .seq (.capture "table" qualifiedName) gap

def Clause.body : Pattern := .capture "body" (.run (fun _ => true) 1)

theorem header_matchStart_eq (text : List Char) : Clause.header.matchStart text =
    run? Clause.opening ⟨none, text, 0, []⟩ fun start => run? Clause.subject start fun middle =>
      run? Clause.body middle fun place => some ⟨place.consumed, place.captured⟩ :=
  rfl

theorem solid_of_quoted {quote : Char} (quoted : quote = '\x60' ∨ quote = '\x22') :
    isBlank quote = false := by
  rcases quoted with rfl | rfl <;> decide

theorem run?_opening {α : Type} {quote : Char} (quoted : quote = '\x60' ∨ quote = '\x22')
    (rest : List Char) (next : Cursor → Option α) :
    run? Clause.opening ⟨none, alterTable ++ quote :: rest, 0, []⟩ next =
      next ⟨some ' ', quote :: rest, 12, []⟩ := by
  have alter : run? Clause.opening ⟨none, alterTable ++ quote :: rest, 0, []⟩ next =
      run? gap ⟨some 'R', ' ' :: 'T' :: ("ABLE ".toList ++ quote :: rest), 5, []⟩ fun first =>
        run? (letters "TABLE") first fun second =>
          run? gap second fun third => run? Clause.options third next := rfl
  have table : ∀ next : Cursor → Option α,
      run? (letters "TABLE") ⟨some ' ', 'T' :: ("ABLE ".toList ++ quote :: rest), 6, []⟩ next =
        next ⟨some 'E', ' ' :: quote :: rest, 11, []⟩ := fun _ => rfl
  rw [alter, run?_gap (by decide), table, run?_gap (solid_of_quoted quoted)]
  rcases quoted with rfl | rfl <;> rfl

/-- The body is all that is left, if anything is. -/
theorem run?_body (middle : Cursor) :
    run? Clause.body middle (fun place => some (⟨place.consumed, place.captured⟩ : Match)) =
      if middle.rest = [] then none
      else some ⟨middle.consumed + middle.rest.length, ("body", middle.rest) :: middle.captured⟩ := by
  simp only [Clause.body, run?]
  split
  · next empty =>
    rw [empty]
    rfl
  · next some_ =>
    rw [overRun_everything (fun _ => rfl) _ _ (List.length_pos_iff.mpr some_)]
    simp [Cursor.past]

section

variable {quote : Char} {content rest : List Char}

theorem span_reached {opener closer : Char} {place later : Cursor}
    (reach : Reaches (Clause.spanOf opener closer) place later) :
    ∃ inner, inner ≠ [] ∧ closer ∉ inner ∧ Spans place later (opener :: (inner ++ [closer])) := by
  obtain ⟨taken, spans⟩ := reach.spans
  obtain ⟨inner, start, stop, rfl, ⟨run, begins, other, least, rfl⟩, between⟩ := spans_between reach spans
  obtain rfl : inner = run := between.unique (spans_past begins)
  exact ⟨inner, List.ne_nil_of_length_pos least, fun member => by simpa using other _ member, spans⟩

theorem name_reached (quoted : quote = '\x60' ∨ quote = '\x22') (plain : quote ∉ content)
    {place later : Cursor} (here : place.rest = quote :: (content ++ quote :: rest))
    (reach : Reaches Clause.name place later) :
    content ≠ [] ∧ later.rest = rest ∧ Spans place later (quote :: (content ++ [quote])) := by
  have own : ∀ {opener closer : Char}, opener = quote → closer = quote →
      Reaches (Clause.spanOf opener closer) place later →
        content ≠ [] ∧ later.rest = rest ∧ Spans place later (quote :: (content ++ [quote])) := by
    rintro opener closer rfl rfl reach
    obtain ⟨inner, some_, other, spans⟩ := span_reached reach
    have same := here.symm.trans spans.1
    simp only [List.cons_append, List.append_assoc, List.nil_append, List.cons.injEq, true_and] at same
    have free : ∀ {text : List Char}, closer ∉ text → ∀ c ∈ text, (c != closer) = true :=
      fun absent c member => bne_iff_ne.mpr fun same => absent (same ▸ member)
    obtain ⟨rfl, behind⟩ := run_unique (free plain) (free other) (by simp) (by simp) same
    exact ⟨some_, (List.cons.inj behind).2.symm, spans⟩
  have apart : ∀ {opener closer : Char}, opener ≠ quote →
      ¬ Reaches (Clause.spanOf opener closer) place later := by
    intro opener closer other reach
    obtain ⟨inner, -, -, spans⟩ := span_reached reach
    exact other (List.cons.inj (here.symm.trans spans.1)).1.symm
  obtain ⟨pattern, member, reach⟩ := mem_of_reaches_oneOf reach
  simp only [List.mem_cons, List.not_mem_nil, or_false] at member
  rcases member with rfl | rfl | rfl | rfl
  · rcases quoted with rfl | rfl
    · exact own rfl rfl reach
    · exact absurd reach (apart (by decide))
  · rcases quoted with rfl | rfl
    · exact absurd reach (apart (by decide))
    · exact own rfl rfl reach
  · rcases quoted with rfl | rfl <;> exact absurd reach (apart (by decide))
  · -- a quote is no character of a bare name
    obtain ⟨taken, ⟨behind, split⟩, word, least, -⟩ := reach
    obtain ⟨c, taken, rfl⟩ := List.exists_cons_of_length_pos (Nat.lt_of_succ_le least)
    obtain ⟨rfl, -⟩ := List.cons.inj (split.trans here)
    have first := word c List.mem_cons_self
    rcases quoted with rfl | rfl <;> cases first

/-- Behind a quoted name come blanks, and then what no dot joins to it. -/
theorem subject_reached (quoted : quote = '\x60' ∨ quote = '\x22') (plain : quote ∉ content)
    (undotted : Undotted rest) {start middle : Cursor}
    (here : start.rest = quote :: (content ++ quote :: rest))
    (reach : Reaches Clause.subject start middle) :
    content ≠ [] ∧ middle.captured.lookup "table" = some (quote :: (content ++ [quote])) ∧
      ∃ gap, gap ≠ [] ∧ (∀ c ∈ gap, isBlank c = true) ∧ rest = gap ++ middle.rest := by
  obtain ⟨_, ⟨inner, ⟨named, first, repeats⟩, rfl⟩, gap, ⟨behind, split⟩, blank, least, rfl⟩ := reach
  obtain ⟨some_, left, spans⟩ := name_reached quoted plain here first
  have single : inner = named := by
    rcases Relation.ReflTransGen.cases_head repeats with same | ⟨next, joined, -⟩
    · exact same.symm
    · obtain ⟨_, ⟨blanks, ⟨others, front⟩, all, -, rfl⟩, joined⟩ := reaches_ofList_cons.mp joined
      obtain ⟨_, ⟨c, tail, dot, same, -⟩, -⟩ := reaches_ofList_cons.mp joined
      obtain rfl : c = '.' := beq_iff_eq.mp same
      rw [left] at front
      rw [rest_past (left.trans front.symm)] at dot
      exact absurd (front.symm.trans (congrArg (blanks ++ ·) dot)) (undotted.ne_dot all)
  subst single
  have table : start.rest.take (inner.consumed - start.consumed) = quote :: (content ++ [quote]) :=
    spans.take_eq
  refine ⟨some_, by simp [Cursor.past, table], gap, List.ne_nil_of_length_pos least, blank, ?_⟩
  simp only [left] at split
  simp [Cursor.past, left, ← split]

theorem reaches_span {opener closer : Char} {inner : List Char} (some_ : inner ≠ []) (other : closer ∉ inner)
    {place : Cursor} (here : place.rest = opener :: (inner ++ closer :: rest)) :
    Reaches (Clause.spanOf opener closer) place (place.past (opener :: (inner ++ [closer]))) := by
  have opened : (place.past [opener]).rest = inner ++ closer :: rest := @rest_past place [opener] _ here
  have filled : ((place.past [opener]).past inner).rest = closer :: rest := rest_past opened
  have free : ∀ c ∈ inner, (c != closer) = true :=
    fun c member => bne_iff_ne.mpr fun same => other (same ▸ member)
  refine reaches_ofList_cons.mpr ⟨_, reaches_char here (by simp), ?_⟩
  refine reaches_ofList_cons.mpr ⟨_, reaches_run opened free (List.length_pos_iff.mpr some_), ?_⟩
  have closed := @reaches_char (· == closer) _ closer rest filled (by simp)
  rw [past_past, past_past, List.singleton_append, List.cons_append] at closed
  rwa [past_past, List.singleton_append]

/-- A quoted name with no quote in it is found, if something follows that no dot joins to it. -/
theorem header_quoted (quoted : quote = '\x60' ∨ quote = '\x22') (some_ : content ≠ [])
    (plain : quote ∉ content) (undotted : Undotted rest) (left : rest ≠ []) :
    ∃ found gap body, Clause.header.matchStart
        (alterTable ++ quote :: (content ++ quote :: ' ' :: rest)) = some found ∧
      found.get? "table" = some (quote :: (content ++ [quote])) ∧ found.get? "body" = some body ∧
      (∀ c ∈ gap, isBlank c = true) ∧ ' ' :: rest = gap ++ body := by
  let start : Cursor := ⟨some ' ', quote :: (content ++ quote :: ' ' :: rest), 12, []⟩
  have name : Reaches Clause.name start (start.past (quote :: (content ++ [quote]))) := by
    have span := reaches_span some_ plain (show start.rest = _ from rfl)
    rcases quoted with rfl | rfl
    · exact .inl span
    · exact .inr (.inl span)
  have behind : (start.past (quote :: (content ++ [quote]))).rest = ' ' :: rest :=
    rest_past (by simp [start])
  rw [header_matchStart_eq, run?_opening quoted]
  -- the name and one blank are one way to go on, so the run finds some way
  have ends : (run? Clause.subject start fun middle => run? Clause.body middle fun place =>
      some (⟨place.consumed, place.captured⟩ : Match)).isSome = true := by
    refine run?_isSome (show Clause.name.repeatsNone = true from rfl) name (run?_many_isSome ?_)
    refine run?_isSome (show gap.repeatsNone = true from rfl)
      (@reaches_run isBlank 1 _ [' '] rest behind (List.forall_mem_singleton.mpr (by decide))
        (Nat.le_refl 1)) ?_
    rw [run?_body, if_neg]
    · rfl
    · rwa [rest_past behind]
  obtain ⟨found, ran⟩ := Option.isSome_iff_exists.mp ends
  obtain ⟨middle, reach, ends⟩ := reaches_of_run? ran
  rw [run?_body] at ends
  split at ends
  · cases ends
  · cases ends
    obtain ⟨-, table, gap, -, blank, split⟩ :=
      subject_reached quoted plain ((undotted_cons_blank (by decide)).mpr undotted) rfl reach
    exact ⟨_, gap, middle.rest, ran, table, rfl, blank, split⟩

/-- A quoted name with a quote in it is none to the header. -/
theorem header_doubled (quoted : quote = '\x60' ∨ quote = '\x22') (plain : quote ∉ content) :
    Clause.header.matchStart (alterTable ++ quote :: (content ++ quote :: quote :: rest)) = none := by
  have solid := solid_of_quoted quoted
  have undotted : Undotted (quote :: rest) := by
    rw [Undotted, trimLeft_cons solid]
    rcases quoted with rfl | rfl <;> simp
  rw [header_matchStart_eq, run?_opening quoted]
  cases ran : run? Clause.subject _ _ with
  | none => rfl
  | some found =>
    obtain ⟨middle, reach, -⟩ := reaches_of_run? ran
    obtain ⟨-, -, gap, some_, blank, split⟩ := subject_reached quoted plain undotted rfl reach
    obtain ⟨c, gap, rfl⟩ := List.exists_cons_of_ne_nil some_
    obtain ⟨rfl, -⟩ := List.cons.inj split
    rw [blank _ List.mem_cons_self] at solid
    cases solid

end

end DdlSchema.Schema
