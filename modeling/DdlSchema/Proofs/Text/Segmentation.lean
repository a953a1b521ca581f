import DdlSchema.Proofs.Text.Rewriting

/-! Reading segments back from their text. A span that its quote closes is read back whole, except that it
joins a span of the same kind right behind it; a span that is left open reaches the end. So the segments
that are read are the ones that were spelled, up to such joins. -/

set_option autoImplicit false

namespace DdlSchema.Text

theorem spelled_append (first second : List Segment) :
    spelled (first ++ second) = spelled first ++ spelled second := List.flatMap_append

theorem spelled_cons (segment : Segment) (rest : List Segment) :
    spelled (segment :: rest) = segment.text ++ spelled rest := rfl

theorem spelled_plain (written : List Char) : spelled (written.map .plain) = written := by
  induction written with
  | nil => rfl
  | cons c written ih => rw [List.map_cons, spelled_cons, ih]; rfl

theorem spelled_segments (text : List Char) : spelled (segments text) = text := by
  fun_induction segments text with
  | case1 => rfl
  | case2 c rest quote ih =>
    rw [spelled_cons, ih, Segment.text, List.cons_append, quotedTail_append]
  | case3 c rest quote ih => rw [spelled_cons, ih, Segment.text, List.singleton_append]

theorem quote_of_mem_segments {text span : List Char} (member : .quoted span ∈ segments text) :
    ∃ quote tail, span = quote :: tail ∧ isQuote quote = true := by
  fun_induction segments text with
  | case1 => cases member
  | case2 c rest quote ih =>
    rcases List.mem_cons.mp member with same | later
    · cases same
      exact ⟨c, _, rfl, quote⟩
    · exact ih later
  | case3 c rest quote ih => exact ih (by simpa using member)

/-! Spans that are closed. -/

/-- What follows an opening quote ends with the quote that closes it. -/
def closesTail (quote : Char) : List Char → Bool
  | [] => false
  | [c] => c == quote
  | c :: d :: rest =>
    if (c == '\\' && quote == '\x27') || (c == quote && d == quote) then closesTail quote rest
    else if c == quote then false
    else closesTail quote (d :: rest)

section

variable {quote : Char} {tail : List Char}

theorem quotedTail_append_other (closed : closesTail quote tail = true) {rest : List Char}
    (other : rest.head? ≠ some quote) : quotedTail quote (tail ++ rest) = (tail, rest) := by
  fun_induction closesTail quote tail with
  | case1 => cases closed
  | case2 c =>
    have same : c = quote := beq_iff_eq.mp closed
    subst same
    cases rest with
    | nil => rfl
    | cons d rest =>
      have apart : (d == c) = false := beq_eq_false_iff_ne.mpr fun same => other (by simp [same])
      have slash : (c == '\\' && c == '\x27') = false := by
        rw [Bool.and_eq_false_iff, beq_eq_false_iff_ne, beq_eq_false_iff_ne]
        by_cases backslash : c = '\\'
        · exact .inr (backslash ▸ by decide)
        · exact .inl backslash
      simp [quotedTail, apart, slash]
  | case3 c d rest' escape ih =>
    rw [List.cons_append, List.cons_append, quotedTail, if_pos escape, ih closed]
  | case4 c d rest' escape same => cases closed
  | case5 c d rest' escape apart ih =>
    rw [List.cons_append, List.cons_append, quotedTail, if_neg escape, if_neg apart, ← List.cons_append,
      ih closed]

/-- A quote of the same kind right behind counts as one inside. -/
theorem quotedTail_append_quote (closed : closesTail quote tail = true) (rest : List Char) :
    quotedTail quote (tail ++ quote :: rest) =
      (tail ++ quote :: (quotedTail quote rest).1, (quotedTail quote rest).2) := by
  fun_induction closesTail quote tail with
  | case1 => cases closed
  | case2 c =>
    have same : c = quote := beq_iff_eq.mp closed
    subst same
    simp [quotedTail]
  | case3 c d rest' escape ih =>
    rw [List.cons_append, List.cons_append, quotedTail, if_pos escape, ih closed]
    rfl
  | case4 c d rest' escape same => cases closed
  | case5 c d rest' escape apart ih =>
    rw [List.cons_append, List.cons_append, quotedTail, if_neg escape, if_neg apart, ← List.cons_append,
      ih closed]
    rfl

end

theorem closesTail_quotedTail {quote : Char} {text : List Char} (more : (quotedTail quote text).2 ≠ []) :
    closesTail quote (quotedTail quote text).1 = true := by
  fun_induction quotedTail quote text with
  | case1 => exact absurd rfl more
  | case2 => exact absurd rfl more
  | case3 c d rest escape inner after read ih =>
    rw [read] at ih
    rw [closesTail, if_pos escape]
    exact ih more
  | case4 c d rest escape same => simpa [closesTail] using same
  | case5 c d rest escape apart inner after read ih =>
    rw [read] at ih
    have whole := quotedTail_append quote (d :: rest)
    rw [read] at whole
    -- the rest of the span begins where the text goes on
    cases inner with
    | nil => exact absurd (ih more) (by simp [closesTail])
    | cons e inner =>
      cases whole
      rw [closesTail, if_neg escape, if_neg apart]
      exact ih more

/-! Segments whose text can be read back. -/

/-- Plain characters are no quotes, and only the last span may be left open. -/
def Faithful : List Segment → Prop
  | [] => True
  | .plain c :: rest => isQuote c = false ∧ Faithful rest
  | .quoted span :: rest =>
    (∃ quote tail, span = quote :: tail ∧ isQuote quote = true ∧ quotedTail quote tail = (tail, []) ∧
      (rest ≠ [] → closesTail quote tail = true)) ∧ Faithful rest

theorem quotedTail_self (quote : Char) (text : List Char) :
    quotedTail quote (quotedTail quote text).1 = ((quotedTail quote text).1, []) := by
  by_cases more : (quotedTail quote text).2 = []
  · have whole := quotedTail_append quote text
    rw [more, List.append_nil] at whole
    rw [whole]
    exact Prod.ext whole more
  · have own := quotedTail_append_other (closesTail_quotedTail more) (by simp : [].head? ≠ some quote)
    rwa [List.append_nil] at own

theorem faithful_segments (text : List Char) : Faithful (segments text) := by
  fun_induction segments text with
  | case1 => trivial
  | case2 c rest quote ih =>
    refine ⟨⟨c, _, rfl, quote, quotedTail_self c rest, fun others => ?_⟩, ih⟩
    refine closesTail_quotedTail fun none => others ?_
    rw [none, segments]
  | case3 c rest quote ih => exact ⟨by simpa using quote, ih⟩

theorem Faithful.append_plain {written : List Char} (plain : ∀ c ∈ written, isQuote c = false)
    {rest : List Segment} (faithful : Faithful rest) : Faithful (written.map .plain ++ rest) := by
  induction written with
  | nil => exact faithful
  | cons c written ih =>
    exact ⟨plain c List.mem_cons_self, ih fun d member => plain d (List.mem_cons_of_mem _ member)⟩

theorem Faithful.of_append {first second : List Segment} (faithful : Faithful (first ++ second)) :
    Faithful second := by
  induction first with
  | nil => exact faithful
  | cons segment first ih => cases segment <;> exact ih faithful.2

theorem Faithful.front {first second : List Segment} (faithful : Faithful (first ++ second)) :
    Faithful first := by
  induction first with
  | nil => trivial
  | cons segment first ih =>
    cases segment with
    | plain c => exact ⟨faithful.1, ih faithful.2⟩
    | quoted span =>
      obtain ⟨⟨quote, tail, same, isQuote, whole, closed⟩, others⟩ := faithful
      exact ⟨⟨quote, tail, same, isQuote, whole, fun more => closed (by simp [more])⟩, ih others⟩

theorem Edits.faithful {removes : Option Segment → List Segment → Option Segment → Prop}
    {written : List Char} (plain : ∀ c ∈ written, isQuote c = false) {before : Option Segment}
    {list out : List Segment} (edits : Edits removes (written.map .plain) before list out)
    (faithful : Faithful list) : Faithful out := by
  induction edits with
  | nil => trivial
  | @keep _ segment rest out edits ih =>
    cases segment with
    | plain c => exact ⟨faithful.1, ih faithful.2⟩
    | quoted span =>
      obtain ⟨⟨quote, tail, same, isQuote, whole, closed⟩, others⟩ := faithful
      refine ⟨⟨quote, tail, same, isQuote, whole, fun more => closed fun none => more ?_⟩, ih others⟩
      subst none
      exact edits.of_nil
  | replace _ _ _ ih => exact (ih faithful.of_append).append_plain plain

/-- The second list is the first one with some neighbouring spans made one. -/
inductive Joins : List Segment → List Segment → Prop where
  | nil : Joins [] []
  | cons (segment : Segment) {list joined : List Segment} : Joins list joined →
      Joins (segment :: list) (segment :: joined)
  | join {first second : List Char} {list joined : List Segment} :
      Joins list (.quoted second :: joined) →
      Joins (.quoted first :: list) (.quoted (first ++ second) :: joined)

theorem Joins.mem_plain {list joined : List Segment} (joins : Joins list joined) {c : Char}
    (member : .plain c ∈ joined) : .plain c ∈ list := by
  induction joins with
  | nil => exact member
  | cons segment _ ih =>
    rcases List.mem_cons.mp member with rfl | later
    · exact List.mem_cons_self
    · exact List.mem_cons_of_mem _ (ih later)
  | join _ ih => exact List.mem_cons_of_mem _ (ih (by simpa using member))

/-- The segments with neighbouring spans of one kind made one. -/
def joined : List Segment → List Segment
  | [] => []
  | .plain c :: rest => .plain c :: joined rest
  | .quoted span :: rest =>
    match joined rest with
    | .quoted next :: others =>
      if span.head? == next.head? then .quoted (span ++ next) :: others
      else .quoted span :: .quoted next :: others
    | others => .quoted span :: others

theorem joins_joined (list : List Segment) : Joins list (joined list) := by
  induction list with
  | nil => exact .nil
  | cons segment rest ih =>
    cases segment with
    | plain c => exact .cons _ ih
    | quoted span =>
      rw [joined]
      split
      · next second others read =>
        rw [read] at ih
        split
        · exact .join ih
        · exact .cons _ ih
      · exact .cons _ ih

theorem head?_of_segments {text span : List Char} {others : List Segment}
    (read : segments text = .quoted span :: others) : text.head? = span.head? := by
  cases text with
  | nil => rw [segments] at read; cases read
  | cons c rest =>
    rw [segments] at read
    split at read
    · obtain ⟨same, -⟩ := List.cons.inj read
      rw [← Segment.quoted.inj same]
      rfl
    · cases (List.cons.inj read).1

/-- The segments that are read back from faithful ones are these, joined. -/
theorem segments_spelled {list : List Segment} (faithful : Faithful list) :
    segments (spelled list) = joined list := by
  induction list with
  | nil => rw [spelled, List.flatMap_nil, segments, joined]
  | cons segment rest ih =>
    cases segment with
    | plain c =>
      rw [spelled_cons, Segment.text, List.singleton_append, segments, if_neg (by simp [faithful.1]),
        ih faithful.2, joined]
    | quoted span =>
      obtain ⟨⟨quote, tail, rfl, isQuote, whole, closed⟩, others⟩ := faithful
      have later := ih others
      rw [spelled_cons, Segment.text, List.cons_append, segments, if_pos isQuote, joined]
      cases rest with
      | nil => rw [spelled, List.flatMap_nil, List.append_nil, whole, segments, joined]
      | cons next rest =>
        have closed := closed (by simp)
        by_cases same : (spelled (next :: rest)).head? = some quote
        · obtain ⟨after, text⟩ := List.head?_eq_some_iff.mp same
          rw [text, segments, if_pos isQuote] at later
          rw [text, quotedTail_append_quote closed, ← later]
          simp
        · rw [quotedTail_append_other closed same, later]
          split
          · next span others_ read =>
            have other : ¬ ((quote :: tail).head? == span.head?) = true := by
              rw [List.head?_cons, beq_iff_eq, ← head?_of_segments (later.trans read)]
              exact fun opens => same opens.symm
            rw [if_neg other, read]
          · rfl

theorem joins_segments {list : List Segment} (faithful : Faithful list) :
    Joins list (segments (spelled list)) := by
  rw [segments_spelled faithful]
  exact joins_joined list

theorem segments_append_cons {list : List Segment} {c : Char}
    (faithful : Faithful (list ++ [.plain c])) (after : List Char) :
    segments (spelled list ++ c :: after) = segments (spelled list) ++ .plain c :: segments after := by
  have plain : isQuote c = false := faithful.of_append.1
  induction list with
  | nil => simp [spelled, segments, plain]
  | cons segment rest ih =>
    cases segment with
    | plain d =>
      have other : ¬ isQuote d = true := by simp [faithful.1]
      rw [spelled_cons, Segment.text, List.singleton_append, List.cons_append, segments, if_neg other,
        segments, if_neg other, ih faithful.2, List.cons_append]
    | quoted span =>
      obtain ⟨⟨quote, tail, rfl, isQuote, whole, closed⟩, others⟩ := faithful
      have later := ih others
      have closed := closed (by simp)
      rw [spelled_cons, Segment.text, List.cons_append, List.cons_append, List.append_assoc, segments,
        if_pos isQuote, segments, if_pos isQuote]
      by_cases same : (spelled rest).head? = some quote
      · obtain ⟨inside, text⟩ := List.head?_eq_some_iff.mp same
        rw [text, List.cons_append, segments, if_pos isQuote, segments, if_pos isQuote,
          List.cons_append] at later
        obtain ⟨own, others⟩ := List.cons.inj later
        rw [text, List.cons_append, quotedTail_append_quote closed, quotedTail_append_quote closed, others,
          (List.cons.inj (Segment.quoted.inj own)).2, List.cons_append]
      · have other : (spelled rest ++ c :: after).head? ≠ some quote := by
          cases text : spelled rest with
          | nil =>
            rintro ⟨⟩
            rw [plain] at isQuote
            cases isQuote
          | cons d inside => rwa [text] at same
        rw [quotedTail_append_other closed same, quotedTail_append_other closed other, later,
          List.cons_append]

theorem segments_append_plain {list : List Segment} {c : Char} (faithful : Faithful (list ++ [.plain c])) :
    segments (spelled list ++ [c]) = segments (spelled list) ++ [.plain c] := by
  rw [segments_append_cons faithful, segments]

end DdlSchema.Text
