import DdlSchema.Proofs.Text.Words

/-! The tokens of a text: its words and its quoted spans. Read back from the text of a list of segments they
are those of the list, except that spans of one kind that stand side by side have become one. -/

set_option autoImplicit false

namespace DdlSchema.Text

def isToken : Segment → Bool
  | .plain c => isWordChar c
  | .quoted _ => true

def bothWords (first second : Segment) : Bool := isWordSegment first && isWordSegment second

def sameQuote : Segment → Segment → Bool
  | .quoted first, .quoted second => first.head? == second.head?
  | _, _ => false

/-- Side by side the two are one token: word characters of one word, or a span that goes on where the
quote that closed it is written twice. -/
def bonds (first second : Segment) : Bool := bothWords first second || sameQuote first second

/-- The tokens among the segments, neighbours that belong together taken as one. -/
def grouped (together : Segment → Segment → Bool) : List Segment → List (List Char)
  | [] => []
  | segment :: rest =>
    if isToken segment then
      if rest.head?.any (together segment) then (grouped together rest).modifyHead (segment.text ++ ·)
      else segment.text :: grouped together rest
    else grouped together rest

/-- The words, which are the maximal runs of word characters, and the quoted spans. -/
def tokens (list : List Segment) : List (List Char) := grouped bothWords list

theorem tokens_quoted (span : List Char) (rest : List Segment) :
    tokens (.quoted span :: rest) = span :: tokens rest := by
  have alone : ¬ rest.head?.any (bothWords (.quoted span)) = true := by
    cases rest.head? <;> simp [bothWords, isWordSegment]
  rw [tokens, grouped, if_pos (show isToken (.quoted span) = true from rfl), if_neg alone]
  rfl

theorem length_grouped_cons (together : Segment → Segment → Bool) (segment : Segment)
    (rest : List Segment) : (grouped together (segment :: rest)).length =
      (grouped together rest).length +
        (isToken segment && !rest.head?.any (together segment)).toNat := by
  rw [grouped]
  split
  · next token =>
    split
    · next bond => simp [bond]
    · next apart => simp [token, apart]
  · next other => simp [other]

theorem bothWords_blank (segment : Segment) : bothWords segment (.plain ' ') = false := by
  rw [bothWords, show isWordSegment (.plain ' ') = false by decide, Bool.and_false]

theorem tokens_blank (rest : List Segment) : tokens (.plain ' ' :: rest) = tokens rest := by
  rw [tokens, grouped, if_neg (by decide), tokens]

theorem isToken_of_bothWords {first second : Segment} (both : bothWords first second = true) :
    isToken second = true := by
  cases second with
  | plain c => exact (Bool.and_eq_true_iff.mp both).2
  | quoted span => rfl

theorem tokens_ne_nil {segment : Segment} (rest : List Segment) (token : isToken segment = true) :
    tokens (segment :: rest) ≠ [] := by
  induction rest generalizing segment with
  | nil => simp [tokens, grouped, token]
  | cons next rest ih =>
    rw [tokens, grouped, if_pos token]
    split
    · next both =>
      obtain ⟨first, others, same⟩ := List.exists_cons_of_ne_nil (ih (isToken_of_bothWords both))
      rw [← tokens, same]
      exact List.cons_ne_nil _ _
    · exact List.cons_ne_nil _ _

/-- The first tokens come from the first segments, if nothing that follows goes on with them. -/
theorem tokens_cons_append {segment : Segment} {first list : List Segment} {others : List (List Char)}
    (next : first.head?.any (bothWords segment) = list.head?.any (bothWords segment))
    (later : tokens first ++ others = tokens list) :
    tokens (segment :: first) ++ others = tokens (segment :: list) := by
  simp only [tokens, grouped] at later ⊢
  rw [next, ← later]
  split
  · split
    · next both =>
      rw [← next, Option.any_eq_true] at both
      obtain ⟨token, here, both⟩ := both
      obtain ⟨rest, rfl⟩ := List.head?_eq_some_iff.mp here
      obtain ⟨word, words, same⟩ := List.exists_cons_of_ne_nil
        (tokens_ne_nil rest (isToken_of_bothWords both))
      rw [← tokens, same]
      rfl
    · rfl
  · rfl

/-! Spans side by side. -/

theorem head?_joined_plain {list : List Segment} {c : Char} :
    (joined list).head? = some (.plain c) ↔ list.head? = some (.plain c) := by
  cases list with
  | nil => rfl
  | cons segment rest =>
    cases segment with
    | plain d => rfl
    | quoted span =>
      rw [joined]
      split
      · split <;> simp
      · simp

theorem joined_of_apart {list : List Segment}
    (apart : list.IsChain fun first second => sameQuote first second = false) : joined list = list := by
  induction list with
  | nil => rfl
  | cons segment rest ih =>
    obtain ⟨first, later⟩ := List.isChain_cons.mp apart
    cases segment with
    | plain c => rw [joined, ih later]
    | quoted span =>
      rw [joined, ih later]
      split
      · next next others =>
        have other : (span.head? == next.head?) = false := first _ rfl
        rw [other, if_neg Bool.false_ne_true]
      · rfl

theorem any_bothWords_joined (segment : Segment) (list : List Segment) :
    (joined list).head?.any (bothWords segment) = list.head?.any (bothWords segment) := by
  have words : ∀ list : List Segment, list.head?.any (bothWords segment) = true ↔
      ∃ c, list.head? = some (.plain c) ∧ bothWords segment (.plain c) = true := by
    intro list
    rw [Option.any_eq_true]
    constructor
    · rintro ⟨next, here, both⟩
      cases next with
      | plain c => exact ⟨c, here, both⟩
      | quoted span => simp [bothWords, isWordSegment] at both
    · rintro ⟨c, here, both⟩
      exact ⟨_, here, both⟩
  rw [Bool.eq_iff_iff, words, words]
  simp only [head?_joined_plain]

theorem any_sameQuote_joined (span : List Char) {list : List Segment} (faithful : Faithful list) :
    (joined list).head?.any (sameQuote (.quoted span)) = list.head?.any (sameQuote (.quoted span)) := by
  cases list with
  | nil => rfl
  | cons segment rest =>
    cases segment with
    | plain c => rfl
    | quoted other =>
      obtain ⟨⟨quote, tail, rfl, -⟩, -⟩ := faithful
      rw [joined]
      split
      · split <;> rfl
      · rfl

theorem tokens_joined {list : List Segment} (faithful : Faithful list) :
    tokens (joined list) = grouped bonds list := by
  induction list with
  | nil => rfl
  | cons segment rest ih =>
    cases segment with
    | plain c =>
      have next : rest.head?.any (bonds (.plain c)) = (joined rest).head?.any (bothWords (.plain c)) := by
        rw [any_bothWords_joined]
        cases rest.head? with
        | none => rfl
        | some next => simp [bonds, sameQuote]
      rw [joined, tokens, grouped, ← tokens, ih faithful.2, grouped, next]
    | quoted span =>
      have next : rest.head?.any (bonds (.quoted span)) =
          (joined rest).head?.any (sameQuote (.quoted span)) := by
        rw [any_sameQuote_joined span faithful.2]
        rfl
      rw [grouped, if_pos (show isToken (.quoted span) = true from rfl), next, joined, ← ih faithful.2]
      cases read : joined rest with
      | nil => rfl
      | cons first others =>
        cases first with
        | plain c => rfl
        | quoted other =>
          simp only [List.head?_cons, Option.any_some, sameQuote, tokens_quoted]
          split
          · rw [tokens_quoted]
            rfl
          · rw [tokens_quoted, tokens_quoted]
            rfl

theorem tokens_spelled {list : List Segment} (faithful : Faithful list) :
    tokens (segments (spelled list)) = grouped bonds list := by
  rw [segments_spelled faithful, tokens_joined faithful]

end DdlSchema.Text
