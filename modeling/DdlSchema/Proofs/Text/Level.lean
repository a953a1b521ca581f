import DdlSchema.Proofs.Text.Elements

/-! Patterns and levels. A pattern that takes neither parentheses nor commas stays level, and so does one
that puts parentheses around what keeps to the level inside. -/

set_option autoImplicit false

namespace DdlSchema.Text.Pattern

/-! Patterns whose matches stay level. -/

/-- From some level on, what the pattern takes leaves the level as it is. -/
def StaysLevel (floor : Nat) (pattern : Pattern) : Prop :=
  ∀ ⦃place later : Cursor⦄ ⦃taken : List Char⦄, Reaches pattern place later → Spans place later taken →
    ∀ level, floor ≤ level → ∀ rest,
      levelBehind? level ((taken ++ rest).map .plain) = levelBehind? level (rest.map .plain)

def LevelKept (floor : Nat) (taken : List Char) : Prop :=
  ∀ level, floor ≤ level → ∀ rest,
    levelBehind? level ((taken ++ rest).map .plain) = levelBehind? level (rest.map .plain)

section

variable {floor : Nat} {first second body : Pattern}

theorem LevelKept.append {front back : List Char} (before : LevelKept floor front)
    (after : LevelKept floor back) : LevelKept floor (front ++ back) := by
  intro level high rest
  rw [List.append_assoc, before level high, after level high]

theorem StaysLevel.seq (before : StaysLevel floor first) (after : StaysLevel floor second) :
    StaysLevel floor (.seq first second) :=
  Takes.seq LevelKept.append before after

theorem StaysLevel.either (left : StaysLevel floor first) (right : StaysLevel floor second) :
    StaysLevel floor (.either first second) :=
  Takes.either left right

theorem StaysLevel.many (stays : StaysLevel floor body) : StaysLevel floor (.many body) :=
  Takes.many (fun _ _ _ => rfl) LevelKept.append stays

theorem StaysLevel.cons {rest : List Pattern} (before : StaysLevel floor first)
    (after : StaysLevel floor (ofList rest)) : StaysLevel floor (ofList (first :: rest)) := by
  intro place later taken reach
  exact before.seq after (reaches_ofList_cons.mp reach)

end

/-- Commas count on the lowest level only. -/
theorem staysLevel_of_avoids {floor : Nat} {pattern : Pattern} (opening : pattern.avoids '(' = true)
    (closing : pattern.avoids ')' = true) (comma : 0 < floor ∨ pattern.avoids ',' = true) :
    StaysLevel floor pattern := by
  intro place later taken reach spans level high rest
  have opens := not_mem_of_avoids opening reach spans
  have closes := not_mem_of_avoids closing reach spans
  have commas : 0 < level ∨ ',' ∉ taken :=
    comma.imp (fun deep => Nat.lt_of_lt_of_le deep high) fun avoids =>
      not_mem_of_avoids avoids reach spans
  clear reach spans
  induction taken with
  | nil => rfl
  | cons c taken ih =>
    simp only [List.mem_cons, not_or] at opens closes commas
    -- a comma separates on the lowest level only
    have apart : (c == ',' && level == 0) = false := by
      rcases commas with deep | other
      · rw [Bool.and_eq_false_iff, beq_eq_false_iff_ne (b := 0)]
        exact .inr (by omega)
      · simp [Ne.symm other.1]
    have deeper : (Segment.plain c).depthBehind level = level := by
      simp [Segment.depthBehind, Ne.symm opens.1, Ne.symm closes.1]
    rw [List.cons_append, List.map_cons, levelBehind?, deeper,
      ih opens.2 closes.2 (commas.imp_right And.right)]
    simp [Segment.separates, Segment.isClosing, apart, Ne.symm closes.1]

end DdlSchema.Text.Pattern

namespace DdlSchema.Text

theorem Renders.levelBehind? {literals : List (List Char)} {list : List Segment} {text : List Char}
    (renders : Renders literals list text) (level : Nat) :
    Text.levelBehind? level list = Text.levelBehind? level (text.map .plain) := by
  induction renders generalizing level with
  | nil => rfl
  | plain _ _ _ ih =>
    rw [List.map_cons, Text.levelBehind?, Text.levelBehind?, ih]
  | @quoted number span list text found _ ih =>
    rw [Text.levelBehind?, if_neg (by simp [Segment.separates, Segment.isClosing]), ih]
    have skip : ∀ {front : List Char}, (∀ c ∈ front, c ≠ '(' ∧ c ≠ ')' ∧ c ≠ ',') →
        Text.levelBehind? level ((front ++ text).map .plain) =
          Text.levelBehind? level (text.map .plain) := by
      intro front other
      induction front with
      | nil => rfl
      | cons c front ih =>
        obtain ⟨opens, closes, comma⟩ := other c List.mem_cons_self
        rw [List.cons_append, List.map_cons, Text.levelBehind?]
        simpa [Segment.separates, Segment.isClosing, Segment.depthBehind, opens, closes, comma] using
          ih fun d member => other d (List.mem_cons_of_mem _ member)
    refine (skip fun c member => ?_).symm
    have inside := not_isPlain_of_mem_placeholder member
    refine ⟨?_, ?_, ?_⟩ <;> rintro rfl <;> exact absurd inside (by decide)

end DdlSchema.Text
