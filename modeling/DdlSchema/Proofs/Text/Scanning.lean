import Mathlib.Data.List.Forall2
import DdlSchema.Text.Comment

/-! The removal of comments step by step. Each step takes one or two characters of the text and keeps them
all or only the line breaks among them, so wherever the scanner has come, what it has put out has the
lines of what it has read, with some characters left out. -/

set_option autoImplicit false

namespace DdlSchema.Text

def Advance.width (advance : Advance) : Nat := if advance.takesNext then 2 else 1

theorem Advance.width_pos (advance : Advance) : 0 < advance.width := by
  unfold width
  split <;> decide

def Scanner.stepAt (scanner : Scanner) (text : List Char) (place : Nat) (c : Char) : Advance :=
  scanner.step c text[place + 1]?

/-- The scanner comes to this place of the text, and this is what it has put out by then. -/
inductive Visits (text : List Char) : Nat → Scanner → List Char → Prop where
  | start : Visits text 0 {} []
  | step {place : Nat} {scanner : Scanner} {out : List Char} {c : Char} :
      Visits text place scanner out → text[place]? = some c →
      Visits text (place + (scanner.stepAt text place c).width) (scanner.stepAt text place c).scanner
        (out ++ (scanner.stepAt text place c).kept)

/-! One step. -/

theorem isSome_of_takesNext {scanner : Scanner} {c : Char} {next : Option Char}
    (takes : (scanner.step c next).takesNext = true) : next.isSome = true := by
  cases next with
  | some d => rfl
  | none =>
    exfalso
    revert takes
    unfold Scanner.step readCode readQuoted readLineComment readBlockComment
    cases scanner.scope <;> simp only [reduceCtorEq, beq_iff_eq] <;> split_ifs <;> simp_all

theorem Scanner.scan_cons (scanner : Scanner) (c : Char) (rest : List Char) :
    scanner.scan (c :: rest) = (scanner.step c rest.head?).kept ++
      (scanner.step c rest.head?).scanner.scan (rest.drop ((scanner.step c rest.head?).width - 1)) := by
  cases rest with
  | nil =>
    rw [List.drop_nil]
    simp [scan]
  | cons d rest =>
    rw [scan, List.head?_cons, Advance.width]
    split <;> rfl

section

variable {text : List Char} {place : Nat} {scanner : Scanner} {out : List Char} {c : Char}

theorem Scanner.scan_drop (here : text[place]? = some c) :
    scanner.scan (text.drop place) = (scanner.stepAt text place c).kept ++
      (scanner.stepAt text place c).scanner.scan
        (text.drop (place + (scanner.stepAt text place c).width)) := by
  obtain ⟨bound, rfl⟩ := List.getElem?_eq_some_iff.mp here
  have least := (scanner.stepAt text place text[place]).width_pos
  rw [List.drop_eq_getElem_cons bound, scan_cons, List.head?_drop, ← Scanner.stepAt, List.drop_drop]
  congr 3
  omega

theorem place_le_of_step (here : text[place]? = some c) :
    place + (scanner.stepAt text place c).width ≤ text.length := by
  have bound := (List.getElem?_eq_some_iff.mp here).1
  unfold Advance.width
  split
  · next takes =>
    have more := (List.getElem?_eq_some_iff.mp (Option.isSome_iff_exists.mp
      (isSome_of_takesNext takes)).choose_spec).1
    omega
  · omega

/-! Whole runs. -/

theorem Visits.place_le (visits : Visits text place scanner out) : place ≤ text.length := by
  cases visits with
  | start => exact Nat.zero_le _
  | step _ here => exact place_le_of_step here

/-- What is still to come of the output depends on the scanner and on the rest of the text only. -/
theorem Visits.stripComments_eq (visits : Visits text place scanner out) :
    stripComments text = out ++ scanner.scan (text.drop place) := by
  induction visits with
  | start => rfl
  | step _ here ih => rw [ih, Scanner.scan_drop here, List.append_assoc]

end

theorem Visits.end {text : List Char} {place : Nat} {scanner : Scanner} {out : List Char}
    (visits : Visits text place scanner out) :
    ∃ last, Visits text text.length last (stripComments text) := by
  by_cases more : place < text.length
  · exact (visits.step (List.getElem?_eq_getElem more)).end
  · obtain rfl : place = text.length := Nat.le_antisymm visits.place_le (Nat.not_lt.mp more)
    refine ⟨scanner, ?_⟩
    rw [visits.stripComments_eq, List.drop_length]
    rwa [show scanner.scan [] = [] from rfl, List.append_nil]
  termination_by text.length - place
  decreasing_by
    have least := Advance.width_pos (scanner.stepAt text place text[place])
    omega

theorem visits_end (text : List Char) : ∃ last, Visits text text.length last (stripComments text) :=
  Visits.start.end

/-! Lines. -/

/-- The second text with some characters left out, but no line break. -/
inductive KeepsLines : List Char → List Char → Prop where
  | nil : KeepsLines [] []
  | keep (c : Char) {kept text : List Char} : KeepsLines kept text → KeepsLines (c :: kept) (c :: text)
  | leave {c : Char} {kept text : List Char} : c ≠ '\n' → KeepsLines kept text →
      KeepsLines kept (c :: text)

theorem forall₂_modifyHead {α β : Type} {R : α → β → Prop} {f : α → α} {g : β → β}
    (related : ∀ first second, R first second → R (f first) (g second)) {list : List α} {other : List β}
    (all : List.Forall₂ R list other) : List.Forall₂ R (list.modifyHead f) (other.modifyHead g) := by
  cases all with
  | nil => exact .nil
  | cons head rest => exact .cons (related _ _ head) rest

namespace KeepsLines

theorem refl (text : List Char) : KeepsLines text text := by
  induction text with
  | nil => exact .nil
  | cons c rest ih => exact .keep c ih

theorem append {first second text more : List Char} (front : KeepsLines first text)
    (back : KeepsLines second more) : KeepsLines (first ++ second) (text ++ more) := by
  induction front with
  | nil => exact back
  | keep c _ ih => exact .keep c ih
  | leave other _ ih => exact .leave other ih

variable {kept text : List Char} (keeps : KeepsLines kept text)

include keeps

theorem sublist : kept.Sublist text := by
  induction keeps with
  | nil => exact .slnil
  | keep c _ ih => exact ih.cons_cons c
  | leave _ _ ih => exact ih.cons _

theorem count_eq : kept.count '\n' = text.count '\n' := by
  induction keeps with
  | nil => rfl
  | keep c _ ih => rw [List.count_cons, List.count_cons, ih]
  | leave other _ ih => rw [List.count_cons_of_ne other, ih]

/-- Line by line, what is kept is a part of what was there. -/
theorem lines : List.Forall₂ List.Sublist (kept.splitOn '\n') (text.splitOn '\n') := by
  have cons : ∀ (c : Char) (text : List Char), (c :: text).splitOn '\n' =
      if c = '\n' then [] :: text.splitOn '\n' else (text.splitOn '\n').modifyHead (c :: ·) := by
    intro c text
    simp only [List.splitOn, List.splitOnP_cons_eq_if_modifyHead, beq_iff_eq]
  induction keeps with
  | nil => exact .cons (.refl _) .nil
  | keep c _ ih =>
    rw [cons, cons]
    split
    · exact .cons (.refl _) ih
    · exact forall₂_modifyHead (fun _ _ line => line.cons_cons c) ih
  | @leave c _ _ other _ ih =>
    rw [cons, if_neg other]
    simpa using forall₂_modifyHead (f := id) (fun _ _ line => line.cons c) ih

end KeepsLines

/-- The characters that a step takes. -/
def Advance.taken (advance : Advance) (c : Char) (next : Option Char) : List Char :=
  if advance.takesNext then c :: next.toList else [c]

theorem take_step {text : List Char} {place : Nat} {scanner : Scanner} {c : Char}
    (here : text[place]? = some c) : text.take (place + (scanner.stepAt text place c).width) =
      text.take place ++ (scanner.stepAt text place c).taken c text[place + 1]? := by
  unfold Advance.width Advance.taken
  split
  · rw [← Nat.add_assoc _ 1 1, List.take_add_one, List.take_add_one, here, List.append_assoc]
    rfl
  · rw [List.take_add_one, here]
    rfl

theorem keepsLines_step (scanner : Scanner) (c : Char) (next : Option Char) :
    KeepsLines (scanner.step c next).kept ((scanner.step c next).taken c next) := by
  have none : ∀ {d : Char}, d ≠ '\n' → KeepsLines [] [d] := fun other => .leave other .nil
  -- what a step leaves out are the marks of comments and what stands in them, line breaks excepted
  unfold Scanner.step
  cases scanner.scope with
  | code =>
    simp only [readCode, Advance.taken, beq_iff_eq, Bool.and_eq_true]
    split
    · exact .refl _
    · split
      · next opens =>
        obtain ⟨rfl, rfl⟩ := opens
        exact .leave (by decide) (none (by decide))
      · split
        · next opens =>
          obtain ⟨rfl, -⟩ := opens
          exact none (by decide)
        · split
          · next opens =>
            obtain ⟨rfl, rfl⟩ := opens
            exact .leave (by decide) (none (by decide))
          · exact .refl _
  | quoted quote =>
    simp only [readQuoted, Advance.taken, beq_iff_eq, Bool.and_eq_true]
    split
    · split
      · next doubled =>
        subst doubled
        exact .refl _
      · exact .refl _
    · split
      · cases next <;> exact .refl _
      · exact .refl _
  | lineComment =>
    simp only [readLineComment, Advance.taken, beq_iff_eq]
    split
    · exact .refl _
    · next other => exact none other
  | blockComment =>
    simp only [readBlockComment, Advance.taken, beq_iff_eq, Bool.and_eq_true]
    split
    · next closes =>
      obtain ⟨rfl, rfl⟩ := closes
      exact .leave (by decide) (none (by decide))
    · split
      · exact .refl _
      · next other => exact none other

theorem Visits.keepsLines {text : List Char} {place : Nat} {scanner : Scanner} {out : List Char}
    (visits : Visits text place scanner out) : KeepsLines out (text.take place) := by
  induction visits with
  | start => exact .nil
  | step _ here ih =>
    rw [take_step here]
    exact ih.append (keepsLines_step _ _ _)

theorem keepsLines_stripComments (text : List Char) : KeepsLines (stripComments text) text := by
  obtain ⟨last, visits⟩ := visits_end text
  simpa using visits.keepsLines

/-- Removal of comments keeps the line breaks, and each line of what is left is a part of that line of the
text. So it is at every place that the scan comes to, the end among them: what it puts out there stands in
the line that it stood in. -/
theorem lines_kept (text : List Char) :
    (stripComments text).count '\n' = text.count '\n' ∧
    List.Forall₂ List.Sublist ((stripComments text).splitOn '\n') (text.splitOn '\n') ∧
    (∀ place scanner out, Visits text place scanner out →
      out.count '\n' = (text.take place).count '\n') ∧
    ∃ last, Visits text text.length last (stripComments text) := by
  have whole := keepsLines_stripComments text
  exact ⟨whole.count_eq, whole.lines, fun place scanner out visits => visits.keepsLines.count_eq,
    Visits.start.end⟩

end DdlSchema.Text
