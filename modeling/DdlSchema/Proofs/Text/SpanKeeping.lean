import Mathlib.Data.List.DropRight
import DdlSchema.Proofs.Text.CommentCut

/-! Quoted spans in the removal of comments. A quote that the scanner meets in code opens the span that is
masked there, and the whole of it is kept. So a text loses something just where a comment opens outside
of its spans. -/

set_option autoImplicit false

namespace DdlSchema.Text

/-! The scanner in a span. -/

section

variable {text : List Char} {place : Nat} {scanner : Scanner} {out : List Char}

theorem Visits.advance (visits : Visits text place scanner out) {c : Char} {rest : List Char}
    (here : text.drop place = c :: rest) :
    Visits text (place + (scanner.step c rest.head?).width) (scanner.step c rest.head?).scanner
        (out ++ (scanner.step c rest.head?).kept) ∧
      text.drop (place + (scanner.step c rest.head?).width) =
        rest.drop ((scanner.step c rest.head?).width - 1) := by
  have least := (scanner.step c rest.head?).width_pos
  have first : text[place]? = some c := by
    rw [← Nat.add_zero place, ← List.getElem?_drop, here, List.getElem?_cons_zero]
  have second : text[place + 1]? = rest.head? := by
    rw [← List.getElem?_drop, here, List.getElem?_cons_succ, List.head?_eq_getElem?]
  refine ⟨second ▸ visits.step first, ?_⟩
  rw [← List.drop_drop, here]
  obtain ⟨width, same⟩ := Nat.exists_eq_add_of_lt least
  rw [same, Nat.zero_add, List.drop_succ_cons, Nat.add_sub_cancel]

theorem Visits.quotedTail {quote : Char} {lineStart : Bool}
    (visits : Visits text place ⟨.quoted quote, lineStart⟩ out) {rest : List Char}
    (here : text.drop place = rest) :
    ∃ next, Visits text (place + (Text.quotedTail quote rest).1.length) next
        (out ++ (Text.quotedTail quote rest).1) ∧
      (next = ⟨.code, lineStart⟩ ∨ (Text.quotedTail quote rest).2 = []) := by
  -- the scanner takes an escape in one step, as the recursion does, so both are at the same place
  fun_induction Text.quotedTail quote rest generalizing place out with
  | case1 => exact ⟨_, by simpa using visits, .inr rfl⟩
  | case2 c =>
    obtain ⟨later, -⟩ := visits.advance here
    have single : ((⟨.quoted quote, lineStart⟩ : Scanner).step c none).takesNext = false :=
      Bool.eq_false_iff.mpr fun takes => absurd (isSome_of_takesNext takes) Bool.false_ne_true
    rw [List.head?_nil, Advance.width, single, kept_last] at later
    exact ⟨_, later, .inr rfl⟩
  | case3 c d rest escape inner after read ih =>
    obtain ⟨later, left⟩ := visits.advance here
    rw [List.head?_cons, step_escape lineStart escape] at later left
    rw [read] at ih
    obtain ⟨next, last, there⟩ := ih later left
    refine ⟨next, ?_, there⟩
    rw [List.length_cons, List.length_cons, show place + (inner.length + 1 + 1) =
      place + 2 + inner.length by omega]
    simpa [Advance.width] using last
  | case4 c d rest single same =>
    obtain ⟨later, -⟩ := visits.advance here
    rw [List.head?_cons, step_close lineStart single same] at later
    exact ⟨_, later, .inl rfl⟩
  | case5 c d rest single apart inner after read ih =>
    obtain ⟨later, left⟩ := visits.advance here
    rw [List.head?_cons, step_inside lineStart single apart] at later left
    rw [read] at ih
    obtain ⟨next, last, there⟩ := ih later left
    refine ⟨next, ?_, there⟩
    rw [List.length_cons, show place + (inner.length + 1) = place + 1 + inner.length by omega]
    simpa [Advance.width] using last

theorem Visits.span (visits : Visits text place scanner out) (code : scanner.scope = .code)
    {quote : Char} (here : text[place]? = some quote) (opens : isQuote quote = true) :
    ∃ next, Visits text (quotedEnd text place) next
        (out ++ (text.take (quotedEnd text place)).drop place) ∧
      (next = ⟨.code, false⟩ ∨ quotedEnd text place = text.length) := by
  obtain ⟨rest, split⟩ : ∃ rest, text.drop place = quote :: rest := by
    obtain ⟨bound, rfl⟩ := List.getElem?_eq_some_iff.mp here
    exact ⟨_, List.drop_eq_getElem_cons bound⟩
  have read : scanner.step quote rest.head? = ⟨[quote], false, ⟨.quoted quote, false⟩⟩ := by
    rw [Scanner.step, code]
    simp only [readCode, if_pos opens]
  obtain ⟨later, left⟩ := visits.advance split
  rw [read] at later left
  obtain ⟨next, last, there⟩ := later.quotedTail left
  have ends : quotedEnd text place = place + 1 + (Text.quotedTail quote rest).1.length := by
    rw [quotedEnd, split]
  have whole := quotedTail_append quote rest
  change Visits text (place + 1 + (Text.quotedTail quote rest).1.length) next
    (out ++ [quote] ++ (Text.quotedTail quote rest).1) at last
  change next = ⟨.code, false⟩ ∨ (Text.quotedTail quote rest).2 = [] at there
  generalize Text.quotedTail quote rest = cut at ends whole last there
  obtain ⟨inner, after⟩ := cut
  simp only at ends whole last there
  have span : (text.take (quotedEnd text place)).drop place = quote :: inner := by
    rw [List.drop_take, split, ends, Nat.add_assoc, Nat.add_sub_cancel_left, Nat.add_comm 1,
      List.take_succ_cons, ← whole, List.take_left]
  rw [span, ends]
  refine ⟨next, by simpa using last, there.imp_right fun none => ?_⟩
  have lengths := congrArg List.length split
  have inside := (List.getElem?_eq_some_iff.mp here).1
  rw [List.length_drop, List.length_cons, ← whole, none, List.append_nil] at lengths
  omega

end

/-! Texts without comments. -/

/-- The two characters that open a comment together. -/
def opensPair : Segment → Segment → Bool
  | .plain c, .plain d => (c == '-' && d == '-') || (c == '/' && d == '*')
  | _, _ => false

def Segment.isHash : Segment → Bool
  | .plain c => c == '#'
  | .quoted _ => false

/-- Whether a hash begins a comment behind the segment, if one does in front of it or not. -/
def Segment.leavesStart (lineStart : Bool) : Segment → Bool
  | .plain c => c == '\n' || (lineStart && isBlank c)
  | .quoted _ => false

/-- No comment opens between the spans. -/
def Quiet (lineStart : Bool) : List Segment → Prop
  | [] => True
  | segment :: rest => (∀ next ∈ rest.head?, opensPair segment next = false) ∧
      (lineStart && segment.isHash) = false ∧ Quiet (segment.leavesStart lineStart) rest

theorem quiet_quoted (lineStart : Bool) (span : List Char) (rest : List Segment) :
    Quiet lineStart (.quoted span :: rest) ↔ Quiet false rest := by
  simp [Quiet, opensPair, Segment.isHash, Segment.leavesStart]

theorem head?_segments {text : List Char} {c : Char} (plain : isQuote c = false) :
    (segments text).head? = some (.plain c) ↔ text.head? = some c := by
  cases text with
  | nil => rw [segments]; simp
  | cons d rest =>
    rw [segments]
    split
    · next quote =>
      have other : d ≠ c := by
        rintro rfl
        rw [plain] at quote
        cases quote
      simpa using other
    · simp

theorem opensPair_eq_true {first second : Segment} : opensPair first second = true ↔
    (first = .plain '-' ∧ second = .plain '-') ∨ (first = .plain '/' ∧ second = .plain '*') := by
  cases first <;> cases second <;> simp [opensPair]

theorem forall_head_opensPair (c : Char) (list : List Segment) :
    (∀ next ∈ list.head?, opensPair (.plain c) next = false) ↔
      ¬ ((c = '-' ∧ list.head? = some (.plain '-')) ∨ (c = '/' ∧ list.head? = some (.plain '*'))) := by
  simp only [Bool.eq_false_iff, ne_eq, opensPair_eq_true, Segment.plain.injEq, Option.mem_def]
  constructor
  · rintro alone (⟨rfl, next⟩ | ⟨rfl, next⟩)
    · exact alone _ next (.inl ⟨rfl, rfl⟩)
    · exact alone _ next (.inr ⟨rfl, rfl⟩)
  · rintro alone next here (⟨rfl, rfl⟩ | ⟨rfl, rfl⟩)
    · exact alone (.inl ⟨rfl, here⟩)
    · exact alone (.inr ⟨rfl, here⟩)

theorem quiet_segments_iff (lineStart : Bool) (text : List Char) :
    Quiet lineStart (segments text) ↔ ∀ part ∈ partsFrom lineStart text, part.isComment = false := by
  fun_induction partsFrom lineStart text with
  | case1 => rw [segments]; simp [Quiet]
  | case2 lineStart c rest quote ih =>
    rw [segments, if_pos quote, List.forall_mem_cons, ← ih, quiet_quoted]
    exact (and_iff_right rfl).symm
  | case3 lineStart c rest plain opens ih =>
    rw [segments, if_neg plain]
    refine iff_of_false ?_ fun none => absurd (none _ List.mem_cons_self) (by simp [Part.isComment])
    rintro ⟨alone, unhashed, -⟩
    simp only [Bool.or_eq_true, Bool.and_eq_true, beq_iff_eq] at opens
    rcases opens with ⟨rfl, next⟩ | ⟨rfl, rfl⟩
    · exact absurd (alone _ ((head?_segments (by decide)).mpr next)) (by decide)
    · cases unhashed
  | case4 lineStart c rest plain others opens ih =>
    rw [segments, if_neg plain]
    refine iff_of_false ?_ fun none => absurd (none _ List.mem_cons_self) (by simp [Part.isComment])
    rintro ⟨alone, -⟩
    simp only [Bool.and_eq_true, beq_iff_eq] at opens
    obtain ⟨rfl, next⟩ := opens
    exact absurd (alone _ ((head?_segments (by decide)).mpr next)) (by decide)
  | case5 lineStart c rest plain others more ih =>
    rw [segments, if_neg plain, List.forall_mem_cons, ← ih]
    simp only [Bool.or_eq_true, Bool.and_eq_true, beq_iff_eq, not_or, not_and] at others more
    have alone : ∀ next ∈ (segments rest).head?, opensPair (.plain c) next = false := by
      intro next here
      rw [Bool.eq_false_iff, ne_eq, opensPair_eq_true]
      rintro (⟨⟨rfl⟩, rfl⟩ | ⟨⟨rfl⟩, rfl⟩)
      · exact others.1 rfl ((head?_segments (by decide)).mp here)
      · exact more rfl ((head?_segments (by decide)).mp here)
    have unhashed : (lineStart && (Segment.plain c).isHash) = false := by
      cases lineStart with
      | false => rfl
      | true => simpa [Segment.isHash] using fun same => others.2 same
    exact ⟨fun quiet => ⟨rfl, quiet.2.2⟩, fun quiet => ⟨alone, unhashed, quiet.2⟩⟩

/-! What is lost. -/

theorem length_remains_le (list : List Part) :
    (spelled (remains list)).length ≤ (list.flatMap Part.source).length := by
  induction list with
  | nil => exact Nat.le_refl _
  | cons part rest ih =>
    rw [List.flatMap_cons, List.length_append]
    cases part with
    | kept segment =>
      rw [remains_kept, spelled_cons, List.length_append, Part.source]
      omega
    | comment span =>
      have filtered := List.length_filter_le (· == '\n') span
      rw [remains_comment, spelled_append, spelled_plain, List.length_append, Part.source]
      omega

theorem head_of_comment {lineStart : Bool} {text span : List Char}
    (member : .comment span ∈ partsFrom lineStart text) : ∃ c rest, span = c :: rest ∧ c ≠ '\n' := by
  fun_induction partsFrom lineStart text with
  | case1 => cases member
  | case2 lineStart c rest quote ih => exact ih (by simpa using member)
  | case3 lineStart c rest plain opens ih =>
    rcases List.mem_cons.mp member with same | later
    · refine ⟨c, _, Part.comment.inj same, ?_⟩
      rintro rfl
      simp at opens
    · exact ih later
  | case4 lineStart c rest plain others opens ih =>
    rcases List.mem_cons.mp member with same | later
    · refine ⟨c, _, Part.comment.inj same, ?_⟩
      rintro rfl
      simp at opens
    · exact ih later
  | case5 lineStart c rest plain others more ih => exact ih (by simpa using member)

theorem length_remains_lt {lineStart : Bool} {text span : List Char}
    (member : .comment span ∈ partsFrom lineStart text) :
    (spelled (remains (partsFrom lineStart text))).length < text.length := by
  obtain ⟨c, rest, same, other⟩ := head_of_comment member
  obtain ⟨before, after, split⟩ := List.append_of_mem member
  have front := length_remains_le before
  have back := length_remains_le after
  have lost : (span.filter (· == '\n')).length < span.length := by
    rw [same, List.filter_cons_of_neg (by simpa using other), List.length_cons]
    exact Nat.lt_succ_of_le (List.length_filter_le _ _)
  have whole := congrArg List.length (source_partsFrom lineStart text)
  rw [split, remains_append, remains_comment, spelled_append, spelled_append, spelled_plain]
  rw [split, List.flatMap_append, List.flatMap_cons, Part.source] at whole
  simp only [List.length_append] at whole ⊢
  omega

theorem remains_of_kept {list : List Part} (none : ∀ part ∈ list, part.isComment = false) :
    spelled (remains list) = list.flatMap Part.source := by
  induction list with
  | nil => rfl
  | cons part rest ih =>
    cases part with
    | kept segment =>
      rw [remains_kept, spelled_cons, ih fun other member => none other (List.mem_cons_of_mem _ member)]
      rfl
    | comment span => cases none _ List.mem_cons_self

theorem stripComments_eq_self_iff (text : List Char) :
    stripComments text = text ↔ ∀ part ∈ parts text, part.isComment = false := by
  rw [stripComments_eq_remains]
  constructor
  · intro same part member
    cases part with
    | kept segment => rfl
    | comment span => exact absurd (congrArg List.length same) (Nat.ne_of_lt (length_remains_lt member))
  · intro none
    rw [remains_of_kept none, parts, source_partsFrom]

/-! Places where a comment opens. -/

/-- Two dashes, a slash and a star, or a hash with only blanks in front of it on its line. -/
def OpensComment (text : List Char) (place : Nat) : Prop :=
  (text[place]? = some '-' ∧ text[place + 1]? = some '-') ∨
  (text[place]? = some '/' ∧ text[place + 1]? = some '*') ∨
  (text[place]? = some '#' ∧
    ((text.take place).rtakeWhile (· != '\n')).all isBlank = true)

/-- The place is one in a quoted span. -/
def InSpan (list : List Segment) (place : Nat) : Prop :=
  ∃ before span after, list = before ++ .quoted span :: after ∧ (spelled before).length ≤ place ∧
    place < (spelled before).length + span.length

theorem inSpan_cons (segment : Segment) (rest : List Segment) (place : Nat) :
    InSpan (segment :: rest) (segment.text.length + place) ↔ InSpan rest place := by
  constructor
  · rintro ⟨before, span, after, split, least, bound⟩
    cases before with
    | nil =>
      obtain ⟨rfl, rfl⟩ := List.cons.inj split
      simp only [Segment.text, spelled, List.flatMap_nil, List.length_nil] at bound
      omega
    | cons first before =>
      obtain ⟨rfl, rfl⟩ := List.cons.inj split
      rw [spelled_cons, List.length_append] at least bound
      exact ⟨before, span, after, rfl, by omega, by omega⟩
  · rintro ⟨before, span, after, rfl, least, bound⟩
    refine ⟨segment :: before, span, after, rfl, ?_, ?_⟩ <;>
      rw [spelled_cons, List.length_append] <;> omega

theorem not_inSpan_plain (c : Char) (rest : List Segment) : ¬ InSpan (.plain c :: rest) 0 := by
  rintro ⟨before, span, after, split, least, bound⟩
  cases before with
  | nil => cases split
  | cons first before =>
    obtain ⟨rfl, -⟩ := List.cons.inj split
    rw [spelled_cons, List.length_append] at least
    exact absurd least (by simp [Segment.text])

theorem inSpan_quoted {span : List Char} (rest : List Segment) {place : Nat}
    (bound : place < span.length) : InSpan (.quoted span :: rest) place :=
  ⟨[], span, rest, rfl, Nat.zero_le _, by simpa [spelled] using bound⟩

theorem getLast?_of_closesTail {quote : Char} {tail : List Char} (closed : closesTail quote tail = true) :
    tail.getLast? = some quote := by
  fun_induction closesTail quote tail with
  | case1 => cases closed
  | case2 c => rw [beq_iff_eq.mp closed]; rfl
  | case3 c d rest escape ih =>
    have last := ih closed
    cases rest with
    | nil => cases last
    | cons e rest => simpa [List.getLast?_cons_cons] using last
  | case4 c d rest escape same => cases closed
  | case5 c d rest escape apart ih => rw [List.getLast?_cons_cons]; exact ih closed

theorem head?_spelled {list : List Segment} (faithful : Faithful list) {c : Char}
    (plain : isQuote c = false) : (spelled list).head? = some c ↔ list.head? = some (.plain c) := by
  cases list with
  | nil => simp [spelled]
  | cons segment rest =>
    cases segment with
    | plain d => simp [spelled_cons, Segment.text]
    | quoted span =>
      obtain ⟨⟨quote, tail, rfl, isQuote, -⟩, -⟩ := faithful
      have other : quote ≠ c := by
        rintro rfl
        rw [plain] at isQuote
        cases isQuote
      simp [spelled_cons, Segment.text, other]

/-- Whether a hash would begin a comment behind this text, if all its comments are left in it. -/
def endsBlank (front : List Char) : Bool := (front.rtakeWhile (· != '\n')).all isBlank

theorem endsBlank_concat (front : List Char) (c : Char) :
    endsBlank (front ++ [c]) = (c == '\n' || (endsBlank front && isBlank c)) := by
  rw [endsBlank, List.rtakeWhile_concat]
  by_cases ends : c = '\n'
  · simp [ends]
  · simp [ends, endsBlank]

theorem not_opensComment_iff (front : List Char) {c : Char} {rest : List Segment}
    (faithful : Faithful rest) : ¬ OpensComment (front ++ c :: spelled rest) front.length ↔
      (∀ next ∈ rest.head?, opensPair (.plain c) next = false) ∧
        (endsBlank front && (Segment.plain c).isHash) = false := by
  have second : (front ++ c :: spelled rest)[front.length + 1]? = (spelled rest).head? := by
    rw [List.getElem?_append_right (Nat.le_add_right _ _), Nat.add_sub_cancel_left,
      List.getElem?_cons_succ, List.head?_eq_getElem?]
  rw [forall_head_opensPair, OpensComment, second, head?_spelled faithful (by decide),
    head?_spelled faithful (by decide), List.take_left, ← endsBlank]
  simp only [List.getElem?_append_right (Nat.le_refl _), Nat.sub_self, List.getElem?_cons_zero,
    Option.some.injEq, not_or, Bool.eq_false_iff, Segment.isHash, ne_eq, Bool.and_eq_true, beq_iff_eq,
    and_assoc, and_comm]

theorem ne_newline_of_isQuote {c : Char} (quote : isQuote c = true) : c ≠ '\n' := by
  rintro rfl
  cases quote

theorem isBlank_of_isQuote {c : Char} (quote : isQuote c = true) : isBlank c = false := by
  simp only [isQuote, Bool.or_eq_true, beq_iff_eq] at quote
  rcases quote with (rfl | rfl) | rfl <;> decide

/-- Between the spans no comment opens exactly where all places at which one could are in the spans. -/
theorem quiet_iff_places {list : List Segment} (faithful : Faithful list) {front : List Char}
    {lineStart : Bool} (start : list ≠ [] → lineStart = endsBlank front) : Quiet lineStart list ↔
      ∀ place, OpensComment (front ++ spelled list) (front.length + place) → InSpan list place := by
  induction list generalizing front lineStart with
  | nil =>
    refine iff_of_true trivial fun place opens => ?_
    have beyond : (front ++ spelled [])[front.length + place]? = none := by simp [spelled]
    simp [OpensComment, beyond] at opens
  | cons segment rest ih =>
    obtain rfl := start (by simp)
    cases segment with
    | plain c =>
      -- the character goes over to the front, so all places move by one
      have later := @ih faithful.2 (front ++ [c]) _ fun _ => (endsBlank_concat front c).symm
      have split : front ++ [c] ++ spelled rest = front ++ spelled (.plain c :: rest) := by
        simp [spelled_cons, Segment.text]
      rw [split, List.length_append, List.length_singleton] at later
      rw [Quiet, ← and_assoc, ← not_opensComment_iff front faithful.2, Segment.leavesStart, later]
      constructor
      · rintro ⟨none, all⟩ place opens
        cases place with
        | zero => exact absurd opens none
        | succ place =>
          have inside := all place (by rwa [Nat.add_assoc, Nat.add_comm 1])
          have shifted := (inSpan_cons (.plain c) rest place).mpr inside
          rwa [Nat.add_comm] at shifted
      · intro all
        refine ⟨fun opens => not_inSpan_plain c rest (all 0 opens), fun place opens => ?_⟩
        exact (inSpan_cons (.plain c) rest place).mp (all _ (by rwa [← Nat.add_assoc]))
    | quoted span =>
      obtain ⟨⟨quote, tail, rfl, isQuote, -, closed⟩, others⟩ := faithful
      -- a span ends with its quote, so what follows begins no line
      have behind : rest ≠ [] → false = endsBlank (front ++ quote :: tail) := by
        intro more
        have last : (quote :: tail).getLast? = some quote := by
          have ends := getLast?_of_closesTail (closed more)
          cases tail with
          | nil => cases ends
          | cons c tail => rwa [List.getLast?_cons_cons]
        obtain ⟨inner, same⟩ := List.getLast?_eq_some_iff.mp last
        rw [same, ← List.append_assoc, endsBlank_concat, isBlank_of_isQuote isQuote, Bool.and_false,
          Bool.or_false, beq_eq_false_iff_ne.mpr (ne_newline_of_isQuote isQuote)]
      have later := ih others behind
      have split : front ++ quote :: tail ++ spelled rest =
          front ++ spelled (.quoted (quote :: tail) :: rest) := by
        simp [spelled_cons, Segment.text]
      rw [split, List.length_append] at later
      rw [quiet_quoted, later]
      constructor
      · intro all place opens
        by_cases bound : place < (quote :: tail).length
        · exact inSpan_quoted rest bound
        · obtain ⟨more, rfl⟩ := Nat.exists_eq_add_of_le (Nat.not_lt.mp bound)
          exact (inSpan_cons (.quoted (quote :: tail)) rest more).mpr
            (all more (by rwa [Nat.add_assoc]))
      · intro all place opens
        exact (inSpan_cons (.quoted (quote :: tail)) rest place).mp (all _ (by rwa [← Nat.add_assoc]))

/-- Spans are kept: where the scanner meets a quote in code, it keeps the whole span that is masked there
and goes on in code behind it. A text is left as it is just where comments open inside of spans only. -/
theorem spans_kept (text : List Char) :
    (∀ place scanner out quote, Visits text place scanner out → scanner.scope = .code →
      text[place]? = some quote → isQuote quote = true →
      ∃ next, Visits text (quotedEnd text place) next
          (out ++ (text.take (quotedEnd text place)).drop place) ∧
        (next = ⟨.code, false⟩ ∨ quotedEnd text place = text.length)) ∧
    (stripComments text = text ↔ ∀ place, OpensComment text place → InSpan (segments text) place) := by
  refine ⟨fun place scanner out quote visits code here opens => visits.span code here opens, ?_⟩
  have places := @quiet_iff_places _ (faithful_segments text) [] true fun _ => rfl
  rw [spelled_segments] at places
  rw [stripComments_eq_self_iff, parts, ← quiet_segments_iff, places]
  simp

end DdlSchema.Text
