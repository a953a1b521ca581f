import DdlSchema.Proofs.Text.MarkKeeping

/-! Rewriting as a list of edits. Replacing the matches of a pattern keeps each entry of a text or takes it
along with a match, and each match is known by what stands before and behind it. On masked text the
entries are segments, as long as the pattern keeps marks, so that nothing behind this module has to know
how placeholders are written. -/

set_option autoImplicit false

namespace DdlSchema.Text

/-- The second list is the first one with some stretches replaced. What `removes` says of a stretch is
about the first list: the entry before it, its entries, and the entry behind it. -/
inductive Edits {α : Type} (removes : Option α → List α → Option α → Prop) (replacement : List α) :
    Option α → List α → List α → Prop where
  | nil {before : Option α} : Edits removes replacement before [] []
  | keep {before : Option α} {entry : α} {rest out : List α} :
      Edits removes replacement (some entry) rest out →
      Edits removes replacement before (entry :: rest) (entry :: out)
  | replace {before : Option α} {taken rest out : List α} : taken ≠ [] →
      removes before taken rest.head? →
      Edits removes replacement (taken.getLast?.or before) rest out →
      Edits removes replacement before (taken ++ rest) (replacement ++ out)

namespace Edits

variable {α : Type} {removes : Option α → List α → Option α → Prop} {replacement : List α}
  {before : Option α} {rest out : List α}

theorem imp {weaker : Option α → List α → Option α → Prop}
    (follows : ∀ before taken next, removes before taken next → weaker before taken next)
    (edits : Edits removes replacement before rest out) : Edits weaker replacement before rest out := by
  induction edits with
  | nil => exact .nil
  | keep _ ih => exact .keep ih
  | replace some_ here _ ih => exact .replace some_ (follows _ _ _ here) ih

theorem of_nil (edits : Edits removes replacement before [] out) : out = [] := by
  generalize empty : ([] : List α) = list at edits
  cases edits with
  | nil => rfl
  | keep => cases empty
  | replace some_ => exact absurd (List.append_eq_nil_iff.mp empty.symm).1 some_

theorem of_cons {entry : α} (edits : Edits removes replacement before (entry :: rest) out)
    (none : ∀ taken later, entry :: rest = entry :: taken ++ later →
      ¬ removes before (entry :: taken) later.head?) :
    ∃ later, out = entry :: later ∧ Edits removes replacement (some entry) rest later := by
  generalize whole : entry :: rest = list at edits
  cases edits with
  | nil => cases whole
  | keep edits =>
    cases whole
    exact ⟨_, rfl, edits⟩
  | @replace _ taken later _ some_ here edits =>
    obtain ⟨first, taken, rfl⟩ := List.exists_cons_of_ne_nil some_
    cases whole
    exact absurd here (none taken later rfl)

/-- A front in which no stretch begins is kept. -/
theorem of_append {front : List α} (edits : Edits removes replacement before (front ++ rest) out)
    (none : ∀ earlier entry later taken behind, front = earlier ++ entry :: later →
      later ++ rest = taken ++ behind →
      ¬ removes (earlier.getLast?.or before) (entry :: taken) behind.head?) :
    ∃ later, out = front ++ later ∧ Edits removes replacement (front.getLast?.or before) rest later := by
  induction front generalizing before out with
  | nil => exact ⟨out, rfl, edits⟩
  | cons entry front ih =>
    obtain ⟨out, rfl, others⟩ := edits.of_cons fun taken behind same =>
      none [] entry front taken behind rfl (List.cons.inj same).2
    obtain ⟨out, rfl, rest⟩ := ih others fun earlier other later taken behind same => by
      rw [← getLast?_cons_or entry earlier before]
      exact none (entry :: earlier) other later taken behind (by rw [same]; rfl)
    exact ⟨out, rfl, getLast?_cons_or entry front before ▸ rest⟩

end Edits

/-! The text that stands for segments while they are masked. -/

/-- Both ends of a placeholder show the same mark. -/
def Segment.shown : Segment → Char
  | .plain c => c
  | .quoted _ => '\x00'

def spelled (segments : List Segment) : List Char := segments.flatMap Segment.text

def quotedSpans (segments : List Segment) : List (List Char) :=
  segments.filterMap fun
    | .plain _ => none
    | .quoted span => some span

theorem quotedSpans_append (first second : List Segment) :
    quotedSpans (first ++ second) = quotedSpans first ++ quotedSpans second := List.filterMap_append

theorem Edits.quotedSpans {removes : Option Segment → List Segment → Option Segment → Prop}
    {written : List Char} {before : Option Segment} {list out : List Segment}
    (edits : Edits removes (written.map .plain) before list out) :
    List.Sublist (quotedSpans out) (quotedSpans list) := by
  induction edits with
  | nil => exact .slnil
  | @keep _ segment _ _ _ ih =>
    cases segment with
    | plain c => exact ih
    | quoted span => exact ih.cons_cons span
  | @replace _ taken rest out _ _ _ ih =>
    have none : Text.quotedSpans (written.map .plain) = [] := by simp [Text.quotedSpans]
    rw [quotedSpans_append, quotedSpans_append, none, List.nil_append]
    exact ih.trans (List.sublist_append_right _ _)

/-- The text is plain characters and placeholders that stand for the segments. -/
inductive Renders (literals : List (List Char)) : List Segment → List Char → Prop where
  | nil : Renders literals [] []
  | plain {c : Char} {segments : List Segment} {text : List Char} : c ≠ '\x00' → isQuote c = false →
      Renders literals segments text → Renders literals (.plain c :: segments) (c :: text)
  | quoted {number : Nat} {span : List Char} {segments : List Segment} {text : List Char} :
      literals[number]? = some span → Renders literals segments text →
      Renders literals (.quoted span :: segments) (placeholder number ++ text)

theorem isDecimal_repr {number : Nat} {c : Char} (member : c ∈ (Nat.repr number).toList) :
    isDecimal c = true := by
  simp [isDecimal, digitValue?_of_isDigit (isDigit_repr member)]

theorem repr_ne_nil (number : Nat) : (Nat.repr number).toList ≠ [] := by
  rw [Nat.toList_repr]
  exact Nat.toDigits_ne_nil

theorem not_isPlain_of_mem_placeholder {number : Nat} {c : Char} (member : c ∈ placeholder number) :
    isPlain c = false :=
  Pattern.not_isPlain_of_mem_markOf (fun _ => isDecimal_repr) c member

namespace Renders

variable {literals : List (List Char)} {segments : List Segment} {text : List Char}

theorem marked (renders : Renders literals segments text) : Marked literals.length text := by
  induction renders with
  | nil => exact .nil
  | plain other _ _ ih => exact .plain other ih
  | @quoted number span _ _ found _ ih =>
    have bound := (List.getElem?_eq_some_iff.mp found).1
    exact .mark (repr_ne_nil number) (fun c => isDecimal_repr) (by rwa [decimalValue_repr]) ih

theorem append {first second : List Segment} {before after : List Char}
    (front : Renders literals first before) (back : Renders literals second after) :
    Renders literals (first ++ second) (before ++ after) := by
  induction front with
  | nil => exact back
  | plain other quote _ ih => exact .plain other quote ih
  | quoted found _ ih =>
    rw [List.append_assoc]
    exact .quoted found ih

theorem getLast? (renders : Renders literals segments text) :
    segments.getLast?.map Segment.shown = text.getLast? := by
  induction renders with
  | nil => rfl
  | @plain c segments text _ _ renders ih =>
    rw [List.getLast?_cons, List.getLast?_cons, ← ih]
    cases segments.getLast? <;> rfl
  | @quoted number span segments text found renders ih =>
    rw [List.getLast?_cons, List.getLast?_append, ← ih, placeholder, List.getLast?_append]
    cases segments.getLast? <;> rfl

theorem ne_mark (renders : Renders literals segments text) {c : Char} (member : .plain c ∈ segments) :
    c ≠ '\x00' := by
  induction renders with
  | nil => cases member
  | plain other _ _ ih =>
    rcases List.mem_cons.mp member with same | later
    · cases same
      exact other
    · exact ih later
  | quoted _ _ ih => exact ih (by simpa using member)

theorem quoted_of_getLast? (renders : Renders literals segments text)
    (mark : text.getLast? = some '\x00') : ∃ span, segments.getLast? = some (.quoted span) := by
  rw [← renders.getLast?] at mark
  obtain ⟨segment, last, shown⟩ := Option.map_eq_some_iff.mp mark
  cases segment with
  | plain c => exact absurd shown (renders.ne_mark (List.mem_of_getLast? last))
  | quoted span => exact ⟨span, last⟩

theorem head? (renders : Renders literals segments text) :
    segments.head?.map Segment.shown = text.head? := by
  cases renders <;> rfl

theorem of_cons {c : Char} (other : c ≠ '\x00') (renders : Renders literals segments (c :: text)) :
    ∃ rest, segments = .plain c :: rest ∧ isQuote c = false ∧ Renders literals rest text := by
  generalize same : c :: text = whole at renders
  cases renders with
  | nil => cases same
  | plain _ quote renders =>
    cases same
    exact ⟨_, rfl, quote, renders⟩
  | quoted => exact absurd (List.cons.inj same).1 other

/-- Text in which placeholders are whole belongs to segments of its own. -/
theorem split {taken rest : List Char} {bound : Nat} (whole : Marked bound taken)
    (renders : Renders literals segments (taken ++ rest)) :
    ∃ front back, segments = front ++ back ∧ Renders literals front taken ∧
      Renders literals back rest := by
  induction whole generalizing segments with
  | nil => exact ⟨[], segments, rfl, .nil, renders⟩
  | @plain c taken other _ ih =>
    obtain ⟨others, rfl, quote, renders⟩ := renders.of_cons other
    obtain ⟨front, back, rfl, first, second⟩ := ih renders
    exact ⟨_, back, rfl, .plain other quote first, second⟩
  | @mark digits taken nonempty decimal _ _ ih =>
    generalize same : markOf digits ++ taken ++ rest = text at renders
    cases renders with
    | nil => simp [markOf] at same
    | plain other =>
      exact absurd (List.cons.inj same).1.symm other
    | @quoted number span segments text found renders =>
      -- both ways of reading the digits find the same ones
      have here := placeholderTail_digits nonempty decimal (taken ++ rest)
      have there := placeholderTail_digits (repr_ne_nil number) (fun c => isDecimal_repr) text
      have tail : digits ++ '\x00' :: (taken ++ rest) = (Nat.repr number).toList ++ '\x00' :: text := by
        simpa [markOf, placeholder] using same
      rw [tail, there] at here
      cases here
      obtain ⟨front, back, rfl, first, second⟩ := ih renders
      exact ⟨_, back, rfl, .quoted found first, second⟩

theorem of_append {first second : List Segment} (renders : Renders literals (first ++ second) text) :
    ∃ front back, text = front ++ back ∧ Renders literals first front ∧ Renders literals second back := by
  induction first generalizing text with
  | nil => exact ⟨[], text, rfl, .nil, renders⟩
  | cons segment first ih =>
    cases renders with
    | plain other quote renders =>
      obtain ⟨front, back, rfl, own, others⟩ := ih renders
      exact ⟨_, back, rfl, .plain other quote own, others⟩
    | quoted found renders =>
      obtain ⟨front, back, rfl, own, others⟩ := ih renders
      exact ⟨_, back, (List.append_assoc _ _ _).symm, .quoted found own, others⟩

theorem of_written {written : List Char} (ordinary : ∀ c ∈ written, c ≠ '\x00' ∧ isQuote c = false) :
    Renders literals (written.map .plain) written := by
  induction written with
  | nil => exact .nil
  | cons c rest ih =>
    obtain ⟨other, quote⟩ := ordinary c List.mem_cons_self
    exact .plain other quote (ih fun d member => ordinary d (List.mem_cons_of_mem _ member))

theorem eq_of_plain {written : List Char} (renders : Renders literals (written.map .plain) text) :
    text = written := by
  induction written generalizing text with
  | nil =>
    cases renders
    rfl
  | cons c written ih =>
    cases renders with
    | plain _ _ renders => rw [ih renders]

theorem unmask (renders : Renders literals segments text) :
    unmaskText literals text = some (spelled segments) := by
  induction renders with
  | nil => simp [unmaskText, spelled]
  | plain other _ _ ih =>
    rw [unmaskText, if_neg (by simpa using other), ih]
    rfl
  | @quoted number span segments text found _ ih =>
    have tail := placeholderTail_digits (repr_ne_nil number) (fun c => isDecimal_repr) text
    rw [placeholder, List.append_assoc, List.cons_append, List.singleton_append, unmaskText,
      if_pos (by decide)]
    split
    · next digits after read =>
      rw [tail] at read
      cases read
      rw [decimalValue_repr, found, ih]
      rfl
    · next none =>
      rw [tail] at none
      cases none

theorem placeholders (renders : Renders literals segments text) :
    (placeholders text).filterMap (literals[·]?) = quotedSpans segments := by
  induction renders with
  | nil => simp [Text.placeholders, quotedSpans]
  | plain other _ _ ih =>
    rw [placeholders_cons other, ih]
    rfl
  | @quoted number span segments text found _ ih =>
    have read := placeholders_markOf (repr_ne_nil number) (fun c => isDecimal_repr) text
    rw [decimalValue_repr] at read
    rw [show placeholder number = markOf (Nat.repr number).toList from rfl, read,
      List.filterMap_cons_some found, ih]
    rfl

theorem of_plain (plain : ∀ c ∈ text, c ≠ '\x00') (renders : Renders literals segments text) :
    segments = text.map .plain := by
  induction text generalizing segments with
  | nil =>
    cases renders
    rfl
  | cons c text ih =>
    obtain ⟨rest, rfl, -, renders⟩ := renders.of_cons (plain c List.mem_cons_self)
    rw [ih (fun d member => plain d (List.mem_cons_of_mem _ member)) renders, List.map_cons]

end Renders

theorem not_isQuote_of_plain {text : List Char} {c : Char} (member : Segment.plain c ∈ segments text) :
    isQuote c = false := by
  fun_induction segments text with
  | case1 => cases member
  | case2 d rest quote ih =>
    simp only [List.mem_cons, reduceCtorEq, false_or] at member
    exact ih member
  | case3 d rest quote ih =>
    rcases List.mem_cons.mp member with same | later
    · cases same
      simpa using quote
    · exact ih later

theorem renders_maskSegments {list : List Segment} (bare : Segment.plain '\x00' ∉ list)
    (plain : ∀ c, Segment.plain c ∈ list → isQuote c = false) (known : List (List Char)) :
    Renders (known ++ (maskSegments known.length list).literals) list
      (maskSegments known.length list).text := by
  induction list generalizing known with
  | nil => exact .nil
  | cons segment rest ih =>
    have later : Segment.plain '\x00' ∉ rest := fun member => bare (List.mem_cons_of_mem _ member)
    have others : ∀ c, Segment.plain c ∈ rest → isQuote c = false :=
      fun c member => plain c (List.mem_cons_of_mem _ member)
    cases segment with
    | plain c =>
      refine .plain ?_ (plain c List.mem_cons_self) (ih later others known)
      rintro rfl
      exact bare List.mem_cons_self
    | quoted span =>
      have next := ih later others (known ++ [span])
      rw [List.length_append, List.length_singleton, List.append_assoc, List.singleton_append] at next
      exact .quoted (by simp [maskSegments]) next

theorem renders_mask {text : List Char} (bare : Segment.plain '\x00' ∉ segments text) :
    Renders (mask text).literals (segments text) (mask text).text := by
  simpa [mask] using renders_maskSegments bare (fun c => not_isQuote_of_plain) []

/-! What becomes of the segments. -/

namespace Pattern

/-- The match that begins behind `front` takes this stretch. -/
def MatchesAt (pattern : Pattern) (front taken rest : List Char) : Prop :=
  ∃ captured, pattern.matchAt front.getLast? (taken ++ rest) = some ⟨taken.length, captured⟩

/-- The pattern matches the text of a stretch where it stands in the whole text. -/
def Removes (pattern : Pattern) (literals : List (List Char)) (whole : List Char)
    (before : Option Segment) (taken : List Segment) (next : Option Segment) : Prop :=
  ∃ front text rest, whole = front ++ (text ++ rest) ∧ Renders literals taken text ∧
    front.getLast? = before.map Segment.shown ∧ rest.head? = next.map Segment.shown ∧
    pattern.MatchesAt front text rest

/-- A match is what stands up to a place that the pattern reaches. -/
theorem MatchesAt.reaches {pattern : Pattern} {front taken rest : List Char}
    (matched : pattern.MatchesAt front taken rest) :
    ∃ later, later.rest = rest ∧ Reaches pattern ⟨front.getLast?, taken ++ rest, 0, []⟩ later ∧
      Spans ⟨front.getLast?, taken ++ rest, 0, []⟩ later taken := by
  obtain ⟨captured, found⟩ := matched
  obtain ⟨own, later, whole, width, reach, spans⟩ := matchAt_taken found
  obtain ⟨rfl, same⟩ := List.append_inj whole width
  exact ⟨later, same.symm, reach, spans⟩

theorem Removes.reaches {pattern : Pattern} {literals : List (List Char)} {whole : List Char}
    {before next : Option Segment} {taken : List Segment}
    (removes : pattern.Removes literals whole before taken next) :
    ∃ text later, Renders literals taken text ∧ later.rest.head? = next.map Segment.shown ∧
      Reaches pattern ⟨before.map Segment.shown, text ++ later.rest, 0, []⟩ later ∧
      Spans ⟨before.map Segment.shown, text ++ later.rest, 0, []⟩ later text := by
  obtain ⟨front, text, rest, -, renders, behind, ahead, matched⟩ := removes
  obtain ⟨later, rfl, reach, spans⟩ := matched.reaches
  rw [behind] at reach spans
  exact ⟨text, later, renders, ahead, reach, spans⟩

theorem replaceFrom_none {pattern : Pattern} {replacement rest : List Char} {before : Option Char} {c : Char}
    (none : pattern.matchAt before (c :: rest) = none) :
    pattern.replaceFrom replacement 0 before (c :: rest) =
      c :: pattern.replaceFrom replacement 0 (some c) rest := by
  rw [replaceFrom, none]

/-- A front in which no match begins is kept. -/
theorem replaceFrom_front {pattern : Pattern} {replacement front rest : List Char} {before : Option Char}
    (none : ∀ earlier c later, front = earlier ++ c :: later →
      pattern.matchAt (earlier.getLast?.or before) (c :: (later ++ rest)) = none) :
    pattern.replaceFrom replacement 0 before (front ++ rest) =
      front ++ pattern.replaceFrom replacement 0 (front.getLast?.or before) rest := by
  induction front generalizing before with
  | nil => simp
  | cons c front ih =>
    have here : pattern.matchAt before (c :: (front ++ rest)) = .none := none [] c front rfl
    rw [List.cons_append, replaceFrom_none here, getLast?_cons_or, ih fun earlier d later same => by
      rw [← getLast?_cons_or c earlier before]
      exact none (c :: earlier) d later (by rw [same]; rfl)]
    rfl

theorem edits_replaceFrom {pattern : Pattern} (keeps : KeepsMarks pattern) (begins : BeginsPlain pattern)
    {replacement : List Char} (written : ∀ c ∈ replacement, c ≠ '\x00' ∧ isQuote c = false)
    {literals : List (List Char)} {segments : List Segment} {whole front rest : List Char}
    {before : Option Segment} (split : whole = front ++ rest)
    (behind : front.getLast? = before.map Segment.shown) (renders : Renders literals segments rest) :
    ∃ out, Renders literals out (pattern.replaceFrom replacement 0 front.getLast? rest) ∧
      Edits (pattern.Removes literals whole) (replacement.map .plain) before segments out := by
  -- a match is followed by segments further on, which need not be the next ones
  induction size : segments.length using Nat.strongRecOn generalizing segments front rest before with
  | ind count ih =>
    cases renders with
    | nil => exact ⟨[], .nil, .nil⟩
    | @plain c segments rest other quote renders =>
      rcases replaceFrom_step pattern replacement front.getLast? c rest with
        ⟨taken, place, found, text, nonempty, matched, long, reach, spans, replaced⟩ | kept
      · obtain ⟨_, also, inside, -⟩ := keeps reach (renders.plain other quote).marked
        rw [← spans.unique also] at inside
        obtain ⟨first, last, both, own, others⟩ :=
          Renders.split inside (text ▸ renders.plain other quote)
        have some_ : first ≠ [] := by
          rintro rfl
          cases own
          exact nonempty rfl
        have shorter : last.length < count := by
          have sum := congrArg List.length both
          have := List.length_pos_iff.mpr some_
          rw [List.length_append, size] at sum
          omega
        have ends : (front ++ taken).getLast? = (first.getLast?.or before).map Segment.shown := by
          rw [List.getLast?_append, Option.map_or, own.getLast?, behind]
        obtain ⟨out, rendered, edits⟩ := ih _ shorter
          (by rw [split, text, List.append_assoc] : whole = (front ++ taken) ++ place.rest) ends others rfl
        have removes : pattern.Removes literals whole before first (last.head?) :=
          ⟨front, taken, place.rest, by rw [split, text], own, behind, others.head?.symm,
            found.captured, by rw [← text, matched, ← long]⟩
        rw [List.getLast?_append] at rendered
        refine ⟨replacement.map .plain ++ out, ?_, both ▸ .replace some_ removes edits⟩
        rw [replaced]
        exact (Renders.of_written written).append rendered
      · obtain ⟨out, rendered, edits⟩ := ih _ (by simp [← size])
          (by rw [split, List.append_assoc]; rfl : whole = (front ++ [c]) ++ rest)
          (by simp [Segment.shown] : (front ++ [c]).getLast? = (some (.plain c)).map Segment.shown)
          renders rfl
        rw [List.getLast?_append] at rendered
        rw [kept]
        exact ⟨_, rendered.plain other quote, .keep edits⟩
    | @quoted number span segments rest found renders =>
      have last : (placeholder number).getLast? = some '\x00' := by
        rw [placeholder, List.getLast?_append]
        rfl
      obtain ⟨out, rendered, edits⟩ := ih _ (by simp [← size])
        (by rw [split, List.append_assoc] : whole = (front ++ placeholder number) ++ rest)
        (by rw [List.getLast?_append, last]; rfl :
          (front ++ placeholder number).getLast? = (some (.quoted span)).map Segment.shown) renders rfl
      refine ⟨.quoted span :: out, ?_, .keep edits⟩
      rw [List.getLast?_append] at rendered
      rw [replaceFrom_inside begins replacement fun c => not_isPlain_of_mem_placeholder]
      exact .quoted found rendered

theorem edits_replaceAll {pattern : Pattern} (keeps : KeepsMarks pattern) (begins : BeginsPlain pattern)
    {replacement : List Char} (written : ∀ c ∈ replacement, c ≠ '\x00' ∧ isQuote c = false)
    {literals : List (List Char)} {segments : List Segment} {text : List Char}
    (renders : Renders literals segments text) :
    ∃ out, Renders literals out (pattern.replaceAll replacement text) ∧
      Edits (pattern.Removes literals text) (replacement.map .plain) none segments out :=
  @edits_replaceFrom pattern keeps begins replacement written literals segments text [] text none rfl rfl
    renders

end Pattern

end DdlSchema.Text
