import DdlSchema.Proofs.Text.Quotation
import DdlSchema.Proofs.Text.Segmentation

/-! Where a comma list is cut. Its pieces end at the commas on level zero outside quotes, but a quote is
told apart from its content by itself: a backslash in front of it does not matter. So these are the
spans of a text as long as none of them escapes a quote. -/

set_option autoImplicit false

namespace DdlSchema.Text

/-! Spans in which a backslash is a character like any other. -/

def plainTail (quote : Char) : List Char → List Char × List Char
  | [] => ([], [])
  | [c] => ([c], [])
  | c :: d :: rest =>
    if c == quote && d == quote then
      let (inner, after) := plainTail quote rest
      (c :: d :: inner, after)
    else if c == quote then ([c], d :: rest)
    else
      let (inner, after) := plainTail quote (d :: rest)
      (c :: inner, after)

theorem plainTail_append (quote : Char) (text : List Char) :
    (plainTail quote text).1 ++ (plainTail quote text).2 = text := by
  fun_induction plainTail quote text <;> simp_all

theorem plainTail_length_le (quote : Char) (text : List Char) :
    (plainTail quote text).2.length ≤ text.length := by
  have same := congrArg List.length (plainTail_append quote text)
  simp only [List.length_append] at same
  omega

/-- The text cut into such spans and the characters between them. -/
def plainSegments : List Char → List Segment
  | [] => []
  | c :: rest =>
    if isQuote c then .quoted (c :: (plainTail c rest).1) :: plainSegments (plainTail c rest).2
    else .plain c :: plainSegments rest
  termination_by text => text.length
  decreasing_by
    · have := plainTail_length_le c rest
      simp only [List.length_cons]
      omega
    · simp

/-! Pieces. -/

def Segment.rise : Segment → Int
  | .plain c => if c == '(' then 1 else if c == ')' then -1 else 0
  | .quoted _ => 0

def leveled (level : Int) (list : List Segment) : List (Int × Segment) :=
  (list.scanl (fun level segment => level + segment.rise) level).zip list

/-- A comma on level zero that stands in no span. -/
def isSeparator : Int × Segment → Bool
  | (level, .plain c) => c == ',' && level == 0
  | (_, .quoted _) => false

def separated (level : Int) (list : List Segment) : List (List Char) :=
  ((leveled level list).splitOnP isSeparator).map fun piece => spelled (piece.map Prod.snd)

theorem separated_cons (level : Int) (segment : Segment) (rest : List Segment) :
    separated level (segment :: rest) =
      if isSeparator (level, segment) then [] :: separated (level + segment.rise) rest
      else (separated (level + segment.rise) rest).modifyHead (segment.text ++ ·) := by
  have first : leveled level (segment :: rest) =
      (level, segment) :: leveled (level + segment.rise) rest := by
    rw [leveled, List.scanl_cons, List.zip_cons_cons]
    rfl
  rw [separated, first, List.splitOnP_cons_eq_if_modifyHead]
  split
  · rfl
  · rw [separated]
    cases (leveled (level + segment.rise) rest).splitOnP isSeparator <;> rfl

theorem putFront_eq {pieces : List (List Char)} (some_ : pieces ≠ []) (c : Char) :
    putFront c pieces = pieces.modifyHead (c :: ·) := by
  cases pieces with
  | nil => exact absurd rfl some_
  | cons piece others => rfl

theorem ne_comma_of_isQuote {c : Char} (quote : isQuote c = true) : (c == ',') = false := by
  rw [beq_eq_false_iff_ne]
  rintro rfl
  cases quote

theorem commaStep_plain (level : Int) {c : Char} (plain : isQuote c = false) :
    commaStep (none, level) c = (none, level + (Segment.plain c).rise) := by
  simp only [commaStep, plain, Bool.false_eq_true, if_false, Segment.rise]
  split
  · rfl
  · split
    · rfl
    · rw [Int.add_zero]

section

variable {quote : Char} (level : Int) (text : List Char)

theorem commaPieces_opened (opens : isQuote quote = true) :
    commaPieces none level (quote :: text) =
      (commaPieces (some quote) level text).modifyHead (quote :: ·) := by
  rw [commaPieces_cons]
  simp only [commaStep, opens, ne_comma_of_isQuote opens, if_true, Bool.and_false, Bool.false_and,
    Bool.false_eq_true, if_false]
  exact putFront_eq (commaPieces_ne_nil _ _ _) quote

theorem commaPieces_span (opens : isQuote quote = true) :
    commaPieces (some quote) level text =
      (commaPieces none level (plainTail quote text).2).modifyHead ((plainTail quote text).1 ++ ·) := by
  have step : ∀ c text, commaPieces (some quote) level (c :: text) =
      (commaPieces (if c == quote then none else some quote) level text).modifyHead (c :: ·) := by
    intro c text
    rw [commaPieces_cons, commaStep]
    simp only [Option.isNone_some, Bool.false_and, Bool.false_eq_true, if_false]
    exact putFront_eq (commaPieces_ne_nil _ _ _) c
  fun_induction plainTail quote text with
  | case1 => rfl
  | case2 c =>
    rw [step]
    split <;> rfl
  | case3 c d rest both inner after read ih =>
    -- the second quote opens what the first one has closed
    rw [read] at ih
    obtain ⟨rfl, rfl⟩ : c = quote ∧ d = quote := by simpa using both
    rw [step, beq_self_eq_true, if_pos rfl, commaPieces_opened level rest opens, ih,
      List.modifyHead_modifyHead, List.modifyHead_modifyHead]
    rfl
  | case4 c d rest other same =>
    rw [step, if_pos same]
    rfl
  | case5 c d rest other apart inner after read ih =>
    rw [read] at ih
    rw [step, if_neg apart, ih, List.modifyHead_modifyHead]
    rfl

theorem commaPieces_eq_separated :
    commaPieces none level text = separated level (plainSegments text) := by
  fun_induction plainSegments text generalizing level with
  | case1 => rfl
  | case2 c rest opens ih =>
    rw [commaPieces_opened level rest opens, commaPieces_span level rest opens, ih, separated_cons,
      List.modifyHead_modifyHead]
    simp only [isSeparator, Bool.false_eq_true, if_false, Segment.rise, Int.add_zero]
    rfl
  | case3 c rest other ih =>
    have plain : isQuote c = false := by simpa using other
    rw [separated_cons, ← ih, commaPieces_cons, commaStep_plain level plain]
    simp only [Option.isNone_none, Bool.true_and, isSeparator]
    rw [putFront_eq (commaPieces_ne_nil _ _ _)]
    rfl

end

/-! Escaped quotes. -/

theorem plainTail_of_ne {quote : Char} (other : quote ≠ '\x27') (text : List Char) :
    plainTail quote text = quotedTail quote text := by
  have never : ∀ c : Char, (c == '\\' && quote == '\x27') = false := by simp [other]
  fun_induction plainTail quote text with
  | case1 => rfl
  | case2 c => rfl
  | case3 c d rest both inner after read ih => rw [quotedTail, never, Bool.false_or, if_pos both, ← ih, read]
  | case4 c d rest other same => rw [quotedTail, never, Bool.false_or, if_neg other, if_pos same]
  | case5 c d rest other apart inner after read ih =>
    rw [quotedTail, never, Bool.false_or, if_neg other, if_neg apart, ← ih, read]

/-- What stands behind the first escaped quote, in what follows the opening quote of a span. -/
def behindEscape? : List Char → Option (List Char)
  | [] | [_] => none
  | c :: d :: rest =>
    if c == '\\' then if d == '\x27' then some rest else behindEscape? rest
    else behindEscape? (d :: rest)

theorem behindEscape?_cons {c : Char} (other : c ≠ '\\') (text : List Char) :
    behindEscape? (c :: text) = behindEscape? text := by
  cases text with
  | nil => rfl
  | cons d rest => rw [behindEscape?, if_neg (by simpa using other)]

theorem plainTail_cons {quote c : Char} (other : c ≠ quote) (text : List Char) :
    plainTail quote (c :: text) = (c :: (plainTail quote text).1, (plainTail quote text).2) := by
  have apart : (c == quote) = false := beq_eq_false_iff_ne.mpr other
  cases text with
  | nil => rfl
  | cons d rest =>
    rw [plainTail, apart, Bool.false_and, if_neg Bool.false_ne_true, if_neg Bool.false_ne_true]

theorem plainTail_closed {quote c : Char} (other : c ≠ quote) (text : List Char) :
    plainTail quote (quote :: c :: text) = ([quote], c :: text) := by
  have apart : (c == quote) = false := beq_eq_false_iff_ne.mpr other
  rw [plainTail, apart, Bool.and_false, if_neg Bool.false_ne_true, if_pos (beq_self_eq_true quote)]

theorem plainTail_doubled (quote : Char) (text : List Char) :
    plainTail quote (quote :: quote :: text) =
      (quote :: quote :: (plainTail quote text).1, (plainTail quote text).2) := by
  rw [plainTail, beq_self_eq_true, Bool.and_self, if_pos rfl]

theorem quotedTail_ne_nil (quote c : Char) (text : List Char) : (quotedTail quote (c :: text)).1 ≠ [] := by
  cases text with
  | nil => exact List.cons_ne_nil _ _
  | cons d rest =>
    rw [quotedTail]
    split
    · exact List.cons_ne_nil _ _
    · split <;> exact List.cons_ne_nil _ _

theorem plainTail_quote_iff : ∀ text : List Char,
    plainTail '\x27' ('\x27' :: text) =
      ('\x27' :: (quotedTail '\x27' text).1, (quotedTail '\x27' text).2) ↔ ∀ c ∈ text, c = '\x27'
  | [] => by simp [plainTail, quotedTail]
  | [c] => by
    by_cases same : c = '\x27' <;> simp [plainTail, quotedTail, same]
  | c :: d :: rest => by
    by_cases first : c = '\x27'
    · subst first
      by_cases second : d = '\x27'
      · subst second
        have both : quotedTail '\x27' ('\x27' :: '\x27' :: rest) =
            ('\x27' :: '\x27' :: (quotedTail '\x27' rest).1, (quotedTail '\x27' rest).2) := rfl
        rw [plainTail_doubled, both]
        have later := plainTail_quote_iff rest
        rw [Prod.ext_iff] at later ⊢
        simpa using later
      · have closes : quotedTail '\x27' ('\x27' :: d :: rest) = (['\x27'], d :: rest) := by
          simp [quotedTail, second]
        rw [plainTail_doubled, closes, plainTail_cons second]
        simp [second]
    · rw [plainTail_closed first]
      have some_ := quotedTail_ne_nil '\x27' c (d :: rest)
      simp [first, Ne.symm some_]

theorem plainTail_eq_iff (text : List Char) : plainTail '\x27' text = quotedTail '\x27' text ↔
    ∀ rest, behindEscape? (quotedTail '\x27' text).1 = some rest →
      ∀ c ∈ rest ++ (quotedTail '\x27' text).2, c = '\x27' := by
  fun_induction quotedTail '\x27' text with
  | case1 => simp [plainTail, behindEscape?]
  | case2 c => simp [plainTail, behindEscape?]
  | case3 c d rest escape inner after read ih =>
    rw [read] at ih
    simp only [beq_self_eq_true, Bool.and_true, Bool.or_eq_true, Bool.and_eq_true, beq_iff_eq] at escape
    rcases escape with rfl | ⟨rfl, rfl⟩
    · rw [plainTail_cons (by decide)]
      by_cases quote : d = '\x27'
      · subst quote
        have whole := quotedTail_append '\x27' rest
        have here := plainTail_quote_iff rest
        rw [read] at whole here
        rw [Prod.ext_iff] at here ⊢
        simpa [behindEscape?, ← whole] using here
      · rw [plainTail_cons quote]
        rw [Prod.ext_iff] at ih ⊢
        simpa [behindEscape?, quote] using ih
    · rw [plainTail_doubled, behindEscape?_cons (by decide), behindEscape?_cons (by decide)]
      rw [Prod.ext_iff] at ih ⊢
      simpa using ih
  | case4 c d rest escape same =>
    obtain rfl : c = '\x27' := by simpa using same
    have other : d ≠ '\x27' := by simpa using escape
    simp [plainTail_closed other, behindEscape?]
  | case5 c d rest escape apart inner after read ih =>
    rw [read] at ih
    have other : c ≠ '\x27' := by simpa using apart
    have solid : c ≠ '\\' := by
      rintro rfl
      simp at escape
    rw [plainTail_cons other, behindEscape?_cons solid]
    rw [Prod.ext_iff] at ih ⊢
    simpa using ih

/-- Some span in single quotes escapes a quote, and more than quotes stands behind that. -/
def EscapesQuote (list : List Segment) : Prop :=
  ∃ before tail rest after, list = before ++ .quoted ('\x27' :: tail) :: after ∧
    behindEscape? tail = some rest ∧ ∃ c ∈ rest ++ spelled after, c ≠ '\x27'

theorem escapesQuote_cons (segment : Segment) (list : List Segment) :
    EscapesQuote (segment :: list) ↔
      (∃ tail rest, segment = .quoted ('\x27' :: tail) ∧ behindEscape? tail = some rest ∧
        ∃ c ∈ rest ++ spelled list, c ≠ '\x27') ∨ EscapesQuote list := by
  constructor
  · rintro ⟨before, tail, rest, after, split, escape, more⟩
    cases before with
    | nil =>
      obtain ⟨rfl, rfl⟩ := List.cons.inj split
      exact .inl ⟨tail, rest, rfl, escape, more⟩
    | cons first before =>
      obtain ⟨-, rfl⟩ := List.cons.inj split
      exact .inr ⟨before, tail, rest, after, rfl, escape, more⟩
  · rintro (⟨tail, rest, rfl, escape, more⟩ | ⟨before, tail, rest, after, rfl, escape, more⟩)
    · exact ⟨[], tail, rest, list, rfl, escape, more⟩
    · exact ⟨segment :: before, tail, rest, after, rfl, escape, more⟩

theorem plainSegments_eq_iff (text : List Char) :
    plainSegments text = segments text ↔ ¬ EscapesQuote (segments text) := by
  fun_induction segments text with
  | case1 =>
    rw [plainSegments]
    refine iff_of_true rfl ?_
    rintro ⟨before, tail, rest, after, split, -⟩
    simp at split
  | case2 c rest quote ih =>
    rw [plainSegments, if_pos quote, escapesQuote_cons, not_or, spelled_segments]
    have own : plainTail c rest = quotedTail c rest ↔ ¬ ∃ tail behind,
        Segment.quoted (c :: (quotedTail c rest).1) = .quoted ('\x27' :: tail) ∧
          behindEscape? tail = some behind ∧ ∃ d ∈ behind ++ (quotedTail c rest).2, d ≠ '\x27' := by
      by_cases single : c = '\x27'
      · subst single
        rw [plainTail_eq_iff]
        simp
      · refine iff_of_true (plainTail_of_ne single rest) ?_
        rintro ⟨tail, behind, same, -⟩
        exact single (List.cons.inj (Segment.quoted.inj same)).1
    rw [← own]
    constructor
    · intro same
      obtain ⟨first, others⟩ := List.cons.inj same
      have inner := (List.cons.inj (Segment.quoted.inj first)).2
      have tails : plainTail c rest = quotedTail c rest := by
        refine Prod.ext inner (@List.append_cancel_left _ (plainTail c rest).1 _ _ ?_)
        rw [plainTail_append, inner, quotedTail_append]
      rw [tails] at others
      exact ⟨tails, ih.mp others⟩
    · rintro ⟨tails, free⟩
      rw [tails, ih.mpr free]
  | case3 c rest plain ih =>
    rw [plainSegments, if_neg plain, escapesQuote_cons, List.cons.injEq, ih]
    simp

/-- A comma list is cut at the commas on level zero outside of spans in which a backslash is a character
like any other, and the pieces are trimmed and the empty ones left out. These are the spans of the text
just where none of them escapes a quote, quotes at its end aside. -/
theorem comma_spans_agree_iff (text : List Char) :
    splitCommas text = clausesOf (separated 0 (plainSegments text)) ∧
      (plainSegments text = segments text ↔ ¬ EscapesQuote (segments text)) := by
  refine ⟨?_, plainSegments_eq_iff text⟩
  rw [splitCommas, commaPieces_eq_separated]
  rfl

/-- The comma behind an escaped quote is taken for a part of another span. -/
theorem comma_spans_can_differ :
    let text := "'a\\'b', c".toList
    splitCommas text = [text] ∧
      clausesOf (separated 0 (segments text)) = ["'a\\'b'".toList, ['c']] := by
  decide +kernel

end DdlSchema.Text
