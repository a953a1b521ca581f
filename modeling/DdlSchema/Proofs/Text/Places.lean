import DdlSchema.Proofs.Text.Rewriting

/-! The places of a text that its spans leave out. A scan goes through the text once; from a quote it goes on
behind the span that opens there. -/

set_option autoImplicit false

namespace DdlSchema.Text

/-! The end of a span. -/

section

variable {text : List Char} {place : Nat} {c : Char}

theorem drop_of_getElem? (here : text[place]? = some c) : text.drop place = c :: text.drop (place + 1) := by
  obtain ⟨bound, rfl⟩ := List.getElem?_eq_some_iff.mp here
  exact List.drop_eq_getElem_cons bound

theorem quotedEnd_eq (here : text[place]? = some c) :
    quotedEnd text place = place + 1 + (quotedTail c (text.drop (place + 1))).1.length := by
  rw [quotedEnd, drop_of_getElem? here]

theorem lt_quotedEnd (here : text[place]? = some c) : place < quotedEnd text place := by
  rw [quotedEnd_eq here]
  omega

theorem drop_quotedEnd (here : text[place]? = some c) :
    text.drop (quotedEnd text place) = (quotedTail c (text.drop (place + 1))).2 := by
  rw [quotedEnd_eq here, ← List.drop_drop]
  -- the text behind the quote is what the span takes of it and what it leaves
  nth_rewrite 2 [← quotedTail_append c (text.drop (place + 1))]
  exact List.drop_left

theorem quotedEnd_bounds (inside : place < text.length) :
    place < quotedEnd text place ∧ quotedEnd text place ≤ text.length := by
  have here := List.getElem?_eq_getElem inside
  refine ⟨lt_quotedEnd here, ?_⟩
  have split := congrArg List.length (quotedTail_append text[place] (text.drop (place + 1)))
  rw [List.length_append, List.length_drop] at split
  rw [quotedEnd_eq here]
  omega

end

/-- The span that opens at the place. -/
def spanAt (text : List Char) (place : Nat) : List Char := (text.take (quotedEnd text place)).drop place

/-! Places. -/

/-- Where the scan goes on from a place with this character. -/
def scanOn (text : List Char) (place : Nat) (c : Char) : Nat :=
  if isQuote c then quotedEnd text place else place + 1

theorem lt_scanOn {text : List Char} {place : Nat} {c : Char} (here : text[place]? = some c) :
    place < scanOn text place c := by
  unfold scanOn
  split
  · exact lt_quotedEnd here
  · exact Nat.lt_succ_self place

-- By place and not by what is left of the text, since a span is known by the place where it ends.
/-- The places at which a scan stands that begins at this one. -/
def stops (text : List Char) (place : Nat) : List Nat :=
  match _here : text[place]? with
  | none => []
  | some c => place :: stops text (scanOn text place c)
  termination_by text.length - place
  decreasing_by
    have inside := (List.getElem?_eq_some_iff.mp _here).1
    have onward := lt_scanOn _here
    omega

def opensSpan (text : List Char) (place : Nat) : Bool := text[place]?.any isQuote

/-- The places of the quotes that open the spans of the text, from left to right. -/
def spanStarts (text : List Char) : List Nat := (stops text 0).filter (opensSpan text)

/-- The places outside of the spans that a scan from `place` meets. -/
def outside (text : List Char) (place : Nat) : List Nat :=
  (stops text place).filter fun stop => !opensSpan text stop

section

variable {text : List Char} {place : Nat} {c : Char}

theorem stops_none (beyond : text[place]? = none) : stops text place = [] := by
  rw [stops]
  split
  · rfl
  · next here => rw [beyond] at here; cases here

theorem stops_some (here : text[place]? = some c) :
    stops text place = place :: stops text (scanOn text place c) := by
  rw [stops]
  split
  · next beyond => rw [here] at beyond; cases beyond
  · next d there => rw [here] at there; cases there; rfl

theorem le_of_mem_stops {stop : Nat} (member : stop ∈ stops text place) : place ≤ stop := by
  fun_induction stops text place with
  | case1 => cases member
  | case2 place c here ih =>
    rcases List.mem_cons.mp member with rfl | later
    · exact Nat.le_refl stop
    · exact Nat.le_trans (Nat.le_of_lt (lt_scanOn here)) (ih later)

theorem stops_ascend (text : List Char) (place : Nat) : (stops text place).Pairwise (· < ·) := by
  fun_induction stops text place with
  | case1 => exact .nil
  | case2 place c here ih =>
    exact .cons (fun stop member => Nat.lt_of_lt_of_le (lt_scanOn here) (le_of_mem_stops member)) ih

theorem outside_quote (here : text[place]? = some c) (quote : isQuote c = true) :
    outside text place = outside text (quotedEnd text place) := by
  rw [outside, stops_some here, List.filter_cons_of_neg (by simp [opensSpan, here, quote]), scanOn, if_pos quote,
    outside]

theorem outside_plain (here : text[place]? = some c) (plain : isQuote c = false) :
    outside text place = place :: outside text (place + 1) := by
  rw [outside, stops_some here, List.filter_cons_of_pos (by simp [opensSpan, here, plain]), scanOn,
    if_neg (by simp [plain]), outside]

theorem le_of_mem_outside {stop : Nat} (member : stop ∈ outside text place) : place ≤ stop :=
  le_of_mem_stops (List.mem_filter.mp member).1

/-! The segments of a text by their places. -/

theorem spanAt_eq (here : text[place]? = some c) :
    spanAt text place = c :: (quotedTail c (text.drop (place + 1))).1 := by
  have width : quotedEnd text place - place = (quotedTail c (text.drop (place + 1))).1.length + 1 := by
    rw [quotedEnd_eq here]
    omega
  rw [spanAt, List.drop_take, width, drop_of_getElem? here, List.take_succ_cons]
  nth_rewrite 2 [← quotedTail_append c (text.drop (place + 1))]
  rw [List.take_left]

theorem segments_beyond (beyond : text[place]? = none) : segments (text.drop place) = [] := by
  rw [List.drop_eq_nil_of_le (List.getElem?_eq_none_iff.mp beyond), segments]

theorem segments_quote (here : text[place]? = some c) (quote : isQuote c = true) :
    segments (text.drop place) = .quoted (spanAt text place) :: segments (text.drop (quotedEnd text place)) := by
  rw [drop_of_getElem? here, segments, if_pos quote, spanAt_eq here, drop_quotedEnd here]

theorem segments_other (here : text[place]? = some c) (plain : isQuote c = false) :
    segments (text.drop place) = .plain c :: segments (text.drop (place + 1)) := by
  rw [drop_of_getElem? here, segments, if_neg (by simp [plain])]

/-- The quoted spans are those that open where the scan stands at a quote. -/
theorem quotedSpans_drop (text : List Char) (place : Nat) : quotedSpans (segments (text.drop place)) =
    ((stops text place).filter (opensSpan text)).map (spanAt text) := by
  -- the induction follows the scan, which takes a segment from stop to stop
  fun_induction stops text place with
  | case1 place beyond => rw [segments_beyond beyond]; rfl
  | case2 place c here ih =>
    cases quote : isQuote c with
    | true =>
      rw [scanOn, if_pos quote] at ih
      rw [segments_quote here quote, List.filter_cons_of_pos (by simp [opensSpan, here, quote]), List.map_cons,
        scanOn, if_pos quote, ← ih]
      rfl
    | false =>
      have plain : ¬ isQuote c = true := by simp [quote]
      rw [scanOn, if_neg plain] at ih
      rw [segments_other here quote, List.filter_cons_of_neg (by simp [opensSpan, here, quote]), scanOn,
        if_neg plain, ← ih]
      rfl

theorem plain_mem_drop_iff {d : Char} : .plain d ∈ segments (text.drop place) ↔
    ∃ stop ∈ outside text place, text[stop]? = some d := by
  fun_induction stops text place with
  | case1 place beyond => simp [segments_beyond beyond, outside, stops_none beyond]
  | case2 place c here ih =>
    cases quote : isQuote c with
    | true =>
      rw [scanOn, if_pos quote] at ih
      rw [segments_quote here quote, outside_quote here quote, ← ih]
      simp
    | false =>
      rw [scanOn, if_neg (by simp [quote])] at ih
      rw [segments_other here quote, outside_plain here quote, List.mem_cons, ih]
      simp [here, eq_comm]

end

end DdlSchema.Text
