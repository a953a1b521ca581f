import Mathlib.Data.List.DropRight
import Mathlib.Data.List.Induction
import DdlSchema.Proofs.Text.Quotation

/-! Texts that are put together with commas. Where none of them has a comma of its own and each closes what it
opens, the splitter takes them apart again, whatever blanks stand around them. -/

set_option autoImplicit false

namespace DdlSchema.Text

/-- What is said of all characters of a text is checked on the text, not on all characters that there are. -/
instance (priority := 2000) decidableForallMem {p : Char → Prop} [DecidablePred p] (text : List Char) :
    Decidable (∀ c ∈ text, p c) :=
  List.decidableBAll p text

/-! Blanks at the ends. -/

theorem trim_cons_blank {c : Char} (blank : isBlank c = true) (text : List Char) :
    trim (c :: text) = trim text := by
  rw [trim, trimLeft, List.dropWhile_cons, if_pos blank]
  rfl

theorem trim_concat_blank {c : Char} (blank : isBlank c = true) (text : List Char) :
    trim (text ++ [c]) = trim text := by
  have right : ∀ text : List Char, trimRight (text ++ [c]) = trimRight text := by
    intro text
    simp [trimRight, blank]
  by_cases empty : text.dropWhile isBlank = []
  · simp [trim, trimLeft, List.dropWhile_append, empty, blank]
  · simp [trim, trimLeft, List.dropWhile_append, empty, right]

section

variable {gap text : List Char}

theorem trim_blanks_append (blank : ∀ c ∈ gap, isBlank c = true) (text : List Char) :
    trim (gap ++ text) = trim text := by
  rw [trim, trimLeft, List.dropWhile_append_of_pos blank]
  rfl

theorem trim_append_blanks (blank : ∀ c ∈ gap, isBlank c = true) (text : List Char) :
    trim (text ++ gap) = trim text := by
  induction gap using List.reverseRecOn with
  | nil => rw [List.append_nil]
  | append_singleton gap c ih =>
    have last : isBlank c = true := blank c (by simp)
    rw [← List.append_assoc, trim_concat_blank last, ih fun d member => blank d (List.mem_append_left _ member)]

end

section

variable {α : Type} {reading : List Char → α}

/-- What blanks at the end do not matter to is the same without them. -/
theorem reading_trimRight
    (right : ∀ c, isBlank c = true → ∀ text, reading (text ++ [c]) = reading text) (text : List Char) :
    reading (trimRight text) = reading text := by
  induction text using List.reverseRecOn with
  | nil => rfl
  | append_singleton text c ih =>
    by_cases blank : isBlank c = true
    · have shorter : trimRight (text ++ [c]) = trimRight text := by simp [trimRight, blank]
      rw [shorter, ih, right c blank]
    · have whole : trimRight (text ++ [c]) = text ++ [c] := by simp [trimRight, blank]
      rw [whole]

theorem reading_trim (left : ∀ c, isBlank c = true → ∀ text, reading (c :: text) = reading text)
    (right : ∀ c, isBlank c = true → ∀ text, reading (text ++ [c]) = reading text) (text : List Char) :
    reading (trim text) = reading text := by
  rw [trim, reading_trimRight right, trimLeft]
  induction text with
  | nil => rfl
  | cons c text ih =>
    rw [List.dropWhile_cons]
    split
    · next blank => rw [ih, left c blank]
    · rfl

end

theorem squeeze_trim (text : List Char) : squeeze (trim text) = squeeze text := by
  have right : ∀ c, isBlank c = true → ∀ text current : List Char,
      wordsFrom current (text ++ [c]) = wordsFrom current text := by
    intro c blank text
    induction text with
    | nil =>
      intro current
      simp [wordsFrom, blank]
    | cons d text ih =>
      intro current
      rw [List.cons_append, wordsFrom, wordsFrom, ih, ih]
  refine congrArg [' '].intercalate (reading_trim (fun c blank text => ?_) (fun c blank text => ?_) text)
  · simp [words, wordsFrom, blank]
  · exact right c blank text []

theorem trimRight_isPrefixOf (text : List Char) : trimRight text <+: text := by
  have suffix : text.reverse.dropWhile isBlank <:+ text.reverse := List.dropWhile_suffix isBlank
  simpa [trimRight] using List.reverse_prefix.mpr suffix

/-- There is more to the text than blanks. -/
def Filled (text : List Char) : Prop := ∃ c ∈ text, isBlank c = false

instance (text : List Char) : Decidable (Filled text) :=
  decidable_of_iff (text.any fun c => !isBlank c) (by simp [Filled])

theorem trimRight_append {text : List Char} (filled : Filled text) (front : List Char) :
    trimRight (front ++ text) = front ++ trimRight text := by
  obtain ⟨c, member, solid⟩ := filled
  obtain ⟨lead, back, rfl⟩ := List.append_of_mem member
  rw [← List.append_assoc, trimRight_mark solid, trimRight_mark solid, List.append_assoc]

theorem filled_trimRight {text : List Char} (filled : Filled text) : Filled (trimRight text) := by
  obtain ⟨c, member, solid⟩ := filled
  obtain ⟨lead, back, rfl⟩ := List.append_of_mem member
  rw [trimRight_mark solid]
  exact ⟨c, List.mem_append_right _ List.mem_cons_self, solid⟩

theorem trimRight_trimRight (text : List Char) : trimRight (trimRight text) = trimRight text := by
  simp [trimRight, List.dropWhile_idempotent]

section

variable {text : List Char}

theorem trimRight_solid (some_ : text ≠ []) (solid : ∀ c ∈ text, isBlank c = false) (front : List Char) :
    trimRight (front ++ text) = front ++ text := by
  have last := trimRight_mark (solid _ (List.getLast_mem some_)) (front ++ text.dropLast) []
  have none : trimRight [] = [] := rfl
  rwa [none, List.append_assoc, List.dropLast_concat_getLast some_] at last

theorem trim_of_ends (starts : text.head?.any isBlank = false) (ends : trimRight text = text) :
    trim text = text := by
  cases text with
  | nil => rfl
  | cons c text =>
    have first : trimLeft (c :: text) = c :: text := trimLeft_mark starts [] text
    rw [trim, first, ends]

end

/-- Characters that the splitter passes over: no quotes, parentheses and commas. -/
def isInert (c : Char) : Bool := !(isQuote c || c == '(' || c == ')' || c == ',')

/-- A class without those marks has inert characters only. -/
theorem isInert_of {accepts : Char → Bool} {c : Char} (here : accepts c = true)
    (others : ∀ mark ∈ ['\x27', '\x22', '\x60', '(', ')', ','], accepts mark = false) : isInert c = true := by
  cases inert : isInert c with
  | true => rfl
  | false =>
    have mark : c ∈ ['\x27', '\x22', '\x60', '(', ')', ','] := by
      simpa only [isInert, isQuote, Bool.not_eq_false', Bool.or_eq_true, beq_iff_eq, or_assoc, List.mem_cons,
        List.not_mem_nil, or_false] using inert
    rw [others c mark] at here
    cases here

theorem isInert_of_isBlank {c : Char} (blank : isBlank c = true) : isInert c = true :=
  isInert_of blank (by decide)

theorem commaStep_inert {c : Char} (inert : isInert c = true) (depth : Int) :
    commaStep (none, depth) c = (none, depth) := by
  simp only [isInert, Bool.not_eq_true', Bool.or_eq_false_iff] at inert
  simp [commaStep, inert]

theorem commaPieces_inert {c : Char} (inert : isInert c = true) (depth : Int) (text : List Char) :
    commaPieces none depth (c :: text) = putFront c (commaPieces none depth text) := by
  rw [commaPieces_cons, commaStep_inert inert]
  simp only [isInert, Bool.not_eq_true', Bool.or_eq_false_iff] at inert
  simp [inert]

theorem commaPieces_blank {c : Char} (blank : isBlank c = true) (depth : Int) (text : List Char) :
    commaPieces none depth (c :: text) = putFront c (commaPieces none depth text) :=
  commaPieces_inert (isInert_of_isBlank blank) depth text

theorem splitCommas_cons_blank {c : Char} (blank : isBlank c = true) (text : List Char) :
    splitCommas (c :: text) = splitCommas text := by
  obtain ⟨first, others, pieces⟩ := List.exists_cons_of_ne_nil (commaPieces_ne_nil none 0 text)
  rw [splitCommas, splitCommas, commaPieces_blank blank, pieces, putFront, List.map_cons, List.map_cons,
    trim_cons_blank blank]

theorem splitCommas_concat_blank {c : Char} (blank : isBlank c = true) (text : List Char) :
    splitCommas (text ++ [c]) = splitCommas text := by
  have single : ∀ state : Option Char × Int, commaPieces state.1 state.2 [c] = [[c]] := by
    rintro ⟨quote, depth⟩
    cases quote with
    | none => exact commaPieces_blank blank depth []
    | some quote => rfl
  have joined := @commaPieces_append (none, 0) text [c] [c] [] (single _)
  have some_ := commaPieces_ne_nil none 0 text
  have whole : commaPieces none 0 text = (commaPieces none 0 text).dropLast ++
      [(commaPieces none 0 text).getLastD []] := by
    rw [List.getLastD_eq_getLast?, List.getLast?_eq_some_getLast some_, Option.getD_some,
      List.dropLast_concat_getLast some_]
  rw [splitCommas, joined, splitCommas, whole]
  simp [trim_concat_blank blank]

theorem splitCommas_blanks_append {gap : List Char} (blank : ∀ c ∈ gap, isBlank c = true)
    (text : List Char) : splitCommas (gap ++ text) = splitCommas text := by
  induction gap with
  | nil => rfl
  | cons c gap ih =>
    obtain ⟨here, later⟩ := List.forall_mem_cons.mp blank
    rw [List.cons_append, splitCommas_cons_blank here, ih later]

theorem splitCommas_trimRight (text : List Char) : splitCommas (trimRight text) = splitCommas text :=
  reading_trimRight (fun _ blank => splitCommas_concat_blank blank) text

/-! Pieces. -/

/-- What the splitter sees as one piece: outside quotes and parentheses at the end, and without a comma that
separates. -/
structure IsPiece (text : List Char) : Prop where
  whole : commaPieces none 0 text = [text]
  closed : commaState (none, 0) text = (none, 0)

instance (text : List Char) : Decidable (IsPiece text) :=
  decidable_of_iff (commaPieces none 0 text = [text] ∧ commaState (none, 0) text = (none, 0))
    ⟨fun both => ⟨both.1, both.2⟩, fun piece => ⟨piece.whole, piece.closed⟩⟩

/-- Outside quotes the text leads from one depth to another, and no comma of it separates. -/
structure Leads (depth later : Int) (text : List Char) : Prop where
  whole : commaPieces none depth text = [text]
  behind : commaState (none, depth) text = (none, later)

theorem isPiece_iff_leads {text : List Char} : IsPiece text ↔ Leads 0 0 text :=
  ⟨fun piece => ⟨piece.whole, piece.closed⟩, fun leads => ⟨leads.whole, leads.behind⟩⟩

section

variable {depth middle later : Int} {front back text : List Char}

theorem Leads.append (first : Leads depth middle front) (second : Leads middle later back) :
    Leads depth later (front ++ back) := by
  constructor
  · have joined := @commaPieces_append (none, depth) front back back [] (by rw [first.behind]; exact second.whole)
    rw [joined, first.whole]
    rfl
  · have state := first.behind
    rw [commaState] at state
    rw [commaState, List.foldl_append, state]
    exact second.behind

theorem leads_inert (inert : ∀ c ∈ text, isInert c = true) (depth : Int) : Leads depth depth text := by
  induction text with
  | nil => exact ⟨rfl, rfl⟩
  | cons c text ih =>
    obtain ⟨here, later⟩ := List.forall_mem_cons.mp inert
    constructor
    · rw [commaPieces_inert here, (ih later).whole, putFront]
    · rw [commaState, List.foldl_cons, commaStep_inert here]
      exact (ih later).behind

theorem leads_blanks (blank : ∀ c ∈ text, isBlank c = true) (depth : Int) : Leads depth depth text :=
  leads_inert (fun c member => isInert_of_isBlank (blank c member)) depth

end

theorem commaPieces_intercalate {texts : List (List Char)} (some_ : texts ≠ [])
    (pieces : ∀ text ∈ texts, IsPiece text) : commaPieces none 0 ([','].intercalate texts) = texts := by
  induction texts with
  | nil => exact absurd rfl some_
  | cons text others ih =>
    obtain ⟨here, later⟩ := List.forall_mem_cons.mp pieces
    cases others with
    | nil => rw [List.intercalate_singleton, here.whole]
    | cons second others =>
      have comma : commaPieces none 0 (',' :: [','].intercalate (second :: others)) =
          [] :: second :: others := by
        rw [commaPieces_cons]
        simpa [commaStep, isQuote] using ih (List.cons_ne_nil _ _) later
      have joined := @commaPieces_append (none, 0) text (',' :: [','].intercalate (second :: others)) []
        (second :: others) (by rw [here.closed]; exact comma)
      rw [List.intercalate_cons_cons, List.append_assoc, List.singleton_append, joined, here.whole]
      simp

theorem splitCommas_intercalate {texts : List (List Char)} (pieces : ∀ text ∈ texts, IsPiece text)
    (filled : ∀ text ∈ texts, Filled text) : splitCommas ([','].intercalate texts) = texts.map trim := by
  cases texts with
  | nil => rfl
  | cons text others =>
    rw [splitCommas, commaPieces_intercalate (List.cons_ne_nil _ _) pieces, List.filter_eq_self]
    intro piece member
    obtain ⟨text, inside, rfl⟩ := List.mem_map.mp member
    obtain ⟨c, here, solid⟩ := filled text inside
    obtain ⟨front, back, rfl⟩ := List.append_of_mem here
    rw [trim, trimLeft_mark solid, trimRight_mark solid]
    simp

/-- The texts with a comma and a space between them. -/
def enumeration (texts : List (List Char)) : List Char := [',', ' '].intercalate texts

theorem enumeration_cons (text : List Char) {others : List (List Char)} (some_ : others ≠ []) :
    enumeration (text :: others) = text ++ ',' :: ' ' :: enumeration others := by
  obtain ⟨second, others, rfl⟩ := List.exists_cons_of_ne_nil some_
  rw [enumeration, List.intercalate_cons_cons, List.append_assoc]
  rfl

theorem enumeration_eq_append (text : List Char) (others : List (List Char)) :
    ∃ behind, enumeration (text :: others) = text ++ behind := by
  by_cases last : others = []
  · subst last
    exact ⟨[], by rw [enumeration, List.intercalate_singleton, List.append_nil]⟩
  · exact ⟨_, enumeration_cons text last⟩

/-- Each space may as well belong to the text that follows it. -/
theorem enumeration_eq_intercalate (text : List Char) (others : List (List Char)) :
    enumeration (text :: others) = [','].intercalate (text :: others.map (' ' :: ·)) := by
  induction others generalizing text with
  | nil => rw [enumeration, List.intercalate_singleton, List.map_nil, List.intercalate_singleton]
  | cons second others ih =>
    rw [enumeration_cons text (List.cons_ne_nil _ _), ih, List.map_cons, List.intercalate_cons_cons,
      List.append_assoc]
    cases others with
    | nil => simp
    | cons third others => simp [List.intercalate_cons_cons]

theorem mem_intercalate {c : Char} {separator : List Char} {texts : List (List Char)}
    (member : c ∈ separator.intercalate texts) : c ∈ separator ∨ ∃ text ∈ texts, c ∈ text := by
  induction texts with
  | nil => cases member
  | cons text others ih =>
    cases others with
    | nil =>
      rw [List.intercalate_singleton] at member
      exact .inr ⟨text, List.mem_cons_self, member⟩
    | cons second others =>
      rw [List.intercalate_cons_cons, List.append_assoc, List.mem_append, List.mem_append] at member
      rcases member with own | separates | later
      · exact .inr ⟨text, List.mem_cons_self, own⟩
      · exact .inl separates
      · refine (ih later).imp_right ?_
        rintro ⟨other, listed, inside⟩
        exact ⟨other, List.mem_cons_of_mem _ listed, inside⟩

theorem mem_enumeration {c : Char} {texts : List (List Char)} (member : c ∈ enumeration texts) :
    c = ',' ∨ c = ' ' ∨ ∃ text ∈ texts, c ∈ text := by
  rcases mem_intercalate member with separates | inside
  · simp only [List.mem_cons, List.not_mem_nil, or_false] at separates
    exact separates.imp_right .inl
  · exact .inr (.inr inside)

theorem splitCommas_enumeration {texts : List (List Char)} (some_ : texts ≠ [])
    (pieces : ∀ text ∈ texts, IsPiece text) (filled : ∀ text ∈ texts, Filled text) :
    splitCommas (enumeration texts) = texts.map trim := by
  obtain ⟨text, others, rfl⟩ := List.exists_cons_of_ne_nil some_
  obtain ⟨piece, pieces⟩ := List.forall_mem_cons.mp pieces
  obtain ⟨here, filled⟩ := List.forall_mem_cons.mp filled
  have space : ∀ c ∈ [' '], isBlank c = true := by decide
  rw [enumeration_eq_intercalate, splitCommas_intercalate]
  · simp [Function.comp_def, trim_cons_blank (space ' ' List.mem_cons_self)]
  · exact List.forall_mem_cons.mpr ⟨piece, List.forall_mem_map.mpr fun text member =>
      isPiece_iff_leads.mpr ((leads_blanks space 0).append (isPiece_iff_leads.mp (pieces text member)))⟩
  · refine List.forall_mem_cons.mpr ⟨here, List.forall_mem_map.mpr fun text member => ?_⟩
    obtain ⟨c, own, solid⟩ := filled text member
    exact ⟨c, List.mem_cons_of_mem _ own, solid⟩

end DdlSchema.Text
