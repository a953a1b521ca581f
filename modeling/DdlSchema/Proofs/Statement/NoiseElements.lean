import Mathlib.Data.List.TakeWhile
import DdlSchema.Proofs.Statement.NoiseRemoval
import DdlSchema.Proofs.Text.Words

/-! What stripping leaves of a column list. Quoted spans come back in their order, the list stays a list with
as many elements, and an element keeps the word or quoted span that it begins with: noise stands behind
something of its own element. Only a call that an element begins with is written anew. -/

set_option autoImplicit false

namespace DdlSchema.Statement

open DdlSchema.Text DdlSchema.Text.Pattern

/-! The beginning of an element. -/

def isBlankSegment : Segment → Bool
  | .plain c => isBlank c
  | .quoted _ => false

/-- The word or quoted span that an element begins with, blanks aside. -/
def lead (element : List Segment) : List Segment :=
  match element.dropWhile isBlankSegment with
  | .quoted span :: _ => [.quoted span]
  | rest => rest.takeWhile isWordSegment

theorem lead_starts (element : List Segment) : lead element <+: element.dropWhile isBlankSegment := by
  unfold lead
  split
  · next span rest same =>
    rw [same]
    exact ⟨rest, rfl⟩
  · exact List.takeWhile_prefix _

theorem lead_cases (element : List Segment) :
    (∃ span, lead element = [.quoted span]) ∨ ∀ segment ∈ lead element, isWordSegment segment = true := by
  unfold lead
  split
  · exact .inl ⟨_, rfl⟩
  · exact .inr fun segment => List.mem_takeWhile_imp

theorem not_blank_of_mem_lead {element : List Segment} {segment : Segment}
    (member : segment ∈ lead element) : isBlankSegment segment = false := by
  rcases lead_cases element with ⟨span, single⟩ | word
  · rw [single, List.mem_singleton] at member
    rw [member]
    rfl
  · have inside := word segment member
    cases segment with
    | quoted span => rfl
    | plain c =>
      rw [isBlankSegment, Bool.eq_false_iff]
      intro blank
      rw [isWordSegment, isWordChar_of_isBlank blank] at inside
      cases inside

def IsOpening (front : List Segment) : Prop :=
  ∃ blanks word, front = blanks ++ word ∧ (∀ segment ∈ blanks, isBlankSegment segment = true) ∧
    ∀ segment ∈ word, isBlankSegment segment = false

def beginning (element : List Segment) : List Segment :=
  element.takeWhile isBlankSegment ++ lead element

theorem isOpening_beginning (element : List Segment) : IsOpening (beginning element) :=
  ⟨_, _, rfl, fun _ => List.mem_takeWhile_imp, fun _ => not_blank_of_mem_lead⟩

theorem beginning_starts (element : List Segment) : beginning element <+: element := by
  have whole := (List.prefix_append_right_inj (element.takeWhile isBlankSegment)).mpr
    (lead_starts element)
  rwa [List.takeWhile_append_dropWhile] at whole

/-! Removing clauses. -/

/-- The second element still begins with all the openings of the first one. -/
def KeepsOpening (element out : List Segment) : Prop :=
  ∀ front, IsOpening front → front <+: element → front <+: out

theorem keepsOpening_of_edits {before : Option Segment} {element out : List Segment}
    (outside : (before.map Segment.shown).any endsClause = false)
    (edits : Edits (fun before taken _ => IsNoise before taken) [] before element out) :
    KeepsOpening element out := by
  rintro front ⟨blanks, word, rfl, blank, other⟩ ⟨rest, rfl⟩
  obtain ⟨later, rfl, -⟩ := edits.of_append fun earlier segment later taken behind whole _ noise => by
    obtain ⟨c, _, same, first⟩ := noise.blank
    obtain ⟨rfl, -⟩ := List.cons.inj same
    rcases List.append_eq_append_iff.mp whole with ⟨between, -, inWord⟩ | ⟨between, front, -⟩
    · -- noise begins with a blank
      have refused := other (.plain c) (by simp [inWord])
      rw [isBlankSegment, first] at refused
      cases refused
    · -- behind blanks alone there is no clause to stand behind
      have behind := noise.behind
      cases last : earlier.getLast? with
      | none =>
        rw [last, Option.none_or, outside] at behind
        cases behind
      | some segment =>
        have inside := blank segment (by simp [front, List.mem_of_getLast? last])
        rw [last, Option.some_or, Option.map_some, Option.any_some] at behind
        cases segment with
        | quoted span => cases inside
        | plain d =>
          rw [Segment.shown, endsClause_of_isBlank inside] at behind
          cases behind
  exact List.prefix_append _ _

/-! Rewriting calls. -/

/-- An element begins with a call, blanks aside. -/
def BeginsWithCall (element : List Char) : Prop :=
  (timestampCall.matchStart (trimLeft element)).isSome = true

theorem trimLeft_blanks {blanks : List Segment} {text : List Char}
    (blank : ∀ segment ∈ blanks, isBlankSegment segment = true) {c : Char} {rest : List Char}
    (head : text = c :: rest) (other : isBlank c = false) :
    trimLeft (spelled blanks ++ text) = text := by
  have all : ∀ d ∈ spelled blanks, isBlank d = true := by
    intro d member
    obtain ⟨segment, inside, own⟩ := List.mem_flatMap.mp member
    have here := blank segment inside
    cases segment with
    | quoted span => cases here
    | plain e =>
      rw [Segment.text, List.mem_singleton] at own
      rwa [own]
  rw [trimLeft, List.dropWhile_append_of_pos all, head, List.dropWhile_cons_of_neg (by simp [other])]

theorem beginsWithCall_of_isCall {blanks behind : List Segment} {name digits text : List Char}
    (blank : ∀ segment ∈ blanks, isBlankSegment segment = true) (call : IsCall name digits text) :
    BeginsWithCall (spelled (blanks ++ (text.map .plain ++ behind))) := by
  obtain ⟨c, rest, head, word⟩ := call.head
  have other : isBlank c = false := by
    rw [Bool.eq_false_iff]
    intro blank
    rw [isWordChar_of_isBlank blank] at word
    cases word
  rw [BeginsWithCall, spelled_append, spelled_append, spelled_plain,
    trimLeft_blanks blank (by rw [head]; rfl) other, matchStart, matchAt_isSome_iff (by decide)]
  exact reaches_of_isCall rfl call rfl

theorem beginning_kept {before : Option Segment} {written element out source : List Segment}
    (edits : Edits (fun before taken _ => IsStamp before taken) written before element out)
    (start : beginning source <+: element) :
    beginning source <+: out ∨ BeginsWithCall (spelled element) := by
  rw [or_iff_not_imp_right]
  intro otherwise
  obtain ⟨rest, rfl⟩ := start
  obtain ⟨later, rfl, -⟩ := edits.of_append fun earlier segment later taken behind whole onward stamp => by
    obtain ⟨name, digits, text, call, same⟩ := stamp.call
    obtain ⟨c, others, head, word⟩ := call.head
    have first : segment = .plain c := by
      rw [head, List.map_cons] at same
      exact (List.cons.inj same).1
    have blank : ∀ segment ∈ source.takeWhile isBlankSegment, isBlankSegment segment = true :=
      fun _ => List.mem_takeWhile_imp
    -- a call right behind the blanks is the one that the element begins with
    have begins : earlier ≠ source.takeWhile isBlankSegment := by
      intro all
      refine otherwise ?_
      rw [whole, List.append_assoc, List.cons_append, onward, ← List.cons_append, same, all]
      exact beginsWithCall_of_isCall blank call
    rcases List.append_eq_append_iff.mp whole with ⟨between, front, inLead⟩ | ⟨between, front, inLead⟩
    · -- inside a word there is no call, and a quoted span is one segment
      obtain ⟨others, last, rfl⟩ := (List.eq_nil_or_concat between).resolve_left fun none =>
        begins (by rw [front, none, List.append_nil])
      rcases lead_cases source with ⟨span, single⟩ | words
      · have count := congrArg List.length (inLead.symm.trans single)
        simp only [List.concat_eq_append, List.length_append, List.length_cons, List.length_nil] at count
        omega
      · have inside := words last (by simp [inLead])
        have apart := stamp.apart
        have ends : earlier.getLast? = some last := by simp [front]
        rw [ends, Option.some_or, Option.map_some, Option.any_some] at apart
        cases last with
        | plain d => exact Bool.false_ne_true (apart.symm.trans inside)
        | quoted span => cases inside
    · cases between with
      | nil => exact begins (by simpa using front.symm)
      | cons other between =>
        have refused := blank other (by simp [front])
        rw [← (List.cons.inj inLead).1, first, isBlankSegment] at refused
        rw [isWordChar_of_isBlank refused] at word
        cases word
  exact List.prefix_append _ _

/-! The list. -/

theorem forall₂_comp {α β γ : Type} {first : α → β → Prop} {second : β → γ → Prop} {xs : List α}
    {ys : List β} {zs : List γ} (before : List.Forall₂ first xs ys) (after : List.Forall₂ second ys zs) :
    List.Forall₂ (Relation.Comp first second) xs zs := by
  induction before generalizing zs with
  | nil =>
    cases after
    exact .nil
  | @cons x y _ _ here _ ih =>
    cases after with
    | cons there after => exact .cons ⟨y, here, there⟩ (ih after)

theorem forall₂_getElem? {α β : Type} {relation : α → β → Prop} {xs : List α} {ys : List β}
    (all : List.Forall₂ relation xs ys) {i : Nat} {x : α} {y : β} (first : xs[i]? = some x)
    (second : ys[i]? = some y) : relation x y := by
  induction all generalizing i with
  | nil => cases first
  | cons here _ ih =>
    cases i with
    | zero =>
      cases first
      cases second
      exact here
    | succ i => exact ih first second

def listed (inner : List Segment) : List Segment := .plain '(' :: (inner ++ [.plain ')'])

theorem clears_listed {literals : List (List Char)} {inner out : List Segment}
    (balanced : balancedFrom 0 inner = true)
    (clears : Relation.ReflTransGen (Clears noiseClauses literals) (listed inner) out) :
    ∃ middle, out = listed middle ∧ balancedFrom 0 middle = true ∧
      List.Forall₂ KeepsOpening (elementsFrom 0 inner) (elementsFrom 0 middle) := by
  have outside : ∀ c ∈ ['(', ','], endsClause c = false := List.all_iff_forall_prop.mp (by decide)
  induction clears with
  | refl => exact ⟨inner, rfl, balanced, List.forall₂_same.mpr fun _ _ _ _ start => start⟩
  | tail _ step ih =>
    obtain ⟨list, rfl, balanced, keeps⟩ := ih
    obtain ⟨clause, member, whole, edits⟩ := step
    have noise := edits.imp fun _ _ _ => isNoise_of_removes member
    obtain ⟨middle, rfl, balanced, kept⟩ := Edits.enclosed (fun _ _ noise => noise.level) rfl
      (fun _ noise => by cases noise.behind)
      (fun c separator _ _ edits => @keepsOpening_of_edits (some (.plain c)) _ _ (outside c separator) edits)
      balanced noise
    exact ⟨middle, rfl, balanced, (forall₂_comp keeps kept).imp
      fun _ _ ⟨_, first, second⟩ front opening start => second front opening (first front opening start)⟩

theorem called_listed {literals : List (List Char)} {whole : List Char} {inner out : List Segment}
    (balanced : balancedFrom 0 inner = true)
    (edits : Edits (timestampCall.Removes literals whole) ("CURRENT_TIMESTAMP".toList.map .plain) none
      (listed inner) out) :
    ∃ result, out = listed result ∧ balancedFrom 0 result = true ∧
      List.Forall₂ (fun element out => ∀ source, beginning source <+: element →
        beginning source <+: out ∨ BeginsWithCall (spelled element))
        (elementsFrom 0 inner) (elementsFrom 0 result) := by
  have stamps := edits.imp fun _ _ _ => isStamp_of_removes
  refine Edits.enclosed (fun _ _ stamp => stamp.level) (by decide) (fun taken stamp => ?_)
    (fun _ _ _ _ edits _ start => beginning_kept edits start) balanced stamps
  obtain ⟨name, digits, text, call, same⟩ := stamp.call
  obtain ⟨c, rest, head, word⟩ := call.head
  rw [head, List.map_cons] at same
  rw [← Segment.plain.inj (List.cons.inj same).1] at word
  exact absurd word (by decide)

/-! Reading the list back. -/

/-- No quoted span that is left open reaches over the closing parenthesis. -/
def Closes (inner : List Char) : Prop := segments (inner ++ [')']) = segments inner ++ [.plain ')']

theorem segments_listed {inner : List Char} (closes : Closes inner) :
    segments ('(' :: (inner ++ [')'])) = listed (segments inner) := by
  rw [segments, if_neg (by decide), closes, listed]

theorem spelled_listed (inner : List Segment) :
    spelled (listed inner) = '(' :: (spelled inner ++ [')']) := by
  rw [listed, spelled_cons, spelled_append]
  rfl

theorem lead_trimLeft {text : List Char} {source out : List Segment} (member : source ∈ elements text)
    (start : beginning source <+: out) : spelled (lead source) <+: trimLeft (spelled out) := by
  obtain ⟨rest, rfl⟩ := start
  cases first : lead source with
  | nil => exact List.nil_prefix
  | cons segment others =>
    have inside : segment ∈ lead source := by simp [first]
    obtain ⟨c, tail, own, other⟩ : ∃ c tail, segment.text = c :: tail ∧ isBlank c = false := by
      cases segment with
      | plain c => exact ⟨c, [], rfl, not_blank_of_mem_lead inside⟩
      | quoted span =>
        have known := subset_of_mem_elementsFrom member
          ((List.dropWhile_suffix _).subset ((lead_starts source).subset inside))
        obtain ⟨quote, tail, rfl, isQuote⟩ := quote_of_mem_segments known
        refine ⟨quote, tail, rfl, ?_⟩
        rw [Text.isQuote, Bool.or_eq_true, Bool.or_eq_true, beq_iff_eq, beq_iff_eq, beq_iff_eq] at isQuote
        rcases isQuote with (rfl | rfl) | rfl <;> decide
    rw [← first, beginning, List.append_assoc, spelled_append, spelled_append,
      trimLeft_blanks (fun _ => List.mem_takeWhile_imp)]
    · exact List.prefix_append _ _
    · rw [first, spelled_cons, own]
      rfl
    · exact other

theorem quotedSpans_clears {clauses : List Pattern} {literals : List (List Char)} {list out : List Segment}
    (clears : Relation.ReflTransGen (Clears clauses literals) list out) :
    List.Sublist (quotedSpans out) (quotedSpans list) := by
  induction clears with
  | refl => exact List.Sublist.refl _
  | tail _ step ih =>
    obtain ⟨clause, -, whole, edits⟩ := step
    exact (@Edits.quotedSpans _ [] _ _ _ edits).trans ih

/-- The spans that unmasking puts back. -/
def restoredSpans (masked : Masked) : List (List Char) :=
  (placeholders masked.text).filterMap (masked.literals[·]?)

theorem elements_spelled {list : List Segment} (faithful : Faithful list) :
    (elements (spelled list)).map spelled = (elementsFrom 0 list).map spelled :=
  (joins_segments faithful).elements 0

theorem exists_element {list : List Segment} (faithful : Faithful list) {i : Nat} {element : List Segment}
    (found : (elements (spelled list))[i]? = some element) :
    ∃ own, (elementsFrom 0 list)[i]? = some own ∧ spelled own = spelled element := by
  have same := congrArg (·[i]?) (elements_spelled faithful)
  simpa [found] using same.symm

/-- Stripping a text without marks succeeds and puts quoted spans back in their order. A list in parentheses
stays one with as many elements, and each still begins with the word or quoted span that it began with,
unless it begins with a call when its noise is gone. -/
theorem noise_spares_elements (text : List Char) (unmarked : '\x00' ∉ text) :
    (∃ result, stripNoise text = some result) ∧
    List.Sublist (restoredSpans (stripMasked (mask text))) (quotedSpans (segments text)) ∧
    ∀ inner, text = '(' :: (inner ++ [')']) → Closes inner → IsBalanced inner →
      ∃ middle result, unmask (withoutClauses (mask text)) = some ('(' :: (middle ++ [')'])) ∧
        stripNoise text = some ('(' :: (result ++ [')'])) ∧ Closes result ∧ IsBalanced result ∧
        (elements middle).length = (elements inner).length ∧
        (elements result).length = (elements inner).length ∧
        ∀ (i : Nat) (source cleared out : List Segment), (elements inner)[i]? = some source →
          (elements middle)[i]? = some cleared → (elements result)[i]? = some out →
            spelled (lead source) <+: trimLeft (spelled out) ∨ BeginsWithCall (spelled cleared) := by
  obtain ⟨middle, out, clears, edits, cleared, called⟩ := exists_stripNoise (not_hasBareMark unmarked)
  refine ⟨⟨spelled out, called.unmask⟩, ?_, ?_⟩
  · have restored : restoredSpans (stripMasked (mask text)) = quotedSpans out := called.placeholders
    rw [restored]
    exact edits.quotedSpans.trans (quotedSpans_clears clears)
  · rintro inner rfl closes balanced
    have faithful := faithful_segments ('(' :: (inner ++ [')']))
    rw [segments_listed closes] at faithful clears
    obtain ⟨list, rfl, level, keeps⟩ := clears_listed balanced clears
    obtain ⟨result, rfl, levelOut, kept⟩ := called_listed level edits
    have faithfulList := faithful_clears faithful clears
    have faithfulOut := edits.faithful (fun c member => (timestamp_plain c member).2) faithfulList
    have count : ∀ {list : List Segment}, Faithful list →
        (elements (spelled list)).length = (elementsFrom 0 list).length := fun faithful => by
      simpa using congrArg List.length (elements_spelled faithful)
    refine ⟨spelled list, spelled result, ?_, ?_, segments_append_plain faithfulOut.2, ?_, ?_, ?_, ?_⟩
    · rw [← spelled_listed]
      exact cleared.unmask
    · rw [← spelled_listed]
      exact called.unmask
    · rw [IsBalanced, (joins_segments faithfulOut.2.front).balancedFrom, levelOut]
    · rw [count faithfulList.2.front, ← keeps.length_eq]
      rfl
    · rw [count faithfulOut.2.front, ← kept.length_eq, ← keeps.length_eq]
      rfl
    · intro i source cleared out first second third
      obtain ⟨between, inList, sameText⟩ := exists_element faithfulList.2.front second
      obtain ⟨last, inOut, sameOut⟩ := exists_element faithfulOut.2.front third
      have opening := forall₂_getElem? keeps first inList _ (isOpening_beginning source)
        (beginning_starts source)
      rw [← sameText, ← sameOut]
      exact (forall₂_getElem? kept inList inOut source opening).imp_left
        (lead_trimLeft (List.mem_of_getElem? first))

theorem noise_spares_elements_comment :
    '\x00' ∉ "(comment COMMENT '1,)', b)".toList ∧ Closes "comment COMMENT '1,)', b".toList ∧
    IsBalanced "comment COMMENT '1,)', b".toList ∧
    ∃ result, stripNoise "(comment COMMENT '1,)', b)".toList = some ('(' :: (result ++ [')'])) ∧
      Closes result ∧ (elements result).length = (elements "comment COMMENT '1,)', b".toList).length := by
  have closes : Closes "comment COMMENT '1,)', b".toList := by
    simp [Closes, segments, isQuote, quotedTail]
  have balanced : IsBalanced "comment COMMENT '1,)', b".toList := by decide +kernel
  obtain ⟨middle, result, -, stripped, closed, -, -, count, -⟩ :=
    (noise_spares_elements "(comment COMMENT '1,)', b)".toList (by decide)).2.2 _ rfl closes balanced
  exact ⟨by decide, closes, balanced, result, stripped, closed, count⟩

/-- A span that is left open takes the parenthesis along, and noise can stand between the name and the
argument of a call. -/
theorem noise_can_spoil_elements :
    (¬ ∀ inner : List Char, '\x00' ∉ inner → IsBalanced inner →
      ∃ result, stripNoise ('(' :: (inner ++ [')'])) = some ('(' :: (result ++ [')']))) ∧
    ¬ ∀ inner result : List Char, '\x00' ∉ inner → IsBalanced inner →
      stripNoise ('(' :: (inner ++ [')'])) = some ('(' :: (result ++ [')'])) →
      ∀ (i : Nat) (source out : List Segment), (elements inner)[i]? = some source →
        (elements result)[i]? = some out →
          spelled (lead source) <+: trimLeft (spelled out) ∨ BeginsWithCall (spelled source) := by
  constructor
  · intro always
    obtain ⟨result, stripped⟩ := always "a COMMENT 'x".toList (by decide) (by decide +kernel)
    have own : stripNoise ('(' :: ("a COMMENT 'x".toList ++ [')'])) = some ['(', 'a'] := by decide +kernel
    rw [own, Option.some_inj] at stripped
    have last := congrArg List.getLast? stripped
    simp [List.getLast?_cons] at last
  · intro always
    have stripped : stripNoise ('(' :: ("current_timestamp COLLATE x (6)".toList ++ [')'])) =
        some ('(' :: ("CURRENT_TIMESTAMP".toList ++ [')'])) := by
      decide +kernel
    have first : ((elements "current_timestamp COLLATE x (6)".toList)[0]?.map fun source =>
        (spelled (lead source), spelled source)) =
          some ("current_timestamp".toList, "current_timestamp COLLATE x (6)".toList) := by
      decide +kernel
    have second : (elements "CURRENT_TIMESTAMP".toList)[0]?.map spelled =
        some "CURRENT_TIMESTAMP".toList := by
      decide +kernel
    obtain ⟨source, inList, own⟩ := Option.map_eq_some_iff.mp first
    obtain ⟨out, inResult, text⟩ := Option.map_eq_some_iff.mp second
    have kept := always _ _ (by decide) (by decide +kernel) stripped 0 source out inList inResult
    rw [text, (Prod.mk.inj own).1, (Prod.mk.inj own).2] at kept
    rcases kept with start | begins
    · exact absurd start (by decide)
    · rw [BeginsWithCall] at begins
      exact absurd begins (by decide +kernel)

end DdlSchema.Statement
