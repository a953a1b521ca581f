import DdlSchema.Schema.TypeName
import DdlSchema.Proofs.Text.Finding
import DdlSchema.Proofs.Text.MarkKeeping
import DdlSchema.Proofs.Text.Quotation
import DdlSchema.Proofs.Text.Recasing

/-! Types without spaces that carry no meaning. Cleaning leaves single spaces between words only, a change
of case puts none elsewhere, and a type of this form is cleaned of sign modifiers at most. -/

set_option autoImplicit false

namespace DdlSchema.Schema

open DdlSchema.Text DdlSchema.Text.Pattern

/-! Spaces. -/

/-- Each blank is a space between two characters of the class. -/
def Spaced (beside : Char → Bool) : Option Char → List Char → Prop
  | _, [] => True
  | before, c :: rest =>
    (isBlank c = true → c = ' ' ∧ before.any beside = true ∧ rest.head?.any beside = true) ∧
      Spaced beside (some c) rest

instance decidableSpaced (beside : Char → Bool) : ∀ before text, Decidable (Spaced beside before text)
  | _, [] => inferInstanceAs (Decidable True)
  | _, c :: rest =>
    have := decidableSpaced beside (some c) rest
    inferInstanceAs (Decidable (_ ∧ _))

def isFilled (c : Char) : Bool := !isBlank c

/-- A character that keeps the spaces beside it. -/
def isSolid (c : Char) : Bool := !(isBlank c || isListMark c)

/-- No space is at an end, beside another one or beside a mark. -/
def Tidy (text : List Char) : Prop := Spaced isSolid none text

theorem isFilled_of_isSolid {c : Char} (solid : isSolid c = true) : isFilled c = true := by
  rw [isSolid, Bool.not_eq_true', Bool.or_eq_false_iff] at solid
  rw [isFilled, solid.1, Bool.not_false]

namespace Spaced

variable {beside : Char → Bool} {before : Option Char} {text rest : List Char}

theorem imp {wider : Char → Bool} (follows : ∀ c, beside c = true → wider c = true)
    (spaced : Spaced beside before text) : Spaced wider before text := by
  have any : ∀ {side : Option Char}, side.any beside = true → side.any wider = true := by
    intro side inside
    cases side with
    | none => cases inside
    | some c => exact follows c inside
  induction text generalizing before with
  | nil => trivial
  | cons c text ih =>
    refine ⟨fun blank => ?_, ih spaced.2⟩
    obtain ⟨same, left, right⟩ := spaced.1 blank
    exact ⟨same, any left, any right⟩

/-- What stands before matters to a blank only. -/
theorem behind (spaced : Spaced beside before text) (filled : text.head?.any isFilled = true)
    (other : Option Char) : Spaced beside other text := by
  cases text with
  | nil => trivial
  | cons c text =>
    refine ⟨fun blank => ?_, spaced.2⟩
    rw [List.head?_cons, Option.any_some, isFilled, blank] at filled
    cases filled

theorem append (filled : ∀ c ∈ text, isFilled c = true)
    (spaced : Spaced beside (text.getLast?.or before) rest) : Spaced beside before (text ++ rest) := by
  induction text generalizing before with
  | nil => exact spaced
  | cons c text ih =>
    rw [getLast?_cons_or] at spaced
    refine ⟨fun blank => ?_, ih (fun d member => filled d (List.mem_cons_of_mem _ member)) spaced⟩
    have here := filled c List.mem_cons_self
    rw [isFilled, blank] at here
    cases here

theorem of_append (spaced : Spaced beside before (text ++ rest)) :
    Spaced beside (text.getLast?.or before) rest := by
  induction text generalizing before with
  | nil => exact spaced
  | cons c text ih =>
    rw [getLast?_cons_or]
    exact ih spaced.2

theorem blank_eq (spaced : Spaced beside before text) {c : Char} (member : c ∈ text)
    (blank : isBlank c = true) : c = ' ' := by
  induction text generalizing before with
  | nil => cases member
  | cons d text ih =>
    rcases List.mem_cons.mp member with rfl | later
    · exact (spaced.1 blank).1
    · exact ih spaced.2 later

theorem of_paren {front : List Char} (spaced : Spaced isSolid before (front ++ '(' :: rest)) :
    Spaced isSolid before front := by
  induction front generalizing before with
  | nil => trivial
  | cons c front ih =>
    refine ⟨fun blank => ?_, ih spaced.2⟩
    obtain ⟨same, left, right⟩ := spaced.1 blank
    refine ⟨same, left, ?_⟩
    cases front with
    | nil => exact absurd right (by decide : ¬ isSolid '(' = true)
    | cons d front => exact right

end Spaced

/-! Cleaning leaves a tidy text. -/

theorem filled_of_mem_wordsFrom {current text word : List Char}
    (filled : ∀ c ∈ current, isFilled c = true) (member : word ∈ wordsFrom current text) :
    word ≠ [] ∧ ∀ c ∈ word, isFilled c = true := by
  have own : current.isEmpty = false → current.reverse ≠ [] ∧ ∀ c ∈ current.reverse, isFilled c = true := by
    intro some_
    refine ⟨by simpa using some_, fun c inside => filled c (List.mem_reverse.mp inside)⟩
  induction text generalizing current with
  | nil =>
    rw [wordsFrom] at member
    split at member
    · cases member
    · next some_ =>
      rw [List.mem_singleton.mp member]
      exact own (by simpa using some_)
  | cons c text ih =>
    rw [wordsFrom] at member
    split at member
    · split at member
      · exact ih (by simp) member (by simp)
      · next some_ =>
        rcases List.mem_cons.mp member with rfl | later
        · exact own (by simpa using some_)
        · exact ih (by simp) later (by simp)
    · next other =>
      have more : ∀ d ∈ c :: current, isFilled d = true := by
        intro d inside
        rcases List.mem_cons.mp inside with rfl | earlier
        · simpa [isFilled] using other
        · exact filled d earlier
      exact ih more member fun _ => ⟨by simp, fun d inside => more d (List.mem_reverse.mp inside)⟩

theorem spaced_intercalate {words : List (List Char)}
    (filled : ∀ word ∈ words, word ≠ [] ∧ ∀ c ∈ word, isFilled c = true) :
    Spaced isFilled none ([' '].intercalate words) ∧
      (words ≠ [] → ([' '].intercalate words).head?.any isFilled = true) := by
  induction words with
  | nil => exact ⟨trivial, fun none => absurd rfl none⟩
  | cons word words ih =>
    obtain ⟨some_, all⟩ := filled word List.mem_cons_self
    obtain ⟨later, first⟩ := ih fun other member => filled other (List.mem_cons_of_mem _ member)
    obtain ⟨c, word, rfl⟩ := List.exists_cons_of_ne_nil some_
    have head : ∀ rest, ((c :: word) ++ rest).head?.any isFilled = true := fun rest =>
      all c List.mem_cons_self
    cases words with
    | nil =>
      rw [List.intercalate_singleton, ← List.append_nil (c :: word)]
      exact ⟨.append all trivial, fun _ => head []⟩
    | cons other words =>
      rw [List.intercalate_cons_cons, List.append_assoc]
      refine ⟨.append all ⟨fun _ => ⟨rfl, ?_, first (by simp)⟩, later.behind (first (by simp)) _⟩, fun _ => head _⟩
      rw [List.getLast?_eq_some_getLast some_, Option.some_or, Option.any_some]
      exact all _ (List.getLast_mem some_)

theorem spaced_squeeze (text : List Char) : Spaced isFilled none (squeeze text) :=
  (spaced_intercalate fun _ => filled_of_mem_wordsFrom (List.forall_mem_nil _)).1

theorem filter_gapped (pending : Bool) (text : List Char) :
    (gapped pending text).filter isFilled = text.filter isFilled := by
  induction text generalizing pending with
  | nil => rfl
  | cons c rest ih =>
    have space : isBlank ' ' = true := by decide
    by_cases blank : isBlank c = true
    · simp [gapped, blank, isFilled, ih]
    · cases pending <;> simp [gapped, blank, isFilled, space, ih]

theorem filter_squeeze (text : List Char) : (squeeze text).filter isFilled = text.filter isFilled := by
  induction text with
  | nil => rfl
  | cons c rest ih =>
    by_cases blank : isBlank c = true
    · rw [squeeze_blank blank, ih, List.filter_cons_of_neg (by simp [isFilled, blank])]
    · have filled : isFilled c = true := by simp [isFilled, blank]
      rw [squeeze_solid (Bool.eq_false_iff.mpr blank), List.filter_cons_of_pos filled, filter_gapped,
        List.filter_cons_of_pos filled]

theorem mem_of_mem_squeeze {c : Char} {text : List Char} (member : c ∈ squeeze text) : c ∈ text ∨ c = ' ' := by
  by_cases blank : isBlank c = true
  · exact .inr ((spaced_squeeze text).blank_eq member blank)
  · have filled : isFilled c = true := by simp [isFilled, blank]
    have kept := List.mem_filter.mpr ⟨member, filled⟩
    rw [filter_squeeze] at kept
    exact .inl (List.mem_filter.mp kept).1

/-- Of single spaces, those beside marks are taken away. -/
theorem tidy_tighten {before : Option Char} {text : List Char} (spaced : Spaced isFilled before text) :
    Spaced isSolid before (tighten before text) := by
  have solid : ∀ {side : Option Char}, side.any isFilled = true → side.any isListMark = false →
      side.any isSolid = true := by
    intro side filled free
    cases side with
    | none => cases filled
    | some c =>
      rw [Option.any_some] at filled free ⊢
      rw [isFilled, Bool.not_eq_true'] at filled
      rw [isSolid, filled, free, Bool.or_false, Bool.not_false]
  induction text generalizing before with
  | nil => trivial
  | cons c rest ih =>
    rw [tighten]
    split
    · next loose =>
      rw [Bool.and_eq_true, beq_iff_eq] at loose
      obtain ⟨rfl, -⟩ := loose
      obtain ⟨-, -, next⟩ := spaced.1 (by decide)
      exact ih (spaced.2.behind next before)
    · next kept =>
      refine ⟨fun blank => ?_, ih spaced.2⟩
      obtain ⟨rfl, left, right⟩ := spaced.1 blank
      rw [beq_self_eq_true, Bool.true_and, Bool.not_eq_true, Bool.or_eq_false_iff] at kept
      refine ⟨rfl, solid left kept.1, ?_⟩
      cases rest with
      | nil => cases right
      | cons d rest =>
        -- the next character is no space and stays
        have other : (d == ' ') = false := by
          rw [beq_eq_false_iff_ne]
          rintro rfl
          exact absurd right (by decide : ¬ isFilled ' ' = true)
        rw [tighten, other, Bool.false_and, if_neg Bool.false_ne_true]
        exact solid right kept.2

theorem tidy_of_cleanType {type clean : List Char} (same : cleanType type = clean) : Tidy clean := by
  rw [← same]
  exact tidy_tighten (spaced_squeeze _)

/-! A tidy text is left as it is. -/

theorem tighten_of_spaced {before : Option Char} {text : List Char} (spaced : Spaced isSolid before text) :
    tighten before text = text := by
  have unmarked : ∀ {side : Option Char}, side.any isSolid = true → side.any isListMark = false := by
    intro side solid
    cases side with
    | none => rfl
    | some c =>
      rw [Option.any_some, isSolid, Bool.not_eq_true', Bool.or_eq_false_iff] at solid
      exact solid.2
  induction text generalizing before with
  | nil => rfl
  | cons c rest ih =>
    rw [tighten, if_neg, ih spaced.2]
    rw [Bool.and_eq_true, beq_iff_eq]
    rintro ⟨rfl, loose⟩
    obtain ⟨-, left, right⟩ := spaced.1 (by decide)
    rw [unmarked left, unmarked right] at loose
    cases loose

theorem intercalate_ne_nil {words : List (List Char)} (text : List Char) (some_ : text ≠ [])
    (same : [' '].intercalate words = text) : words ≠ [] := by
  rintro rfl
  exact some_ same.symm

/-- The words of a text with single spaces, and the spaces again. -/
theorem intercalate_wordsFrom {current text : List Char} (spaced : Spaced isFilled current.head? text)
    (filled : current = [] → text ≠ [] → text.head?.any isFilled = true) :
    [' '].intercalate (wordsFrom current text) = current.reverse ++ text := by
  induction text generalizing current with
  | nil =>
    rw [wordsFrom, List.append_nil]
    cases current with
    | nil => rfl
    | cons c current => exact List.intercalate_singleton
  | cons c rest ih =>
    rw [wordsFrom]
    split
    · next blank =>
      obtain ⟨rfl, left, right⟩ := spaced.1 blank
      -- a space stands between two words, so another word follows
      have some_ : rest ≠ [] := by
        rintro rfl
        cases right
      have later := @ih [] (spaced.2.behind right _) fun _ _ => right
      rw [List.reverse_nil, List.nil_append] at later
      cases current with
      | nil => cases left
      | cons d current =>
        obtain ⟨word, words, more⟩ := List.exists_cons_of_ne_nil (intercalate_ne_nil rest some_ later)
        rw [List.isEmpty_cons, if_neg Bool.false_ne_true, more, List.intercalate_cons_cons, ← more, later,
          List.append_assoc]
        rfl
    · rw [@ih (c :: current) spaced.2 (fun none => by cases none), List.reverse_cons, List.append_assoc]
      rfl

/-- Trimming leaves a text that has no blank at its ends. -/
theorem trim_of_filled {text : List Char} (first : text.head?.all isFilled = true)
    (last : text.getLast?.all isFilled = true) : trim text = text := by
  have drop : ∀ {text : List Char}, text.head?.all isFilled = true → text.dropWhile isBlank = text := by
    intro text filled
    cases text with
    | nil => rfl
    | cons c rest =>
      rw [List.head?_cons, Option.all_some, isFilled, Bool.not_eq_true'] at filled
      rw [List.dropWhile_cons_of_neg (by simp [filled])]
  rw [trim, trimLeft, drop first, trimRight, drop (by rwa [List.head?_reverse]), List.reverse_reverse]

theorem getLast?_trim (text : List Char) : (trim text).getLast?.all isFilled = true := by
  rw [trim, trimRight, List.getLast?_reverse]
  cases same : (trimLeft text).reverse.dropWhile isBlank with
  | nil => rfl
  | cons c rest =>
    have other := List.head?_dropWhile_not isBlank (trimLeft text).reverse
    rw [same] at other
    simpa [isFilled] using other

namespace Tidy

variable {text : List Char}

theorem filled (tidy : Tidy text) : Spaced isFilled none text := tidy.imp fun _ => isFilled_of_isSolid

theorem head (tidy : Tidy text) (some_ : text ≠ []) : text.head?.any isFilled = true := by
  obtain ⟨c, rest, rfl⟩ := List.exists_cons_of_ne_nil some_
  rw [List.head?_cons, Option.any_some, isFilled, Bool.not_eq_true', Bool.eq_false_iff]
  intro blank
  cases (tidy.1 blank).2.1

theorem squeeze (tidy : Tidy text) : squeeze text = text :=
  @intercalate_wordsFrom [] text tidy.filled fun _ => tidy.head

theorem tighten (tidy : Tidy text) : tighten none text = text := tighten_of_spaced tidy

theorem last (tidy : Tidy text) : text.getLast?.all isFilled = true := by
  rcases List.eq_nil_or_concat text with rfl | ⟨earlier, c, rfl⟩
  · rfl
  · rw [List.concat_eq_append, List.getLast?_concat, Option.all_some, isFilled, Bool.not_eq_true',
      Bool.eq_false_iff]
    intro blank
    rw [Tidy, List.concat_eq_append] at tidy
    cases (tidy.of_append.1 blank).2.2

theorem trim (tidy : Tidy text) : trim text = text := by
  refine trim_of_filled ?_ tidy.last
  cases text with
  | nil => rfl
  | cons c rest => exact tidy.head (List.cons_ne_nil _ _)

end Tidy

/-! Base and parameters. -/

/-- Nothing, or what begins with a parenthesis. -/
def IsParams : List Char → Prop
  | [] => True
  | c :: _ => c = '('

theorem splitType_params (type : List Char) :
    IsParams (splitType type).2 ∧ (splitType type).2 <:+ type := by
  rw [splitType]
  split
  · refine ⟨?_, List.dropWhile_suffix _⟩
    cases same : type.dropWhile (· != '(') with
    | nil => trivial
    | cons c rest =>
      have first := List.head?_dropWhile_not (· != '(') type
      rw [same] at first
      simpa [IsParams] using first
  · exact ⟨trivial, List.nil_suffix⟩

theorem exists_base (type : List Char) :
    ∃ base params, type = base ++ params ∧ '(' ∉ base ∧ IsParams params := by
  induction type with
  | nil => exact ⟨[], [], rfl, List.not_mem_nil, trivial⟩
  | cons c type ih =>
    by_cases opening : c = '('
    · exact ⟨[], c :: type, rfl, List.not_mem_nil, opening⟩
    · obtain ⟨base, params, rfl, bare, split⟩ := ih
      refine ⟨c :: base, params, rfl, ?_, split⟩
      rw [List.mem_cons, not_or]
      exact ⟨Ne.symm opening, bare⟩

section

variable {base params : List Char}

theorem ne_paren (bare : '(' ∉ base) : ∀ c ∈ base, (c != '(') = true :=
  fun _ member => bne_iff_ne.mpr fun same => bare (same ▸ member)

theorem takeWhile_base (bare : '(' ∉ base) (split : IsParams params) :
    (base ++ params).takeWhile (· != '(') = base := by
  rw [List.takeWhile_append_of_pos (ne_paren bare)]
  cases params with
  | nil => simp
  | cons c params =>
    cases split
    simp

theorem dropWhile_base (bare : '(' ∉ base) (split : IsParams params) :
    (base ++ params).dropWhile (· != '(') = params := by
  rw [List.dropWhile_append_of_pos (ne_paren bare)]
  cases params with
  | nil => rfl
  | cons c params =>
    cases split
    simp

theorem Tidy.of_params (tidy : Tidy (base ++ params)) (split : IsParams params) : Tidy base := by
  cases params with
  | nil => rwa [List.append_nil] at tidy
  | cons c params =>
    cases split
    exact Spaced.of_paren tidy

theorem splitType_append (single : trim base = base) (bare : '(' ∉ base) (split : IsParams params) :
    splitType (base ++ params) = (base, params) := by
  rw [splitType]
  split
  · rw [takeWhile_base bare split, dropWhile_base bare split, single]
  · next outside =>
    cases params with
    | nil => rw [List.append_nil]
    | cons c params =>
      cases split
      exact absurd (by simp) outside

end

/-! Changes of case. -/

def isFrame (c : Char) : Bool := isBlank c || isListMark c

/-- Blanks and marks are spelled as themselves, and others without them. -/
def KeepsFrame (spells : Char → List Char → Prop) : Prop :=
  ∀ c letters, spells c letters →
    (isFrame c = true ∧ letters = [c]) ∨
    (isFrame c = false ∧ letters ≠ [] ∧ ∀ d ∈ letters, isFrame d = false)

theorem isSolid_eq (c : Char) : isSolid c = !isFrame c := rfl

theorem KeepsFrame.keeps {spells : Char → List Char → Prop} (keeps : KeepsFrame spells) {stop : Char}
    (frame : isFrame stop = true) : Keeps spells stop := by
  intro c letters here
  rcases keeps c letters here with ⟨-, rfl⟩ | ⟨other, -, inside⟩
  · by_cases same : c = stop
    · exact .inl ⟨same, by rw [same]⟩
    · exact .inr ⟨same, fun member => same (List.mem_singleton.mp member).symm⟩
  · refine .inr ⟨?_, fun member => ?_⟩
    · rintro rfl
      rw [other] at frame
      cases frame
    · rw [inside stop member] at frame
      cases frame

section

variable {spells : Char → List Char → Prop} {text out : List Char}

theorem KeepsFrame.head (keeps : KeepsFrame spells) (respelled : Respelled spells text out) :
    out.head?.any isSolid = text.head?.any isSolid := by
  cases respelled with
  | nil => rfl
  | @cons c letters text out here later =>
    rcases keeps c letters here with ⟨-, rfl⟩ | ⟨other, some_, inside⟩
    · rfl
    · obtain ⟨d, letters, rfl⟩ := List.exists_cons_of_ne_nil some_
      simp [isSolid_eq, other, inside d]

/-- A change of case keeps the spaces where they are. -/
theorem KeepsFrame.spaced (keeps : KeepsFrame spells) (respelled : Respelled spells text out)
    {before other : Option Char} (same : other.any isSolid = before.any isSolid)
    (spaced : Spaced isSolid before text) : Spaced isSolid other out := by
  induction respelled generalizing before other with
  | nil => trivial
  | @cons c letters text out here later ih =>
    rcases keeps c letters here with ⟨-, rfl⟩ | ⟨apart_, some_, inside⟩
    · refine ⟨fun blank => ?_, ih rfl spaced.2⟩
      obtain ⟨space, left, right⟩ := spaced.1 blank
      exact ⟨space, same.trans left, (keeps.head later).trans right⟩
    · have solid : ∀ d ∈ letters, isSolid d = true := fun d member => by
        rw [isSolid_eq, inside d member, Bool.not_false]
      refine .append (fun d member => isFilled_of_isSolid (solid d member)) (ih ?_ spaced.2)
      rw [List.getLast?_eq_some_getLast some_, Option.some_or, Option.any_some, Option.any_some,
        solid _ (List.getLast_mem some_), isSolid_eq, apart_, Bool.not_false]

theorem KeepsFrame.tidy (keeps : KeepsFrame spells) (respelled : Respelled spells text out)
    (tidy : Tidy text) : Tidy out := keeps.spaced respelled rfl tidy

theorem KeepsFrame.isParams (keeps : KeepsFrame spells) (respelled : Respelled spells text out)
    (split : IsParams text) : IsParams out := by
  cases respelled with
  | nil => trivial
  | @cons c letters text out here later =>
    cases split
    rcases keeps _ _ here with ⟨-, rfl⟩ | ⟨other, -⟩
    · exact rfl
    · exact absurd other (by decide)

end

def frameCodes : List Nat := [0x28, 0x29, 0x2c] ++ blankCodes

theorem mem_frameCodes {c : Char} (frame : isFrame c = true) : c.toNat ∈ frameCodes := by
  rw [isFrame, Bool.or_eq_true] at frame
  rcases frame with blank | mark
  · exact List.mem_append_right _ (mem_blankCodes blank)
  · simp only [isListMark, Bool.or_eq_true, beq_iff_eq] at mark
    rcases mark with (rfl | rfl) | rfl <;> decide

/-- What the tables lead to is neither blank nor a mark. -/
theorem not_isFrame_changeCase {runs : List CaseRun} {expansions : List (Nat × List Nat)}
    (mapped : (runs.all fun run => run.leadsToLetters &&
      frameCodes.all fun code => run.misses code code) = true)
    (expanded : (expansions.all fun entry => entry.2.all fun n => !isFrame (Char.ofNat n)) = true)
    {c : Char} (other : isFrame c = false) : ∀ d ∈ changeCase runs expansions c, isFrame d = false := by
  intro d member
  rcases changeCase_cases runs expansions c with
    ⟨letters, entry, same⟩ | ⟨run, inside, distance, near, -, -, same⟩ | ⟨-, -, same⟩
  · rw [same] at member
    obtain ⟨n, listed, rfl⟩ := List.mem_map.mp member
    simpa using List.all_eq_true.mp (List.all_eq_true.mp expanded _ entry) n listed
  · rw [same] at member
    have all := List.all_eq_true.mp mapped run inside
    rw [Bool.and_eq_true] at all
    rw [Bool.eq_false_iff]
    intro frame
    have code := mem_frameCodes frame
    have own := CaseRun.toNat_ofNat all.1 near
    rw [List.mem_singleton.mp member, own] at code
    have away := CaseRun.lt_or_lt_of_misses (List.all_eq_true.mp all.2 _ code) near
    omega
  · rw [same] at member
    rwa [List.mem_singleton.mp member]

theorem keepsFrame_changeCase {change : Char → List Char} {ascii : Char → Char} {runs : List CaseRun}
    {expansions : List (Nat × List Nat)}
    (form : ∀ c, change c = if c.toNat < 0x80 then [ascii c] else changeCase runs expansions c)
    (some_ : ∀ c, change c ≠ []) (kept : ∀ code ∈ frameCodes, change (Char.ofNat code) = [Char.ofNat code])
    (low : ∀ n < 0x80, isFrame (Char.ofNat n) = false → isFrame (ascii (Char.ofNat n)) = false)
    (mapped : (runs.all fun run => run.leadsToLetters &&
      frameCodes.all fun code => run.misses code code) = true)
    (expanded : (expansions.all fun entry => entry.2.all fun n => !isFrame (Char.ofNat n)) = true) :
    KeepsFrame fun c letters => letters = change c := by
  rintro c _ rfl
  cases frame : isFrame c with
  | true =>
    have own := kept _ (mem_frameCodes frame)
    rw [Char.ofNat_toNat] at own
    exact .inl ⟨rfl, own⟩
  | false =>
    refine .inr ⟨rfl, some_ c, ?_⟩
    rw [form]
    split
    · next small =>
      have own := low c.toNat small
      rw [Char.ofNat_toNat] at own
      intro d member
      rw [List.mem_singleton.mp member, own frame]
    · exact not_isFrame_changeCase mapped expanded frame

theorem keepsFrame_upperChar : KeepsFrame fun c letters => letters = upperChar c :=
  keepsFrame_changeCase (fun _ => rfl) upperChar_ne_nil (by decide +kernel) (by decide) (by decide +kernel)
    (by decide +kernel)

theorem keepsFrame_lowerChar : KeepsFrame fun c letters => letters = lowerChar c :=
  keepsFrame_changeCase (fun _ => rfl) lowerChar_ne_nil (by decide +kernel) (by decide) (by decide +kernel)
    (by decide +kernel)

theorem keepsFrame_lowers : KeepsFrame Lowers := by
  rintro c letters (own | ⟨sigma, rfl⟩)
  · exact keepsFrame_lowerChar c letters own
  · -- the form of the sigma at the end of a word
    refine .inr ⟨?_, by simp, ?_⟩
    · have code : c = Char.ofNat 0x3a3 := by rw [← sigma, Char.ofNat_toNat]
      rw [code]
      decide
    · intro d member
      rw [List.mem_singleton.mp member]
      decide

theorem keepsFrame_recased : KeepsFrame fun c letters => letters = recased c := by
  rintro c _ rfl
  rcases keepsFrame_lowerChar c _ rfl with ⟨frame, same⟩ | ⟨other, -, inside⟩
  · rcases keepsFrame_upperChar c _ rfl with ⟨-, kept⟩ | ⟨apart_, -⟩
    · exact .inl ⟨frame, by rw [recased, same, upper, List.flatMap_singleton, kept]⟩
    · rw [frame] at apart_
      cases apart_
  · refine .inr ⟨other, recased_ne_nil c, fun d member => ?_⟩
    obtain ⟨e, small, here⟩ := List.mem_flatMap.mp member
    rcases keepsFrame_upperChar e _ rfl with ⟨frame, -⟩ | ⟨-, -, all⟩
    · rw [inside e small] at frame
      cases frame
    · exact all d here

/-! Cleaning a tidy type. -/

theorem signModifier_long {before : Option Char} {text : List Char} {found : Match}
    (matched : signModifier.matchAt before text = some found) : 0 < found.length := by
  obtain ⟨later, reach, length, -⟩ := matchAt_sound matched
  obtain ⟨spaced, first, _, ⟨-, stays⟩, _, word, -, rfl⟩ := reach
  rw [stays] at word
  obtain ⟨blanks, front⟩ := first.spans
  have long : ∃ letters : String, 0 < letters.toList.length ∧ Reaches (.letters letters) spaced later := by
    rcases word with word | word
    · exact ⟨"UNSIGNED", by decide, word⟩
    · exact ⟨"ZEROFILL", by decide, word⟩
  obtain ⟨letters, some_, word⟩ := long
  obtain ⟨taken, spans, same⟩ := word.letters
  rw [same.length_eq] at some_
  have count := (front.trans spans).2
  rw [length, count, List.length_append]
  omega

theorem tighten_sublist (before : Option Char) (text : List Char) :
    List.Sublist (tighten before text) text := by
  induction text generalizing before with
  | nil => exact .slnil
  | cons c rest ih =>
    rw [tighten]
    split
    · exact (ih before).cons c
    · exact (ih (some c)).cons_cons c

/-- Squeezing takes spaces away, if all blanks are spaces. -/
theorem squeeze_sublist {text : List Char} (spaces : ∀ c ∈ text, isBlank c = true → c = ' ') :
    List.Sublist (squeeze text) text := by
  have from_ : ∀ current : List Char,
      List.Sublist ([' '].intercalate (wordsFrom current text)) (current.reverse ++ text) := by
    induction text with
    | nil =>
      intro current
      rw [wordsFrom]
      cases current with
      | nil => exact .slnil
      | cons d current =>
        rw [List.isEmpty_cons, if_neg Bool.false_ne_true, List.intercalate_singleton, List.append_nil]
    | cons c rest ih =>
      intro current
      have later := ih fun d member => spaces d (List.mem_cons_of_mem _ member)
      rw [wordsFrom]
      split
      · next blank =>
        rw [spaces c List.mem_cons_self blank]
        have behind : List.Sublist ([' '].intercalate (wordsFrom [] rest)) rest := later []
        cases current with
        | nil => exact behind.cons ' '
        | cons d current =>
          rw [List.isEmpty_cons, if_neg Bool.false_ne_true]
          cases words : wordsFrom [] rest with
          | nil =>
            rw [List.intercalate_singleton]
            exact List.sublist_append_left _ _
          | cons word words' =>
            rw [List.intercalate_cons_cons, ← words, List.append_assoc]
            exact (List.append_sublist_append_left _).mpr (behind.cons_cons ' ')
      · have more := later (c :: current)
        rwa [List.reverse_cons, List.append_assoc] at more
  exact from_ []

section

variable {type : List Char}

theorem cleanType_of_unsigned (tidy : Tidy type) (unsigned : signModifier.search type = none) :
    cleanType type = type := by
  rw [cleanType, replaceAll_of_search_eq_none unsigned, tidy.squeeze, tidy.tighten]

/-- A sign modifier is taken away from a tidy type, and nothing is added. -/
theorem cleanType_shorter (tidy : Tidy type) (signed : (signModifier.search type).isSome = true) :
    List.Sublist (cleanType type) type ∧ (cleanType type).length < type.length := by
  have part : List.Sublist (signModifier.replaceAll [] type) type := replaceFrom_sublist _ _ _ _
  have squeezed := squeeze_sublist fun c member => Spaced.blank_eq tidy (part.subset member)
  have own : List.Sublist (cleanType type) (signModifier.replaceAll [] type) :=
    (tighten_sublist none _).trans squeezed
  exact ⟨own.trans part, Nat.lt_of_le_of_lt own.length_le
    (replaceAll_length_lt (fun _ _ _ => signModifier_long) signed)⟩

end

end DdlSchema.Schema
