import DdlSchema.Proofs.Text.MarkKeeping
import DdlSchema.Proofs.Text.Quotation
import DdlSchema.Proofs.Text.Recasing

/-! From a word that a pattern accepts in any case back to its capitals. Upper case leads there from all
spellings but those with the dotted capital i, which patterns accept for an i and upper case leaves alone. -/

set_option autoImplicit false

namespace DdlSchema.Text

/-- The capital i with a dot, of Turkish. -/
def dottedI : Char := '\u0130'

/-- Capitals of ASCII, but for the K: the Kelvin sign passes for one and stays as it is. -/
def isSteady (letter : Char) : Bool := letter.isUpper && letter != 'K'

theorem upperChar_of_sameLetter {letter c : Char} (steady : isSteady letter = true)
    (same : sameLetter letter c = true) (undotted : c ≠ dottedI) : upperChar c = [letter] := by
  have capital : letter.isUpper = true := (Bool.and_eq_true_iff.mp steady).1
  have alpha : letter.isAlpha = true := Bool.or_eq_true_iff.mpr (.inl capital)
  have all : ∀ code ∈ letterCodes, ∀ letter < 0x80, isSteady (Char.ofNat letter) = true →
      sameLetter (Char.ofNat letter) (Char.ofNat code) = true → Char.ofNat code ≠ dottedI →
        upperChar (Char.ofNat code) = [Char.ofNat letter] := by
    decide +kernel
  have here := all c.toNat (mem_letterCodes alpha same) letter.toNat (lt_of_isAlpha alpha)
  rw [Char.ofNat_toNat, Char.ofNat_toNat] at here
  exact here steady same undotted

theorem isBlank_of_isSteady {letter : Char} (steady : isSteady letter = true) :
    isBlank letter = false := by
  have ascii : ∀ code < 0x80, isSteady (Char.ofNat code) = true → isBlank (Char.ofNat code) = false := by
    decide
  have capital : letter.isUpper = true := (Bool.and_eq_true_iff.mp steady).1
  have here := ascii letter.toNat (lt_of_isAlpha (Bool.or_eq_true_iff.mpr (.inl capital)))
  rw [Char.ofNat_toNat] at here
  exact here steady

theorem upper_of_sameLetters {word taken : List Char} (steady : word.all isSteady = true)
    (same : List.Forall₂ (fun letter c => sameLetter letter c = true) word taken)
    (undotted : dottedI ∉ taken) : upper taken = word := by
  induction same with
  | nil => rfl
  | @cons letter c word taken first _ ih =>
    obtain ⟨here, later⟩ := List.forall_mem_cons.mp (List.all_eq_true.mp steady)
    obtain ⟨apart, others⟩ := not_or.mp fun member => undotted (List.mem_cons.mpr member)
    have rest := ih (List.all_eq_true.mpr later) others
    rw [upper] at rest
    rw [upper, List.flatMap_cons, upperChar_of_sameLetter here first (Ne.symm apart), rest,
      List.singleton_append]

theorem upper_of_isBlank {gap : List Char} (blank : ∀ c ∈ gap, isBlank c = true) : upper gap = gap := by
  have single : ∀ c, isBlank c = true → upperChar c = [c] := fun c =>
    of_isBlank (fun c => upperChar c = [c]) (by decide +kernel)
  induction gap with
  | nil => rfl
  | cons c gap ih =>
    obtain ⟨here, later⟩ := List.forall_mem_cons.mp blank
    have rest := ih later
    rw [upper] at rest
    rw [upper, List.flatMap_cons, single c here, rest, List.singleton_append]

theorem dottedI_mem_upper {text : List Char} (dotted : dottedI ∈ text) : dottedI ∈ upper text :=
  List.mem_flatMap.mpr ⟨dottedI, dotted, by decide +kernel⟩

/-! Words. -/

theorem wordsFrom_append {word : List Char} (solid : ∀ c ∈ word, isBlank c = false)
    (current rest : List Char) :
    wordsFrom current (word ++ rest) = wordsFrom (word.reverse ++ current) rest := by
  induction word generalizing current with
  | nil => rfl
  | cons c word ih =>
    obtain ⟨here, later⟩ := List.forall_mem_cons.mp solid
    rw [List.cons_append, wordsFrom, here, if_neg Bool.false_ne_true, ih later]
    simp

theorem wordsFrom_blanks {gap : List Char} (blank : ∀ c ∈ gap, isBlank c = true) (rest : List Char) :
    wordsFrom [] (gap ++ rest) = wordsFrom [] rest := by
  induction gap with
  | nil => rfl
  | cons c gap ih =>
    obtain ⟨here, later⟩ := List.forall_mem_cons.mp blank
    rw [List.cons_append, wordsFrom, here, if_pos rfl, List.isEmpty_nil, if_pos rfl, ih later]

theorem mem_squeeze {c : Char} (solid : isBlank c = false) {text : List Char} (member : c ∈ text) :
    c ∈ squeeze text := by
  obtain ⟨front, back, rfl⟩ := List.append_of_mem member
  obtain ⟨lead, all⟩ := squeeze_mark solid front
  rw [all]
  exact List.mem_append_right _ List.mem_cons_self

theorem splitAtChar_ne_nil (separator : Char) (text : List Char) : splitAtChar separator text ≠ [] := by
  cases text with
  | nil => exact List.cons_ne_nil _ _
  | cons c rest =>
    rw [splitAtChar]
    split
    · exact List.cons_ne_nil _ _
    · split <;> exact List.cons_ne_nil _ _

/-- The words one after another, in any case and with blanks between them. -/
inductive Spelled : List (List Char) → List Char → Prop
  | last {word taken : List Char} :
    List.Forall₂ (fun letter c => sameLetter letter c = true) word taken → Spelled [word] taken
  | more {word taken gap rest : List Char} {words : List (List Char)} :
    List.Forall₂ (fun letter c => sameLetter letter c = true) word taken → gap ≠ [] →
      (∀ c ∈ gap, isBlank c = true) → Spelled words rest → Spelled (word :: words) (taken ++ (gap ++ rest))

theorem Spelled.words_upper {spelling : List (List Char)} {text : List Char} (spelled : Spelled spelling text)
    (steady : ∀ word ∈ spelling, word ≠ [] ∧ word.all isSteady = true)
    (undotted : dottedI ∉ text) : words (upper text) = spelling := by
  have solid : ∀ {word : List Char}, word.all isSteady = true → ∀ letter ∈ word, isBlank letter = false :=
    fun steady letter member => isBlank_of_isSteady (List.all_eq_true.mp steady letter member)
  induction spelled with
  | @last word taken same =>
    obtain ⟨some_, capitals⟩ := List.forall_mem_singleton.mp steady
    rw [upper_of_sameLetters capitals same undotted, words, ← List.append_nil word,
      wordsFrom_append (solid capitals)]
    simp [wordsFrom, some_]
  | @more word taken gap rest others same spaced blank _ ih =>
    obtain ⟨⟨some_, capitals⟩, later⟩ := List.forall_mem_cons.mp steady
    simp only [List.mem_append, not_or] at undotted
    obtain ⟨c, gap, rfl⟩ := List.exists_cons_of_ne_nil spaced
    obtain ⟨first, blanks⟩ := List.forall_mem_cons.mp blank
    rw [upper_append, upper_append, upper_of_sameLetters capitals same undotted.1, upper_of_isBlank blank,
      words, wordsFrom_append (solid capitals), List.cons_append, wordsFrom, first, if_pos rfl,
      wordsFrom_blanks blanks]
    have rest : wordsFrom [] (upper rest) = others := ih later undotted.2.2
    simp [some_, rest]

namespace Pattern

theorem mem_of_reaches_oneOf {patterns : List Pattern} {place later : Cursor}
    (reach : Reaches (oneOf patterns) place later) : ∃ pattern ∈ patterns, Reaches pattern place later := by
  induction patterns with
  | nil =>
    obtain ⟨c, rest, -, refused, -⟩ := reach
    cases refused
  | cons first rest ih =>
    cases rest with
    | nil => exact ⟨first, List.mem_cons_self, reach⟩
    | cons second rest =>
      rcases reach with here | later
      · exact ⟨first, List.mem_cons_self, here⟩
      · obtain ⟨pattern, member, reach⟩ := ih later
        exact ⟨pattern, List.mem_cons_of_mem _ member, reach⟩

theorem spelled_of_reaches {spelling : List (List Char)} {place later : Cursor} {taken : List Char}
    (some_ : spelling ≠ [])
    (reach : Reaches (ofList ((spelling.map fun word => letters (String.ofList word)).intersperse gap))
      place later)
    (spans : Spans place later taken) : Spelled spelling taken := by
  induction spelling generalizing place taken with
  | nil => exact absurd rfl some_
  | cons word others ih =>
    cases others with
    | nil =>
      obtain ⟨own, also, same⟩ := Reaches.letters reach
      rw [String.toList_ofList] at same
      exact spans.unique also ▸ .last same
    | cons second others =>
      obtain ⟨middle, first, reach⟩ := reaches_ofList_cons.mp reach
      obtain ⟨spaced, between, reach⟩ := reaches_ofList_cons.mp reach
      obtain ⟨own, spansOwn, same⟩ := first.letters
      rw [String.toList_ofList] at same
      obtain ⟨blanks, start, blank, least, rfl⟩ := between
      obtain ⟨rest, spansRest⟩ := reach.spans
      rw [spans.unique (spansOwn.trans ((spans_past start).trans spansRest))]
      exact .more same (List.ne_nil_of_length_pos least) blank
        (ih (List.cons_ne_nil second others) reach spansRest)

/-! Matches. -/

/-- Each of all matches is one at some place of the text. -/
theorem matchAt_of_mem_allMatches {pattern : Pattern} {text : List Char} {found : Match}
    (member : found ∈ pattern.allMatches text) :
    ∃ before rest, rest <:+ text ∧ pattern.matchAt before rest = some found := by
  have from_ : ∀ skip before, found ∈ pattern.matchesFrom skip before text →
      ∃ before rest, rest <:+ text ∧ pattern.matchAt before rest = some found := by
    clear member
    induction text with
    | nil => intro skip before member; cases skip <;> cases member
    | cons c text ih =>
      have onward : ∀ skip before, found ∈ pattern.matchesFrom skip before text →
          ∃ before rest, rest <:+ c :: text ∧ pattern.matchAt before rest = some found := by
        intro skip before member
        obtain ⟨before, rest, inside, matched⟩ := ih skip before member
        exact ⟨before, rest, inside.trans (List.suffix_cons c text), matched⟩
      intro skip before member
      cases skip with
      | succ skip => exact onward skip (some c) member
      | zero =>
        rw [matchesFrom] at member
        split at member
        · next length captured matched =>
          rcases List.mem_cons.mp member with rfl | later
          · exact ⟨before, c :: text, List.suffix_rfl, matched⟩
          · exact onward length (some c) later
        · exact onward 0 (some c) member
  exact from_ 0 none member

theorem Reaches.captured_subset {pattern : Pattern} {place later : Cursor}
    (reach : Reaches pattern place later) {label : String} {part : List Char}
    (member : (label, part) ∈ later.captured) : (label, part) ∈ place.captured ∨ part ⊆ place.rest := by
  have along : Along (fun place later => later.rest ⊆ place.rest ∧ ((label, part) ∈ later.captured →
      (label, part) ∈ place.captured ∨ part ⊆ place.rest)) pattern := by
    refine ⟨fun place => ⟨List.Subset.refl _, .inl⟩, ?_, fun c _ _ rest _ _ =>
      ⟨List.subset_cons_self c rest, .inl⟩, ?_⟩
    · rintro place middle later ⟨onward, first⟩ ⟨further, second⟩
      refine ⟨List.Subset.trans further onward, fun member => ?_⟩
      exact (second member).elim first fun inside => .inr (List.Subset.trans inside onward)
    · rintro name body - place inner - ⟨onward, earlier⟩
      refine ⟨onward, fun member => ?_⟩
      rcases List.mem_cons.mp member with own | member
      · cases own
        exact .inr (List.take_subset _ _)
      · exact earlier member
  exact (reach.along along).2 member

theorem get?_subset {pattern : Pattern} {before : Option Char} {text : List Char} {found : Match}
    (matched : pattern.matchAt before text = some found) (label : String) :
    (found.get? label).getD [] ⊆ text := by
  obtain ⟨later, reach, -, captured⟩ := matchAt_sound matched
  cases kept : found.get? label with
  | none => exact List.nil_subset text
  | some part =>
    obtain ⟨newer, older, split, -⟩ := List.lookup_eq_some_iff.mp kept
    have member : (label, part) ∈ later.captured := by simp [← captured, split]
    rcases reach.captured_subset member with nothing | inside
    · cases nothing
    · exact inside

end Pattern

end DdlSchema.Text
