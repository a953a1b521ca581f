import Mathlib.Logic.Relation
import DdlSchema.Proofs.Schema.SignRemoval
import DdlSchema.Proofs.Schema.TypeFixpoint
import DdlSchema.Proofs.Text.Enumeration
import DdlSchema.Proofs.Text.LetterCase

/-! Spellings of a type. What is read of a type is its letters, whatever their case, and the gaps between them
that are beside no parenthesis and no comma. Two spellings with one outline have one normal form. -/

set_option autoImplicit false

namespace DdlSchema.Schema

open DdlSchema.Text
open DdlSchema.Statement (not_isBlank_of_isWordChar)

/-- The first spelling is the second one but for what carries no meaning. -/
inductive Varies : List Char → List Char → Prop where
  /-- Letters are written in another case. -/
  | letters {first second : List Char} : first.map Char.toLower = second.map Char.toLower → Varies first second
  /-- There are other blanks in a place where there are some. -/
  | blanks (front : List Char) {gap gap' : List Char} (back : List Char) : gap ≠ [] → gap' ≠ [] →
      (∀ c ∈ gap ++ gap', isBlank c = true) → Varies (front ++ (gap ++ back)) (front ++ (gap' ++ back))
  /-- There are blanks at an end of the text or beside a parenthesis or a comma. -/
  | loose (front : List Char) {gap : List Char} (back : List Char) : (∀ c ∈ gap, isBlank c = true) →
      front.getLast?.all isListMark = true ∨ back.head?.all isListMark = true →
        Varies (front ++ (gap ++ back)) (front ++ back)

/-- The characters of a text that are no blanks, in lower case, each with whether there are blanks in front of
it that count: they do between two characters of which neither is a parenthesis or a comma. -/
def outlineFrom (before : Option Char) (pending : Bool) : List Char → List (Bool × Char)
  | [] => []
  | c :: rest =>
    if isBlank c then outlineFrom before true rest
    else (pending && !(before.all isListMark || isListMark c), c.toLower) :: outlineFrom (some c) false rest

def outline (type : List Char) : List (Bool × Char) := outlineFrom none false type

/-! Outlines. -/

theorem isListMark_toLower : ∀ c : Char, isListMark c.toLower = isListMark c := apply_toLower _ (by decide)

theorem unmarked_of_lower {c d : Char} (lower : c.toLower = d.toLower) (plain : isListMark c = false) :
    isListMark d = false := (apply_eq isListMark_toLower lower).symm.trans plain

section

variable {before : Option Char} {pending : Bool} {gap rest text : List Char} {c : Char}

theorem outlineFrom_gap (blank : ∀ d ∈ gap, isBlank d = true) (before : Option Char) (pending : Bool)
    (rest : List Char) :
    outlineFrom before pending (gap ++ rest) = outlineFrom before (pending || !gap.isEmpty) rest := by
  induction gap generalizing pending with
  | nil => simp
  | cons d gap ih =>
    rw [List.cons_append, outlineFrom, if_pos (blank d List.mem_cons_self),
      ih fun e member => blank e (List.mem_cons_of_mem _ member)]
    simp

theorem outlineFrom_solid (solid : isBlank c = false) (before : Option Char) (pending : Bool)
    (rest : List Char) :
    outlineFrom before pending (c :: rest) =
      (pending && !(before.all isListMark || isListMark c), c.toLower) :: outlineFrom (some c) false rest := by
  rw [outlineFrom, if_neg (by simp [solid])]

theorem blank_of_outlineFrom (none : outlineFrom before pending text = []) :
    ∀ c ∈ text, isBlank c = true := by
  induction text generalizing pending with
  | nil => exact List.forall_mem_nil _
  | cons c text ih =>
    by_cases blank : isBlank c = true
    · rw [outlineFrom, if_pos blank] at none
      exact List.forall_mem_cons.mpr ⟨blank, ih none⟩
    · rw [outlineFrom, if_neg blank] at none
      cases none

theorem outlineFrom_blank (blank : ∀ c ∈ text, isBlank c = true) (before : Option Char) (pending : Bool) :
    outlineFrom before pending text = [] := by
  have same := outlineFrom_gap blank before pending []
  rwa [List.append_nil] at same

theorem split_of_outlineFrom {entry : Bool × Char} {others : List (Bool × Char)}
    (some_ : outlineFrom before pending text = entry :: others) :
    ∃ gap c rest, text = gap ++ c :: rest ∧ (∀ d ∈ gap, isBlank d = true) ∧ isBlank c = false ∧
      entry = ((pending || !gap.isEmpty) && !(before.all isListMark || isListMark c), c.toLower) ∧
      others = outlineFrom (some c) false rest := by
  induction text generalizing pending with
  | nil => cases some_
  | cons c text ih =>
    by_cases blank : isBlank c = true
    · rw [outlineFrom, if_pos blank] at some_
      obtain ⟨gap, d, rest, rfl, all, solid, first, later⟩ := ih some_
      refine ⟨c :: gap, d, rest, rfl, List.forall_mem_cons.mpr ⟨blank, all⟩, solid, ?_, later⟩
      simpa using first
    · rw [outlineFrom, if_neg blank] at some_
      cases some_
      exact ⟨[], c, text, rfl, List.forall_mem_nil _, Bool.eq_false_iff.mpr blank, by simp, rfl⟩

/-- What stands in front of a text matters to its first gap, which a mark there makes void. -/
theorem outlineFrom_behind (other : isListMark c = false) (before : Option Char) (pending : Bool)
    (text : List Char) :
    outlineFrom before pending text = (outlineFrom (some c) pending text).modifyHead
      fun entry => (entry.1 && !before.all isListMark, entry.2) := by
  induction text generalizing pending with
  | nil => rfl
  | cons d text ih =>
    by_cases blank : isBlank d = true
    · rw [outlineFrom, if_pos blank, outlineFrom, if_pos blank, ih]
    · rw [outlineFrom, if_neg blank, outlineFrom, if_neg blank, List.modifyHead_cons, Option.all_some,
        other, Bool.false_or, Bool.not_or, Bool.and_right_comm, ← Bool.and_assoc]

end

/-! What the outline does not tell. -/

theorem outlineFrom_marked {before : Option Char} (marked : before.all isListMark = true) (pending : Bool)
    (text : List Char) : outlineFrom before pending text = outlineFrom before false text := by
  cases text with
  | nil => rfl
  | cons c text =>
    by_cases blank : isBlank c = true
    · rw [outlineFrom, if_pos blank, outlineFrom, if_pos blank]
    · rw [outlineFrom_solid (Bool.eq_false_iff.mpr blank), outlineFrom_solid (Bool.eq_false_iff.mpr blank),
        marked, Bool.true_or, Bool.not_true, Bool.and_false, Bool.and_false]

theorem not_isBlank_of_isListMark {c : Char} (mark : isListMark c = true) : isBlank c = false := by
  simp only [isListMark, Bool.or_eq_true, beq_iff_eq] at mark
  rcases mark with (rfl | rfl) | rfl <;> decide

theorem outlineFrom_toLower (text : List Char) (pending : Bool) {before before' : Option Char}
    (same : SameCase before before') :
    outlineFrom before pending (text.map Char.toLower) = outlineFrom before' pending text := by
  have twice : ∀ c : Char, c.toLower.toLower = c.toLower := apply_toLower _ (by decide)
  induction text generalizing before before' pending with
  | nil => rfl
  | cons c text ih =>
    rw [List.map_cons, outlineFrom, outlineFrom, isBlank_toLower, isListMark_toLower, twice,
      same.all_eq isListMark_toLower, ih _ same, ih _ (sameCase_some (twice c))]

theorem outlineFrom_congr {first second : List Char}
    (same : ∀ before pending, outlineFrom before pending first = outlineFrom before pending second)
    (front : List Char) (before : Option Char) (pending : Bool) :
    outlineFrom before pending (front ++ first) = outlineFrom before pending (front ++ second) := by
  induction front generalizing before pending with
  | nil => exact same before pending
  | cons c front ih => rw [List.cons_append, List.cons_append, outlineFrom, outlineFrom, ih, ih]

theorem outline_varies {first second : List Char} (varies : Varies first second) :
    outline first = outline second := by
  cases varies with
  | letters same =>
    rw [outline, ← outlineFrom_toLower first false rfl, same, outlineFrom_toLower second false rfl, outline]
  | @blanks front gap gap' back some_ some' blank =>
    rw [List.forall_mem_append] at blank
    refine outlineFrom_congr (fun before pending => ?_) front none false
    rw [outlineFrom_gap blank.1, outlineFrom_gap blank.2, List.isEmpty_eq_false_iff.mpr some_,
      List.isEmpty_eq_false_iff.mpr some']
  | @loose front gap back blank beside =>
    -- a gap counts only between two characters of which neither is a list mark
    rcases beside with marked | marked
    · have behind : ∀ before : Option Char, before.all isListMark = true →
          outlineFrom before false (gap ++ back) = outlineFrom before false back := by
        intro before marked
        rw [outlineFrom_gap blank, outlineFrom_marked marked]
      rcases List.eq_nil_or_concat front with rfl | ⟨front, c, rfl⟩
      · exact behind none rfl
      · have mark : isListMark c = true := by simpa using marked
        have solid := not_isBlank_of_isListMark mark
        rw [List.concat_eq_append, List.append_assoc, List.append_assoc]
        refine outlineFrom_congr (fun before pending => ?_) front none false
        rw [List.singleton_append, List.singleton_append, outlineFrom_solid solid, outlineFrom_solid solid,
          behind (some c) mark]
    · refine outlineFrom_congr (fun before pending => ?_) front none false
      cases back with
      | nil => rw [List.append_nil, outlineFrom_blank blank]; rfl
      | cons c back =>
        have mark : isListMark c = true := marked
        have solid := not_isBlank_of_isListMark mark
        rw [outlineFrom_gap blank, outlineFrom_solid solid, outlineFrom_solid solid, mark, Bool.or_true,
          Bool.not_true, Bool.and_false, Bool.and_false]

theorem outline_eqvGen {first second : List Char} (types : Relation.EqvGen Varies first second) :
    outline first = outline second := by
  induction types with
  | rel _ _ varies => exact outline_varies varies
  | refl _ => rfl
  | symm _ _ _ ih => exact ih.symm
  | trans _ _ _ _ _ first second => exact first.trans second

/-! Cleaning writes the outline. -/

/-- The characters of an outline with single spaces in its gaps. -/
def spell (entries : List (Bool × Char)) : List Char :=
  entries.flatMap fun entry => if entry.1 then [' ', entry.2] else [entry.2]

theorem ne_space {c : Char} (solid : isBlank c = false) : (c == ' ') = false := by
  rw [beq_eq_false_iff_ne]
  rintro rfl
  cases solid

theorem tighten_gapped (c : Char) (pending : Bool) (text : List Char) :
    (tighten (some c) (gapped pending text)).map Char.toLower = spell (outlineFrom (some c) pending text) := by
  have space : ' '.toLower = ' ' := by decide
  induction text generalizing c pending with
  | nil => rfl
  | cons d text ih =>
    by_cases blank : isBlank d = true
    · rw [gapped, if_pos blank, outlineFrom, if_pos blank, ih]
    · have solid := Bool.eq_false_iff.mpr blank
      have here : ∀ side, (tighten side (d :: gapped false text)).map Char.toLower =
          d.toLower :: spell (outlineFrom (some d) false text) := by
        intro side
        rw [tighten, ne_space solid, Bool.false_and, if_neg Bool.false_ne_true, List.map_cons, ih]
      rw [gapped, if_neg blank, outlineFrom, if_neg blank]
      cases pending with
      | false =>
        rw [if_neg Bool.false_ne_true, here]
        rfl
      | true =>
        rw [if_pos rfl, tighten, List.head?_cons, Option.any_some, Option.any_some, Option.all_some,
          beq_self_eq_true, Bool.true_and]
        by_cases loose : (isListMark c || isListMark d) = true
        · rw [if_pos loose, here, loose]
          rfl
        · rw [if_neg loose, List.map_cons, here, space, Bool.eq_false_iff.mpr loose]
          rfl

theorem tighten_squeeze (text : List Char) :
    (tighten none (squeeze text)).map Char.toLower = spell (outline text) := by
  have from_ : ∀ pending, (tighten none (squeeze text)).map Char.toLower =
      spell (outlineFrom none pending text) := by
    induction text with
    | nil => exact fun _ => rfl
    | cons c text ih =>
      intro pending
      by_cases blank : isBlank c = true
      · rw [squeeze_blank blank, outlineFrom, if_pos blank, ih]
      · have solid := Bool.eq_false_iff.mpr blank
        rw [squeeze_solid solid, tighten, ne_space solid, Bool.false_and, if_neg Bool.false_ne_true,
          List.map_cons, tighten_gapped, outlineFrom_solid solid, Option.all_none, Bool.true_or, Bool.not_true,
          Bool.and_false]
        rfl
  exact from_ false

/-! Taking modifiers away from two spellings. -/

theorem not_isListMark_of_isWordChar {c : Char} (word : isWordChar c = true) : isListMark c = false := by
  rw [Bool.eq_false_iff]
  intro mark
  simp only [isListMark, Bool.or_eq_true, beq_iff_eq] at mark
  rcases mark with (rfl | rfl) | rfl <;> exact absurd word (by decide)

section

variable {c d : Char} {word rest text : List Char}

/-- Where a word goes on in one spelling, it goes on at once in the other. -/
theorem outline_glued {w : Char} (plain : isListMark d = false) (letter : isWordChar w = true)
    (same : outlineFrom (some c) false (w :: rest) = outlineFrom (some d) false text) :
    ∃ x others, text = x :: others ∧ w.toLower = x.toLower ∧
      outlineFrom (some w) false rest = outlineFrom (some x) false others := by
  rw [outlineFrom_solid (not_isBlank_of_isWordChar letter)] at same
  obtain ⟨gap, x, others, rfl, -, -, entry, later⟩ := split_of_outlineFrom same.symm
  rw [Prod.mk.injEq, Option.all_some, Option.all_some, plain] at entry
  obtain ⟨flag, lower⟩ := entry
  have other := unmarked_of_lower lower (not_isListMark_of_isWordChar letter)
  cases gap with
  | nil => exact ⟨x, others, rfl, lower, later⟩
  | cons e gap => simp [other] at flag

theorem outline_word (plain : isListMark d = false) (letters : ∀ w ∈ word, isWordChar w = true)
    (lower : c.toLower = d.toLower)
    (same : outlineFrom (some c) false (word ++ rest) = outlineFrom (some d) false text) :
    ∃ word' others, text = word' ++ others ∧ List.Forall₂ (fun w x => w.toLower = x.toLower) word word' ∧
      ∃ last last', (c :: word).getLast? = some last ∧ (d :: word').getLast? = some last' ∧
        last.toLower = last'.toLower ∧ outlineFrom (some last) false rest = outlineFrom (some last') false others := by
  induction word generalizing c d text with
  | nil => exact ⟨[], text, rfl, .nil, c, d, rfl, rfl, lower, same⟩
  | cons w word ih =>
    have letter := letters w List.mem_cons_self
    obtain ⟨x, text, rfl, first, later⟩ := outline_glued plain letter same
    have plain' := unmarked_of_lower first (not_isListMark_of_isWordChar letter)
    obtain ⟨word', others, rfl, all, last, last', ends, ends', rest_⟩ :=
      ih plain' (fun v member => letters v (List.mem_cons_of_mem _ member)) first later
    exact ⟨x :: word', others, rfl, .cons first all, last, last', by rwa [List.getLast?_cons_cons],
      by rwa [List.getLast?_cons_cons], rest_⟩

theorem IsSign.respelled {word' : List Char} (sign : IsSign word)
    (same : List.Forall₂ (fun w x => w.toLower = x.toLower) word word') : IsSign word' := by
  have spelled : ∀ {letters : List Char},
      List.Forall₂ (fun letter c => sameLetter letter c = true) letters word →
        List.Forall₂ (fun letter c => sameLetter letter c = true) letters word' := by
    intro letters own
    clear sign
    induction own generalizing word' with
    | nil =>
      cases same
      exact .nil
    | cons first _ ih =>
      cases same with
      | cons lower same =>
        exact .cons ((apply_eq (sameLetter_toLower _) lower).symm.trans first) (ih same)
  exact sign.imp spelled spelled

end

/-- A modifier of one spelling is a modifier of the other, and the texts behind both have one outline. -/
theorem SignAt.respelled {before before' : Option Char} {gap word rest text : List Char}
    (at_ : SignAt before gap word rest) (case_ : SameCase before before')
    (same : outlineFrom before false (gap ++ (word ++ rest)) = outlineFrom before' false text) :
    ∃ gap' word' rest', text = gap' ++ (word' ++ rest') ∧ SignAt before' gap' word' rest' ∧
      ∃ last last', word.getLast? = some last ∧ word'.getLast? = some last' ∧
        isListMark last = false ∧ last.toLower = last'.toLower ∧
        outlineFrom (some last) false rest = outlineFrom (some last') false rest' := by
  obtain ⟨c, word, rfl⟩ := List.exists_cons_of_ne_nil at_.sign.ne_nil
  have letters := at_.sign.letters
  have letter := letters c List.mem_cons_self
  have plain := not_isListMark_of_isWordChar letter
  rw [outlineFrom_gap at_.blank, List.cons_append,
    outlineFrom_solid (not_isBlank_of_isWordChar letter)] at same
  obtain ⟨gap', d, others, rfl, blank, -, entry, later⟩ := split_of_outlineFrom same.symm
  rw [Prod.mk.injEq, plain, Bool.or_false] at entry
  obtain ⟨flag, lower⟩ := entry
  have plain' := unmarked_of_lower lower plain
  obtain ⟨word', rest', rfl, all, last, last', ends, ends', case', rest_⟩ :=
    outline_word plain' (fun w member => letters w (List.mem_cons_of_mem _ member)) lower later
  have other := not_isListMark_of_isWordChar (letters last (List.mem_of_getLast? ends))
  refine ⟨gap', d :: word', rest', rfl, ⟨blank, at_.sign.respelled (.cons lower all), ?_, ?_⟩, last, last',
    ends, ends', other, case', rest_⟩
  · -- without a gap in the other spelling there is none in this one, or a mark or nothing in front of it
    rintro rfl
    rw [← case_.any_eq isWordChar_toLower]
    cases gap with
    | nil => exact at_.apart rfl
    | cons e gap =>
      have marked : before.all isListMark = true := by simpa using flag
      cases before with
      | none => rfl
      | some b =>
        rw [Option.any_some, Bool.eq_false_iff]
        intro letter
        rw [Option.all_some, not_isListMark_of_isWordChar letter] at marked
        cases marked
  · cases rest' with
    | nil => rfl
    | cons x others =>
      rw [List.head?_cons, Option.any_some, Bool.eq_false_iff]
      intro letter
      obtain ⟨y, others', rfl, lower', -⟩ := outline_glued other letter rest_.symm
      have ends := at_.ends
      rw [List.head?_cons, Option.any_some, ← apply_eq isWordChar_toLower lower', letter] at ends
      cases ends

def BeginsSigned (before : Option Char) (text : List Char) : Prop :=
  ∃ gap word rest, text = gap ++ (word ++ rest) ∧ SignAt before gap word rest

theorem unsigned_kept {before : Option Char} {gap rest : List Char} {c : Char}
    (blank : ∀ d ∈ gap, isBlank d = true) (solid : isBlank c = false)
    (none : ¬ BeginsSigned before (gap ++ c :: rest)) :
    outlineFrom before false (unsigned before (gap ++ c :: rest)) =
      ((false || !gap.isEmpty) && !(before.all isListMark || isListMark c), c.toLower) ::
        outlineFrom (some c) false (unsigned (some c) rest) := by
  have apart : ∀ word others, c :: rest = word ++ others → ¬ SignAt before gap word others :=
    fun word others split at_ => none ⟨gap, word, others, by rw [split], at_⟩
  rw [unsigned_solid blank solid apart, outlineFrom_gap blank, outlineFrom_solid solid]

theorem outline_unsigned {before before' : Option Char} (case_ : SameCase before before')
    {first second : List Char}
    (same : outlineFrom before false first = outlineFrom before' false second) :
    outlineFrom before false (unsigned before first) = outlineFrom before' false (unsigned before' second) := by
  -- on the length, since a modifier is removed with all of its letters at once
  induction length : first.length using Nat.strongRecOn generalizing before before' first second with
  | ind n ih =>
    subst length
    by_cases signed : BeginsSigned before first
    · obtain ⟨gap, word, rest, rfl, at_⟩ := signed
      obtain ⟨gap', word', rest', rfl, at', last, last', ends, ends', plain, lower, later⟩ :=
        at_.respelled case_ same
      have plain' := unmarked_of_lower lower plain
      have shorter : rest.length < (gap ++ (word ++ rest)).length := by
        have width := at_.sign.length
        simp only [List.length_append]
        omega
      have behind := ih _ shorter (sameCase_some lower) later rfl
      rw [unsigned_signed at_, unsigned_signed at', ends, ends', outlineFrom_behind plain before,
        outlineFrom_behind plain' before', behind, case_.all_eq isListMark_toLower]
    · have signed' : ¬ BeginsSigned before' second := by
        rintro ⟨gap, word, rest, rfl, at_⟩
        obtain ⟨gap', word', rest', split, at', -⟩ := at_.respelled case_.symm same.symm
        exact signed ⟨gap', word', rest', split, at'⟩
      cases own : outlineFrom before false first with
      | nil =>
        rw [unsigned_blank (blank_of_outlineFrom own), unsigned_blank (blank_of_outlineFrom (same.symm.trans own)),
          same]
      | cons entry others =>
        obtain ⟨gap, c, rest, rfl, blank, solid, here, later⟩ := split_of_outlineFrom own
        obtain ⟨gap', d, rest', rfl, blank', solid', here', later'⟩ := split_of_outlineFrom (same.symm.trans own)
        have lower := congrArg Prod.snd (here.symm.trans here')
        have shorter : rest.length < (gap ++ c :: rest).length := by
          simp only [List.length_append, List.length_cons]
          omega
        rw [unsigned_kept blank solid signed, unsigned_kept blank' solid' signed', ← here, ← here',
          ih _ shorter (sameCase_some lower) (later.symm.trans later') rfl]

/-! Blanks at the ends. -/

theorem outlineFrom_end {c : Char} (blank : isBlank c = true) (before : Option Char) (pending : Bool)
    (text : List Char) : outlineFrom before pending (text ++ [c]) = outlineFrom before pending text := by
  induction text generalizing before pending with
  | nil => simp [outlineFrom, blank]
  | cons d text ih => rw [List.cons_append, outlineFrom, outlineFrom, ih, ih]

theorem outline_trim (type : List Char) : outline (trim type) = outline type := by
  have left : ∀ c, isBlank c = true → ∀ text, outline (c :: text) = outline text := by
    intro c blank text
    rw [outline, outlineFrom, if_pos blank, outlineFrom_marked rfl, outline]
  exact reading_trim left (fun c blank text => outlineFrom_end blank none false text) type

/-- What is left of a type when it is cleaned depends on its outline, case apart. -/
theorem lower_cleanType {first second : List Char} (same : outline first = outline second) :
    (cleanType first).map Char.toLower = (cleanType second).map Char.toLower := by
  rw [cleanType, tighten_squeeze, cleanType, tighten_squeeze]
  exact congrArg spell (outline_unsigned rfl same)

/-! The rules. -/

theorem ruled_congr {columnName columnName' : String} {base base' params params' : List Char}
    (names : columnName.toList.map Char.toLower = columnName'.toList.map Char.toLower)
    (bases : base.map Char.toLower = base'.map Char.toLower)
    (lists : params.map Char.toLower = params'.map Char.toLower) :
    ruled columnName base params = ruled columnName' base' params' := by
  rw [ruled, ruled, ← upper_toLower columnName.toList, names, upper_toLower, ← upper_toLower base, bases,
    upper_toLower, ← upper_toLower params, lists, upper_toLower]

theorem cut_toLower {base params clean : List Char} (bare : '(' ∉ base) (split : IsParams params)
    (same : (base ++ params).map Char.toLower = clean.map Char.toLower) :
    ∃ base' params', clean = base' ++ params' ∧ '(' ∉ base' ∧ IsParams params' ∧
      base.map Char.toLower = base'.map Char.toLower ∧ params.map Char.toLower = params'.map Char.toLower := by
  have apply_paren : ∀ {c d : Char}, c.toLower = d.toLower → (c == '(') = (d == '(') :=
    @apply_eq _ (· == '(') (apply_toLower (· == '(') (by decide))
  rw [List.map_append] at same
  obtain ⟨base', params', rfl, bases, lists⟩ := List.map_eq_append_iff.mp same.symm
  refine ⟨base', params', rfl, fun member => bare ?_, ?_, bases.symm, lists.symm⟩
  · have lower : '('.toLower ∈ base.map Char.toLower := bases ▸ List.mem_map_of_mem member
    obtain ⟨c, inside, same⟩ := List.mem_map.mp lower
    have own : c = '(' := beq_iff_eq.mp ((apply_paren same).trans (by decide))
    exact own ▸ inside
  · cases params' with
    | nil => trivial
    | cons c params' =>
      cases params with
      | nil => cases lists
      | cons d params =>
        have own := apply_paren (List.cons.inj lists).1
        rw [show d = '(' from split] at own
        exact beq_iff_eq.mp own

/-- The normal form of a type that lists no values depends neither on the case of letters, in the name of its
column either, nor on the blanks that are written where some must be or where none need be. -/
theorem normalizeType_spelling {columnName columnName' type type' : String}
    (names : columnName.toList.map Char.toLower = columnName'.toList.map Char.toLower)
    (types : Relation.EqvGen Varies type.toList type'.toList)
    (values : namesValueList (trim type.toList) = false) (values' : namesValueList (trim type'.toList) = false) :
    normalizeType columnName type = normalizeType columnName' type' := by
  have trimmed : outline (trim type.toList) = outline (trim type'.toList) := by
    rw [outline_trim, outline_eqvGen types, outline_trim]
  have same := lower_cleanType trimmed
  obtain ⟨base, params, clean, bare, split⟩ := exists_base (cleanType (trim type.toList))
  rw [clean] at same
  obtain ⟨base', params', clean', bare', split', bases, lists⟩ := cut_toLower bare split same
  have spelled : lower (base ++ params) = lower (base' ++ params') := by
    rw [← lower_toLower, same, clean', lower_toLower]
  rw [normalizeType_of_clean values clean bare split, normalizeType_of_clean values' clean' bare' split',
    ruled_congr names bases lists, spelled]

theorem normalizeType_spelling_unsigned :
    Relation.EqvGen Varies " bit\tunsigned (4)".toList "BIT UNSIGNED(4)".toList ∧
    normalizeType "Flags" " bit\tunsigned (4)" = normalizeType "FLAGS" "BIT UNSIGNED(4)" := by
  have start : Varies " bit\tunsigned (4)".toList "bit\tunsigned (4)".toList :=
    @Varies.loose [] " ".toList "bit\tunsigned (4)".toList (List.all_iff_forall_prop.mp (by decide)) (by decide)
  have tab : Varies "bit\tunsigned (4)".toList "bit unsigned (4)".toList :=
    @Varies.blanks "bit".toList "\t".toList " ".toList "unsigned (4)".toList (by decide) (by decide)
      (List.all_iff_forall_prop.mp (by decide))
  have paren : Varies "bit unsigned (4)".toList "bit unsigned(4)".toList :=
    @Varies.loose "bit unsigned".toList " ".toList "(4)".toList (List.all_iff_forall_prop.mp (by decide))
      (by decide)
  have capitals : Varies "bit unsigned(4)".toList "BIT UNSIGNED(4)".toList := .letters (by decide)
  have types := (((Relation.EqvGen.rel _ _ start).trans _ _ _ (.rel _ _ tab)).trans _ _ _
    (.rel _ _ paren)).trans _ _ _ (.rel _ _ capitals)
  exact ⟨types, normalizeType_spelling (by decide) types (by decide) (by decide)⟩

end DdlSchema.Schema
