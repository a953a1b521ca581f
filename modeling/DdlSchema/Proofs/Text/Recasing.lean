import Mathlib.Data.List.Basic
import DdlSchema.Proofs.Text.Raising

/-! Upper case behind lower case. Three letters come out of it with ASCII letters that they are not written
with in upper case alone: the dotted capital i, the capital sharp s and the Kelvin sign. A word that is
written without those is read in both upper cases of a text or in none. -/

set_option autoImplicit false

namespace DdlSchema.Text

/-! Texts that are written anew letter by letter. -/

/-- Each letter of the first text is spelled as a piece of the second one. -/
inductive Respelled (spells : Char → List Char → Prop) : List Char → List Char → Prop where
  | nil : Respelled spells [] []
  | cons {c : Char} {letters text out : List Char} : spells c letters → Respelled spells text out →
      Respelled spells (c :: text) (letters ++ out)

/-- The character is spelled as itself, and stands in the spelling of no other one. -/
def Keeps (spells : Char → List Char → Prop) (stop : Char) : Prop :=
  ∀ c letters, spells c letters → (c = stop ∧ letters = [stop]) ∨ (c ≠ stop ∧ stop ∉ letters)

section

variable {spells : Char → List Char → Prop} {text out : List Char}

theorem Respelled.cut {stop : Char} (keeps : Keeps spells stop) (respelled : Respelled spells text out) :
    Respelled spells (text.takeWhile (· != stop)) (out.takeWhile (· != stop)) ∧
      Respelled spells (text.dropWhile (· != stop)) (out.dropWhile (· != stop)) := by
  induction respelled with
  | nil => exact ⟨.nil, .nil⟩
  | @cons c letters text out here later ih =>
    rcases keeps c letters here with ⟨rfl, rfl⟩ | ⟨other, apart⟩
    · simpa using ⟨.nil, .cons here later⟩
    · have inside : ∀ d ∈ letters, (d != stop) = true := fun d member =>
        bne_iff_ne.mpr fun same => apart (same ▸ member)
      have differs : (c != stop) = true := bne_iff_ne.mpr other
      rw [@List.takeWhile_cons_of_pos _ (· != stop) c text differs, List.takeWhile_append_of_pos inside,
        @List.dropWhile_cons_of_pos _ (· != stop) c text differs, List.dropWhile_append_of_pos inside]
      exact ⟨.cons here ih.1, ih.2⟩

theorem respelled_flatMap (spell : Char → List Char) (text : List Char) :
    Respelled (fun c letters => letters = spell c) text (text.flatMap spell) := by
  induction text with
  | nil => exact .nil
  | cons c text ih => exact .cons rfl ih

theorem Respelled.eq_flatMap {spell : Char → List Char}
    (respelled : Respelled (fun c letters => letters = spell c) text out) : out = text.flatMap spell := by
  induction respelled with
  | nil => rfl
  | cons here _ ih => rw [here, ih, List.flatMap_cons]

end

/-! Lower case. -/

def Lowers (c : Char) (letters : List Char) : Prop :=
  letters = lowerChar c ∨ c.toNat = 0x3a3 ∧ letters = ['\u03c2']

theorem respelled_lowerFrom (seen text : List Char) : Respelled Lowers text (lowerFrom seen text) := by
  induction text generalizing seen with
  | nil => exact .nil
  | cons c rest ih =>
    rw [lowerFrom]
    refine .cons ?_ (ih _)
    split
    · next sigma =>
      have code : c.toNat = 0x3a3 := beq_iff_eq.mp sigma
      have form : lowerChar (Char.ofNat 0x3a3) = [Char.ofNat 0x3c3] := by decide
      split
      · exact .inr ⟨code, rfl⟩
      · exact .inl (by rw [← form, ← code, Char.ofNat_toNat])
    · exact .inl rfl

theorem respelled_lower (text : List Char) : Respelled Lowers text (lower text) :=
  respelled_lowerFrom [] text

def recased (c : Char) : List Char := upper (lowerChar c)

theorem upper_append (first second : List Char) : upper (first ++ second) = upper first ++ upper second :=
  List.flatMap_append

theorem Respelled.upper_eq {text out : List Char} (lowered : Respelled Lowers text out) :
    upper out = text.flatMap recased := by
  induction lowered with
  | nil => rfl
  | @cons c letters text out here _ ih =>
    have same : upper letters = recased c := by
      rcases here with rfl | ⟨code, rfl⟩
      · rfl
      · have both : upper ['\u03c2'] = recased (Char.ofNat 0x3a3) := by decide
        rw [both, ← code, Char.ofNat_toNat]
    rw [upper_append, same, ih, List.flatMap_cons]

/-! Letters beyond ASCII. -/

/-- The codes beyond ASCII of letters that upper case writes with ASCII letters. -/
def raisedCodes : List Nat :=
  [0xdf, 0x131, 0x149, 0x17f, 0x1f0] ++ List.range' 0x1e96 5 ++ List.range' 0xfb00 7

/-- The capital letters that upper case behind lower case writes with ASCII letters. -/
def estranged : List Nat := [0x130, 0x1e9e, 0x212a]

/-- All codes that the run leads to are those of characters. -/
def CaseRun.leadsToLetters (run : CaseRun) : Bool :=
  (run.target + run.width).blt 0xd800 || Nat.blt 0xdfff run.target && (run.target + run.width).blt 0x110000

theorem CaseRun.toNat_ofNat {run : CaseRun} (letters : run.leadsToLetters = true) {distance : Nat}
    (near : distance ≤ run.width) : (Char.ofNat (run.target + distance)).toNat = run.target + distance := by
  simp only [leadsToLetters, Bool.or_eq_true, Bool.and_eq_true, Nat.blt_eq] at letters
  have valid : (run.target + distance).isValidChar := by
    rw [Nat.isValidChar]
    omega
  rw [Char.ofNat, dif_pos valid]
  rfl

set_option maxRecDepth 8000 in
theorem upperRuns_beyond : (upperRuns.all fun run => run.leadsToLetters &&
    (Nat.ble 0x80 run.target || run.width == 0 && raisedCodes.contains run.first)) = true := rfl

theorem upperExpansions_beyond : (upperExpansions.all fun entry => raisedCodes.contains entry.1 ||
    entry.2.all fun n => Nat.ble 0x80 (Char.ofNat n).toNat) = true := rfl

theorem upperChar_beyond {c : Char} (beyond : 0x80 ≤ c.toNat) (other : c.toNat ∉ raisedCodes) :
    ∀ d ∈ upperChar c, 0x80 ≤ d.toNat := by
  intro d member
  rw [upperChar, if_neg (by omega)] at member
  rcases changeCase_cases upperRuns upperExpansions c with
    ⟨letters, entry, same⟩ | ⟨run, inside, distance, near, -, code, same⟩ | ⟨-, -, same⟩
  · rw [same] at member
    obtain ⟨n, listed, rfl⟩ := List.mem_map.mp member
    have all := List.all_eq_true.mp upperExpansions_beyond _ entry
    rw [Bool.or_eq_true, List.contains_iff_mem] at all
    exact Nat.le_of_ble_eq_true (List.all_eq_true.mp (all.resolve_left other) n listed)
  · rw [same] at member
    have all := List.all_eq_true.mp upperRuns_beyond run inside
    simp only [Bool.and_eq_true, Bool.or_eq_true, Nat.ble_eq, beq_iff_eq, List.contains_iff_mem] at all
    rw [List.mem_singleton.mp member, CaseRun.toNat_ofNat all.1 near]
    rcases all.2 with large | ⟨alone, listed⟩
    · omega
    · have first : c.toNat = run.first := by omega
      exact absurd (first ▸ listed) other
  · rw [same] at member
    rwa [List.mem_singleton.mp member]

set_option maxRecDepth 8000 in
theorem lowerRuns_beyond : (lowerRuns.all fun run => run.leadsToLetters &&
    (run.width == 0 && estranged.contains run.first ||
      Nat.ble 0x80 run.target && raisedCodes.all fun code =>
        run.misses code code && ((run.first + run.width).blt code || code.blt run.first))) = true := rfl

theorem lowerExpansions_beyond :
    (lowerExpansions.all fun entry => estranged.contains entry.1) = true := rfl

theorem recased_beyond {c : Char} (beyond : 0x80 ≤ c.toNat) (other : c.toNat ∉ estranged) :
    recased c = upperChar c ∨ ∀ d ∈ recased c ++ upperChar c, 0x80 ≤ d.toNat := by
  have form : lowerChar c = changeCase lowerRuns lowerExpansions c := by rw [lowerChar, if_neg (by omega)]
  rcases changeCase_cases lowerRuns lowerExpansions c with
    ⟨letters, entry, -⟩ | ⟨run, inside, distance, near, -, code, same⟩ | ⟨-, -, same⟩
  · have all := List.all_eq_true.mp lowerExpansions_beyond _ entry
    exact absurd (List.contains_iff_mem.mp all) other
  · -- a letter of a run: neither it nor its small letter is one that upper case takes back to ASCII
    right
    have all := List.all_eq_true.mp lowerRuns_beyond run inside
    simp only [Bool.and_eq_true, Bool.or_eq_true, Nat.ble_eq, beq_iff_eq, List.contains_iff_mem,
      List.all_eq_true, Nat.blt_eq] at all
    obtain ⟨letters, ⟨alone, listed⟩ | ⟨large, free⟩⟩ := all
    · have first : c.toNat = run.first := by omega
      exact absurd (first ▸ listed) other
    · have here := CaseRun.toNat_ofNat letters near
      have small : (Char.ofNat (run.target + distance)).toNat ∉ raisedCodes := by
        rw [here]
        intro member
        have away := CaseRun.lt_or_lt_of_misses (free _ member).1 near
        omega
      have own : c.toNat ∉ raisedCodes := by
        intro member
        have away := (free _ member).2
        omega
      have written : recased c = upperChar (Char.ofNat (run.target + distance)) := by
        rw [recased, form, same, upper, List.flatMap_singleton]
      intro d member
      rcases List.mem_append.mp member with later | now
      · rw [written] at later
        exact upperChar_beyond (by rw [here]; omega) small d later
      · exact upperChar_beyond beyond own d now
  · left
    rw [recased, form, same, upper, List.flatMap_singleton]

theorem lowerChar_ne_nil (c : Char) : lowerChar c ≠ [] := by
  rw [lowerChar]
  split
  · exact List.cons_ne_nil _ _
  · rcases changeCase_cases lowerRuns lowerExpansions c with
      ⟨letters, entry, same⟩ | ⟨_, -, _, -, -, -, same⟩ | ⟨-, -, same⟩ <;> rw [same]
    · have all : (lowerExpansions.all fun entry => !entry.2.isEmpty) = true := by decide
      have some_ := List.all_eq_true.mp all _ entry
      simpa using some_
    · exact List.cons_ne_nil _ _
    · exact List.cons_ne_nil _ _

theorem recased_ne_nil (c : Char) : recased c ≠ [] := by
  have long := length_le_upper (lowerChar c)
  have some_ := List.length_pos_iff.mpr (lowerChar_ne_nil c)
  exact List.ne_nil_of_length_pos (by rw [recased]; omega)

theorem recased_ascii {c : Char} (ascii : c.toNat < 0x80) : recased c = upperChar c := by
  have all : ∀ n < 0x80, recased (Char.ofNat n) = upperChar (Char.ofNat n) := by decide
  have same := all c.toNat ascii
  rwa [Char.ofNat_toNat] at same

/-! Words of ASCII letters. -/

theorem occursIn_iff {part text : List Char} : occursIn part text = true ↔ part <:+: text := by
  induction text with
  | nil => simp [occursIn]
  | cons c rest ih => rw [occursIn, Bool.or_eq_true, ih, List.isPrefixOf_iff_prefix, List.infix_cons_iff]

theorem infix_of_mem {spell : Char → List Char} {c : Char} {text : List Char} (member : c ∈ text) :
    spell c <:+: text.flatMap spell := by
  obtain ⟨front, back, rfl⟩ := List.append_of_mem member
  exact ⟨front.flatMap spell, back.flatMap spell, by simp⟩

/-- A word of ASCII letters that no estranged letter is written with. -/
def isKeyword (word : List Char) : Bool :=
  word.all (fun c => c.toNat.blt 0x80 && c != 'K') && !occursIn ['S', 'S'] word

section

variable {word text : List Char}

theorem isKeyword_iff : isKeyword word = true ↔
    (∀ c ∈ word, c.toNat < 0x80 ∧ c ≠ 'K') ∧ ¬ ['S', 'S'] <:+: word := by
  rw [isKeyword, Bool.and_eq_true, Bool.not_eq_true', ← Bool.not_eq_true, occursIn_iff, List.all_eq_true]
  simp only [Bool.and_eq_true, Nat.blt_eq, bne_iff_ne]

theorem recased_of_keyword (keyword : isKeyword word = true) {c : Char}
    (part : recased c <:+: word ∨ upperChar c <:+: word) : recased c = upperChar c := by
  obtain ⟨ascii, single⟩ := isKeyword_iff.mp keyword
  have refuse : ∀ {letters : List Char} {d : Char}, letters <:+: word → d ∈ letters → ¬ 0x80 ≤ d.toNat :=
    fun inside member beyond => absurd (ascii _ (inside.subset member)).1 (by omega)
  rcases Nat.lt_or_ge c.toNat 0x80 with small | beyond
  · exact recased_ascii small
  · -- the few letters that the two ways write differently are tried one by one
    by_cases special : c.toNat ∈ estranged
    · have codes : recased (Char.ofNat 0x130) = ['I', '\u0307'] ∧ recased (Char.ofNat 0x1e9e) = ['S', 'S'] ∧
          recased (Char.ofNat 0x212a) = ['K'] := by decide
      have capital : ∀ code ∈ estranged, upperChar (Char.ofNat code) = [Char.ofNat code] := by decide
      have own := capital _ special
      rw [Char.ofNat_toNat] at own
      rcases part with part | part
      · rw [← Char.ofNat_toNat c] at part
        simp only [estranged, List.mem_cons, List.not_mem_nil, or_false] at special
        rcases special with code | code | code <;> rw [code] at part
        · rw [codes.1] at part
          exact absurd (by decide) (@refuse _ '\u0307' part (by simp))
        · rw [codes.2.1] at part
          exact absurd part single
        · rw [codes.2.2] at part
          exact absurd rfl (ascii 'K' (part.subset (by simp))).2
      · rw [own] at part
        exact absurd beyond (refuse part (by simp))
    · rcases recased_beyond beyond special with same | far
      · exact same
      · -- a letter of the word would lie beyond ASCII
        rcases part with part | part
        · obtain ⟨d, member⟩ := List.exists_mem_of_ne_nil _ (recased_ne_nil c)
          exact absurd (far d (List.mem_append_left _ member)) (refuse part member)
        · obtain ⟨d, member⟩ := List.exists_mem_of_ne_nil _ (upperChar_ne_nil c)
          exact absurd (far d (List.mem_append_right _ member)) (refuse part member)

theorem recased_eq_iff (keyword : isKeyword word = true) :
    text.flatMap recased = word ↔ upper text = word := by
  constructor
  · rintro rfl
    exact (List.flatMap_congr fun c member =>
      recased_of_keyword keyword (.inl (infix_of_mem member))).symm
  · rintro rfl
    exact List.flatMap_congr fun c member =>
      recased_of_keyword keyword (.inr (infix_of_mem member))

end

/-! Words inside a text. -/

/-- No occurrence of the word begins before the end of the piece and goes on behind it, or ends in it. -/
def apart (word piece : List Char) : Bool :=
  piece.getLast?.all (fun d => !word.contains d) && word.getLast?.all fun d => !piece.contains d

theorem apart_iff {word piece : List Char} : apart word piece = true ↔
    (∀ d, piece.getLast? = some d → d ∉ word) ∧ ∀ d, word.getLast? = some d → d ∉ piece := by
  simp [apart, Option.all_eq_true]

theorem prefix_of_apart {word piece front rest : List Char} (some_ : piece ≠ [])
    (apart_ : apart word piece = true) (start : word <+: front ++ (piece ++ rest)) : word <+: front := by
  obtain ⟨onward, ends⟩ := apart_iff.mp apart_
  rcases List.prefix_or_prefix_of_prefix start (List.prefix_append _ _) with within | ⟨more, rfl⟩
  · exact within
  rw [List.prefix_append_right_inj] at start
  rcases List.eq_nil_or_concat more with rfl | ⟨inside, last, rfl⟩
  · exact ⟨[], by simp⟩
  -- the word would end inside the piece or go on behind it
  rcases List.prefix_or_prefix_of_prefix start (List.prefix_append piece rest) with within | beyond
  · exact absurd (within.subset (by simp)) (ends last (by simp))
  · have member := beyond.subset (List.getLast_mem some_)
    exact absurd (List.mem_append_right _ member) (onward _ (List.getLast?_eq_some_getLast some_))

section

variable {first second : Char → List Char} {word : List Char}

theorem prefix_flatMap (some_ : ∀ c, first c ≠ [])
    (agree : ∀ c, first c = second c ∨ apart word (first c) = true) {text front : List Char}
    (start : word <+: front ++ text.flatMap first) : word <+: front ++ text.flatMap second := by
  induction text generalizing front with
  | nil => exact start
  | cons c text ih =>
    rw [List.flatMap_cons] at start ⊢
    rcases agree c with same | apart_
    · rw [← same, ← List.append_assoc]
      rw [← List.append_assoc] at start
      exact ih start
    · exact (prefix_of_apart (some_ c) apart_ start).trans (List.prefix_append _ _)

theorem infix_flatMap (some_ : ∀ c, first c ≠ [])
    (agree : ∀ c, first c = second c ∨ apart word (first c) = true) {text : List Char}
    (found : word <:+: text.flatMap first) : word <:+: text.flatMap second := by
  induction text with
  | nil => exact found
  | cons c text ih =>
    rw [List.flatMap_cons] at found ⊢
    have later : word <:+: text.flatMap first → word <:+: second c ++ text.flatMap second :=
      fun inside => (ih inside).trans (List.suffix_append _ _).isInfix
    obtain ⟨before, behind, same⟩ := found
    rw [List.append_assoc] at same
    rcases List.append_eq_append_iff.mp same with ⟨rest, piece, start⟩ | ⟨rest, front, start⟩
    · have start : word <+: rest ++ text.flatMap first := ⟨behind, start⟩
      rcases agree c with agreed | apart_
      · rw [← agreed, piece, List.append_assoc]
        exact (prefix_flatMap some_ agree start).isInfix.trans (List.suffix_append _ _).isInfix
      · -- what is left of the piece is apart from the word as well
        cases rest with
        | nil => exact later start.isInfix
        | cons d rest =>
          have left : apart word (d :: rest) = true := by
            rw [apart_iff, piece] at apart_
            exact apart_iff.mpr ⟨fun e last => apart_.1 e (by rwa [List.getLast?_append_of_ne_nil _ (by simp)]),
              fun e last inside => apart_.2 e last (List.mem_append_right _ inside)⟩
          have none := @prefix_of_apart word (d :: rest) [] _ (by simp) left start
          rw [List.prefix_nil.mp none]
          exact List.nil_infix
    · exact later ⟨rest, behind, by rw [List.append_assoc, start]⟩

end

/-- A word of ASCII letters that is apart from all estranged letters. -/
def isInnerWord (word : List Char) : Bool :=
  word.all (fun c => c.toNat.blt 0x80) && estranged.all fun code => apart word (recased (Char.ofNat code))

theorem infix_upper_of_recased {word text : List Char} (inner : isInnerWord word = true)
    (found : word <:+: text.flatMap recased) : word <:+: upper text := by
  rw [isInnerWord, Bool.and_eq_true, List.all_eq_true, List.all_eq_true] at inner
  obtain ⟨ascii, special⟩ := inner
  refine infix_flatMap recased_ne_nil (fun c => ?_) found
  rcases Nat.lt_or_ge c.toNat 0x80 with small | beyond
  · exact .inl (recased_ascii small)
  by_cases listed : c.toNat ∈ estranged
  · have here := special _ listed
    rw [Char.ofNat_toNat] at here
    exact .inr here
  rcases recased_beyond beyond listed with same | far
  · exact .inl same
  · have other : ∀ d ∈ word, d ∉ recased c := fun d inside member =>
      absurd (Nat.lt_of_lt_of_le (Nat.blt_eq.mp (ascii d inside)) (far d (List.mem_append_left _ member)))
        (Nat.lt_irrefl _)
    exact .inr (apart_iff.mpr ⟨fun d last inside => other d inside (List.mem_of_getLast? last),
      fun d last => other d (List.mem_of_getLast? last)⟩)

end DdlSchema.Text
