import DdlSchema.Proofs.Statement.NoiseRemoval
import DdlSchema.Proofs.Text.Finding
import DdlSchema.Proofs.Text.Spelling

/-! Phrases at the beginning of a text. Of phrases that part at some word a text begins with one only, so that
a pattern which accepts several takes the one that is written there. -/

set_option autoImplicit false

namespace DdlSchema.Text

open DdlSchema.Statement (isWordChar_of_sameLetter isWordChar_of_isBlank)

-- A phrase and a longer one that begins with its words do not part: a text may begin with both.
/-- At the first word that differs, neither word is the beginning of the other one. -/
def clash : List (List Char) → List (List Char) → Bool
  | word :: words, other :: others =>
    if word = other then clash words others else !word.isPrefixOf other && !other.isPrefixOf word
  | _, _ => false

theorem clash_self (spelling : List (List Char)) : clash spelling spelling = false := by
  induction spelling with
  | nil => rfl
  | cons word spelling ih => rw [clash, if_pos rfl, ih]

def Steady (spelling : List (List Char)) : Prop := ∀ word ∈ spelling, word ≠ [] ∧ word.all isSteady = true

section

variable {word other taken written rest behind : List Char} {spelling others : List (List Char)}

theorem isBlank_of_sameLetter {letter c : Char} (steady : isSteady letter = true)
    (same : sameLetter letter c = true) : isBlank c = false := by
  rw [Bool.eq_false_iff]
  intro blank
  have capital : letter.isUpper = true := (Bool.and_eq_true_iff.mp steady).1
  have inside := isWordChar_of_sameLetter (Bool.or_eq_true_iff.mpr (.inl capital)) same
  rw [isWordChar_of_isBlank blank] at inside
  cases inside

theorem Spelled.exists_cons (spelled : Spelled spelling taken) (steady : Steady spelling) :
    ∃ c others, taken = c :: others ∧ isBlank c = false := by
  have first : ∀ {word taken : List Char}, word ≠ [] ∧ word.all isSteady = true →
      List.Forall₂ (fun letter c => sameLetter letter c = true) word taken →
        ∃ c others, taken = c :: others ∧ isBlank c = false := by
    rintro word taken ⟨some_, capitals⟩ same
    cases same with
    | nil => exact absurd rfl some_
    | cons here _ =>
      exact ⟨_, _, rfl, isBlank_of_sameLetter (List.all_eq_true.mp capitals _ List.mem_cons_self) here⟩
  cases spelled with
  | last same => exact first (steady _ List.mem_cons_self) same
  | more same _ _ _ =>
    obtain ⟨c, others, rfl, solid⟩ := first (steady _ List.mem_cons_self) same
    exact ⟨c, _, rfl, solid⟩

theorem Spelled.head (spelled : Spelled spelling taken) (steady : Steady spelling) (rest : List Char) :
    (taken ++ rest).head?.any isBlank = false := by
  obtain ⟨c, others, rfl, solid⟩ := spelled.exists_cons steady
  exact solid

/-- Of two words that a text begins with one is the beginning of the other. -/
theorem prefix_or_prefix_of_sameLetters (steady : word.all isSteady = true)
    (steady' : other.all isSteady = true)
    (same : List.Forall₂ (fun letter c => sameLetter letter c = true) word taken)
    (same' : List.Forall₂ (fun letter c => sameLetter letter c = true) other written)
    (undotted : dottedI ∉ taken ++ rest) (split : taken ++ rest = written ++ behind) :
    word <+: other ∨ other <+: word := by
  have first : upper taken = word :=
    upper_of_sameLetters steady same fun member => undotted (List.mem_append_left _ member)
  have second : upper written = other :=
    upper_of_sameLetters steady' same' fun member => undotted (split ▸ List.mem_append_left _ member)
  -- upper case leads back to the words, so they compare as the two beginnings of the text do
  rw [← first, ← second]
  rcases List.prefix_or_prefix_of_prefix (List.prefix_append taken rest)
    (split ▸ List.prefix_append written behind) with ⟨more, rfl⟩ | ⟨more, rfl⟩
  · exact .inl (upper_append taken more ▸ List.prefix_append _ _)
  · exact .inr (upper_append written more ▸ List.prefix_append _ _)

/-- Phrases that part somewhere begin with the same word if a text begins with both. -/
theorem first_of_apart (steady : Steady (word :: spelling)) (steady' : Steady (other :: others))
    (same : List.Forall₂ (fun letter c => sameLetter letter c = true) word taken)
    (same' : List.Forall₂ (fun letter c => sameLetter letter c = true) other written)
    (undotted : dottedI ∉ taken ++ rest) (split : taken ++ rest = written ++ behind)
    (apart : word :: spelling = other :: others ∨ clash (word :: spelling) (other :: others) = true) :
    word = other ∧ taken = written ∧ rest = behind ∧ (spelling = others ∨ clash spelling others = true) := by
  have beginning := prefix_or_prefix_of_sameLetters (steady word List.mem_cons_self).2
    (steady' other List.mem_cons_self).2 same same' undotted split
  have words : word = other ∧ (spelling = others ∨ clash spelling others = true) := by
    rcases apart with equal | parts
    · obtain ⟨first, later⟩ := List.cons.inj equal
      exact ⟨first, .inl later⟩
    · rw [clash] at parts
      split at parts
      · next first => exact ⟨first, .inr parts⟩
      · simp only [Bool.and_eq_true, Bool.not_eq_true', ← Bool.not_eq_true,
          List.isPrefixOf_iff_prefix] at parts
        exact absurd beginning (not_or.mpr parts)
  obtain ⟨rfl, later⟩ := words
  obtain ⟨rfl, tail⟩ := List.append_inj split (same.length_eq.symm.trans same'.length_eq)
  exact ⟨rfl, rfl, tail, later⟩

theorem Spelled.ne_nil (spelled : Spelled spelling taken) : spelling ≠ [] := by
  cases spelled with
  | last => exact List.cons_ne_nil _ _
  | more => exact List.cons_ne_nil _ _

/-- A text begins with one phrase only. -/
theorem Spelled.unique (here : Spelled spelling taken) (there : Spelled others written)
    (steady : Steady spelling) (steady' : Steady others) (undotted : dottedI ∉ taken ++ rest)
    (split : taken ++ rest = written ++ behind)
    (apart : spelling = others ∨ clash spelling others = true) : spelling = others ∧ taken = written := by
  have tail : ∀ {word : List Char} {words : List (List Char)}, Steady (word :: words) → Steady words :=
    fun steady word member => steady word (List.mem_cons_of_mem _ member)
  induction here generalizing others written with
  | @last word taken same =>
    cases there with
    | last same' =>
      obtain ⟨rfl, rfl, -, -⟩ := first_of_apart steady steady' same same' undotted split apart
      exact ⟨rfl, rfl⟩
    | more same' _ _ there =>
      -- words that go on where others end are the same up to there, so they do not part
      rw [List.append_assoc] at split
      obtain ⟨-, -, -, later⟩ := first_of_apart steady steady' same same' undotted split apart
      exact absurd later (by simp [clash, there.ne_nil.symm])
  | @more word taken gap text words same spaced blank here ih =>
    rw [List.append_assoc, List.append_assoc] at undotted split
    cases there with
    | last same' =>
      obtain ⟨-, -, -, later⟩ := first_of_apart steady steady' same same' undotted split apart
      exact absurd later (by simp [clash, here.ne_nil])
    | more same' _ blank' there =>
      rw [List.append_assoc, List.append_assoc] at split
      obtain ⟨rfl, rfl, spaced, later⟩ := first_of_apart steady steady' same same' undotted split apart
      obtain ⟨rfl, onward⟩ := Pattern.run_unique blank blank' (here.head (tail steady) rest)
        (there.head (tail steady') behind) spaced
      have inside : dottedI ∉ text ++ rest := fun member =>
        undotted (List.mem_append_right _ (List.mem_append_right _ member))
      obtain ⟨rfl, rfl⟩ := ih there (tail steady) (tail steady') inside onward later
      exact ⟨rfl, rfl⟩

end

/-! What a pattern reaches. -/

namespace Pattern

theorem reaches_oneOf {pattern : Pattern} {patterns : List Pattern} (member : pattern ∈ patterns)
    {place later : Cursor} (reach : Reaches pattern place later) : Reaches (oneOf patterns) place later := by
  induction patterns with
  | nil => cases member
  | cons first rest ih =>
    cases rest with
    | nil => rwa [List.mem_singleton.mp member] at reach
    | cons second rest =>
      rcases List.mem_cons.mp member with rfl | later
      · exact .inl reach
      · exact .inr (ih later)

theorem reaches_of_spelled {spelling : List (List Char)} {taken rest : List Char}
    (spelled : Spelled spelling taken) {place : Cursor} (here : place.rest = taken ++ rest) :
    Reaches (ofList ((spelling.map fun word => letters (String.ofList word)).intersperse gap)) place
      (place.past taken) := by
  have word_ : ∀ {word taken rest : List Char} {place : Cursor}, place.rest = taken ++ rest →
      List.Forall₂ (fun letter c => sameLetter letter c = true) word taken →
        Reaches (letters (String.ofList word)) place (place.past taken) := fun here same =>
    reaches_letters here (by rwa [String.toList_ofList])
  induction spelled generalizing place with
  | last same => exact word_ here same
  | @more word taken gap text words same spaced blank later ih =>
    obtain ⟨second, words, rfl⟩ := List.exists_cons_of_ne_nil later.ne_nil
    rw [List.append_assoc, List.append_assoc] at here
    have named := rest_past here
    have onward := ih (rest_past named)
    have whole : place.past (taken ++ (gap ++ text)) = ((place.past taken).past gap).past text := by
      rw [past_past, past_past]
    rw [whole]
    exact ⟨_, word_ here same, reaches_ofList_cons.mpr ⟨_,
      reaches_run named blank (List.length_pos_iff.mpr spaced), onward⟩⟩

theorem Reaches.captured_eq {pattern : Pattern} (unnamed : pattern.labelled = []) {place later : Cursor}
    (reach : Reaches pattern place later) : later.captured = place.captured := by
  have along : Along (fun place later => later.captured = place.captured) pattern := by
    refine ⟨fun _ => rfl, fun first second => second.trans first, fun _ _ _ _ _ _ => rfl, ?_⟩
    intro label body listed
    rw [unnamed] at listed
    cases listed
  exact reach.along along

/-! All matches in turn. -/

section

variable {pattern : Pattern}

theorem matchesFrom_skip (taken rest : List Char) (before : Option Char) :
    pattern.matchesFrom taken.length before (taken ++ rest) =
      pattern.matchesFrom 0 (taken.getLast?.or before) rest := by
  induction taken generalizing before with
  | nil => simp
  | cons c taken ih => rw [List.length_cons, List.cons_append, matchesFrom, ih, getLast?_cons_or]

theorem matchesFrom_found {taken rest : List Char} {before : Option Char} {found : Match} (some_ : taken ≠ [])
    (matched : pattern.matchAt before (taken ++ rest) = some found) (long : found.length = taken.length) :
    pattern.matchesFrom 0 before (taken ++ rest) =
      found :: pattern.matchesFrom 0 (taken.getLast?.or before) rest := by
  obtain ⟨c, taken, rfl⟩ := List.exists_cons_of_ne_nil some_
  obtain ⟨length, captured⟩ := found
  obtain rfl : length = taken.length + 1 := long
  rw [List.cons_append] at matched ⊢
  rw [matchesFrom, matched]
  dsimp only
  rw [matchesFrom_skip, getLast?_cons_or]

theorem matchesFrom_passed {front rest : List Char} (none : ∀ c ∈ front, ∀ before others,
    pattern.matchAt before (c :: others) = none) (before : Option Char) :
    pattern.matchesFrom 0 before (front ++ rest) = pattern.matchesFrom 0 (front.getLast?.or before) rest := by
  induction front generalizing before with
  | nil => simp
  | cons c front ih =>
    obtain ⟨here, later⟩ := List.forall_mem_cons.mp none
    rw [List.cons_append, matchesFrom, here, ih later, getLast?_cons_or]

end

end Pattern

end DdlSchema.Text
