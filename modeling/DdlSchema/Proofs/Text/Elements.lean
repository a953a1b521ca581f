import DdlSchema.Proofs.Text.Segmentation

/-! The elements of a list in parentheses: the pieces between the commas that stand in no further
parentheses and in no quotes. A stretch that stays level, closing only what it opens and holding no comma
outside of that, belongs to one element, so that taking it away changes this element alone. -/

set_option autoImplicit false

namespace DdlSchema.Text

namespace Segment

def separates (depth : Nat) : Segment → Bool
  | .plain c => c == ',' && depth == 0
  | .quoted _ => false

def isClosing : Segment → Bool
  | .plain c => c == ')'
  | .quoted _ => false

def depthBehind (depth : Nat) : Segment → Nat
  | .plain c => if c == '(' then depth + 1 else if c == ')' then depth - 1 else depth
  | .quoted _ => depth

end Segment

def elementsFrom : Nat → List Segment → List (List Segment)
  | _, [] => [[]]
  | depth, segment :: rest =>
    if segment.separates depth then [] :: elementsFrom depth rest
    else (elementsFrom (segment.depthBehind depth) rest).modifyHead (segment :: ·)

/-- The elements of a list, without its own parentheses. -/
def elements (text : List Char) : List (List Segment) := elementsFrom 0 (segments text)

theorem subset_of_mem_elementsFrom {depth : Nat} {list element : List Segment}
    (member : element ∈ elementsFrom depth list) : element ⊆ list := by
  induction list generalizing depth element with
  | nil =>
    rw [List.mem_singleton.mp member]
    exact List.nil_subset _
  | cons segment rest ih =>
    rw [elementsFrom] at member
    split at member
    · rcases List.mem_cons.mp member with rfl | later
      · exact List.nil_subset _
      · exact List.subset_cons_of_subset _ (ih later)
    · cases pieces : elementsFrom (segment.depthBehind depth) rest with
      | nil => simp [pieces] at member
      | cons first others =>
        rw [pieces, List.modifyHead_cons] at member
        rcases List.mem_cons.mp member with rfl | later
        · exact List.cons_subset_cons _ (ih (by rw [pieces]; exact List.mem_cons_self))
        · exact List.subset_cons_of_subset _ (ih (by rw [pieces]; exact List.mem_cons_of_mem _ later))

/-- Every parenthesis has its partner, if `depth` of them have been opened before. -/
def balancedFrom : Nat → List Segment → Bool
  | depth, [] => depth == 0
  | depth, segment :: rest =>
    !(segment.isClosing && depth == 0) && balancedFrom (segment.depthBehind depth) rest

/-- The parentheses outside quoted spans are balanced. -/
def IsBalanced (text : List Char) : Prop := balancedFrom 0 (segments text) = true

instance (text : List Char) : Decidable (IsBalanced text) := inferInstanceAs (Decidable (_ = true))

/-! Stretches that stay level. -/

/-- The level behind a stretch that begins on this level, if it neither closes what it has not opened nor
holds a comma on the lowest level. -/
def levelBehind? : Nat → List Segment → Option Nat
  | level, [] => some level
  | level, segment :: rest =>
    if segment.separates level || (segment.isClosing && level == 0) then none
    else levelBehind? (segment.depthBehind level) rest

section

variable {segment : Segment} {list rest : List Segment} {level behind : Nat}

theorem levelBehind?_cons (found : levelBehind? level (segment :: rest) = some behind) :
    segment.separates level = false ∧ (segment.isClosing && level == 0) = false ∧
      levelBehind? (segment.depthBehind level) rest = some behind := by
  rw [levelBehind?] at found
  split at found
  · cases found
  · next stays =>
    simp only [Bool.or_eq_true, not_or, Bool.not_eq_true] at stays
    exact ⟨stays.1, stays.2, found⟩

theorem Segment.separates_add (inside : segment.separates level = false) (depth : Nat) :
    segment.separates (depth + level) = false := by
  cases segment with
  | plain c =>
    simp only [Segment.separates, Bool.and_eq_false_iff, beq_eq_false_iff_ne] at inside ⊢
    exact inside.imp_right fun deep => by omega
  | quoted span => rfl

theorem Segment.depthBehind_add (stays : (segment.isClosing && level == 0) = false) (depth : Nat) :
    segment.depthBehind (depth + level) = depth + segment.depthBehind level := by
  cases segment with
  | plain c =>
    simp only [Segment.isClosing, Bool.and_eq_false_iff, beq_eq_false_iff_ne] at stays
    simp only [Segment.depthBehind, beq_iff_eq]
    split
    · omega
    · split
      · next closing =>
        have deep := stays.resolve_left (not_not.mpr closing)
        omega
      · rfl
  | quoted span => rfl

theorem elementsFrom_append (found : levelBehind? level list = some behind) (depth : Nat)
    (rest : List Segment) :
    elementsFrom (depth + level) (list ++ rest) =
      (elementsFrom (depth + behind) rest).modifyHead (list ++ ·) := by
  induction list generalizing level with
  | nil =>
    cases found
    rw [List.nil_append]
    cases elementsFrom (depth + behind) rest <;> rfl
  | cons segment list ih =>
    obtain ⟨inside, stays, later⟩ := levelBehind?_cons found
    rw [List.cons_append, elementsFrom, Segment.separates_add inside, Segment.depthBehind_add stays,
      ih later]
    cases elementsFrom (depth + behind) rest <;> rfl

theorem balancedFrom_append (found : levelBehind? level list = some behind) (depth : Nat)
    (rest : List Segment) :
    balancedFrom (depth + level) (list ++ rest) = balancedFrom (depth + behind) rest := by
  induction list generalizing level with
  | nil =>
    cases found
    rfl
  | cons segment list ih =>
    obtain ⟨-, stays, later⟩ := levelBehind?_cons found
    have open_ : (segment.isClosing && depth + level == 0) = false := by
      simp only [Bool.and_eq_false_iff, beq_eq_false_iff_ne] at stays ⊢
      exact stays.imp_right fun deep => by omega
    rw [List.cons_append, balancedFrom, Segment.depthBehind_add stays, ih later, open_]
    rfl

theorem balancedFrom_behind {depth : Nat} (balanced : balancedFrom depth list = true)
    (rest : List Segment) : balancedFrom depth (list ++ rest) = balancedFrom 0 rest := by
  induction list generalizing depth with
  | nil => rw [beq_iff_eq.mp balanced, List.nil_append]
  | cons segment list ih =>
    rw [balancedFrom, Bool.and_eq_true] at balanced
    rw [List.cons_append, balancedFrom, ih balanced.2, balanced.1, Bool.true_and]

theorem not_level_of_balanced {depth : Nat} (balanced : balancedFrom depth list = true) :
    levelBehind? 0 (list ++ [.plain ')']) ≠ some 0 := by
  intro level
  -- behind as many further parentheses as are open the two ways of counting disagree
  have closing : ∀ depth, balancedFrom depth (List.replicate depth (.plain ')')) = true := by
    intro depth
    induction depth with
    | zero => rfl
    | succ depth ih => simpa [List.replicate_succ, balancedFrom, Segment.depthBehind] using ih
  have all := balancedFrom_append level depth (List.replicate depth (.plain ')'))
  rw [List.append_assoc, Nat.add_zero, balancedFrom_behind balanced, closing] at all
  cases all

end

/-! Edits that stay level. -/

section

variable {removes : Option Segment → List Segment → Prop} {written : List Segment}
  {before : Option Segment} {list out : List Segment}

theorem Edits.elements (level : ∀ before taken, removes before taken → levelBehind? 0 taken = some 0)
    (levelWritten : levelBehind? 0 written = some 0)
    (edits : Edits (fun before taken _ => removes before taken) written before list out) (depth : Nat) :
    ∃ first others first' others', elementsFrom depth list = first :: others ∧
      elementsFrom depth out = first' :: others' ∧
      Edits (fun before taken _ => removes before taken) written before first first' ∧
      List.Forall₂ (Edits (fun before taken _ => removes before taken) written (some (.plain ',')))
        others others' := by
  induction edits generalizing depth with
  | nil => exact ⟨[], [], [], [], rfl, rfl, .nil, .nil⟩
  | @keep _ segment rest out edits ih =>
    simp only [elementsFrom]
    split
    · next separates =>
      have comma : segment = .plain ',' := by
        cases segment with
        | plain c =>
          rw [Segment.separates, Bool.and_eq_true, beq_iff_eq] at separates
          rw [separates.1]
        | quoted span => cases separates
      obtain ⟨first, others, first', others', one, two, head, tail⟩ := ih depth
      exact ⟨[], _, [], _, rfl, rfl, .nil, one ▸ two ▸ .cons (comma ▸ head) tail⟩
    · obtain ⟨first, others, first', others', one, two, head, tail⟩ := ih (segment.depthBehind depth)
      exact ⟨segment :: first, others, segment :: first', others', by rw [one]; rfl, by rw [two]; rfl,
        .keep head, tail⟩
  | @replace _ taken rest out some_ here edits ih =>
    obtain ⟨first, others, first', others', one, two, head, tail⟩ := ih depth
    refine ⟨taken ++ first, others, written ++ first', others', ?_, ?_, .replace some_ here head, tail⟩
    · rw [← Nat.add_zero depth, elementsFrom_append (level _ _ here), Nat.add_zero, one]
      rfl
    · rw [← Nat.add_zero depth, elementsFrom_append levelWritten, Nat.add_zero, two]
      rfl

/-- Level edits leave the parenthesis that closes a balanced list where it is. -/
theorem Edits.closed (level : ∀ before taken, removes before taken → levelBehind? 0 taken = some 0)
    (levelWritten : levelBehind? 0 written = some 0) {depth : Nat}
    (balanced : balancedFrom depth list = true)
    (edits : Edits (fun before taken _ => removes before taken) written before
      (list ++ [.plain ')']) out) :
    ∃ inner, out = inner ++ [.plain ')'] ∧ balancedFrom depth inner = true ∧
      Edits (fun before taken _ => removes before taken) written before list inner := by
  generalize whole : list ++ [Segment.plain ')'] = all at edits
  induction edits generalizing list depth with
  | nil => simp at whole
  | @keep _ segment rest out edits ih =>
    cases list with
    | nil =>
      cases whole
      exact ⟨[], by rw [edits.of_nil]; rfl, balanced, .nil⟩
    | cons first list =>
      cases whole
      rw [balancedFrom, Bool.and_eq_true] at balanced
      obtain ⟨inner, rfl, later, edits⟩ := ih balanced.2 rfl
      exact ⟨segment :: inner, rfl, by rw [balancedFrom, balanced.1, later]; rfl, .keep edits⟩
  | @replace _ taken rest out some_ here edits ih =>
    rcases List.append_eq_append_iff.mp whole with ⟨between, front, back⟩ | ⟨between, front, back⟩
    · cases between with
      | nil =>
        rw [List.append_nil] at front
        subst front
        have stays := balancedFrom_append (level _ _ here) depth []
        rw [Nat.add_zero, List.append_nil, balanced] at stays
        have none : balancedFrom depth [] = true := stays.symm
        obtain ⟨inner, rfl, later, edits⟩ := ih none back
        refine ⟨written ++ inner, by rw [List.append_assoc], ?_, ?_⟩
        · rw [← Nat.add_zero depth, balancedFrom_append levelWritten, Nat.add_zero, later]
        · simpa using Edits.replace some_ here edits
      | cons last between =>
        obtain ⟨rfl, none⟩ := List.cons.inj back
        rw [(List.append_eq_nil_iff.mp none.symm).1] at front
        exact absurd (front ▸ level _ _ here) (not_level_of_balanced balanced)
    · subst front
      have stays := balancedFrom_append (level _ _ here) depth between
      rw [Nat.add_zero, balanced] at stays
      obtain ⟨inner, rfl, later, edits⟩ := ih stays.symm back.symm
      refine ⟨written ++ inner, by rw [List.append_assoc], ?_, .replace some_ here edits⟩
      rw [← Nat.add_zero depth, balancedFrom_append levelWritten, Nat.add_zero, later]

theorem Edits.enclosed {relation : List Segment → List Segment → Prop}
    (level : ∀ before taken, removes before taken → levelBehind? 0 taken = some 0)
    (levelWritten : levelBehind? 0 written = some 0)
    (opening : ∀ taken, ¬ removes none (.plain '(' :: taken))
    (each : ∀ c ∈ ['(', ','], ∀ element out,
      Edits (fun before taken _ => removes before taken) written (some (.plain c)) element out →
        relation element out)
    (balanced : balancedFrom 0 list = true)
    (edits : Edits (fun before taken _ => removes before taken) written none
      (.plain '(' :: (list ++ [.plain ')'])) out) :
    ∃ inner, out = .plain '(' :: (inner ++ [.plain ')']) ∧ balancedFrom 0 inner = true ∧
      List.Forall₂ relation (elementsFrom 0 list) (elementsFrom 0 inner) := by
  obtain ⟨later, rfl, inside⟩ := edits.of_cons fun taken _ _ => opening taken
  obtain ⟨inner, rfl, balanced, own⟩ := inside.closed level levelWritten balanced
  obtain ⟨first, others, first', others', here, there, head, tail⟩ := own.elements level levelWritten 0
  refine ⟨inner, rfl, balanced, ?_⟩
  rw [here, there]
  exact .cons (each '(' (by simp) _ _ head) (tail.imp fun _ _ edits => each ',' (by simp) _ _ edits)

end

/-! Elements are read back like segments. -/

theorem map_modifyHead_cons (segment : Segment) (pieces : List (List Segment)) :
    (pieces.modifyHead (segment :: ·)).map spelled =
      (pieces.map spelled).modifyHead (segment.text ++ ·) := by
  cases pieces <;> rfl

theorem Joins.elements {list joined : List Segment} (joins : Joins list joined) (depth : Nat) :
    (elementsFrom depth joined).map spelled = (elementsFrom depth list).map spelled := by
  induction joins generalizing depth with
  | nil => rfl
  | cons segment _ ih =>
    simp only [elementsFrom]
    split
    · rw [List.map_cons, List.map_cons, ih]
    · rw [map_modifyHead_cons, map_modifyHead_cons, ih]
  | @join first second list joined _ ih =>
    have later := ih depth
    simp only [elementsFrom, Segment.separates, Bool.false_eq_true, if_false, Segment.depthBehind,
      map_modifyHead_cons, Segment.text] at later ⊢
    rw [← later]
    cases (elementsFrom depth joined).map spelled with
    | nil => rfl
    | cons piece pieces => simp

theorem Joins.balancedFrom {list joined : List Segment} (joins : Joins list joined) (depth : Nat) :
    balancedFrom depth joined = balancedFrom depth list := by
  induction joins generalizing depth with
  | nil => rfl
  | cons segment _ ih => simp only [Text.balancedFrom, ih]
  | join _ ih => simpa [Text.balancedFrom, Segment.isClosing, Segment.depthBehind] using ih depth

end DdlSchema.Text
