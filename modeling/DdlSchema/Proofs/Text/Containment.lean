import DdlSchema.Proofs.Text.Matching

/-! Matches that do not get past a place. Where no way of fitting a pattern that begins in front of a mark
leads over that mark, what is found in front of it does not depend on what stands behind it. -/

set_option autoImplicit false

namespace DdlSchema.Text.Pattern

/-! Two texts that are equal in front of a mark. -/

def looksAhead : Pattern → Bool
  | .seq first second | .either first second => first.looksAhead || second.looksAhead
  | .many body | .capture _ body => body.looksAhead
  | .ahead _ => true
  | _ => false

/-- What follows succeeds alike in front of the mark, which stands at the limit, and nowhere behind it. -/
structure Agree {α : Type} (limit : Nat) (rest other : List Char) (next next' : Cursor → Option α) :
    Prop where
  inside : ∀ before front consumed captured, consumed + front.length = limit →
    next ⟨before, front ++ rest, consumed, captured⟩ = next' ⟨before, front ++ other, consumed, captured⟩
  beyond : ∀ place, limit < place.consumed → next place = none
  beyond' : ∀ place, limit < place.consumed → next' place = none

section

variable {α : Type} {limit : Nat} {mark : Char} {rest other : List Char} {next next' : Cursor → Option α}

theorem Reaches.consumed_le {pattern : Pattern} {place later : Cursor}
    (reach : Reaches pattern place later) : place.consumed ≤ later.consumed := by
  obtain ⟨taken, -, count⟩ := reach.spans
  omega

theorem run?_beyond (beyond : ∀ place, limit < place.consumed → next place = none) {pattern : Pattern}
    {place : Cursor} (behind : limit < place.consumed) : run? pattern place next = none := by
  cases found : run? pattern place next with
  | none => rfl
  | some result =>
    obtain ⟨later, reach, ends⟩ := reaches_of_run? found
    rw [beyond later (Nat.lt_of_lt_of_le behind reach.consumed_le)] at ends
    cases ends

theorem repeatBody_beyond (beyond : ∀ place, limit < place.consumed → next place = none) {body : Pattern}
    {bound : Nat} {place : Cursor} (behind : limit < place.consumed) :
    repeatBody (fun from_ inner => run? body from_ inner) next bound place = none := by
  induction bound generalizing place with
  | zero => exact beyond place behind
  | succ bound ih =>
    have onward : run? body place (fun later => if place.consumed < later.consumed then
        repeatBody (fun from_ inner => run? body from_ inner) next bound later else none) = none :=
      run?_beyond (fun later further => by rw [ih further, ite_self]) behind
    rw [repeatBody, onward, beyond place behind]

variable {before : Option Char} {front : List Char} {consumed : Nat} {captured : List (String × List Char)}

theorem overRun_agree (agree : Agree limit (mark :: rest) (mark :: other) next next')
    (accepts : Char → Bool) (least : Nat) (here : consumed + front.length = limit) :
    overRun accepts captured next least before (front ++ mark :: rest) consumed =
      overRun accepts captured next' least before (front ++ mark :: other) consumed := by
  induction front generalizing least before consumed with
  | nil =>
    have last : limit < consumed + 1 := Nat.lt_succ_of_le (Nat.le_of_eq here.symm)
    have fails : overRun accepts captured next (least - 1) (some mark) rest (consumed + 1) = none :=
      @run?_beyond _ _ _ agree.beyond (.run accepts (least - 1)) ⟨_, _, _, _⟩ last
    have fails' : overRun accepts captured next' (least - 1) (some mark) other (consumed + 1) = none :=
      @run?_beyond _ _ _ agree.beyond' (.run accepts (least - 1)) ⟨_, _, _, _⟩ last
    have stop := agree.inside before [] consumed captured here
    simp only [List.nil_append] at stop
    simp only [List.nil_append, overRun, fails, fails', stop]
  | cons c front ih =>
    have stop := agree.inside before (c :: front) consumed captured here
    simp only [List.cons_append] at stop
    simp only [List.cons_append, overRun, stop]
    rw [ih _ (by simp only [List.length_cons] at here; omega)]

theorem overShortRun_agree (agree : Agree limit (mark :: rest) (mark :: other) next next')
    (accepts : Char → Bool) (here : consumed + front.length = limit) :
    overShortRun accepts captured next before (front ++ mark :: rest) consumed =
      overShortRun accepts captured next' before (front ++ mark :: other) consumed := by
  induction front generalizing before consumed with
  | nil =>
    have last : limit < consumed + 1 := Nat.lt_succ_of_le (Nat.le_of_eq here.symm)
    have fails : overShortRun accepts captured next (some mark) rest (consumed + 1) = none :=
      @run?_beyond _ _ _ agree.beyond (.shortRun accepts) ⟨_, _, _, _⟩ last
    have fails' : overShortRun accepts captured next' (some mark) other (consumed + 1) = none :=
      @run?_beyond _ _ _ agree.beyond' (.shortRun accepts) ⟨_, _, _, _⟩ last
    have stop := agree.inside before [] consumed captured here
    simp only [List.nil_append] at stop
    simp only [List.nil_append, overShortRun, fails, fails', stop]
  | cons c front ih =>
    have stop := agree.inside before (c :: front) consumed captured here
    simp only [List.cons_append] at stop
    simp only [List.cons_append, overShortRun, stop]
    rw [ih (by simp only [List.length_cons] at here; omega)]

theorem repeatBody_agree {body : Pattern}
    (step : ∀ {next next' : Cursor → Option α} {before front consumed captured},
      Agree limit (mark :: rest) (mark :: other) next next' → consumed + front.length = limit →
      run? body ⟨before, front ++ mark :: rest, consumed, captured⟩ next =
        run? body ⟨before, front ++ mark :: other, consumed, captured⟩ next')
    (agree : Agree limit (mark :: rest) (mark :: other) next next') {size bound bound' : Nat}
    (short : front.length < size) (enough : size ≤ bound) (enough' : size ≤ bound')
    (here : consumed + front.length = limit) :
    repeatBody (fun from_ inner => run? body from_ inner) next bound
        ⟨before, front ++ mark :: rest, consumed, captured⟩ =
      repeatBody (fun from_ inner => run? body from_ inner) next' bound'
        ⟨before, front ++ mark :: other, consumed, captured⟩ := by
  induction size generalizing bound bound' before front consumed captured with
  | zero => cases short
  | succ size ih =>
    obtain ⟨bound, rfl⟩ := Nat.exists_eq_succ_of_ne_zero (Nat.ne_zero_of_lt enough)
    obtain ⟨bound', rfl⟩ := Nat.exists_eq_succ_of_ne_zero (Nat.ne_zero_of_lt enough')
    have onward : Agree limit (mark :: rest) (mark :: other)
        (fun later => if consumed < later.consumed then
          repeatBody (fun from_ inner => run? body from_ inner) next bound later else none)
        (fun later => if consumed < later.consumed then
          repeatBody (fun from_ inner => run? body from_ inner) next' bound' later else none) := by
      refine ⟨fun before' front' consumed' captured' there => ?_, fun place behind => ?_,
        fun place behind => ?_⟩
      · by_cases further : consumed < consumed'
        · simp only [if_pos further]
          exact ih (by omega) (by omega) (by omega) there
        · simp only [if_neg further]
      · simp only [repeatBody_beyond agree.beyond behind, ite_self]
      · simp only [repeatBody_beyond agree.beyond' behind, ite_self]
    simp only [repeatBody, step onward here, agree.inside before front consumed captured here]

theorem run?_agree {pattern : Pattern} (blind : pattern.looksAhead = false)
    (agree : Agree limit (mark :: rest) (mark :: other) next next')
    (here : consumed + front.length = limit) :
    run? pattern ⟨before, front ++ mark :: rest, consumed, captured⟩ next =
      run? pattern ⟨before, front ++ mark :: other, consumed, captured⟩ next' := by
  have stays := agree.inside before front consumed captured here
  induction pattern generalizing next next' before front consumed captured with
  | empty => exact stays
  | char accepts =>
    cases front with
    | nil =>
      have last : limit < consumed + 1 := Nat.lt_succ_of_le (Nat.le_of_eq here.symm)
      simp only [run?, List.nil_append, agree.beyond ⟨some mark, rest, consumed + 1, captured⟩ last,
        agree.beyond' ⟨some mark, other, consumed + 1, captured⟩ last]
    | cons c front =>
      have onward := agree.inside (some c) front (consumed + 1) captured
        (by simp only [List.length_cons] at here; omega)
      simp only [run?, List.cons_append, onward]
  | run accepts least => exact overRun_agree agree accepts least here
  | shortRun accepts => exact overShortRun_agree agree accepts here
  | seq first second ihFirst ihSecond =>
    simp only [looksAhead, Bool.or_eq_false_iff] at blind
    have onward : Agree limit (mark :: rest) (mark :: other) (fun middle => run? second middle next)
        (fun middle => run? second middle next') :=
      ⟨fun before front consumed captured there =>
        ihSecond blind.2 agree there (agree.inside before front consumed captured there),
        fun place behind => run?_beyond agree.beyond behind,
        fun place behind => run?_beyond agree.beyond' behind⟩
    exact ihFirst blind.1 onward here (onward.inside before front consumed captured here)
  | either first second ihFirst ihSecond =>
    simp only [looksAhead, Bool.or_eq_false_iff] at blind
    simp only [run?, ihFirst blind.1 agree here stays, ihSecond blind.2 agree here stays]
  | many body ih =>
    refine repeatBody_agree (fun agree there => ih blind agree there (agree.inside _ _ _ _ there)) agree
      (Nat.lt_succ_self front.length) ?_ ?_ here <;>
    · simp only [List.length_append, List.length_cons]
      omega
  | capture label body ih =>
    -- what is captured ends in front of the mark, so it is the same text in both runs
    have onward : Agree limit (mark :: rest) (mark :: other)
        (fun later => next { later with
          captured := (label, (front ++ mark :: rest).take (later.consumed - consumed)) :: later.captured })
        (fun later => next' { later with
          captured := (label, (front ++ mark :: other).take (later.consumed - consumed)) ::
            later.captured }) := by
      refine ⟨fun before' front' consumed' captured' there => ?_, fun place behind => agree.beyond _ behind,
        fun place behind => agree.beyond' _ behind⟩
      have inside : consumed' - consumed ≤ front.length := by omega
      simp only [List.take_append_of_le_length inside]
      exact agree.inside _ _ _ _ there
    exact ih blind onward here (onward.inside before front consumed captured here)
  | after accepts | notAfter accepts => simp only [run?, stays]
  | ahead body => cases blind
  | notAhead accepts | edge =>
    have head : (front ++ mark :: rest).head? = (front ++ mark :: other).head? := by
      cases front <;> rfl
    simp only [run?, head, stays]
  | finish => simp [run?]

end

/-! Matches in front of a mark. -/

/-- Wherever in front of the rest the pattern begins, it ends in front of the rest. -/
def Contained (pattern : Pattern) (front rest : List Char) : Prop :=
  ∀ before tail, tail <:+ front → ∀ later, Reaches pattern ⟨before, tail ++ rest, 0, []⟩ later →
    later.consumed ≤ tail.length

section

variable {pattern : Pattern} {front : List Char} {mark : Char} {rest other : List Char}

theorem Contained.of_suffix {tail : List Char} (contained : Contained pattern front rest)
    (inside : tail <:+ front) : Contained pattern tail rest :=
  fun before later here => contained before later (here.trans inside)

theorem Contained.matchAt_eq (blind : pattern.looksAhead = false)
    (first : Contained pattern front (mark :: rest)) (second : Contained pattern front (mark :: other))
    (before : Option Char) :
    pattern.matchAt before (front ++ mark :: rest) = pattern.matchAt before (front ++ mark :: other) := by
  let guarded : Cursor → Option Match := fun place =>
    if place.consumed ≤ front.length then some ⟨place.consumed, place.captured⟩ else none
  -- no place behind the mark is reached, so the guard changes nothing
  have kept : ∀ rest, Contained pattern front rest → pattern.matchAt before (front ++ rest) =
      pattern.run? ⟨before, front ++ rest, 0, []⟩ guarded := by
    intro rest contained
    refine (run?_map fun later reach => ?_).trans Option.map_id'
    rw [Option.map_id']
    exact (if_pos (contained before front List.suffix_rfl later reach)).symm
  have beyond : ∀ place, front.length < place.consumed → guarded place = none :=
    fun place behind => if_neg (Nat.not_le.mpr behind)
  have agree : Agree front.length (mark :: rest) (mark :: other) guarded guarded :=
    ⟨fun _ _ _ _ _ => rfl, beyond, beyond⟩
  rw [kept _ first, kept _ second]
  exact run?_agree blind agree (Nat.zero_add _)

theorem Contained.length_le (contained : Contained pattern front rest) {before : Option Char}
    {found : Match} (matched : pattern.matchAt before (front ++ rest) = some found) :
    found.length ≤ front.length := by
  obtain ⟨later, reach, length, -⟩ := matchAt_sound matched
  rw [length]
  exact contained before front List.suffix_rfl later reach

variable {ι : Type} {behind : ι → List Char}

/-- A search finds the same place in front of the mark, or none there, whatever stands behind it. -/
theorem searchFrom_front (blind : pattern.looksAhead = false)
    (contained : ∀ i, Contained pattern front (mark :: behind i)) (base : ι) (before : Option Char) :
    (∃ found tail, tail ≠ [] ∧ ∀ i, pattern.searchFrom before (front ++ mark :: behind i) =
        some (found, tail ++ mark :: behind i)) ∨
      ∀ i, pattern.searchFrom before (front ++ mark :: behind i) =
        pattern.searchFrom (front.getLast?.or before) (mark :: behind i) := by
  induction front generalizing before with
  | nil => exact .inr fun i => rfl
  | cons c front ih =>
    have same : ∀ i, pattern.matchAt before (c :: front ++ mark :: behind i) =
        pattern.matchAt before (c :: front ++ mark :: behind base) := fun i =>
      (contained i).matchAt_eq blind (contained base) before
    simp only [List.cons_append] at same
    cases here : pattern.matchAt before (c :: (front ++ mark :: behind base)) with
    | some found =>
      exact .inl ⟨found, c :: front, List.cons_ne_nil _ _, fun i => by
        rw [List.cons_append, searchFrom, same i, here]⟩
    | none =>
      rcases ih (fun i => (contained i).of_suffix (List.suffix_cons c front)) (some c) with
        ⟨found, tail, nonempty, all⟩ | all
      · exact .inl ⟨found, tail, nonempty, fun i => by
          rw [List.cons_append, searchFrom, same i, here, all i]⟩
      · exact .inr fun i => by
          rw [List.cons_append, searchFrom, same i, here, all i, getLast?_cons_or]

theorem matchesFrom_front (blind : pattern.looksAhead = false)
    (contained : ∀ i, Contained pattern front (mark :: behind i)) (base : ι) {skip : Nat}
    (short : skip ≤ front.length) (before : Option Char) :
    ∃ found, ∀ i, pattern.matchesFrom skip before (front ++ mark :: behind i) =
      found ++ pattern.matchesFrom 0 (front.getLast?.or before) (mark :: behind i) := by
  induction front generalizing skip before with
  | nil =>
    rw [Nat.le_zero.mp short]
    exact ⟨[], fun i => rfl⟩
  | cons c front ih =>
    have later : ∀ {skip}, skip ≤ front.length → _ := fun {skip} short =>
      @ih (fun i => (contained i).of_suffix (List.suffix_cons c front)) skip short (some c)
    have same : ∀ i, pattern.matchAt before (c :: front ++ mark :: behind i) =
        pattern.matchAt before (c :: front ++ mark :: behind base) := fun i =>
      (contained i).matchAt_eq blind (contained base) before
    simp only [List.cons_append] at same
    cases skip with
    | succ skip =>
      obtain ⟨found, all⟩ := later (Nat.le_of_succ_le_succ short)
      exact ⟨found, fun i => by rw [List.cons_append, matchesFrom, all i, getLast?_cons_or]⟩
    | zero =>
      cases here : pattern.matchAt before (c :: (front ++ mark :: behind base)) with
      | none =>
        obtain ⟨found, all⟩ := later (Nat.zero_le _)
        exact ⟨found, fun i => by
          rw [List.cons_append, matchesFrom, same i, here, getLast?_cons_or]
          exact all i⟩
      | some first =>
        have within := (contained base).length_le here
        obtain ⟨length, captured⟩ := first
        cases length with
        | zero =>
          obtain ⟨found, all⟩ := later (Nat.zero_le _)
          exact ⟨found, fun i => by
            rw [List.cons_append, matchesFrom, same i, here, getLast?_cons_or]
            exact all i⟩
        | succ length =>
          obtain ⟨found, all⟩ := later (Nat.le_of_succ_le_succ within)
          exact ⟨⟨length + 1, captured⟩ :: found, fun i => by
            rw [List.cons_append, matchesFrom, same i, here, getLast?_cons_or]
            exact congrArg _ (all i)⟩

end

end DdlSchema.Text.Pattern
