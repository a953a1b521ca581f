import DdlSchema.Proofs.Text.Lowering

/-! Upper case is reached in one step. As for lower case, the tables are checked pair by pair: no run leads to
a letter that some run or expansion is for. -/

set_option autoImplicit false

namespace DdlSchema.Text

theorem upperTables_end : endsChange upperRuns upperExpansions = true := by decide +kernel

set_option maxRecDepth 8000 in
/-- Beyond ASCII, runs lead to no ASCII letter but the I, of the dotless i, and the S, of the long s. -/
theorem upperRuns_ascii :
    (upperRuns.all fun run => Nat.ble 0x80 run.target ||
      (run.target == 0x49 || run.target == 0x53) && run.width == 0) = true := rfl

/-! Letters that upper case leaves alone. -/

def IsCapital (c : Char) : Prop := upperChar c = [c]

instance (c : Char) : Decidable (IsCapital c) := inferInstanceAs (Decidable (_ = _))

theorem isCapital_ascii : ∀ n < 0x80, IsCapital (Char.ofNat n).toUpper := by decide

theorem isCapital_expansions :
    (upperExpansions.all fun entry => entry.2.all fun n => decide (IsCapital (Char.ofNat n))) = true := by
  decide +kernel

theorem isCapital_mapped {run : CaseRun} (inside : run ∈ upperRuns) {distance : Nat}
    (near : distance ≤ run.width) (step : distance % run.step = 0) :
    IsCapital (Char.ofNat (run.target + distance)) := by
  rcases toNat_ofNat (run.target + distance) with same | null
  · have low := List.all_eq_true.mp upperRuns_ascii run inside
    simp only [Bool.or_eq_true, Nat.ble_eq, Bool.and_eq_true, beq_iff_eq] at low
    rcases low with beyond | ⟨ascii, alone⟩
    · have stays := changeCase_of_endsChange upperTables_end inside near step same
      rw [IsCapital, upperChar, same, if_neg (by omega), stays]
    · rw [show distance = 0 by omega]
      rcases ascii with letter | letter <;> rw [letter] <;> decide
  · rw [null]
    decide

theorem isCapital_of_mem_upperChar {c d : Char} (member : d ∈ upperChar c) : IsCapital d := by
  unfold upperChar at member
  split at member
  · next ascii =>
    have capital := isCapital_ascii c.toNat ascii
    rw [Char.ofNat_toNat] at capital
    rwa [List.mem_singleton.mp member]
  · next beyond =>
    rcases changeCase_cases upperRuns upperExpansions c with
      ⟨letters, entry, same⟩ | ⟨run, inside, distance, near, step, -, same⟩ | ⟨whole, none, same⟩
    · rw [same] at member
      obtain ⟨n, listed, rfl⟩ := List.mem_map.mp member
      exact of_decide_eq_true
        (List.all_eq_true.mp (List.all_eq_true.mp isCapital_expansions _ entry) n listed)
    · rw [same] at member
      rw [List.mem_singleton.mp member]
      exact isCapital_mapped inside near step
    · rw [same] at member
      rw [List.mem_singleton.mp member, IsCapital, upperChar, if_neg beyond, same]

theorem isCapital_of_mem_upper {text : List Char} {c : Char} (member : c ∈ upper text) : IsCapital c := by
  obtain ⟨d, -, here⟩ := List.mem_flatMap.mp member
  exact isCapital_of_mem_upperChar here

theorem upper_of_isCapital {text : List Char} (capital : ∀ c ∈ text, IsCapital c) : upper text = text := by
  induction text with
  | nil => rfl
  | cons c rest ih =>
    have first : upperChar c = [c] := capital c List.mem_cons_self
    have later : rest.flatMap upperChar = rest :=
      ih fun d member => capital d (List.mem_cons_of_mem _ member)
    rw [upper, List.flatMap_cons, first, later, List.singleton_append]

theorem upper_upper (text : List Char) : upper (upper text) = upper text :=
  upper_of_isCapital fun _ => isCapital_of_mem_upper

end DdlSchema.Text
