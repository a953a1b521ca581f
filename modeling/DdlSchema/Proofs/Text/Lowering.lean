import DdlSchema.Text.Case

/-! Lower case is reached in one step: what a letter becomes stays as it is. The tables of letters are
checked run against run, so that the check is short. -/

set_option autoImplicit false

namespace DdlSchema.Text

/-! The letters that runs are for, and those that they lead to. -/

def CaseRun.maps (run : CaseRun) (n : Nat) : Bool :=
  run.first ≤ n && n ≤ run.last && (n - run.first) % run.step == 0

def CaseRun.width (run : CaseRun) : Nat := run.last - run.first

/-- Whether the letters that the run leads to lie before the first or behind the last. -/
def CaseRun.misses (run : CaseRun) (first last : Nat) : Bool :=
  (run.target + run.width).blt first || last.blt run.target

/-- Whether the other run is for none of the letters that the run leads to. -/
def CaseRun.endsOutside (run other : CaseRun) : Bool :=
  run.misses other.first other.last ||
    (List.range (run.width + 1)).all fun distance =>
      distance % run.step != 0 || !other.maps (run.target + distance)

theorem mapRun_eq_some {runs : List CaseRun} {n m : Nat} (found : mapRun runs n = some m) :
    ∃ run ∈ runs, ∃ distance ≤ run.width, distance % run.step = 0 ∧ n = run.first + distance ∧
      m = run.target + distance := by
  induction runs with
  | nil => cases found
  | cons run rest ih =>
    rw [mapRun] at found
    split at found
    · next here =>
      cases found
      simp only [Bool.and_eq_true, decide_eq_true_eq, beq_iff_eq] at here
      exact ⟨run, List.mem_cons_self, n - run.first, Nat.sub_le_sub_right here.1.2 _, here.2,
        (Nat.add_sub_cancel' here.1.1).symm, rfl⟩
    · obtain ⟨other, inside, ends⟩ := ih found
      exact ⟨other, List.mem_cons_of_mem _ inside, ends⟩

theorem mapRun_eq_none {runs : List CaseRun} {n : Nat} (apart : ∀ run ∈ runs, run.maps n = false) :
    mapRun runs n = none := by
  induction runs with
  | nil => rfl
  | cons run rest ih =>
    have here : run.maps n = false := apart run List.mem_cons_self
    rw [CaseRun.maps] at here
    rw [mapRun, here]
    exact ih fun other inside => apart other (List.mem_cons_of_mem _ inside)

section

variable {run other : CaseRun} {distance : Nat}

theorem CaseRun.lt_or_lt_of_misses {first last : Nat} (misses : run.misses first last = true)
    (near : distance ≤ run.width) : run.target + distance < first ∨ last < run.target + distance := by
  simp only [CaseRun.misses, Bool.or_eq_true, Nat.blt_eq] at misses
  omega

theorem CaseRun.maps_eq_false (outside : run.endsOutside other = true) (near : distance ≤ run.width)
    (step : distance % run.step = 0) : other.maps (run.target + distance) = false := by
  rw [endsOutside, Bool.or_eq_true] at outside
  rcases outside with misses | checked
  · have away := lt_or_lt_of_misses misses near
    simp only [maps, Bool.and_eq_false_iff, decide_eq_false_iff_not]
    omega
  · have here := List.all_eq_true.mp checked distance (List.mem_range.mpr (Nat.lt_succ_of_le near))
    simpa [step] using here

end

/-- No run leads to a letter that some run or expansion is for. -/
def endsChange (runs : List CaseRun) (expansions : List (Nat × List Nat)) : Bool :=
  runs.all fun run => runs.all run.endsOutside && expansions.all fun entry => run.misses entry.1 entry.1

theorem changeCase_cases (runs : List CaseRun) (expansions : List (Nat × List Nat)) (c : Char) :
    (∃ letters, (c.toNat, letters) ∈ expansions ∧ changeCase runs expansions c = letters.map Char.ofNat) ∨
    (∃ run ∈ runs, ∃ distance ≤ run.width, distance % run.step = 0 ∧ c.toNat = run.first + distance ∧
      changeCase runs expansions c = [Char.ofNat (run.target + distance)]) ∨
    (expansions.lookup c.toNat = none ∧ mapRun runs c.toNat = none ∧ changeCase runs expansions c = [c]) := by
  unfold changeCase
  cases whole : expansions.lookup c.toNat with
  | some letters =>
    obtain ⟨before, after, entries, -⟩ := List.lookup_eq_some_iff.mp whole
    exact .inl ⟨letters, by simp [entries], rfl⟩
  | none =>
    cases found : mapRun runs c.toNat with
    | some n =>
      obtain ⟨run, inside, distance, near, step, same, rfl⟩ := mapRun_eq_some found
      exact .inr (.inl ⟨run, inside, distance, near, step, same, rfl⟩)
    | none => exact .inr (.inr ⟨rfl, rfl, rfl⟩)

theorem changeCase_of_endsChange {runs : List CaseRun} {expansions : List (Nat × List Nat)}
    (ends : endsChange runs expansions = true) {run : CaseRun} (inside : run ∈ runs) {distance : Nat}
    (near : distance ≤ run.width) (step : distance % run.step = 0) {c : Char}
    (same : c.toNat = run.target + distance) : changeCase runs expansions c = [c] := by
  have own := List.all_eq_true.mp ends run inside
  rw [Bool.and_eq_true, List.all_eq_true, List.all_eq_true] at own
  have free : mapRun runs c.toNat = none := by
    rw [same]
    exact mapRun_eq_none fun other member => CaseRun.maps_eq_false (own.1 other member) near step
  have whole : expansions.lookup c.toNat = none := by
    refine List.lookup_eq_none_iff.mpr fun entry member => ?_
    have away := CaseRun.lt_or_lt_of_misses (own.2 entry member) near
    rw [bne_iff_ne]
    omega
  rw [changeCase, whole, free]

theorem lowerTables_end : endsChange lowerRuns lowerExpansions = true := by decide +kernel

set_option maxRecDepth 8000 in
/-- Beyond ASCII, runs lead to no ASCII letter but the small k, of the Kelvin sign. -/
theorem lowerRuns_ascii :
    (lowerRuns.all fun run => Nat.ble 0x80 run.target || run.target == 0x6b && run.width == 0) = true := rfl

/-! Letters that lower case leaves alone, wherever they stand. -/

def IsSmall (c : Char) : Prop := lowerChar c = [c] ∧ c.toNat ≠ 0x3a3

instance (c : Char) : Decidable (IsSmall c) := inferInstanceAs (Decidable (_ ∧ _))

theorem isSmall_ascii : ∀ n < 0x80, IsSmall (Char.ofNat n).toLower := by decide

theorem isSmall_expansions : ∀ entry ∈ lowerExpansions, ∀ n ∈ entry.2, IsSmall (Char.ofNat n) := by decide

theorem toNat_ofNat (n : Nat) : (Char.ofNat n).toNat = n ∨ Char.ofNat n = Char.ofNat 0 := by
  by_cases valid : n.isValidChar
  · exact Or.inl (by rw [Char.ofNat, dif_pos valid]; rfl)
  · exact Or.inr (by rw [Char.ofNat, dif_neg valid]; rfl)

/-- The capital sigma, which has two small forms, is where no run leads to. -/
theorem isSmall_mapped {run : CaseRun} (inside : run ∈ lowerRuns) {distance : Nat}
    (near : distance ≤ run.width) (step : distance % run.step = 0) :
    IsSmall (Char.ofNat (run.target + distance)) := by
  rcases toNat_ofNat (run.target + distance) with same | null
  · have stays := changeCase_of_endsChange lowerTables_end inside near step same
    refine ⟨?_, fun sigma => ?_⟩
    · have low := List.all_eq_true.mp lowerRuns_ascii run inside
      simp only [Bool.or_eq_true, Nat.ble_eq, Bool.and_eq_true, beq_iff_eq] at low
      rcases low with beyond | ⟨kelvin, alone⟩
      · rw [lowerChar, same, if_neg (by omega), stays]
      · rw [kelvin, show distance = 0 by omega]
        decide
    · have code : Char.ofNat (run.target + distance) = Char.ofNat 0x3a3 := by
        rw [← sigma, Char.ofNat_toNat]
      rw [code] at stays
      exact absurd stays (by decide)
  · rw [null]
    decide

theorem isSmall_lowerChar {c d : Char} (other : c.toNat ≠ 0x3a3) (member : d ∈ lowerChar c) :
    IsSmall d := by
  unfold lowerChar at member
  split at member
  · next ascii =>
    have small := isSmall_ascii c.toNat ascii
    rw [Char.ofNat_toNat] at small
    rwa [List.mem_singleton.mp member]
  · next beyond =>
    rcases changeCase_cases lowerRuns lowerExpansions c with
      ⟨letters, entry, same⟩ | ⟨run, inside, distance, near, step, -, same⟩ | ⟨-, -, same⟩
    · rw [same] at member
      obtain ⟨n, listed, rfl⟩ := List.mem_map.mp member
      exact isSmall_expansions _ entry n listed
    · rw [same] at member
      rw [List.mem_singleton.mp member]
      exact isSmall_mapped inside near step
    · rw [same] at member
      rw [List.mem_singleton.mp member]
      exact ⟨by rw [lowerChar, if_neg beyond, same], other⟩

theorem isSmall_lowerFrom {seen text : List Char} {d : Char} (member : d ∈ lowerFrom seen text) :
    IsSmall d := by
  induction text generalizing seen with
  | nil => cases member
  | cons c rest ih =>
    rw [lowerFrom] at member
    rcases List.mem_append.mp member with here | later
    · split at here
      · -- either form of the small sigma
        rw [List.mem_singleton.mp here]
        split <;> decide
      · next other => exact isSmall_lowerChar (by simpa using other) here
    · exact ih later

theorem lowerFrom_of_isSmall {seen text : List Char} (small : ∀ c ∈ text, IsSmall c) :
    lowerFrom seen text = text := by
  induction text generalizing seen with
  | nil => rfl
  | cons c rest ih =>
    have here := small c List.mem_cons_self
    have plain : (c.toNat == 0x3a3) = false := beq_eq_false_iff_ne.mpr here.2
    rw [lowerFrom, plain, ih fun d inside => small d (List.mem_cons_of_mem _ inside)]
    simp [here.1]

theorem lower_lower (text : List Char) : lower (lower text) = lower text :=
  lowerFrom_of_isSmall fun _ member => isSmall_lowerFrom member

@[simp] theorem lowerString_lowerString (text : String) :
    lowerString (lowerString text) = lowerString text := by
  simp only [lowerString, String.toList_ofList, lower_lower]

end DdlSchema.Text
