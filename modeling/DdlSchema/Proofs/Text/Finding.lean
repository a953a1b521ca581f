import DdlSchema.Proofs.Text.Matching

/-! A pattern that repeats no part comes back to every choice: if it can end at a place where what follows
succeeds, a run of it succeeds. So whether it matches is a matter of the places that it reaches. -/

set_option autoImplicit false

namespace DdlSchema.Text

namespace Pattern

/-- No part of the pattern is repeated, characters of a class aside. -/
def repeatsNone : Pattern → Bool
  | .seq first second | .either first second => first.repeatsNone && second.repeatsNone
  | .many _ => false
  | .capture _ body | .ahead body => body.repeatsNone
  | _ => true

section

variable {α : Type} {next : Cursor → Option α}

theorem overRun_isSome {accepts : Char → Bool} {captured : List (String × List Char)} {least : Nat}
    {before : Option Char} {rest taken : List Char} {consumed : Nat} (start : taken <+: rest)
    (all : ∀ c ∈ taken, accepts c = true) (enough : least ≤ taken.length)
    (ends : (next (Cursor.past ⟨before, rest, consumed, captured⟩ taken)).isSome = true) :
    (overRun accepts captured next least before rest consumed).isSome = true := by
  induction taken generalizing least before rest consumed with
  | nil =>
    have none : least = 0 := by simpa using enough
    rw [Cursor.past_nil] at ends
    cases rest with
    | nil => simpa [overRun, none] using ends
    | cons c rest =>
      simp only [overRun, none, if_true]
      split
      · split
        · rfl
        · exact ends
      · exact ends
  | cons c taken ih =>
    obtain ⟨rest, rfl⟩ := start
    have later : (overRun accepts captured next (least - 1) (some c) (taken ++ rest)
        (consumed + 1)).isSome = true := by
      refine ih ⟨rest, rfl⟩ (fun d member => all d (List.mem_cons_of_mem _ member)) ?_ ?_
      · simp only [List.length_cons] at enough
        omega
      · rwa [← Cursor.past_cons c (taken ++ rest) before]
    rw [List.cons_append, overRun, if_pos (all c List.mem_cons_self)]
    split
    · rfl
    · next none => simp [none] at later

theorem overShortRun_isSome {accepts : Char → Bool} {captured : List (String × List Char)}
    {before : Option Char} {rest taken : List Char} {consumed : Nat} (start : taken <+: rest)
    (all : ∀ c ∈ taken, accepts c = true)
    (ends : (next (Cursor.past ⟨before, rest, consumed, captured⟩ taken)).isSome = true) :
    (overShortRun accepts captured next before rest consumed).isSome = true := by
  induction taken generalizing before rest consumed with
  | nil =>
    rw [Cursor.past_nil] at ends
    cases rest with
    | nil => exact ends
    | cons c rest =>
      rw [overShortRun]
      split
      · rfl
      · next none => simp [none] at ends
  | cons c taken ih =>
    obtain ⟨rest, rfl⟩ := start
    rw [List.cons_append, overShortRun]
    split
    · rfl
    · rw [if_pos (all c List.mem_cons_self)]
      refine ih ⟨rest, rfl⟩ (fun d member => all d (List.mem_cons_of_mem _ member)) ?_
      rwa [← Cursor.past_cons c (taken ++ rest) before]

theorem run?_isSome {pattern : Pattern} (once : pattern.repeatsNone = true) {place later : Cursor}
    (reach : Reaches pattern place later) (ends : (next later).isSome = true) :
    (run? pattern place next).isSome = true := by
  induction pattern generalizing place later next with
  | empty =>
    cases reach
    exact ends
  | char accepts =>
    obtain ⟨c, rest, here, accepted, rfl⟩ := reach
    simpa [run?, here, accepted] using ends
  | run accepts least =>
    obtain ⟨taken, start, all, enough, rfl⟩ := reach
    exact overRun_isSome start all enough ends
  | shortRun accepts =>
    obtain ⟨taken, start, all, rfl⟩ := reach
    exact overShortRun_isSome start all ends
  | seq first second ihFirst ihSecond =>
    simp only [repeatsNone, Bool.and_eq_true] at once
    obtain ⟨middle, reach, later⟩ := reach
    exact ihFirst once.1 reach (ihSecond once.2 later ends)
  | either first second ihFirst ihSecond =>
    simp only [repeatsNone, Bool.and_eq_true] at once
    rw [run?]
    split
    · rfl
    · next none =>
      rcases reach with reach | reach
      · simpa [none] using ihFirst once.1 reach ends
      · exact ihSecond once.2 reach ends
  | many body => cases once
  | capture label body ih =>
    obtain ⟨inner, reach, rfl⟩ := reach
    exact ih once reach ends
  | after accepts =>
    obtain ⟨here, rfl⟩ := reach
    cases before : later.before with
    | none => simp [before] at here
    | some c => simpa [run?, before, show accepts c = true by simpa [before] using here] using ends
  | notAfter accepts =>
    obtain ⟨here, rfl⟩ := reach
    cases before : later.before with
    | none => simpa [run?, before] using ends
    | some c => simpa [run?, before, show accepts c = false by simpa [before] using here] using ends
  | ahead body ih =>
    obtain ⟨⟨inner, reach⟩, rfl⟩ := reach
    exact ih once reach ends
  | notAhead accepts =>
    obtain ⟨here, rfl⟩ := reach
    rwa [run?, if_neg (by simp [here])]
  | edge =>
    obtain ⟨apart, rfl⟩ := reach
    rwa [run?, if_pos (by simpa using apart)]
  | finish =>
    obtain ⟨here, rfl⟩ := reach
    simpa [run?, here] using ends

end

/-! Places that are reached. -/

theorem past_past (place : Cursor) (first second : List Char) :
    (place.past first).past second = place.past (first ++ second) := by
  simp only [Cursor.past, List.getLast?_append, Option.or_assoc, List.drop_drop, List.length_append,
    Nat.add_assoc]

theorem rest_past {place : Cursor} {taken rest : List Char} (here : place.rest = taken ++ rest) :
    (place.past taken).rest = rest := by
  simp [Cursor.past, here]

theorem run_unique {accepts : Char → Bool} {first second rest others : List Char}
    (all : ∀ c ∈ first, accepts c = true) (all' : ∀ c ∈ second, accepts c = true)
    (stops : rest.head?.any accepts = false) (stops' : others.head?.any accepts = false)
    (same : first ++ rest = second ++ others) : first = second ∧ rest = others := by
  have cut : ∀ {run rest : List Char}, (∀ c ∈ run, accepts c = true) → rest.head?.any accepts = false →
      (run ++ rest).takeWhile accepts = run := by
    intro run rest all stops
    rw [List.takeWhile_append_of_pos all]
    cases rest with
    | nil => simp
    | cons c rest =>
      rw [List.takeWhile_cons_of_neg (by simpa using stops), List.append_nil]
  have runs : first = second := by rw [← cut all stops, same, cut all' stops']
  subst runs
  exact ⟨rfl, List.append_cancel_left same⟩

theorem reaches_run {accepts : Char → Bool} {least : Nat} {place : Cursor} {taken rest : List Char}
    (here : place.rest = taken ++ rest) (all : ∀ c ∈ taken, accepts c = true)
    (enough : least ≤ taken.length) : Reaches (.run accepts least) place (place.past taken) :=
  ⟨taken, ⟨rest, here.symm⟩, all, enough, rfl⟩

theorem reaches_char {accepts : Char → Bool} {place : Cursor} {c : Char} {rest : List Char}
    (here : place.rest = c :: rest) (accepted : accepts c = true) :
    Reaches (.char accepts) place (place.past [c]) :=
  ⟨c, rest, here, accepted, by simp [Cursor.past, here]⟩

theorem reaches_letters {word : String} {place : Cursor} {taken rest : List Char}
    (here : place.rest = taken ++ rest)
    (same : List.Forall₂ (fun letter c => sameLetter letter c = true) word.toList taken) :
    Reaches (letters word) place (place.past taken) := by
  unfold letters
  generalize word.toList = word at same ⊢
  induction same generalizing place with
  | nil => exact place.past_nil
  | @cons letter c word taken first _ ih =>
    have step : (place.past [c]).rest = taken ++ rest := @rest_past place [c] _ here
    have later := ih step
    rw [past_past] at later
    exact reaches_ofList_cons.mpr ⟨_, reaches_char here first, later⟩

theorem matchAt_isSome_iff {pattern : Pattern} (once : pattern.repeatsNone = true)
    {before : Option Char} {text : List Char} :
    (pattern.matchAt before text).isSome = true ↔
      ∃ later, Reaches pattern ⟨before, text, 0, []⟩ later := by
  constructor
  · intro found
    obtain ⟨result, matched⟩ := Option.isSome_iff_exists.mp found
    obtain ⟨later, reach, -⟩ := matchAt_sound matched
    exact ⟨later, reach⟩
  · rintro ⟨later, reach⟩
    exact run?_isSome once reach rfl

/-- A search finds something if there is a match anywhere. -/
theorem search_isSome_iff {pattern : Pattern} {text : List Char} :
    (pattern.search text).isSome = true ↔
      ∃ front back, text = front ++ back ∧ (pattern.matchAt front.getLast? back).isSome = true := by
  have from_ : ∀ before, (pattern.searchFrom before text).isSome = true ↔ ∃ front back,
      text = front ++ back ∧ (pattern.matchAt (front.getLast?.or before) back).isSome = true := by
    induction text with
    | nil => simp [searchFrom]
    | cons c rest ih =>
      intro before
      rw [searchFrom]
      split
      · next found matched => simpa using ⟨[], c :: rest, rfl, by simp [matched]⟩
      · next none =>
        rw [ih]
        -- nothing matches here, so a match lies in the rest
        constructor
        · rintro ⟨front, back, rfl, found⟩
          exact ⟨c :: front, back, rfl, by rwa [getLast?_cons_or]⟩
        · rintro ⟨front, back, same, found⟩
          cases front with
          | nil =>
            rw [List.nil_append] at same
            rw [← same, List.getLast?_nil, Option.none_or, none] at found
            cases found
          | cons d front =>
            cases same
            exact ⟨front, back, rfl, by rwa [getLast?_cons_or] at found⟩
  simpa [search] using from_ none

/-! Removing all matches. -/

theorem replaceFrom_sublist (pattern : Pattern) (skip : Nat) (before : Option Char) (text : List Char) :
    List.Sublist (pattern.replaceFrom [] skip before text) text := by
  induction text generalizing skip before with
  | nil => cases skip <;> exact .slnil
  | cons c rest ih =>
    cases skip with
    | succ skip => exact (ih skip (some c)).cons c
    | zero =>
      rw [replaceFrom]
      split
      · exact (ih _ _).cons c
      · exact (ih _ _).cons_cons c

section

variable {pattern : Pattern} {text : List Char}

theorem replaceAll_of_search_eq_none (unfound : pattern.search text = none) :
    pattern.replaceAll [] text = text := by
  have from_ : ∀ before, pattern.searchFrom before text = none →
      pattern.replaceFrom [] 0 before text = text := by
    clear unfound
    induction text with
    | nil => exact fun _ _ => rfl
    | cons c rest ih =>
      intro before unfound
      rw [searchFrom] at unfound
      split at unfound
      · cases unfound
      · next missed => rw [replaceFrom, missed, ih _ unfound]
  exact from_ none unfound

/-- Where something is found, removing it makes the text shorter. -/
theorem replaceAll_length_lt
    (long : ∀ before text found, pattern.matchAt before text = some found → 0 < found.length)
    (found : (pattern.search text).isSome = true) : (pattern.replaceAll [] text).length < text.length := by
  have from_ : ∀ before, (pattern.searchFrom before text).isSome = true →
      (pattern.replaceFrom [] 0 before text).length < text.length := by
    clear found
    induction text with
    | nil =>
      intro before found
      rw [searchFrom, Option.isSome_map] at found
      obtain ⟨result, matched⟩ := Option.isSome_iff_exists.mp found
      obtain ⟨taken, later, split, length, -⟩ := matchAt_taken matched
      have none : taken = [] := (List.append_eq_nil_iff.mp split.symm).1
      have some_ := long _ _ _ matched
      rw [length, none] at some_
      exact absurd some_ (Nat.lt_irrefl 0)
    | cons c rest ih =>
      intro before found
      rw [searchFrom] at found
      rw [replaceFrom]
      cases matched : pattern.matchAt before (c :: rest) with
      | some result =>
        obtain ⟨length, captured⟩ := result
        cases length with
        | zero => exact absurd (long _ _ _ matched) (Nat.lt_irrefl 0)
        | succ length => exact Nat.lt_succ_of_le (replaceFrom_sublist _ _ _ _).length_le
      | none =>
        rw [matched] at found
        exact Nat.succ_lt_succ (ih _ found)
  exact from_ none found

end

end Pattern

end DdlSchema.Text
