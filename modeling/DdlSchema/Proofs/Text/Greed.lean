import DdlSchema.Proofs.Text.Finding

/-! How far a match goes. A run of characters takes all it can get, so that what follows a match is known
where the pattern ends with one. -/

set_option autoImplicit false

namespace DdlSchema.Text.Pattern

/-- Behind a word there is an edge just if no word character follows. -/
theorem Reaches.edge_iff {pattern : Pattern} {place later : Cursor} {word : List Char}
    (reach : Reaches pattern place later) (spans : Spans place later word) (some_ : word ≠ [])
    (letters : ∀ c ∈ word, isWordChar c = true) :
    Reaches .edge later later ↔ later.rest.head?.any isWordChar = false := by
  have last : later.before.any isWordChar = true := by
    rw [reach.before spans, List.getLast?_eq_some_getLast some_]
    exact letters _ (List.getLast_mem some_)
  rw [Reaches, last, and_iff_left rfl, ne_eq, eq_comm, Bool.not_eq_true]

/-! Where the first way that fits ends, if nothing has to follow. -/

section

variable {α : Type}

def EndsAt (holds : Cursor → Prop) (pattern : Pattern) : Prop :=
  ∀ ⦃α : Type⦄ ⦃place : Cursor⦄ ⦃next : Cursor → Option α⦄ ⦃result : α⦄,
    (∀ later, (next later).isSome = true) → run? pattern place next = some result →
    ∃ later, Reaches pattern place later ∧ holds later ∧ next later = some result

variable {holds weaker : Cursor → Prop} {first second pattern : Pattern}

theorem EndsAt.imp (follows : ∀ later, holds later → weaker later) (ends : EndsAt holds pattern) :
    EndsAt weaker pattern := by
  intro α place next result total found
  obtain ⟨later, reach, here, same⟩ := ends total found
  exact ⟨later, reach, follows later here, same⟩

theorem endsAt_of_reaches (all : ∀ place later, Reaches pattern place later → holds later) :
    EndsAt holds pattern := by
  intro α place next result _ found
  obtain ⟨later, reach, same⟩ := reaches_of_run? found
  exact ⟨later, reach, all place later reach, same⟩

theorem EndsAt.seq (first : Pattern) (ends : EndsAt holds second) : EndsAt holds (.seq first second) := by
  intro α place next result total found
  have found : run? first place (fun middle => run? second middle next) = some result := found
  obtain ⟨middle, reach, found⟩ := reaches_of_run? found
  obtain ⟨later, last, here, same⟩ := ends total found
  exact ⟨later, ⟨middle, reach, last⟩, here, same⟩

theorem EndsAt.either (left : EndsAt holds first) (right : EndsAt holds second) :
    EndsAt holds (.either first second) := by
  intro α place next result total found
  simp only [run?] at found
  split at found
  · next same =>
    cases found
    obtain ⟨later, reach, here, same⟩ := left total same
    exact ⟨later, .inl reach, here, same⟩
  · obtain ⟨later, reach, here, same⟩ := right total found
    exact ⟨later, .inr reach, here, same⟩

theorem overRun_maximal {accepts : Char → Bool} {captured : List (String × List Char)}
    {next : Cursor → Option α} {result : α} (total : ∀ later, (next later).isSome = true) {least : Nat}
    {before : Option Char} {rest : List Char} {consumed : Nat}
    (found : overRun accepts captured next least before rest consumed = some result) :
    ∃ taken after, rest = taken ++ after ∧ (∀ c ∈ taken, accepts c = true) ∧ least ≤ taken.length ∧
      after.head?.any accepts = false ∧
      next (Cursor.past ⟨before, rest, consumed, captured⟩ taken) = some result := by
  induction rest generalizing least before consumed with
  | nil =>
    simp only [overRun] at found
    split at found
    · next enough => exact ⟨[], [], rfl, by simp, by simp [enough], rfl, by rwa [Cursor.past_nil]⟩
    · cases found
  | cons c rest ih =>
    simp only [overRun] at found
    split at found
    · next accepted =>
      split at found
      · next same =>
        cases found
        obtain ⟨taken, after, rfl, all, enough, stops, ends⟩ := ih same
        refine ⟨c :: taken, after, rfl, ?_, ?_, stops, ?_⟩
        · simpa [accepted] using all
        · simp only [List.length_cons]
          omega
        · rwa [Cursor.past_cons]
      · -- a run that gives this character back has too few of them either way
        next none =>
        split at found
        · next enough =>
          have more : (overRun accepts captured next (least - 1) (some c) rest (consumed + 1)).isSome =
              true := overRun_isSome List.nil_prefix (by simp) (by omega) (total _)
          rw [none] at more
          cases more
        · cases found
    · next refused =>
      split at found
      · next enough =>
        exact ⟨[], c :: rest, rfl, by simp, by simp [enough], by simpa using refused,
          by rwa [Cursor.past_nil]⟩
      · cases found

theorem endsAt_run (accepts : Char → Bool) (least : Nat) :
    EndsAt (fun later => later.rest.head?.any accepts = false) (.run accepts least) := by
  intro α place next result total found
  obtain ⟨taken, after, here, all, enough, stops, ends⟩ := overRun_maximal total found
  have left : (place.past taken).rest.head?.any accepts = false := by rwa [rest_past here]
  exact ⟨place.past taken, ⟨taken, ⟨after, here.symm⟩, all, enough, rfl⟩, left, ends⟩

theorem run?_optional_isSome (body : Pattern) {place : Cursor} {next : Cursor → Option α}
    (total : ∀ later, (next later).isSome = true) : (run? (optional body) place next).isSome = true := by
  simp only [optional, run?]
  split
  · rfl
  · exact total place

/-- The part behind a run starts where the run could take no more, if it can always be left out. -/
theorem endsAt_run_optional {accepts : Char → Bool} {least : Nat} {body : Pattern}
    (skipped : ∀ later, later.rest.head?.any accepts = false → holds later)
    (taken : ∀ place later, Reaches body place later → holds later) :
    EndsAt holds (.seq (.run accepts least) (optional body)) := by
  intro α place next result total found
  have found : run? (.run accepts least) place (fun middle => run? (optional body) middle next) =
      some result := found
  obtain ⟨middle, reach, stops, found⟩ :=
    endsAt_run accepts least (fun later => run?_optional_isSome body total) found
  obtain ⟨later, last, same⟩ := reaches_of_run? found
  refine ⟨later, ⟨middle, reach, last⟩, ?_, same⟩
  rcases last with last | rfl
  · exact taken middle later last
  · exact skipped later stops

theorem EndsAt.matchesAt (ends : EndsAt holds pattern) {front taken rest : List Char}
    {found : Match} (matched : pattern.matchAt front.getLast? (taken ++ rest) = some found)
    (long : found.length = taken.length) :
    ∃ later, Reaches pattern ⟨front.getLast?, taken ++ rest, 0, []⟩ later ∧ later.rest = rest ∧
      later.before = taken.getLast?.or front.getLast? ∧ holds later := by
  obtain ⟨later, reach, here, same⟩ := ends (fun _ => rfl) matched
  cases same
  obtain ⟨own, spans⟩ := reach.spans
  obtain ⟨rfl, same⟩ := List.append_inj spans.1 (long.symm.trans spans.consumed_eq)
  exact ⟨later, reach, same.symm, reach.before spans, here⟩

end

end DdlSchema.Text.Pattern
