import Mathlib.Data.List.Forall2

/-! Readings that can fail, and lists of them. A list is read just if each of its entries is, and then the
results stand one for one behind the entries; from this follows what is used of such traversals. -/

set_option autoImplicit false

namespace DdlSchema.Schema

/-- There is no result. -/
def Fails {ε α : Type} (result : Except ε α) : Prop := ∃ problem, result = .error problem

section

variable {α β γ ε : Type}

@[simp] theorem fails_error (problem : ε) : Fails (.error problem : Except ε α) := ⟨problem, rfl⟩

@[simp] theorem not_fails_ok (value : α) : ¬ Fails (.ok value : Except ε α) := fun ⟨_, same⟩ => nomatch same

theorem not_fails_iff {result : Except ε α} : ¬ Fails result ↔ ∃ value, result = .ok value := by
  cases result <;> simp

@[simp] theorem fails_map {f : α → β} {result : Except ε α} : Fails (result.map f) ↔ Fails result := by
  cases result <;> simp [Except.map]

theorem map_eq_ok {f : α → β} {result : Except ε α} {value : β} (mapped : result.map f = .ok value) :
    ∃ before, result = .ok before ∧ f before = value := by
  cases result with
  | error problem => cases mapped
  | ok before => exact ⟨before, rfl, Except.ok.inj mapped⟩

theorem map_injective {f : α → β} (injective : ∀ x y, f x = f y → x = y) {first second : Except ε α}
    (same : first.map f = second.map f) : first = second := by
  cases second with
  | error problem =>
    cases first with
    | error other =>
      cases same
      rfl
    | ok value => cases same
  | ok value =>
    obtain ⟨other, rfl, equal⟩ := map_eq_ok same
    rw [injective other value equal]

theorem bind_eq_ok {result : Except ε α} {next : α → Except ε β} {value : β}
    (bound : (result >>= next) = .ok value) : ∃ before, result = .ok before ∧ next before = .ok value := by
  cases result with
  | error problem => cases bound
  | ok before => exact ⟨before, rfl, bound⟩

/-! Lists. -/

variable {f g : α → Except ε β} {entries front back : List α} {results : List β}

theorem mapM_eq_ok_iff :
    entries.mapM f = .ok results ↔
      List.Forall₂ (fun entry result => f entry = .ok result) entries results := by
  constructor
  · intro mapped
    induction entries generalizing results with
    | nil =>
      cases mapped
      exact .nil
    | cons entry rest ih =>
      rw [List.mapM_cons] at mapped
      obtain ⟨first, here, mapped⟩ := bind_eq_ok mapped
      obtain ⟨others, later, same⟩ := bind_eq_ok mapped
      cases same
      exact .cons here (ih later)
  · intro all
    induction all with
    | nil => rfl
    | cons here _ ih =>
      rw [List.mapM_cons, here, ih]
      rfl

/-- A list of results holds the result of some entry at each place. -/
theorem mem_of_mapM_eq_ok (mapped : entries.mapM f = .ok results) {result : β} (member : result ∈ results) :
    ∃ entry ∈ entries, f entry = .ok result := by
  have all := mapM_eq_ok_iff.mp mapped
  clear mapped
  induction all with
  | nil => cases member
  | @cons entry first rest others here _ ih =>
    rcases List.mem_cons.mp member with rfl | later
    · exact ⟨entry, List.mem_cons_self, here⟩
    · obtain ⟨other, inside, same⟩ := ih later
      exact ⟨other, List.mem_cons_of_mem _ inside, same⟩

theorem mapM_ok {value : α → β} (all : ∀ entry ∈ entries, f entry = .ok (value entry)) :
    entries.mapM f = .ok (entries.map value) :=
  mapM_eq_ok_iff.mpr (List.forall₂_map_right_iff.mpr (List.forall₂_same.mpr all))

theorem mapM_append_ok (mapped : (front ++ back).mapM f = .ok results) :
    ∃ fronts backs, front.mapM f = .ok fronts ∧ back.mapM f = .ok backs := by
  rw [List.mapM_append] at mapped
  obtain ⟨fronts, first, mapped⟩ := bind_eq_ok mapped
  obtain ⟨backs, last, -⟩ := bind_eq_ok mapped
  exact ⟨fronts, backs, first, last⟩

theorem mapM_around {fronts backs : List β} (first : front.mapM f = .ok fronts)
    (last : back.mapM f = .ok backs) (entry : α) :
    (front ++ entry :: back).mapM f = (f entry).map fun result => fronts ++ result :: backs := by
  rw [List.mapM_append, first, List.mapM_cons, last]
  cases f entry <;> rfl

theorem mapM_congr (all : ∀ entry ∈ entries, f entry = g entry) : entries.mapM f = entries.mapM g := by
  induction entries with
  | nil => rfl
  | cons entry rest ih =>
    obtain ⟨here, later⟩ := List.forall_mem_cons.mp all
    rw [List.mapM_cons, List.mapM_cons, here, ih later]

/-- What is done to each result can be done to all of them in the end. -/
theorem mapM_map_results (read : α → Except ε β) (single : β → γ) (entries : List α) :
    (entries.mapM fun entry => (read entry).map single) = (entries.mapM read).map (List.map single) := by
  induction entries with
  | nil => rfl
  | cons entry rest ih =>
    rw [List.mapM_cons, List.mapM_cons, ih]
    cases read entry with
    | error problem => rfl
    | ok first => cases rest.mapM read <;> rfl

theorem fails_mapM : Fails (entries.mapM f) ↔ ∃ entry ∈ entries, Fails (f entry) := by
  induction entries with
  | nil => simp [pure, Except.pure]
  | cons entry rest ih =>
    rw [List.mapM_cons, List.exists_mem_cons_iff, ← ih]
    cases f entry with
    | error problem => simp [bind, Except.bind]
    | ok value => cases rest.mapM f <;> simp [bind, Except.bind, pure, Except.pure]

theorem exists_mapM (read : ∀ entry ∈ entries, ∃ result, f entry = .ok result) :
    ∃ results, entries.mapM f = .ok results := by
  rw [← not_fails_iff, fails_mapM]
  rintro ⟨entry, member, failed⟩
  exact not_fails_iff.mpr (read entry member) failed

theorem fails_foldlM {step : β → α → Except ε β} {fits : α → Prop}
    (each : ∀ entry ∈ entries, ∀ state, Fails (step state entry) ↔ fits entry) (state : β) :
    Fails (entries.foldlM step state) ↔ ∃ entry ∈ entries, fits entry := by
  induction entries generalizing state with
  | nil => simp [pure, Except.pure]
  | cons entry rest ih =>
    obtain ⟨here, later⟩ := List.forall_mem_cons.mp each
    rw [List.foldlM_cons, List.exists_mem_cons_iff, ← here state]
    cases step state entry with
    | error problem => simp [bind, Except.bind]
    | ok next => simpa [bind, Except.bind] using ih later next

end

end DdlSchema.Schema
