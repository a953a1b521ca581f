import DdlSchema.Ddl.Fallback

/-! The dialects that are tried are those up to the first that accepts the text. -/

set_option autoImplicit false

namespace DdlSchema.Ddl

/-- A dialect with what it made of a text. -/
abbrev Attempt : Type := Dialect × Except Problem (List CreateTable)

def Fallback.attempts (result : Fallback) : List Attempt :=
  result.rejections.map (fun (dialect, problem) => (dialect, .error problem)) ++
    (result.accepted.map fun (dialect, tables) => (dialect, .ok tables)).toList

def accepts (read : Dialect → Except Problem (List CreateTable)) (dialect : Dialect) : Bool :=
  (read dialect).isOk

/-- The attempts that suffice: the dialects behind the first that accepts are never asked. -/
def tried (read : Dialect → Except Problem (List CreateTable)) (dialects : List Dialect) :
    List Attempt :=
  (dialects.take (dialects.findIdx (accepts read) + 1)).map fun dialect => (dialect, read dialect)

section

variable {read : Dialect → Except Problem (List CreateTable)} {dialect : Dialect}

theorem accepts_eq_true : accepts read dialect = true ↔ ∃ tables, read dialect = .ok tables := by
  cases outcome : read dialect <;> simp [accepts, Except.isOk, Except.toBool, outcome]

theorem accepts_eq_false : accepts read dialect = false ↔ ∃ problem, read dialect = .error problem := by
  cases outcome : read dialect <;> simp [accepts, Except.isOk, Except.toBool, outcome]

theorem tried_cons_ok (rest : List Dialect) {tables : List CreateTable}
    (outcome : read dialect = .ok tables) : tried read (dialect :: rest) = [(dialect, .ok tables)] := by
  have accepted : accepts read dialect = true := accepts_eq_true.mpr ⟨tables, outcome⟩
  simp [tried, List.findIdx_cons, accepted, outcome]

theorem tried_cons_error (rest : List Dialect) {problem : Problem}
    (outcome : read dialect = .error problem) :
    tried read (dialect :: rest) = (dialect, .error problem) :: tried read rest := by
  have refused : accepts read dialect = false := accepts_eq_false.mpr ⟨problem, outcome⟩
  simp [tried, List.findIdx_cons, refused, outcome]

theorem Fallback.attempts_reject (problem : Problem) (later : Fallback) :
    (later.reject dialect problem).attempts = (dialect, .error problem) :: later.attempts := by
  simp [attempts, reject]

theorem tryDialects_ok (rest : List Dialect) {tables : List CreateTable}
    (outcome : read dialect = .ok tables) :
    tryDialects read (dialect :: rest) = ⟨[], some (dialect, tables)⟩ := by
  simp [tryDialects, outcome]

theorem tryDialects_error (rest : List Dialect) {problem : Problem}
    (outcome : read dialect = .error problem) :
    tryDialects read (dialect :: rest) = (tryDialects read rest).reject dialect problem := by
  simp [tryDialects, outcome]

theorem attempts_tryDialects (read : Dialect → Except Problem (List CreateTable))
    (dialects : List Dialect) : (tryDialects read dialects).attempts = tried read dialects := by
  induction dialects with
  | nil => rfl
  | cons dialect rest ih =>
    cases outcome : read dialect with
    | ok tables => rw [tryDialects_ok rest outcome, tried_cons_ok rest outcome]; rfl
    | error problem =>
      rw [tryDialects_error rest outcome, Fallback.attempts_reject, ih, tried_cons_error rest outcome]

theorem accepted_of_find? {dialects : List Dialect} {tables : List CreateTable}
    (first : dialects.find? (accepts read) = some dialect) (outcome : read dialect = .ok tables) :
    (tryDialects read dialects).accepted = some (dialect, tables) := by
  induction dialects with
  | nil => cases first
  | cons other rest ih =>
    cases asked : read other with
    | ok others =>
      rw [List.find?_cons_of_pos (accepts_eq_true.mpr ⟨others, asked⟩)] at first
      cases first
      rw [tryDialects_ok rest outcome]
    | error problem =>
      rw [List.find?_cons_of_neg (by simp [accepts_eq_false.mpr ⟨problem, asked⟩])] at first
      rw [tryDialects_error rest asked]
      exact ih first

theorem accepted_of_refused {dialects : List Dialect}
    (refused : ∀ dialect ∈ dialects, accepts read dialect = false) :
    (tryDialects read dialects).accepted = none := by
  induction dialects with
  | nil => rfl
  | cons dialect rest ih =>
    obtain ⟨problem, outcome⟩ := accepts_eq_false.mp (refused dialect List.mem_cons_self)
    rw [tryDialects_error rest outcome]
    exact ih fun other member => refused other (List.mem_cons_of_mem _ member)

theorem error_of_mem_dropLast_tried {dialects : List Dialect} {attempt : Attempt}
    (member : attempt ∈ (tried read dialects).dropLast) : ∃ problem, attempt.2 = .error problem := by
  induction dialects with
  | nil => simp [tried] at member
  | cons dialect rest ih =>
    cases outcome : read dialect with
    | ok tables => simp [tried_cons_ok rest outcome] at member
    | error problem =>
      rw [tried_cons_error rest outcome] at member
      cases later : tried read rest with
      | nil => simp [later] at member
      | cons next others =>
        rw [later, List.dropLast_cons_of_ne_nil (List.cons_ne_nil _ _), ← later] at member
        rcases List.mem_cons.mp member with rfl | inside
        · exact ⟨problem, rfl⟩
        · exact ih inside

theorem getLast?_tried_of_find? {dialects : List Dialect}
    (first : dialects.find? (accepts read) = some dialect) :
    (tried read dialects).getLast? = some (dialect, read dialect) := by
  induction dialects with
  | nil => cases first
  | cons other rest ih =>
    cases asked : read other with
    | ok others =>
      rw [List.find?_cons_of_pos (accepts_eq_true.mpr ⟨others, asked⟩)] at first
      cases first
      rw [tried_cons_ok rest asked, asked]
      rfl
    | error problem =>
      rw [List.find?_cons_of_neg (by simp [accepts_eq_false.mpr ⟨problem, asked⟩])] at first
      rw [tried_cons_error rest asked, List.getLast?_cons, ih first]
      rfl

theorem tried_of_refused {dialects : List Dialect}
    (refused : ∀ dialect ∈ dialects, accepts read dialect = false) :
    tried read dialects = dialects.map fun dialect => (dialect, read dialect) := by
  have behind : dialects.findIdx (accepts read) = dialects.length :=
    List.findIdx_eq_length.mpr refused
  rw [tried, behind, List.take_of_length_le (Nat.le_succ _)]

/-- The last of the attempts that all failed is the one that is reported. -/
theorem errors_eq_of_refused {result : Fallback} (none : result.accepted = none) {problem : Problem}
    (last : result.attempts.getLast? = some (dialect, .error problem)) :
    result.errors = errorReport problem.message := by
  have rejected : result.rejections.getLast? = some (dialect, problem) := by
    simp only [Fallback.attempts, none, Option.map_none, Option.toList_none, List.append_nil,
      List.getLast?_map, Option.map_eq_some_iff, Prod.mk.injEq, Except.error.injEq] at last
    obtain ⟨⟨other, said⟩, found, rfl, rfl⟩ := last
    exact found
  simp [Fallback.errors, none, rejected]

theorem errorReport_ne_nil (message : String) : errorReport message ≠ [] := List.cons_ne_nil _ _

/-- A list of dialects that was asked for has at least one. -/
theorem ne_nil_of_resolveDialects {names : Option (List String)} {dialects : List Dialect}
    (resolved : resolveDialects names = .ok dialects) : dialects ≠ [] := by
  cases names with
  | none => cases resolved; decide
  | some names =>
    simp only [resolveDialects, bind, Except.bind] at resolved
    split at resolved
    · cases resolved
    · split at resolved
      · cases resolved
      · next found =>
        cases resolved
        simpa using found

end

end DdlSchema.Ddl
