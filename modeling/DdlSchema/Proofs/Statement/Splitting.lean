import DdlSchema.Statement.Prepared
import DdlSchema.Proofs.Text.Scanning

/-! No step from a script to its statements adds a character. -/

set_option autoImplicit false

namespace DdlSchema.Text

theorem trim_subset (text : List Char) : trim text ⊆ text := by
  intro c member
  simp only [trim, trimRight, trimLeft, List.mem_reverse] at member
  have inside := (List.dropWhile_sublist _).subset member
  exact (List.dropWhile_sublist _).subset (List.mem_reverse.mp inside)

end DdlSchema.Text

namespace DdlSchema.Statement

open DdlSchema.Text

theorem lexemesFrom_subset {skip : Nat} {before : Option Char} {text : List Char} {lexeme : Lexeme}
    (member : lexeme ∈ lexemesFrom skip before text) : lexeme.text ⊆ text := by
  induction text generalizing skip before with
  | nil => simp [lexemesFrom] at member
  | cons c rest ih =>
    cases skip with
    | succ skip => exact List.subset_cons_of_subset c (ih member)
    | zero =>
      rcases List.mem_cons.mp member with rfl | later
      · exact List.take_subset _ _
      · exact List.subset_cons_of_subset c (ih later)

theorem Progress.pieces_ite {pieces : List (List Char)} {first second : Progress} {test : Prop}
    [Decidable test] (yes : first.pieces = pieces) (no : second.pieces = pieces) :
    (if test then first else second).pieces = pieces := by
  split
  · exact yes
  · exact no

theorem Progress.pieces_keyword (progress : Progress) (word : String) :
    (progress.keyword word).pieces = progress.pieces := by
  unfold keyword
  refine pieces_ite rfl (pieces_ite (pieces_ite rfl rfl) (pieces_ite ?_ (pieces_ite rfl ?_)))
  · split <;> rfl
  · split
    · exact pieces_ite rfl rfl
    · refine pieces_ite rfl (pieces_ite rfl (pieces_ite rfl (pieces_ite rfl (pieces_ite rfl
        (pieces_ite rfl ?_)))))
      split <;> rfl

theorem Progress.pieces_read (progress : Progress) (lexeme : Lexeme) :
    (progress.read lexeme).pieces = lexeme.text :: progress.pieces := by
  -- a body that turns out to be a transaction is closed, which leaves the pieces as they are
  have closed : ∀ (progress : Progress) (test : Prop) [Decidable test],
      (if test then { progress.closeBlock with bodyBegan := false }
        else { progress with bodyBegan := false }).pieces = progress.pieces :=
    fun progress test _ => pieces_ite rfl rfl
  unfold read
  refine pieces_ite rfl (pieces_ite (pieces_ite ?_ (pieces_ite ?_ (pieces_ite ?_ ?_)))
    (pieces_ite (pieces_ite ?_ ?_) ?_))
  · exact closed _ _
  · exact closed _ _
  · exact closed _ _
  · exact closed _ _
  · exact (pieces_keyword _ _).trans (closed _ _)
  · exact (pieces_keyword _ _).trans (closed _ _)
  · exact closed _ _

theorem mem_splitLexemes {progress : Progress} {lexemes : List Lexeme} {statement : List Char}
    (member : statement ∈ splitLexemes progress lexemes) {c : Char} (inside : c ∈ statement) :
    c ∈ progress.pieces.flatten ∨ ∃ lexeme ∈ lexemes, c ∈ lexeme.text := by
  have whole : ∀ {progress : Progress}, c ∈ progress.text → c ∈ progress.pieces.flatten := by
    intro progress inside
    simpa [Progress.text] using trim_subset _ inside
  induction lexemes generalizing progress with
  | nil =>
    simp only [splitLexemes] at member
    split at member
    · cases member
    · rw [List.mem_singleton.mp member] at inside
      exact Or.inl (whole inside)
  | cons lexeme rest ih =>
    -- a lexeme adds its own characters to the statement at hand
    have read : ∀ progress : Progress, c ∈ (progress.read lexeme).pieces.flatten →
        c ∈ progress.pieces.flatten ∨ c ∈ lexeme.text := by
      intro progress inside
      rw [progress.pieces_read, List.flatten_cons, List.mem_append] at inside
      exact inside.symm
    simp only [splitLexemes] at member
    split at member
    · rcases List.mem_cons.mp member with rfl | later
      · exact Or.inl (whole inside)
      · rcases ih later with own | ⟨other, there, found⟩
        · rcases read _ own with nothing | here
          · cases nothing
          · exact Or.inr ⟨lexeme, List.mem_cons_self, here⟩
        · exact Or.inr ⟨other, List.mem_cons_of_mem _ there, found⟩
    · rcases ih member with own | ⟨other, there, found⟩
      · rcases read _ own with earlier | here
        · exact Or.inl earlier
        · exact Or.inr ⟨lexeme, List.mem_cons_self, here⟩
      · exact Or.inr ⟨other, List.mem_cons_of_mem _ there, found⟩

theorem split_subset {text statement : List Char} (member : statement ∈ split text) :
    statement ⊆ text := by
  intro c inside
  rcases mem_splitLexemes member inside with nothing | ⟨lexeme, there, found⟩
  · cases nothing
  · exact lexemesFrom_subset there found

theorem bare_subset (statement : List Char) : bare statement ⊆ statement := by
  intro c member
  have inside := List.mem_reverse.mp (trim_subset _ member)
  exact trim_subset _ (List.mem_reverse.mp ((List.dropWhile_sublist _).subset inside))

theorem bareStatements_subset {script statement : List Char}
    (member : statement ∈ bareStatements script) : statement ⊆ script := by
  obtain ⟨piece, inside, rfl⟩ := List.mem_map.mp member
  exact fun c found =>
    (keepsLines_stripComments script).sublist.subset (split_subset inside (bare_subset piece found))

end DdlSchema.Statement
