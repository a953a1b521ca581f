import Mathlib.Data.List.Infix
import DdlSchema.Ddl.Screen

/-! The token lists that the screen lets pass. Each of its rules looks at a token and at what stands in
front of it, so a list is in place token by token, and the first token with which it is not is the one
that is reported. A statement mark leaves nothing open, which makes the statements of a batch
independent of each other. -/

set_option autoImplicit false

namespace DdlSchema.Ddl

/-- The parentheses that the tokens leave open, less those that they close too often. -/
def openParens (tokens : List Token) : Int :=
  (tokens.countP (Token.isMark · "(") : Int) - tokens.countP (Token.isMark · ")")

namespace Token

variable (dialect : Dialect) (token : Token)

def ForeignQuote : Prop :=
  token.isQuotedText = false ∧ '\x60' ∈ token.text.toList ∧ dialect ≠ .mysql ∧ dialect ≠ .sqlite

def ForeignWord : Prop :=
  token.isQuotedText = false ∧
    (token.upper = "AUTO_INCREMENT" ∧ dialect ≠ .mysql ∨
      token.upper = "AUTOINCREMENT" ∧ dialect ≠ .sqlite)

instance : Decidable (token.ForeignQuote dialect) :=
  inferInstanceAs (Decidable (_ ∧ _ ∧ _ ∧ _))

instance : Decidable (token.ForeignWord dialect) :=
  inferInstanceAs (Decidable (_ ∧ (_ ∧ _ ∨ _ ∧ _)))

/-- How a token out of place is reported. -/
def offence : Problem :=
  if token.ForeignQuote dialect then .foreignQuote token.line else .misplaced token.line token.text

end Token

/-- Neighbours in a list that has no element between them. -/
def MissingElement (previous token : Token) : Prop :=
  previous.isMark "," ∧ (token.isMark "," ∨ token.isMark ")") ∨
    previous.isMark "(" ∧ token.isMark ","

/-- No token is out of place; parentheses may still be open at the end. -/
structure InPlace (dialect : Dialect) (tokens : List Token) : Prop where
  depth : ∀ front, front <+: tokens → 0 ≤ openParens front
  statements : ∀ front mark, front ++ [mark] <+: tokens → mark.isMark ";" →
    openParens (front ++ [mark]) = 0
  elements : ∀ previous token, [previous, token] <:+: tokens → ¬MissingElement previous token
  quotes : ∀ token ∈ tokens, ¬token.ForeignQuote dialect
  words : ∀ token ∈ tokens, ¬token.ForeignWord dialect

/-- Behind these tokens the token breaks a rule. -/
def Offends (dialect : Dialect) (front : List Token) (token : Token) : Prop :=
  token.ForeignQuote dialect ∨ token.ForeignWord dialect ∨
    (∃ previous ∈ front.getLast?, MissingElement previous token) ∨
    openParens (front ++ [token]) < 0 ∨ token.isMark ";" ∧ openParens (front ++ [token]) ≠ 0

section

variable {dialect : Dialect} {front : List Token} {token : Token}

theorem openParens_append (front tokens : List Token) :
    openParens (front ++ tokens) = openParens front + openParens tokens := by
  simp only [openParens, List.countP_append]
  omega

theorem Token.isMark_unique {text other : String} (mark : token.isMark text) (apart : text ≠ other) :
    token.isMark other = false := by
  simp only [Token.isMark, Bool.and_eq_true, beq_iff_eq] at mark
  simp [Token.isMark, mark, apart]

theorem openParens_concat (front : List Token) (token : Token) :
    openParens (front ++ [token]) =
      if token.isMark "(" then openParens front + 1
      else if token.isMark ")" then openParens front - 1 else openParens front := by
  rw [openParens_append]
  by_cases opens : token.isMark "("
  · simp [openParens, opens, Token.isMark_unique opens (show "(" ≠ ")" by decide)]
  · by_cases closes : token.isMark ")"
    · simp [openParens, opens, closes]
      omega
    · simp [openParens, opens, closes]

/-! The list grows by one token. -/

theorem InPlace.of_prefix {tokens : List Token} (inPlace : InPlace dialect tokens)
    (cut : front <+: tokens) : InPlace dialect front where
  depth shorter inside := inPlace.depth shorter (inside.trans cut)
  statements shorter mark inside := inPlace.statements shorter mark (inside.trans cut)
  elements previous next inside := inPlace.elements previous next (inside.trans cut.isInfix)
  quotes other member := inPlace.quotes other (cut.subset member)
  words other member := inPlace.words other (cut.subset member)

theorem pair_infix_concat {previous next : Token} :
    [previous, next] <:+: front ++ [token] ↔
      previous ∈ front.getLast? ∧ next = token ∨ [previous, next] <:+: front := by
  rw [List.infix_concat_iff]
  refine or_congr_left ⟨?_, ?_⟩
  · rintro ⟨before, same⟩
    have parts : before ++ [previous] = front ∧ [next] = [token] :=
      List.append_inj' (by simpa using same) rfl
    simpa [← parts.1] using parts.2
  · rintro ⟨last, rfl⟩
    obtain ⟨before, rfl⟩ := List.getLast?_eq_some_iff.mp last
    exact ⟨before, by simp⟩

theorem inPlace_concat :
    InPlace dialect (front ++ [token]) ↔ InPlace dialect front ∧ ¬Offends dialect front token := by
  constructor
  · refine fun inPlace => ⟨inPlace.of_prefix (List.prefix_append _ _), ?_⟩
    rintro (quote | word | ⟨previous, last, missing⟩ | below | ⟨mark, unclosed⟩)
    · exact inPlace.quotes token (by simp) quote
    · exact inPlace.words token (by simp) word
    · exact inPlace.elements previous token (pair_infix_concat.mpr (Or.inl ⟨last, rfl⟩)) missing
    · exact absurd (inPlace.depth _ List.prefix_rfl) (Int.not_le.mpr below)
    · exact unclosed (inPlace.statements front token List.prefix_rfl mark)
  · -- the last token adds one more case to each property of the front
    rintro ⟨inPlace, passes⟩
    simp only [Offends, not_or] at passes
    obtain ⟨quote, word, element, depth, mark⟩ := passes
    refine
      { depth := fun shorter inside => ?_
        statements := fun shorter other inside isMark => ?_
        elements := fun previous next inside => ?_
        quotes := fun other member => ?_
        words := fun other member => ?_ }
    · rcases List.prefix_concat_iff.mp inside with rfl | earlier
      · exact Int.not_lt.mp depth
      · exact inPlace.depth shorter earlier
    · rcases List.prefix_concat_iff.mp inside with same | earlier
      · obtain ⟨rfl, rfl⟩ : shorter = front ∧ other = token := by simpa using List.append_inj' same rfl
        exact not_not.mp fun unclosed => mark ⟨isMark, unclosed⟩
      · exact inPlace.statements shorter other earlier isMark
    · rcases pair_infix_concat.mp inside with ⟨last, rfl⟩ | earlier
      · exact fun missing => element ⟨previous, last, missing⟩
      · exact inPlace.elements previous next earlier
    · rcases List.mem_append.mp member with earlier | last
      · exact inPlace.quotes other earlier
      · exact List.mem_singleton.mp last ▸ quote
    · rcases List.mem_append.mp member with earlier | last
      · exact inPlace.words other earlier
      · exact List.mem_singleton.mp last ▸ word

theorem inPlace_nil : InPlace dialect [] where
  depth front inside := by simp [List.prefix_nil.mp inside, openParens]
  statements front mark inside := by simp at inside
  elements previous token inside := by simp at inside
  quotes token member := absurd member List.not_mem_nil
  words token member := absurd member List.not_mem_nil

/-! One step of the screen. -/

theorem screenWord_eq : screenWord dialect token =
    if token.ForeignQuote dialect ∨ token.ForeignWord dialect then some (token.offence dialect)
    else none := by
  unfold screenWord Token.offence Token.ForeignQuote Token.ForeignWord wordOwner?
  -- a dialect owns at most one of the words, and no word is both
  cases dialect <;> by_cases quoted : token.isQuotedText <;>
    by_cases quote : '\x60' ∈ token.text.toList <;>
    by_cases first : token.upper = "AUTO_INCREMENT" <;>
    by_cases second : token.upper = "AUTOINCREMENT" <;> simp_all

theorem isEmptyElement_iff {previous : Option Token} :
    isEmptyElement previous token = true ↔ ∃ other ∈ previous, MissingElement other token := by
  cases previous with
  | none => simp [isEmptyElement]
  | some other =>
    simp only [isEmptyElement, MissingElement, Bool.or_eq_true, Bool.and_eq_true, Option.mem_def,
      Option.some.injEq, exists_eq_left']

theorem screenFrom_offends (rest : List Token) (offends : Offends dialect front token) :
    screenFrom dialect (openParens front) front.getLast? (token :: rest) =
      .error (token.offence dialect) := by
  rw [screenFrom, screenWord_eq]
  by_cases foreign : token.ForeignQuote dialect ∨ token.ForeignWord dialect
  · rw [if_pos foreign]
  · obtain ⟨quote, word⟩ := not_or.mp foreign
    have misplaced := (offends.resolve_left quote).resolve_left word
    rw [← isEmptyElement_iff] at misplaced
    rw [if_neg foreign]
    simp only [← openParens_concat, Token.offence, if_neg quote, Bool.or_eq_true, Bool.and_eq_true,
      decide_eq_true_eq, or_assoc, if_pos misplaced]

theorem screenFrom_passes (rest : List Token) (passes : ¬Offends dialect front token) :
    screenFrom dialect (openParens front) front.getLast? (token :: rest) =
      screenFrom dialect (openParens (front ++ [token])) (front ++ [token]).getLast? rest := by
  have foreign : ¬(token.ForeignQuote dialect ∨ token.ForeignWord dialect) :=
    fun foreign => passes (foreign.elim Or.inl fun word => Or.inr (Or.inl word))
  have placed : ¬(isEmptyElement front.getLast? token = true ∨ openParens (front ++ [token]) < 0 ∨
      token.isMark ";" = true ∧ openParens (front ++ [token]) ≠ 0) := by
    rw [isEmptyElement_iff]
    exact fun misplaced => passes (Or.inr (Or.inr misplaced))
  rw [screenFrom, screenWord_eq, if_neg foreign]
  simp only [← openParens_concat, Bool.or_eq_true, Bool.and_eq_true, decide_eq_true_eq, or_assoc,
    if_neg placed, List.getLast?_concat]

/-! The whole run. -/

theorem screenFrom_append (front : List Token) {tokens : List Token}
    (inPlace : InPlace dialect (front ++ tokens)) (rest : List Token) :
    screenFrom dialect (openParens front) front.getLast? (tokens ++ rest) =
      screenFrom dialect (openParens (front ++ tokens)) (front ++ tokens).getLast? rest := by
  induction tokens generalizing front with
  | nil => simp
  | cons token later ih =>
    have split : front ++ token :: later = front ++ [token] ++ later := by simp
    rw [split] at inPlace ⊢
    have passes := (inPlace_concat.mp (inPlace.of_prefix (List.prefix_append _ _))).2
    rw [List.cons_append, screenFrom_passes _ passes, ih _ inPlace]

theorem screenTokens_of_inPlace {tokens : List Token} (inPlace : InPlace dialect tokens) :
    screenTokens dialect tokens =
      if openParens tokens = 0 then .ok () else .error .unexpectedEnd := by
  have run := screenFrom_append [] inPlace []
  rw [List.append_nil] at run
  exact run

theorem screenTokens_of_offends (rest : List Token) (inPlace : InPlace dialect front)
    (out : ¬InPlace dialect (front ++ [token])) :
    screenTokens dialect (front ++ token :: rest) = .error (token.offence dialect) := by
  have offends : Offends dialect front token :=
    not_not.mp fun passes => out (inPlace_concat.mpr ⟨inPlace, passes⟩)
  exact (screenFrom_append [] inPlace (token :: rest)).trans
    (screenFrom_offends rest offends)

theorem exists_first_offence {tokens : List Token} (out : ¬InPlace dialect tokens) :
    ∃ front token rest, tokens = front ++ token :: rest ∧ InPlace dialect front ∧
      ¬InPlace dialect (front ++ [token]) := by
  induction tokens using List.reverseRecOn with
  | nil => exact absurd inPlace_nil out
  | append_singleton before last ih =>
    by_cases earlier : InPlace dialect before
    · exact ⟨before, last, [], rfl, earlier, out⟩
    · obtain ⟨front, token, rest, rfl, inPlace, breaks⟩ := ih earlier
      exact ⟨front, token, rest ++ [last], by simp, inPlace, breaks⟩

theorem screenTokens_eq_ok_iff {tokens : List Token} :
    screenTokens dialect tokens = .ok () ↔ InPlace dialect tokens ∧ openParens tokens = 0 := by
  by_cases inPlace : InPlace dialect tokens
  · rw [screenTokens_of_inPlace inPlace]
    by_cases closed : openParens tokens = 0 <;> simp [inPlace, closed]
  · obtain ⟨front, token, rest, rfl, before, out⟩ := exists_first_offence inPlace
    simp [screenTokens_of_offends rest before out, inPlace]

theorem screenTokens_eq_error_iff {tokens : List Token} {problem : Problem} :
    screenTokens dialect tokens = .error problem ↔
      (∃ front token rest, tokens = front ++ token :: rest ∧ InPlace dialect front ∧
        ¬InPlace dialect (front ++ [token]) ∧ problem = token.offence dialect) ∨
      InPlace dialect tokens ∧ 0 < openParens tokens ∧ problem = .unexpectedEnd := by
  constructor
  · intro rejected
    by_cases inPlace : InPlace dialect tokens
    · have depth := inPlace.depth tokens List.prefix_rfl
      rw [screenTokens_of_inPlace inPlace] at rejected
      split at rejected
      · cases rejected
      · next unclosed =>
        cases rejected
        exact Or.inr ⟨inPlace, by omega, rfl⟩
    · obtain ⟨front, token, rest, rfl, before, out⟩ := exists_first_offence inPlace
      rw [screenTokens_of_offends rest before out] at rejected
      cases rejected
      exact Or.inl ⟨front, token, rest, rfl, before, out, rfl⟩
  · rintro (⟨front, token, rest, rfl, before, out, rfl⟩ | ⟨inPlace, unclosed, rfl⟩)
    · exact screenTokens_of_offends rest before out
    · rw [screenTokens_of_inPlace inPlace, if_neg (by omega)]

/-! Statements one behind the other. -/

theorem offends_behind {mark : Token} (isMark : mark.isMark ";")
    (closed : openParens (front ++ [mark]) = 0) (tokens : List Token) :
    Offends dialect (front ++ [mark] ++ tokens) token ↔ Offends dialect tokens token := by
  have apart : ∀ text, ";" ≠ text → mark.isMark text = false := fun text => mark.isMark_unique isMark
  have last : (∃ previous ∈ (front ++ [mark] ++ tokens).getLast?, MissingElement previous token) ↔
      ∃ previous ∈ tokens.getLast?, MissingElement previous token := by
    cases tokens using List.reverseRecOn with
    -- the mark itself stands in front of the token, and no element is missing behind it
    | nil => simp [MissingElement, apart]
    | append_singleton before last => simp [← List.append_assoc]
  rw [Offends, last, List.append_assoc, openParens_append, closed, Int.zero_add]
  rfl

theorem inPlace_append {mark : Token} (isMark : mark.isMark ";") {tokens : List Token} :
    InPlace dialect (front ++ [mark] ++ tokens) ↔
      InPlace dialect (front ++ [mark]) ∧ InPlace dialect tokens := by
  by_cases inPlace : InPlace dialect (front ++ [mark])
  · have closed := inPlace.statements front mark List.prefix_rfl isMark
    simp only [inPlace, true_and]
    induction tokens using List.reverseRecOn with
    | nil => simp [inPlace, inPlace_nil]
    | append_singleton before last ih =>
      rw [← List.append_assoc, inPlace_concat, inPlace_concat]
      exact and_congr ih (not_congr (offends_behind isMark closed before))
  · exact iff_of_false (fun later => inPlace (later.of_prefix (List.prefix_append _ _)))
      fun both => inPlace both.1

/-- A list of tokens that ends a statement. -/
def EndsStatement (tokens : List Token) : Prop := ∃ mark ∈ tokens.getLast?, mark.isMark ";"

theorem screenTokens_append {tokens : List Token} (ends : EndsStatement tokens) (rest : List Token) :
    screenTokens dialect (tokens ++ rest) = .ok () ↔
      screenTokens dialect tokens = .ok () ∧ screenTokens dialect rest = .ok () := by
  obtain ⟨mark, last, isMark⟩ := ends
  obtain ⟨front, rfl⟩ := List.getLast?_eq_some_iff.mp last
  simp only [screenTokens_eq_ok_iff, inPlace_append isMark, openParens_append _ rest]
  constructor
  · rintro ⟨⟨first, second⟩, closed⟩
    have ended := first.statements front mark List.prefix_rfl isMark
    exact ⟨⟨first, ended⟩, second, by omega⟩
  · rintro ⟨⟨first, ended⟩, second, closed⟩
    exact ⟨⟨first, second⟩, by omega⟩

theorem screenTokens_flatten {batch : List (List Token)}
    (ends : ∀ tokens ∈ batch, EndsStatement tokens) :
    screenTokens dialect batch.flatten = .ok () ↔
      ∀ tokens ∈ batch, screenTokens dialect tokens = .ok () := by
  induction batch with
  | nil => simp [screenTokens, screenFrom]
  | cons tokens rest ih =>
    rw [List.forall_mem_cons] at ends ⊢
    rw [List.flatten_cons, screenTokens_append ends.1, ih ends.2]

theorem message_offence (token : Token) :
    (token.offence dialect).message ≠ Problem.unexpectedEnd.message := by
  -- the texts differ in their twelfth character at the latest
  have twelfth : ∀ {text : String} {c : Char} (more : String), text.toList[11]? = some c →
      (text ++ more).toList[11]? = some c := fun more here => by
    rw [String.toList_append, List.getElem?_append_left (List.getElem?_eq_some_iff.mp here).1, here]
  have ends : Problem.unexpectedEnd.message.toList[11]? = some 'e' := by decide
  have quote : ("Unexpected character \"\x60\" at line " ++ toString token.line).toList[11]? = some 'c' :=
    twelfth _ (by decide)
  have words : (near token.line token.text).toList[11]? = some 'r' :=
    twelfth _ (twelfth _ (twelfth _ (twelfth _ (by decide))))
  intro same
  rw [← same] at ends
  unfold Token.offence at ends
  split at ends
  · exact absurd (quote.symm.trans ends) (by decide)
  · exact absurd (words.symm.trans ends) (by decide)

end

/-- The screen accepts the lists in which no token is out of place and no parenthesis is left open. Of any
other list it reports the first token out of place, and that the text ends too early exactly if there is
none. So statements that are screened together pass if each passes. -/
theorem screen_language (dialect : Dialect) :
    (∀ tokens, screenTokens dialect tokens = .ok () ↔ InPlace dialect tokens ∧ openParens tokens = 0) ∧
    (∀ tokens problem, screenTokens dialect tokens = .error problem ↔
      (∃ front token rest, tokens = front ++ token :: rest ∧ InPlace dialect front ∧
        ¬InPlace dialect (front ++ [token]) ∧ problem = token.offence dialect ∧
        problem.message ≠ "Unexpected end of input") ∨
      InPlace dialect tokens ∧ 0 < openParens tokens ∧ problem = .unexpectedEnd ∧
        problem.message = "Unexpected end of input") ∧
    ∀ batch : List (List Token), (∀ tokens ∈ batch, EndsStatement tokens) →
      (screenTokens dialect batch.flatten = .ok () ↔
        ∀ tokens ∈ batch, screenTokens dialect tokens = .ok ()) := by
  refine ⟨fun tokens => screenTokens_eq_ok_iff, fun tokens problem => ?_,
    fun batch => screenTokens_flatten⟩
  rw [screenTokens_eq_error_iff]
  refine or_congr ⟨?_, ?_⟩ ⟨?_, ?_⟩
  · rintro ⟨front, token, rest, cut, inPlace, out, rfl⟩
    exact ⟨front, token, rest, cut, inPlace, out, rfl, message_offence token⟩
  · rintro ⟨front, token, rest, cut, inPlace, out, same, -⟩
    exact ⟨front, token, rest, cut, inPlace, out, same⟩
  · rintro ⟨inPlace, unclosed, rfl⟩
    exact ⟨inPlace, unclosed, rfl, rfl⟩
  · rintro ⟨inPlace, unclosed, same, -⟩
    exact ⟨inPlace, unclosed, same⟩

theorem screen_language_pair :
    let mark : String → Token := fun text => ⟨.mark, text, text, 1, 0, 0, []⟩
    let word : Token := ⟨.word, "auto_increment", "auto_increment", 1, 0, 0, []⟩
    let batch := [[mark "(", word, mark ")", mark ";"], [mark "(", mark ")", mark ";"]]
    (∀ tokens ∈ batch, EndsStatement tokens) ∧ screenTokens .mysql batch.flatten = .ok () ∧
      screenTokens .sqlite batch.flatten ≠ .ok () := by
  intro mark word batch
  have ends : ∀ tokens ∈ batch, EndsStatement tokens := by
    simp only [batch, List.forall_mem_cons]
    exact ⟨⟨mark ";", rfl, rfl⟩, ⟨mark ";", rfl, rfl⟩, nofun⟩
  refine ⟨ends, ((screen_language .mysql).2.2 batch ends).mpr ?_, fun passed => ?_⟩
  · decide +kernel
  · have first := ((screen_language .sqlite).2.2 batch ends).mp passed _ List.mem_cons_self
    revert first
    decide +kernel

end DdlSchema.Ddl
