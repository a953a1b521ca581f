import DdlSchema.Proofs.Schema.ClauseContents
import DdlSchema.Proofs.Statement.Splitting
import DdlSchema.Proofs.Text.Phrases

/-! When the clauses of ALTER TABLE statements cannot be read. Whatever is malformed is passed over, but for a
known word that is spelled with a dotted capital i: its pattern accepts it, and no name is equal to it. -/

set_option autoImplicit false

namespace DdlSchema.Schema

open DdlSchema.Text DdlSchema.Text.Pattern

/-! Actions. -/

theorem ReferentialAction.ofName?_name (action : ReferentialAction) : ofName? action.name = some action := by
  cases action <;> decide +kernel

theorem ReferentialAction.undotted_name (action : ReferentialAction) : dottedI ∉ action.name.toList := by
  cases action <;> decide +kernel

theorem ReferentialAction.spelling_name (action : ReferentialAction) :
    (∀ word ∈ splitAtChar ' ' action.name.toList, word ≠ [] ∧ word.all isSteady = true) ∧
      [' '].intercalate (splitAtChar ' ' action.name.toList) = action.name.toList := by
  cases action <;> decide +kernel

theorem ReferentialAction.canonicalWords_spelled (action : ReferentialAction) {taken : List Char}
    (spelled : Spelled (splitAtChar ' ' action.name.toList) taken) (undotted : dottedI ∉ taken) :
    canonicalWords taken = action.name := by
  obtain ⟨steady, joined⟩ := action.spelling_name
  rw [canonicalWords, squeeze, spelled.words_upper steady undotted, joined, String.ofList_toList]

theorem ofName?_action {place later : Cursor} {taken : List Char}
    (reach : Reaches Clause.action place later) (spans : Spans place later taken) :
    ReferentialAction.ofName? (canonicalWords taken) = none ↔ dottedI ∈ taken := by
  obtain ⟨pattern, member, reach⟩ := mem_of_reaches_oneOf reach
  obtain ⟨action, -, rfl⟩ := List.mem_map.mp member
  constructor
  · intro unknown
    by_contra undotted
    have spelled := spelled_of_reaches (splitAtChar_ne_nil ' ' _) reach spans
    rw [action.canonicalWords_spelled spelled undotted, action.ofName?_name] at unknown
    cases unknown
  · intro dotted
    have kept : dottedI ∈ (canonicalWords taken).toList := by
      rw [canonicalWords, String.toList_ofList]
      exact mem_squeeze (by decide) (dottedI_mem_upper dotted)
    refine List.find?_eq_none.mpr fun other _ same => other.undotted_name ?_
    rwa [beq_iff_eq.mp same]

/-- The parts of a clause in front of its action, which are captured or blank. -/
structure EventLead (on gap event between : List Char) : Prop where
  on : List.Forall₂ (fun letter c => sameLetter letter c = true) "ON".toList on
  gap_ne_nil : gap ≠ []
  gap_blank : ∀ c ∈ gap, isBlank c = true
  event : List.Forall₂ (fun letter c => sameLetter letter c = true) "DELETE".toList event ∨
    List.Forall₂ (fun letter c => sameLetter letter c = true) "UPDATE".toList event
  between_ne_nil : between ≠ []
  between_blank : ∀ c ∈ between, isBlank c = true

theorem parts_of_onEvent {place later : Cursor} (reach : Reaches Clause.onEvent place later) :
    ∃ on gap event between action, EventLead on gap event between ∧
      Spans place later (on ++ (gap ++ (event ++ (between ++ action)))) ∧
      later.captured = ("action", action) :: ("event", event) :: place.captured ∧
      ∃ start stop, Reaches Clause.action start stop ∧ Spans start stop action := by
  obtain ⟨named, word, _, ⟨gap, start, blank, some_, rfl⟩, _, ⟨happened, either, rfl⟩, _,
    ⟨between, start', blank', some', rfl⟩, stop, action, rfl⟩ := reach
  obtain ⟨on, spansOn, same⟩ := word.letters
  obtain ⟨event, spansEvent, same'⟩ := either.either_letters
  obtain ⟨written, spansAction⟩ := action.spans
  refine ⟨on, gap, event, between, written, ⟨same, List.ne_nil_of_length_pos some_, blank, same',
    List.ne_nil_of_length_pos some', blank'⟩, ?_, ?_, _, _, action, spansAction⟩
  · exact spansOn.trans ((spans_past start).trans
      (spansEvent.trans ((spans_past start').trans spansAction)))
  · have unnamed : Clause.action.labelled = [] := rfl
    have none : (Pattern.either (letters "DELETE") (letters "UPDATE")).labelled = [] := rfl
    have kept : happened.captured = place.captured :=
      (either.captured_eq none).trans (word.captured_eq (labelled_letters "ON"))
    -- the blanks between capture nothing either, and keep what was captured as it is
    rw [spansAction.take_eq, action.captured_eq unnamed, ← kept, ← spansEvent.take_eq]
    rfl

theorem fails_readAction {before : Option Char} {text : List Char} {event : Match}
    (matched : Clause.onEvent.matchAt before text = some event) (actions : Actions) :
    Fails (actions.read event) ↔ dottedI ∈ (event.get? "action").getD [] := by
  obtain ⟨later, reach, -, captured⟩ := matchAt_sound matched
  obtain ⟨_, _, _, _, written, -, -, kept, _, _, named, spans⟩ := parts_of_onEvent reach
  have action : event.get? "action" = some written := by
    rw [Match.get?, captured, kept]
    rfl
  rw [action, Option.getD_some, ← ofName?_action named spans, Actions.read, action, Option.getD_some]
  cases named : ReferentialAction.ofName? (canonicalWords written) with
  | none => simp
  | some known =>
    dsimp only
    split <;> simp

theorem fails_referentialActions (text : List Char) : Fails (referentialActions text) ↔
    ∃ event ∈ Clause.onEvent.allMatches text, dottedI ∈ (event.get? "action").getD [] := by
  refine fails_foldlM (fun event member actions => ?_) _
  obtain ⟨before, rest, -, matched⟩ := matchAt_of_mem_allMatches member
  exact fails_readAction matched actions

theorem fails_readForeignKey (table : String) (found : Match) :
    Fails (readForeignKey table found) ↔ Fails (referentialActions ((found.get? "actions").getD [])) := by
  unfold readForeignKey
  cases referentialActions ((found.get? "actions").getD []) <;> simp [bind, Except.bind, pure, Except.pure]

/-! Kinds of indexes. -/

theorem ofName?_kind {place later : Cursor} {taken : List Char}
    (reach : Reaches (.either (letters "FULLTEXT") (letters "SPATIAL")) place later)
    (spans : Spans place later taken) :
    IndexKind.ofName? (String.ofList (upper taken)) = none ↔ dottedI ∈ taken := by
  constructor
  · intro unknown
    by_contra undotted
    have written : ∀ word : String, Reaches (letters word) place later →
        word.toList.all isSteady = true → String.ofList (upper taken) = word := by
      intro word reach steady
      obtain ⟨own, also, same⟩ := reach.letters
      rw [spans.unique also] at undotted ⊢
      rw [upper_of_sameLetters steady same undotted, String.ofList_toList]
    rcases reach with fulltext | spatial
    · rw [written "FULLTEXT" fulltext (by decide)] at unknown
      exact absurd unknown (by decide +kernel)
    · rw [written "SPATIAL" spatial (by decide)] at unknown
      exact absurd unknown (by decide +kernel)
  · intro dotted
    have undotted : ∀ kind : IndexKind, dottedI ∉ kind.name.toList := by
      intro kind
      cases kind <;> decide +kernel
    refine List.find?_eq_none.mpr fun kind _ same => undotted kind ?_
    rw [beq_iff_eq.mp same, String.toList_ofList]
    exact dottedI_mem_upper dotted

theorem fails_readIndex {clause rest : List Char} {found : Match}
    (searched : Clause.index.search clause = some (found, rest)) (table : String) :
    Fails (readIndex table found) ↔ dottedI ∈ (found.get? "kind").getD [] := by
  have fails : Fails (readIndex table found) ↔
      IndexKind.ofName? (String.ofList (upper ((found.get? "kind").getD "INDEX".toList))) = none := by
    unfold readIndex
    simp only
    cases IndexKind.ofName? (String.ofList (upper ((found.get? "kind").getD "INDEX".toList))) <;> simp
  rw [fails]
  cases kept : found.get? "kind" with
  | none => decide +kernel
  | some written =>
    obtain ⟨body, inside, first, last, reach, spans⟩ := search_captured searched kept
    have body : body = .either (letters "FULLTEXT") (letters "SPATIAL") := by
      simpa [labelled_index] using inside
    subst body
    exact ofName?_kind reach spans

/-! Clauses. -/

inductive ClauseKind where
  | primaryKey
  | foreignKey
  | uniqueKey
  | increment
  | index
  | other
  deriving DecidableEq

def clauseKind (clause : List Char) : ClauseKind :=
  let words := upper (squeeze clause)
  let adds := "ADD".toList.isPrefixOf words
  let mentions := fun (phrase : String) => occursIn phrase.toList words
  if adds && mentions "PRIMARY KEY" then .primaryKey
  else if mentions "FOREIGN KEY" then .foreignKey
  else if (Clause.addsUnique.matchStart words).isSome then .uniqueKey
  else if mentions "AUTO_INCREMENT" then .increment
  else if mentions "NEXTVAL" then .increment
  else if adds then .index
  else .other

/-- A known word of the clause is spelled with a dotted capital i: an action of a reference, or the kind of
an index. -/
inductive Misspelled (clause : List Char) : Prop
  | action {link event : Match} :
    clauseKind clause = .foreignKey → link ∈ Clause.foreignKey.allMatches clause →
      event ∈ Clause.onEvent.allMatches ((link.get? "actions").getD []) →
        dottedI ∈ (event.get? "action").getD [] → Misspelled clause
  | kind {found : Match} {rest : List Char} :
    clauseKind clause = .index → Clause.index.search clause = some (found, rest) →
      dottedI ∈ (found.get? "kind").getD [] → Misspelled clause

theorem misspelled_iff (clause : List Char) : Misspelled clause ↔
    (clauseKind clause = .foreignKey ∧ ∃ link ∈ Clause.foreignKey.allMatches clause,
      Fails (referentialActions ((link.get? "actions").getD []))) ∨
    (clauseKind clause = .index ∧ ∃ found rest, Clause.index.search clause = some (found, rest) ∧
      dottedI ∈ (found.get? "kind").getD []) := by
  simp only [fails_referentialActions]
  constructor
  · rintro (⟨links, member, inside, dotted⟩ | ⟨index, searched, dotted⟩)
    · exact .inl ⟨links, _, member, _, inside, dotted⟩
    · exact .inr ⟨index, _, _, searched, dotted⟩
  · rintro (⟨links, link, member, event, inside, dotted⟩ | ⟨index, found, rest, searched, dotted⟩)
    · exact .action links member inside dotted
    · exact .kind index searched dotted

theorem fails_readClause (table : String) (clause : List Char) :
    Fails (readClause table clause) ↔ Misspelled clause := by
  rw [misspelled_iff]
  unfold readClause clauseKind
  simp only
  split_ifs
  · split <;> simp only [not_fails_ok, false_and, or_self]
  · simp only [fails_map, fails_mapM, fails_readForeignKey, true_and, false_and, or_false]
  · split <;> simp only [not_fails_ok, false_and, or_self]
  · simp only [not_fails_ok, false_and, or_self]
  · simp only [not_fails_ok, false_and, or_self]
  · cases searched : Clause.index.search clause with
    | none => simp
    | some result =>
      obtain ⟨found, rest⟩ := result
      simp [fails_readIndex searched]
  · simp only [not_fails_ok, false_and, or_self]

/-! Statements. -/

def clausesIn (statement : List Char) : List (List Char) :=
  match Clause.header.matchStart statement with
  | none => []
  | some found => splitCommas ((found.get? "body").getD [])

theorem fails_readStatement (statement : List Char) :
    Fails (readStatement statement) ↔ ∃ clause ∈ clausesIn statement, Misspelled clause := by
  unfold readStatement clausesIn
  cases Clause.header.matchStart statement with
  | none => simp
  | some found => simp only [fails_mapM, fails_readClause]

theorem Misspelled.dotted {clause : List Char} (misspelled : Misspelled clause) : dottedI ∈ clause := by
  rcases misspelled with ⟨-, member, inside, dotted⟩ | ⟨-, searched, dotted⟩
  · obtain ⟨_, rest, behind, linked⟩ := matchAt_of_mem_allMatches member
    obtain ⟨_, tail, later, matched⟩ := matchAt_of_mem_allMatches inside
    exact behind.subset (get?_subset linked _ (later.subset (get?_subset matched _ dotted)))
  · obtain ⟨behind, _, matched⟩ := search_sound searched
    exact behind.subset (get?_subset matched _ dotted)

theorem subset_of_mem_clausesIn {statement clause : List Char} (member : clause ∈ clausesIn statement) :
    clause ⊆ statement := by
  unfold clausesIn at member
  split at member
  · cases member
  · next found matched =>
    obtain ⟨piece, inside, rfl⟩ := List.mem_map.mp (List.mem_of_mem_filter member)
    exact fun c here =>
      get?_subset matched "body" (subset_of_mem_commaPieces inside (trim_subset piece here))

/-- However statements are cut, reading constraints from them fails just if one of their clauses is
misspelled, which takes a dotted capital i. A text that passes for an action or for a kind of index is one,
but for that letter, and a reference always has a column to point to. -/
theorem extraction_fails_iff (pieces : List (List Char)) :
    ((∃ problem, extracted (pieces.map Statement.bare) = .error problem) ↔
      ∃ piece ∈ pieces, ∃ clause ∈ clausesIn (Statement.bare piece), Misspelled clause) ∧
    ((∀ piece ∈ pieces, dottedI ∉ piece) →
      ∃ constraints, extracted (pieces.map Statement.bare) = .ok constraints) ∧
    (∀ place later taken, Reaches Clause.action place later → Spans place later taken →
      (ReferentialAction.ofName? (canonicalWords taken) = none ↔ dottedI ∈ taken)) ∧
    (∀ clause found rest table, Clause.index.search clause = some (found, rest) →
      ((∃ problem, readIndex table found = .error problem) ↔
        dottedI ∈ (found.get? "kind").getD [])) ∧
    ∀ columns position, targetColumn columns position ∈
      if columns.isEmpty then [defaultTargetColumn] else columns := by
  have fails : Fails (extracted (pieces.map Statement.bare)) ↔
      ∃ piece ∈ pieces, ∃ clause ∈ clausesIn (Statement.bare piece), Misspelled clause := by
    simp only [extracted, readAlterations, fails_map, fails_mapM, fails_readStatement, List.mem_map,
      exists_exists_and_eq_and]
  refine ⟨fails, fun undotted => not_fails_iff.mp fun failed => ?_,
    fun place later taken reach spans => ofName?_action reach spans,
    fun clause found rest table searched => fails_readIndex searched table, fun columns position => ?_⟩
  · obtain ⟨piece, member, clause, inside, misspelled⟩ := fails.mp failed
    exact undotted piece member
      (Statement.bare_subset piece (subset_of_mem_clausesIn inside misspelled.dotted))
  · cases columns with
    | nil => simp [targetColumn]
    | cons first columns =>
      rw [targetColumn, List.getD_eq_getElem?_getD, List.isEmpty_cons, if_neg Bool.false_ne_true]
      cases here : (first :: columns)[position]? with
      | none => exact List.mem_cons_self
      | some column => exact List.mem_of_getElem? here

/-- The long s and the dotless i pass for letters and become them. -/
theorem extraction_fails_iff_respelled :
    let piece := "ALTER TABLE t ADD FOREIGN KEY (a) REFERENCES b (id) ON DELETE re\u017ftr\u0131ct;".toList
    dottedI ∉ piece ∧ ∃ constraints, extracted ([piece].map Statement.bare) = .ok constraints ∧
      constraints.foreignKeys.map ForeignKey.onDelete = [some .restrict] := by
  intro piece
  have undotted : dottedI ∉ piece := by decide +kernel
  obtain ⟨constraints, read⟩ :=
    (extraction_fails_iff [piece]).2.1 (List.forall_mem_singleton.mpr undotted)
  have restricts : (extracted ([piece].map Statement.bare)).map
      (fun constraints => constraints.foreignKeys.map ForeignKey.onDelete) = .ok [some .restrict] := by
    decide +kernel
  rw [read] at restricts
  exact ⟨undotted, constraints, read, Except.ok.inj restricts⟩

/-- The dotted capital i passes for a letter and names nothing. -/
theorem extraction_can_fail :
    extracted ["ALTER TABLE t ADD FOREIGN KEY (a) REFERENCES b (id) ON DELETE RESTR\u0130CT".toList] =
      .error (.referentialAction "RESTR\u0130CT") ∧
    extracted ["ALTER TABLE t ADD SPAT\u0130AL INDEX i (a)".toList] = .error (.indexKind "SPAT\u0130AL") := by
  decide +kernel

end DdlSchema.Schema
