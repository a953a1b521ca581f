import DdlSchema.Proofs.Schema.ClauseHeader
import DdlSchema.Proofs.Schema.Misspelling

/-! Constraints from the clauses of one ALTER TABLE statement, and from many statements: each clause is read
as if it stood alone, so what is read from all of them is put together from the single ones. -/

set_option autoImplicit false

namespace DdlSchema.Statement

open DdlSchema.Text

theorem bare_of_filled {c : Char} (solid : isBlank c = false) (front : List Char) {text : List Char}
    (filled : Filled text) (unended : ';' ∉ text) :
    bare (c :: (front ++ text)) = c :: (front ++ trimRight text) := by
  have trimmed : ∀ {text : List Char}, Filled text →
      trim (c :: (front ++ text)) = c :: (front ++ trimRight text) := by
    intro text filled
    rw [trim, trimLeft_cons solid, ← List.cons_append, trimRight_append filled, List.cons_append]
  have ends : trimRight text ≠ [] := by
    obtain ⟨d, member, -⟩ := filled_trimRight filled
    exact List.ne_nil_of_mem member
  have last : ∃ init d, d ≠ ';' ∧ trimRight text = init ++ [d] := by
    refine ⟨_, _, fun same => unended ?_, (List.dropLast_concat_getLast ends).symm⟩
    exact (trimRight_isPrefixOf text).subset (same ▸ List.getLast_mem ends)
  obtain ⟨init, d, other, split⟩ := last
  have unchanged : ((c :: (front ++ trimRight text)).reverse.dropWhile (· == ';')).reverse =
      c :: (front ++ trimRight text) := by
    rw [split, ← List.append_assoc, ← List.cons_append, List.reverse_concat, List.dropWhile_cons,
      if_neg (by simpa using other), ← List.reverse_concat, List.reverse_reverse]
  rw [bare, trimmed filled, unchanged, trimmed (filled_trimRight filled), trimRight_trimRight]

end DdlSchema.Statement

namespace DdlSchema.Schema

open DdlSchema.Text DdlSchema.Text.Pattern

/-! Statements with a list of clauses. -/

/-- The name between quotes, with each quote in it written twice. -/
def quotedName (quote : Char) (content : List Char) : List Char :=
  quote :: (content.flatMap (fun c => if c = quote then [quote, quote] else [c]) ++ [quote])

theorem flatMap_doubled {quote : Char} {content : List Char} (plain : quote ∉ content) :
    content.flatMap (fun c => if c = quote then [quote, quote] else [c]) = content := by
  induction content with
  | nil => rfl
  | cons c content ih =>
    obtain ⟨other, later⟩ := not_or.mp fun member => plain (List.mem_cons.mpr member)
    rw [List.flatMap_cons, if_neg (Ne.symm other), ih later, List.singleton_append]

theorem quotedName_plain {quote : Char} {content : List Char} (plain : quote ∉ content) :
    quotedName quote content = quote :: (content ++ [quote]) := by
  rw [quotedName, flatMap_doubled plain]

theorem quotedName_doubled {quote : Char} {content : List Char} (inside : quote ∈ content) :
    ∃ front rest, quote ∉ front ∧ quotedName quote content = quote :: (front ++ quote :: quote :: rest) := by
  obtain ⟨front, back, rfl, first⟩ := List.eq_append_cons_of_mem inside
  refine ⟨front, back.flatMap (fun c => if c = quote then [quote, quote] else [c]) ++ [quote], first, ?_⟩
  rw [quotedName, List.flatMap_append, flatMap_doubled first, List.flatMap_cons, if_pos rfl]
  simp only [List.append_assoc, List.cons_append, List.nil_append]

/-- What can stand in a list of clauses: something besides blanks, without a semicolon, without a dot in
front, and one piece to the splitter. -/
structure IsClause (clause : List Char) : Prop where
  filled : Filled clause
  unended : ';' ∉ clause
  undotted : Undotted clause
  piece : IsPiece clause

instance (clause : List Char) : Decidable (IsClause clause) :=
  decidable_of_iff (Filled clause ∧ ';' ∉ clause ∧ Undotted clause ∧ IsPiece clause)
    ⟨fun ⟨filled, unended, undotted, piece⟩ => ⟨filled, unended, undotted, piece⟩,
      fun ⟨filled, unended, undotted, piece⟩ => ⟨filled, unended, undotted, piece⟩⟩

def alteration (name : List Char) (clauses : List (List Char)) : List Char :=
  alterTable ++ (name ++ ' ' :: enumeration clauses)

section

variable {clauses : List (List Char)} (some_ : clauses ≠ [])
  (valid : ∀ clause ∈ clauses, IsClause clause)

include some_ valid

theorem undotted_enumeration : Undotted (trimRight (enumeration clauses)) := by
  obtain ⟨clause, others, rfl⟩ := List.exists_cons_of_ne_nil some_
  obtain ⟨here, later⟩ := List.forall_mem_cons.mp valid
  have undotted : Undotted (enumeration (clause :: others)) := by
    obtain ⟨behind, split⟩ := enumeration_eq_append clause others
    rw [split]
    exact here.undotted.append here.filled behind
  obtain ⟨gap, same⟩ := trimRight_isPrefixOf (enumeration (clause :: others))
  rw [← same] at undotted
  exact undotted.of_append

theorem filled_enumeration : Filled (enumeration clauses) := by
  obtain ⟨clause, others, rfl⟩ := List.exists_cons_of_ne_nil some_
  obtain ⟨here, later⟩ := List.forall_mem_cons.mp valid
  obtain ⟨c, member, solid⟩ := here.filled
  obtain ⟨behind, split⟩ := enumeration_eq_append clause others
  rw [split]
  exact ⟨c, List.mem_append_left _ member, solid⟩

theorem bare_alteration (name : List Char) : Statement.bare (alteration name clauses) =
    alterTable ++ (name ++ ' ' :: trimRight (enumeration clauses)) := by
  obtain ⟨lead, begins⟩ : ∃ lead, alterTable = 'A' :: lead :=
    ⟨"LTER TABLE ".toList, by decide⟩
  have unended : ';' ∉ enumeration clauses := by
    intro member
    rcases mem_enumeration member with comma | space | ⟨clause, inside, here⟩
    · exact absurd comma (by decide)
    · exact absurd space (by decide)
    · exact (valid clause inside).unended here
  have bare := @Statement.bare_of_filled 'A' (by decide) (lead ++ (name ++ [' '])) _
    (filled_enumeration some_ valid) unended
  rw [alteration, begins]
  simpa using bare

end

/-! Constraints put together. -/

def AlterConstraints.concat (parts : List AlterConstraints) : AlterConstraints where
  foreignKeys := parts.flatMap AlterConstraints.foreignKeys
  primaryKeys := parts.flatMap AlterConstraints.primaryKeys
  uniqueKeys := parts.flatMap AlterConstraints.uniqueKeys
  autoIncrements := parts.flatMap AlterConstraints.autoIncrements
  indexes := parts.flatMap AlterConstraints.indexes

theorem concat_singleton (part : AlterConstraints) : AlterConstraints.concat [part] = part := by
  simp [AlterConstraints.concat]

theorem mapM_concat {α β ε : Type} {read : α → Except ε β} {single : β → AlterConstraints}
    {total : List β → AlterConstraints} (nil : total [] = {})
    (cons : ∀ first rest, total (first :: rest) = (single first).append (total rest)) (entries : List α) :
    (entries.mapM read).map total =
      (entries.mapM fun entry => (read entry).map single).map AlterConstraints.concat := by
  have whole : ∀ results, total results = .concat (results.map single) := by
    intro results
    induction results with
    | nil => exact nil
    | cons first rest ih =>
      rw [cons, ih]
      rfl
  rw [mapM_map_results]
  cases entries.mapM read with
  | error problem => rfl
  | ok results => exact congrArg Except.ok (whole results)

theorem extracted_singleton (statement : List Char) :
    extracted [statement] = (readStatement statement).map AlterConstraints.ofReadings := by
  rw [extracted, readAlterations, List.mapM_cons]
  cases readStatement statement with
  | error problem => rfl
  | ok readings => simp [bind, Except.bind, pure, Except.pure, Except.map]

theorem extracted_concat (statements : List (List Char)) :
    extracted statements =
      (statements.mapM fun statement => extracted [statement]).map AlterConstraints.concat := by
  have whole : extracted statements =
      (statements.mapM readStatement).map fun lists => .ofReadings lists.flatten := by
    rw [extracted, readAlterations]
    cases statements.mapM readStatement <;> rfl
  simp only [extracted_singleton, whole]
  exact @mapM_concat _ _ _ readStatement .ofReadings (fun lists => .ofReadings lists.flatten) rfl
    (fun first rest => by rw [List.flatten_cons, ofReadings_append]) statements

theorem declared_concat (table : String) (clauses : List (List Char)) :
    (clauses.mapM (readClause table)).map AlterConstraints.ofReadings =
      (clauses.mapM (declared table)).map AlterConstraints.concat :=
  @mapM_concat _ _ _ (readClause table) (fun reading => .ofReadings [reading]) .ofReadings rfl
    (fun first rest => by rw [← List.singleton_append, ofReadings_append]) clauses

/-! Clauses by themselves. -/

/-- The constraints that are read from a statement with these clauses. -/
def altered (name : List Char) (clauses : List (List Char)) : Except UnknownSpelling AlterConstraints :=
  extracted [Statement.bare (alteration name clauses)]

structure AlterConstraints.OnlyOf (constraints : AlterConstraints) (kind : ClauseKind) : Prop where
  foreignKeys : kind ≠ .foreignKey → constraints.foreignKeys = []
  primaryKeys : kind ≠ .primaryKey → constraints.primaryKeys = []
  uniqueKeys : kind ≠ .uniqueKey → constraints.uniqueKeys = []
  autoIncrements : kind ≠ .increment → constraints.autoIncrements = []
  indexes : kind ≠ .index → constraints.indexes = []

theorem onlyOf_nothing (kind : ClauseKind) : AlterConstraints.OnlyOf {} kind :=
  ⟨fun _ => rfl, fun _ => rfl, fun _ => rfl, fun _ => rfl, fun _ => rfl⟩

/-- How each clause of a list contributes: by itself, to the list of its kind alone, and nothing if it is of
none. -/
structure Contributes (own : List Char → Except UnknownSpelling AlterConstraints) : Prop where
  kind : ∀ clause constraints, own clause = .ok constraints → constraints.OnlyOf (clauseKind clause)
  other : ∀ clause, clauseKind clause = .other → own clause = .ok {}

theorem onlyOf_readClause {table : String} {clause : List Char} {reading : ClauseReading}
    (read : readClause table clause = .ok reading) :
    (AlterConstraints.add {} reading).OnlyOf (clauseKind clause) := by
  have increment : ∀ pattern, (AlterConstraints.add {} (readIncrement table pattern clause)).OnlyOf
      .increment := by
    intro pattern
    unfold readIncrement
    split <;> constructor <;> simp [AlterConstraints.add]
  unfold readClause at read
  unfold clauseKind
  simp only at read ⊢
  split_ifs at read ⊢
  · split at read <;> cases read <;> constructor <;> simp [AlterConstraints.add]
  · obtain ⟨keys, -, rfl⟩ := map_eq_ok read
    constructor <;> simp [AlterConstraints.add]
  · split at read <;> cases read <;> constructor <;> simp [AlterConstraints.add]
  · cases read
    exact increment _
  · cases read
    exact increment _
  · split at read
    · next found rest searched =>
      obtain ⟨index, rfl, -⟩ := kind_of_readIndex searched read
      constructor <;> simp [AlterConstraints.add]
    · cases read
      exact onlyOf_nothing _
  · cases read
    exact onlyOf_nothing _

theorem declared_other {clause : List Char} (other : clauseKind clause = .other) (table : String) :
    declared table clause = .ok {} := by
  have ignored : readClause table clause = .ok (.ignored table clause) := by
    unfold clauseKind at other
    unfold readClause
    simp only at other ⊢
    split_ifs at other ⊢
    rfl
  rw [declared, ignored]
  rfl

theorem clauseKind_trim (clause : List Char) : clauseKind (trim clause) = clauseKind clause := by
  rw [clauseKind, clauseKind, squeeze_trim]

section

variable {quote : Char} (quoted : quote = '\x60' ∨ quote = '\x22') {content : List Char}
  {clauses : List (List Char)} (some_ : clauses ≠ []) (valid : ∀ clause ∈ clauses, IsClause clause)

include quoted some_ valid

theorem altered_plain (named : content ≠ []) (plain : quote ∉ content) :
    altered (quotedName quote content) clauses =
      (clauses.mapM fun clause => declared (cleanString (quote :: (content ++ [quote]))) (trim clause)).map
        AlterConstraints.concat := by
  have left : trimRight (enumeration clauses) ≠ [] := by
    obtain ⟨c, member, -⟩ := filled_trimRight (filled_enumeration some_ valid)
    exact List.ne_nil_of_mem member
  obtain ⟨found, gap, body, matched, table, kept, blank, split⟩ :=
    header_quoted quoted named plain (undotted_enumeration some_ valid) left
  have pieces : splitCommas body = clauses.map trim := by
    rw [← splitCommas_blanks_append blank, ← split, splitCommas_cons_blank (by decide),
      splitCommas_trimRight, splitCommas_enumeration some_ (fun clause member => (valid clause member).piece)
        fun clause member => (valid clause member).filled]
  have text : Statement.bare (alteration (quotedName quote content) clauses) =
      alterTable ++ quote :: (content ++ quote :: ' ' :: trimRight (enumeration clauses)) := by
    rw [bare_alteration some_ valid, quotedName_plain plain]
    simp only [List.append_assoc, List.cons_append, List.nil_append]
  have read : readStatement (Statement.bare (alteration (quotedName quote content) clauses)) =
      (clauses.map trim).mapM (readClause (cleanString (quote :: (content ++ [quote])))) := by
    rw [readStatement, text, matched]
    simp only [table, kept, Option.getD_some, pieces]
  rw [altered, extracted_singleton, read, declared_concat, List.mapM_map]
  rfl

theorem altered_doubled (inside : quote ∈ content) :
    altered (quotedName quote content) clauses = .ok {} := by
  obtain ⟨front, rest, first, name⟩ := quotedName_doubled inside
  have text : Statement.bare (alteration (quotedName quote content) clauses) =
      alterTable ++ quote :: (front ++ quote :: quote ::
        (rest ++ ' ' :: trimRight (enumeration clauses))) := by
    rw [bare_alteration some_ valid, name]
    simp only [List.append_assoc, List.cons_append]
  have read : readStatement (Statement.bare (alteration (quotedName quote content) clauses)) = .ok [] := by
    rw [readStatement, text, header_doubled quoted first]
  rw [altered, extracted_singleton, read]
  rfl

end

theorem altered_eq {quote : Char} (quoted : quote = '\x60' ∨ quote = '\x22') {content : List Char}
    (named : content ≠ []) : ∃ own, Contributes own ∧
      ∀ clauses, clauses ≠ [] → (∀ clause ∈ clauses, IsClause clause) →
        altered (quotedName quote content) clauses = (clauses.mapM own).map AlterConstraints.concat := by
  by_cases inside : quote ∈ content
  · refine ⟨fun _ => .ok {}, ⟨fun clause constraints read => ?_, fun _ _ => rfl⟩,
      fun clauses some_ valid => ?_⟩
    · cases read
      exact onlyOf_nothing _
    · rw [altered_doubled quoted some_ valid inside, mapM_ok fun clause _ => rfl]
      simp [AlterConstraints.concat, Except.map]
  · refine ⟨_, ⟨fun clause constraints read => ?_, fun clause other => ?_⟩,
      fun clauses some_ valid => altered_plain quoted some_ valid named inside⟩
    · obtain ⟨reading, single, rfl⟩ := map_eq_ok read
      rw [← clauseKind_trim]
      exact onlyOf_readClause single
    · exact declared_other ((clauseKind_trim clause).trans other) _

theorem flatMap_kind {α : Type} {value : List Char → AlterConstraints} {kind : ClauseKind}
    (list : AlterConstraints → List α)
    (others : ∀ clause, clauseKind clause ≠ kind → list (value clause) = []) (clauses : List (List Char)) : (clauses.map value).flatMap list =
      (clauses.filter (clauseKind · = kind)).flatMap fun clause => list (value clause) := by
  induction clauses with
  | nil => rfl
  | cons clause rest ih =>
    rw [List.map_cons, List.flatMap_cons, ih]
    by_cases same : clauseKind clause = kind
    · simp [same]
    · simp [same, others clause same]

theorem concat_congr {value : List Char → AlterConstraints}
    (only : ∀ clause, (value clause).OnlyOf (clauseKind clause)) {clauses others : List (List Char)}
    (same : ∀ kind, kind ≠ .other →
      others.filter (clauseKind · = kind) = clauses.filter (clauseKind · = kind)) :
    AlterConstraints.concat (others.map value) = .concat (clauses.map value) := by
  have lists : ∀ {α : Type} (list : AlterConstraints → List α) (kind : ClauseKind), kind ≠ .other →
      (∀ clause, clauseKind clause ≠ kind → list (value clause) = []) →
        (others.map value).flatMap list = (clauses.map value).flatMap list := by
    intro α list kind known vanishes
    rw [flatMap_kind list vanishes, flatMap_kind list vanishes, same kind known]
  simp only [AlterConstraints.concat, AlterConstraints.mk.injEq]
  exact ⟨lists _ .foreignKey (by decide) fun clause => (only clause).foreignKeys,
    lists _ .primaryKey (by decide) fun clause => (only clause).primaryKeys,
    lists _ .uniqueKey (by decide) fun clause => (only clause).uniqueKeys,
    lists _ .increment (by decide) fun clause => (only clause).autoIncrements,
    lists _ .index (by decide) fun clause => (only clause).indexes⟩

theorem Contributes.reordered {own : List Char → Except UnknownSpelling AlterConstraints}
    (contributes : Contributes own) {clauses others : List (List Char)}
    (same : ∀ kind, kind ≠ .other →
      others.filter (clauseKind · = kind) = clauses.filter (clauseKind · = kind))
    {constraints : AlterConstraints}
    (read : (clauses.mapM own).map AlterConstraints.concat = .ok constraints) :
    (others.mapM own).map AlterConstraints.concat = .ok constraints := by
  obtain ⟨parts, mapped, rfl⟩ := map_eq_ok read
  let value := fun clause => match own clause with
    | .ok part => part
    | .error _ => {}
  have only : ∀ clause, (value clause).OnlyOf (clauseKind clause) := by
    intro clause
    simp only [value]
    split
    · next part here => exact contributes.kind clause part here
    · exact onlyOf_nothing _
  have first : ∀ clause ∈ clauses, own clause = .ok (value clause) := by
    intro clause member
    obtain ⟨part, here⟩ := not_fails_iff.mp fun failed => not_fails_ok parts
      (mapped ▸ fails_mapM.mpr ⟨clause, member, failed⟩)
    simp only [value, here]
  have second : ∀ clause ∈ others, own clause = .ok (value clause) := by
    intro clause member
    by_cases kindless : clauseKind clause = .other
    · simp only [value, contributes.other clause kindless]
    · have inside : clause ∈ others.filter (clauseKind · = clauseKind clause) :=
        List.mem_filter.mpr ⟨member, decide_eq_true rfl⟩
      rw [same _ kindless] at inside
      exact first clause (List.mem_of_mem_filter inside)
  have parts : parts = clauses.map value := Except.ok.inj (mapped.symm.trans (mapM_ok first))
  rw [mapM_ok second, parts]
  exact congrArg Except.ok (concat_congr only same)

theorem concat_skipped {own : List Char → Except UnknownSpelling AlterConstraints}
    {front back : List (List Char)} {clause : List Char} (nothing : own clause = .ok {}) :
    ((front ++ clause :: back).mapM own).map AlterConstraints.concat =
      ((front ++ back).mapM own).map AlterConstraints.concat := by
  rw [List.mapM_append, List.mapM_append, List.mapM_cons, nothing]
  cases front.mapM own with
  | error problem => rfl
  | ok fronts =>
    cases back.mapM own with
    | error problem => rfl
    | ok backs => simp [bind, Except.bind, pure, Except.pure, Except.map, AlterConstraints.concat]

/-- Each clause of a statement on a quoted table is read as if it stood alone, and so is each statement: what
is read from all of them is put together from the single ones. So the order of the clauses matters within
their kinds alone, and a clause that declares nothing changes nothing. -/
theorem clauses_read_apart {quote : Char} (quoted : quote = '\x60' ∨ quote = '\x22') {content : List Char}
    (named : content ≠ []) {clauses : List (List Char)} (some_ : clauses ≠ [])
    (valid : ∀ clause ∈ clauses, IsClause clause) :
    (altered (quotedName quote content) clauses =
      (clauses.mapM fun clause => altered (quotedName quote content) [clause]).map .concat) ∧
    (∀ others, others ≠ [] → (∀ clause ∈ others, IsClause clause) →
      (∀ kind, kind ≠ .other →
        others.filter (clauseKind · = kind) = clauses.filter (clauseKind · = kind)) →
      ∀ constraints, altered (quotedName quote content) clauses = .ok constraints →
        altered (quotedName quote content) others = .ok constraints) ∧
    (∀ front clause back, clauses = front ++ clause :: back → front ++ back ≠ [] →
      altered (quotedName quote content) [clause] = .ok {} →
        altered (quotedName quote content) clauses = altered (quotedName quote content) (front ++ back)) ∧
    ∀ pieces : List (List Char), extracted (pieces.map Statement.bare) =
      (pieces.mapM fun piece => extracted [Statement.bare piece]).map .concat := by
  obtain ⟨own, contributes, all⟩ := altered_eq quoted named
  have single : ∀ clause ∈ clauses, altered (quotedName quote content) [clause] = own clause := by
    intro clause member
    rw [all [clause] (List.cons_ne_nil _ _) (List.forall_mem_singleton.mpr (valid clause member)),
      List.mapM_cons]
    cases own clause with
    | error problem => rfl
    | ok part => exact congrArg Except.ok (concat_singleton part)
  refine ⟨?_, fun others nonempty known same constraints read => ?_,
    fun front clause back split left nothing => ?_, fun pieces => ?_⟩
  · rw [all clauses some_ valid, mapM_congr single]
  · rw [all clauses some_ valid] at read
    rw [all others nonempty known]
    exact contributes.reordered same read
  · subst split
    rw [single clause (by simp)] at nothing
    have rest : ∀ clause ∈ front ++ back, IsClause clause := fun other member =>
      valid other (by simp only [List.mem_append, List.mem_cons] at member ⊢; tauto)
    rw [all _ some_ valid, all _ left rest, concat_skipped nothing]
  · rw [extracted_concat, List.mapM_map]
    rfl

/-- A key and an index change places around an engine, which is no constraint. -/
theorem clauses_read_apart_engine :
    let key := "ADD PRIMARY KEY (a, b)".toList
    let engine := "ENGINE = InnoDB".toList
    let index := " ADD INDEX i (c) ".toList
    let name := quotedName '\x60' ['t']
    (∀ clause ∈ [key, engine, index], IsClause clause) ∧
    (∀ clause ∈ [index, key], IsClause clause) ∧
    altered name [key, engine, index] =
      .ok { primaryKeys := [⟨"t", ["a", "b"]⟩], indexes := [⟨"t", ["c"], some "i", .plain⟩] } ∧
    altered name [key, engine, index] =
      ([key, engine, index].mapM fun clause => altered name [clause]).map .concat ∧
    altered name [index, key] = altered name [key, engine, index] ∧
    altered name [key, index] = altered name [key, engine, index] := by
  intro key engine index name
  have valid : ∀ clause ∈ [key, engine, index], IsClause clause := by decide +kernel
  have others : ∀ clause ∈ [index, key], IsClause clause := by decide +kernel
  have read : altered name [key, engine, index] =
      .ok { primaryKeys := [⟨"t", ["a", "b"]⟩], indexes := [⟨"t", ["c"], some "i", .plain⟩] } := by
    decide +kernel
  have kinds : ∀ kind, kind ≠ .other → [index, key].filter (clauseKind · = kind) =
      [key, engine, index].filter (clauseKind · = kind) := by
    intro kind known
    cases kind <;> first | exact absurd rfl known | decide +kernel
  have nothing : altered name [engine] = .ok {} := by decide +kernel
  obtain ⟨apart, reordered, skipped, -⟩ :=
    @clauses_read_apart '\x60' (.inl rfl) ['t'] (by decide) [key, engine, index] (by decide) valid
  exact ⟨valid, others, read, apart, (reordered [index, key] (by decide) others kinds _ read).trans read.symm,
    (skipped [key] engine [index] rfl (by decide) nothing).symm⟩

/-- A dot behind blanks joins the first clause to the name of the table, and the others go with it. -/
theorem dotted_clause_renames :
    let dotted := " .b c".toList
    let key := "ADD PRIMARY KEY (a)".toList
    let name := quotedName '\x60' ['t']
    dotted.head? ≠ some '.' ∧ Filled dotted ∧ ';' ∉ dotted ∧ IsPiece dotted ∧
    IsClause key ∧
    altered name [dotted, key] = .ok { primaryKeys := [⟨"b", ["a"]⟩] } ∧
    altered name [dotted, key] ≠
      ([dotted, key].mapM fun clause => altered name [clause]).map AlterConstraints.concat ∧
    altered name [key] = .ok { primaryKeys := [⟨"t", ["a"]⟩] } := by
  decide +kernel

end DdlSchema.Schema
