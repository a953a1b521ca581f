import DdlSchema.Proofs.Schema.AlterReading
import DdlSchema.Proofs.Schema.ClauseBounds
import DdlSchema.Proofs.Text.Recasing

/-! What the content of a literal does to the constraints that are read from a statement. Clauses are read
with their literals in them, so a content can put constraints there. It cannot only where the clause adds a
primary key in front of the literal, since such a clause is read no further. -/

set_option autoImplicit false

namespace DdlSchema.Schema

open DdlSchema.Text DdlSchema.Text.Pattern

/-! Constraints of one clause among those of others. -/

def AlterConstraints.append (first second : AlterConstraints) : AlterConstraints where
  foreignKeys := first.foreignKeys ++ second.foreignKeys
  primaryKeys := first.primaryKeys ++ second.primaryKeys
  uniqueKeys := first.uniqueKeys ++ second.uniqueKeys
  autoIncrements := first.autoIncrements ++ second.autoIncrements
  indexes := first.indexes ++ second.indexes

theorem AlterConstraints.add_append (alter : AlterConstraints) (reading : ClauseReading)
    (later : AlterConstraints) :
    (alter.add reading).append later = alter.append ((AlterConstraints.add {} reading).append later) := by
  cases reading <;> simp [AlterConstraints.add, append]

theorem foldl_addReading (alter : AlterConstraints) (readings : List ClauseReading) :
    readings.foldl AlterConstraints.add alter = alter.append (.ofReadings readings) := by
  induction readings generalizing alter with
  | nil => simp [AlterConstraints.ofReadings, AlterConstraints.append]
  | cons reading rest ih =>
    rw [AlterConstraints.ofReadings, List.foldl_cons, List.foldl_cons, ih, ih (.add {} reading),
      AlterConstraints.add_append]

theorem ofReadings_append (first second : List ClauseReading) :
    AlterConstraints.ofReadings (first ++ second) =
      (AlterConstraints.ofReadings first).append (.ofReadings second) := by
  rw [AlterConstraints.ofReadings, List.foldl_append]
  exact foldl_addReading _ second

theorem AlterConstraints.append_inj {first last : AlterConstraints} {middle other : AlterConstraints}
    (same : first.append (middle.append last) = first.append (other.append last)) : middle = other := by
  cases middle
  cases other
  simpa [append] using same

/-! The clauses of a statement. -/

theorem overRun_everything {α : Type} {captured : List (String × List Char)} {next : Cursor → Option α}
    (total : ∀ place, (next place).isSome = true) {least : Nat} (before : Option Char) {rest : List Char}
    (consumed : Nat) (enough : least ≤ rest.length) :
    overRun (fun _ => true) captured next least before rest consumed =
      next (Cursor.past ⟨before, rest, consumed, captured⟩ rest) := by
  induction rest generalizing least before consumed with
  | nil => rw [overRun, if_pos (Nat.le_zero.mp enough), Cursor.past_nil]
  | cons c rest ih =>
    have more : least - 1 ≤ rest.length := by
      simp only [List.length_cons] at enough
      omega
    obtain ⟨result, found⟩ := Option.isSome_iff_exists.mp
      (total (Cursor.past ⟨some c, rest, consumed + 1, captured⟩ rest))
    rw [Cursor.past_cons]
    simp only [overRun, if_true, ih (some c) (consumed + 1) more, found]

theorem header_matchStart {text : List Char}
    (inside : ∀ later, Reaches Clause.headStart ⟨none, text, 0, []⟩ later → later.rest ≠ []) :
    Clause.header.matchStart text = (Clause.headStart.matchStart text).map fun found =>
      ⟨text.length, ("body", text.drop found.length) :: found.captured⟩ := by
  have parts : Clause.header.matchStart text = run? Clause.headStart ⟨none, text, 0, []⟩ fun middle =>
    run? (.capture "body" (.run (fun _ => true) 1)) middle fun place =>
      some ⟨place.consumed, place.captured⟩ := rfl
  rw [parts]
  refine run?_map fun later reach => ?_
  obtain ⟨taken, whole, count⟩ := reach.spans
  simp only [Nat.zero_add] at whole count
  have rest : text.drop later.consumed = later.rest := by rw [whole, count, List.drop_left]
  have length : text.length = later.consumed + later.rest.length := by
    rw [whole, List.length_append, count]
  have enough : 1 ≤ later.rest.length := List.length_pos_iff.mpr (inside later reach)
  simp only [run?]
  rw [overRun_everything (fun _ => rfl) _ _ enough]
  simp [Cursor.past, rest, length]

/-! The text around a literal. -/

/-- A statement around the content of one of its literals: the header with what belongs to it, the clauses
up to the literal, and the rest behind the literal. -/
structure Surroundings where
  head : List Char
  before : List Char
  after : List Char
  /-- The name of the table that is altered. -/
  table : String

/-- No quote, no backslash and no null character. -/
def IsPlain (content : List Char) : Prop := ∀ c ∈ content, isQuote c = false ∧ c ≠ '\\' ∧ c ≠ '\x00'

instance (content : List Char) : Decidable (IsPlain content) := List.decidableBAll _ content

theorem isPlain_nil : IsPlain [] := List.forall_mem_nil _

theorem IsPlain.not_mem {content : List Char} (plain : IsPlain content) : '\x27' ∉ content :=
  fun member => absurd (plain _ member).1 (by decide)

theorem Settled.of_plain {front back content : List Char} (settled : Settled front (quotation [] ++ back))
    (plain : IsPlain content) : Settled front (quotation content ++ back) := by
  have apart : ∀ {mark : Char}, isQuote mark = true → mark ∉ quotation [] ++ back →
      mark ∉ quotation content ++ back := by
    intro mark quote other
    have outside : mark ∉ content := fun member => by simp [(plain mark member).1] at quote
    simp only [quotation, List.mem_append, List.mem_cons, not_or] at other ⊢
    exact ⟨⟨other.1.1, outside, other.1.1, List.not_mem_nil⟩, other.2⟩
  exact ⟨rfl, settled.backquoted.imp_right (apart rfl), settled.quoted.imp_right (apart rfl),
    settled.bracketed, settled.listed⟩

namespace Surroundings

variable (around : Surroundings)

def body (content : List Char) : List Char := around.before ++ (quotation content ++ around.after)

def statement (content : List Char) : List Char := around.head ++ around.body content

/-- The clause of the literal up to it. -/
def front : List Char := trimLeft ((commaPieces none 0 around.before).getLastD [])

/-- The pieces from the literal on. -/
def others : List (List Char) :=
  commaPieces none (commaState (none, 0) around.before).2 around.after

def back : List Char := trimRight (around.others.headD [])

def clause (content : List Char) : List Char := around.front ++ (quotation content ++ around.back)

def earlier : List (List Char) := clausesOf (commaPieces none 0 around.before).dropLast

def later : List (List Char) := clausesOf around.others.tail

/-- The literal is one of an ALTER TABLE statement, and neither the header nor a key or a reference that
begins in front of it gets into it. -/
structure Fits : Prop where
  opens : (Clause.header.matchStart (around.statement [])).map (fun found =>
    (cleanString ((found.get? "table").getD []), (found.get? "body").getD [])) =
      some (around.table, around.body [])
  outside : (commaState (none, 0) around.before).1 = none
  header : ∀ content, IsPlain content →
    Contained Clause.headStart (around.head ++ around.before) (quotation content ++ around.after)
  key : ∀ content, IsPlain content →
    Contained Clause.primaryKey around.front (quotation content ++ around.back)
  link : ∀ content, IsPlain content →
    Contained Clause.foreignKey around.front (quotation content ++ around.back)

/-- All that is read beside the literal is spelled in a known way. -/
structure Known : Prop where
  clauses : ∀ clause ∈ around.earlier ++ around.later,
    ∃ reading, readClause around.table clause = .ok reading
  links : ∃ keys, (Clause.foreignKey.allMatches (around.clause [])).mapM
    (readForeignKey around.table) = .ok keys

/-- The clause adds a primary key, and what declares it begins in front of the literal. -/
def Keyed : Prop :=
  "ADD".toList.isPrefixOf (upper (squeeze (around.clause []))) = true ∧
    occursIn "PRIMARY KEY".toList (upper (squeeze (around.clause []))) = true ∧
    ∃ found tail, tail ≠ [] ∧ Clause.primaryKey.search (around.clause []) =
      some (found, tail ++ (quotation [] ++ around.back))

variable {around}

theorem Fits.of_settled
    (opens : (Clause.header.matchStart (around.statement [])).map (fun found =>
      (cleanString ((found.get? "table").getD []), (found.get? "body").getD [])) =
        some (around.table, around.body []))
    (outside : (commaState (none, 0) around.before).1 = none)
    (whole : Settled (around.head ++ around.before) (quotation [] ++ around.after))
    (clause : Settled around.front (quotation [] ++ around.back)) : around.Fits where
  opens
  outside
  header _ plain := (whole.of_plain plain).headStart
  key _ plain := (clause.of_plain plain).primaryKey
  link _ plain := (clause.of_plain plain).foreignKey

theorem statement_eq (content : List Char) : around.statement content =
    (around.head ++ around.before) ++ '\x27' :: (content ++ '\x27' :: around.after) := by
  rw [statement, body, ← List.append_assoc, append_quotation]

theorem Fits.readStatement_eq (fits : around.Fits) {content : List Char} (plain : IsPlain content) :
    readStatement (around.statement content) =
      (around.earlier ++ around.clause content :: around.later).mapM (readClause around.table) := by
  have contained : ∀ content, IsPlain content → Contained Clause.headStart (around.head ++ around.before)
      ('\x27' :: (content ++ '\x27' :: around.after)) := fun content plain => by
    have held := fits.header content plain
    rwa [quotation, List.cons_append, List.append_assoc] at held
  have header : ∀ content, IsPlain content → Clause.header.matchStart (around.statement content) =
      (Clause.headStart.matchStart (around.statement [])).map fun found =>
        ⟨(around.statement content).length,
          ("body", (around.statement content).drop found.length) :: found.captured⟩ := by
    intro content plain
    have same : Clause.headStart.matchStart (around.statement content) =
        Clause.headStart.matchStart (around.statement []) := by
      rw [statement_eq, statement_eq]
      exact (contained content plain).matchAt_eq (by decide) (contained [] isPlain_nil) none
    rw [← same]
    refine header_matchStart fun later reach none => ?_
    -- the literal at least is left, since the start does not get into it
    rw [statement_eq] at reach
    obtain ⟨taken, whole, count⟩ := reach.spans
    have within := contained content plain _ _ List.suffix_rfl later reach
    have longer := congrArg List.length whole
    simp only [none, List.length_append, List.length_cons, List.length_nil] at longer count within
    omega
  obtain ⟨found, matched, read⟩ := Option.map_eq_some_iff.mp fits.opens
  -- the header captures its body from the place where its start ends, which is behind the head
  rw [header [] isPlain_nil] at matched
  obtain ⟨start, began, rfl⟩ := Option.map_eq_some_iff.mp matched
  have parts := Prod.mk.inj read
  have table : cleanString ((start.get? "table").getD []) = around.table := parts.1
  have body : (around.statement []).drop start.length = around.body [] := parts.2
  have length : start.length = around.head.length := by
    have lengths := congrArg List.length body
    have some_ : 0 < (around.body []).length := by
      simp only [Surroundings.body, quotation, List.length_append, List.length_cons]
      omega
    simp only [statement, List.length_drop, List.length_append] at lengths
    omega
  have clauses : splitCommas (around.body content) = _ :=
    splitCommas_quotation around.after fits.outside plain.not_mem
  rw [readStatement, header content plain, began]
  simp only [Option.map_some, length, statement, List.drop_left]
  have table' : cleanString ((Match.get? ⟨(around.head ++ around.body content).length,
      ("body", around.body content) :: start.captured⟩ "table").getD []) = around.table := table
  rw [table']
  exact congrArg (List.mapM (readClause around.table)) clauses

theorem clause_eq (content : List Char) : around.clause content =
    around.front ++ '\x27' :: (content ++ '\x27' :: around.back) :=
  append_quotation _ _ _

/-! The words of the clause. -/

theorem words_clause (around : Surroundings) : ∃ lead tail : List Char, ∀ content,
    ∃ middle, (∀ back, gapped false (content ++ '\x27' :: back) = middle ++ '\x27' :: gapped false back) ∧
      upper (squeeze (around.clause content)) = lead ++ '\x27' :: (upper middle ++ '\x27' :: tail) := by
  have solid : isBlank '\x27' = false := by decide
  obtain ⟨lead, squeezed⟩ := squeeze_mark solid around.front
  refine ⟨upper lead, upper (gapped false around.back), fun content => ?_⟩
  obtain ⟨middle, inside⟩ := gapped_mark solid false content
  refine ⟨middle, inside, ?_⟩
  rw [clause_eq, squeezed, inside, upper_append, ← List.singleton_append, upper_append, upper_append,
    ← List.singleton_append, upper_append]
  rfl

theorem adds_clause (content : List Char) :
    "ADD".toList.isPrefixOf (upper (squeeze (around.clause content))) =
      "ADD".toList.isPrefixOf (upper (squeeze (around.clause []))) := by
  obtain ⟨lead, tail, all⟩ := around.words_clause
  obtain ⟨middle, -, words⟩ := all content
  obtain ⟨middle', -, words'⟩ := all []
  have apart : '\x27' ∉ "ADD".toList := by decide
  rw [words, words', isPrefixOf_mark apart, isPrefixOf_mark apart]

theorem occursIn_clause {phrase : List Char} (some_ : phrase ≠ []) (apart : '\x27' ∉ phrase)
    {content middle : List Char}
    (inside : ∀ back, gapped false (content ++ '\x27' :: back) = middle ++ '\x27' :: gapped false back) :
    occursIn phrase (upper (squeeze (around.clause content))) =
      (occursIn phrase (upper (squeeze (around.clause []))) || occursIn phrase (upper middle)) := by
  obtain ⟨lead, tail, all⟩ := around.words_clause
  obtain ⟨own, inside', words⟩ := all content
  obtain ⟨nothing, empty, words'⟩ := all []
  have own : own = middle := List.append_cancel_right ((inside' []).symm.trans (inside []))
  have nothing : nothing = [] := by
    have single : ['\x27'] = nothing ++ ['\x27'] := empty []
    simpa using single
  have absent : occursIn phrase [] = false := by simpa [occursIn] using some_
  rw [words, words', own, nothing]
  simp only [occursIn_mark apart, upper, List.flatMap_nil, absent, Bool.false_or]
  cases occursIn phrase lead <;> simp [Bool.or_comm]

theorem occursIn_clause_of_nil {phrase : List Char} (some_ : phrase ≠ []) (apart : '\x27' ∉ phrase)
    (mentions : occursIn phrase (upper (squeeze (around.clause []))) = true) (content : List Char) :
    occursIn phrase (upper (squeeze (around.clause content))) = true := by
  obtain ⟨lead, tail, whole⟩ := around.words_clause
  obtain ⟨middle, inside, -⟩ := whole content
  rw [occursIn_clause some_ apart inside, mentions, Bool.true_or]

end Surroundings

/-- What is read from one clause, by itself. -/
def declared (table : String) (clause : List Char) : Except UnknownSpelling AlterConstraints :=
  (readClause table clause).map fun reading => .ofReadings [reading]

section

variable {table : String} {clause : List Char}

theorem declared_key (adds : "ADD".toList.isPrefixOf (upper (squeeze clause)) = true)
    (mentions : occursIn "PRIMARY KEY".toList (upper (squeeze clause)) = true) {found : Match}
    {rest : List Char} (searched : Clause.primaryKey.search clause = some (found, rest)) :
    declared table clause = .ok { primaryKeys := [⟨table, Match.columns found⟩] } := by
  rw [declared, readClause]
  simp only [adds, mentions, Bool.and_self, if_true, searched]
  rfl

theorem declared_links
    (other : ("ADD".toList.isPrefixOf (upper (squeeze clause)) &&
      occursIn "PRIMARY KEY".toList (upper (squeeze clause))) = false)
    (mentions : occursIn "FOREIGN KEY".toList (upper (squeeze clause)) = true)
    {keys : List (List ForeignKey)}
    (read : (Clause.foreignKey.allMatches clause).mapM (readForeignKey table) = .ok keys) :
    declared table clause = .ok { foreignKeys := keys.flatten } := by
  rw [declared, readClause]
  simp only [other, mentions, Bool.false_eq_true, if_false, if_true, read]
  rfl

end

/-! Contents that declare something. -/

def linkContent (target : Char) : List Char := "FOREIGN KEY (a) REFERENCES ".toList ++ [target]

def linkMatch (target : Char) : Match := ⟨28, [("actions", []), ("table", [target]), ("columns", ['a'])]⟩

def linkKey (table : String) (target : Char) : ForeignKey where
  table
  column := "a"
  target := ⟨String.ofList [target], defaultTargetColumn⟩

def keyContent (column : Char) : List Char := "ADD PRIMARY KEY (".toList ++ [column, ')']

def keyMatch (column : Char) : Match := ⟨19, [("columns", [column])]⟩

section

variable {name : Char} (before : Option Char) (back : List Char)

theorem matchesFrom_link (one : name = 'b' ∨ name = 'c') :
    Clause.foreignKey.matchesFrom 0 before ('\x27' :: (linkContent name ++ '\x27' :: back)) =
      linkMatch name :: Clause.foreignKey.matchesFrom 0 (some '\x27') back := by
  rcases one with rfl | rfl <;> rfl

theorem matchesFrom_nothing : Clause.foreignKey.matchesFrom 0 before ('\x27' :: '\x27' :: back) =
    Clause.foreignKey.matchesFrom 0 (some '\x27') back :=
  rfl

theorem searchFrom_key (one : name = 'b' ∨ name = 'c') :
    Clause.primaryKey.searchFrom before ('\x27' :: (keyContent name ++ '\x27' :: back)) =
      some (keyMatch name, keyContent name ++ '\x27' :: back) := by
  rcases one with rfl | rfl <;> rfl

end

theorem columns_keyMatch {name : Char} (one : name = 'b' ∨ name = 'c') :
    Match.columns (keyMatch name) = [String.ofList [name]] := by
  rcases one with rfl | rfl <;> decide +kernel

theorem readForeignKey_link {name : Char} (one : name = 'b' ∨ name = 'c') (table : String) :
    readForeignKey table (linkMatch name) = .ok [linkKey table name] := by
  have columns : Match.columns (linkMatch name) = ["a"] := by
    rcases one with rfl | rfl <;> decide +kernel
  have target : cleanString [name] = String.ofList [name] := by
    rcases one with rfl | rfl <;> decide +kernel
  have none : columnNames [] = [] := by decide +kernel
  have parts : (linkMatch name).get? "actions" = some [] ∧ (linkMatch name).get? "targets" = Option.none ∧
      (linkMatch name).get? "table" = some [name] ∧ (linkMatch name).get? "name" = Option.none :=
    ⟨rfl, rfl, rfl, rfl⟩
  simp only [readForeignKey, columns, parts, Option.getD_some, Option.getD_none, none, target]
  rfl

theorem isPlain_link {name : Char} (one : name = 'b' ∨ name = 'c') : IsPlain (linkContent name) := by
  rcases one with rfl | rfl <;> decide

theorem isPlain_key {name : Char} (one : name = 'b' ∨ name = 'c') : IsPlain (keyContent name) := by
  rcases one with rfl | rfl <;> decide

/-! What a content makes of its clause. -/

namespace Surroundings

variable {around : Surroundings}

theorem contained_behind {pattern : Pattern} (contained : ∀ content, IsPlain content →
      Contained pattern around.front (quotation content ++ around.back))
    (content : { content : List Char // IsPlain content }) :
    Contained pattern around.front ('\x27' :: (content.1 ++ '\x27' :: around.back)) := by
  have held := contained content.1 content.2
  rwa [quotation, List.cons_append, List.append_assoc] at held

theorem Fits.declared_link (fits : around.Fits) (known : around.Known)
    (other : ("ADD".toList.isPrefixOf (upper (squeeze (around.clause []))) &&
      occursIn "PRIMARY KEY".toList (upper (squeeze (around.clause [])))) = false) :
    ∃ first last, ∀ name, name = 'b' ∨ name = 'c' →
      declared around.table (around.clause (linkContent name)) =
        .ok { foreignKeys := first ++ linkKey around.table name :: last } := by
  -- the empty content shows what is matched in front of the literal and behind it
  obtain ⟨found, all⟩ := matchesFrom_front (by decide) (contained_behind fits.link) ⟨[], isPlain_nil⟩
    (Nat.zero_le _) none
  obtain ⟨keys, read⟩ := known.links
  have empty := all ⟨[], isPlain_nil⟩
  rw [← clause_eq, List.nil_append, matchesFrom_nothing] at empty
  rw [allMatches, empty] at read
  obtain ⟨first, last, readFirst, readLast⟩ := mapM_append_ok read
  refine ⟨first.flatten, last.flatten, fun name one => ?_⟩
  have inside : ∀ back, gapped false (linkContent name ++ '\x27' :: back) =
      linkContent name ++ '\x27' :: gapped false back := by
    rcases one with rfl | rfl <;> exact fun back => rfl
  have linked := all ⟨linkContent name, isPlain_link one⟩
  rw [← clause_eq, matchesFrom_link _ _ one] at linked
  have keyless : occursIn "PRIMARY KEY".toList (upper (linkContent name)) = false := by
    rcases one with rfl | rfl <;> decide
  have mentions : occursIn "FOREIGN KEY".toList (upper (linkContent name)) = true := by
    rcases one with rfl | rfl <;> decide
  have links := @declared_links around.table (around.clause (linkContent name))
    (by rw [adds_clause, occursIn_clause (by decide) (by decide) inside, keyless, Bool.or_false, other])
    (by rw [occursIn_clause (by decide) (by decide) inside, mentions, Bool.or_true])
    (first ++ [linkKey around.table name] :: last)
    (by rw [allMatches, linked, mapM_around readFirst readLast, readForeignKey_link one]; rfl)
  rw [links]
  simp

theorem Fits.declared_keyed (fits : around.Fits) (keyed : around.Keyed) :
    ∃ constraints, ∀ content, IsPlain content →
      declared around.table (around.clause content) = .ok constraints := by
  obtain ⟨adds, mentions, found, tail, some_, searched⟩ := keyed
  rcases searchFrom_front (by decide) (contained_behind fits.key) ⟨[], isPlain_nil⟩ none with
    ⟨first, rest, -, all⟩ | all
  · refine ⟨{ primaryKeys := [⟨around.table, Match.columns first⟩] }, fun content plain => ?_⟩
    have here := all ⟨content, plain⟩
    rw [← clause_eq] at here
    exact declared_key (by rw [adds_clause, adds]) (occursIn_clause_of_nil (by decide) (by decide) mentions _)
      here
  · -- a search that begins at the literal finds nothing longer than the rest from there on
    have here := all ⟨[], isPlain_nil⟩
    rw [← clause_eq] at here
    have suffix := (searchFrom_sound (here.symm.trans searched)).1
    have short := suffix.length_le
    have long : 0 < tail.length := List.length_pos_iff.mpr some_
    simp only [List.length_append, List.length_cons, quotation, List.length_nil] at short
    omega

theorem Fits.declared_unkeyed (fits : around.Fits) (unkeyed : ¬around.Keyed)
    (adds : "ADD".toList.isPrefixOf (upper (squeeze (around.clause []))) = true)
    (mentions : occursIn "PRIMARY KEY".toList (upper (squeeze (around.clause []))) = true) {name : Char}
    (one : name = 'b' ∨ name = 'c') : declared around.table (around.clause (keyContent name)) =
      .ok { primaryKeys := [⟨around.table, [String.ofList [name]]⟩] } := by
  rcases searchFrom_front (by decide) (contained_behind fits.key) ⟨[], isPlain_nil⟩ none with
    ⟨first, rest, some_, all⟩ | all
  · have here := all ⟨[], isPlain_nil⟩
    rw [← clause_eq] at here
    exact absurd ⟨adds, mentions, first, rest, some_, here⟩ unkeyed
  · have here := all ⟨keyContent name, isPlain_key one⟩
    rw [← clause_eq, searchFrom_key _ _ one] at here
    rw [← columns_keyMatch one]
    exact declared_key (by rw [adds_clause, adds]) (occursIn_clause_of_nil (by decide) (by decide) mentions _)
      here

/-- The content makes no difference to its clause just where a key stands in front of it. -/
theorem Fits.declared_iff (fits : around.Fits) (known : around.Known) :
    (∀ content other, IsPlain content → IsPlain other →
      declared around.table (around.clause content) = declared around.table (around.clause other)) ↔
        around.Keyed := by
  have first : 'b' = 'b' ∨ 'b' = 'c' := .inl rfl
  have second : 'c' = 'b' ∨ 'c' = 'c' := .inr rfl
  constructor
  · -- of two keys or two references, as the clause has it, the content puts in one or the other
    intro same
    by_contra unkeyed
    by_cases key : ("ADD".toList.isPrefixOf (upper (squeeze (around.clause []))) &&
        occursIn "PRIMARY KEY".toList (upper (squeeze (around.clause [])))) = true
    · obtain ⟨adds, mentions⟩ := Bool.and_eq_true_iff.mp key
      have equal := same _ _ (isPlain_key first) (isPlain_key second)
      rw [fits.declared_unkeyed unkeyed adds mentions first,
        fits.declared_unkeyed unkeyed adds mentions second] at equal
      simp at equal
    · obtain ⟨keys, others, linked⟩ := fits.declared_link known (by simpa using key)
      have equal := same _ _ (isPlain_link first) (isPlain_link second)
      rw [linked _ first, linked _ second] at equal
      simp [linkKey] at equal
  · intro keyed content other plain plain'
    obtain ⟨constraints, all⟩ := fits.declared_keyed keyed
    rw [all content plain, all other plain']

end Surroundings

/-! Whole scripts. -/

/-- All constraints that are read from the statements. -/
def extracted (statements : List (List Char)) : Except UnknownSpelling AlterConstraints :=
  (readAlterations statements).map AlterConstraints.ofReadings

namespace Surroundings

variable {around : Surroundings}

theorem Fits.extracted_eq (fits : around.Fits) (known : around.Known) {first last : List (List Char)}
    {firsts lasts : List ClauseReading} (readFirst : readAlterations first = .ok firsts)
    (readLast : readAlterations last = .ok lasts) :
    ∃ before after : AlterConstraints, ∀ content, IsPlain content →
      extracted (first ++ around.statement content :: last) =
        (declared around.table (around.clause content)).map fun own =>
          before.append (own.append after) := by
  obtain ⟨earlier, readEarlier⟩ := exists_mapM fun clause member =>
    known.clauses clause (List.mem_append_left _ member)
  obtain ⟨later, readLater⟩ := exists_mapM fun clause member =>
    known.clauses clause (List.mem_append_right _ member)
  obtain ⟨lists, mapped, flat⟩ := map_eq_ok readFirst
  obtain ⟨lists', mapped', flat'⟩ := map_eq_ok readLast
  refine ⟨.ofReadings (firsts ++ earlier), .ofReadings (later ++ lasts), fun content plain => ?_⟩
  rw [extracted, readAlterations, mapM_around mapped mapped', fits.readStatement_eq plain,
    mapM_around readEarlier readLater, declared]
  cases readClause around.table (around.clause content) with
  | error problem => rfl
  | ok reading =>
    simp only [Except.map, ← ofReadings_append, ← flat, ← flat']
    simp

end Surroundings

/-- A literal is inert, whatever it holds, just where its clause adds a primary key in front of it. -/
theorem literal_inert_iff {around : Surroundings} (fits : around.Fits) (known : around.Known)
    {first last : List (List Char)} {firsts lasts : List ClauseReading}
    (readFirst : readAlterations first = .ok firsts) (readLast : readAlterations last = .ok lasts) :
    (∀ content other, IsPlain content → IsPlain other →
      extracted (first ++ around.statement content :: last) =
        extracted (first ++ around.statement other :: last)) ↔ around.Keyed := by
  obtain ⟨before, after, all⟩ := fits.extracted_eq known readFirst readLast
  rw [← fits.declared_iff known]
  constructor
  · intro same content other plain plain'
    have equal := same content other plain plain'
    rw [all content plain, all other plain'] at equal
    exact map_injective (fun _ _ => AlterConstraints.append_inj) equal
  · intro same content other plain plain'
    rw [all content plain, all other plain', same content other plain plain']

/-- The comment of a key. -/
def keyComment : Surroundings where
  head := "ALTER TABLE t ".toList
  before := "ADD PRIMARY KEY (a) COMMENT ".toList
  after := []
  table := "t"

theorem literal_inert_iff_comment : keyComment.Keyed ∧ ∀ content other, IsPlain content → IsPlain other →
    extracted [keyComment.statement content] = extracted [keyComment.statement other] := by
  have alone : keyComment.earlier ++ keyComment.later = [] := by decide +kernel
  have fits : keyComment.Fits := .of_settled (by decide +kernel) (by decide +kernel)
    ⟨rfl, by decide +kernel, by decide +kernel, by decide +kernel, by decide +kernel⟩
    ⟨rfl, by decide +kernel, by decide +kernel, by decide +kernel, by decide +kernel⟩
  have known : keyComment.Known := ⟨by simp [alone], ⟨[], rfl⟩⟩
  have keyed : keyComment.Keyed :=
    ⟨by decide +kernel, by decide +kernel, _, keyComment.front, by decide +kernel, rfl⟩
  exact ⟨keyed, (@literal_inert_iff keyComment fits known [] [] [] [] rfl rfl).mpr keyed⟩

/-- The comment of a column makes a foreign key. -/
theorem literal_can_link :
    let statement := fun content => "ALTER TABLE t ADD COLUMN c INT COMMENT ".toList ++ quotation content
    let link := "FOREIGN KEY (a) REFERENCES b".toList
    IsPlain [] ∧ IsPlain link ∧ Statement.bareStatements (statement []) = [statement []] ∧
      Statement.bareStatements (statement link) = [statement link] ∧
      extracted [statement []] = .ok {} ∧
      extracted [statement link] = .ok { foreignKeys := [linkKey "t" 'b'] } ∧
      extracted [statement link] ≠ extracted [statement []] := by
  decide +kernel

end DdlSchema.Schema
