import Mathlib.Data.List.Infix
import Mathlib.Data.Prod.Lex
import DdlSchema.Proofs.Schema.Declaration
import DdlSchema.Proofs.Text.Lowering
import DdlSchema.Proofs.Text.Recasing

/-! The implied key as the column of the best rank. Each of the searches for it finds the first column of
one kind, and none of the searches before it found any, so together they find the least of one order. In
letters without accents, only the small forms of the names matter. -/

set_option autoImplicit false

namespace DdlSchema.Schema

open DdlSchema.Text

/-! Ranks. -/

/-- How well a column of this small name suits: whether the name is a pattern, has one in it, or neither, and
which pattern is the first. -/
def keyTier (patterns : List (List Char)) (name : List Char) (isLink : Bool) : Nat × Nat :=
  if name ∈ patterns then (0, patterns.findIdx fun pattern => name == pattern)
  else if ∃ pattern ∈ patterns, pattern <:+: name then
    (1, patterns.findIdx fun pattern => decide (pattern <:+: name))
  else if isLink then (3, 0) else (2, 0)

/-- The rank of a column at its place; the least one is the best. -/
def keyRank (table : String) (place : Nat) (column : Column) : Nat ×ₗ Nat ×ₗ Nat :=
  let (tier, pattern) := keyTier (keyPatterns table.toList) (lower column.name.toList) column.isForeignKey
  toLex (tier, toLex (pattern, place))

/-- No column has a better rank than the one at the place. -/
def IsBestKey (table : String) (columns : List Column) (place : Nat) : Prop :=
  ∃ column, columns[place]? = some column ∧ ∀ other column', columns[other]? = some column' →
    keyRank table place column ≤ keyRank table other column'

/-- Two columns link to others, and the name of the table tells that it joins them. -/
def JoinsTables (table : String) (columns : List Column) : Prop :=
  isJunctionName table.toList = true ∧ 2 ≤ columns.countP Column.isForeignKey

instance (table : String) (columns : List Column) : Decidable (JoinsTables table columns) :=
  inferInstanceAs (Decidable (_ ∧ _))

theorem IsBestKey.unique {table : String} {columns : List Column} {first second : Nat}
    (one : IsBestKey table columns first) (other : IsBestKey table columns second) : first = second := by
  obtain ⟨column, here, least⟩ := one
  obtain ⟨column', there, least'⟩ := other
  have same := le_antisymm (least _ _ there) (least' _ _ here)
  exact congrArg (fun rank => (ofLex (ofLex rank).2).2) same

/-! A search, pattern by pattern. -/

section

variable {fits : List Char → List Char → Bool} {patterns names : List (List Char)} {place : Nat}

theorem firstFitting_least (found : firstFitting fits patterns names = some place) :
    ∃ name, names[place]? = some name ∧ (∃ pattern ∈ patterns, fits pattern name = true) ∧
      ∀ other name', names[other]? = some name' → (∃ pattern ∈ patterns, fits pattern name' = true) →
        toLex (patterns.findIdx (fits · name), place) ≤ toLex (patterns.findIdx (fits · name'), other) := by
  induction patterns with
  | nil => cases found
  | cons pattern patterns ih =>
    rw [firstFitting, List.findSome?_cons] at found
    cases first : names.findIdx? (fits pattern) with
    | some own =>
      rw [first] at found
      cases found
      obtain ⟨bound, fit, earlier⟩ := List.findIdx?_eq_some_iff_getElem.mp first
      refine ⟨names[place], List.getElem?_eq_getElem bound, ⟨pattern, List.mem_cons_self, fit⟩, ?_⟩
      rintro other name' there -
      rw [Prod.Lex.toLex_le_toLex]
      -- a rival that the first pattern fits, too, stands further back; any other one ranks behind it
      by_cases fit' : fits pattern name' = true
      · refine .inr ⟨?_, ?_⟩
        · rw [List.findIdx_cons, List.findIdx_cons, fit, fit', cond_true, cond_true]
        · by_contra before
          obtain ⟨_, rfl⟩ := List.getElem?_eq_some_iff.mp there
          exact absurd fit' (earlier other (by simpa using before))
      · refine .inl ?_
        rw [List.findIdx_cons, List.findIdx_cons, fit, Bool.eq_false_iff.mpr fit']
        exact Nat.succ_pos _
    | none =>
      rw [first] at found
      obtain ⟨name, here, ⟨own, inside, fit⟩, least⟩ := ih found
      -- no name is fit by the first pattern, so all ranks move by one
      have none_ : ∀ {position : Nat} {name : List Char}, names[position]? = some name →
          fits pattern name = false := fun there =>
        List.findIdx?_eq_none_iff.mp first _ (List.mem_of_getElem? there)
      refine ⟨name, here, ⟨own, List.mem_cons_of_mem _ inside, fit⟩, ?_⟩
      rintro other name' there ⟨own', inside', fit'⟩
      have inside' : own' ∈ patterns := by
        rcases List.mem_cons.mp inside' with rfl | later
        · rw [none_ there] at fit'
          cases fit'
        · exact later
      have behind := least other name' there ⟨own', inside', fit'⟩
      rw [List.findIdx_cons, List.findIdx_cons, none_ here, none_ there]
      rw [Prod.Lex.toLex_le_toLex] at behind ⊢
      simpa using behind

theorem firstFitting_none (nothing : firstFitting fits patterns names = none) {other : Nat}
    {name : List Char} (there : names[other]? = some name) :
    ¬ ∃ pattern ∈ patterns, fits pattern name = true := by
  rintro ⟨pattern, inside, fit⟩
  have none_ := List.findSome?_eq_none_iff.mp nothing pattern inside
  rw [List.findIdx?_eq_none_iff.mp none_ _ (List.mem_of_getElem? there)] at fit
  cases fit

end

/-! The searches one after another. -/

section

variable {table : String} {columns : List Column} {place : Nat}

theorem keyTier_same {patterns : List (List Char)} {name : List Char} {isLink : Bool}
    (same : name ∈ patterns) :
    keyTier patterns name isLink = (0, patterns.findIdx fun pattern => name == pattern) := if_pos same

theorem keyTier_inside {patterns : List (List Char)} {name : List Char} {isLink : Bool}
    (other : name ∉ patterns) (inside : ∃ pattern ∈ patterns, pattern <:+: name) :
    keyTier patterns name isLink = (1, patterns.findIdx fun pattern => decide (pattern <:+: name)) := by
  rw [keyTier, if_neg other, if_pos inside]

theorem keyTier_apart {patterns : List (List Char)} {name : List Char} {isLink : Bool}
    (other : name ∉ patterns) (outside : ¬ ∃ pattern ∈ patterns, pattern <:+: name) :
    keyTier patterns name isLink = (if isLink then 3 else 2, 0) := by
  rw [keyTier, if_neg other, if_neg outside]
  cases isLink <;> rfl

theorem keyTier_pos {patterns : List (List Char)} {name : List Char} {isLink : Bool}
    (other : name ∉ patterns) : 0 < (keyTier patterns name isLink).1 := by
  by_cases inside : ∃ pattern ∈ patterns, pattern <:+: name
  · rw [keyTier_inside other inside]
    exact Nat.one_pos
  · rw [keyTier_apart other inside]
    cases isLink <;> decide

theorem occursIn_eq (name : List Char) : (occursIn · name) = fun pattern => decide (pattern <:+: name) := by
  funext pattern
  rw [Bool.eq_iff_iff, occursIn_iff, decide_eq_true_iff]

theorem keyRank_le {other : Nat} {column column' : Column} :
    keyRank table place column ≤ keyRank table other column' ↔
      let (tier, pattern) := keyTier (keyPatterns table.toList) (lower column.name.toList) column.isForeignKey
      let (tier', pattern') :=
        keyTier (keyPatterns table.toList) (lower column'.name.toList) column'.isForeignKey
      tier < tier' ∨ tier = tier' ∧ toLex (pattern, place) ≤ toLex (pattern', other) :=
  Prod.Lex.toLex_le_toLex

def smallNames (columns : List Column) : List (List Char) :=
  columns.map fun column => lower column.name.toList

theorem getElem?_smallNames {column : Column} (here : columns[place]? = some column) :
    (smallNames columns)[place]? = some (lower column.name.toList) := by
  rw [smallNames, List.getElem?_map, here, Option.map_some]

theorem exists_column {name : List Char} (here : (smallNames columns)[place]? = some name) :
    ∃ column, columns[place]? = some column ∧ lower column.name.toList = name := by
  rw [smallNames, List.getElem?_map] at here
  exact Option.map_eq_some_iff.mp here

theorem isBestKey_of_same (found : firstFitting (fun pattern name => name == pattern)
    (keyPatterns table.toList) (smallNames columns) = some place) : IsBestKey table columns place := by
  obtain ⟨_, here, ⟨pattern, inside, same⟩, least⟩ := firstFitting_least found
  obtain ⟨column, at_, rfl⟩ := exists_column here
  have member : lower column.name.toList ∈ keyPatterns table.toList := by rwa [beq_iff_eq.mp same]
  refine ⟨column, at_, fun other column' there => ?_⟩
  rw [keyRank_le, keyTier_same member]
  by_cases member' : lower column'.name.toList ∈ keyPatterns table.toList
  · rw [keyTier_same member']
    exact .inr ⟨rfl, least other _ (getElem?_smallNames there) ⟨_, member', beq_self_eq_true _⟩⟩
  · exact .inl (keyTier_pos member')

theorem isBestKey_of_inside
    (unequal : ∀ column ∈ columns, lower column.name.toList ∉ keyPatterns table.toList)
    (found : firstFitting occursIn (keyPatterns table.toList) (smallNames columns) = some place) :
    IsBestKey table columns place := by
  obtain ⟨_, here, ⟨pattern, listed, part⟩, least⟩ := firstFitting_least found
  obtain ⟨column, at_, rfl⟩ := exists_column here
  refine ⟨column, at_, fun other column' there => ?_⟩
  have unequal' := unequal column' (List.mem_of_getElem? there)
  rw [keyRank_le, keyTier_inside (unequal column (List.mem_of_getElem? at_))
    ⟨pattern, listed, occursIn_iff.mp part⟩]
  by_cases inside' : ∃ pattern ∈ keyPatterns table.toList, pattern <:+: lower column'.name.toList
  · have behind := least other _ (getElem?_smallNames there) (by simpa only [occursIn_iff] using inside')
    rw [occursIn_eq, occursIn_eq] at behind
    rw [keyTier_inside unequal' inside']
    exact .inr ⟨rfl, behind⟩
  · rw [keyTier_apart unequal' inside']
    refine .inl ?_
    cases column'.isForeignKey <;> decide

/-- No name has to do with a pattern. -/
def Unrelated (table : String) (columns : List Column) : Prop :=
  ∀ column ∈ columns, keyTier (keyPatterns table.toList) (lower column.name.toList) column.isForeignKey =
    (if column.isForeignKey then 3 else 2, 0)

theorem isBestKey_of_free (unrelated : Unrelated table columns)
    (found : (columns.findIdx? fun column => !column.isForeignKey) = some place) :
    IsBestKey table columns place := by
  obtain ⟨bound, here, earlier⟩ := List.findIdx?_eq_some_iff_getElem.mp found
  have free : columns[place].isForeignKey = false := by simpa using here
  refine ⟨columns[place], List.getElem?_eq_getElem bound, fun other column' there => ?_⟩
  rw [keyRank_le, unrelated _ (List.getElem_mem bound), unrelated _ (List.mem_of_getElem? there), free]
  cases link : column'.isForeignKey with
  | true => exact .inl (by decide)
  | false =>
    refine .inr ⟨rfl, Prod.Lex.toLex_le_toLex.mpr (.inr ⟨rfl, ?_⟩)⟩
    by_contra before
    obtain ⟨_, rfl⟩ := List.getElem?_eq_some_iff.mp there
    exact absurd (by rw [link]; rfl) (earlier other (by simpa using before))

theorem isBestKey_of_links (unrelated : Unrelated table columns)
    (links : ∀ column ∈ columns, column.isForeignKey = true)
    (found : (columns.findIdx? fun _ => true) = some place) : IsBestKey table columns place := by
  obtain ⟨bound, -, earlier⟩ := List.findIdx?_eq_some_iff_getElem.mp found
  have first : place = 0 := by
    by_contra later
    exact earlier 0 (Nat.pos_of_ne_zero later) rfl
  refine ⟨columns[place], List.getElem?_eq_getElem bound, fun other column' there => ?_⟩
  have here := List.getElem_mem bound
  have there := List.mem_of_getElem? there
  rw [keyRank_le, unrelated _ here, unrelated _ there, links _ here, links _ there]
  exact .inr ⟨rfl, Prod.Lex.toLex_le_toLex.mpr (.inr ⟨rfl, first ▸ Nat.zero_le other⟩)⟩

theorem implicitKey?_plain (plain : ¬ JoinsTables table columns) : implicitKey? table columns =
    ((firstFitting (fun pattern name => name == pattern) (keyPatterns table.toList) (smallNames columns)).or
      ((firstFitting occursIn (keyPatterns table.toList) (smallNames columns)).or
        ((columns.findIdx? fun column => !column.isForeignKey).or (columns.findIdx? fun _ => true)))) := by
  rw [implicitKey?, if_neg]
  · simp only [Option.orElse_eq_orElse, Option.orElse_eq_or, smallNames]
  · rwa [Bool.and_eq_true, decide_eq_true_iff]

theorem isBestKey_of_implicitKey? (plain : ¬ JoinsTables table columns)
    (found : implicitKey? table columns = some place) : IsBestKey table columns place := by
  have small : ∀ {column : Column}, column ∈ columns → ∃ other : Nat,
      (smallNames columns)[other]? = some (lower column.name.toList) := fun member => by
    obtain ⟨other, there⟩ := List.mem_iff_getElem?.mp member
    exact ⟨other, getElem?_smallNames there⟩
  -- what each rule leaves unfound is what the tier of the next one asks for
  rw [implicitKey?_plain plain] at found
  rcases Option.or_eq_some_iff.mp found with same | ⟨none_, found⟩
  · exact isBestKey_of_same same
  have unequal : ∀ column ∈ columns, lower column.name.toList ∉ keyPatterns table.toList := by
    intro column member same
    obtain ⟨other, there⟩ := small member
    exact firstFitting_none none_ there ⟨_, same, beq_self_eq_true _⟩
  rcases Option.or_eq_some_iff.mp found with inside | ⟨none_, found⟩
  · exact isBestKey_of_inside unequal inside
  have unrelated : Unrelated table columns := by
    intro column member
    obtain ⟨other, there⟩ := small member
    exact keyTier_apart (unequal column member)
      (by simpa only [occursIn_iff] using firstFitting_none none_ there)
  rcases Option.or_eq_some_iff.mp found with free | ⟨none_, found⟩
  · exact isBestKey_of_free unrelated free
  · refine isBestKey_of_links unrelated (fun column member => ?_) found
    simpa using List.findIdx?_eq_none_iff.mp none_ column member

theorem implicitKey?_eq_none : implicitKey? table columns = none ↔ columns = [] := by
  rw [← Option.not_isSome_iff_eq_none, isSome_implicitKey?]
  simp

theorem implicitKey?_iff (plain : ¬ JoinsTables table columns) :
    implicitKey? table columns = some place ↔ IsBestKey table columns place := by
  refine ⟨isBestKey_of_implicitKey? plain, fun best => ?_⟩
  obtain ⟨column, here, -⟩ := id best
  cases found : implicitKey? table columns with
  | none =>
    rw [implicitKey?_eq_none.mp found] at here
    cases here
  | some other => rw [(isBestKey_of_implicitKey? plain found).unique best]

theorem implicitKey?_joining (joins : JoinsTables table columns) :
    ∃ place column, implicitKey? table columns = some place ∧ columns[place]? = some column ∧
      column.isForeignKey = true ∧
      ∀ earlier other, earlier < place → columns[earlier]? = some other → other.isForeignKey = false := by
  have rule : implicitKey? table columns = columns.findIdx? Column.isForeignKey := by
    rw [implicitKey?, if_pos]
    rwa [Bool.and_eq_true, decide_eq_true_iff]
  obtain ⟨place, found⟩ : ∃ place, implicitKey? table columns = some place := by
    refine Option.ne_none_iff_exists'.mp fun none_ => ?_
    have two := joins.2
    rw [implicitKey?_eq_none.mp none_] at two
    cases two
  obtain ⟨bound, link, earlier⟩ := List.findIdx?_eq_some_iff_getElem.mp (rule.symm.trans found)
  refine ⟨place, columns[place], found, List.getElem?_eq_getElem bound, link, ?_⟩
  rintro before other less there
  obtain ⟨_, rfl⟩ := List.getElem?_eq_some_iff.mp there
  exact Bool.eq_false_iff.mpr (earlier before less)

end

/-! Small names. -/

/-- Letters without accents, digits and signs. -/
def IsAscii (text : List Char) : Prop := ∀ c ∈ text, c.toNat < 0x80

instance (text : List Char) : Decidable (IsAscii text) :=
  decidable_of_iff (text.all fun c => c.toNat < 0x80) List.all_iff_forall_prop

section

variable {text : List Char}

theorem lower_ascii (ascii : IsAscii text) : lower text = text.map Char.toLower := by
  have from_ : ∀ seen : List Char, lowerFrom seen text = text.map Char.toLower := by
    induction text with
    | nil => exact fun seen => rfl
    | cons c rest ih =>
      intro seen
      obtain ⟨here, later⟩ := List.forall_mem_cons.mp ascii
      have other : ¬ (c.toNat == 0x3a3) = true := fun sigma => by
        rw [beq_iff_eq.mp sigma] at here
        cases Nat.lt_irrefl _ (Nat.lt_of_lt_of_le here (by decide))
      rw [lowerFrom, if_neg other, lowerChar, if_pos here, ih later, List.map_cons]
      rfl
  exact from_ []

theorem isAscii_lower (ascii : IsAscii text) : IsAscii (lower text) := by
  have letters : ∀ n < 0x80, (Char.ofNat n).toLower.toNat < 0x80 := by decide
  rw [lower_ascii ascii]
  intro d member
  obtain ⟨c, inside, rfl⟩ := List.mem_map.mp member
  have low := letters c.toNat (ascii c inside)
  rwa [Char.ofNat_toNat] at low

theorem IsAscii.append {rest : List Char} (ascii : IsAscii text) (other : IsAscii rest) :
    IsAscii (text ++ rest) := List.forall_mem_append.mpr ⟨ascii, other⟩

theorem isAscii_take (ascii : IsAscii text) (count : Nat) : IsAscii (text.take count) :=
  fun c member => ascii c (List.mem_of_mem_take member)

theorem isAscii_singularize (ascii : IsAscii text) : IsAscii (singularize text) := by
  have letter : IsAscii ['y'] := by decide
  unfold singularize
  dsimp only
  split
  · exact (isAscii_take ascii _).append letter
  · split
    · exact isAscii_take ascii _
    · exact ascii

theorem lower_singularize (ascii : IsAscii text) : lower (singularize text) = singularize (lower text) := by
  have length : (lower text).length = text.length := by rw [lower_ascii ascii, List.length_map]
  have letter : IsAscii ['y'] := by decide
  have take : ∀ count, lower (text.take count) = (lower text).take count := fun count => by
    rw [lower_ascii ascii, lower_ascii (isAscii_take ascii count), List.map_take]
  unfold singularize
  simp only [lower_lower, length]
  split
  · rw [← take, lower_ascii ((isAscii_take ascii _).append letter), lower_ascii (isAscii_take ascii _),
      List.map_append]
    rfl
  · split
    · exact take _
    · rfl

theorem lower_suffixed (ascii : IsAscii text) :
    lower (text ++ "_id".toList) = lower text ++ "_id".toList := by
  have suffix : IsAscii "_id".toList := by decide
  rw [lower_ascii (ascii.append suffix), lower_ascii ascii, List.map_append]
  rfl

theorem keyPatterns_small (ascii : IsAscii text) : keyPatterns (lower text) = keyPatterns text := by
  rw [keyPatterns, keyPatterns, lower_suffixed ascii, lower_suffixed (isAscii_lower ascii),
    lower_suffixed (isAscii_singularize ascii), lower_suffixed (isAscii_singularize (isAscii_lower ascii)),
    ← lower_singularize ascii, lower_lower, lower_lower]

end

/-- What is taken is told by the small form of the table's name, those of the columns, and the links. -/
theorem implicitKey?_small {table other : String} {columns others : List Column}
    (ascii : IsAscii table.toList) (ascii' : IsAscii other.toList)
    (named : lower table.toList = lower other.toList)
    (same : columns.map (fun column => (lower column.name.toList, column.isForeignKey)) =
      others.map fun column => (lower column.name.toList, column.isForeignKey)) :
    implicitKey? table columns = implicitKey? other others := by
  have junction : isJunctionName table.toList = isJunctionName other.toList := by
    unfold isJunctionName
    rw [named]
  have patterns : keyPatterns table.toList = keyPatterns other.toList := by
    rw [← keyPatterns_small ascii, named, keyPatterns_small ascii']
  have other_ : implicitKey? other others = implicitKey? table others := by
    simp only [implicitKey?, junction, patterns]
  rw [other_, implicitKey?_congr_small same]

/-- A key is implied wherever there are columns: the first link of a table that joins others, and else the
column of the best rank. Of names without accents only the small forms matter. -/
theorem implied_key_ranked (table : String) (columns : List Column) :
    (implicitKey? table columns = none ↔ columns = []) ∧
    (JoinsTables table columns → ∃ place column, implicitKey? table columns = some place ∧
      columns[place]? = some column ∧ column.isForeignKey = true ∧
      ∀ earlier other, earlier < place → columns[earlier]? = some other → other.isForeignKey = false) ∧
    (¬ JoinsTables table columns → ∀ place,
      implicitKey? table columns = some place ↔ IsBestKey table columns place) ∧
    (IsAscii table.toList → ∀ other others, IsAscii other.toList → lower table.toList = lower other.toList →
      columns.map (fun column => (lower column.name.toList, column.isForeignKey)) =
        others.map (fun column => (lower column.name.toList, column.isForeignKey)) →
      implicitKey? table columns = implicitKey? other others) :=
  ⟨implicitKey?_eq_none, implicitKey?_joining, fun plain _ => implicitKey?_iff plain,
    fun ascii _ _ ascii' named same => implicitKey?_small ascii ascii' named same⟩

/-- A name that is a pattern is taken before an earlier one that has a pattern in it. -/
theorem implied_key_ranked_singular :
    let column := fun (name : String) (target : Option Target) =>
      { id := "col_1", name, dataType := "INT", target : Column }
    let columns := [column "Grid" none, column "Category_ID" none]
    let others := [column "grid" none, column "CATEGORY_ID" none]
    let links :=
      [column "id" none, column "user" (some ⟨"users", "id"⟩), column "role" (some ⟨"roles", "id"⟩)]
    (implicitKey? "Categories" columns = none ↔ columns = []) ∧
    ¬ JoinsTables "Categories" columns ∧ IsBestKey "Categories" columns 1 ∧
    JoinsTables "user_has_roles" links ∧
    (∃ place column, implicitKey? "user_has_roles" links = some place ∧ links[place]? = some column ∧
      column.isForeignKey = true ∧
      ∀ earlier other, earlier < place → links[earlier]? = some other → other.isForeignKey = false) ∧
    implicitKey? "Categories" columns = implicitKey? "CATEGORIES" others := by
  intro column columns others links
  obtain ⟨empty, -, ranked, small⟩ := implied_key_ranked "Categories" columns
  have plain : ¬ JoinsTables "Categories" columns := by decide
  have joins : JoinsTables "user_has_roles" links := by decide
  exact ⟨empty, plain, (ranked plain 1).mp (by decide), joins,
    (implied_key_ranked "user_has_roles" links).2.1 joins,
    small (by decide) "CATEGORIES" others (by decide) (by decide) (by decide)⟩

end DdlSchema.Schema
