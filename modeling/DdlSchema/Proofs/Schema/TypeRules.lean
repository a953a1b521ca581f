import DdlSchema.Proofs.Schema.TidyType

/-! What the rules for types answer. A type is known by its bare name, but for a name that has to stand
alone; the answer is one of a few constants, or the name with its parameters. -/

set_option autoImplicit false

namespace DdlSchema.Schema

open DdlSchema.Text

/-- The bare name that stands for a spelling of it. -/
def unalias (base : String) : String := (typeAliases.lookup base).getD base

def constantTypes : List String :=
  ["UUID", "LONGTEXT", "MEDIUMTEXT", "TINYTEXT", "TEXT", "JSON", "BIGINT", "BOOLEAN"] ++ temporalTypes ++
    binaryTypes

def ruledTypes : List String :=
  textTypes ++ numericTypes ++ stringTypes ++ binaryTypes ++
    ["JSON", "SERIAL", "BOOL", "BOOLEAN", "INET", "XML"]

def firstWord (base : String) : String := String.ofList (base.toList.takeWhile (· != ' '))

/-- Some rule is for this bare name with these parameters. -/
def Known (base params : String) : Prop :=
  base ∈ ruledTypes ∨ (base = "UUID" ∧ params = "") ∨ firstWord base ∈ temporalTypes ∨
    occursIn "TEXT".toList base.toList = true ∧
      (occursIn "LONG".toList base.toList = true ∨ occursIn "MEDIUM".toList base.toList = true ∨
        occursIn "TINY".toList base.toList = true)

section

variable {columnName : List Char} {base params result : String}

theorem eq_of_append {type : String} (bare : '(' ∉ base.toList) (split : IsParams params.toList)
    (whole : base ++ params = type) :
    base = String.ofList (type.toList.takeWhile (· != '(')) ∧
      params = String.ofList (type.toList.dropWhile (· != '(')) := by
  rw [← whole, String.toList_append, takeWhile_base bare split, dropWhile_base bare split,
    String.ofList_toList, String.ofList_toList]
  exact ⟨rfl, rfl⟩

/-- The rules in the order in which they are tried: what each one asks, and what it answers. -/
def typeRules (columnName : List Char) (base params : String) : List (Bool × String) :=
  let whole := base ++ params
  let holds := fun (word : String) => occursIn word.toList base.toList
  [(whole = "CHAR(36)" || whole = "UUID", "UUID"),
    ((base = "VARCHAR" || base = "CHAR") && "_UUID".toList.isSuffixOf columnName, "UUID"),
    (temporalTypes.contains (firstWord base), firstWord base),
    (holds "TEXT" && holds "LONG", "LONGTEXT"),
    (holds "TEXT" && holds "MEDIUM", "MEDIUMTEXT"),
    (holds "TEXT" && holds "TINY", "TINYTEXT"),
    (textTypes.contains base, "TEXT"),
    (base = "JSON", "JSON"),
    (numericTypes.contains base,
      if whole = "TINYINT(1)" && isFlagName columnName then "BOOLEAN" else whole),
    (base = "SERIAL", "BIGINT"),
    (base = "BOOL" || base = "BOOLEAN", "BOOLEAN"),
    (stringTypes.contains base, whole),
    (binaryTypes.contains base, base),
    (base = "INET", "VARCHAR"),
    (base = "XML", "TEXT")]

theorem ite_eq_find? {asks : Prop} [Decidable asks] {rule : Bool} {answer : String}
    {rules : List (Bool × String)} {others : Option String} (same : asks ↔ rule = true)
    (later : others = (rules.find? Prod.fst).map Prod.snd) :
    (if asks then some answer else others) = (((rule, answer) :: rules).find? Prod.fst).map Prod.snd := by
  cases rule with
  | true => exact if_pos (same.mpr rfl)
  | false => exact (if_neg fun holds => Bool.false_ne_true (same.mp holds)).trans later

theorem canonicalType?_eq_find? : canonicalType? columnName base params =
    ((typeRules columnName base params).find? Prod.fst).map Prod.snd := by
  unfold canonicalType? typeRules firstWord
  iterate 15 refine ite_eq_find? (by simp) ?_
  rfl

theorem canonicalType?_eq_some (bare : '(' ∉ base.toList) (split : IsParams params.toList)
    (found : canonicalType? columnName base params = some result) :
    Known base params ∧
      (result ∈ constantTypes ∨ (base = "INET" ∧ result = "VARCHAR") ∨
        (result = base ++ params ∧ (base ∈ numericTypes ∨ base ∈ stringTypes))) := by
  have ruled : ∀ {types : List String}, types ⊆ ruledTypes → types.contains base = true →
      base ∈ ruledTypes := fun part member => part (List.contains_iff_mem.mp member)
  rw [canonicalType?_eq_find?] at found
  obtain ⟨⟨asks, answer⟩, first, same⟩ := Option.map_eq_some_iff.mp found
  obtain rfl : answer = result := same
  have rule : asks = true := List.find?_some first
  have member := List.mem_of_find?_eq_some first
  simp only [typeRules, List.mem_cons, List.not_mem_nil, or_false, Prod.mk.injEq] at member
  -- one case for each rule, in their order
  rcases member with ⟨rfl, rfl⟩ | ⟨rfl, rfl⟩ | ⟨rfl, rfl⟩ | ⟨rfl, rfl⟩ | ⟨rfl, rfl⟩ | ⟨rfl, rfl⟩ | ⟨rfl, rfl⟩ |
    ⟨rfl, rfl⟩ | ⟨rfl, rfl⟩ | ⟨rfl, rfl⟩ | ⟨rfl, rfl⟩ | ⟨rfl, rfl⟩ | ⟨rfl, rfl⟩ | ⟨rfl, rfl⟩ | ⟨rfl, rfl⟩
  · rw [Bool.or_eq_true, decide_eq_true_iff, decide_eq_true_iff] at rule
    refine ⟨?_, .inl (by decide)⟩
    rcases rule with char | uuid
    · rw [(eq_of_append bare split char).1]
      exact .inl (by decide)
    · obtain ⟨name, none⟩ := eq_of_append bare split uuid
      exact .inr (.inl ⟨name, none⟩)
  · rw [Bool.and_eq_true, Bool.or_eq_true, decide_eq_true_iff, decide_eq_true_iff] at rule
    exact ⟨.inl (by rcases rule.1 with rfl | rfl <;> decide), .inl (by decide)⟩
  · have temporal : firstWord base ∈ temporalTypes := List.contains_iff_mem.mp rule
    exact ⟨.inr (.inr (.inl temporal)), .inl (by simp [constantTypes, temporal])⟩
  · rw [Bool.and_eq_true] at rule
    exact ⟨.inr (.inr (.inr ⟨rule.1, .inl rule.2⟩)), .inl (by decide)⟩
  · rw [Bool.and_eq_true] at rule
    exact ⟨.inr (.inr (.inr ⟨rule.1, .inr (.inl rule.2)⟩)), .inl (by decide)⟩
  · rw [Bool.and_eq_true] at rule
    exact ⟨.inr (.inr (.inr ⟨rule.1, .inr (.inr rule.2)⟩)), .inl (by decide)⟩
  · exact ⟨.inl (ruled (by decide) rule), .inl (by decide)⟩
  · obtain rfl := of_decide_eq_true rule
    exact ⟨.inl (by decide), .inl (by decide)⟩
  · refine ⟨.inl (ruled (by decide) rule), ?_⟩
    split
    · exact .inl (by decide)
    · exact .inr (.inr ⟨rfl, .inl (List.contains_iff_mem.mp rule)⟩)
  · obtain rfl := of_decide_eq_true rule
    exact ⟨.inl (by decide), .inl (by decide)⟩
  · rw [Bool.or_eq_true, decide_eq_true_iff, decide_eq_true_iff] at rule
    exact ⟨.inl (by rcases rule with rfl | rfl <;> decide), .inl (by decide)⟩
  · exact ⟨.inl (ruled (by decide) rule), .inr (.inr ⟨rfl, .inr (List.contains_iff_mem.mp rule)⟩)⟩
  · have binary := List.contains_iff_mem.mp rule
    exact ⟨.inl (ruled (by decide) rule), .inl (by simp [constantTypes, binary])⟩
  · obtain rfl := of_decide_eq_true rule
    exact ⟨.inl (by decide), .inr (.inl ⟨rfl, rfl⟩)⟩
  · obtain rfl := of_decide_eq_true rule
    exact ⟨.inl (by decide), .inl (by decide)⟩

theorem canonicalType?_eq_none (none : canonicalType? columnName base params = none) :
    ¬ Known base params := by
  rw [canonicalType?_eq_find?, Option.map_eq_none_iff, List.find?_eq_none] at none
  simp only [typeRules, List.forall_mem_cons] at none
  obtain ⟨whole_, -, temporal_, long_, medium_, tiny_, text_, json_, numeric_, serial_, boolean_, string_,
    binary_, inet_, xml_, -⟩ := none
  rintro (ruled | ⟨rfl, rfl⟩ | temporal | ⟨text, long | medium | tiny⟩)
  · simp only [ruledTypes, List.mem_append, List.mem_cons, List.not_mem_nil, or_false] at ruled
    rcases ruled with (((member | member) | member) | member) | rfl | rfl | rfl | rfl | rfl | rfl
    · exact text_ (List.contains_iff_mem.mpr member)
    · exact numeric_ (List.contains_iff_mem.mpr member)
    · exact string_ (List.contains_iff_mem.mpr member)
    · exact binary_ (List.contains_iff_mem.mpr member)
    · exact json_ rfl
    · exact serial_ rfl
    · exact boolean_ (by decide)
    · exact boolean_ (by decide)
    · exact inet_ rfl
    · exact xml_ rfl
  · exact whole_ (by decide)
  · exact temporal_ (List.contains_iff_mem.mpr temporal)
  · exact long_ (Bool.and_eq_true_iff.mpr ⟨text, long⟩)
  · exact medium_ (Bool.and_eq_true_iff.mpr ⟨text, medium⟩)
  · exact tiny_ (Bool.and_eq_true_iff.mpr ⟨text, tiny⟩)

theorem canonicalType?_inet (split : IsParams params.toList) :
    canonicalType? columnName "INET" params = some "VARCHAR" := by
  delta canonicalType?
  extract_lets whole first holds
  rw [if_neg]
  · rfl
  · rw [Bool.or_eq_true, decide_eq_true_iff, decide_eq_true_iff]
    rintro (char | uuid)
    · exact absurd (eq_of_append (by decide) split char).1 (by decide)
    · exact absurd (eq_of_append (by decide) split uuid).1 (by decide)

end

/-! Aliases. -/

theorem typeAliases_known :
    ∀ entry ∈ typeAliases, entry.2 ∈ ruledTypes ∨ firstWord entry.2 ∈ temporalTypes := by
  decide

theorem mem_typeAliases {base target : String} (found : typeAliases.lookup base = some target) :
    (base, target) ∈ typeAliases := by
  obtain ⟨before, after, entries, -⟩ := List.lookup_eq_some_iff.mp found
  simp [entries]

/-- An alias stands for a known type, whatever its parameters are. -/
theorem known_of_alias {base target : String} (found : typeAliases.lookup base = some target)
    (params : String) : Known target params := by
  rcases typeAliases_known _ (mem_typeAliases found) with ruled | temporal
  · exact .inl ruled
  · exact .inr (.inr (.inl temporal))

/-- What an alias stands for is no alias. -/
theorem unalias_unalias (base : String) : unalias (unalias base) = unalias base := by
  have targets : ∀ entry ∈ typeAliases, unalias entry.2 = entry.2 := by decide
  cases found : typeAliases.lookup base with
  | none =>
    have same : unalias base = base := by rw [unalias, found, Option.getD_none]
    rw [same, same]
  | some target =>
    have same : unalias base = target := by rw [unalias, found, Option.getD_some]
    rw [same]
    exact targets _ (mem_typeAliases found)

theorem unalias_eq_inet {base : String} (same : unalias base = "INET") : base = "INET" := by
  have others : ∀ entry ∈ typeAliases, entry.2 ≠ "INET" := by decide
  cases found : typeAliases.lookup base with
  | none => rwa [unalias, found, Option.getD_none] at same
  | some target =>
    rw [unalias, found, Option.getD_some] at same
    exact absurd same (others _ (mem_typeAliases found))

theorem bare_unalias {base : String} (bare : '(' ∉ base.toList) : '(' ∉ (unalias base).toList := by
  have targets : ∀ entry ∈ typeAliases, '(' ∉ entry.2.toList := by decide
  cases found : typeAliases.lookup base with
  | none => rwa [unalias, found, Option.getD_none]
  | some target =>
    rw [unalias, found, Option.getD_some]
    exact targets _ (mem_typeAliases found)

/-! Types in lower case. -/

def comparedNames : List String :=
  ruledTypes ++ temporalTypes ++ valueListTypes ++ "UUID" :: typeAliases.map Prod.fst

theorem comparedNames_keywords : (comparedNames.all fun name => isKeyword name.toList) = true := by
  decide

theorem ofList_eq_iff {text : List Char} {name : String} : String.ofList text = name ↔ text = name.toList := by
  constructor
  · rintro rfl
    rw [String.toList_ofList]
  · rintro rfl
    rw [String.ofList_toList]

theorem recased_eq_name {name : String} (member : name ∈ comparedNames) {text : List Char} :
    String.ofList (text.flatMap recased) = name ↔ String.ofList (upper text) = name := by
  rw [ofList_eq_iff, ofList_eq_iff, recased_eq_iff (List.all_eq_true.mp comparedNames_keywords name member)]

theorem upper_of_recased {text : List Char} (member : String.ofList (text.flatMap recased) ∈ comparedNames) :
    String.ofList (upper text) = String.ofList (text.flatMap recased) := (recased_eq_name member).mp rfl

theorem takeWhile_flatMap {spell : Char → List Char} {stop : Char}
    (keeps : KeepsFrame fun c letters => letters = spell c) (frame : isFrame stop = true) (text : List Char) :
    (text.flatMap spell).takeWhile (· != stop) = (text.takeWhile (· != stop)).flatMap spell :=
  ((respelled_flatMap spell text).cut (keeps.keeps frame)).1.eq_flatMap

theorem occurs_upper_of_recased {word : String} (inner : isInnerWord word.toList = true) {text : List Char}
    (occurs : occursIn word.toList (String.ofList (text.flatMap recased)).toList = true) :
    occursIn word.toList (String.ofList (upper text)).toList = true := by
  rw [String.toList_ofList, occursIn_iff] at occurs ⊢
  exact infix_upper_of_recased inner occurs

/-- A type that is known when it was put into lower case before was known at once. -/
theorem known_of_recased {base params : List Char}
    (known : Known (unalias (String.ofList (base.flatMap recased)))
      (String.ofList (params.flatMap recased))) :
    Known (unalias (String.ofList (upper base))) (String.ofList (upper params)) := by
  cases found : typeAliases.lookup (String.ofList (upper base)) with
  | some target =>
    rw [unalias, found, Option.getD_some]
    exact known_of_alias found _
  | none =>
    have plain : typeAliases.lookup (String.ofList (base.flatMap recased)) = none := by
      cases lowered : typeAliases.lookup (String.ofList (base.flatMap recased)) with
      | none => rfl
      | some target =>
        have key := List.mem_map_of_mem (mem_typeAliases lowered) (f := Prod.fst)
        rw [upper_of_recased (by simp [comparedNames, key]), lowered] at found
        cases found
    rw [unalias, plain, Option.getD_none] at known
    rw [unalias, found, Option.getD_none]
    -- each rule asks for capitals only, which both ways to upper case write for the same texts
    rcases known with ruled | ⟨uuid, none⟩ | temporal | ⟨text, size⟩
    · rw [upper_of_recased (by simp [comparedNames, ruled])]
      exact .inl ruled
    · refine .inr (.inl ⟨(recased_eq_name (by decide)).mp uuid, ?_⟩)
      have empty : params = [] := by
        cases params with
        | nil => rfl
        | cons c params =>
          have letters := congrArg String.toList none
          rw [String.toList_ofList, List.flatMap_cons] at letters
          exact absurd (List.append_eq_nil_iff.mp letters).1 (recased_ne_nil c)
      rw [empty]
      rfl
    · refine .inr (.inr (.inl ?_))
      rw [firstWord, String.toList_ofList] at temporal ⊢
      rw [takeWhile_flatMap keepsFrame_recased (by decide)] at temporal
      rw [upper, takeWhile_flatMap keepsFrame_upperChar (by decide)]
      have same := @upper_of_recased (base.takeWhile (· != ' ')) (by simp [comparedNames, temporal])
      rw [upper] at same
      rwa [same]
    · exact .inr (.inr (.inr ⟨occurs_upper_of_recased (by decide) text,
        size.imp (occurs_upper_of_recased (by decide))
          (Or.imp (occurs_upper_of_recased (by decide))
            (occurs_upper_of_recased (by decide)))⟩))

end DdlSchema.Schema
