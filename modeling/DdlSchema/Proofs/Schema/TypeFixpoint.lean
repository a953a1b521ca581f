import DdlSchema.Proofs.Schema.TypeRules

/-! When a normal form is normal. A second pass finds the form of the first one unless a rule is for the form
itself: a sign modifier or a list of values that a change of case brought out, or a text type whose column has
the name of an identifier. -/

set_option autoImplicit false

namespace DdlSchema.Schema

open DdlSchema.Text DdlSchema.Text.Pattern

def bareName (type : List Char) : String := String.ofList (upper (splitType type).1)

/-- The type is a list of values. -/
def namesValueList (type : List Char) : Bool := valueListTypes.contains (bareName type)

/-- Columns of such a name hold identifiers. -/
def namesIdentifier (columnName : String) : Bool := "_UUID".toList.isSuffixOf (upper columnName.toList)

/-- The rules for a base and its parameters, both in upper case. -/
def ruled (columnName : String) (base params : List Char) : Option String :=
  canonicalType? (upper columnName.toList) (unalias (String.ofList (upper base))) (String.ofList (upper params))

/-! One pass. -/

section

variable {columnName type : String} {base params : List Char}

theorem normalizeType_of_values (values : namesValueList (trim type.toList) = true) :
    normalizeType columnName type = String.ofList (upper (splitType (trim type.toList)).1 ++
      (splitType (trim type.toList)).2) := by
  rw [namesValueList, bareName] at values
  rw [normalizeType]
  dsimp only
  rw [if_pos values, String.ofList_append]

/-- A type that lists no values is normalized by its base and its parameters. -/
theorem normalizeType_of_clean (values : namesValueList (trim type.toList) = false)
    (clean : cleanType (trim type.toList) = base ++ params) (bare : '(' ∉ base) (split : IsParams params) :
    normalizeType columnName type =
      (ruled columnName base params).getD (String.ofList (lower (base ++ params))) := by
  have tidy := tidy_of_cleanType clean
  rw [namesValueList, bareName] at values
  rw [normalizeType]
  dsimp only
  rw [if_neg (by rw [values]; exact Bool.false_ne_true), clean,
    splitType_append (tidy.of_params split).trim bare split]
  rfl

theorem normalizeType_values (values : namesValueList (trim type.toList) = true) :
    normalizeType columnName (normalizeType columnName type) = normalizeType columnName type := by
  rw [normalizeType_of_values values]
  obtain ⟨split, behind⟩ := splitType_params (trim type.toList)
  rw [namesValueList, bareName] at values
  generalize upper (splitType (trim type.toList)).1 = base at values ⊢
  generalize (splitType (trim type.toList)).2 = params at split behind ⊢
  -- the names of such types are in capitals, without parentheses, and not blank at their ends
  have names : ∀ name ∈ valueListTypes, upper name.toList = name.toList ∧ '(' ∉ name.toList ∧
      trim name.toList = name.toList ∧ name.toList.head?.any isFilled = true ∧
      name.toList.getLast?.all isFilled = true := by
    decide
  obtain ⟨capital, bare, single, first, last⟩ := names _ (List.contains_iff_mem.mp values)
  rw [String.toList_ofList] at capital bare single first last
  have ends : (base ++ params).getLast?.all isFilled = true := by
    cases params with
    | nil => rwa [List.append_nil]
    | cons c params =>
      obtain ⟨front, whole⟩ := behind
      have own := getLast?_trim type.toList
      rw [← whole, List.getLast?_append_of_ne_nil _ (List.cons_ne_nil _ _)] at own
      rwa [List.getLast?_append_of_ne_nil _ (List.cons_ne_nil _ _)]
  have starts : (base ++ params).head?.all isFilled = true := by
    cases base with
    | nil => cases first
    | cons c base => exact first
  have trimmed : trim (String.ofList (base ++ params)).toList = base ++ params := by
    rw [String.toList_ofList, trim_of_filled starts ends]
  have cut := splitType_append single bare split
  -- so the second pass cuts the form where the first one put it together
  have again : namesValueList (trim (String.ofList (base ++ params)).toList) = true := by
    rw [trimmed, namesValueList, bareName, cut, capital, values]
  rw [normalizeType_of_values again, trimmed, cut, capital]

end

/-! A second pass over a tidy form. -/

section

variable {columnName : String} {base params : List Char}

theorem normalizeType_tidy (tidy : Tidy (base ++ params)) (bare : '(' ∉ base) (split : IsParams params)
    (values : namesValueList (base ++ params) = false)
    (unsigned : signModifier.search (base ++ params) = none) :
    normalizeType columnName (String.ofList (base ++ params)) =
      (ruled columnName base params).getD (String.ofList (lower (base ++ params))) := by
  have trimmed : trim (String.ofList (base ++ params)).toList = base ++ params := by
    rw [String.toList_ofList, tidy.trim]
  refine normalizeType_of_clean (by rw [trimmed, values]) ?_ bare split
  rw [trimmed, cleanType_of_unsigned tidy unsigned]

theorem namesValueList_append (tidy : Tidy (base ++ params)) (bare : '(' ∉ base) (split : IsParams params) :
    namesValueList (base ++ params) = valueListTypes.contains (String.ofList (upper base)) := by
  rw [namesValueList, bareName, splitType_append (tidy.of_params split).trim bare split]

theorem normalizeType_name {type : String} (member : type ∈ "VARCHAR" :: constantTypes) :
    normalizeType columnName type =
      (canonicalType? (upper columnName.toList) type "").getD (String.ofList (lower type.toList)) := by
  have names : ∀ type ∈ "VARCHAR" :: constantTypes, namesValueList (trim type.toList) = false ∧
      cleanType (trim type.toList) = type.toList ∧ '(' ∉ type.toList ∧
      unalias (String.ofList (upper type.toList)) = type := by
    decide
  obtain ⟨values, clean, bare, same⟩ := names type member
  have whole : cleanType (trim type.toList) = type.toList ++ [] := by rw [clean, List.append_nil]
  rw [normalizeType_of_clean values whole bare trivial, ruled, same, List.append_nil]
  rfl

theorem normalizeType_constant {type : String} (constant : type ∈ constantTypes) :
    normalizeType columnName type = type := by
  have answer : canonicalType? (upper columnName.toList) type "" = some type := by
    simp only [constantTypes, temporalTypes, binaryTypes, List.mem_append, List.mem_cons,
      List.not_mem_nil, or_false] at constant
    rcases constant with ((rfl | rfl | rfl | rfl | rfl | rfl | rfl | rfl) |
      rfl | rfl | rfl | rfl | rfl) | rfl | rfl | rfl | rfl | rfl | rfl | rfl <;> rfl
  rw [normalizeType_name (List.mem_cons_of_mem _ constant), answer, Option.getD_some]

theorem normalizeType_varchar :
    normalizeType columnName "VARCHAR" = if namesIdentifier columnName = true then "UUID" else "VARCHAR" := by
  have answer : canonicalType? (upper columnName.toList) "VARCHAR" "" =
      if namesIdentifier columnName = true then some "UUID" else some "VARCHAR" := rfl
  rw [normalizeType_name List.mem_cons_self, answer]
  split <;> rfl

end

/-! What the rules answer is not written in small letters. -/

def parametrizedTypes : List String := numericTypes ++ stringTypes

section

variable {columnName result : String} {base params : List Char}

theorem upper_bare (bare : '(' ∉ base) : '(' ∉ upper base := by
  intro member
  obtain ⟨c, inside, here⟩ := List.mem_flatMap.mp member
  rcases keepsFrame_upperChar c _ rfl with ⟨-, same⟩ | ⟨-, -, other⟩
  · rw [same, List.mem_singleton] at here
    exact bare (here ▸ inside)
  · exact absurd (other _ here) (by decide)

theorem isParams_upper (split : IsParams params) : IsParams (upper params) :=
  keepsFrame_upperChar.isParams (respelled_flatMap upperChar params) split

theorem bare_name (bare : '(' ∉ base) : '(' ∉ (unalias (String.ofList (upper base))).toList :=
  bare_unalias (by rw [String.toList_ofList]; exact upper_bare bare)

theorem known_of_ruled (bare : '(' ∉ base) (split : IsParams params)
    (found : ruled columnName base params = some result) :
    Known (unalias (String.ofList (upper base))) (String.ofList (upper params)) :=
  (canonicalType?_eq_some (bare_name bare)
    (by rw [String.toList_ofList]; exact isParams_upper split) found).1

theorem ruled_eq_some (bare : '(' ∉ base) (split : IsParams params)
    (found : ruled columnName base params = some result) :
    result ∈ constantTypes ∨ (String.ofList (upper base) = "INET" ∧ result = "VARCHAR") ∨
      (unalias (String.ofList (upper base)) ∈ parametrizedTypes ∧
        result = unalias (String.ofList (upper base)) ++ String.ofList (upper params)) := by
  have split' : IsParams (String.ofList (upper params)).toList := by
    rw [String.toList_ofList]
    exact isParams_upper split
  rcases (canonicalType?_eq_some (bare_name bare) split' found).2 with
    constant | ⟨inet, same⟩ | ⟨same, member⟩
  · exact .inl constant
  · exact .inr (.inl ⟨unalias_eq_inet inet, same⟩)
  · exact .inr (.inr ⟨List.mem_append.mpr member, same⟩)

def formNames : List String := "VARCHAR" :: constantTypes ++ parametrizedTypes ++ valueListTypes

theorem exists_capital {name : String} (member : name ∈ formNames) : ∃ c ∈ name.toList, ¬ IsSmall c := by
  have names : ∀ name ∈ formNames, ¬ name.toList.all (fun c => decide (IsSmall c)) = true := by
    decide
  have own := names name member
  rw [List.all_eq_true] at own
  simpa using own

theorem capital_of_ruled (bare : '(' ∉ base) (split : IsParams params)
    (found : ruled columnName base params = some result) : ∃ c ∈ result.toList, ¬ IsSmall c := by
  rcases ruled_eq_some bare split found with constant | ⟨-, rfl⟩ | ⟨member, same⟩
  · exact exists_capital (by simp [formNames, constant])
  · exact exists_capital (by decide)
  · obtain ⟨c, inside, large⟩ := exists_capital (List.mem_append_left _ (List.mem_append_right _ member))
    exact ⟨c, by rw [same, String.toList_append]; exact List.mem_append_left _ inside, large⟩

theorem ruled_inet (inet : String.ofList (upper base) = "INET") (split : IsParams params) :
    ruled columnName base params = some "VARCHAR" := by
  have own : unalias "INET" = "INET" := by decide
  rw [ruled, inet, own]
  exact canonicalType?_inet (by rw [String.toList_ofList]; exact isParams_upper split)

theorem ruled_values (bare : '(' ∉ base) (split : IsParams params)
    (values : valueListTypes.contains (String.ofList (upper base)) = true) :
    ruled columnName base params = none := by
  have names : ∀ name ∈ valueListTypes, unalias name = name ∧ name ∉ ruledTypes ∧ name ≠ "UUID" ∧
      firstWord name ∉ temporalTypes ∧ occursIn "TEXT".toList name.toList = false := by
    decide
  obtain ⟨own, unruled, other, timeless, textless⟩ := names _ (List.contains_iff_mem.mp values)
  cases found : ruled columnName base params with
  | none => rfl
  | some result =>
    have known := known_of_ruled bare split found
    rw [own] at known
    rcases known with member | ⟨same, -⟩ | temporal | ⟨text, -⟩
    · exact absurd member unruled
    · exact absurd same other
    · exact absurd temporal timeless
    · rw [textless] at text
      cases text

end

/-! A sign modifier in the form does not stay. -/

section

variable {columnName : String} {form : List Char}

theorem exists_second (tidy : Tidy form) (values : namesValueList form = false) :
    ∃ base params, cleanType form = base ++ params ∧ '(' ∉ base ∧ IsParams params ∧
      normalizeType columnName (String.ofList form) =
        (ruled columnName base params).getD (String.ofList (lower (cleanType form))) := by
  obtain ⟨base, params, clean, bare, split⟩ := exists_base (cleanType form)
  refine ⟨base, params, clean, bare, split, ?_⟩
  have trimmed : trim (String.ofList form).toList = form := by rw [String.toList_ofList, tidy.trim]
  rw [clean]
  exact normalizeType_of_clean (by rw [trimmed, values]) (by rw [trimmed, clean]) bare split

theorem small_signed_changes (tidy : Tidy form) (values : namesValueList form = false)
    (signed : (signModifier.search form).isSome = true) (small : ∀ c ∈ form, IsSmall c) :
    normalizeType columnName (String.ofList form) ≠ String.ofList form := by
  obtain ⟨part, shorter⟩ := cleanType_shorter tidy signed
  obtain ⟨base, params, clean, bare, split, same⟩ := @exists_second columnName form tidy values
  rw [same]
  cases found : ruled columnName base params with
  | some result =>
    obtain ⟨c, inside, large⟩ := capital_of_ruled bare split found
    rw [Option.getD_some]
    rintro rfl
    rw [String.toList_ofList] at inside
    exact large (small c inside)
  | none =>
    have stays : lower (cleanType form) = cleanType form :=
      lowerFrom_of_isSmall fun c member => small c (part.subset member)
    rw [Option.getD_none, stays]
    intro whole
    have letters := congrArg (fun text : String => text.toList.length) whole
    simp only [String.toList_ofList] at letters
    omega

/-- No alias is a part of the name that it stands for. -/
theorem eq_of_unalias_sublist {base name : String} (same : unalias base = name)
    (part : List.Sublist base.toList name.toList) : base = name := by
  have entries : ∀ entry ∈ typeAliases, ¬ List.Sublist entry.1.toList entry.2.toList := by decide
  cases found : typeAliases.lookup base with
  | none => rwa [unalias, found, Option.getD_none] at same
  | some target =>
    rw [unalias, found, Option.getD_some] at same
    exact absurd (same ▸ part) (entries _ (mem_typeAliases found))

theorem parametrizedTypes_plain : ∀ name ∈ parametrizedTypes, upper name.toList = name.toList ∧
    '(' ∉ name.toList ∧ valueListTypes.contains name = false ∧ name.toList.all isFilled = true := by
  decide

theorem unsigned_names : ∀ name ∈ "VARCHAR" :: constantTypes, signModifier.search name.toList = none := by
  decide

theorem capital_signed_changes {name : String} {params : List Char} (member : name ∈ parametrizedTypes)
    (split : IsParams params) (capital : ∀ c ∈ params, IsCapital c) (tidy : Tidy (name.toList ++ params))
    (signed : (signModifier.search (name.toList ++ params)).isSome = true) :
    normalizeType columnName (String.ofList (name.toList ++ params)) ≠
      String.ofList (name.toList ++ params) := by
  obtain ⟨plain, bare, other, -⟩ := parametrizedTypes_plain name member
  have values : namesValueList (name.toList ++ params) = false := by
    rw [namesValueList_append tidy bare split, plain, String.ofList_toList, other]
  obtain ⟨part, shorter⟩ := cleanType_shorter tidy signed
  obtain ⟨base, rest, clean, bare', split', same⟩ := @exists_second columnName _ tidy values
  have letters : ∀ c ∈ name.toList ++ params, IsCapital c := fun c inside =>
    (List.mem_append.mp inside).elim
      (fun here => isCapital_of_mem_upper (by rwa [plain] : c ∈ upper name.toList)) (capital c)
  rw [clean] at part shorter
  have kept : ∀ c ∈ base ++ rest, IsCapital c := fun c inside => letters c (part.subset inside)
  have base_ : upper base = base := upper_of_isCapital fun c inside => kept c (List.mem_append_left _ inside)
  have rest_ : upper rest = rest := upper_of_isCapital fun c inside => kept c (List.mem_append_right _ inside)
  rw [same]
  cases found : ruled columnName base rest with
  | none =>
    -- in lower case no capital of the name is left
    obtain ⟨c, inside, large⟩ := exists_capital (List.mem_append_left _ (List.mem_append_right _ member))
    rw [Option.getD_none]
    intro whole
    have inside := List.mem_append_left params inside
    rw [← String.ofList_injective whole] at inside
    exact large (isSmall_lowerFrom inside)
  | some result =>
    rw [Option.getD_some]
    rintro rfl
    -- constant answers hold no modifier
    have constant : ∀ {type : String}, type ∈ "VARCHAR" :: constantTypes →
        String.ofList (name.toList ++ params) ≠ type := by
      rintro type listed rfl
      rw [← @String.toList_ofList (name.toList ++ params), unsigned_names _ listed] at signed
      cases signed
    rcases ruled_eq_some bare' split' found with listed | ⟨-, whole⟩ | ⟨-, whole⟩
    · exact constant (List.mem_cons_of_mem _ listed) rfl
    · exact constant List.mem_cons_self whole
    · -- the same name stands before the same parameters, but part of the base was taken away
      have bare_ := bare_name bare'
      rw [base_] at whole bare_
      rw [rest_, ← String.toList_inj, String.toList_ofList, String.toList_append,
        String.toList_ofList] at whole
      have names := congrArg (List.takeWhile (· != '(')) whole
      have others := congrArg (List.dropWhile (· != '(')) whole
      rw [takeWhile_base bare split, takeWhile_base bare_ split', String.toList_inj] at names
      rw [dropWhile_base bare split, dropWhile_base bare_ split'] at others
      rw [others, List.append_sublist_append_right] at part
      have alike := eq_of_unalias_sublist names.symm (by rwa [String.toList_ofList])
      rw [← alike, String.toList_ofList, others] at shorter
      omega

end

/-! The second pass, by what the first one did. -/

section

variable {columnName type : String} {base params : List Char}

theorem exists_lower (bare : '(' ∉ base) (split : IsParams params) :
    ∃ small rest, lower (base ++ params) = small ++ rest ∧ '(' ∉ small ∧ IsParams rest ∧
      upper small = base.flatMap recased ∧ upper rest = params.flatMap recased := by
  have cut := (respelled_lower (base ++ params)).cut (keepsFrame_lowers.keeps (by decide : isFrame '(' = true))
  rw [takeWhile_base bare split, dropWhile_base bare split] at cut
  refine ⟨_, _, List.takeWhile_append_dropWhile.symm, ?_, keepsFrame_lowers.isParams cut.2 split,
    cut.1.upper_eq, cut.2.upper_eq⟩
  intro inside
  exact absurd (List.all_eq_true.mp List.all_takeWhile _ inside) (by decide)

theorem namesValueList_lower (tidy : Tidy (base ++ params)) (bare : '(' ∉ base) (split : IsParams params) :
    namesValueList (lower (base ++ params)) = namesValueList (base ++ params) := by
  obtain ⟨small, rest, same, bare', split', letters, -⟩ := exists_lower bare split
  have tidy' := keepsFrame_lowers.tidy (respelled_lower (base ++ params)) tidy
  rw [same] at tidy' ⊢
  rw [namesValueList_append tidy' bare' split', namesValueList_append tidy bare split, letters,
    Bool.eq_iff_iff, List.contains_iff_mem, List.contains_iff_mem]
  have compared : ∀ {name : String}, name ∈ valueListTypes → name ∈ comparedNames := fun member => by
    simp [comparedNames, member]
  constructor
  · intro member
    rwa [upper_of_recased (compared member)]
  · intro member
    rwa [(recased_eq_name (compared member)).mpr rfl]

theorem tidy_named (tidy : Tidy (base ++ params)) (split : IsParams params) {name : List Char}
    (filled : ∀ c ∈ name, isFilled c = true) : Tidy (name ++ upper params) := by
  have behind : Spaced isSolid (name.getLast?.or none) params := by
    cases params with
    | nil => trivial
    | cons c params =>
      cases split
      exact (Spaced.of_append tidy).behind rfl _
  exact .append filled (keepsFrame_upperChar.spaced (respelled_flatMap upperChar params) rfl behind)

section

variable (values : namesValueList (trim type.toList) = false)
  (clean : cleanType (trim type.toList) = base ++ params) (bare : '(' ∉ base) (split : IsParams params)

include values clean bare split

/-- What was cleaned into a list of values is put into lower case first, and its name into upper case later. -/
theorem normalizeType_exposed (exposed : namesValueList (base ++ params) = true) :
    normalizeType columnName (normalizeType columnName type) ≠ normalizeType columnName type := by
  have tidy := tidy_of_cleanType clean
  have small := keepsFrame_lowers.tidy (respelled_lower (base ++ params)) tidy
  have unruled : ruled columnName base params = none :=
    ruled_values bare split (by rwa [namesValueList_append tidy bare split] at exposed)
  rw [normalizeType_of_clean values clean bare split, unruled, Option.getD_none]
  have trimmed : trim (String.ofList (lower (base ++ params))).toList = lower (base ++ params) := by
    rw [String.toList_ofList, small.trim]
  have again : namesValueList (lower (base ++ params)) = true := by
    rw [namesValueList_lower tidy bare split, exposed]
  rw [normalizeType_of_values (by rw [trimmed, again]), trimmed]
  intro whole
  obtain ⟨c, inside, large⟩ := exists_capital
    (List.mem_append_right _ (List.contains_iff_mem.mp again))
  rw [bareName, String.toList_ofList] at inside
  have later := List.mem_append_left (splitType (lower (base ++ params))).2 inside
  rw [String.ofList_injective whole] at later
  exact large (isSmall_lowerFrom later)

/-- An unknown type is unknown in lower case, too. -/
theorem normalizeType_unknown (covered : namesValueList (base ++ params) = false)
    (unknown : ruled columnName base params = none) :
    normalizeType columnName (normalizeType columnName type) = normalizeType columnName type ↔
      signModifier.search (normalizeType columnName type).toList = none := by
  have tidy := tidy_of_cleanType clean
  have small := keepsFrame_lowers.tidy (respelled_lower (base ++ params)) tidy
  have covered' : namesValueList (lower (base ++ params)) = false := by
    rw [namesValueList_lower tidy bare split, covered]
  rw [normalizeType_of_clean values clean bare split, unknown, Option.getD_none, String.toList_ofList]
  cases signs : signModifier.search (lower (base ++ params)) with
  | some found =>
    refine iff_of_false ?_ (by simp)
    exact small_signed_changes small covered' (by rw [signs, Option.isSome_some])
      fun _ inside => isSmall_lowerFrom inside
  | none =>
    refine iff_of_true ?_ rfl
    obtain ⟨base', params', same, bare', split', names, rest⟩ := exists_lower bare split
    have again : ruled columnName base' params' = none := by
      cases found : ruled columnName base' params' with
      | none => rfl
      | some result =>
        have known := known_of_ruled bare' split' found
        rw [names, rest] at known
        exact absurd (known_of_recased known) (canonicalType?_eq_none unknown)
    have settled : lower (base' ++ params') = base' ++ params' := by rw [← same, lower_lower]
    rw [same] at small covered' signs ⊢
    rw [normalizeType_tidy small bare' split' covered' signs, again, Option.getD_none, settled]

theorem normalizeType_parametrized (named : unalias (String.ofList (upper base)) ∈ parametrizedTypes)
    (found : ruled columnName base params =
      some (unalias (String.ofList (upper base)) ++ String.ofList (upper params))) :
    normalizeType columnName (normalizeType columnName type) = normalizeType columnName type ↔
      signModifier.search (normalizeType columnName type).toList = none := by
  have tidy := tidy_of_cleanType clean
  obtain ⟨plain, bare', other, filled⟩ := parametrizedTypes_plain _ named
  have split' := isParams_upper split
  have form := tidy_named tidy split (List.all_eq_true.mp filled)
  rw [normalizeType_of_clean values clean bare split, found, Option.getD_some]
  have own : unalias (String.ofList (upper base)) ++ String.ofList (upper params) =
      String.ofList ((unalias (String.ofList (upper base))).toList ++ upper params) := by
    rw [String.ofList_append, String.ofList_toList]
  have again : ruled columnName (unalias (String.ofList (upper base))).toList (upper params) =
      ruled columnName base params := by
    rw [ruled, ruled, plain, String.ofList_toList, unalias_unalias, upper_upper]
  rw [found, own] at again
  rw [own, String.toList_ofList]
  cases signs : signModifier.search
      ((unalias (String.ofList (upper base))).toList ++ upper params) with
  | some match_ =>
    refine iff_of_false ?_ (by simp)
    exact capital_signed_changes named split' (fun _ inside => isCapital_of_mem_upper inside) form
      (by rw [signs, Option.isSome_some])
  | none =>
    refine iff_of_true ?_ rfl
    have covered : namesValueList ((unalias (String.ofList (upper base))).toList ++ upper params) = false := by
      rw [namesValueList_append form bare' split', plain, String.ofList_toList, other]
    rw [normalizeType_tidy form bare' split' covered signs, again, Option.getD_some]

end

end

/-- Normal forms are normal but for three kinds of types: what a sign modifier kept from being a list of
values, an address in a column of identifiers, and what upper or lower case writes with a sign modifier. -/
theorem normalizeType_normal_iff (columnName type : String) :
    normalizeType columnName (normalizeType columnName type) = normalizeType columnName type ↔
      namesValueList (trim type.toList) = true ∨
        namesValueList (cleanType (trim type.toList)) = false ∧
        ¬ (bareName (cleanType (trim type.toList)) = "INET" ∧ namesIdentifier columnName = true) ∧
        signModifier.search (normalizeType columnName type).toList = none := by
  cases values : namesValueList (trim type.toList) with
  | true => exact iff_of_true (normalizeType_values values) (.inl rfl)
  | false =>
    obtain ⟨base, params, clean, bare, split⟩ := exists_base (cleanType (trim type.toList))
    have tidy := tidy_of_cleanType clean
    have own : bareName (cleanType (trim type.toList)) = String.ofList (upper base) := by
      rw [clean, bareName, splitType_append (tidy.of_params split).trim bare split]
    rw [own, clean, or_iff_right Bool.false_ne_true]
    cases covered : namesValueList (base ++ params) with
    | true =>
      exact iff_of_false (normalizeType_exposed values clean bare split covered) fun other => nomatch other.1
    | false =>
      rw [and_iff_right rfl]
      by_cases inet : String.ofList (upper base) = "INET"
      · -- the form is a text type, and what that is depends on the column
        have form : normalizeType columnName type = "VARCHAR" := by
          rw [normalizeType_of_clean values clean bare split, ruled_inet inet split, Option.getD_some]
        rw [form, normalizeType_varchar, unsigned_names _ List.mem_cons_self, and_iff_left rfl]
        cases namesIdentifier columnName with
        | true => exact iff_of_false (by decide) fun other => other ⟨inet, rfl⟩
        | false => exact iff_of_true rfl fun both => nomatch both.2
      · rw [and_iff_right fun both => inet both.1]
        cases found : ruled columnName base params with
        | none => exact normalizeType_unknown values clean bare split covered found
        | some result =>
          rcases ruled_eq_some bare split found with constant | ⟨other, -⟩ | ⟨named, rfl⟩
          · have form : normalizeType columnName type = result := by
              rw [normalizeType_of_clean values clean bare split, found, Option.getD_some]
            rw [form]
            exact iff_of_true (normalizeType_constant constant)
              (unsigned_names _ (List.mem_cons_of_mem _ constant))
          · exact absurd other inet
          · exact normalizeType_parametrized values clean bare split named found

theorem normalizeType_can_change :
    ¬ ∀ columnName type : String,
      normalizeType columnName (normalizeType columnName type) = normalizeType columnName type := by
  intro all
  have changes : normalizeType "a_uuid" (normalizeType "a_uuid" "INET") ≠ normalizeType "a_uuid" "INET" := by
    decide
  exact changes (all "a_uuid" "INET")

end DdlSchema.Schema
