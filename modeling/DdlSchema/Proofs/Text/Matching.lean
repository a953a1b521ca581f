import Mathlib.Data.Bool.AllAny
import Mathlib.Data.List.Forall2
import Mathlib.Logic.Relation
import DdlSchema.Text.Pattern

/-! Where a pattern can end. `Reaches` says it of each form of pattern, whatever choice is tried first;
`reaches_of_run?` says that a match always ends at such a place. From there on nothing has to be known of
the order of choices. What is known of the way to such a place comes from `Reaches.along`: it holds if it
holds of single characters and captures and can be put together. -/

set_option autoImplicit false

namespace DdlSchema.Text

theorem getLast?_cons_or {α : Type} (entry : α) (list : List α) (before : Option α) :
    (entry :: list).getLast?.or before = list.getLast?.or (some entry) := by
  rw [List.getLast?_cons]
  cases list.getLast? <;> rfl

/-- The place behind characters that are taken from the rest. -/
def Cursor.past (place : Cursor) (taken : List Char) : Cursor :=
  { place with
    before := taken.getLast?.or place.before
    rest := place.rest.drop taken.length
    consumed := place.consumed + taken.length }

theorem Cursor.past_nil (place : Cursor) : place.past [] = place := by simp [past]

theorem Cursor.past_cons (c : Char) (rest : List Char) (before : Option Char) (consumed : Nat)
    (captured : List (String × List Char)) (taken : List Char) :
    Cursor.past ⟨before, c :: rest, consumed, captured⟩ (c :: taken) =
      Cursor.past ⟨some c, rest, consumed + 1, captured⟩ taken := by
  simp only [past, getLast?_cons_or, List.length_cons, List.drop_succ_cons, Nat.add_assoc,
    Nat.add_comm 1 taken.length]

namespace Pattern

/-- The pattern that begins at the first place can end at the second one. -/
def Reaches : Pattern → Cursor → Cursor → Prop
  | .empty, place, later => later = place
  | .char accepts, place, later =>
    ∃ c rest, place.rest = c :: rest ∧ accepts c = true ∧
      later = ⟨some c, rest, place.consumed + 1, place.captured⟩
  | .run accepts least, place, later =>
    ∃ taken, taken <+: place.rest ∧ (∀ c ∈ taken, accepts c = true) ∧ least ≤ taken.length ∧
      later = place.past taken
  | .shortRun accepts, place, later =>
    ∃ taken, taken <+: place.rest ∧ (∀ c ∈ taken, accepts c = true) ∧ later = place.past taken
  | .seq first second, place, later => ∃ middle, Reaches first place middle ∧ Reaches second middle later
  | .either first second, place, later => Reaches first place later ∨ Reaches second place later
  | .many body, place, later => Relation.ReflTransGen (Reaches body) place later
  | .capture label body, place, later =>
    ∃ inner, Reaches body place inner ∧
      later = { inner with
        captured := (label, place.rest.take (inner.consumed - place.consumed)) :: inner.captured }
  | .after accepts, place, later => place.before.any accepts = true ∧ later = place
  | .notAfter accepts, place, later => place.before.any accepts = false ∧ later = place
  | .ahead body, place, later => (∃ inner, Reaches body place inner) ∧ later = place
  | .notAhead accepts, place, later => place.rest.head?.any accepts = false ∧ later = place
  | .edge, place, later =>
    place.before.any isWordChar ≠ place.rest.head?.any isWordChar ∧ later = place
  | .finish, place, later => place.rest = [] ∧ later = place

/-! Runs that go on differently. -/

section

variable {α β : Type} {f : α → β}

/-- Of two ways that are tried in order, the first that succeeds counts. -/
theorem orElse_map {first second : Option α} {first' second' : Option β} :
    first' = first.map f → second' = second.map f →
    (match first' with | some result => some result | none => second') =
      Option.map f (match first with | some result => some result | none => second) := by
  rintro rfl rfl
  cases first <;> rfl

variable {next : Cursor → Option α} {other : Cursor → Option β}

/-- A run stops only where it is long enough. -/
theorem stopped_map {least : Nat} {place : Cursor}
    (mapped : least = 0 → other place = (next place).map f) :
    (if least = 0 then other place else none) =
      Option.map f (if least = 0 then next place else none) := by
  split
  · next enough => exact mapped enough
  · rfl

theorem overRun_map {accepts : Char → Bool} {captured : List (String × List Char)} {least : Nat}
    {before : Option Char} {rest : List Char} {consumed : Nat}
    (mapped : ∀ taken, taken <+: rest → (∀ c ∈ taken, accepts c = true) → least ≤ taken.length →
      other (Cursor.past ⟨before, rest, consumed, captured⟩ taken) =
        (next (Cursor.past ⟨before, rest, consumed, captured⟩ taken)).map f) :
    overRun accepts captured other least before rest consumed =
      (overRun accepts captured next least before rest consumed).map f := by
  induction rest generalizing least before consumed with
  | nil =>
    have here := fun enough => mapped [] List.nil_prefix (List.forall_mem_nil _) (Nat.le_of_eq enough)
    rw [Cursor.past_nil] at here
    exact stopped_map here
  | cons c rest ih =>
    have here := fun enough => mapped [] List.nil_prefix (List.forall_mem_nil _) (Nat.le_of_eq enough)
    rw [Cursor.past_nil] at here
    have stop := stopped_map here
    simp only [overRun]
    split
    · next accepted =>
      refine orElse_map (ih fun taken start all enough => ?_) stop
      have longer := mapped (c :: taken) (List.cons_prefix_cons.mpr ⟨rfl, start⟩)
        (List.forall_mem_cons.mpr ⟨accepted, all⟩) (by simp only [List.length_cons]; omega)
      rwa [Cursor.past_cons] at longer
    · exact stop

theorem overShortRun_map {accepts : Char → Bool} {captured : List (String × List Char)}
    {before : Option Char} {rest : List Char} {consumed : Nat}
    (mapped : ∀ taken, taken <+: rest → (∀ c ∈ taken, accepts c = true) →
      other (Cursor.past ⟨before, rest, consumed, captured⟩ taken) =
        (next (Cursor.past ⟨before, rest, consumed, captured⟩ taken)).map f) :
    overShortRun accepts captured other before rest consumed =
      (overShortRun accepts captured next before rest consumed).map f := by
  induction rest generalizing before consumed with
  | nil =>
    have here := mapped [] List.nil_prefix (List.forall_mem_nil _)
    rwa [Cursor.past_nil] at here
  | cons c rest ih =>
    have here := mapped [] List.nil_prefix (List.forall_mem_nil _)
    rw [Cursor.past_nil] at here
    simp only [overShortRun]
    refine orElse_map here ?_
    split
    · next accepted =>
      refine ih fun taken start all => ?_
      have longer := mapped (c :: taken) (List.cons_prefix_cons.mpr ⟨rfl, start⟩)
        (List.forall_mem_cons.mpr ⟨accepted, all⟩)
      rwa [Cursor.past_cons] at longer
    · rfl

theorem run?_map {pattern : Pattern} {place : Cursor}
    (mapped : ∀ later, Reaches pattern place later → other later = (next later).map f) :
    run? pattern place other = (run? pattern place next).map f := by
  induction pattern generalizing place next other with
  | empty => exact mapped place rfl
  | char accepts =>
    simp only [run?]
    split
    · rfl
    · next c rest here =>
      split
      · next accepted => exact mapped _ ⟨c, rest, here, accepted, rfl⟩
      · rfl
  | run accepts least =>
    exact overRun_map fun taken start all enough => mapped _ ⟨taken, start, all, enough, rfl⟩
  | shortRun accepts => exact overShortRun_map fun taken start all => mapped _ ⟨taken, start, all, rfl⟩
  | seq first second ihFirst ihSecond =>
    exact ihFirst fun middle reach => ihSecond fun later onward => mapped later ⟨middle, reach, onward⟩
  | either first second ihFirst ihSecond =>
    exact orElse_map (ihFirst fun later reach => mapped later (.inl reach))
      (ihSecond fun later reach => mapped later (.inr reach))
  | many body ih =>
    -- on the bound, for all places at once: the next repetition begins at another one
    have repeated : ∀ bound place,
        (∀ later, Relation.ReflTransGen (Reaches body) place later →
          other later = (next later).map f) →
        repeatBody (fun from_ inner => run? body from_ inner) other bound place =
          (repeatBody (fun from_ inner => run? body from_ inner) next bound place).map f := by
      intro bound
      induction bound with
      | zero => exact fun place mapped => mapped place .refl
      | succ bound more =>
        intro place mapped
        refine orElse_map (ih fun middle reach => ?_) (mapped place .refl)
        split
        · exact more middle fun later onward => mapped later (.head reach onward)
        · rfl
    exact repeated _ place mapped
  | capture label body ih => exact ih fun inner reach => mapped _ ⟨inner, reach, rfl⟩
  | after accepts =>
    simp only [run?]
    split
    · next c here =>
      split
      · next accepted => exact mapped place ⟨by simp [here, accepted], rfl⟩
      · rfl
    · rfl
  | notAfter accepts =>
    simp only [run?]
    split
    · next c here =>
      split
      · rfl
      · next refused => exact mapped place ⟨by simpa [here] using refused, rfl⟩
    · next here => exact mapped place ⟨by simp [here], rfl⟩
  | ahead body ih => exact ih fun inner reach => mapped place ⟨⟨inner, reach⟩, rfl⟩
  | notAhead accepts =>
    simp only [run?]
    split
    · rfl
    · next refused => exact mapped place ⟨by simpa using refused, rfl⟩
  | edge =>
    simp only [run?]
    split
    · next apart => exact mapped place ⟨by simpa using apart, rfl⟩
    · rfl
  | finish =>
    simp only [run?]
    split
    · next here => exact mapped place ⟨by simpa using here, rfl⟩
    · rfl

end

theorem reaches_of_run? {α : Type} {next : Cursor → Option α} {result : α} {pattern : Pattern}
    {place : Cursor} (found : run? pattern place next = some result) :
    ∃ later, Reaches pattern place later ∧ next later = some result := by
  classical
  -- a run that keeps with each result where it comes from, and lets none come from elsewhere
  let traced : Cursor → Option {result : α // ∃ later, Reaches pattern place later ∧
      next later = some result} := fun later =>
    if reach : Reaches pattern place later then
      (next later).attach.map fun result => ⟨result.1, later, reach, result.2⟩
    else none
  have same : run? pattern place next = (run? pattern place traced).map Subtype.val := by
    refine run?_map fun later reach => ?_
    simp only [traced, dif_pos reach, Option.map_map]
    exact (Option.attach_map_subtype_val (next later)).symm
  rw [same] at found
  obtain ⟨⟨_, origin⟩, -, rfl⟩ := Option.map_eq_some_iff.mp found
  exact origin

/-! Sequences. -/

theorem reaches_ofList_cons {first : Pattern} {rest : List Pattern} {place later : Cursor} :
    Reaches (ofList (first :: rest)) place later ↔
      ∃ middle, Reaches first place middle ∧ Reaches (ofList rest) middle later := by
  cases rest with
  | nil =>
    constructor
    · intro reach
      exact ⟨later, reach, rfl⟩
    · rintro ⟨middle, reach, rfl⟩
      exact reach
  | cons second rest => exact Iff.rfl

/-! What a match takes. -/

/-- What stands between the two places, if the second one lies behind the first. -/
def Spans (place later : Cursor) (taken : List Char) : Prop :=
  place.rest = taken ++ later.rest ∧ later.consumed = place.consumed + taken.length

theorem spans_nil (place : Cursor) : Spans place place [] := ⟨rfl, rfl⟩

theorem spans_past {place : Cursor} {taken : List Char} (start : taken <+: place.rest) :
    Spans place (place.past taken) taken := by
  obtain ⟨rest, same⟩ := start
  exact ⟨by simp [Cursor.past, ← same], rfl⟩

theorem Spans.trans {place middle later : Cursor} {first second : List Char}
    (before : Spans place middle first) (after : Spans middle later second) :
    Spans place later (first ++ second) := by
  refine ⟨?_, ?_⟩
  · rw [before.1, after.1, List.append_assoc]
  · rw [after.2, before.2, List.length_append]
    omega

theorem Spans.unique {place later : Cursor} {first second : List Char}
    (here : Spans place later first) (there : Spans place later second) : first = second :=
  List.append_cancel_right (here.1.symm.trans there.1)

theorem Spans.take_eq {place later : Cursor} {taken : List Char} (spans : Spans place later taken) :
    place.rest.take (later.consumed - place.consumed) = taken := by
  rw [spans.1, spans.2, Nat.add_sub_cancel_left, List.take_left]

/-! Ways through a pattern. -/

def avoids (c : Char) : Pattern → Bool
  | .char accepts | .run accepts _ | .shortRun accepts => !accepts c
  | .seq first second | .either first second => first.avoids c && second.avoids c
  | .many body | .capture _ body => body.avoids c
  | _ => true

/-- The parts of the pattern whose text is kept, with the names it is kept under. -/
def labelled : Pattern → List (String × Pattern)
  | .seq first second | .either first second => labelled first ++ labelled second
  | .many body => labelled body
  | .capture label body => (label, body) :: labelled body
  | _ => []

/-- The relation goes along with the pattern: it holds where a character of one of its classes is taken and
where the text of one of its named parts is kept, and it is reflexive and transitive. -/
structure Along (relation : Cursor → Cursor → Prop) (pattern : Pattern) : Prop where
  refl : ∀ place, relation place place
  trans : ∀ {place middle later}, relation place middle → relation middle later → relation place later
  take : ∀ c, pattern.avoids c = false → ∀ before rest consumed captured,
    relation ⟨before, c :: rest, consumed, captured⟩ ⟨some c, rest, consumed + 1, captured⟩
  keep : ∀ label body, (label, body) ∈ pattern.labelled → ∀ place inner, Reaches body place inner →
    relation place inner →
    relation place { inner with
      captured := (label, place.rest.take (inner.consumed - place.consumed)) :: inner.captured }

section

variable {relation : Cursor → Cursor → Prop} {pattern : Pattern} {place later : Cursor}

theorem Along.part {part : Pattern} (along : Along relation pattern)
    (classes : ∀ c, part.avoids c = false → pattern.avoids c = false)
    (names : part.labelled ⊆ pattern.labelled) : Along relation part where
  refl := along.refl
  trans := along.trans
  take c taken := along.take c (classes c taken)
  keep label body kept := along.keep label body (names kept)

theorem Along.past (along : Along relation pattern) {taken : List Char} (start : taken <+: place.rest)
    (all : ∀ c ∈ taken, pattern.avoids c = false) : relation place (place.past taken) := by
  induction taken generalizing place with
  | nil =>
    rw [Cursor.past_nil]
    exact along.refl place
  | cons c taken ih =>
    obtain ⟨here, later⟩ := List.forall_mem_cons.mp all
    obtain ⟨before, rest, consumed, captured⟩ := place
    obtain ⟨rest, rfl⟩ := start
    rw [List.cons_append, Cursor.past_cons]
    exact along.trans (along.take c here before _ consumed captured) (ih ⟨rest, rfl⟩ later)

/-- What goes along with a pattern holds between each place and those that the pattern reaches from it. -/
theorem Reaches.along (reach : Reaches pattern place later) (along : Along relation pattern) :
    relation place later := by
  induction pattern generalizing place later with
  | char accepts =>
    obtain ⟨before, text, consumed, captured⟩ := place
    obtain ⟨c, rest, rfl, accepted, rfl⟩ := reach
    exact along.take c (by simp [avoids, accepted]) before rest consumed captured
  | run accepts least =>
    obtain ⟨taken, start, all, -, rfl⟩ := reach
    exact along.past start fun c member => by simp [avoids, all c member]
  | shortRun accepts =>
    obtain ⟨taken, start, all, rfl⟩ := reach
    exact along.past start fun c member => by simp [avoids, all c member]
  | seq first second ihFirst ihSecond =>
    obtain ⟨middle, reach, onward⟩ := reach
    exact along.trans
      (ihFirst reach (along.part (by simp +contextual [avoids]) (List.subset_append_left _ _)))
      (ihSecond onward (along.part (by simp +contextual [avoids]) (List.subset_append_right _ _)))
  | either first second ihFirst ihSecond =>
    rcases reach with reach | reach
    · exact ihFirst reach (along.part (by simp +contextual [avoids]) (List.subset_append_left _ _))
    · exact ihSecond reach (along.part (by simp +contextual [avoids]) (List.subset_append_right _ _))
  | many body ih =>
    have inside : Along relation body := along.part (fun _ => id) (List.Subset.refl _)
    induction reach with
    | refl => exact along.refl place
    | tail _ step before => exact along.trans before (ih step inside)
  | capture label body ih =>
    obtain ⟨inner, reach, rfl⟩ := reach
    exact along.keep label body List.mem_cons_self place inner reach
      (ih reach (along.part (fun _ => id) (List.subset_cons_self _ _)))
  | empty =>
    cases reach
    exact along.refl place
  | after accepts | notAfter accepts | ahead body | notAhead accepts | edge | finish =>
    obtain ⟨-, rfl⟩ := reach
    exact along.refl _

/-- On the way from one place to another, characters of the classes of the pattern are taken. -/
theorem Reaches.taken (reach : Reaches pattern place later) :
    ∃ taken, Spans place later taken ∧ later.before = taken.getLast?.or place.before ∧
      ∀ c ∈ taken, pattern.avoids c = false := by
  have along : Along (fun place later => ∃ taken, Spans place later taken ∧
      later.before = taken.getLast?.or place.before ∧ ∀ c ∈ taken, pattern.avoids c = false) pattern := by
    refine ⟨fun place => ?_, ?_, fun c accepted _ _ _ _ => ?_, fun _ _ _ _ _ _ same => same⟩
    · exact ⟨[], spans_nil place, rfl, List.forall_mem_nil _⟩
    · rintro place middle later ⟨front, spansFront, last, all⟩ ⟨back, spansBack, last', all'⟩
      refine ⟨front ++ back, spansFront.trans spansBack, ?_, List.forall_mem_append.mpr ⟨all, all'⟩⟩
      rw [List.getLast?_append, Option.or_assoc, ← last, last']
    · exact ⟨[c], ⟨rfl, rfl⟩, rfl, List.forall_mem_singleton.mpr accepted⟩
  exact reach.along along

theorem Reaches.spans (reach : Reaches pattern place later) : ∃ taken, Spans place later taken := by
  obtain ⟨taken, spans, -⟩ := reach.taken
  exact ⟨taken, spans⟩

theorem Reaches.before (reach : Reaches pattern place later) {taken : List Char}
    (spans : Spans place later taken) : later.before = taken.getLast?.or place.before := by
  obtain ⟨own, also, last, -⟩ := reach.taken
  rwa [spans.unique also]

theorem not_mem_of_avoids {c : Char} (avoids : pattern.avoids c = true)
    (reach : Reaches pattern place later) {taken : List Char} (spans : Spans place later taken) :
    c ∉ taken := by
  obtain ⟨own, also, -, all⟩ := reach.taken
  rw [spans.unique also]
  intro member
  rw [all c member] at avoids
  cases avoids

end

def Takes (kind : List Char → Prop) (pattern : Pattern) : Prop :=
  ∀ ⦃place later : Cursor⦄ ⦃taken : List Char⦄, Reaches pattern place later → Spans place later taken →
    kind taken

section

variable {kind : List Char → Prop} {first second body : Pattern}

theorem Takes.seq (append : ∀ {front back}, kind front → kind back → kind (front ++ back))
    (before : Takes kind first) (after : Takes kind second) : Takes kind (.seq first second) := by
  rintro place later taken ⟨middle, reach, onward⟩ spans
  obtain ⟨front, spansFront⟩ := reach.spans
  obtain ⟨back, spansBack⟩ := onward.spans
  rw [spans.unique (spansFront.trans spansBack)]
  exact append (before reach spansFront) (after onward spansBack)

theorem Takes.either (left : Takes kind first) (right : Takes kind second) :
    Takes kind (.either first second) := by
  rintro place later taken (reach | reach)
  · exact left reach
  · exact right reach

theorem Takes.many (nothing : kind []) (append : ∀ {front back}, kind front → kind back →
    kind (front ++ back)) (takes : Takes kind body) : Takes kind (.many body) := by
  intro place later taken reach spans
  induction reach generalizing taken with
  | refl => rwa [spans.unique (spans_nil _)]
  | tail others step earlier =>
    obtain ⟨front, spansFront⟩ := @Reaches.spans (.many body) _ _ others
    obtain ⟨back, spansBack⟩ := Reaches.spans step
    rw [spans.unique (spansFront.trans spansBack)]
    exact append (earlier spansFront) (takes step spansBack)

end

theorem Reaches.letters {word : String} {place later : Cursor}
    (reach : Reaches (letters word) place later) :
    ∃ taken, Spans place later taken ∧
      List.Forall₂ (fun letter c => sameLetter letter c = true) word.toList taken := by
  unfold Pattern.letters at reach
  generalize word.toList = word at reach ⊢
  induction word generalizing place with
  | nil =>
    cases reach
    exact ⟨[], by simp [Spans], .nil⟩
  | cons letter rest ih =>
    obtain ⟨middle, first, reach⟩ := reaches_ofList_cons.mp reach
    obtain ⟨c, tail, here, same, rfl⟩ := first
    obtain ⟨taken, spans, all⟩ := ih reach
    have step : Spans place ⟨some c, tail, place.consumed + 1, place.captured⟩ [c] := by
      simp [Spans, here]
    exact ⟨c :: taken, step.trans spans, .cons same all⟩

theorem Reaches.either_letters {first second : String} {place later : Cursor}
    (reach : Reaches (.either (Pattern.letters first) (Pattern.letters second)) place later) :
    ∃ taken, Spans place later taken ∧
      (List.Forall₂ (fun letter c => sameLetter letter c = true) first.toList taken ∨
        List.Forall₂ (fun letter c => sameLetter letter c = true) second.toList taken) := by
  rcases reach with reach | reach
  · obtain ⟨taken, spans, same⟩ := reach.letters
    exact ⟨taken, spans, .inl same⟩
  · obtain ⟨taken, spans, same⟩ := reach.letters
    exact ⟨taken, spans, .inr same⟩

theorem matchAt_sound {pattern : Pattern} {before : Option Char} {text : List Char} {found : Match}
    (matched : pattern.matchAt before text = some found) :
    ∃ later, Reaches pattern ⟨before, text, 0, []⟩ later ∧ found.length = later.consumed ∧
      found.captured = later.captured := by
  obtain ⟨later, reach, same⟩ := reaches_of_run? matched
  cases same
  exact ⟨later, reach, rfl, rfl⟩

theorem Spans.consumed_eq {before : Option Char} {text : List Char} {captured : List (String × List Char)}
    {later : Cursor} {taken : List Char} (spans : Spans ⟨before, text, 0, captured⟩ later taken) :
    later.consumed = taken.length := spans.2.trans (Nat.zero_add _)

theorem matchAt_taken {pattern : Pattern} {before : Option Char} {text : List Char} {found : Match}
    (matched : pattern.matchAt before text = some found) :
    ∃ taken later, text = taken ++ later.rest ∧ found.length = taken.length ∧
      Reaches pattern ⟨before, text, 0, []⟩ later ∧ Spans ⟨before, text, 0, []⟩ later taken := by
  obtain ⟨later, reach, long, -⟩ := matchAt_sound matched
  obtain ⟨taken, spans⟩ := reach.spans
  exact ⟨taken, later, spans.1, long.trans spans.consumed_eq, reach, spans⟩

theorem searchFrom_sound {pattern : Pattern} {before : Option Char} {text rest : List Char} {found : Match}
    (searched : pattern.searchFrom before text = some (found, rest)) :
    rest <:+ text ∧ ∃ before, pattern.matchAt before rest = some found := by
  induction text generalizing before with
  | nil =>
    obtain ⟨match_, matched, same⟩ := Option.map_eq_some_iff.mp searched
    cases same
    exact ⟨List.suffix_rfl, before, matched⟩
  | cons c tail ih =>
    simp only [searchFrom] at searched
    split at searched
    · next matched =>
      cases searched
      exact ⟨List.suffix_rfl, before, matched⟩
    · obtain ⟨inside, later⟩ := ih searched
      exact ⟨inside.trans (List.suffix_cons c tail), later⟩

theorem search_sound {pattern : Pattern} {text rest : List Char} {found : Match}
    (searched : pattern.search text = some (found, rest)) :
    rest <:+ text ∧ ∃ before, pattern.matchAt before rest = some found :=
  searchFrom_sound searched

/-! What is captured. -/

theorem labelled_ofList (patterns : List Pattern) :
    labelled (ofList patterns) = patterns.flatMap labelled := by
  induction patterns with
  | nil => rfl
  | cons first rest ih =>
    cases rest with
    | nil => simp [ofList]
    | cons second rest => rw [List.flatMap_cons, ← ih]; rfl

theorem labelled_letters (word : String) : labelled (letters word) = [] := by
  simp [letters, labelled_ofList, labelled]

theorem Reaches.captured {pattern : Pattern} {place later : Cursor}
    (reach : Reaches pattern place later) {label : String} {text : List Char}
    (member : (label, text) ∈ later.captured) :
    (label, text) ∈ place.captured ∨ ∃ body, (label, body) ∈ pattern.labelled ∧
      ∃ first last, Reaches body first last ∧ Spans first last text := by
  have along : Along (fun place later => (label, text) ∈ later.captured →
      (label, text) ∈ place.captured ∨ ∃ body, (label, body) ∈ pattern.labelled ∧
        ∃ first last, Reaches body first last ∧ Spans first last text) pattern := by
    refine ⟨fun _ => .inl, fun first second member => ?_, fun _ _ _ _ _ _ => .inl, ?_⟩
    · exact (second member).elim first .inr
    · intro name body listed place inner reach earlier member
      rcases List.mem_cons.mp member with own | member
      · cases own
        obtain ⟨taken, spans⟩ := reach.spans
        exact .inr ⟨body, listed, place, inner, reach, spans.take_eq.symm ▸ spans⟩
      · exact earlier member
  exact reach.along along member

theorem search_captured {pattern : Pattern} {text rest : List Char} {found : Match}
    (searched : pattern.search text = some (found, rest)) {label : String} {part : List Char}
    (kept : found.get? label = some part) :
    ∃ body, (label, body) ∈ pattern.labelled ∧
      ∃ first last, Reaches body first last ∧ Spans first last part := by
  obtain ⟨-, before, matched⟩ := search_sound searched
  obtain ⟨later, reach, -, captured⟩ := matchAt_sound matched
  obtain ⟨newer, older, split, -⟩ := List.lookup_eq_some_iff.mp kept
  have member : (label, part) ∈ later.captured := by simp [← captured, split]
  rcases reach.captured member with nothing | part
  · cases nothing
  · exact part

end Pattern

end DdlSchema.Text
