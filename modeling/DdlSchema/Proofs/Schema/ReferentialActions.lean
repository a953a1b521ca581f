import Mathlib.Data.List.Nodup
import DdlSchema.Schema.Definition
import DdlSchema.Proofs.Schema.Misspelling
import DdlSchema.Proofs.Schema.TidyType
import DdlSchema.Proofs.Statement.TableHead
import DdlSchema.Proofs.Text.Raising

/-! Clauses that say what becomes of the rows of a table when the rows they refer to change. There are two
readers, one of a text with clauses in a row and one of the options of a reference, and both go by the last
clause for an event. -/

set_option autoImplicit false

namespace DdlSchema.Schema

open DdlSchema.Ddl DdlSchema.Text DdlSchema.Text.Pattern
open DdlSchema.Statement (matchAt_eq_none)

inductive Event where
  | delete
  | update
  deriving DecidableEq

def Event.name : Event → String
  | .delete => "DELETE"
  | .update => "UPDATE"

structure EventAction where
  event : Event
  action : ReferentialAction
  deriving DecidableEq

namespace EventAction

def all : List EventAction :=
  [Event.delete, .update].flatMap fun event => ReferentialAction.all.map fun action => ⟨event, action⟩

def text (entry : EventAction) : String := "ON " ++ entry.event.name ++ " " ++ entry.action.name

/-- The entry that an option spells, in any case and with any blanks between its words. -/
def ofOption? (option : String) : Option EventAction :=
  all.find? fun entry => canonicalWords option.toList == entry.text

def words (entry : EventAction) : List (List Char) :=
  "ON".toList :: entry.event.name.toList :: splitAtChar ' ' entry.action.name.toList

/-- A clause with the words of the entry, in any case and with blanks between them. -/
structure WrittenAs (entry : EventAction) (clause : List Char) : Prop where
  spelled : Spelled entry.words clause
  undotted : dottedI ∉ clause

/-- The action, if the entry is about the event. -/
def action? (event : Event) (entry : EventAction) : Option ReferentialAction :=
  if entry.event = event then some entry.action else none

end EventAction

/-- The action of the last entry for the event. -/
def lastAction (event : Event) (entries : List EventAction) : Option ReferentialAction :=
  (entries.filterMap (EventAction.action? event)).getLast?

-- There may be no blank between two clauses, as the pattern asks for none behind an action.
/-- The clauses of the entries in a row, with blanks around them. -/
inductive WrittenInRow : List EventAction → List Char → Prop where
  | nil {gap : List Char} : (∀ c ∈ gap, isBlank c = true) → WrittenInRow [] gap
  | cons {entry : EventAction} {entries : List EventAction} {gap clause rest : List Char} :
    (∀ c ∈ gap, isBlank c = true) → entry.WrittenAs clause → WrittenInRow entries rest →
      WrittenInRow (entry :: entries) (gap ++ (clause ++ rest))

/-! Words of clauses. -/

theorem Event.not_prefix {event other : Event} (differ : event ≠ other) (rest : List Char) :
    ¬ event.name.toList <+: other.name.toList ++ rest := by
  cases event with
  | delete =>
    cases other with
    | delete => exact absurd rfl differ
    | update => simp [name]
  | update =>
    cases other with
    | delete => simp [name]
    | update => exact absurd rfl differ

namespace EventAction

theorem steady (entry : EventAction) : Steady entry.words := by
  refine List.forall_mem_cons.mpr ⟨by decide, List.forall_mem_cons.mpr ⟨?_, entry.action.spelling_name.1⟩⟩
  cases entry.event with
  | delete => decide
  | update => decide

theorem apart (entry other : EventAction) : entry = other ∨ clash entry.words other.words = true := by
  obtain ⟨event, action⟩ := entry
  obtain ⟨event', action'⟩ := other
  by_cases events : event = event'
  · subst events
    have actions : action = action' ∨
        clash (splitAtChar ' ' action.name.toList) (splitAtChar ' ' action'.name.toList) = true := by
      cases action <;> cases action' <;> decide +kernel
    exact actions.imp (congrArg _) fun parts => by simp [words, clash, parts]
  · have first := Event.not_prefix events []
    have second := Event.not_prefix (Ne.symm events) []
    rw [List.append_nil] at first second
    have differ : event.name.toList ≠ event'.name.toList := fun same => first (same ▸ List.prefix_refl _)
    refine .inr ?_
    rw [words, words, clash, if_pos rfl, clash, if_neg differ]
    simp only [Bool.and_eq_true, Bool.not_eq_true', ← Bool.not_eq_true, List.isPrefixOf_iff_prefix]
    exact ⟨first, second⟩

theorem joined_words (entry : EventAction) : String.ofList ([' '].intercalate entry.words) = entry.text := by
  obtain ⟨-, joined⟩ := entry.action.spelling_name
  obtain ⟨first, others, words_⟩ :=
    List.exists_cons_of_ne_nil (splitAtChar_ne_nil ' ' entry.action.name.toList)
  rw [words, List.intercalate_cons_cons, words_, List.intercalate_cons_cons, ← words_, joined]
  simp [text, ← String.toList_inj]

theorem mem_all (entry : EventAction) : entry ∈ all := by
  obtain ⟨event, action⟩ := entry
  cases event <;> cases action <;> decide

theorem eq_of_text {entry other : EventAction} (same : entry.text = other.text) : entry = other := by
  have distinct : (all.map text).Nodup := by decide +kernel
  exact List.inj_on_of_nodup_map distinct (mem_all entry) (mem_all other) same

theorem ofOption?_eq_some {option : String} {entry : EventAction} :
    ofOption? option = some entry ↔ canonicalWords option.toList = entry.text := by
  have sound : ∀ other, ofOption? option = some other → canonicalWords option.toList = other.text :=
    fun other found => by simpa using List.find?_some found
  refine ⟨sound entry, fun canonical => ?_⟩
  obtain ⟨other, found⟩ := Option.isSome_iff_exists.mp
    (List.find?_isSome.mpr ⟨entry, mem_all entry, beq_iff_eq.mpr canonical⟩ :
      (ofOption? option).isSome = true)
  rw [ofOption?, found, eq_of_text ((sound other found).symm.trans canonical)]

end EventAction

/-! Options. -/

section

variable {entry : EventAction} {entries : List EventAction}

theorem ofOption?_written {option : String} (written : entry.WrittenAs option.toList) :
    EventAction.ofOption? option = some entry := by
  rw [EventAction.ofOption?_eq_some, canonicalWords, squeeze,
    written.spelled.words_upper entry.steady written.undotted, entry.joined_words]

theorem canonicalWords_behind {text front rest : List Char}
    (split : (canonicalWords text).toList = front ++ ' ' :: rest) :
    canonicalWords rest = String.ofList rest := by
  rw [canonicalWords, String.toList_ofList] at split
  have spaced := spaced_squeeze (upper text)
  rw [split] at spaced
  obtain ⟨space, spaced⟩ := spaced.of_append
  have capital : ∀ c ∈ rest, IsCapital c := by
    intro c member
    have inside : c ∈ squeeze (upper text) := by simp [split, member]
    rcases mem_of_mem_squeeze inside with written | rfl
    · exact isCapital_of_mem_upper written
    · decide
  have head := (space (by decide)).2.2
  rw [canonicalWords, upper_of_isCapital capital]
  exact congrArg _ (@intercalate_wordsFrom [] _ (spaced.behind head none) fun _ _ => head)

theorem optionAction?_eq_some {event : Event} {option : String} {action : ReferentialAction} :
    optionAction? event.name option = some action ↔
      canonicalWords option.toList = EventAction.text ⟨event, action⟩ := by
  have text : (EventAction.text ⟨event, action⟩).toList =
      ("ON " ++ event.name ++ " ").toList ++ action.name.toList := by
    simp [EventAction.text]
  rw [optionAction?, ← String.toList_inj, text]
  split
  · next begins =>
    obtain ⟨rest, split⟩ := List.isPrefixOf_iff_prefix.mp begins
    have canonical : canonicalWords rest = String.ofList rest := by
      refine @canonicalWords_behind option.toList ("ON " ++ event.name).toList rest ?_
      simp [← split]
    rw [← split, List.drop_left, List.append_cancel_left_eq, ReferentialAction.ofText?,
      String.toList_ofList, canonical]
    constructor
    · intro named
      have name : action.name = String.ofList rest := by simpa using List.find?_some named
      rw [name, String.toList_ofList]
    · rintro rfl
      rw [String.ofList_toList, action.ofName?_name]
  · next other =>
    refine iff_of_false nofun fun same => other ?_
    rw [List.isPrefixOf_iff_prefix, same]
    exact List.prefix_append _ _

theorem optionAction?_eq (event : Event) (option : String) :
    optionAction? event.name option = (EventAction.ofOption? option).bind (EventAction.action? event) := by
  refine Option.ext fun action => ?_
  rw [optionAction?_eq_some, ← EventAction.ofOption?_eq_some, Option.bind_eq_some_iff]
  constructor
  · exact fun found => ⟨_, found, if_pos rfl⟩
  · rintro ⟨⟨own, other⟩, found, given⟩
    obtain ⟨rfl, same⟩ := Option.ite_none_right_eq_some.mp given
    cases same
    exact found

theorem referenceAction?_eq (event : Event) (reference : Reference) :
    referenceAction? event.name reference =
      lastAction event (reference.options.filterMap EventAction.ofOption?) := by
  rw [referenceAction?, ← List.head?_filterMap, List.filterMap_reverse, List.head?_reverse, lastAction,
    List.filterMap_filterMap, funext (optionAction?_eq event)]

theorem referenceAction?_written {reference : Reference}
    (written : List.Forall₂ (fun entry option => entry.WrittenAs option.toList) entries reference.options)
    (event : Event) : referenceAction? event.name reference = lastAction event entries := by
  have same : reference.options.filterMap EventAction.ofOption? = entries := by
    generalize reference.options = options at written
    induction written with
    | nil => rfl
    | cons here _ ih => rw [List.filterMap_cons, ofOption?_written here, ih]
  rw [referenceAction?_eq, same]

/-! Clauses in a row. -/

def Actions.write (actions : Actions) (entry : EventAction) : Actions :=
  match entry.event with
  | .delete => { actions with onDelete := some entry.action }
  | .update => { actions with onUpdate := some entry.action }

theorem Actions.write_eq (actions : Actions) (entry : EventAction) : actions.write entry =
    ⟨(entry.action? .delete).or actions.onDelete, (entry.action? .update).or actions.onUpdate⟩ := by
  obtain ⟨event, action⟩ := entry
  cases event with
  | delete => rfl
  | update => rfl

theorem lastAction_cons (event : Event) (entry : EventAction) (entries : List EventAction) :
    lastAction event (entry :: entries) = (lastAction event entries).or (entry.action? event) := by
  rw [lastAction, lastAction]
  cases here : entry.action? event with
  | none => rw [List.filterMap_cons_none here, Option.or_none]
  | some action =>
    have latest := getLast?_cons_or action (entries.filterMap (EventAction.action? event)) none
    rwa [Option.or_none, ← List.filterMap_cons_some here] at latest

/-- Of what is written for an event the last counts. -/
theorem foldl_write (entries : List EventAction) (actions : Actions) : entries.foldl Actions.write actions =
    ⟨(lastAction .delete entries).or actions.onDelete, (lastAction .update entries).or actions.onUpdate⟩ := by
  induction entries generalizing actions with
  | nil => rfl
  | cons entry entries ih =>
    rw [List.foldl_cons, ih, Actions.write_eq, lastAction_cons, lastAction_cons, Option.or_assoc,
      Option.or_assoc]

end

/-! What the pattern finds. -/

section

variable {entry : EventAction} {entries : List EventAction} {clause rest text : List Char}
  {before : Option Char}

theorem reaches_onEvent (spelled : Spelled entry.words clause) {place : Cursor}
    (here : place.rest = clause ++ rest) : ∃ later, Reaches Clause.onEvent place later := by
  obtain ⟨event, action⟩ := entry
  have some_ := splitAtChar_ne_nil ' ' action.name.toList
  have phrased : ∀ {place : Cursor} {written : List Char}, place.rest = written ++ rest →
      Spelled (splitAtChar ' ' action.name.toList) written →
        Reaches Clause.action place (place.past written) :=
    fun here spelled => reaches_oneOf (List.mem_map.mpr ⟨action, by cases action <;> decide, rfl⟩)
      (reaches_of_spelled spelled here)
  rw [EventAction.words] at spelled
  -- the words of the action are some words from here on, one or two
  generalize splitAtChar ' ' action.name.toList = spelling at spelled some_ phrased
  cases spelled with
  | @more _ on gap _ _ same spaced blank later =>
    cases later with
    | last => exact absurd rfl some_
    | @more _ happened between written _ same' spaced' blank' spelled =>
      simp only [List.append_assoc] at here
      have named := rest_past here
      have opened := rest_past named
      have behind := rest_past opened
      have happening : Reaches (.either (letters "DELETE") (letters "UPDATE")) ((place.past on).past gap)
          (((place.past on).past gap).past happened) := by
        cases event with
        | delete => exact .inl (reaches_letters opened same')
        | update => exact .inr (reaches_letters opened same')
      exact ⟨_, _, reaches_letters here same, _, reaches_run named blank (List.length_pos_iff.mpr spaced), _,
        ⟨_, happening, rfl⟩, _, reaches_run behind blank' (List.length_pos_iff.mpr spaced'), _,
        phrased (rest_past behind) spelled, rfl⟩

theorem written_of_reaches {place later : Cursor} (reach : Reaches Clause.onEvent place later) :
    ∃ (entry : EventAction) (taken event action : List Char), Spans place later taken ∧
      Spelled entry.words taken ∧ event ⊆ taken ∧ action ⊆ taken ∧
      List.Forall₂ (fun letter c => sameLetter letter c = true) entry.event.name.toList event ∧
      Spelled (splitAtChar ' ' entry.action.name.toList) action ∧
      later.captured = ("action", action) :: ("event", event) :: place.captured := by
  obtain ⟨on, gap, event, between, action, lead, spans, kept, _, _, reach, spansAction⟩ :=
    parts_of_onEvent reach
  obtain ⟨pattern, member, reach⟩ := mem_of_reaches_oneOf reach
  obtain ⟨known, -, rfl⟩ := List.mem_map.mp member
  have spelled := spelled_of_reaches (splitAtChar_ne_nil ' ' _) reach spansAction
  obtain ⟨named, same⟩ : ∃ named : Event,
      List.Forall₂ (fun letter c => sameLetter letter c = true) named.name.toList event := by
    rcases lead.event with same | same
    · exact ⟨.delete, same⟩
    · exact ⟨.update, same⟩
  refine ⟨⟨named, known⟩, _, event, action, spans, ?_, ?_, ?_, same, spelled, kept⟩
  · exact .more lead.on lead.gap_ne_nil lead.gap_blank
      (.more same lead.between_ne_nil lead.between_blank spelled)
  · intro c member
    simp [member]
  · intro c member
    simp [member]

/-- At a clause the pattern takes the clause, whatever follows, and what it keeps is the entry. -/
theorem matchAt_written (written : entry.WrittenAs clause) (undotted : dottedI ∉ clause ++ rest) :
    ∃ found, Clause.onEvent.matchAt before (clause ++ rest) = some found ∧ found.length = clause.length ∧
      ∀ actions, Actions.read actions found = .ok (actions.write entry) := by
  have some_ : (Clause.onEvent.matchAt before (clause ++ rest)).isSome = true :=
    (matchAt_isSome_iff (by decide +kernel)).mpr (reaches_onEvent written.spelled rfl)
  obtain ⟨found, matched⟩ := Option.isSome_iff_exists.mp some_
  obtain ⟨later, reach, count, captured⟩ := matchAt_sound matched
  obtain ⟨other, taken, event, action, spans, spelled, inEvent, inAction, same, named, kept⟩ :=
    written_of_reaches reach
  -- whatever is found is a clause of some entry, and the text begins with no other one than this
  obtain ⟨words, rfl⟩ := written.spelled.unique spelled entry.steady other.steady undotted spans.1
    ((entry.apart other).imp_left (congrArg _))
  obtain rfl : entry = other :=
    (entry.apart other).resolve_right (by rw [words, clash_self]; exact Bool.false_ne_true)
  have event_ : found.get? "event" = some event := by
    rw [Match.get?, captured, kept]
    rfl
  have action_ : found.get? "action" = some action := by
    rw [Match.get?, captured, kept]
    rfl
  refine ⟨found, matched, count.trans spans.consumed_eq, fun actions => ?_⟩
  have canonical := entry.action.canonicalWords_spelled named fun member => written.undotted (inAction member)
  have upperEvent : upper event = entry.event.name.toList :=
    upper_of_sameLetters (entry.steady _ (by simp [EventAction.words])).2 same
      fun member => written.undotted (inEvent member)
  rw [Actions.read, event_, action_, Option.getD_some, Option.getD_some, canonical, entry.action.ofName?_name,
    upperEvent, Actions.write]
  cases entry.event with
  | delete => rfl
  | update => rfl

theorem matchAt_blank {c : Char} (blank : isBlank c = true) (others : List Char) :
    Clause.onEvent.matchAt before (c :: others) = none := by
  refine matchAt_eq_none fun later reach => ?_
  obtain ⟨on, gap, event, between, action, lead, spans, -⟩ := parts_of_onEvent reach
  cases lead.on with
  | cons first _ =>
    obtain ⟨rfl, -⟩ := List.cons.inj spans.1
    rw [isBlank_of_sameLetter (by decide) first] at blank
    cases blank

theorem WrittenInRow.undotted (written : WrittenInRow entries text) : dottedI ∉ text := by
  have solid : ∀ {gap : List Char}, (∀ c ∈ gap, isBlank c = true) → dottedI ∉ gap := by
    intro gap blank member
    exact absurd (blank _ member) (by decide)
  induction written with
  | nil blank => exact solid blank
  | cons blank here _ ih =>
    simp only [List.mem_append, not_or]
    exact ⟨solid blank, here.undotted, ih⟩

theorem foldlM_written (written : WrittenInRow entries text) (actions : Actions) :
    (Clause.onEvent.matchesFrom 0 before text).foldlM Actions.read actions =
      .ok (entries.foldl Actions.write actions) := by
  induction written generalizing before actions with
  | @nil gap blank =>
    have passed := @matchesFrom_passed Clause.onEvent gap [] (fun c member before others =>
      matchAt_blank (blank c member) others) before
    rw [List.append_nil] at passed
    rw [passed]
    rfl
  | @cons entry entries gap clause rest blank here later ih =>
    have undotted : dottedI ∉ clause ++ rest := by
      simp only [List.mem_append, not_or]
      exact ⟨here.undotted, later.undotted⟩
    obtain ⟨found, matched, long, read⟩ := @matchAt_written _ _ _ (gap.getLast?.or before) here undotted
    have some_ : clause ≠ [] := by
      obtain ⟨c, others, split, -⟩ := here.spelled.exists_cons entry.steady
      rw [split]
      exact List.cons_ne_nil _ _
    rw [matchesFrom_passed fun c member before others => matchAt_blank (blank c member) others,
      matchesFrom_found some_ matched long, List.foldlM_cons, read, List.foldl_cons]
    exact ih _

/-- The two readers agree. Of a row of clauses, and of options with the same entries, both give the last
action for each event, if there is one, and every action has its canonical spelling as its name. -/
theorem referential_readers_agree {reference : Reference} (written : WrittenInRow entries text)
    (options : List.Forall₂ (fun entry option => entry.WrittenAs option.toList) entries reference.options) :
    referentialActions text = .ok ⟨lastAction .delete entries, lastAction .update entries⟩ ∧
      referenceAction? "DELETE" reference = lastAction .delete entries ∧
      referenceAction? "UPDATE" reference = lastAction .update entries ∧
      ∀ action : ReferentialAction, canonicalWords action.name.toList = action.name := by
  refine ⟨?_, referenceAction?_written options .delete, referenceAction?_written options .update,
    fun action => ?_⟩
  · rw [referentialActions, allMatches, foldlM_written written, foldl_write, Option.or_none, Option.or_none]
  · cases action <;> decide +kernel

theorem referential_readers_agree_repeated :
    let first := "On delete\tCASCADE".toList
    let second := "ON  DELETE set\nnull".toList
    let reference : Reference := ⟨"t", [], [String.ofList first, String.ofList second]⟩
    referentialActions (' ' :: (first ++ ' ' :: second)) = .ok ⟨some .setNull, none⟩ ∧
      referenceAction? "DELETE" reference = some .setNull ∧ referenceAction? "UPDATE" reference = none := by
  intro first second reference
  have blank : ∀ {gap : List Char}, gap.all isBlank = true → ∀ c ∈ gap, isBlank c = true := List.all_eq_true.mp
  have cascade : EventAction.WrittenAs ⟨.delete, .cascade⟩ first :=
    ⟨@Spelled.more _ ['O', 'n'] [' '] _ _ (by decide) (by decide) (blank (by decide))
      (@Spelled.more _ "delete".toList ['\t'] _ _ (by decide) (by decide) (blank (by decide))
        (.last (by decide +kernel))), by decide⟩
  have setNull : EventAction.WrittenAs ⟨.delete, .setNull⟩ second :=
    ⟨@Spelled.more _ ['O', 'N'] [' ', ' '] _ _ (by decide) (by decide) (blank (by decide))
      (@Spelled.more _ "DELETE".toList [' '] _ _ (by decide) (by decide) (blank (by decide))
        (@Spelled.more _ "set".toList ['\n'] _ _ (by decide +kernel) (by decide) (blank (by decide))
          (.last (by decide +kernel)))), by decide⟩
  have written : WrittenInRow [⟨.delete, .cascade⟩, ⟨.delete, .setNull⟩]
      (' ' :: (first ++ ' ' :: second)) := by
    have last : WrittenInRow [] [] := .nil (by simp)
    have space : ∀ c ∈ [' '], isBlank c = true := blank (by decide)
    have row := WrittenInRow.cons space cascade (.cons space setNull last)
    rwa [List.append_nil] at row
  have options : List.Forall₂ (fun (entry : EventAction) option => entry.WrittenAs (String.toList option))
      [⟨.delete, .cascade⟩, ⟨.delete, .setNull⟩] reference.options :=
    .cons (String.toList_ofList.symm ▸ cascade) (.cons (String.toList_ofList.symm ▸ setNull) .nil)
  obtain ⟨text, onDelete, onUpdate, -⟩ := referential_readers_agree written options
  exact ⟨text, onDelete, onUpdate⟩

end

end DdlSchema.Schema
