import Mathlib.Data.List.Nodup
import DdlSchema.Proofs.Schema.Parsing

/-! Every message is given once, where it is first said. -/

set_option autoImplicit false

namespace DdlSchema.Schema

/-- Adds a message that has not been given yet. -/
def note (given : List String) (message : String) : List String :=
  if given.contains message then given else given ++ [message]

theorem messages_eq_foldl (warnings : List Warning) :
    messages warnings = (warnings.map Warning.message).foldl note [] :=
  rfl

theorem nodup_foldl_note (texts : List String) {given : List String} (distinct : given.Nodup) :
    (texts.foldl note given).Nodup :=
  List.foldlRecOn texts note distinct fun given distinct text _ => by
    rw [note]
    split
    · exact distinct
    · next fresh =>
      have unused : text ∉ given := by simpa using fresh
      simpa using distinct.concat unused

theorem nodup_messages (warnings : List Warning) : (messages warnings).Nodup :=
  nodup_foldl_note _ List.nodup_nil

/-- Texts that are left out afterwards might as well not have been said. -/
theorem filter_foldl_note (keeps : String → Bool) (texts given : List String) :
    (texts.foldl note given).filter keeps = (texts.filter keeps).foldl note (given.filter keeps) := by
  induction texts generalizing given with
  | nil => rfl
  | cons text rest ih =>
    rw [List.foldl_cons, ih]
    by_cases kept : keeps text
    · rw [List.filter_cons_of_pos kept, List.foldl_cons]
      congr 1
      by_cases known : text ∈ given <;> simp [note, known, kept, List.filter_append]
    · rw [List.filter_cons_of_neg kept]
      congr 1
      by_cases known : text ∈ given <;> simp [note, known, kept, List.filter_append]

theorem filter_ne_of_not_mem {message : String} {texts : List String} (unused : message ∉ texts) :
    texts.filter (· != message) = texts :=
  List.filter_eq_self.mpr fun _ member => bne_iff_ne.mpr fun same => unused (same ▸ member)

theorem prefix_foldl_note (texts given : List String) : given <+: texts.foldl note given := by
  induction texts generalizing given with
  | nil => exact List.prefix_refl given
  | cons text rest ih =>
    have first : given <+: note given text := by
      rw [note]
      split
      · exact List.prefix_refl given
      · exact List.prefix_append given [text]
    exact first.trans (ih (note given text))

/-- The later list gives the message once, and all other messages in the order of the earlier one. Nothing
changes for a message that was given in front already. Any other one now stands right behind what was given in
front, also where the earlier list gave it further on. -/
structure AddsMessage (message : String) (given earlier later : List String) : Prop where
  once : later.count message = 1
  others : later.filter (· != message) = earlier.filter (· != message)
  known : message ∈ given → later = earlier
  placed : message ∉ given → ∃ rest, earlier = given ++ rest ∧
    later = given ++ message :: rest.filter (· != message)

section

variable (before after : List Warning) (warning : Warning)

theorem messages_append : messages (before ++ after) =
    (after.map Warning.message).foldl note (messages before) := by
  rw [messages_eq_foldl, List.map_append, List.foldl_append, messages_eq_foldl]

theorem filter_messages : (messages (before ++ warning :: after)).filter (· != warning.message) =
    (messages (before ++ after)).filter (· != warning.message) := by
  simp only [messages_eq_foldl, filter_foldl_note, List.map_append, List.map_cons, List.filter_append]
  rw [List.filter_cons_of_neg (by simp)]

theorem messages_said (said : warning.message ∈ messages before) :
    messages (before ++ warning :: after) = messages (before ++ after) := by
  rw [messages_append, List.map_cons, List.foldl_cons, note, if_pos (by simpa using said), messages_append]

theorem messages_unsaid (unsaid : warning.message ∉ messages before) :
    ∃ rest, messages (before ++ after) = messages before ++ rest ∧
      messages (before ++ warning :: after) =
        messages before ++ warning.message :: rest.filter (· != warning.message) := by
  have added : note (messages before) warning.message = messages before ++ [warning.message] :=
    if_neg (by simpa using unsaid)
  obtain ⟨rest, earlier⟩ := prefix_foldl_note (after.map Warning.message) (messages before)
  obtain ⟨tail, later⟩ :=
    prefix_foldl_note (after.map Warning.message) (messages before ++ [warning.message])
  rw [← messages_append] at earlier
  rw [← added, ← List.foldl_cons, ← List.map_cons, ← messages_append] at later
  have distinct := nodup_messages (before ++ warning :: after)
  rw [← later, added, List.append_assoc, List.singleton_append] at distinct
  have fresh : warning.message ∉ tail :=
    (List.nodup_cons.mp (List.nodup_append.mp distinct).2.1).1
  -- without the message both say the same, so what follows it is what followed before
  have same : messages before ++ tail = messages before ++ rest.filter (· != warning.message) := by
    have others := filter_messages before after warning
    rwa [← later, ← earlier, added, List.append_assoc, List.singleton_append, List.filter_append,
      List.filter_cons_of_neg (by simp), List.filter_append, filter_ne_of_not_mem unsaid,
      filter_ne_of_not_mem fresh] at others
  refine ⟨rest, earlier.symm, ?_⟩
  rw [← later, added, List.append_assoc, List.singleton_append, List.append_cancel_left same]

theorem addsMessage_messages : AddsMessage warning.message (messages before)
    (messages (before ++ after)) (messages (before ++ warning :: after)) := by
  refine ⟨List.count_eq_one_of_mem (nodup_messages _) ?_, filter_messages before after warning,
    messages_said before after warning, messages_unsaid before after warning⟩
  simp [mem_messages]

end

end DdlSchema.Schema
