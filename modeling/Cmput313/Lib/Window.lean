import Mathlib.Data.List.TakeWhile

/-!
# The part of a log between two marks

`window` is what a log holds from its first opening mark up to the next closing
mark.  A log that grows at its end is unopened, then open, then closed, and what it
grows by is part of the window only while it is open.
-/

set_option autoImplicit false

namespace Cmput313.Window

variable {α : Type} (opens closes : α → Bool) {events new : List α}

def window (events : List α) : List α :=
  (events.dropWhile fun event => !opens event).takeWhile fun event => !closes event

def Opened (events : List α) : Prop := ∃ event ∈ events, opens event = true

/-- A closing mark stands behind the first opening one. -/
def Closed (events : List α) : Prop :=
  ∃ event ∈ events.dropWhile (fun event => !opens event), closes event = true

variable {opens closes}

theorem Opened.append (opened : Opened opens events) : Opened opens (events ++ new) := by
  obtain ⟨event, member, opening⟩ := opened
  exact ⟨event, List.mem_append_left _ member, opening⟩

theorem dropWhile_append_of_opened (opened : Opened opens events) (new : List α) :
    (events ++ new).dropWhile (fun event => !opens event) =
      events.dropWhile (fun event => !opens event) ++ new := by
  obtain ⟨event, member, opening⟩ := opened
  have rest : events.dropWhile (fun event => !opens event) ≠ [] := by
    rw [Ne, List.dropWhile_eq_nil_iff]
    intro all
    simpa [opening] using all event member
  rw [List.dropWhile_append, if_neg (by simpa using rest)]

theorem dropWhile_append_of_unopened (unopened : ¬ Opened opens events) (new : List α) :
    (events ++ new).dropWhile (fun event => !opens event) =
      new.dropWhile fun event => !opens event := by
  have none : events.dropWhile (fun event => !opens event) = [] := by
    rw [List.dropWhile_eq_nil_iff]
    intro event member
    rw [Bool.not_eq_true', ← Bool.not_eq_true]
    exact fun opening => unopened ⟨event, member, opening⟩
  rw [List.dropWhile_append, none]
  rfl

theorem Closed.opened (closed : Closed opens closes events) : Opened opens events := by
  by_contra unopened
  obtain ⟨event, member, _⟩ := closed
  have none := dropWhile_append_of_unopened unopened ([] : List α)
  rw [List.append_nil] at none
  rw [none] at member
  exact absurd member List.not_mem_nil

theorem Closed.append (closed : Closed opens closes events) :
    Closed opens closes (events ++ new) := by
  obtain ⟨event, member, closing⟩ := closed
  refine ⟨event, ?_, closing⟩
  rw [dropWhile_append_of_opened (Closed.opened ⟨event, member, closing⟩)]
  exact List.mem_append_left _ member

theorem closed_append_iff (opened : Opened opens events)
    (unclosed : ¬ Closed opens closes events) :
    Closed opens closes (events ++ new) ↔ ∃ event ∈ new, closes event = true := by
  unfold Closed
  rw [dropWhile_append_of_opened opened]
  constructor
  · rintro ⟨event, member, closing⟩
    rcases List.mem_append.mp member with old | grown
    · exact absurd ⟨event, old, closing⟩ unclosed
    · exact ⟨event, grown, closing⟩
  · rintro ⟨event, member, closing⟩
    exact ⟨event, List.mem_append_right _ member, closing⟩

theorem closed_append_of_unopened (unopened : ¬ Opened opens events) :
    Closed opens closes (events ++ new) ↔ Closed opens closes new := by
  rw [Closed, dropWhile_append_of_unopened unopened, Closed]

theorem window_of_unopened (unopened : ¬ Opened opens events) :
    window opens closes events = [] := by
  have none := dropWhile_append_of_unopened unopened ([] : List α)
  rw [List.append_nil] at none
  rw [window, none]
  rfl

theorem window_append_of_open (opened : Opened opens events)
    (unclosed : ¬ Closed opens closes events) (new : List α) :
    window opens closes (events ++ new) =
      window opens closes events ++ new.takeWhile fun event => !closes event := by
  have whole : (events.dropWhile fun event => !opens event).takeWhile
      (fun event => !closes event) = events.dropWhile fun event => !opens event := by
    rw [List.takeWhile_eq_self_iff]
    intro event member
    rw [Bool.not_eq_true', ← Bool.not_eq_true]
    exact fun closing => unclosed ⟨event, member, closing⟩
  rw [window, window, dropWhile_append_of_opened opened, List.takeWhile_append, whole,
    if_pos rfl]

theorem window_append_of_closed (closed : Closed opens closes events) (new : List α) :
    window opens closes (events ++ new) = window opens closes events := by
  obtain ⟨event, member, closing⟩ := closed
  have shorter : ((events.dropWhile fun event => !opens event).takeWhile
      fun event => !closes event).length ≠
        (events.dropWhile fun event => !opens event).length := by
    intro same
    have whole := (List.takeWhile_prefix (fun event => !closes event)
      (l := events.dropWhile fun event => !opens event)).eq_of_length same
    rw [List.takeWhile_eq_self_iff] at whole
    simpa [closing] using whole event member
  rw [window, window, dropWhile_append_of_opened (Closed.opened ⟨event, member, closing⟩),
    List.takeWhile_append, if_neg shorter]

theorem window_append_of_unopened (unopened : ¬ Opened opens events) (new : List α) :
    window opens closes (events ++ new) = window opens closes new := by
  rw [window, window, dropWhile_append_of_unopened unopened]

theorem filterMap_window_append {β : Type} {reads : α → Option β}
    (quiet : ∀ event ∈ new, reads event = none)
    (later : Opened opens events ∨ ¬ Opened opens new) :
    (window opens closes (events ++ new)).filterMap reads =
      (window opens closes events).filterMap reads := by
  by_cases opened : Opened opens events
  · by_cases closed : Closed opens closes events
    · rw [window_append_of_closed closed]
    · have none : (new.takeWhile fun event => !closes event).filterMap reads = [] := by
        rw [List.filterMap_eq_nil_iff]
        intro event member
        exact quiet event ((List.takeWhile_prefix _).subset member)
      rw [window_append_of_open opened closed, List.filterMap_append, none, List.append_nil]
  · rw [window_append_of_unopened opened, window_of_unopened opened,
      window_of_unopened (later.resolve_left opened)]

end Cmput313.Window
