import Cmput313.Router.RequestLife
import Cmput313.Router.Threads
import Cmput313.Router.TimeOut

/-!
# Broadcasts of two threads

As long as no call of `handle_arpreq` begins between the test and the update of another one
on the same request, sending the frame and making the update later is one broadcast, and
every request is rate limited.  Calls that overlap both find the request due.
-/

set_option autoImplicit false

namespace Cmput313.Router

open Cmput313.Keyed Cmput313.Machine Cmput313.Program

/-! ## Calls that overlap -/

/-- One thread tests the request that the other one has tested and not yet updated. -/
def collides : Option Handling → Option Handling → Bool
  | some (.tests id), some (.sends request _) => request = id
  | some (.tests id), some (.updates request _) => request = id
  | _, _ => false

/-- No call of `handle_arpreq` begins on a request between the test and the update of
another one. -/
def Undisturbed (threads : Threads) : Turn → Prop
  | .handles _ _ => collides threads.packets threads.timer.handling = false
  | .timer _ _ => collides threads.timer.handling threads.packets = false
  | _ => True

instance (threads : Threads) (turn : Turn) : Decidable (Undisturbed threads turn) :=
  match turn with
  | .clock _ => isTrue trivial
  | .receives _ _ _ => isTrue trivial
  | .handles _ _ => inferInstanceAs (Decidable (_ = false))
  | .timer _ _ => inferInstanceAs (Decidable (_ = false))

/-! ## The queue behind the updates that are to come -/

/-- The instance as it is when the thread has made its update. -/
def settle (sr : SrInstance) : Option Handling → SrInstance
  | some (.updates id now) => sr.markSent id now
  | _ => sr

def settled (sr : SrInstance) (own other : Option Handling) : SrInstance :=
  settle (settle sr own) other

section Settled

variable {sr : SrInstance}

theorem everyRequest_markSent (sr : SrInstance) (id : Nat) (now : Int) :
    (sr.markSent id now).everyRequest = update SrArpreq.id id
      (fun req => { req with sent := now, timesSent := req.timesSent + 1 }) sr.everyRequest :=
  everyRequest_updateRequest sr id _

theorem markSent_comm {id other : Nat} (different : id ≠ other) (now later : Int) :
    (sr.markSent id now).markSent other later = (sr.markSent other later).markSent id now := by
  have differs : other ≠ id := different.symm
  simp only [SrInstance.markSent, SrInstance.updateRequest, List.map_map, SrInstance.mk.injEq,
    true_and, and_true]
  constructor
  · apply List.map_congr_left
    intro req _
    simp only [Function.comp_apply]
    by_cases own : req.id = id
    · simp [own, different]
    · by_cases others : req.id = other <;> simp [own, others, differs]
  · apply List.map_congr_left
    intro left _
    simp only [Function.comp_apply]
    by_cases own : left.1.id = id
    · simp [own, different]
    · by_cases others : left.1.id = other <;> simp [own, others, differs]

theorem request?_markSent (sr : SrInstance) (id other : Nat) (now : Int) :
    (sr.markSent id now).request? other = (sr.request? other).map fun req =>
      if req.id = id then { req with sent := now, timesSent := req.timesSent + 1 } else req := by
  have every := everyRequest_markSent sr id now
  rw [SrInstance.everyRequest] at every
  rw [SrInstance.request?, every, update, List.find?_map]
  refine congrArg _ (congrArg (fun test => List.find? test sr.everyRequest) ?_)
  funext req
  simp only [Function.comp_apply]
  split <;> rfl

theorem request?_markSent_other {id other : Nat} (different : id ≠ other) (now : Int) :
    (sr.markSent id now).request? other = sr.request? other := by
  rw [request?_markSent]
  cases live : sr.request? other with
  | none => rfl
  | some req => rw [Option.map_some, if_neg ((request?_id live).symm ▸ different.symm)]

/-- A request has the packets that it has when the updates are made. -/
theorem exists_request?_settle {id : Nat} {req : SrArpreq} (live : sr.request? id = some req)
    (handling : Option Handling) :
    ∃ later, (settle sr handling).request? id = some later ∧ later.packets = req.packets := by
  unfold settle
  split
  · rename_i request now
    rw [request?_markSent, live, Option.map_some]
    refine ⟨_, rfl, ?_⟩
    split <;> rfl
  · exact ⟨req, live, rfl⟩

end Settled

/-- The thread is between its test and its update of the request. -/
def Handling.Holds : Handling → Nat → Prop
  | .tests _, _ => False
  | .sends request _, id => request = id
  | .updates request _, id => request = id

/-- What the thread has read still holds when it comes to send. -/
def Handling.Due (sr : SrInstance) : Handling → Prop
  | .sends id now =>
      ∃ req, sr.request? id = some req ∧ now - req.sent > 1 ∧ req.timesSent < 5
  | _ => True

theorem Handling.Due.congr {before after : SrInstance} {handling : Handling}
    (due : handling.Due before)
    (same : ∀ id, handling.Holds id → after.request? id = before.request? id) :
    handling.Due after := by
  cases handling with
  | tests id => trivial
  | sends id now =>
      obtain ⟨req, live, late, left⟩ := due
      exact ⟨req, (same id rfl).trans live, late, left⟩
  | updates id now => trivial

/-- Two threads that hold no request together, and the instance they work on. -/
structure Kept (ifList : List SrIf) (sr : SrInstance) (own other : Option Handling) : Prop where
  sound : Sound ifList (settled sr own other)
  ownDue : ∀ handling, own = some handling → handling.Due (settled sr own other)
  otherDue : ∀ handling, other = some handling → handling.Due (settled sr own other)
  alone : ∀ id first second, own = some first → other = some second →
    first.Holds id → ¬ second.Holds id

section Kept

variable {ifList : List SrIf} {sr next : SrInstance} {own other : Option Handling}

theorem settled_comm (alone : ∀ id first second, own = some first → other = some second →
      first.Holds id → ¬ second.Holds id) (sr : SrInstance) :
    settled sr own other = settled sr other own := by
  unfold settled
  rcases own with _ | own
  · rfl
  · rcases other with _ | other
    · rfl
    · cases own with
      | tests id => rfl
      | sends id now => rfl
      | updates id now =>
          cases other with
          | tests id => rfl
          | sends id now => rfl
          | updates request later =>
              apply markSent_comm
              intro same
              exact alone id _ _ rfl rfl rfl same.symm

theorem Kept.symm (kept : Kept ifList sr own other) : Kept ifList sr other own := by
  have same := settled_comm kept.alone sr
  exact {
    sound := same ▸ kept.sound
    ownDue := same ▸ kept.otherDue
    otherDue := same ▸ kept.ownDue
    alone := fun id first second one two holds also => kept.alone id second first two one also holds }

/-- A change that no update is affected by and that no request shows. -/
theorem Kept.change (kept : Kept ifList sr own other) (change : SrInstance → SrInstance)
    (settles : settled (change sr) own other = change (settled sr own other))
    (sound : Sound ifList (change (settled sr own other)))
    (requests : ∀ id, (change (settled sr own other)).request? id =
      (settled sr own other).request? id) : Kept ifList (change sr) own other := by
  have due : ∀ handling : Handling, handling.Due (settled sr own other) →
      handling.Due (settled (change sr) own other) :=
    fun _ holds => settles ▸ holds.congr fun id _ => requests id
  exact {
    sound := settles ▸ sound
    ownDue := fun handling same => due handling (kept.ownDue handling same)
    otherDue := fun handling same => due handling (kept.otherDue handling same)
    alone := kept.alone }

theorem settle_atTime (sr : SrInstance) (now : Int) (handling : Option Handling) :
    settle (sr.atTime now) handling = (settle sr handling).atTime now := by
  unfold settle
  split <;> rfl

theorem settle_record (sr : SrInstance) (event : Event) (handling : Option Handling) :
    settle (sr.record event) handling = (settle sr handling).record event := by
  unfold settle
  split <;> rfl

theorem settle_entries (sr : SrInstance) (entries : ArpTable) (handling : Option Handling) :
    settle { sr with entries := entries } handling =
      { settle sr handling with entries := entries } := by
  unfold settle
  split <;> rfl

theorem Kept.atTime (kept : Kept ifList sr own other) (now : Int) :
    Kept ifList (sr.atTime now) own other := by
  apply kept.change fun sr => sr.atTime now
  · rw [settled, settle_atTime, settle_atTime]
    rfl
  · exact kept.sound.atTime now
  · exact fun _ => rfl

theorem Kept.record (kept : Kept ifList sr own other) {event : Event} (isNote : event.IsNote) :
    Kept ifList (sr.record event) own other := by
  apply kept.change fun sr => sr.record event
  · rw [settled, settle_record, settle_record]
    rfl
  · exact GuardedMove.preserves_sound kept.sound (.note event isNote)
  · exact fun _ => rfl

theorem Kept.entries (kept : Kept ifList sr own other) (entries : ArpTable) :
    Kept ifList { sr with entries := entries } own other := by
  apply kept.change fun sr => { sr with entries := entries }
  · rw [settled, settle_entries sr, settle_entries (settle sr own)]
    rfl
  · exact kept.sound.idle (List.append_nil _).symm rfl rfl rfl rfl fun _ member =>
      absurd member List.not_mem_nil
  · exact fun _ => rfl

/-! ## The parts keep it -/

/-- The test leaves the instance alone: a request that was sent often enough has packets,
and giving it up kills the process. -/
theorem ends_advance_tests (memory : Memory) (depth id : Nat)
    (waiting : ∀ req, sr.request? id = some req → req.packets ≠ []) :
    Ends ((Handling.tests id).advance memory depth) sr
      (fun following next => next = sr ∧ (following = none ∨
        following = some (.sends id sr.clock) ∧ (Handling.sends id sr.clock).Due sr))
      fun _ _ => True := by
  simp only [Handling.advance, ends_bind, ends_get]
  cases live : sr.request? id with
  | none => trivial
  | some request =>
      simp only [ends_ite, ends_bind, ends_pure]
      split
      · split
        · cases packets : request.packets with
          | nil => exact absurd packets (waiting request live)
          | cons packet rest =>
              exact (ends_timeOutArpreq_cons memory (handleArpreq memory depth) packets).mono
                (fun _ _ never => never.elim) fun _ _ _ => trivial
        · rename_i due few
          exact ⟨trivial, Or.inr ⟨trivial, request, live, due, Nat.not_le.mp few⟩⟩
      · exact ⟨trivial, Or.inl trivial⟩

theorem ends_advance_sends (memory : Memory) (depth id : Nat) (now : Int) :
    Ends ((Handling.sends id now).advance memory depth) sr
      (fun following next => following = none ∧ next = sr ∨
        ∃ req interface, sr.request? id = some req ∧
          srGetInterface sr.ifList interface.name = some interface ∧
          following = some (.updates id now) ∧
          next = (sr.record (.broadcast id now)).sendPacket
            (arpRequestFrame interface req.ip) interface.name)
      fun _ _ => True := by
  simp only [Handling.advance, ends_bind, ends_get]
  cases live : sr.request? id with
  | none => trivial
  | some request =>
      dsimp only
      cases request.packets with
      | nil => trivial
      | cons packet rest =>
          dsimp only
          cases found : srGetInterface sr.ifList packet.iface with
          | none => exact Or.inl ⟨rfl, rfl⟩
          | some interface =>
              simp only [ends_bind, ends_log, ends_pure]
              apply ends_srSendPacket
              intro _
              exact Or.inr ⟨request, interface, rfl, srGetInterface_own_name found, trivial, rfl⟩

theorem settle_unheld {id : Nat} (free : ∀ handling, other = some handling → ¬ handling.Holds id)
    (sr : SrInstance) : (settle sr other).request? id = sr.request? id := by
  unfold settle
  split
  · rename_i request now
    exact request?_markSent_other (free _ rfl) now
  · rfl

/-- Sending and then updating is a broadcast, whatever the other thread has to update. -/
theorem settled_rebroadcast {id : Nat} {req : SrArpreq} (now : Int) (interface : SrIf)
    (free : ∀ handling, other = some handling → ¬ handling.Holds id)
    (live : sr.request? id = some req) :
    settled ((sr.record (.broadcast id now)).sendPacket (arpRequestFrame interface req.ip)
        interface.name) (some (.updates id now)) other =
      (settle sr other).rebroadcastAt now req interface := by
  obtain rfl := request?_id live
  rcases other with _ | other
  · rfl
  · cases other with
    | tests request => rfl
    | sends request later => rfl
    | updates request later =>
        have different : req.id ≠ request := fun same => free _ rfl same.symm
        exact markSent_comm different now later

theorem kept_of_none (sound : Sound ifList (settle sr other))
    (due : ∀ handling, other = some handling → handling.Due (settle sr other)) :
    Kept ifList sr none other where
  sound := sound
  ownDue := fun _ same => by cases same
  otherDue := due
  alone := fun _ _ _ same => by cases same

theorem not_holds_of_free {id : Nat} (free : collides (some (.tests id)) other = false) :
    ∀ handling, other = some handling → ¬ handling.Holds id := by
  rintro handling rfl
  cases handling with
  | tests request => exact False.elim
  | sends request now => exact fun same => of_decide_eq_false free same
  | updates request now => exact fun same => of_decide_eq_false free same

theorem Kept.tests {memory : Memory} {depth id : Nat} {following : Option Handling}
    (kept : Kept ifList sr (some (.tests id)) other)
    (free : collides (some (.tests id)) other = false)
    (advanced : (Handling.tests id).advance memory depth sr = .ok following next) :
    Kept ifList next following other := by
  have waiting : ∀ req, sr.request? id = some req → req.packets ≠ [] := by
    intro req live
    obtain ⟨later, settles, packets⟩ := exists_request?_settle live other
    have existed := (kept.sound.queue.addressed.request?_eq_some_iff.mp settles).1
    exact packets ▸ (kept.sound.queue.requests later existed).waiting
  obtain ⟨rfl, none | ⟨sends, due⟩⟩ :=
    (ends_advance_tests memory depth id waiting).of_ok advanced
  · rw [none]
    exact kept_of_none kept.sound kept.otherDue
  · have unheld := not_holds_of_free free
    rw [sends]
    refine ⟨kept.sound, ?_, kept.otherDue, ?_⟩
    · rintro handling ⟨⟩
      exact due.congr fun request holds => holds ▸ settle_unheld unheld _
    · rintro request first second ⟨⟩ also holds
      exact holds ▸ unheld second also

/-- Behind the frame the thread has only its update to make, with which it is a broadcast. -/
theorem Kept.sends {memory : Memory} {depth id : Nat} {now : Int} {following : Option Handling}
    (kept : Kept ifList sr (some (.sends id now)) other)
    (advanced : (Handling.sends id now).advance memory depth sr = .ok following next) :
    Kept ifList next following other := by
  have unheld : ∀ handling, other = some handling → ¬ handling.Holds id :=
    fun handling same => kept.alone id _ handling rfl same rfl
  rcases (ends_advance_sends memory depth id now).of_ok advanced with
    ⟨rfl, rfl⟩ | ⟨req, interface, live, found, rfl, rfl⟩
  · exact kept_of_none kept.sound kept.otherDue
  obtain ⟨still, settles, due, left⟩ := kept.ownDue _ rfl
  have same : (settle sr other).request? id = some req := (settle_unheld unheld sr).trans live
  obtain rfl : still = req := Option.some.inj (settles.symm.trans same)
  have own : still.id = id := request?_id live
  have lists : (settle sr other).ifList = sr.ifList := by
    unfold settle
    split <;> rfl
  have rebroadcast := settled_rebroadcast now interface unheld live
  refine ⟨?_, ?_, ?_, ?_⟩
  · rw [rebroadcast]
    exact kept.sound.rebroadcastAt (own.symm ▸ same) left due (lists.symm ▸ found)
  · rintro handling ⟨⟩
    trivial
  · intro handling also
    rw [rebroadcast]
    refine (kept.otherDue handling also).congr fun request holds => ?_
    have different : still.id ≠ request := fun clash =>
      unheld handling also (own ▸ clash ▸ holds)
    exact request?_markSent_other different now
  · rintro request first second ⟨⟩ also holds
    exact holds ▸ unheld second also

theorem Kept.advance {memory : Memory} {depth : Nat} {handling : Handling}
    {following : Option Handling} (kept : Kept ifList sr (some handling) other)
    (free : collides (some handling) other = false)
    (advanced : handling.advance memory depth sr = .ok following next) :
    Kept ifList next following other := by
  cases handling with
  | tests id => exact kept.tests free advanced
  | sends id now => exact kept.sends advanced
  | updates id now =>
      cases advanced
      exact kept_of_none kept.sound kept.otherDue

end Kept

/-! ## Runs -/

/-- Between two steps neither thread holds a request that the other one holds; outside the
lock the packets' thread may be anywhere in its call. -/
def Threads.Kept (ifList : List SrIf) (threads : Threads) : Prop :=
  Router.Kept ifList threads.sr threads.packets threads.timer.handling

section Runs

variable {ifList : List SrIf} {threads next : Threads}

theorem Threads.Kept.receives {memory : Memory} {buf : Bytes} {iface : Name}
    (kept : threads.Kept ifList) (taken : threads.receives memory buf iface = some next) :
    next.Kept ifList := by
  unfold Threads.receives at taken
  split at taken
  · rename_i free
    have sound : Sound ifList threads.sr := by
      have sound := kept.sound
      rw [free.1, free.2] at sound
      exact sound
    have keeps : KeepsGuarded ordered True threads.sr
        (srHandlepacket memory 0 ⟨.frame, buf⟩ iface) fun _ => True :=
      keeps_guarded_srHandlepacket memory (fun _ => sound.ready) 0 _ _ fun _ _ _ => trivial
    have unheld : threads.timer.handling = none := by
      rw [free.2]
      rfl
    split at taken
    · rename_i sr completes
      cases taken
      have moves := (keeps.of_ok (.refl _ _) completes).1
      show Router.Kept ifList sr threads.packets threads.timer.handling
      rw [free.1, unheld]
      exact kept_of_none (moves.preserves_sound sound) fun _ same => by cases same
    · rename_i request sr stops
      cases taken
      have moves := (keeps.of_error (.refl _ _) stops).1
      show Router.Kept ifList sr (some (.tests request)) threads.timer.handling
      rw [unheld]
      have none : Router.Kept ifList sr none (some (.tests request)) := by
        apply kept_of_none (moves.preserves_sound sound)
        rintro handling same
        cases same
        trivial
      exact none.symm
    · cases taken
  · cases taken

theorem Threads.Kept.handles {memory : Memory} {depth : Nat} (kept : threads.Kept ifList)
    (free : collides threads.packets threads.timer.handling = false)
    (taken : threads.handles memory depth = some next) : next.Kept ifList := by
  unfold Threads.handles at taken
  split at taken
  · cases taken
  · rename_i handling same
    rw [Threads.Kept, same] at kept
    rw [same] at free
    split at taken
    · rename_i packets sr advanced
      cases taken
      exact kept.advance free advanced
    · cases taken

theorem Threads.Kept.ticks {memory : Memory} {depth : Nat} (kept : threads.Kept ifList)
    (free : collides threads.timer.handling threads.packets = false)
    (taken : threads.ticks memory depth = some next) : next.Kept ifList := by
  unfold Threads.ticks at taken
  rw [Threads.Kept] at kept
  cases place : threads.timer with
  | sleeps =>
      rw [place] at taken kept
      cases taken
      exact kept.entries _
  | sweeps cacheRequest =>
      rw [place] at taken kept
      cases cacheRequest with
      | none =>
          cases taken
          exact kept
      | some cacheRequest =>
          cases taken
          have note : (Event.swept cacheRequest
            (threads.sr.requests.any fun req => req.id = cacheRequest)).IsNote := trivial
          have swept := kept.symm.record note
          apply Kept.symm
          exact {
            sound := swept.sound
            ownDue := fun _ same => by cases same; trivial
            otherDue := swept.otherDue
            alone := fun _ _ _ same _ holds => by cases same; exact holds.elim }
  | handles handling saved =>
      rw [place] at taken kept free
      dsimp only at taken
      split at taken
      · rename_i following sr advanced
        cases taken
        have advances := (kept.symm.advance free advanced).symm
        show Router.Kept ifList sr threads.packets (Timer.goesOn saved following).handling
        cases following with
        | none => exact advances
        | some handling => exact advances
      · cases taken

theorem Threads.Kept.step {turn : Turn} (kept : threads.Kept ifList)
    (undisturbed : Undisturbed threads turn) (taken : threads.step turn = some next) :
    next.Kept ifList := by
  cases turn with
  | clock now =>
      rw [Threads.step] at taken
      split at taken
      · cases taken
        exact Router.Kept.atTime kept now
      · cases taken
  | receives memory buf iface => exact kept.receives taken
  | handles memory depth => exact kept.handles undisturbed taken
  | timer memory depth => exact kept.ticks undisturbed taken

theorem settled_trace (sr : SrInstance) (own other : Option Handling) :
    (settled sr own other).trace = sr.trace := by
  have same : ∀ (sr : SrInstance) (handling : Option Handling),
      (settle sr handling).trace = sr.trace := by
    intro sr handling
    unfold settle
    split <;> rfl
  exact (same _ other).trans (same sr own)

/-- In every run in which no call of `handle_arpreq` begins between the test and the update
of another one on the same request, every request is rate limited. -/
theorem rateLimited_of_undisturbed {routingTable : List SrRt} {clock : Int} {turns : List Turn}
    (meets : Meets Threads.step Undisturbed (Threads.start ifList routingTable clock) turns)
    (reached : run Threads.step (Threads.start ifList routingTable clock) turns = some threads)
    {id : Nat} {ip : UInt32} (created : CreatedFor threads.sr.trace id ip) :
    RateLimited ifList threads.sr.trace id ip := by
  have initially : (Threads.start ifList routingTable clock).Kept ifList :=
    kept_of_none (sound_srArpcacheInit ifList routingTable clock) fun _ same => by cases same
  have preserved : ∀ (threads : Threads) (turn : Turn) (next : Threads), threads.Kept ifList →
      Undisturbed threads turn → threads.step turn = some next → next.Kept ifList :=
    fun _ _ _ kept undisturbed taken => kept.step undisturbed taken
  have kept := run_preserves preserved initially meets reached
  have trace := settled_trace threads.sr threads.packets threads.timer.handling
  have limited := kept.sound.rateLimited (trace.symm ▸ created)
  exact trace ▸ limited

end Runs

/-! ## A datagram and two rounds -/

def handlesTimes (times : Nat) : List Turn := List.replicate times (.handles noMemory 1)

def timerTimes (times : Nat) : List Turn := List.replicate times (.timer noMemory 1)

/-- The datagram's request is broadcast at once and by a round two seconds later. -/
def apartTurns : List Turn :=
  .receives noMemory datagram eth0.name :: handlesTimes 3 ++ .clock 102 :: timerTimes 6

/-- A round comes between the test and the update of the call for the datagram. -/
def overlappingTurns : List Turn :=
  .receives noMemory datagram eth0.name :: handlesTimes 1 ++ timerTimes 6 ++ handlesTimes 2

def smallThreads (turns : List Turn) : Threads :=
  runEnd Threads.step (Threads.start [eth0] [lanRoute] 100) turns

theorem apartTurns_rateLimited :
    broadcastTimes 0 (lifeOf 0 (smallThreads apartTurns).sr.trace) = [100, 102] ∧
      RateLimited [eth0] (smallThreads apartTurns).sr.trace 0 lanRoute.gw := by
  refine ⟨by decide +kernel, ?_⟩
  have meets : Meets Threads.step Undisturbed (Threads.start [eth0] [lanRoute] 100) apartTurns :=
    by decide +kernel
  exact rateLimited_of_undisturbed meets (run_eq_runEnd (by decide +kernel))
    ⟨1, forwardedDatagram, eth0.name, by decide +kernel⟩

/-- Both threads find the request due and broadcast it in the same second. -/
theorem overlappingTurns_not_rateLimited :
    run Threads.step (Threads.start [eth0] [lanRoute] 100) overlappingTurns =
        some (smallThreads overlappingTurns) ∧
      CreatedFor (smallThreads overlappingTurns).sr.trace 0 lanRoute.gw ∧
      broadcastTimes 0 (lifeOf 0 (smallThreads overlappingTurns).sr.trace) = [100, 100] ∧
      ¬ RateLimited [eth0] (smallThreads overlappingTurns).sr.trace 0 lanRoute.gw := by
  have twice : broadcastTimes 0 (lifeOf 0 (smallThreads overlappingTurns).sr.trace) =
      [100, 100] := by decide +kernel
  refine ⟨run_eq_runEnd (by decide +kernel),
    ⟨1, forwardedDatagram, eth0.name, by decide +kernel⟩, twice, fun limited => ?_⟩
  have apart := limited.apart
  rw [twice] at apart
  exact absurd apart (by decide)

end Cmput313.Router
