import Cmput313.Lib.Machine
import Cmput313.Router.Run

/-!
# Two threads in handle_arpreq

The thread of `sr_arpcache_timeout` holds the lock of the cache for a whole round.  The
thread that handles packets takes it inside the queue functions only and then calls
`handle_arpreq` without it.  So the parts of a round and the parts of such a call, the
test, the frame and the update, come in any order.
-/

set_option autoImplicit false

namespace Cmput313.Router

open Cmput313.Keyed Cmput313.Machine Cmput313.Program

/-! ## The parts of handle_arpreq -/

/-- Where a thread is in `handle_arpreq`, and the clock that it has read. -/
inductive Handling where
  | tests (request : Nat)
  | sends (request : Nat) (now : Int)
  | updates (request : Nat) (now : Int)
  deriving DecidableEq

def SrInstance.markSent (sr : SrInstance) (id : Nat) (now : Int) : SrInstance :=
  sr.updateRequest id fun req => { req with sent := now, timesSent := req.timesSent + 1 }

/-- The part that a thread is in front of, and the part that follows, if one does. -/
def Handling.advance (memory : Memory) (depth : Nat) : Handling → Sr (Option Handling)
  | .tests id => do
      let sr ← get
      match sr.request? id with
      | none => throw .unknownRequest
      | some request =>
          if sr.clock - request.sent > 1 then
            if request.timesSent ≥ 5 then
              timeOutArpreq memory (handleArpreq memory depth) request
              return none
            else
              return some (.sends id sr.clock)
          else
            return none
  | .sends id now => do
      let sr ← get
      match sr.request? id with
      | none => throw .unknownRequest
      | some request =>
          match request.packets with
          | [] => throw .nullPacket
          | packet :: _ =>
              match srGetInterface sr.ifList packet.iface with
              | none => return none
              | some interface =>
                  log (.broadcast id now)
                  let _ ← srSendPacket (arpRequestFrame interface request.ip) interface.name
                  return some (.updates id now)
  | .updates id now => do
      modify fun sr => sr.markSent id now
      return none

/-! ## The threads -/

/-- Where the thread of `sr_arpcache_timeout` is: outside the lock, in front of a turn of
the sweep's loop, or in `handle_arpreq` with the saved `next`. -/
inductive Timer where
  | sleeps
  | sweeps (cacheRequest : Option Nat)
  | handles (handling : Handling) (next : Option Nat)
  deriving DecidableEq

def Timer.handling : Timer → Option Handling
  | .handles handling _ => some handling
  | _ => none

/-- The instance that both threads work on, where the thread of the packets is in
`handle_arpreq`, if it is there, and where the timer thread is. -/
structure Threads where
  sr : SrInstance
  packets : Option Handling
  timer : Timer

def Threads.start (ifList : List SrIf) (routingTable : List SrRt) (clock : Int) : Threads where
  sr := srArpcacheInit ifList routingTable clock
  packets := none
  timer := .sleeps

inductive Turn where
  | clock (now : Int)
  | receives (memory : Memory) (buf : Bytes) (iface : Name)
  | handles (memory : Memory) (depth : Nat)
  | timer (memory : Memory) (depth : Nat)

/-- Without depth `sr_handlepacket` stops in front of its call of `handle_arpreq`, which is
the last thing that it does.  It waits for the lock while a round goes on. -/
def Threads.receives (threads : Threads) (memory : Memory) (buf : Bytes) (iface : Name) :
    Option Threads :=
  if threads.packets = none ∧ threads.timer = .sleeps then
    match srHandlepacket memory 0 ⟨.frame, buf⟩ iface threads.sr with
    | .ok _ sr => some { threads with sr := sr }
    | .error (.outOfFuel request) sr =>
        some { threads with sr := sr, packets := some (.tests request) }
    | .error _ _ => none
  else none

def Threads.handles (threads : Threads) (memory : Memory) (depth : Nat) : Option Threads :=
  match threads.packets with
  | none => none
  | some handling =>
      match handling.advance memory depth threads.sr with
      | .ok packets sr => some { threads with sr := sr, packets := packets }
      | .error _ _ => none

def Timer.goesOn (next : Option Nat) : Option Handling → Timer
  | some handling => .handles handling next
  | none => .sweeps next

def Threads.ticks (threads : Threads) (memory : Memory) (depth : Nat) : Option Threads :=
  let sr := threads.sr
  match threads.timer with
  | .sleeps => some { threads with
      sr := { sr with entries := expireMappings sr.entries sr.clock }
      timer := .sweeps (sr.requests.head?.map SrArpreq.id) }
  | .sweeps none => some { threads with timer := .sleeps }
  | .sweeps (some cacheRequest) => some { threads with
      sr := sr.record (.swept cacheRequest (sr.requests.any fun req => req.id = cacheRequest))
      timer := .handles (.tests cacheRequest) (sr.next cacheRequest) }
  | .handles handling next =>
      match handling.advance memory depth sr with
      | .ok following sr => some { threads with sr := sr, timer := .goesOn next following }
      | .error _ _ => none

/-- A step is none where a thread waits for the other one, or the process dies. -/
def Threads.step (threads : Threads) : Turn → Option Threads
  | .clock now =>
      if threads.sr.clock ≤ now then some { threads with sr := threads.sr.atTime now } else none
  | .receives memory buf iface => threads.receives memory buf iface
  | .handles memory depth => threads.handles memory depth
  | .timer memory depth => threads.ticks memory depth

/-! ## Where no thread comes between -/

theorem request?_id {sr : SrInstance} {id : Nat} {req : SrArpreq}
    (live : sr.request? id = some req) : req.id = id := by
  simpa using List.find?_some live

/-- The parts that follow one another where no other thread comes between. -/
inductive Advances (memory : Memory) (depth : Nat) : Handling → SrInstance → SrInstance → Prop where
  | last {handling : Handling} {sr next : SrInstance}
      (advanced : handling.advance memory depth sr = .ok none next) :
      Advances memory depth handling sr next
  | more {handling following : Handling} {sr middle next : SrInstance}
      (advanced : handling.advance memory depth sr = .ok (some following) middle)
      (rest : Advances memory depth following middle next) :
      Advances memory depth handling sr next

theorem srSendPacket_eq (sr : SrInstance) (buf : Bytes) (iface : Name) :
    ∃ value, srSendPacket buf iface sr = .ok value (sr.sendPacket buf iface) := by
  have ends : Ends (srSendPacket buf iface) sr (fun _ next => next = sr.sendPacket buf iface)
      fun _ _ => False := ends_srSendPacket sr _ buf iface _ fun _ => rfl
  obtain ⟨value, next, sent, rfl⟩ := ends.exists_ok
  exact ⟨value, sent⟩

theorem ends_broadcastArpreq_parts (memory : Memory) (depth : Nat) {sr : SrInstance}
    {request : SrArpreq} (live : sr.request? request.id = some request) :
    Ends (broadcastArpreq request) sr
      (fun _ next => Advances memory depth (.sends request.id sr.clock) sr next)
      fun _ _ => True := by
  have sends : (Handling.sends request.id sr.clock).advance memory depth sr =
      (match request.packets with
        | [] => throw .nullPacket
        | packet :: _ =>
            match srGetInterface sr.ifList packet.iface with
            | none => return none
            | some interface => do
                log (.broadcast request.id sr.clock)
                let _ ← srSendPacket (arpRequestFrame interface request.ip) interface.name
                return some (.updates request.id sr.clock) : Sr (Option Handling)) sr := by
    simp only [Handling.advance, get_bind_apply, live]
  rw [broadcastArpreq]
  cases packets : request.packets with
  | nil => trivial
  | cons packet rest =>
      simp only [packets] at sends
      simp only [ends_bind, ends_get]
      cases found : srGetInterface sr.ifList packet.iface with
      | none =>
          simp only [found] at sends
          exact .last sends
      | some interface =>
          simp only [found] at sends
          obtain ⟨value, sent⟩ := srSendPacket_eq (sr.record (.broadcast request.id sr.clock))
            (arpRequestFrame interface request.ip) interface.name
          simp only [ends_bind, ends_log]
          unfold Ends
          rw [sent]
          have updates : (Handling.updates request.id sr.clock).advance memory depth
              ((sr.record (.broadcast request.id sr.clock)).sendPacket
                (arpRequestFrame interface request.ip) interface.name) =
              .ok none (((sr.record (.broadcast request.id sr.clock)).sendPacket
                (arpRequestFrame interface request.ip) interface.name).markSent request.id
                  sr.clock) := rfl
          refine Advances.more (sends.trans ?_) (.last updates)
          show EStateM.bind _ _ _ = _
          rw [EStateM.bind]
          show EStateM.bind _ _ (sr.record (.broadcast request.id sr.clock)) = _
          rw [EStateM.bind, sent]
          rfl

/-- Together the parts are `handle_arpreq`. -/
theorem advances_of_handleArpreq {memory : Memory} {depth id : Nat} {sr after : SrInstance}
    (completes : handleArpreq memory (depth + 1) id sr = .ok () after) :
    Advances memory depth (.tests id) sr after := by
  have ends : Ends (handleArpreq memory (depth + 1) id) sr
      (fun _ after => Advances memory depth (.tests id) sr after) fun _ _ => True := by
    simp only [handleArpreq, ends_bind, ends_get]
    cases live : sr.request? id with
    | none => trivial
    | some request =>
        obtain rfl := request?_id live
        have tests : (Handling.tests request.id).advance memory depth sr =
            (if sr.clock - request.sent > 1 then
              if request.timesSent ≥ 5 then do
                timeOutArpreq memory (handleArpreq memory depth) request
                return none
              else return some (.sends request.id sr.clock)
            else return none : Sr (Option Handling)) sr := by
          simp only [Handling.advance, get_bind_apply, live]
        simp only [ends_ite, ends_pure]
        split
        · rename_i due
          rw [if_pos due] at tests
          split
          · rename_i spent
            rw [if_pos spent] at tests
            unfold Ends
            cases gives : timeOutArpreq memory (handleArpreq memory depth) request sr with
            | error fault next => trivial
            | ok value next =>
                refine .last (tests.trans ?_)
                show EStateM.bind _ _ sr = _
                rw [EStateM.bind, gives]
                rfl
          · rename_i left
            rw [if_neg left] at tests
            exact (ends_broadcastArpreq_parts memory depth live).mono
              (fun _ _ rest => .more tests rest) fun _ _ stops => stops
        · rename_i early
          rw [if_neg early] at tests
          exact .last tests
  exact ends.of_ok completes

section Uninterrupted

variable {memory : Memory} {depth : Nat} {sr after : SrInstance}

theorem run_handles {handling : Handling} (timer : Timer)
    (advances : Advances memory depth handling sr after) :
    ∃ times, run Threads.step ⟨sr, some handling, timer⟩
      (List.replicate times (.handles memory depth)) = some ⟨after, none, timer⟩ := by
  induction advances with
  | last advanced =>
      refine ⟨1, ?_⟩
      simp only [List.replicate, run, Threads.step, Threads.handles, advanced, Option.bind_some]
  | more advanced rest inductionHypothesis =>
      obtain ⟨times, later⟩ := inductionHypothesis
      refine ⟨times + 1, ?_⟩
      simp only [List.replicate_succ, run, Threads.step, Threads.handles, advanced,
        Option.bind_some]
      exact later

theorem run_ticks {handling : Handling} (packets : Option Handling) (next : Option Nat)
    (advances : Advances memory depth handling sr after) :
    ∃ times, run Threads.step ⟨sr, packets, .handles handling next⟩
      (List.replicate times (.timer memory depth)) = some ⟨after, packets, .sweeps next⟩ := by
  induction advances with
  | last advanced =>
      refine ⟨1, ?_⟩
      simp only [List.replicate, run, Threads.step, Threads.ticks, advanced, Option.bind_some,
        Timer.goesOn]
  | more advanced rest inductionHypothesis =>
      obtain ⟨times, later⟩ := inductionHypothesis
      refine ⟨times + 1, ?_⟩
      simp only [List.replicate_succ, run, Threads.step, Threads.ticks, advanced,
        Option.bind_some, Timer.goesOn]
      exact later

/-- The loop of the sweep, up to the release of the lock. -/
theorem run_sweepFrom (packets : Option Handling) :
    ∀ {steps : Nat} {cacheRequest : Option Nat} {sr : SrInstance},
      sweepFrom memory (depth + 1) steps cacheRequest sr = .ok () after →
        ∃ times, run Threads.step ⟨sr, packets, .sweeps cacheRequest⟩
          (List.replicate times (.timer memory depth)) = some ⟨after, packets, .sleeps⟩ := by
  intro steps
  induction steps with
  | zero =>
      intro cacheRequest sr completes
      cases cacheRequest with
      | none =>
          cases completes
          exact ⟨1, rfl⟩
      | some cacheRequest => cases completes
  | succ steps inductionHypothesis =>
      intro cacheRequest sr completes
      cases cacheRequest with
      | none =>
          cases completes
          exact ⟨1, rfl⟩
      | some cacheRequest =>
          obtain ⟨got, same, read, completes⟩ := ok_of_bind_ok completes
          cases read
          obtain ⟨_, swept, noted, completes⟩ := ok_of_bind_ok completes
          cases noted
          obtain ⟨_, handled, handles, completes⟩ := ok_of_bind_ok completes
          obtain ⟨times, call⟩ := run_ticks packets (sr.next cacheRequest)
            (advances_of_handleArpreq handles)
          obtain ⟨more, rest⟩ := inductionHypothesis completes
          refine ⟨times + more + 1, ?_⟩
          rw [List.replicate_succ, List.replicate_add, run]
          exact (run_append call).trans rest

/-- A round that nobody comes between is `sr_arpcache_timeout`. -/
theorem run_srArpcacheTimeout (packets : Option Handling)
    (completes : srArpcacheTimeout memory (depth + 1) sr = .ok () after) :
    ∃ times, run Threads.step ⟨sr, packets, .sleeps⟩
      (List.replicate times (.timer memory depth)) = some ⟨after, packets, .sleeps⟩ := by
  obtain ⟨_, expired, expires, completes⟩ := ok_of_bind_ok completes
  cases expires
  obtain ⟨got, same, read, completes⟩ := ok_of_bind_ok completes
  cases read
  obtain ⟨times, rest⟩ := run_sweepFrom packets completes
  refine ⟨times + 1, ?_⟩
  rw [List.replicate_succ, run]
  exact rest

end Uninterrupted

/-! ## handle_arpreq is called last -/

/-- Where the program completes, it does so without its call of `handle_arpreq`, or that call
is what it ends with. -/
def CallsLast (program : (Nat → Sr Unit) → Sr Unit) : Prop :=
  ∀ handle sr after, program handle sr = .ok () after →
    program (fun id => throw (.outOfFuel id)) sr = .ok () after ∨
      ∃ id called, program (fun id => throw (.outOfFuel id)) sr = .error (.outOfFuel id) called ∧
        handle id called = .ok () after

theorem callsLast_const (program : Sr Unit) : CallsLast fun _ => program :=
  fun _ _ _ completes => Or.inl completes

theorem callsLast_handle (id : Nat) : CallsLast fun handle => handle id :=
  fun _ sr _ completes => Or.inr ⟨id, sr, rfl, completes⟩

theorem callsLast_bind {α : Type} (first : Sr α) {rest : α → (Nat → Sr Unit) → Sr Unit}
    (last : ∀ value, CallsLast (rest value)) :
    CallsLast fun handle => first >>= fun value => rest value handle := by
  intro handle sr after completes
  obtain ⟨value, middle, front, behind⟩ := ok_of_bind_ok completes
  have resumed : ∀ handle, (first >>= fun value => rest value handle) sr =
      rest value handle middle := by
    intro handle
    simp only [bind, EStateM.bind, front]
  simp only [resumed]
  exact last value handle middle after behind

theorem callsLast_ite {condition : Prop} [Decidable condition]
    {yes no : (Nat → Sr Unit) → Sr Unit} (yesLast : CallsLast yes) (noLast : CallsLast no) :
    CallsLast fun handle => if condition then yes handle else no handle := by
  split
  · exact yesLast
  · exact noLast

section CallsLast

variable (memory : Memory)

theorem callsLast_sendOrQueue (gw : UInt32) (packet : Buf) (interface : Option SrIf) :
    CallsLast fun handle => sendOrQueue handle gw packet interface := by
  refine callsLast_bind _ fun sr => ?_
  cases srArpcacheLookup sr.entries gw with
  | some arpEntry => exact callsLast_const _
  | none =>
      refine callsLast_bind _ fun interface => ?_
      exact callsLast_bind _ fun arpReq => callsLast_handle arpReq

theorem callsLast_sendIcmpMsg (packet : Buf) (type code : UInt8) :
    CallsLast fun handle => sendIcmpMsg memory handle packet type code := by
  refine callsLast_bind _ fun _ => callsLast_bind _ fun _ => callsLast_bind _ fun src =>
    callsLast_bind _ fun sr => ?_
  cases longestPrefixMatching sr.routingTable src with
  | none => exact callsLast_const _
  | some rtEntry =>
      refine callsLast_ite ?_ (callsLast_ite ?_ (callsLast_const _))
      · iterate 14 refine callsLast_bind _ fun _ => ?_
        exact callsLast_sendOrQueue _ _ _
      · iterate 4 refine callsLast_bind _ fun _ => ?_
        exact callsLast_sendOrQueue _ _ _

theorem callsLast_srForwardIpPacket (packet : Buf) :
    CallsLast fun handle => srForwardIpPacket memory handle packet := by
  iterate 4 refine callsLast_bind _ fun _ => ?_
  refine callsLast_ite (callsLast_const _) ?_
  refine callsLast_bind _ fun _ => callsLast_ite (callsLast_sendIcmpMsg memory _ _ _) ?_
  iterate 5 refine callsLast_bind _ fun _ => ?_
  refine callsLast_bind _ fun sr => ?_
  split
  · exact callsLast_sendIcmpMsg memory _ _ _
  · exact callsLast_sendOrQueue _ _ _

theorem callsLast_deliverLocally (buf : Buf) :
    CallsLast fun handle => deliverLocally memory handle buf := by
  refine callsLast_bind _ fun _ => callsLast_ite ?_ (callsLast_ite ?_ (callsLast_const _))
  · refine callsLast_bind _ fun _ => callsLast_bind _ fun _ => ?_
    exact callsLast_ite (callsLast_sendIcmpMsg memory _ _ _) (callsLast_const _)
  · exact callsLast_sendIcmpMsg memory _ _ _

theorem callsLast_handleIpFrame (buf : Buf) :
    CallsLast fun handle => handleIpFrame memory handle buf := by
  refine callsLast_ite (callsLast_const _) ?_
  iterate 4 refine callsLast_bind _ fun _ => ?_
  refine callsLast_ite (callsLast_const _) ?_
  refine callsLast_bind _ fun _ => callsLast_bind _ fun _ => ?_
  refine callsLast_ite (callsLast_sendIcmpMsg memory _ _ _) ?_
  refine callsLast_bind _ fun _ => callsLast_bind _ fun interface => ?_
  cases interface with
  | some interface => exact callsLast_deliverLocally memory _
  | none => exact callsLast_srForwardIpPacket memory _

end CallsLast

theorem srHandlepacket_callsLast {memory : Memory} {depth : Nat} {buf : Buf} {iface : Name}
    {sr after : SrInstance}
    (completes : srHandlepacket memory (depth + 1) buf iface sr = .ok () after) :
    srHandlepacket memory 0 buf iface sr = .ok () after ∨
      ∃ id called, srHandlepacket memory 0 buf iface sr = .error (.outOfFuel id) called ∧
        handleArpreq memory (depth + 1) id called = .ok () after := by
  have last : CallsLast fun handle => (do
      if buf.bytes.length < sizeofEthernetHdr then
        return ()
      let type ← load16 memory buf etherType
      if ntohs type = ethertypeArp then
        handleArpFrame memory buf iface
      else if ntohs type = ethertypeIp then
        handleIpFrame memory handle buf
      else
        return () : Sr Unit) := by
    refine callsLast_ite (callsLast_const _) (callsLast_bind _ fun _ => ?_)
    refine callsLast_ite (callsLast_const _) ?_
    exact callsLast_ite (callsLast_handleIpFrame memory buf) (callsLast_const _)
  exact last (handleArpreq memory (depth + 1)) sr after completes

/-- A frame that is handled without a pause is received, and then goes through the parts of
its call of `handle_arpreq`, if there is one. -/
theorem run_srHandlepacket {memory : Memory} {depth : Nat} {sr after : SrInstance}
    {buf : Bytes} {iface : Name}
    (completes : srHandlepacket memory (depth + 1) ⟨.frame, buf⟩ iface sr = .ok () after) :
    ∃ times, run Threads.step ⟨sr, none, .sleeps⟩
      (.receives memory buf iface :: List.replicate times (.handles memory depth)) =
        some ⟨after, none, .sleeps⟩ := by
  rcases srHandlepacket_callsLast completes with returns | ⟨id, called, stops, handles⟩
  · refine ⟨0, ?_⟩
    simp [run, Threads.step, Threads.receives, returns]
  · obtain ⟨times, call⟩ := run_handles .sleeps (advances_of_handleArpreq handles)
    refine ⟨times, ?_⟩
    simp only [run, Threads.step, Threads.receives, stops, and_self, if_true, Option.bind_some]
    exact call

end Cmput313.Router
