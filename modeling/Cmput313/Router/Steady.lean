import Cmput313.Router.Moves

/-!
# What the functions of the router leave alone

They change no interface and no route, and what they report is known where they are
called.  An invariant of these three is kept; and where it gives every route an
interface, nothing stops at a NULL one.
-/

set_option autoImplicit false

namespace Cmput313.Router

open Cmput313.Bytes Cmput313.Program

/-- Only a report can break the invariant, and where stopping at a NULL interface is not
explained it gives every route an interface. -/
structure Steady (invariant : SrInstance → Prop) (explained : Fault → SrInstance → Prop) :
    Prop where
  unchanged : ∀ {sr next : SrInstance}, next.ifList = sr.ifList →
    next.routingTable = sr.routingTable → next.trace = sr.trace → invariant sr → invariant next
  recorded : ∀ {sr : SrInstance} {event : Event}, ¬ event.IsNote → invariant sr →
    invariant (sr.record event)
  stops : ∀ {fault : Fault} (sr : SrInstance), fault ≠ .nullInterface → explained fault sr
  resolves : (∀ sr, explained .nullInterface sr) ∨
    ∀ sr, invariant sr → ∀ route ∈ sr.routingTable,
      (srGetInterface sr.ifList route.interface).isSome

/-- Reports of the type keep the invariant. -/
def Permits (invariant : SrInstance → Prop) (type : UInt8) : Prop :=
  ∀ (sr : SrInstance) (packet : Tag) (code : UInt8), invariant sr →
    invariant (sr.record (.icmp packet type code))

def Safe (explained : Fault → SrInstance → Prop) (interface : Option SrIf) : Prop :=
  (∀ sr, explained .nullInterface sr) ∨ interface.isSome

section Steady

variable {invariant : SrInstance → Prop} {explained : Fault → SrInstance → Prop}
  (steady : Steady invariant explained) (memory : Memory)

include steady

theorem Steady.safe {sr : SrInstance} (kept : invariant sr) {ip : UInt32} {route : SrRt}
    (matched : longestPrefixMatching sr.routingTable ip = some route) :
    Safe explained (srGetInterface sr.ifList route.interface) :=
  steady.resolves.imp_right fun resolves =>
    resolves sr kept route (longestPrefixMatching_mem matched)

theorem keeps_steady_modify {change : SrInstance → SrInstance}
    (ifList : ∀ sr, (change sr).ifList = sr.ifList)
    (routingTable : ∀ sr, (change sr).routingTable = sr.routingTable)
    (trace : ∀ sr, (change sr).trace = sr.trace) :
    Keeps invariant explained (modify change) fun _ => True :=
  keeps_modify trivial fun sr => steady.unchanged (ifList sr) (routingTable sr) (trace sr)

theorem keeps_steady_log {event : Event} (other : ¬ event.IsNote) :
    Keeps invariant explained (log event) fun _ => True :=
  keeps_modify trivial fun _ => steady.recorded other

theorem keeps_steady_touch (buf : Buf) (offset size : Nat) :
    Keeps invariant explained (touch buf offset size) fun _ => True :=
  keeps_steady_modify steady (fun _ => rfl) (fun _ => rfl) fun _ => rfl

theorem keeps_steady_load (buf : Buf) (offset size : Nat) :
    Keeps invariant explained (load memory buf offset size) fun _ => True :=
  keeps_then (keeps_steady_touch steady _ _ _) fun _ => keeps_pure trivial

theorem keeps_steady_load8 (buf : Buf) (offset : Nat) :
    Keeps invariant explained (load8 memory buf offset) fun _ => True :=
  keeps_then (keeps_steady_touch steady _ _ _) fun _ => keeps_pure trivial

theorem keeps_steady_load16 (buf : Buf) (offset : Nat) :
    Keeps invariant explained (load16 memory buf offset) fun _ => True :=
  keeps_then (keeps_steady_touch steady _ _ _) fun _ => keeps_pure trivial

theorem keeps_steady_load32 (buf : Buf) (offset : Nat) :
    Keeps invariant explained (load32 memory buf offset) fun _ => True :=
  keeps_then (keeps_steady_touch steady _ _ _) fun _ => keeps_pure trivial

theorem keeps_steady_store (buf : Buf) (offset : Nat) (bytes : Bytes) :
    Keeps invariant explained (store buf offset bytes) fun _ => True :=
  keeps_then (keeps_steady_touch steady _ _ _) fun _ =>
    keeps_ite (fun _ => keeps_pure trivial) fun _ =>
      keeps_throw fun sr => steady.stops sr (by decide)

omit steady in
theorem keeps_steady_dereference {interface : Option SrIf} (safe : Safe explained interface) :
    Keeps invariant explained (dereference interface) fun _ => True := by
  cases interface with
  | none =>
      rcases safe with free | found
      · exact keeps_throw free
      · cases found
  | some interface => exact keeps_pure trivial

theorem keeps_steady_srSendPacket (buf : Bytes) (iface : Name) :
    Keeps invariant explained (srSendPacket buf iface) fun _ => True := by
  refine keeps_then (keeps_steady_log steady fun note => note) fun _ => ?_
  refine keeps_bind keeps_get fun sr _ => ?_
  refine keeps_ite (fun _ => keeps_pure trivial) fun _ => ?_
  refine keeps_ite (fun _ => ?_) fun _ => keeps_pure trivial
  exact keeps_then (keeps_steady_log steady fun note => note) fun _ => keeps_pure trivial

theorem keeps_steady_srArpcacheQueuereq (ip : UInt32) (packet : Bytes) (iface : Name) :
    Keeps invariant explained (srArpcacheQueuereq ip packet iface) fun _ => True := by
  have changes := fun change => @keeps_steady_modify _ _ steady change
  have allocates : Keeps invariant explained allocate fun _ => True :=
    keeps_bind keeps_get fun _ _ =>
      keeps_then (changes _ (fun _ => rfl) (fun _ => rfl) fun _ => rfl)
        fun _ => keeps_pure trivial
  refine keeps_then ?_ fun request => ?_
  · refine keeps_bind keeps_get fun sr _ => ?_
    cases sr.requests.find? fun req => req.ip = ip with
    | some req => exact keeps_pure trivial
    | none =>
        refine keeps_then allocates fun id => ?_
        exact keeps_then (changes _ (fun _ => rfl) (fun _ => rfl) fun _ => rfl)
          fun _ => keeps_pure trivial
  · refine keeps_ite (fun _ => ?_) fun _ => keeps_pure trivial
    refine keeps_then allocates fun id => ?_
    refine keeps_then (changes _ (fun _ => rfl) (fun _ => rfl) fun _ => rfl) fun _ => ?_
    exact keeps_then (keeps_steady_log steady fun note => note) fun _ => keeps_pure trivial

theorem keeps_steady_srArpreqDestroy (id : Nat) :
    Keeps invariant explained (srArpreqDestroy id) fun _ => True := by
  refine keeps_modify trivial fun sr => ?_
  cases sr.requests.find? fun req => req.id = id with
  | none => exact steady.unchanged rfl rfl rfl
  | some req => exact steady.unchanged rfl rfl rfl

theorem keeps_steady_broadcastArpreq (request : SrArpreq) :
    Keeps invariant explained (broadcastArpreq request) fun _ => True := by
  unfold broadcastArpreq
  cases request.packets with
  | nil => exact keeps_throw fun sr => steady.stops sr (by decide)
  | cons packet rest =>
      refine keeps_bind keeps_get fun sr _ => ?_
      cases srGetInterface sr.ifList packet.iface with
      | none => exact keeps_pure trivial
      | some interface =>
          refine keeps_then (keeps_steady_log steady fun note => note) fun _ => ?_
          refine keeps_then (keeps_steady_srSendPacket steady _ _) fun _ => ?_
          exact keeps_steady_modify steady (fun _ => rfl) (fun _ => rfl) fun _ => rfl

/-! ## Functions that queue -/

section Handle

variable {handle : Nat → Sr Unit}
  (handles : ∀ id, Keeps invariant explained (handle id) fun _ => True)

include handles

theorem keeps_steady_sendOrQueue (gw : UInt32) (packet : Buf) {interface : Option SrIf}
    (safe : Safe explained interface) :
    Keeps invariant explained (sendOrQueue handle gw packet interface) fun _ => True := by
  refine keeps_bind keeps_get fun sr _ => ?_
  cases srArpcacheLookup sr.entries gw with
  | some arpEntry =>
      refine keeps_then (keeps_steady_store steady _ _ _) fun packet => ?_
      refine keeps_then (keeps_steady_dereference safe) fun interface => ?_
      refine keeps_then (keeps_steady_store steady _ _ _) fun packet => ?_
      exact keeps_then (keeps_steady_srSendPacket steady _ _) fun _ => keeps_pure trivial
  | none =>
      refine keeps_then (keeps_steady_dereference safe) fun interface => ?_
      exact keeps_then (keeps_steady_srArpcacheQueuereq steady _ _ _) handles

theorem keeps_steady_sendEchoReply (packet : Buf) (type code : UInt8) (rtEntry : SrRt)
    {interface : Option SrIf} (safe : Safe explained interface) :
    Keeps invariant explained
      (sendEchoReply memory handle packet type code rtEntry interface) fun _ => True := by
  refine keeps_then (keeps_steady_store steady _ _ _) fun packet => ?_
  refine keeps_then (keeps_steady_store steady _ _ _) fun packet => ?_
  refine keeps_then (keeps_steady_load32 steady memory _ _) fun temp => ?_
  refine keeps_then (keeps_steady_load32 steady memory _ _) fun src => ?_
  refine keeps_then (keeps_steady_store steady _ _ _) fun packet => ?_
  refine keeps_then (keeps_steady_store steady _ _ _) fun packet => ?_
  refine keeps_then (keeps_steady_load8 steady memory _ _) fun vhl => ?_
  refine keeps_then (keeps_steady_store steady _ _ _) fun packet => ?_
  refine keeps_then (keeps_steady_store steady _ _ _) fun packet => ?_
  refine keeps_then (keeps_steady_store steady _ _ _) fun packet => ?_
  refine keeps_then (keeps_steady_load16 steady memory _ _) fun len => ?_
  refine keeps_then (keeps_steady_load8 steady memory _ _) fun vhl => ?_
  refine keeps_then (keeps_steady_load steady memory _ _ _) fun data => ?_
  refine keeps_then (keeps_steady_store steady _ _ _) fun packet => ?_
  exact keeps_steady_sendOrQueue steady handles _ _ safe

theorem keeps_steady_sendIcmpError (packet : Buf) (type code : UInt8) (rtEntry : SrRt)
    {interface : Option SrIf} (safe : Safe explained interface) :
    Keeps invariant explained
      (sendIcmpError memory handle packet type code rtEntry interface) fun _ => True := by
  have source : Keeps invariant explained (errorSource memory packet code interface)
      fun _ => True :=
    keeps_ite (fun _ => keeps_steady_load32 steady memory _ _) fun _ =>
      keeps_then (keeps_steady_dereference safe) fun _ => keeps_pure trivial
  refine keeps_then (keeps_steady_load8 steady memory _ _) fun vhl => ?_
  refine keeps_then source fun src => ?_
  refine keeps_then (keeps_steady_load32 steady memory _ _) fun dst => ?_
  refine keeps_then (keeps_steady_load steady memory _ _ _) fun quoted => ?_
  exact keeps_steady_sendOrQueue steady handles _ _ safe

theorem keeps_steady_sendIcmpMsg (packet : Buf) {type : UInt8}
    (permits : Permits invariant type) (code : UInt8) :
    Keeps invariant explained (sendIcmpMsg memory handle packet type code) fun _ => True := by
  have reports : Keeps invariant explained (log (.icmp packet.tag type code)) fun _ => True :=
    keeps_modify trivial fun sr => permits sr packet.tag code
  refine keeps_then reports fun _ => ?_
  refine keeps_then (keeps_steady_touch steady _ _ _) fun _ => ?_
  refine keeps_then (keeps_steady_load32 steady memory _ _) fun src => ?_
  refine keeps_bind keeps_get fun sr kept => ?_
  cases matched : longestPrefixMatching sr.routingTable src with
  | none => exact keeps_pure trivial
  | some rtEntry =>
      have safe := steady.safe kept matched
      refine keeps_ite (fun _ => ?_) fun _ => keeps_ite (fun _ => ?_) fun _ => ?_
      · exact keeps_steady_sendEchoReply steady memory handles _ _ _ _ safe
      · exact keeps_steady_sendIcmpError steady memory handles _ _ _ _ safe
      · exact keeps_pure trivial

theorem keeps_steady_srForwardIpPacket (packet : Buf)
    (timeExceeded : Permits invariant icmpTypeTimeExceeded)
    (unreachable : Permits invariant icmpTypeDestUnreachable) :
    Keeps invariant explained (srForwardIpPacket memory handle packet) fun _ => True := by
  refine keeps_then (keeps_steady_touch steady _ _ _) fun _ => ?_
  refine keeps_then (keeps_steady_load16 steady memory _ _) fun sum => ?_
  refine keeps_then (keeps_steady_store steady _ _ _) fun packet => ?_
  refine keeps_then (keeps_steady_load steady memory _ _ _) fun header => ?_
  refine keeps_ite (fun _ => keeps_pure trivial) fun _ => ?_
  refine keeps_then (keeps_steady_load8 steady memory _ _) fun ttl => ?_
  refine keeps_ite (fun _ =>
    keeps_steady_sendIcmpMsg steady memory handles _ timeExceeded _) fun _ => ?_
  refine keeps_then (keeps_steady_store steady _ _ _) fun packet => ?_
  refine keeps_then (keeps_steady_store steady _ _ _) fun packet => ?_
  refine keeps_then (keeps_steady_load steady memory _ _ _) fun header => ?_
  refine keeps_then (keeps_steady_store steady _ _ _) fun packet => ?_
  refine keeps_then (keeps_steady_load32 steady memory _ _) fun dst => ?_
  refine keeps_bind keeps_get fun sr kept => ?_
  cases matched : longestPrefixMatching sr.routingTable dst with
  | none => exact keeps_steady_sendIcmpMsg steady memory handles _ unreachable _
  | some routingTableEntry =>
      exact keeps_steady_sendOrQueue steady handles _ _ (steady.safe kept matched)

theorem keeps_steady_deliverLocally (buf : Buf)
    (reply : Permits invariant icmpTypeEchoReply)
    (unreachable : Permits invariant icmpTypeDestUnreachable) :
    Keeps invariant explained (deliverLocally memory handle buf) fun _ => True := by
  refine keeps_then (keeps_steady_load8 steady memory _ _) fun protocol => ?_
  refine keeps_ite (fun _ => ?_) fun _ => keeps_ite (fun _ => ?_) fun _ => keeps_pure trivial
  · refine keeps_then (keeps_steady_load8 steady memory _ _) fun vhl => ?_
    refine keeps_then (keeps_steady_load8 steady memory _ _) fun type => ?_
    exact keeps_ite (fun _ => keeps_steady_sendIcmpMsg steady memory handles _ reply _)
      fun _ => keeps_pure trivial
  · exact keeps_steady_sendIcmpMsg steady memory handles _ unreachable _

end Handle

theorem keeps_steady_handleArpreq (unreachable : Permits invariant icmpTypeDestUnreachable)
    (depth : Nat) :
    ∀ id, Keeps invariant explained (handleArpreq memory depth id) fun _ => True := by
  induction depth with
  | zero =>
      intro id
      refine keeps_throw fun sr => steady.stops sr ?_
      exact Fault.noConfusion
  | succ depth inductionHypothesis =>
      intro id
      refine keeps_bind keeps_get fun sr _ => ?_
      cases sr.request? id with
      | none => exact keeps_throw fun sr => steady.stops sr (by decide)
      | some request =>
          refine keeps_ite (fun _ => keeps_ite (fun _ => ?_) fun _ => ?_)
            fun _ => keeps_pure trivial
          · refine keeps_then (keeps_forM trivial fun packet _ => ?_) fun _ => ?_
            · exact keeps_steady_sendIcmpMsg steady memory inductionHypothesis _ unreachable _
            · cases request.packets with
              | cons packet rest => exact keeps_throw fun sr => steady.stops sr Fault.noConfusion
              | nil =>
                  exact keeps_then (keeps_steady_log steady fun note => note) fun _ =>
                    keeps_steady_srArpreqDestroy steady _
          · exact keeps_steady_broadcastArpreq steady request

end Steady

end Cmput313.Router
