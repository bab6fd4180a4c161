import Cmput313.Router.ReadFromServer
import Cmput313.Router.Steady

/-!
# Routes that were verified once

`sr_verify_routing_table` compares the routes with the interfaces when a `VNSHWINFO`
message was handled, and never again.  No message changes a route, and none takes
an interface off the list or renames one, so every route keeps an interface.
-/

set_option autoImplicit false

namespace Cmput313.Router

open Cmput313.Bytes Cmput313.Pox Cmput313.Program

/-! ## Interfaces that are found by name -/

theorem srGetInterface_isSome_iff {ifList : List SrIf} {name : Name} :
    (srGetInterface ifList name).isSome ↔
      ∃ own ∈ ifList.map SrIf.name, strncmpEq srIfaceNamelen own name = true := by
  rw [srGetInterface, List.find?_isSome]
  constructor
  · rintro ⟨walker, member, same⟩
    exact ⟨walker.name, List.mem_map_of_mem member, same⟩
  · rintro ⟨own, member, same⟩
    obtain ⟨walker, listed, rfl⟩ := List.mem_map.mp member
    exact ⟨walker, listed, same⟩

theorem srGetInterface_isSome_of_prefix {before after : List SrIf} {name : Name}
    (more : before.map SrIf.name <+: after.map SrIf.name)
    (found : (srGetInterface before name).isSome) : (srGetInterface after name).isSome := by
  rw [srGetInterface_isSome_iff] at found ⊢
  obtain ⟨own, member, same⟩ := found
  exact ⟨own, more.subset member, same⟩

theorem names_setLast {change : SrIf → SrIf} (same : ∀ last, (change last).name = last.name)
    {ifList changed : List SrIf} (result : setLast change ifList = some changed) :
    changed.map SrIf.name = ifList.map SrIf.name := by
  rcases List.eq_nil_or_concat ifList with rfl | ⟨front, last, rfl⟩
  · simp [setLast] at result
  · rw [List.concat_eq_append, setLast_concat, Option.some.injEq] at result
    rw [← result, List.concat_eq_append, List.map_append, List.map_append, List.map_singleton,
      List.map_singleton, same]

theorem names_handleHwEntry {memory : Memory} {ifList after : List SrIf} {entry : HwEntry}
    (handled : handleHwEntry memory ifList entry = some after) :
    ifList.map SrIf.name <+: after.map SrIf.name := by
  unfold handleHwEntry srSetEtherIp srSetEtherAddr at handled
  split at handled
  · rw [← Option.some.inj handled, srAddInterface, List.map_append]
    exact List.prefix_append _ _
  · split at handled
    · have same := names_setLast (by exact fun _ => rfl) handled
      exact same ▸ List.prefix_rfl
    · split at handled
      · have same := names_setLast (by exact fun _ => rfl) handled
        exact same ▸ List.prefix_rfl
      · exact Option.some.inj handled ▸ List.prefix_rfl

theorem names_hwEntries (memory : Memory) (hwinfo : Bytes) (indices : List Nat) :
    ∀ {ifList after : List SrIf},
      indices.foldlM (fun ifList i => handleHwEntry memory ifList (hwEntry memory hwinfo i))
        ifList = some after → ifList.map SrIf.name <+: after.map SrIf.name := by
  induction indices with
  | nil =>
      intro ifList after handled
      exact Option.some.inj handled ▸ List.prefix_rfl
  | cons index rest inductionHypothesis =>
      intro ifList after handled
      rw [List.foldlM_cons] at handled
      obtain ⟨middle, first, later⟩ := Option.bind_eq_some_iff.mp handled
      exact (names_handleHwEntry first).trans (inductionHypothesis later)

/-! ## What no message takes back -/

/-- The routes are the same, and the interfaces still have the names they had. -/
structure Extends (before after : SrInstance) : Prop where
  routingTable : after.routingTable = before.routingTable
  names : before.ifList.map SrIf.name <+: after.ifList.map SrIf.name

theorem Extends.refl (sr : SrInstance) : Extends sr sr := ⟨rfl, List.prefix_rfl⟩

theorem Extends.trans {first second third : SrInstance} (left : Extends first second)
    (right : Extends second third) : Extends first third :=
  ⟨right.routingTable.trans left.routingTable, left.names.trans right.names⟩

theorem Moves.extends {before after : SrInstance} (moves : Moves before after) :
    Extends before after :=
  ⟨moves.grows.routingTable, moves.grows.ifList ▸ List.prefix_rfl⟩

theorem keeps_moves_srArpReqNotForUs {start : SrInstance} (memory : Memory) (packet : Buf)
    (interface : Name) :
    KeepsMoves True start (srArpReqNotForUs memory packet interface) fun _ => True := by
  refine keeps_bind keeps_get fun sr _ => ?_
  refine keeps_ite (fun _ => keeps_pure trivial) fun _ => ?_
  have touches : ∀ offset size, KeepsMoves True start (touch packet offset size)
      fun _ => True :=
    fun offset size => keepsMoves_of_guarded (keeps_guarded_touch packet offset size)
  cases srGetInterface sr.ifList interface with
  | none => exact keeps_throw fun _ => trivial
  | some iface =>
      refine keeps_then (keeps_then (touches etherType 2) fun _ => keeps_pure trivial)
        fun type => ?_
      refine keeps_ite (fun _ => keeps_pure trivial) fun _ => ?_
      refine keeps_then (keeps_then (touches arOp 2) fun _ => keeps_pure trivial) fun op => ?_
      refine keeps_ite (fun _ => keeps_pure trivial) fun _ => ?_
      exact keeps_then (keeps_then (touches arTip 4) fun _ => keeps_pure trivial)
        fun tip => keeps_pure trivial

theorem keeps_moves_handlePacketMessage {start : SrInstance} (memory : Memory) (depth : Nat)
    (buf : Bytes) (len : Int) :
    KeepsMoves True start (handlePacketMessage memory depth buf len) fun _ => True := by
  rw [handlePacketMessage_eq_receiveFrame]
  refine keeps_then (keeps_moves_srArpReqNotForUs memory _ _) fun notForUs => ?_
  exact keeps_ite (fun _ => keeps_pure trivial)
    fun _ => keeps_moves_srHandlepacket memory depth _ _

theorem extends_srHandleHwinfo (memory : Memory) (hwinfo : Bytes) (sr : SrInstance) :
    Ends (srHandleHwinfo memory hwinfo) sr (fun _ => Extends sr) (fun _ => Extends sr) := by
  simp only [srHandleHwinfo, ends_bind, ends_get]
  generalize (numEntries (ntohl (peek32 memory.beyond hwinfo 0))).toNat = count
  cases handled : (List.range count).foldlM
      (fun ifList i => handleHwEntry memory ifList (hwEntry memory hwinfo i)) sr.ifList with
  | none => exact Extends.refl sr
  | some ifList => exact ⟨rfl, names_hwEntries memory hwinfo _ handled⟩

/-- Whatever a message asks for, and whether the router accepts it, dies of it or not. -/
theorem extends_commandSwitch (host : Host) (message : Dispatch) (sr : SrInstance) :
    Extends sr (finalState (commandSwitch host message) sr) := by
  apply Ends.finalState
  simp only [commandSwitch, ends_ite, ends_bind, ends_pure, ends_get, Extends.refl, ite_self]
  split
  · have moves := keeps_moves_handlePacketMessage host.memory host.depth message.buf
      message.len sr (Moves.refl sr)
    exact moves.mono (fun _ _ kept => kept.1.extends) fun _ _ stopped => stopped.1.extends
  · split
    · trivial
    · split
      · trivial
      · split
        · exact extends_srHandleHwinfo host.memory message.buf sr
        · simp

/-! ## No missing interface is dereferenced -/

def RoutesResolve (sr : SrInstance) : Prop :=
  ∀ route ∈ sr.routingTable, (srGetInterface sr.ifList route.interface).isSome

theorem RoutesResolve.extends {before after : SrInstance} (resolve : RoutesResolve before)
    (extended : Extends before after) : RoutesResolve after := by
  intro route member
  rw [extended.routingTable] at member
  exact srGetInterface_isSome_of_prefix extended.names (resolve route member)

theorem RoutesResolve.longestPrefixMatching {sr : SrInstance} (resolve : RoutesResolve sr)
    {ip : UInt32} {route : SrRt}
    (matched : longestPrefixMatching sr.routingTable ip = some route) :
    ∃ interface, srGetInterface sr.ifList route.interface = some interface :=
  Option.isSome_iff_exists.mp (resolve route (longestPrefixMatching_mem matched))

/-- The program leaves interfaces and routes alone, and where these fit together it does
not stop at a NULL interface. -/
abbrev KeepsResolved {α : Type} (program : Sr α) : Prop :=
  Keeps RoutesResolve (fun fault _ => fault ≠ .nullInterface) program fun _ => True

theorem steady_routesResolve :
    Steady RoutesResolve fun fault _ => fault ≠ .nullInterface where
  unchanged := fun ifList routingTable _ resolve route member => by
    rw [routingTable] at member
    rw [ifList]
    exact resolve route member
  recorded := fun _ resolve => resolve
  stops := fun _ other => other
  resolves := .inr fun _ resolve => resolve

theorem permits_routesResolve (type : UInt8) : Permits RoutesResolve type :=
  fun _ _ _ resolve => resolve

theorem keeps_resolved_handleArpreq (memory : Memory) (depth : Nat) :
    ∀ id, KeepsResolved (handleArpreq memory depth id) :=
  keeps_steady_handleArpreq steady_routesResolve memory (permits_routesResolve _) depth

/-! ## After a verified message -/

/-- A message that is handled, whatever it returns and even if the process dies of it,
or a round of the cache's thread; at any clock value. -/
inductive ServerStep (before : SrInstance) : SrInstance → Prop where
  | message (host : Host) (message : Dispatch) (now : Int) :
      ServerStep before (finalState (commandSwitch host message) (before.atTime now))
  | timeout (memory : Memory) (depth : Nat) (now : Int) :
      ServerStep before (finalState (srArpcacheTimeout memory depth) (before.atTime now))

def Serves (start : SrInstance) : SrInstance → Prop :=
  Relation.ReflTransGen ServerStep start

theorem ServerStep.extends {before after : SrInstance} (step : ServerStep before after) :
    Extends before after := by
  have clock : ∀ now, Extends before (before.atTime now) :=
    fun now => ⟨rfl, List.prefix_rfl⟩
  cases step with
  | message host message now =>
      exact (clock now).trans (extends_commandSwitch host message (before.atTime now))
  | timeout memory depth now =>
      have keeps : KeepsMoves True (before.atTime now) (srArpcacheTimeout memory depth)
          fun _ => True := keeps_moves_srArpcacheTimeout memory depth
      exact (clock now).trans (keeps.finalState (Moves.refl _)).extends

theorem Serves.extends {start sr : SrInstance} (serves : Serves start sr) :
    Extends start sr := by
  induction serves with
  | refl => exact Extends.refl start
  | tail _ step inductionHypothesis => exact inductionHypothesis.trans step.extends

/-- The router accepts a `VNSHWINFO` message only if every route has an interface. -/
theorem routesResolve_of_accepted {host : Host} {message : Dispatch} {sr processed : SrInstance}
    (hwinfo : message.command = vnsHwinfo)
    (accepted : commandSwitch host message sr = .ok 1 processed) : RoutesResolve processed := by
  have otherPacket : ¬ vnsHwinfo = vnsPacket := by decide
  have otherClose : ¬ vnsHwinfo = vnsClose := by decide
  have otherBanner : ¬ vnsHwinfo = vnsBanner := by decide
  have switched : Ends (commandSwitch host message) sr
      (fun ret next => ret = 1 → srVerifyRoutingTable next.ifList next.routingTable = 0)
      (fun _ _ => True) := by
    simp only [commandSwitch, hwinfo, if_neg otherPacket, if_neg otherClose,
      if_neg otherBanner, if_true, ends_bind, ends_get, ends_pure]
    refine (ends_true _ sr).mono (fun _ next _ returned => ?_) fun _ _ _ => trivial
    by_contra inconsistent
    rw [if_pos inconsistent] at returned
    exact absurd returned (by decide)
  have verified := switched.of_ok accepted rfl
  intro route member
  exact Option.isSome_iff_exists.mpr (srVerifyRoutingTable_interface verified member)

theorem not_nullInterface {program : Sr Unit} {sr : SrInstance} (keeps : KeepsResolved program)
    (resolve : RoutesResolve sr) (next : SrInstance) : program sr ≠ .error .nullInterface next :=
  fun stops => (keeps.of_error resolve stops).2 rfl

/-- From an accepted `VNSHWINFO` message on, in every state that later messages leave or
pass through, the route of every destination has an interface, and neither an ICMP
message nor a forwarded packet dereferences a missing one. -/
theorem verified_routes_keep_interfaces {host : Host} {message : Dispatch}
    {sr processed later middle : SrInstance} (hwinfo : message.command = vnsHwinfo)
    (accepted : commandSwitch host message sr = .ok 1 processed)
    (serves : Serves processed later) (passes : Moves later middle) :
    (∀ ip route, longestPrefixMatching middle.routingTable ip = some route →
      ∃ interface, srGetInterface middle.ifList route.interface = some interface) ∧
    (∀ memory depth packet type code next,
      sendIcmpMsg memory (handleArpreq memory depth) packet type code middle ≠
        .error .nullInterface next) ∧
    ∀ memory depth packet next,
      srForwardIpPacket memory (handleArpreq memory depth) packet middle ≠
        .error .nullInterface next := by
  have verified := routesResolve_of_accepted hwinfo accepted
  have resolve := verified.extends (serves.extends.trans passes.extends)
  refine ⟨fun ip route => resolve.longestPrefixMatching, ?_, ?_⟩
  · intro memory depth packet type code
    exact not_nullInterface (keeps_steady_sendIcmpMsg steady_routesResolve memory
      (keeps_resolved_handleArpreq memory depth) packet (permits_routesResolve type) code) resolve
  · intro memory depth packet
    exact not_nullInterface (keeps_steady_srForwardIpPacket steady_routesResolve memory
      (keeps_resolved_handleArpreq memory depth) packet (permits_routesResolve _)
      (permits_routesResolve _)) resolve

def eth0Hwinfo : VnsMessage where
  bytes := ltMessage VnsHardwareInfo.getType (VnsHardwareInfo.pack [vnsEth0])
  mLen := by decide +kernel
  long := by decide +kernel
  short := by decide +kernel

def bareNetwork : SrInstance := { smallNetwork with ifList := [] }

/-- `eth0` is registered, and later once more. -/
theorem eth0Hwinfo_keeps_interfaces :
    let registered := finalState (commandSwitch quietHost eth0Hwinfo.dispatched) bareNetwork
    let again := finalState (commandSwitch quietHost eth0Hwinfo.dispatched)
      (registered.atTime 7)
    (∀ ip route, longestPrefixMatching again.routingTable ip = some route →
      ∃ interface, srGetInterface again.ifList route.interface = some interface) ∧
    (∀ memory depth packet type code next,
      sendIcmpMsg memory (handleArpreq memory depth) packet type code again ≠
        .error .nullInterface next) ∧
    ∀ memory depth packet next,
      srForwardIpPacket memory (handleArpreq memory depth) packet again ≠
        .error .nullInterface next :=
  verified_routes_keep_interfaces (by decide +kernel)
    (eq_ok_of_returnedValue (by decide +kernel))
    (.tail .refl (.message quietHost eth0Hwinfo.dispatched 7)) (Moves.refl _)

end Cmput313.Router
