import Cmput313.Network.Configuration

/-!
# Where the frames of a router come from

Whatever made a router's process send a frame, the server gets it with the name of an
interface that the switch told of, and from the address that it told for that interface.
-/

set_option autoImplicit false

namespace Cmput313.Network

open Cmput313.Bytes Cmput313.Machine Cmput313.Pox Cmput313.Program Cmput313.Router

variable {net next : Net} {link : Link} {sr : SrInstance}

/-! ## The process -/

/-- Every frame that was written has the address of an interface, as the interfaces are now. -/
def SendsOwn (sr : SrInstance) : Prop := ∀ bytes ∈ sr.written, FromInterface sr.ifList bytes

theorem SendsOwn.atTime (own : SendsOwn sr) (now : Int) : SendsOwn (sr.atTime now) := own

theorem SendsOwn.written_eq_nil (own : SendsOwn sr) (bare : sr.ifList = []) : sr.written = [] := by
  refine List.eq_nil_iff_forall_not_mem.mpr fun bytes member => ?_
  obtain ⟨buf, iface, interface, -, found, -⟩ := own bytes member
  rw [bare] at found
  cases found

theorem sendsOwn_of_move {before after : SrInstance} (own : SendsOwn before)
    (move : Move before after) : SendsOwn after := by
  obtain ⟨events, trace, origins⟩ := move.fromInterface
  intro bytes member
  rw [move.grows.ifList]
  rw [SrInstance.written, trace, List.filterMap_append, List.mem_append] at member
  rcases member with early | late
  · exact own bytes early
  · obtain ⟨event, inside, wired⟩ := List.mem_filterMap.mp late
    cases event with
    | wire message => exact origins bytes (Option.some.inj wired ▸ inside)
    | _ => cases wired

theorem SendsOwn.moves {after : SrInstance} (own : SendsOwn sr) (moves : Moves sr after) :
    SendsOwn after :=
  moves.preserves SendsOwn own fun _ _ before move => sendsOwn_of_move before move

theorem SendsOwn.commandSwitch (own : SendsOwn sr) (host : Host) {message : Dispatch}
    (first : message.command = vnsHwinfo → sr.ifList = []) :
    SendsOwn (finalState (commandSwitch host message) sr) := by
  by_cases hwinfo : message.command = vnsHwinfo
  · intro bytes member
    rw [SrInstance.written, trace_commandSwitch_hwinfo host hwinfo sr] at member
    have nothing : sr.trace.filterMap Event.wire? = [] := own.written_eq_nil (first hwinfo)
    rw [nothing] at member
    cases member
  · exact own.moves (moves_commandSwitch host hwinfo sr)

theorem afterSwitch_sr (process : Process) (phase : Phase) (message : Router.VnsMessage)
    (now : Int) :
    (process.afterSwitch phase sr message
      (commandSwitch process.toHost message.dispatched (sr.atTime now))).sr =
      finalState (commandSwitch process.toHost message.dispatched) (sr.atTime now) := by
  rw [finalState]
  cases commandSwitch process.toHost message.dispatched (sr.atTime now) with
  | ok ret after => rfl
  | error fault after => rfl

theorem SendsOwn.reads {process : Process} {now : Int} {phase : Phase} {message : LtMessage}
    {bytes : Str} {turn : Process.Turn} (own : SendsOwn sr)
    (first : message.getType = vnsHwinfo → sr.ifList = [])
    (wired : wireBytes message = some bytes)
    (turned : process.reads now phase sr bytes = some turn) : SendsOwn turn.sr := by
  obtain ⟨body, packed, -, -⟩ := wireBytes_eq_some wired
  cases expects : phase.expectedCmd with
  | none =>
      rw [Process.reads, expects] at turned
      cases turned
  | some expectedCmd =>
      rcases Nat.lt_or_ge 9992 body.length with long | short
      · cases Option.some.inj (turned.symm.trans (reads_long expects wired packed long))
        exact own
      · cases Option.some.inj (turned.symm.trans (reads_short expects wired packed short))
        split
        · exact own
        · rw [afterSwitch_sr]
          refine (own.atTime now).commandSwitch process.toHost fun hwinfo => ?_
          rw [framed_command] at hwinfo
          exact first hwinfo

/-! ## The network -/

structure OwnFrames (net : Net) : Prop where
  equippedNet : EquippedNet net
  own : ∀ (conn : Conn) (link : Link), net.links[conn]? = some link → SendsOwn link.sr

theorem OwnFrames.step {event : NetEvent} (ownFrames : OwnFrames net)
    (taken : net.step event = some next) : OwnFrames next where
  equippedNet := ownFrames.equippedNet.step taken
  own := by
    intro conn after there
    have informed := ownFrames.equippedNet.informed
    rcases links_step informed.sessions.wellFormed taken there with
      ⟨process, routingTable, now, rfl⟩ | ⟨link, was, step⟩
    · exact List.forall_mem_nil _
    · have own := ownFrames.own conn link was
      cases step with
      | still same =>
          rw [same.sr]
          exact own
      | @reads message toRouter bytes now turn took wired turned =>
          refine own.reads (fun hwinfo => ?_) wired turned
          obtain ⟨interfaces, rfl⟩ := getType_eq_vnsHwinfo hwinfo
          exact (informed.informed conn link was).bare
            ((informed.sessions.session conn link was).first_hardwareInfo took)
      | timesOut now running => exact (own.atTime now).moves moves_timesOut

theorem ownFrames_run {events : List NetEvent}
    (reached : run Net.step .init events = some net) : OwnFrames net :=
  run_keeps (fun _ _ _ ownFrames taken => ownFrames.step taken)
    ⟨equippedNet_init, fun _ _ there => absurd there.symm (Option.some_ne_none _)⟩ reached

/-! ## The frames -/

/-- The server gets a frame from the address of the interface, with the 16 octets of its name
that a message carries. -/
def SentFrom (entry : Str × IntfInfo) (bytes : Bytes) : Prop :=
  ∃ packet, decode bytes = some (.vnsPacket packet) ∧ packet.intfName = entry.1.take 16 ∧
    packMac entry.2.mac = some ((packet.ethernetFrame.drop etherShost).take 6)

/-- In every run, a router's process has written nothing, or there is one description by the
switch so that each message it wrote is a frame from the address of an interface of that
description, with as much of its name as a message carries. -/
theorem frames_from_described_interfaces {events : List NetEvent} {conn : Conn}
    (reached : run Net.step .init events = some net) (there : net.links[conn]? = some link)
    (plain : ∀ info, .routerInfo info ∈ events →
      info.length ≤ 46 ∧ ∀ entry ∈ info, Registrable entry.1) :
    link.sr.written = [] ∨ ∃ info, .routerInfo info ∈ events ∧
      ∀ bytes ∈ link.sr.written, ∃ entry ∈ info, SentFrom entry bytes := by
  obtain ⟨equippedNet, announces⟩ := announces_run reached
  have own := (ownFrames_run reached).own conn link there
  obtain ⟨bare, informed⟩ := equippedNet.configured announces there plain
  by_cases early : ¬ link.phase.Looped ∨
      ∀ message ∈ link.toRouter.taken, message.getType ≠ vnsHwinfo
  · exact Or.inl (own.written_eq_nil (bare early))
  · push Not at early
    obtain ⟨info, announced, configured⟩ := informed early.1 early.2
    refine Or.inr ⟨info, announced, fun bytes member => ?_⟩
    obtain ⟨buf, iface, interface, rfl, found, source⟩ := own bytes member
    obtain ⟨entry, inside, told⟩ := exists_of_forall₂ configured (srGetInterface_mem found)
    refine ⟨entry, inside, _, decode_packetMessage buf iface, ?_, ?_⟩
    · have named : cString srIfaceNamelen iface = entry.1 :=
        (srGetInterface_name found).symm.trans told.name
      have fits : 16 ≤ srIfaceNamelen := by decide
      rw [← named]
      exact cString_eq_take fits iface
    · rw [source]
      exact told.mac

/-- Its process answered, asked, and sent a datagram on, and asked over the other interface. -/
theorem lanLink_sentFrom :
    lanLink.sr.written.map (fun bytes => cString 16 (bytes.drop 8)) =
      [eth0.name, eth0.name, eth0.name, uplink.take 16] ∧
    (lanLink.sr.written = [] ∨ ∃ info, .routerInfo info ∈ lanRun ∧
      ∀ bytes ∈ lanLink.sr.written, ∃ entry ∈ info, SentFrom entry bytes) :=
  ⟨by decide +kernel, frames_from_described_interfaces lanEnd_reached lanLink_there lanRun_plain⟩

end Cmput313.Network
