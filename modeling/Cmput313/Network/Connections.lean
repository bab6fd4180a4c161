import Cmput313.Network.PacketOut

/-!
# Which processes connect

What every run of the net has in common, read off the sessions of its connections.
-/

set_option autoImplicit false

namespace Cmput313.Network

open Cmput313.Machine Cmput313.Pox Cmput313.Router

variable {events : List NetEvent} {net : Net} {conn : Conn} {link : Link}

/-! ## A run of the small net

The frame is the first message that the process takes.
-/

def keylessRun : List NetEvent :=
  .connect keyless [] 0 :: earlyFrame ++
    [.requestAuth (List.replicate 20 0), .reads 0 0]

def keylessEnd : Net := runEnd Net.step .init keylessRun

theorem keylessEnd_reached : run Net.step .init keylessRun = some keylessEnd :=
  run_eq_runEnd (by decide)

def keylessLink : Link := keylessEnd.links.get ⟨0, by decide⟩

theorem keylessLink_there : keylessEnd.links[0]? = some keylessLink :=
  List.getElem?_eq_getElem _

/-! ## The order of the messages -/

/-- Of what type the server takes a message to be. -/
def receivedType (bytes : Str) : Option UInt32 := (decode bytes).map Pox.VnsMessage.getType

theorem Stage.types_prefix {process : Process} {phase : Phase} {taken : List LtMessage}
    {messages : List Pox.VnsMessage} (stage : Stage process phase taken messages) :
    messages.map Pox.VnsMessage.getType <+:
      [vnsAuthReply, if process.templated then vnsOpenTemplate else vnsOpen] := by
  cases stage with
  | waiting => exact List.nil_prefix
  | refused => exact List.nil_prefix
  | asked => exact ⟨[_], rfl⟩
  | rejected => exact ⟨[_], rfl⟩
  | awaiting keyed templated => rw [templated]; exact List.prefix_rfl
  | abandoned keyed templated => rw [templated]; exact List.prefix_rfl
  | opened looped keyed untemplated => rw [untemplated]; exact List.prefix_rfl

theorem Raises.receivedType {ports : Str → Option Nat} {bytes : Str} (raises : Raises ports bytes) :
    receivedType bytes = some vnsPacket ∨ receivedType bytes = some vnsOpenTemplate := by
  cases raises with
  | packet packet decoded unknown => exact Or.inl (by rw [Network.receivedType, decoded]; rfl)
  | openTemplate template decoded => exact Or.inr (by rw [Network.receivedType, decoded]; rfl)

/-- The server closes a connection only behind its loss.  It loses one that breaks, and one
whose last message was a packet or asked for a template, which may raise an exception. -/
theorem lost_connections (reached : run Net.step .init events = some net) :
    net.endings.closed = net.endings.lost.map Prod.fst ∧
      ∀ conn, net.isLost conn = true → .disconnected conn ∈ events ∨
        ∃ link bytes, net.links[conn]? = some link ∧
          link.toServer.taken.getLast? = some bytes ∧
          (receivedType bytes = some vnsPacket ∨ receivedType bytes = some vnsOpenTemplate) := by
  refine ⟨(sessions_run reached).endings, fun conn lost => ?_⟩
  have explained : Explained (fun _ => True) events conn net :=
    (@run_preserves _ _ Net.step (fun _ event => event ∈ events)
      (fun net => WellFormed net ∧ Explained (fun _ => True) events conn net)
      (fun net event next holds happens taken =>
        ⟨holds.1.step taken, holds.2.step holds.1 happens trivial taken⟩) events .init net
      ⟨wellFormed_init, nofun⟩ (meets_of_forall (fun event member _ => member) _) reached).2
  refine (explained lost).imp id ?_
  rintro ⟨link, ports, bytes, there, -, last, raises⟩
  exact ⟨link, bytes, there, last, raises.receivedType⟩

/-- The server closes no connection that it has not lost, and loses one only where it breaks
or where a packet or the request for a template may raise an exception.  Besides packets it
sends at most a request, a status and the hardware information, in this order; a process
writes at most a reply and one of the two messages that open a session, and then only packets
that the server decodes. -/
theorem messages_in_order (reached : run Net.step .init events = some net) :
    (net.endings.closed = net.endings.lost.map Prod.fst ∧
      ∀ conn, net.isLost conn = true → .disconnected conn ∈ events ∨
        ∃ link bytes, net.links[conn]? = some link ∧
          link.toServer.taken.getLast? = some bytes ∧
          (receivedType bytes = some vnsPacket ∨ receivedType bytes = some vnsOpenTemplate)) ∧
    ∀ (conn : Conn) (link : Link), net.links[conn]? = some link →
      controls link.toRouter.sent <+: [vnsAuthRequest, vnsAuthStatus, vnsHwinfo] ∧
      ∃ opening : List Str, link.toServer.sent = opening ++ link.sr.written ∧
        opening.map receivedType <+:
          [some vnsAuthReply,
            some (if link.process.templated then vnsOpenTemplate else vnsOpen)] ∧
        ∀ bytes ∈ link.sr.written, ∃ packet, decode bytes = some (.vnsPacket packet) := by
  have sessions := sessions_run reached
  refine ⟨lost_connections reached, fun conn link there => ?_⟩
  have session := sessions.session conn link there
  obtain ⟨opening, messages, stage, decoded, sent⟩ := session.opening
  refine ⟨session.controls_prefix, opening, sent, ?_, fun bytes wrote => ?_⟩
  · have types : opening.map receivedType = (messages.map Pox.VnsMessage.getType).map some := by
      rw [show opening.map receivedType =
          (opening.map decode).map (Option.map Pox.VnsMessage.getType) from
            (List.map_map).symm, decoded, List.map_map, List.map_map]
      rfl
    rw [types]
    exact stage.types_prefix.map some
  · obtain ⟨buf, iface, rfl⟩ := session.packets bytes wrote
    exact ⟨_, decode_packetMessage buf iface⟩

theorem lanEnd_in_order :
    (lanLink.toServer.taken.map receivedType =
        [some vnsAuthReply, some vnsOpen, some vnsPacket, some vnsPacket, some vnsPacket,
          some vnsPacket] ∧
      controls lanLink.toRouter.sent = [vnsAuthRequest, vnsAuthStatus, vnsHwinfo]) ∧
    (lanEnd.endings.closed = lanEnd.endings.lost.map Prod.fst ∧
      ∀ conn, lanEnd.isLost conn = true → .disconnected conn ∈ lanRun ∨
        ∃ link bytes, lanEnd.links[conn]? = some link ∧
          link.toServer.taken.getLast? = some bytes ∧
          (receivedType bytes = some vnsPacket ∨ receivedType bytes = some vnsOpenTemplate)) ∧
    ∀ (conn : Conn) (link : Link), lanEnd.links[conn]? = some link →
      controls link.toRouter.sent <+: [vnsAuthRequest, vnsAuthStatus, vnsHwinfo] ∧
      ∃ opening : List Str, link.toServer.sent = opening ++ link.sr.written ∧
        opening.map receivedType <+:
          [some vnsAuthReply,
            some (if link.process.templated then vnsOpenTemplate else vnsOpen)] ∧
        ∀ bytes ∈ link.sr.written, ∃ packet, decode bytes = some (.vnsPacket packet) :=
  ⟨by decide +kernel, messages_in_order lanEnd_reached⟩

/-! ## Which phase a process is in -/

theorem packet?_eq_none_iff (message : LtMessage) :
    packet? message = none ↔ message.getType ≠ vnsPacket := by
  rw [← Option.isNone_iff_eq_none, isNone_packet?, decide_eq_true_iff]

/-- While a process connects, a message that is no packet is the one it waits for. -/
theorem expected_of_controls {message : LtMessage} {type : UInt32} {rest : List UInt32}
    {later : List LtMessage} (before : controls (message :: later) <+: type :: rest)
    (noPacket : packet? message = none) : message.getType = type := by
  rw [controls_cons, if_neg ((packet?_eq_none_iff message).mp noPacket),
    List.cons_prefix_cons] at before
  exact before.1

theorem Session.controls_taken {requested : List UInt32} (session : Session requested link) :
    controls link.toRouter.taken <+: [vnsAuthRequest, vnsAuthStatus, vnsHwinfo] := by
  have front := session.controls_prefix
  rw [Fifo.sent, controls_append] at front
  exact (List.prefix_append _ _).trans front

theorem packet?_of_getType {message : LtMessage} {type : UInt32} (same : message.getType = type)
    (other : type ≠ vnsPacket) : packet? message = none := by
  rw [packet?_eq_none_iff, same]
  exact other

/-- A process gets to the main loop exactly if it can read its key, opens no template, and
the first two messages that it took were no packets.  It fails to connect exactly if it took
a message without a key, a packet among the first two, or any message while it waits for the
routing table of its template. -/
theorem connects_iff (reached : run Net.step .init events = some net)
    (there : net.links[conn]? = some link) :
    (link.phase.Looped ↔ link.process.keyed = true ∧ link.process.templated = false ∧
      2 ≤ link.toRouter.taken.length ∧
      ∀ message ∈ link.toRouter.taken.take 2, packet? message = none) ∧
    (link.phase = .connectFailed ↔
      link.process.keyed = false ∧ link.toRouter.taken ≠ [] ∨
      (∃ message ∈ link.toRouter.taken.take 2, packet? message ≠ none) ∨
      link.process.templated = true ∧ 2 < link.toRouter.taken.length) := by
  have session := (sessions_run reached).session conn link there
  have before := session.controls_taken
  obtain ⟨opening, messages, stage, -, -⟩ := session.opening
  generalize link.process = process at stage ⊢
  generalize link.phase = phase at stage ⊢
  generalize link.toRouter.taken = taken at stage before ⊢
  have noRequest : vnsAuthRequest ≠ vnsPacket := by decide
  have noStatus : vnsAuthStatus ≠ vnsPacket := by decide
  cases stage with
  | waiting => simp [Phase.Looped]
  | @refused message why =>
      cases keyed : process.keyed with
      | false => simp [Phase.Looped]
      | true =>
          have packet : packet? message ≠ none :=
            fun none_ => why keyed (expected_of_controls before none_)
          simp [Phase.Looped, packet]
  | asked keyed requested =>
      have first := packet?_of_getType requested noRequest
      simp [Phase.Looped, keyed, first]
  | @rejected request message reply keyed requested why =>
      have first := packet?_of_getType requested noRequest
      rw [controls_cons, requested, if_neg noRequest, List.cons_prefix_cons] at before
      have packet : packet? message ≠ none :=
        fun none_ => why (expected_of_controls before.2 none_)
      simp [Phase.Looped, keyed, first, packet]
  | awaiting keyed templated requested passed =>
      have first := packet?_of_getType requested noRequest
      have second := packet?_of_getType passed noStatus
      simp [Phase.Looped, keyed, templated, first, second]
  | abandoned keyed templated requested passed =>
      have first := packet?_of_getType requested noRequest
      have second := packet?_of_getType passed noStatus
      simp [Phase.Looped, keyed, templated, first, second]
  | opened looped keyed untemplated requested passed =>
      have first := packet?_of_getType requested noRequest
      have second := packet?_of_getType passed noStatus
      have notFailed : phase ≠ .connectFailed := by
        rintro rfl
        exact looped
      simp [looped, keyed, untemplated, first, second, notFailed]

theorem keyless_fails : keylessLink.phase = .connectFailed :=
  (connects_iff keylessEnd_reached keylessLink_there).2.mpr
    (Or.inl ⟨by decide, by decide⟩)

/-! ## Nobody waits in vain -/

theorem length_controls_le (messages : List LtMessage) :
    (controls messages).length ≤ messages.length := by
  rw [controls, List.length_map]
  exact List.length_filter_le ..

/-- As long as a process authenticates itself, the server is about to ask it, or a message
is on its way between them. -/
theorem authentication_goes_on (reached : run Net.step .init events = some net)
    (there : net.links[conn]? = some link)
    (connecting : link.phase = .authRequest ∨ link.phase = .authStatus) :
    net.requesting = some conn ∨ link.toRouter.waiting ≠ [] ∨ link.toServer.waiting ≠ [] := by
  by_contra stuck
  rw [not_or, not_or, not_not, not_not] at stuck
  obtain ⟨asked, noneThere, noneHere⟩ := stuck
  have session := (sessions_run reached).session conn link there
  obtain ⟨opening, messages, stage, decoded, sent⟩ := session.opening
  obtain ⟨answers, all, types⟩ := session.answered
  have quiet : link.sr.written = [] := by
    apply session.silent
    rcases connecting with phase | phase <;> rw [phase] <;> exact id
  have received : link.toServer.taken.map decode = messages.map some := by
    rw [Fifo.sent, noneHere, quiet, List.append_nil, List.append_nil] at sent
    rw [sent, decoded]
  rw [Net.requested, if_neg asked, Fifo.sent, noneThere, List.append_nil] at types
  rw [received] at all
  have bound := length_controls_le link.toRouter.taken
  rw [types] at bound
  generalize link.toRouter.taken = taken at stage bound
  rcases connecting with phase | phase
  · rw [phase] at stage
    cases stage with
    | waiting => exact absurd bound (by simp)
    | opened looped => exact looped.elim
  · rw [phase] at stage
    cases stage with
    | asked keyed requested =>
        cases all with
        | cons answer rest =>
            rw [show _ = [vnsAuthStatus] from answer] at bound
            exact absurd bound (by simp)
    | opened looped => exact looped.elim

def answering : Net := runEnd Net.step connected [.requestAuth (List.replicate 20 0), .reads 0 100]

theorem answering_reached :
    run Net.step .init (switchConnects ++ [.connect keyedProcess [lanRoute, uplinkRoute] 100,
      .requestAuth (List.replicate 20 0), .reads 0 100]) = some answering := by
  rw [run_append learned_reached, run, Net.step, connect_learned, Option.bind_some]
  exact run_eq_runEnd (by decide +kernel)

theorem answering_goes_on :
    ∃ link, answering.links[0]? = some link ∧ link.phase = .authStatus ∧
      (answering.requesting = some 0 ∨ link.toRouter.waiting ≠ [] ∨
        link.toServer.waiting ≠ []) := by
  have waits : answering.links[0]?.map Link.phase = some .authStatus := by decide +kernel
  obtain ⟨link, there, phase⟩ := Option.map_eq_some_iff.mp waits
  exact ⟨link, there, phase, authentication_goes_on answering_reached there (Or.inr phase)⟩

/-! ## Packets before the interfaces -/

/-- Without an interface, a frame that could hold an ARP packet ends the process or its
loop. -/
theorem reads_packet_bare {process : Process} {now : Int} {sr : SrInstance}
    {packet : VnsPacket} {bytes : Str} {turn : Process.Turn} (bare : sr.ifList = [])
    (long : 42 ≤ packet.ethernetFrame.length)
    (wired : wireBytes (packetMessageOf packet) = some bytes)
    (turned : process.reads now .running sr bytes = some turn) : turn.phase.expectedCmd = none := by
  have packed : (packetMessageOf packet).pack = some packet.pack := rfl
  have length : packet.pack.length = 16 + packet.ethernetFrame.length := by
    rw [VnsPacket.pack, List.length_append, StructPack.packS_length, VnsPacket.headerSize]
  rcases Nat.lt_or_ge 9992 packet.pack.length with tooLong | short
  · rw [reads_long rfl wired packed tooLong] at turned
    rw [← Option.some.inj turned]
    rfl
  · have read := @reads_short process now .running sr 0 _ bytes packet.pack rfl wired packed short
    rw [if_neg fun unexpected => unexpected.1 rfl] at read
    have command := framed_command vnsPacket packet.pack short
    have frame : (packetCall process.toHost.memory
        (framed vnsPacket packet.pack short).dispatched.buf
        (framed vnsPacket packet.pack short).dispatched.len).packet.length =
          packet.ethernetFrame.length := by
      have size : (framed vnsPacket packet.pack short).dispatched.len =
          ((24 + packet.ethernetFrame.length : Nat) : Int) := by
        show ((ltMessage vnsPacket packet.pack).length : Int) = _
        rw [ltMessage_length, length, ← Nat.add_assoc]
      rw [packetCall, Bytes.read_length, size]
      exact toNat_frameLength (by omega)
    have died := @commandSwitch_packet_bare process.toHost _ (sr.atTime now) command bare
      (by rw [frame]; exact long)
    rw [show commandSwitch process.toHost
      (framed (packetMessageOf packet).getType packet.pack short).dispatched (sr.atTime now) = _
        from died] at read
    rw [← Option.some.inj (read.symm.trans turned)]
    rfl

/-- A process that still runs got the hardware information before every frame that could hold
an ARP packet, and without it knows no interface. -/
structure Informed (link : Link) : Prop where
  bare : (∀ message ∈ link.toRouter.taken, message.getType ≠ vnsHwinfo) → link.sr.ifList = []
  spared : link.phase.expectedCmd ≠ none → ∀ earlier packet later,
    link.toRouter.taken = earlier ++ packetMessageOf packet :: later →
      42 ≤ packet.ethernetFrame.length → ∃ message ∈ earlier, message.getType = vnsHwinfo

theorem reads_packet_connecting {process : Process} {now : Int} {phase : Phase}
    {sr : SrInstance} {packet : VnsPacket} {bytes : Str} {turn : Process.Turn}
    (connecting : phase ≠ .running) (wired : wireBytes (packetMessageOf packet) = some bytes)
    (turned : process.reads now phase sr bytes = some turn) : turn.phase.expectedCmd = none := by
  have type : (packetMessageOf packet).getType = vnsPacket := rfl
  have fails : ∀ {expectedCmd : UInt32}, phase.expectedCmd = some expectedCmd →
      expectedCmd ≠ 0 → vnsPacket ≠ expectedCmd → turn = process.refuses now phase sr := by
    intro expectedCmd expects strict other
    rw [reads_other expects strict (.packet packet) (type ▸ other) wired] at turned
    exact (Option.some.inj turned).symm
  cases phase with
  | authRequest => rw [fails rfl (by decide) (by decide)]; rfl
  | authStatus => rw [fails rfl (by decide) (by decide)]; rfl
  | rtable => rw [fails rfl (by decide) (by decide)]; rfl
  | running => exact absurd rfl connecting
  | connectFailed => cases turned
  | loopEnded => cases turned
  | died fault => cases turned

theorem informed_init (process : Process) (routingTable : List SrRt) (now : Int) :
    Informed (Link.init process routingTable now) where
  bare := fun _ => rfl
  spared := by
    rintro - earlier packet later impossible
    exact absurd impossible (by simp [Link.init, Fifo.empty])

theorem Informed.reads (informed : Informed link) {requested : List UInt32}
    (session : Session requested link) {message : LtMessage}
    {toRouter : Fifo LtMessage} {bytes : Str} {now : Int} {turn : Process.Turn}
    (took : link.toRouter.take = some (message, toRouter))
    (wired : wireBytes message = some bytes)
    (turned : link.process.reads now link.phase link.sr bytes = some turn) :
    Informed
      { link with
        phase := turn.phase
        sr := turn.sr
        toRouter := toRouter
        toServer := link.toServer.sendAll turn.written } := by
  have taken := Fifo.taken_take took
  obtain ⟨opening, messages, stage, -, -⟩ := session.opening
  have kept := (session.proceeds took wired turned stage).2
  refine { bare := fun none_ => ?_, spared := fun alive earlier packet later whole long => ?_ }
  · rw [taken] at none_
    rw [kept (none_ message (by simp))]
    exact informed.bare fun other member => none_ other (List.mem_append_left _ member)
  · rw [taken] at whole
    rcases List.eq_nil_or_concat later with rfl | ⟨before, last, rfl⟩
    · obtain ⟨rfl, same⟩ := List.append_inj' whole rfl
      cases same
      by_contra uninformed
      have bare := informed.bare fun other member same =>
        uninformed ⟨other, member, same⟩
      by_cases running : link.phase = .running
      · rw [running] at turned
        exact alive (reads_packet_bare bare long wired turned)
      · exact alive (reads_packet_connecting running wired turned)
    · have inner : link.toRouter.taken = earlier ++ packetMessageOf packet :: before := by
        rw [List.concat_eq_append, ← List.cons_append, ← List.append_assoc] at whole
        exact (List.append_inj' whole rfl).1
      refine informed.spared (fun ended => ?_) earlier packet before inner long
      rw [Process.reads, ended] at turned
      cases turned

theorem Informed.timesOut (informed : Informed link) (now : Int)
    (running : link.phase = .running) :
    Informed
      { link with
        phase := (link.process.timesOut now link.sr).phase
        sr := (link.process.timesOut now link.sr).sr
        toServer := link.toServer.sendAll (link.process.timesOut now link.sr).written } where
  bare := by
    intro none_
    rw [(@loopTurn_timesOut link.process now link.sr).2]
    exact informed.bare none_
  spared := fun _ => informed.spared (by rw [running]; exact nofun)

theorem Informed.still (informed : Informed link) {after : Link} (same : Still link after) :
    Informed after where
  bare := by
    rw [same.taken, same.sr]
    exact informed.bare
  spared := by
    rw [same.taken, same.phase]
    exact informed.spared

structure InformedNet (net : Net) : Prop where
  sessions : Sessions net
  informed : ∀ (conn : Conn) (link : Link), net.links[conn]? = some link → Informed link

theorem InformedNet.step {net next : Net} {event : NetEvent} (informedNet : InformedNet net)
    (taken : net.step event = some next) : InformedNet next where
  sessions := informedNet.sessions.step taken
  informed := by
    intro conn after there
    rcases links_step informedNet.sessions.wellFormed taken there with
      ⟨process, routingTable, now, rfl⟩ | ⟨link, was, step⟩
    · exact informed_init process routingTable now
    · have informed := informedNet.informed conn link was
      cases step with
      | still same => exact informed.still same
      | reads took wired turned =>
          exact informed.reads (informedNet.sessions.session conn link was) took wired turned
      | timesOut now running => exact informed.timesOut now running

/-- A process that took a packet whose frame is at least as long as an ARP packet, and not
the hardware information before it, has given up, left its loop or died. -/
theorem ends_of_packet_before_hardwareInfo (reached : run Net.step .init events = some net)
    (there : net.links[conn]? = some link) {earlier later : List LtMessage} {packet : VnsPacket}
    (took : link.toRouter.taken = earlier ++ packetMessageOf packet :: later)
    (long : 42 ≤ packet.ethernetFrame.length)
    (uninformed : ∀ message ∈ earlier, message.getType ≠ vnsHwinfo) :
    link.phase.expectedCmd = none := by
  have informedNet : InformedNet net :=
    run_keeps (fun _ _ _ holds taken => holds.step taken) ⟨sessions_init, nofun⟩ reached
  by_contra alive
  obtain ⟨message, member, informed⟩ :=
    (informedNet.informed conn link there).spared alive earlier packet later took long
  exact uninformed message member informed

/-- An ARP request overtakes the hardware information. -/
def overtakes : List NetEvent :=
  [.requestAuth (List.replicate 20 0), .reads 0 100, .receive 0 [] true, .reads 0 100,
    .packetIn 1 whoHasRouter, .broadcastNext, .reads 0 100]

def overtaken : Net := runEnd Net.step connected overtakes

theorem overtaken_reached :
    run Net.step .init (switchConnects ++
      .connect keyedProcess [lanRoute, uplinkRoute] 100 :: overtakes) = some overtaken := by
  rw [run_append learned_reached, run, Net.step, connect_learned, Option.bind_some]
  exact run_eq_runEnd (by decide +kernel)

theorem overtaken_ends :
    ∃ link, overtaken.links[0]? = some link ∧ link.phase.Looped ∧
      link.phase.expectedCmd = none := by
  have took : overtaken.links[0]?.map (fun link =>
      (link.toRouter.taken.drop 2 = [packetMessageOf ⟨eth0.name, whoHasRouter⟩] ∧
        link.phase = .died (.assertion .iface) ∧
        ∀ message ∈ link.toRouter.taken.take 2, message.getType ≠ vnsHwinfo : Bool)) =
      some true := by
    decide +kernel
  obtain ⟨link, there, shape⟩ := Option.map_eq_some_iff.mp took
  obtain ⟨packet, phase, uninformed⟩ := of_decide_eq_true shape
  refine ⟨link, there, phase ▸ trivial, ?_⟩
  have whole : link.toRouter.taken = link.toRouter.taken.take 2 ++
      [packetMessageOf ⟨eth0.name, whoHasRouter⟩] := by
    rw [← packet, List.take_append_drop]
  exact ends_of_packet_before_hardwareInfo overtaken_reached there whole (by decide) uninformed

end Cmput313.Network
