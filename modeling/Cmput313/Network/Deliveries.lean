import Cmput313.Network.Net

/-!
# Packets on their way to the routers

Whatever the two threads and the processes do in between, a packet that the switch sends up
goes to every router once, in order.
-/

set_option autoImplicit false

namespace Cmput313.Network

open Cmput313.Machine Cmput313.Pox Cmput313.Router

def Net.packetsTo (net : Net) (conn : Conn) : List VnsPacket :=
  (net.links[conn]?.elim [] fun link => link.toRouter.sent).filterMap packet?

/-! ## Steps that send no packet -/

/-- The clients, the thread of the switches and the packets stay as they are. -/
structure Quiet (net next : Net) : Prop where
  srclients : next.listener.srclients = net.listener.srclients
  requesting : next.requesting = net.requesting
  length : next.links.length = net.links.length
  task : next.task = net.task
  packetsTo : ∀ conn, next.packetsTo conn = net.packetsTo conn

theorem Quiet.refl (net : Net) : Quiet net net := ⟨rfl, rfl, rfl, rfl, fun _ => rfl⟩

theorem Quiet.trans {first second third : Net} (early : Quiet first second)
    (late : Quiet second third) : Quiet first third where
  srclients := late.srclients.trans early.srclients
  requesting := late.requesting.trans early.requesting
  length := late.length.trans early.length
  task := late.task.trans early.task
  packetsTo := fun conn => (late.packetsTo conn).trans (early.packetsTo conn)

section Sends

variable {net : Net} {conn : Conn} {message : LtMessage}

@[simp] theorem listener_send (other : Conn) : (net.send other message).listener = net.listener := by
  rw [Net.send]
  split <;> rfl

@[simp] theorem requesting_send (other : Conn) :
    (net.send other message).requesting = net.requesting := by
  rw [Net.send]
  split <;> rfl

@[simp] theorem length_links_send (other : Conn) :
    (net.send other message).links.length = net.links.length := by
  rw [Net.send]
  split
  · exact List.length_modify ..
  · rfl

theorem packetsTo_send {other : Conn} (sendable : (wireBytes message).isSome)
    (accepted : other < net.links.length) :
    (net.send other message).packetsTo conn =
      net.packetsTo conn ++ if other = conn then (packet? message).toList else [] := by
  rw [Net.packetsTo, Net.packetsTo, Net.send, if_pos sendable]
  by_cases own : other = conn
  · subst own
    rw [List.getElem?_modify_eq, if_pos rfl, List.getElem?_eq_getElem accepted]
    cases found : packet? message <;> simp [List.filterMap_append, found]
  · rw [List.getElem?_modify_ne _ _ own, if_neg own, List.append_nil]

theorem quiet_send (other : Conn) (quiet : packet? message = none) :
    Quiet net (net.send other message) := by
  rw [Net.send]
  split
  · refine ⟨rfl, rfl, List.length_modify .., rfl, fun conn => ?_⟩
    rw [Net.packetsTo, Net.packetsTo, List.getElem?_modify]
    cases net.links[conn]? with
    | none => rfl
    | some link =>
        by_cases own : other = conn
        · simp [own, List.filterMap_append, quiet]
        · simp [own]
  · exact Quiet.refl net

theorem quiet_setLink {link changed : Link} (there : net.links[conn]? = some link)
    (same : changed.toRouter.sent = link.toRouter.sent) : Quiet net (net.setLink conn changed) := by
  refine ⟨rfl, rfl, List.length_set, rfl, fun other => ?_⟩
  rw [Net.packetsTo, Net.packetsTo, Net.setLink]
  by_cases own : conn = other
  · subst own
    obtain ⟨inside, -⟩ := List.getElem?_eq_some_iff.mp there
    rw [List.getElem?_set_self inside, there, Option.elim_some, Option.elim_some, same]
  · rw [List.getElem?_set_ne own]

/-- No handler of a message sends a packet. -/
def SendsNoPacket : Effect → Prop
  | .send _ message => packet? message = none
  | _ => True

theorem quiet_apply {source : Conn} {effect : Effect} (quiet : SendsNoPacket effect) :
    Quiet net (net.apply source effect) := by
  cases effect with
  | send other message => exact quiet_send other quiet
  | sendText other text => exact Quiet.refl net
  | loseConnection other => exact ⟨rfl, rfl, rfl, rfl, fun _ => rfl⟩
  | packetOut pkt port => exact ⟨rfl, rfl, rfl, rfl, fun _ => rfl⟩

theorem quiet_lose (conn : Conn) : Quiet net (net.lose conn) := ⟨rfl, rfl, rfl, rfl, fun _ => rfl⟩

theorem quiet_applyAll {source : Conn} {effects : List Effect}
    (quiet : ∀ effect ∈ effects, SendsNoPacket effect) :
    Quiet net (net.applyAll source effects) := by
  induction effects generalizing net with
  | nil => exact Quiet.refl net
  | cons effect rest inductionHypothesis =>
      exact (quiet_apply (quiet effect (List.mem_cons_self ..))).trans
        (inductionHypothesis fun other member => quiet other (List.mem_cons_of_mem _ member))

theorem handleRecvMsg_sendsNoPacket (listener : SrServerListener) (connText : Str)
    (received : Option Pox.VnsMessage) :
    ∀ effect ∈ (listener.handleRecvMsg conn connText received).effects, SendsNoPacket effect := by
  have closes : ∀ effect ∈ (SrServerListener.handleCloseMsg conn).effects,
      SendsNoPacket effect := by
    simp [SrServerListener.handleCloseMsg, SendsNoPacket]
  cases received with
  | none => exact closes
  | some message =>
      cases message with
      | vnsClose message => exact closes
      | vnsAuthReply message =>
          simp [SrServerListener.handleRecvMsg, SrServerListener.handleAuthReply, SendsNoPacket,
            packet?]
      | vnsOpen message =>
          rw [SrServerListener.handleRecvMsg, SrServerListener.handleOpenMsg]
          cases listener.interfaces <;> simp [SendsNoPacket, packet?]
      | vnsPacket packet =>
          rw [SrServerListener.handleRecvMsg, SrServerListener.handlePacketMsg]
          cases listener.intfnameToPort packet.intfName <;> simp [SendsNoPacket]
      | vnsBanner message => simp [SrServerListener.handleRecvMsg]
      | vnsRtable message => simp [SrServerListener.handleRecvMsg]
      | vnsOpenTemplate message => simp [SrServerListener.handleRecvMsg]
      | vnsAuthRequest message => simp [SrServerListener.handleRecvMsg]
      | vnsAuthStatus message => simp [SrServerListener.handleRecvMsg]

end Sends

/-! ## Steps of either thread -/

/-- The clients are the connections, in order, and what is broadcast can be packed. -/
structure WellFormed (net : Net) : Prop where
  srclients : net.listener.srclients = List.range net.links.length
  requesting : ∀ conn, net.requesting = some conn → conn < net.links.length
  broadcasting : ∀ packet next, net.task = .broadcasting packet next →
    next ≤ net.links.length ∧ packet.ethernetFrame.length ≤ 65535

theorem wellFormed_init : WellFormed .init where
  srclients := rfl
  requesting := nofun
  broadcasting := nofun

theorem WellFormed.quiet {net next : Net} (wellFormed : WellFormed net) (quiet : Quiet net next) :
    WellFormed next where
  srclients := by rw [quiet.srclients, quiet.length, wellFormed.srclients]
  requesting := by
    rw [quiet.requesting, quiet.length]
    exact wellFormed.requesting
  broadcasting := by
    rw [quiet.task, quiet.length]
    exact wellFormed.broadcasting

theorem wireBytes_packet {packet : VnsPacket} (short : packet.ethernetFrame.length ≤ 65535) :
    (wireBytes (packetMessageOf packet)).isSome := by
  have length : 8 + packet.pack.length < 2 ^ 32 := by
    rw [VnsPacket.pack, List.length_append, StructPack.packS_length, VnsPacket.headerSize]
    omega
  have bytes : wireBytes (packetMessageOf packet) =
      if 8 + packet.pack.length < 2 ^ 32 then some (ltMessage VnsPacket.getType packet.pack)
      else none := rfl
  rw [bytes, if_pos length]
  rfl

theorem quiet_reads {net next : Net} {conn : Conn} {now : Int}
    (taken : net.reads conn now = some next) : Quiet net next := by
  obtain ⟨link, message, toRouter, bytes, turn, there, -, took, -, -, rfl⟩ := reads_cases taken
  exact quiet_setLink there (Fifo.sent_take took)

theorem quiet_timesOut {net next : Net} {conn : Conn} {now : Int}
    (taken : net.timesOut conn now = some next) : Quiet net next := by
  obtain ⟨link, there, -, rfl⟩ := timesOut_cases taken
  exact quiet_setLink there rfl

theorem Received.quiet {net handled next : Net} {conn : Conn} {connText bytes : Str}
    {drops : Bool} {link : Link} {toServer : Fifo Str}
    (received : Received net conn connText drops link bytes toServer handled next) :
    Quiet net handled ∧ Quiet handled next := by
  have moved : Quiet net (net.setLink conn { link with toServer := toServer }) :=
    quiet_setLink received.there rfl
  refine ⟨?_, ?_⟩
  · rw [received.handles]
    exact moved.trans (quiet_applyAll (handleRecvMsg_sendsNoPacket _ connText _))
  · rw [received.ends]
    split
    · exact quiet_lose conn
    · exact Quiet.refl handled

theorem quiet_receive {net next : Net} {conn : Conn} {connText : Str} {drops : Bool}
    (taken : net.receive conn connText drops = some next) : Quiet net next := by
  obtain ⟨link, bytes, toServer, handled, received⟩ := receive_cases taken
  exact received.quiet.1.trans received.quiet.2

theorem quiet_disconnected {net next : Net} {conn : Conn}
    (taken : net.disconnected conn = some next) : Quiet net next := by
  obtain ⟨-, -, -, rfl⟩ := disconnected_cases taken
  exact quiet_lose conn

theorem quiet_requestAuth {net next : Net} {salt : Str}
    (taken : net.requestAuth salt = some next) :
    Quiet { net with requesting := none } next := by
  obtain ⟨-, conn, -, rfl⟩ := requestAuth_cases taken
  exact quiet_send conn rfl

theorem packetIn_cases {net next : Net} {port : Nat} {pkt : Str}
    (taken : net.packetIn port pkt = some next) :
    net.task = .idle ∧ (net.listener.srPacketIn port pkt = none ∧ next = net ∨
      ∃ packet, net.listener.srPacketIn port pkt = some packet ∧
        packet.ethernetFrame.length ≤ 65535 ∧
        next = { net with task := .broadcasting packet 0 }) := by
  rw [Net.packetIn] at taken
  split at taken
  · next idle =>
      rw [Option.ite_none_right_eq_some] at taken
      obtain ⟨short, taken⟩ := taken
      refine ⟨idle, ?_⟩
      cases known : net.listener.srPacketIn port pkt with
      | none =>
          rw [known] at taken
          exact Or.inl ⟨rfl, (Option.some.inj taken).symm⟩
      | some packet =>
          rw [known] at taken
          obtain ⟨intfname, -, rfl⟩ := Option.map_eq_some_iff.mp known
          exact Or.inr ⟨_, rfl, short, (Option.some.inj taken).symm⟩
  · cases taken

theorem broadcastNext_cases {net next : Net} (wellFormed : WellFormed net)
    (taken : net.broadcastNext = some next) :
    ∃ packet number, net.task = .broadcasting packet number ∧
      (number < net.links.length ∧
          next = { net.send number (packetMessageOf packet) with
            task := .broadcasting packet (number + 1) } ∨
        number = net.links.length ∧ next = { net with task := .idle }) := by
  rw [Net.broadcastNext] at taken
  split at taken
  · next packet number current =>
      have bound := (wellFormed.broadcasting packet number current).1
      refine ⟨packet, number, current, ?_⟩
      rw [wellFormed.srclients] at taken
      by_cases more : number < net.links.length
      · rw [List.getElem?_range more] at taken
        exact Or.inl ⟨more, (Option.some.inj taken).symm⟩
      · rw [List.getElem?_eq_none (by rw [List.length_range]; omega)] at taken
        exact Or.inr ⟨by omega, (Option.some.inj taken).symm⟩
  · cases taken

theorem learnNext_cases {net next : Net} (taken : net.learnNext = some next) :
    (∃ rest interfaces, net.task = .learning rest interfaces) ∧
      (∀ packet number, next.task ≠ .broadcasting packet number) ∧
      next.links = net.links ∧ next.requesting = net.requesting ∧
      next.listener.srclients = net.listener.srclients ∧ next.endings = net.endings ∧
      next.packetOuts = net.packetOuts := by
  rw [Net.learnNext] at taken
  split at taken
  · next interfaces current =>
      cases taken
      exact ⟨⟨_, _, current⟩, nofun, rfl, rfl, rfl, rfl, rfl⟩
  · next intf info rest interfaces current =>
      split at taken
      · next interface listener learned =>
          cases taken
          obtain ⟨ip, -, learned⟩ := Option.bind_eq_some_iff.mp learned
          obtain ⟨mac, -, learned⟩ := Option.bind_eq_some_iff.mp learned
          obtain ⟨mask, -, learned⟩ := Option.bind_eq_some_iff.mp learned
          obtain ⟨built, -, learned⟩ := Option.bind_eq_some_iff.mp learned
          cases learned
          exact ⟨⟨_, _, current⟩, nofun, rfl, rfl, rfl, rfl, rfl⟩
      · cases taken
        exact ⟨⟨_, _, current⟩, nofun, rfl, rfl, rfl, rfl, rfl⟩
  · cases taken

theorem WellFormed.step {net next : Net} {event : NetEvent} (wellFormed : WellFormed net)
    (taken : net.step event = some next) : WellFormed next := by
  cases event with
  | connect process routingTable now =>
      obtain ⟨-, rfl⟩ := connect_cases taken
      exact
        { srclients := by
            rw [List.length_append, List.length_singleton, List.range_succ, ← wellFormed.srclients]
            rfl
          requesting := by
            rintro conn requested
            rw [List.length_append, List.length_singleton, ← Option.some.inj requested]
            exact Nat.lt_succ_self _
          broadcasting := by
            intro packet number current
            obtain ⟨bound, short⟩ := wellFormed.broadcasting packet number current
            rw [List.length_append, List.length_singleton]
            exact ⟨Nat.le_succ_of_le bound, short⟩ }
  | requestAuth salt =>
      have fewer : WellFormed { net with requesting := none } :=
        { wellFormed with requesting := nofun }
      exact fewer.quiet (quiet_requestAuth taken)
  | receive conn connText drops => exact wellFormed.quiet (quiet_receive taken)
  | disconnected conn => exact wellFormed.quiet (quiet_disconnected taken)
  | packetIn port pkt =>
      obtain ⟨-, ⟨-, rfl⟩ | ⟨packet, -, short, rfl⟩⟩ := packetIn_cases taken
      · exact wellFormed
      · exact { wellFormed with
          broadcasting := by
            rintro _ _ ⟨⟩
            exact ⟨Nat.zero_le _, short⟩ }
  | broadcastNext =>
      obtain ⟨packet, number, current, ⟨more, rfl⟩ | ⟨-, rfl⟩⟩ :=
        broadcastNext_cases wellFormed taken
      · exact
          { srclients := by simpa using wellFormed.srclients
            requesting := by simpa using wellFormed.requesting
            broadcasting := by
              rintro _ _ ⟨⟩
              rw [length_links_send]
              exact ⟨more, (wellFormed.broadcasting packet number current).2⟩ }
      · exact { wellFormed with broadcasting := nofun }
  | routerInfo info =>
      obtain ⟨-, rfl⟩ := routerInfo_cases taken
      exact { wellFormed with broadcasting := nofun }
  | learnNext =>
      obtain ⟨-, other, links, requesting, srclients, -, -⟩ := learnNext_cases taken
      exact
        { srclients := by rw [srclients, links, wellFormed.srclients]
          requesting := by rw [requesting, links]; exact wellFormed.requesting
          broadcasting := fun packet number current => absurd current (other packet number) }
  | reads conn now => exact wellFormed.quiet (quiet_reads taken)
  | timesOut conn now => exact wellFormed.quiet (quiet_timesOut taken)

/-! ## What comes in -/

/-- The packet of an event of the switch, for a port that has a name. -/
def Net.heardIn (net : Net) : NetEvent → List VnsPacket
  | .packetIn port pkt => (net.listener.srPacketIn port pkt).toList
  | _ => []

def Net.heard : Net → List NetEvent → List VnsPacket
  | _, [] => []
  | net, event :: rest =>
      net.heardIn event ++ (net.step event).elim [] fun next => next.heard rest

/-- The packet that is on its way to the clients. -/
def Net.underWay (net : Net) : List VnsPacket :=
  match net.task with
  | .broadcasting packet _ => [packet]
  | _ => []

/-- All packets were sent to a client, but perhaps not the last one, of which its turn has
not come. -/
def Reached (conn : Conn) (task : Task) (packets sent : List VnsPacket) : Prop :=
  match task with
  | .broadcasting packet number => ∃ earlier, packets = earlier ++ [packet] ∧
      sent = if conn < number then packets else earlier
  | _ => sent = packets

theorem reached_of_idle {conn : Conn} {task : Task} {packets sent : List VnsPacket}
    (other : ∀ packet number, task ≠ .broadcasting packet number) :
    Reached conn task packets sent ↔ sent = packets := by
  cases task with
  | broadcasting packet number => exact absurd rfl (other packet number)
  | idle => exact Iff.rfl
  | learning rest interfaces => exact Iff.rfl

theorem Reached.step {net next : Net} {event : NetEvent} {conn : Conn}
    {packets : List VnsPacket} (wellFormed : WellFormed net) (accepted : conn < net.links.length)
    (reached : Reached conn net.task packets (net.packetsTo conn))
    (taken : net.step event = some next) :
    Reached conn next.task (packets ++ net.heardIn event) (next.packetsTo conn) := by
  have quietly : ∀ other : Net, Quiet { net with requesting := other.requesting } next →
      Reached conn next.task (packets ++ []) (next.packetsTo conn) := by
    intro other quiet
    rw [quiet.task, quiet.packetsTo, List.append_nil]
    exact reached
  cases event with
  | connect process routingTable now =>
      obtain ⟨-, rfl⟩ := connect_cases taken
      simp only [Net.heardIn, List.append_nil]
      have same : Net.packetsTo
          { net with links := net.links ++ [Link.init process routingTable now] } conn =
            net.packetsTo conn := by
        rw [Net.packetsTo, Net.packetsTo, List.getElem?_append_left accepted]
      exact same ▸ reached
  | requestAuth salt => exact quietly { net with requesting := none } (quiet_requestAuth taken)
  | receive conn connText drops => exact quietly net (quiet_receive taken)
  | disconnected conn => exact quietly net (quiet_disconnected taken)
  | packetIn port pkt =>
      obtain ⟨idle, ⟨unknown, rfl⟩ | ⟨packet, known, -, rfl⟩⟩ := packetIn_cases taken
      · rw [Net.heardIn, unknown, Option.toList_none, List.append_nil]
        exact reached
      · rw [idle] at reached
        rw [Net.heardIn, known]
        refine ⟨packets, rfl, ?_⟩
        rw [if_neg (Nat.not_lt_zero _)]
        exact reached
  | broadcastNext =>
      simp only [Net.heardIn, List.append_nil]
      obtain ⟨packet, number, current, ⟨more, rfl⟩ | ⟨all, rfl⟩⟩ :=
        broadcastNext_cases wellFormed taken
      · rw [current] at reached
        obtain ⟨earlier, rfl, sent⟩ := reached
        have short := (wellFormed.broadcasting packet number current).2
        have now : Net.packetsTo { net.send number (packetMessageOf packet) with
            task := .broadcasting packet (number + 1) } conn =
              net.packetsTo conn ++ if number = conn then [packet] else [] :=
          packetsTo_send (wireBytes_packet short) more
        refine ⟨earlier, rfl, ?_⟩
        rw [now, sent]
        rcases Nat.lt_trichotomy conn number with before | rfl | behind
        · have other : number ≠ conn := Nat.ne_of_gt before
          rw [if_pos before, if_neg other, if_pos (Nat.lt_succ_of_lt before), List.append_nil]
        · rw [if_neg (Nat.lt_irrefl _), if_pos rfl, if_pos (Nat.lt_succ_self _)]
        · have other : number ≠ conn := Nat.ne_of_lt behind
          have early : ¬ conn < number + 1 := Nat.not_lt.mpr behind
          rw [if_neg (Nat.lt_asymm behind), if_neg other, if_neg early, List.append_nil]
      · rw [current] at reached
        obtain ⟨earlier, rfl, sent⟩ := reached
        rw [if_pos (all ▸ accepted)] at sent
        exact sent
  | routerInfo info =>
      obtain ⟨idle, rfl⟩ := routerInfo_cases taken
      rw [idle] at reached
      simp only [Net.heardIn, List.append_nil]
      exact reached
  | learnNext =>
      obtain ⟨⟨rest, interfaces, current⟩, other, links, -, -, -, -⟩ := learnNext_cases taken
      have same : next.packetsTo conn = net.packetsTo conn := by
        rw [Net.packetsTo, Net.packetsTo, links]
      rw [current] at reached
      simp only [Net.heardIn, List.append_nil, reached_of_idle other, same]
      exact reached
  | reads conn now => exact quietly net (quiet_reads taken)
  | timesOut conn now => exact quietly net (quiet_timesOut taken)

theorem length_links_step {net next : Net} {event : NetEvent} (wellFormed : WellFormed net)
    (taken : net.step event = some next) : net.links.length ≤ next.links.length := by
  cases event with
  | connect process routingTable now =>
      obtain ⟨-, rfl⟩ := connect_cases taken
      rw [List.length_append]
      exact Nat.le_add_right _ _
  | requestAuth salt => exact Nat.le_of_eq (quiet_requestAuth taken).length.symm
  | receive conn connText drops => exact Nat.le_of_eq (quiet_receive taken).length.symm
  | disconnected conn => exact Nat.le_of_eq (quiet_disconnected taken).length.symm
  | packetIn port pkt =>
      obtain ⟨-, ⟨-, rfl⟩ | ⟨packet, -, -, rfl⟩⟩ := packetIn_cases taken <;> exact Nat.le_refl _
  | broadcastNext =>
      obtain ⟨packet, number, -, ⟨-, rfl⟩ | ⟨-, rfl⟩⟩ := broadcastNext_cases wellFormed taken
      · exact Nat.le_of_eq (length_links_send number).symm
      · exact Nat.le_refl _
  | routerInfo info =>
      obtain ⟨-, rfl⟩ := routerInfo_cases taken
      exact Nat.le_refl _
  | learnNext =>
      obtain ⟨-, -, links, -, -, -, -⟩ := learnNext_cases taken
      exact Nat.le_of_eq (congrArg List.length links).symm
  | reads conn now => exact Nat.le_of_eq (quiet_reads taken).length.symm
  | timesOut conn now => exact Nat.le_of_eq (quiet_timesOut taken).length.symm

theorem Reached.run {events : List NetEvent} {conn : Conn} :
    ∀ {net last : Net} {packets : List VnsPacket}, WellFormed net → conn < net.links.length →
      Reached conn net.task packets (net.packetsTo conn) → run Net.step net events = some last →
      Reached conn last.task (packets ++ net.heard events) (last.packetsTo conn) := by
  induction events with
  | nil =>
      intro net last packets _ _ reached ended
      cases ended
      rw [Net.heard, List.append_nil]
      exact reached
  | cons event rest inductionHypothesis =>
      intro net last packets wellFormed accepted reached ended
      obtain ⟨next, taken, later⟩ := Option.bind_eq_some_iff.mp ended
      rw [Net.heard, taken, Option.elim_some, ← List.append_assoc]
      exact inductionHypothesis (wellFormed.step taken)
        (Nat.lt_of_lt_of_le accepted (length_links_step wellFormed taken))
        (reached.step wellFormed accepted taken) later

theorem Reached.isPrefix {conn : Conn} {task : Task} {packets sent : List VnsPacket}
    (reached : Reached conn task packets sent) : sent <+: packets := by
  cases task with
  | broadcasting packet number =>
      obtain ⟨earlier, rfl, rfl⟩ := reached
      split
      · exact List.prefix_rfl
      · exact List.prefix_append _ _
  | idle => exact reached ▸ List.prefix_rfl
  | learning rest interfaces => exact reached ▸ List.prefix_rfl

/-- A client that connects is sent the packet that is under way and those that come in later,
each once and in their order: all of them, but perhaps the last one while it is broadcast.
In this order its process takes them. -/
theorem packets_reach_client {before after : List NetEvent} {process : Process}
    {routingTable : List SrRt} {now : Int} {accepting accepted last : Net}
    (starts : run Net.step .init before = some accepting)
    (connects : accepting.connect process routingTable now = some accepted)
    (goes : run Net.step accepted after = some last) :
    Reached accepting.links.length last.task (accepting.underWay ++ accepted.heard after)
        (last.packetsTo accepting.links.length) ∧
      ∀ link, last.links[accepting.links.length]? = some link →
        link.toRouter.taken.filterMap packet? <+: accepting.underWay ++ accepted.heard after := by
  suffices reached : Reached accepting.links.length last.task
      (accepting.underWay ++ accepted.heard after) (last.packetsTo accepting.links.length) by
    refine ⟨reached, fun link there => ?_⟩
    have sent : last.packetsTo accepting.links.length =
        link.toRouter.sent.filterMap packet? := by
      rw [Net.packetsTo, there, Option.elim_some]
    have taken := (@Fifo.taken_prefix_sent _ link.toRouter).filterMap packet?
    exact taken.trans (sent ▸ reached.isPrefix)
  have wellFormed : WellFormed accepting :=
    run_keeps (fun _ _ _ holds taken => holds.step taken) wellFormed_init starts
  have later : WellFormed accepted :=
    @WellFormed.step _ _ (.connect process routingTable now) wellFormed connects
  rw [Net.connect, Option.ite_none_right_eq_some] at connects
  cases connects.2
  refine Reached.run later ?_ ?_ goes
  · rw [List.length_append]
    exact Nat.lt_succ_self _
  · have unsent : Net.packetsTo { accepting with
        links := accepting.links ++ [Link.init process routingTable now] }
          accepting.links.length = [] := by
      rw [Net.packetsTo, List.getElem?_concat_length]
      rfl
    have start : Reached accepting.links.length accepting.task accepting.underWay [] := by
      rw [Net.underWay]
      split
      · next packet number current =>
          have bound := (wellFormed.broadcasting packet number current).1
          rw [current]
          exact ⟨[], rfl, (if_neg (Nat.not_lt.mpr bound)).symm⟩
      · next other => exact (reached_of_idle other).mpr rfl
    exact unsent ▸ start

theorem early_frame_reaches_keyless :
    Reached 0 (runEnd Net.step keylessNet earlyFrame).task (keylessNet.heard earlyFrame)
        ((runEnd Net.step keylessNet earlyFrame).packetsTo 0) ∧
      ∀ link, (runEnd Net.step keylessNet earlyFrame).links[0]? = some link →
        link.toRouter.taken.filterMap packet? <+: keylessNet.heard earlyFrame :=
  @packets_reach_client [] earlyFrame keyless [] 0 .init keylessNet _ rfl connect_keylessNet
    (run_eq_runEnd (by decide))

end Cmput313.Network
