import Cmput313.Network.Sessions

/-!
# Packets on their way to the switch

What the frames of a router become, as long as the server learns no interface.
-/

set_option autoImplicit false

namespace Cmput313.Network

open Cmput313.Machine Cmput313.Pox Cmput313.Router

/-! ## What a message is to the switch -/

def outOf (intfnameToPort : Str → Option Nat) (bytes : Str) : Option (Str × Nat) :=
  match decode bytes with
  | some (.vnsPacket packet) =>
      (intfnameToPort packet.intfName).map fun port => (packet.ethernetFrame, port)
  | _ => none

def Net.outsOf (net : Net) (conn : Conn) : List (Str × Nat) :=
  (net.packetOuts.filter fun out => out.1 = conn).map Prod.snd

theorem outs_handleRecvMsg (listener : SrServerListener) (conn : Conn) (connText bytes : Str) :
    (listener.handleRecvMsg conn connText (decode bytes)).effects.filterMap Effect.out? =
      (outOf listener.intfnameToPort bytes).toList := by
  rw [outOf]
  cases decode bytes with
  | none => rfl
  | some message =>
      cases message with
      | vnsPacket packet =>
          rw [SrServerListener.handleRecvMsg, SrServerListener.handlePacketMsg]
          cases known : listener.intfnameToPort packet.intfName <;> simp [known, Effect.out?]
      | vnsOpen message =>
          rw [SrServerListener.handleRecvMsg, SrServerListener.handleOpenMsg]
          cases listener.interfaces <;> rfl
      | vnsClose message => rfl
      | vnsBanner message => rfl
      | vnsRtable message => rfl
      | vnsOpenTemplate message => rfl
      | vnsAuthRequest message => rfl
      | vnsAuthReply message => rfl
      | vnsAuthStatus message => rfl

@[simp] theorem packetOuts_send (net : Net) (conn : Conn) (message : LtMessage) :
    (net.send conn message).packetOuts = net.packetOuts := by
  rw [Net.send]
  split <;> rfl

theorem packetOuts_applyAll (net : Net) (source : Conn) (effects : List Effect) :
    (net.applyAll source effects).packetOuts =
      net.packetOuts ++ (effects.filterMap Effect.out?).map fun out => (source, out) := by
  induction effects generalizing net with
  | nil => exact (List.append_nil _).symm
  | cons effect rest inductionHypothesis =>
      have first : (net.apply source effect).packetOuts =
          net.packetOuts ++ (effect.out?.toList).map fun out => (source, out) := by
        cases effect with
        | send conn message => exact (packetOuts_send net conn message).trans (List.append_nil _).symm
        | sendText conn text => exact (List.append_nil _).symm
        | loseConnection conn => exact (List.append_nil _).symm
        | packetOut pkt port => rfl
      rw [show net.applyAll source (effect :: rest) =
          (net.apply source effect).applyAll source rest from rfl, inductionHypothesis, first,
        List.append_assoc, List.filterMap_cons]
      cases effect.out? <;> rfl

@[simp] theorem listener_applyAll (net : Net) (source : Conn) (effects : List Effect) :
    (net.applyAll source effects).listener = net.listener := by
  induction effects generalizing net with
  | nil => rfl
  | cons effect rest inductionHypothesis =>
      refine (inductionHypothesis (net.apply source effect)).trans ?_
      cases effect with
      | send conn message => exact listener_send conn
      | sendText conn text => rfl
      | loseConnection conn => rfl
      | packetOut pkt port => rfl

/-! ## One step -/

/-- The server took these messages from a connection, and the switch got what they are to
it. -/
def Forwards (net next : Net) (conn : Conn) (link : Link) (received : List Str) : Prop :=
  ∃ after, next.links[conn]? = some after ∧
    after.toServer.taken = link.toServer.taken ++ received ∧
    next.outsOf conn = net.outsOf conn ++
      received.filterMap (outOf net.listener.intfnameToPort)

theorem outsOf_congr {net next : Net} (same : next.packetOuts = net.packetOuts) (conn : Conn) :
    next.outsOf conn = net.outsOf conn := by
  rw [Net.outsOf, Net.outsOf, same]

section Forwards

variable {net next : Net} {conn : Conn} {link : Link}

theorem forwards_nothing {after : Link} (there : next.links[conn]? = some after)
    (taken : after.toServer.taken = link.toServer.taken)
    (outs : next.packetOuts = net.packetOuts) : Forwards net next conn link [] := by
  refine ⟨after, there, ?_, ?_⟩
  · rw [taken, List.append_nil]
  · rw [outsOf_congr outs, List.filterMap_nil, List.append_nil]

theorem Mailed.exists_after (mailed : Mailed net next)
    (length : net.links.length ≤ next.links.length) (there : net.links[conn]? = some link) :
    ∃ after, next.links[conn]? = some after ∧ after.toServer = link.toServer := by
  obtain ⟨inside, -⟩ := List.getElem?_eq_some_iff.mp there
  have still := List.getElem?_eq_getElem (Nat.lt_of_lt_of_le inside length)
  obtain ⟨was, messages, before, same⟩ := mailed conn _ still
  cases Option.some.inj (there.symm.trans before)
  exact ⟨_, still, by rw [same]⟩

theorem Mailed.forwards (mailed : Mailed net next) (length : net.links.length ≤ next.links.length)
    (there : net.links[conn]? = some link) (outs : next.packetOuts = net.packetOuts) :
    Forwards net next conn link [] := by
  obtain ⟨after, found, same⟩ := mailed.exists_after length there
  exact forwards_nothing found (by rw [same]) outs

theorem forwards_setLink {source : Conn} {before turned : Link}
    (was : net.links[source]? = some before)
    (taken : turned.toServer.taken = before.toServer.taken)
    (there : net.links[conn]? = some link) :
    Forwards net (net.setLink source turned) conn link [] := by
  obtain ⟨inside, -⟩ := List.getElem?_eq_some_iff.mp was
  have found := @getElem?_links_setLink net source turned inside conn
  by_cases own : source = conn
  · subst own
    cases Option.some.inj (was.symm.trans there)
    rw [if_pos rfl] at found
    exact forwards_nothing found taken rfl
  · rw [if_neg own] at found
    exact forwards_nothing (found.trans there) rfl rfl

theorem Received.packetOuts {source : Conn} {connText bytes : Str} {drops : Bool} {before : Link}
    {toServer : Fifo Str} {handled : Net}
    (received : Received net source connText drops before bytes toServer handled next) :
    next.packetOuts = net.packetOuts ++ (outOf net.listener.intfnameToPort bytes).toList.map
      fun out => (source, out) := by
  have outs : handled.packetOuts = net.packetOuts ++
      (outOf net.listener.intfnameToPort bytes).toList.map fun out => (source, out) := by
    rw [received.handles, packetOuts_applyAll, outs_handleRecvMsg]
    rfl
  rw [received.ends, ← outs]
  split <;> rfl

theorem forwards_receive {source : Conn} {connText : Str} {drops : Bool}
    (there : net.links[conn]? = some link)
    (taken : net.receive source connText drops = some next) :
    ∃ received, Forwards net next conn link received ∧
      (net.isLost conn = true → received = []) := by
  obtain ⟨before, bytes, toServer, handled, received⟩ := receive_cases taken
  have was := received.there
  obtain ⟨inside, -⟩ := List.getElem?_eq_some_iff.mp was
  have base := @getElem?_links_setLink net source { before with toServer := toServer } inside conn
  have outs := received.packetOuts
  have mailed := received.mailed
  have length : (net.setLink source { before with toServer := toServer }).links.length ≤
      next.links.length := by
    rw [(quiet_receive taken).length]
    exact Nat.le_of_eq List.length_set
  by_cases own : source = conn
  · subst own
    cases Option.some.inj (was.symm.trans there)
    obtain ⟨after, found, same⟩ := mailed.exists_after length (base.trans (if_pos rfl))
    refine ⟨[bytes], ⟨after, found, same ▸ Fifo.taken_take received.took, ?_⟩, fun lost => ?_⟩
    · rw [Net.outsOf, outs, List.filter_append, List.map_append, Net.outsOf]
      cases known : outOf net.listener.intfnameToPort bytes <;> simp [known]
    · rw [received.open_] at lost
      cases lost
  · obtain ⟨after, found, same⟩ :=
      mailed.exists_after length (base.trans ((if_neg own).trans there))
    refine ⟨[], ⟨after, found, ?_, ?_⟩, fun _ => rfl⟩
    · rw [same, List.append_nil]
    · rw [Net.outsOf, outs, List.filter_append, List.map_append, Net.outsOf]
      cases outOf net.listener.intfnameToPort bytes <;> simp [own]

end Forwards

theorem forwards_step {net next : Net} {event : NetEvent} (wellFormed : WellFormed net)
    (taken : net.step event = some next) {conn : Conn} {link : Link}
    (there : net.links[conn]? = some link) :
    ∃ received, Forwards net next conn link received ∧
      (net.isLost conn = true → received = []) := by
  have length := length_links_step wellFormed taken
  suffices nothing : (∀ source connText drops, event ≠ .receive source connText drops) →
      Forwards net next conn link [] by
    cases event with
    | receive source connText drops => exact forwards_receive there taken
    | _ => exact ⟨[], nothing fun _ _ _ => NetEvent.noConfusion, fun _ => rfl⟩
  intro other
  cases event with
  | connect process routingTable now =>
      obtain ⟨-, rfl⟩ := connect_cases taken
      obtain ⟨inside, -⟩ := List.getElem?_eq_some_iff.mp there
      exact forwards_nothing ((List.getElem?_append_left inside).trans there) rfl rfl
  | requestAuth salt =>
      obtain ⟨-, source, -, rfl⟩ := requestAuth_cases taken
      have mailed : Mailed net (Net.send { net with requesting := none } source
          (.decodable (.vnsAuthRequest ⟨salt⟩))) :=
        mailed_send { net with requesting := none } source _
      exact mailed.forwards length there (packetOuts_send _ source _)
  | receive source connText drops => exact absurd rfl (other source connText drops)
  | disconnected source =>
      obtain ⟨-, -, -, rfl⟩ := disconnected_cases taken
      exact forwards_nothing there rfl rfl
  | packetIn port pkt =>
      obtain ⟨-, ⟨-, rfl⟩ | ⟨packet, -, -, rfl⟩⟩ := packetIn_cases taken
      · exact forwards_nothing there rfl rfl
      · exact forwards_nothing there rfl rfl
  | broadcastNext =>
      obtain ⟨packet, number, -, ⟨-, rfl⟩ | ⟨-, rfl⟩⟩ := broadcastNext_cases wellFormed taken
      · exact (mailed_send net number _).forwards length there (packetOuts_send net number _)
      · exact forwards_nothing there rfl rfl
  | routerInfo info =>
      obtain ⟨-, rfl⟩ := routerInfo_cases taken
      exact forwards_nothing there rfl rfl
  | learnNext =>
      obtain ⟨-, -, links, -, -, -, outs⟩ := learnNext_cases taken
      exact (mailed_of_links links).forwards length there outs
  | reads source now =>
      obtain ⟨before, message, toRouter, bytes, turn, was, -, -, -, -, rfl⟩ := reads_cases taken
      exact forwards_setLink was rfl there
  | timesOut source now =>
      obtain ⟨before, was, -, rfl⟩ := timesOut_cases taken
      exact forwards_setLink was rfl there

/-! ## Runs -/

/-- Only the end of the loop's body over an interface changes the ports. -/
theorem ports_step {net next : Net} {event : NetEvent} (wellFormed : WellFormed net)
    (other : event ≠ .learnNext) (taken : net.step event = some next) :
    next.listener.intfnameToPort = net.listener.intfnameToPort := by
  cases event with
  | connect process routingTable now =>
      obtain ⟨-, rfl⟩ := connect_cases taken
      rfl
  | requestAuth salt =>
      obtain ⟨-, source, -, rfl⟩ := requestAuth_cases taken
      exact congrArg SrServerListener.intfnameToPort (listener_send source)
  | receive source connText drops =>
      obtain ⟨before, bytes, toServer, handled, received⟩ := receive_cases taken
      have same : handled.listener = net.listener := by
        rw [received.handles]
        exact listener_applyAll _ source _
      rw [← same, received.ends]
      split <;> rfl
  | disconnected source =>
      obtain ⟨-, -, -, rfl⟩ := disconnected_cases taken
      rfl
  | packetIn port pkt =>
      obtain ⟨-, ⟨-, rfl⟩ | ⟨packet, -, -, rfl⟩⟩ := packetIn_cases taken <;> rfl
  | broadcastNext =>
      obtain ⟨packet, number, -, ⟨-, rfl⟩ | ⟨-, rfl⟩⟩ := broadcastNext_cases wellFormed taken
      · exact congrArg SrServerListener.intfnameToPort (listener_send number)
      · rfl
  | routerInfo info =>
      obtain ⟨-, rfl⟩ := routerInfo_cases taken
      rfl
  | learnNext => exact absurd rfl other
  | reads source now =>
      obtain ⟨link, message, toRouter, bytes, turn, -, -, -, -, -, rfl⟩ := reads_cases taken
      rfl
  | timesOut source now =>
      obtain ⟨link, -, -, rfl⟩ := timesOut_cases taken
      rfl

/-- As long as no interface is learned, the switch gets of a connection what the server takes
from it. -/
theorem forwards_run {events : List NetEvent} {conn : Conn} :
    ∀ {net last : Net} {link : Link}, WellFormed net → net.links[conn]? = some link →
      (∀ event ∈ events, event ≠ .learnNext) → run Net.step net events = some last →
      ∃ received, Forwards net last conn link received := by
  induction events with
  | nil =>
      intro net last link _ there _ ended
      cases ended
      exact ⟨[], forwards_nothing there rfl rfl⟩
  | cons event rest inductionHypothesis =>
      intro net last link wellFormed there settled ended
      obtain ⟨next, taken, later⟩ := Option.bind_eq_some_iff.mp ended
      obtain ⟨early, ⟨middle, between, middleTaken, middleOuts⟩, -⟩ :=
        forwards_step wellFormed taken there
      obtain ⟨late, after, found, afterTaken, afterOuts⟩ :=
        inductionHypothesis (wellFormed.step taken) between
          (fun other member => settled other (List.mem_cons_of_mem _ member)) later
      have ports := ports_step wellFormed (settled event (List.mem_cons_self ..)) taken
      refine ⟨early ++ late, after, found, ?_, ?_⟩
      · rw [afterTaken, middleTaken, List.append_assoc]
      · rw [afterOuts, middleOuts, ports, List.filterMap_append, List.append_assoc]

/-- The switch gets packets only from connections that were accepted. -/
def OutsFromLinks (net : Net) : Prop := ∀ out ∈ net.packetOuts, out.1 < net.links.length

theorem OutsFromLinks.step {net next : Net} {event : NetEvent} (wellFormed : WellFormed net)
    (fromLinks : OutsFromLinks net) (taken : net.step event = some next) :
    OutsFromLinks next := by
  have length := length_links_step wellFormed taken
  have kept : next.packetOuts = net.packetOuts → OutsFromLinks next := by
    intro same out member
    exact Nat.lt_of_lt_of_le (fromLinks out (same ▸ member)) length
  cases event with
  | connect process routingTable now =>
      obtain ⟨-, rfl⟩ := connect_cases taken
      exact kept rfl
  | requestAuth salt =>
      obtain ⟨-, source, -, rfl⟩ := requestAuth_cases taken
      exact kept (packetOuts_send _ source _)
  | receive source connText drops =>
      obtain ⟨before, bytes, toServer, handled, received⟩ := receive_cases taken
      obtain ⟨inside, -⟩ := List.getElem?_eq_some_iff.mp received.there
      intro out member
      rw [received.packetOuts, List.mem_append] at member
      rcases member with early | late
      · exact Nat.lt_of_lt_of_le (fromLinks out early) length
      · obtain ⟨pair, -, rfl⟩ := List.mem_map.mp late
        exact Nat.lt_of_lt_of_le inside length
  | disconnected source =>
      obtain ⟨-, -, -, rfl⟩ := disconnected_cases taken
      exact kept rfl
  | packetIn port pkt =>
      obtain ⟨-, ⟨-, rfl⟩ | ⟨packet, -, -, rfl⟩⟩ := packetIn_cases taken <;> exact kept rfl
  | broadcastNext =>
      obtain ⟨packet, number, -, ⟨-, rfl⟩ | ⟨-, rfl⟩⟩ := broadcastNext_cases wellFormed taken
      · exact kept (packetOuts_send net number _)
      · exact kept rfl
  | routerInfo info =>
      obtain ⟨-, rfl⟩ := routerInfo_cases taken
      exact kept rfl
  | learnNext =>
      obtain ⟨-, -, -, -, -, -, outs⟩ := learnNext_cases taken
      exact kept outs
  | reads source now =>
      obtain ⟨link, message, toRouter, bytes, turn, -, -, -, -, -, rfl⟩ := reads_cases taken
      exact kept rfl
  | timesOut source now =>
      obtain ⟨link, -, -, rfl⟩ := timesOut_cases taken
      exact kept rfl

theorem outsOf_new {events : List NetEvent} {net : Net}
    (reached : run Net.step .init events = some net) : net.outsOf net.links.length = [] := by
  have both : WellFormed net ∧ OutsFromLinks net := by
    refine @run_keeps _ _ Net.step (fun net => WellFormed net ∧ OutsFromLinks net)
      (fun before event after holds taken =>
        ⟨holds.1.step taken, holds.2.step holds.1 taken⟩) events .init net
        ⟨wellFormed_init, nofun⟩ reached
  rw [Net.outsOf, List.map_eq_nil_iff, List.filter_eq_nil_iff]
  intro out member
  have early := both.2 out member
  simpa using Nat.ne_of_lt early

/-! ## Lost connections -/

inductive Raises (intfnameToPort : Str → Option Nat) (bytes : Str) : Prop where
  | packet (packet : VnsPacket) (decoded : decode bytes = some (.vnsPacket packet))
      (unknown : intfnameToPort packet.intfName = none)
  | openTemplate (template : VnsOpenTemplate)
      (decoded : decode bytes = some (.vnsOpenTemplate template))

theorem raises_of_raised {listener : SrServerListener} {conn : Conn} {connText bytes : Str}
    (raised : (listener.handleRecvMsg conn connText (decode bytes)).raised = true) :
    Raises listener.intfnameToPort bytes := by
  cases decoded : decode bytes with
  | none =>
      rw [decoded] at raised
      cases raised
  | some message =>
      rw [decoded] at raised
      cases message with
      | vnsPacket packet =>
          rw [SrServerListener.handleRecvMsg, SrServerListener.handlePacketMsg] at raised
          cases known : listener.intfnameToPort packet.intfName with
          | none => exact .packet packet decoded known
          | some outPort =>
              rw [known] at raised
              cases raised
      | vnsOpen message =>
          rw [SrServerListener.handleRecvMsg, SrServerListener.handleOpenMsg] at raised
          cases known : listener.interfaces <;> rw [known] at raised <;> cases raised
      | vnsOpenTemplate template => exact .openTemplate template decoded
      | vnsClose message => cases raised
      | vnsBanner message => cases raised
      | vnsRtable message => cases raised
      | vnsAuthRequest message => cases raised
      | vnsAuthReply message => cases raised
      | vnsAuthStatus message => cases raised

section Lost

variable {net next : Net} {conn : Conn}

theorem isLost_congr (same : next.endings.lost = net.endings.lost) (conn : Conn) :
    next.isLost conn = net.isLost conn := by
  rw [Net.isLost, Net.isLost, same]

theorem lost_applyAll (source : Conn) (effects : List Effect) :
    (net.applyAll source effects).endings.lost = net.endings.lost := by
  induction effects generalizing net with
  | nil => rfl
  | cons effect rest inductionHypothesis =>
      refine (@inductionHypothesis (net.apply source effect)).trans ?_
      cases effect with
      | send other message => exact congrArg Endings.lost (endings_send other)
      | sendText other text => rfl
      | loseConnection other => rfl
      | packetOut pkt port => rfl

theorem isLost_lose {source : Conn} (lost : (net.lose source).isLost conn = true) :
    net.isLost conn = true ∨ conn = source := by
  have more : (net.lose source).endings.lost = net.endings.lost ++ [(source, _)] := rfl
  rw [Net.isLost, more, List.any_append, Bool.or_eq_true] at lost
  exact lost.imp id fun last => by simpa [eq_comm] using last

/-- A step loses a connection that breaks, or one whose message raised an exception. -/
theorem isLost_step {event : NetEvent} (wellFormed : WellFormed net)
    (taken : net.step event = some next) (lost : next.isLost conn = true) :
    net.isLost conn = true ∨ event = .disconnected conn ∨
      ∃ connText drops link bytes toServer handled,
        Received net conn connText drops link bytes toServer handled next ∧
          Raises net.listener.intfnameToPort bytes := by
  have kept : next.endings = net.endings → net.isLost conn = true := by
    intro same
    rwa [isLost_congr (congrArg Endings.lost same)] at lost
  cases event with
  | connect process routingTable now =>
      obtain ⟨-, rfl⟩ := connect_cases taken
      exact Or.inl (kept rfl)
  | requestAuth salt =>
      obtain ⟨-, source, -, rfl⟩ := requestAuth_cases taken
      exact Or.inl (kept (endings_send source))
  | receive source connText drops =>
      obtain ⟨link, bytes, toServer, handled, received⟩ := receive_cases taken
      have still : handled.isLost conn = net.isLost conn := by
        apply isLost_congr
        rw [received.handles]
        exact lost_applyAll source _
      have ends := received.ends
      split at ends
      · next raises =>
          rw [ends] at lost
          rcases isLost_lose lost with before | rfl
          · exact Or.inl (still.symm.trans before)
          · exact Or.inr (Or.inr ⟨connText, drops, link, bytes, toServer, handled, received,
              raises_of_raised (Bool.and_eq_true_iff.mp raises).1⟩)
      · rw [ends] at lost
        exact Or.inl (still.symm.trans lost)
  | disconnected source =>
      obtain ⟨-, -, -, rfl⟩ := disconnected_cases taken
      rcases isLost_lose lost with before | rfl
      · exact Or.inl before
      · exact Or.inr (Or.inl rfl)
  | packetIn port pkt =>
      obtain ⟨-, ⟨-, rfl⟩ | ⟨packet, -, -, rfl⟩⟩ := packetIn_cases taken <;>
        exact Or.inl (kept rfl)
  | broadcastNext =>
      obtain ⟨packet, number, -, ⟨-, rfl⟩ | ⟨-, rfl⟩⟩ := broadcastNext_cases wellFormed taken
      · exact Or.inl (kept (endings_send number))
      · exact Or.inl (kept rfl)
  | routerInfo info =>
      obtain ⟨-, rfl⟩ := routerInfo_cases taken
      exact Or.inl (kept rfl)
  | learnNext =>
      obtain ⟨-, -, -, -, -, endings, -⟩ := learnNext_cases taken
      exact Or.inl (kept endings)
  | reads source now =>
      obtain ⟨link, message, toRouter, bytes, turn, -, -, -, -, -, rfl⟩ := reads_cases taken
      exact Or.inl (kept rfl)
  | timesOut source now =>
      obtain ⟨link, -, -, rfl⟩ := timesOut_cases taken
      exact Or.inl (kept rfl)

end Lost

/-- If a connection is lost, it broke, or the last message that the server took from it raised
an exception, with the ports that were known then. -/
def Explained (known : (Str → Option Nat) → Prop) (events : List NetEvent) (conn : Conn)
    (net : Net) : Prop :=
  net.isLost conn = true → .disconnected conn ∈ events ∨
    ∃ link ports bytes, net.links[conn]? = some link ∧ known ports ∧
      link.toServer.taken.getLast? = some bytes ∧ Raises ports bytes

theorem Explained.step {known : (Str → Option Nat) → Prop} {events : List NetEvent} {conn : Conn}
    {net next : Net} {event : NetEvent} (explained : Explained known events conn net)
    (wellFormed : WellFormed net) (happens : event ∈ events)
    (ports : known net.listener.intfnameToPort) (taken : net.step event = some next) :
    Explained known events conn next := by
  intro lost
  rcases isLost_step wellFormed taken lost with before | rfl | raised
  · rcases explained before with broke | ⟨link, ports, bytes, there, was, last, raises⟩
    · exact Or.inl broke
    · -- the server takes nothing more from a connection that is lost
      obtain ⟨received, ⟨after, found, longer, -⟩, nothing⟩ :=
        forwards_step wellFormed taken there
      rw [nothing before, List.append_nil] at longer
      exact Or.inr ⟨after, ports, bytes, found, was, longer ▸ last, raises⟩
  · exact Or.inl happens
  · obtain ⟨connText, drops, link, bytes, toServer, handled, received, raises⟩ := raised
    obtain ⟨inside, -⟩ := List.getElem?_eq_some_iff.mp received.there
    have length := (received.quiet.1.trans received.quiet.2).length
    obtain ⟨after, found, same⟩ := received.mailed.exists_after
      (by rw [length]; exact Nat.le_of_eq List.length_set)
      ((getElem?_links_setLink inside conn).trans (if_pos rfl))
    refine Or.inr ⟨after, _, bytes, found, ports, ?_, raises⟩
    rw [same, Fifo.taken_take received.took]
    exact List.getLast?_concat

theorem isLost_lt {events : List NetEvent} {net : Net} {conn : Conn}
    (reached : run Net.step .init events = some net) (lost : net.isLost conn = true) :
    conn < net.links.length := by
  have both : WellFormed net ∧ ∀ conn, net.isLost conn = true → conn < net.links.length := by
    refine @run_keeps _ _ Net.step
      (fun net => WellFormed net ∧ ∀ conn, net.isLost conn = true → conn < net.links.length)
      (fun before event after holds taken => ⟨holds.1.step taken, fun other gone => ?_⟩) events
      .init net ⟨wellFormed_init, fun _ => nofun⟩ reached
    have length := length_links_step holds.1 taken
    refine Nat.lt_of_lt_of_le ?_ length
    rcases isLost_step holds.1 taken gone with early | rfl | ⟨_, _, _, _, _, _, received, -⟩
    · exact holds.2 other early
    · exact (disconnected_cases taken).2.1
    · exact (List.getElem?_eq_some_iff.mp received.there).1
  exact both.2 conn lost

/-! ## Frames -/

/-- The port of a frame, by the name that its message carries. -/
def portOf (ports : Str → Option Nat) (frame : Str × Name) : Option Nat :=
  ports (cString 16 frame.2)

theorem outOf_packetMessage (ports : Str → Option Nat) (frame : Str × Name) :
    outOf ports (packetMessage frame.1 frame.2) =
      (portOf ports frame).map fun port => (frame.1, port) := by
  rw [outOf, decode_packetMessage, portOf]

theorem Raises.portOf_eq_none {ports : Str → Option Nat} {frame : Str × Name}
    (raises : Raises ports (packetMessage frame.1 frame.2)) : portOf ports frame = none := by
  have carried := decode_packetMessage frame.1 frame.2
  cases raises with
  | packet packet decoded unknown =>
      obtain rfl := Pox.VnsMessage.vnsPacket.inj (Option.some.inj (carried.symm.trans decoded))
      exact unknown
  | openTemplate template decoded => cases carried.symm.trans decoded

theorem exists_frames {messages : List Str}
    (framed : ∀ bytes ∈ messages, ∃ buf iface, bytes = packetMessage buf iface) :
    ∃ frames : List (Str × Name),
      messages = frames.map fun frame => packetMessage frame.1 frame.2 := by
  induction messages with
  | nil => exact ⟨[], rfl⟩
  | cons bytes rest inductionHypothesis =>
      obtain ⟨buf, iface, rfl⟩ := framed bytes (List.mem_cons_self ..)
      obtain ⟨frames, rfl⟩ := inductionHypothesis fun other member =>
        framed other (List.mem_cons_of_mem _ member)
      exact ⟨(buf, iface) :: frames, rfl⟩

theorem Stage.ne_vnsPacket {process : Process} {phase : Phase} {taken : List LtMessage}
    {messages : List Pox.VnsMessage} (stage : Stage process phase taken messages) :
    ∀ message ∈ messages, ∀ packet, message ≠ .vnsPacket packet := by
  cases stage <;> simp

theorem Stage.opening_outs {process : Process} {phase : Phase} {taken : List LtMessage}
    {messages : List Pox.VnsMessage} (stage : Stage process phase taken messages)
    {opening : List Str} (decoded : opening.map decode = messages.map some)
    (ports : Str → Option Nat) : ∀ bytes ∈ opening, outOf ports bytes = none := by
  intro bytes member
  have inside : decode bytes ∈ messages.map some := decoded ▸ List.mem_map_of_mem member
  obtain ⟨message, found, same⟩ := List.mem_map.mp inside
  have other := stage.ne_vnsPacket message found
  rw [outOf, ← same]
  cases message with
  | vnsPacket packet => exact absurd rfl (other packet)
  | _ => rfl

theorem explained_run {before after : List NetEvent} {process : Process}
    {routingTable : List SrRt} {now : Int} {accepting accepted last : Net}
    (starts : run Net.step .init before = some accepting)
    (connects : accepting.connect process routingTable now = some accepted)
    (goes : run Net.step accepted after = some last)
    (settled : ∀ event ∈ after, event ≠ .learnNext) :
    Explained (· = accepting.listener.intfnameToPort) after accepting.links.length last := by
  have wellFormed : WellFormed accepted :=
    @WellFormed.step _ _ (.connect process routingTable now) (sessions_run starts).wellFormed
      connects
  have open_ : accepted.isLost accepting.links.length ≠ true := by
    obtain ⟨-, rfl⟩ := connect_cases connects
    exact fun lost => Nat.lt_irrefl _ (isLost_lt starts lost)
  have ports : accepted.listener.intfnameToPort = accepting.listener.intfnameToPort := by
    obtain ⟨-, rfl⟩ := connect_cases connects
    rfl
  refine (@run_preserves _ _ Net.step (fun _ event => event ∈ after) (fun net =>
    (WellFormed net ∧ net.listener.intfnameToPort = accepting.listener.intfnameToPort) ∧
      Explained (· = accepting.listener.intfnameToPort) after accepting.links.length net)
    (fun net event next holds happens taken => ?_) after accepted last
    ⟨⟨wellFormed, ports⟩, fun lost => absurd lost open_⟩
    (meets_of_forall (fun event member _ => member) _) goes).2
  refine ⟨⟨holds.1.1.step taken, ?_⟩, holds.2.step holds.1.1 happens holds.1.2 taken⟩
  exact (ports_step holds.1.1 (settled event happens) taken).trans holds.1.2

/-- Only the request for a template raises an exception before the first frame. -/
theorem Stage.templated_of_raises {process : Process} {phase : Phase} {taken : List LtMessage}
    {messages : List Pox.VnsMessage} (stage : Stage process phase taken messages)
    {opening : List Str} (decoded : opening.map decode = messages.map some)
    {ports : Str → Option Nat} {bytes : Str} (member : bytes ∈ opening)
    (raises : Raises ports bytes) : process.templated = true := by
  have inside : decode bytes ∈ messages.map some := decoded ▸ List.mem_map_of_mem member
  obtain ⟨message, found, same⟩ := List.mem_map.mp inside
  cases raises with
  | packet packet carried unknown =>
      exact absurd (Option.some.inj (same.trans carried)) (stage.ne_vnsPacket message found packet)
  | openTemplate template carried =>
      obtain rfl := Option.some.inj (same.trans carried)
      cases stage with
      | waiting => cases found
      | refused => cases found
      | asked => cases List.mem_singleton.mp found
      | rejected => cases List.mem_singleton.mp found
      | awaiting keyed templated => exact templated
      | abandoned keyed templated => exact templated
      | opened =>
          rcases List.mem_cons.mp found with same | found
          · cases same
          · cases List.mem_singleton.mp found

/-- Where the last message raised an exception, the process asked for a template, or the
message is a frame whose port is not known. -/
theorem Stage.last_of_raises {process : Process} {phase : Phase} {taken : List LtMessage}
    {messages : List Pox.VnsMessage} (stage : Stage process phase taken messages)
    {opening : List Str} (decoded : opening.map decode = messages.map some)
    {ports : Str → Option Nat} {bytes : Str} {frames : List (Str × Name)}
    (last : (opening ++ frames.map fun frame => packetMessage frame.1 frame.2).getLast? =
      some bytes) (raises : Raises ports bytes) :
    process.templated = true ∨
      ∃ frame, frames.getLast? = some frame ∧ portOf ports frame = none := by
  rcases List.eq_nil_or_concat frames with rfl | ⟨earlier, frame, rfl⟩
  · rw [List.map_nil, List.append_nil] at last
    exact Or.inl (stage.templated_of_raises decoded (List.mem_of_getLast? last) raises)
  · rw [List.concat_eq_append, List.map_append, ← List.append_assoc, List.map_singleton,
      List.getLast?_concat] at last
    cases Option.some.inj last
    refine Or.inr ⟨frame, ?_, raises.portOf_eq_none⟩
    rw [List.concat_eq_append, List.getLast?_concat]

/-- Of the frames of a router that connected, the server took those from the first on, and all
once it has taken all messages.  In their order they leave through the ports of the
interfaces that their messages name; the handler of a frame whose name it does not know
raises an exception, and the frame is gone.  No other frame loses the connection. -/
theorem frames_reach_switch {before after : List NetEvent} {process : Process}
    {routingTable : List SrRt} {now : Int} {accepting accepted last : Net}
    (starts : run Net.step .init before = some accepting)
    (connects : accepting.connect process routingTable now = some accepted)
    (goes : run Net.step accepted after = some last)
    (settled : ∀ event ∈ after, event ≠ .learnNext) :
    ∃ link, last.links[accepting.links.length]? = some link ∧
      ∃ frames waiting : List (Str × Name),
        link.sr.written =
          (frames ++ waiting).map (fun frame => packetMessage frame.1 frame.2) ∧
        last.outsOf accepting.links.length =
          frames.filterMap (fun frame =>
            (portOf accepting.listener.intfnameToPort frame).map fun port => (frame.1, port)) ∧
        (link.toServer.waiting = [] → waiting = []) ∧
        (last.isLost accepting.links.length = true →
          .disconnected accepting.links.length ∈ after ∨ link.process.templated = true ∨
            ∃ frame, frames.getLast? = some frame ∧
              portOf accepting.listener.intfnameToPort frame = none) := by
  have sessions : Sessions accepted :=
    @Sessions.step _ _ (.connect process routingTable now) (sessions_run starts) connects
  have new := outsOf_new starts
  have explained := explained_run starts connects goes settled
  obtain ⟨-, rfl⟩ := connect_cases connects
  obtain ⟨received, link, there, taken, outs⟩ := forwards_run sessions.wellFormed
    List.getElem?_concat_length settled goes
  have received_eq : link.toServer.taken = received := taken
  have session := (run_keeps (fun _ _ _ holds step => Sessions.step holds step) sessions
    goes).session _ link there
  obtain ⟨opening, messages, stage, decoded, sent⟩ := session.opening
  obtain ⟨pairs, wrote⟩ := exists_frames session.packets
  have nothing := List.filterMap_eq_nil_iff.mpr
    (stage.opening_outs decoded accepting.listener.intfnameToPort)
  have gone : last.outsOf accepting.links.length =
      received.filterMap (outOf accepting.listener.intfnameToPort) :=
    outs.trans (congrArg (· ++ received.filterMap (outOf accepting.listener.intfnameToPort)) new)
  have lostBy : last.isLost accepting.links.length = true →
      .disconnected accepting.links.length ∈ after ∨
        ∃ bytes, received.getLast? = some bytes ∧
          Raises accepting.listener.intfnameToPort bytes := by
    intro lost
    refine (explained lost).imp id ?_
    rintro ⟨other, ports, bytes, found, rfl, end_, raises⟩
    cases Option.some.inj (there.symm.trans found)
    exact ⟨bytes, received_eq ▸ end_, raises⟩
  rw [Fifo.sent, received_eq, List.append_eq_append_iff] at sent
  refine ⟨link, there, ?_⟩
  rcases sent with ⟨more, whole, rest⟩ | ⟨front, whole, rest⟩
  · refine ⟨[], pairs, wrote, ?_, fun drained => ?_, fun lost => ?_⟩
    · rw [gone]
      rw [whole, List.filterMap_append, List.append_eq_nil_iff] at nothing
      exact nothing.1
    · rw [drained, wrote] at rest
      exact List.map_eq_nil_iff.mp (List.append_eq_nil_iff.mp rest.symm).2
    · refine (lostBy lost).imp id ?_
      rintro ⟨bytes, end_, raises⟩
      have member : bytes ∈ opening :=
        whole ▸ List.mem_append_left _ (List.mem_of_getLast? end_)
      exact Or.inl (stage.templated_of_raises decoded member raises)
  · rw [wrote] at rest
    obtain ⟨frames, waiting, rfl, isFront, isRest⟩ := List.map_eq_append_iff.mp rest
    refine ⟨frames, waiting, wrote, ?_, fun drained => ?_, fun lost => ?_⟩
    · rw [gone, whole, List.filterMap_append, nothing, List.nil_append, ← isFront,
        List.filterMap_map]
      refine List.filterMap_congr fun frame _ => ?_
      rw [Function.comp_apply, outOf_packetMessage]
    · rw [drained] at isRest
      exact List.map_eq_nil_iff.mp isRest
    · refine (lostBy lost).imp id ?_
      rintro ⟨bytes, end_, raises⟩
      rw [whole, ← isFront] at end_
      exact stage.last_of_raises decoded end_ raises

/-- Three frames left by port 1, and the fourth lost the connection: its message carries 16 of
the 17 octets of the interface's name. -/
theorem lanEnd_reaches_switch :
    ((lanEnd.outsOf learned.links.length).map Prod.snd = [1, 1, 1] ∧
      lanEnd.isLost learned.links.length = true) ∧
    ∃ link, lanEnd.links[learned.links.length]? = some link ∧
      ∃ frames waiting : List (Str × Name),
        link.sr.written =
          (frames ++ waiting).map (fun frame => packetMessage frame.1 frame.2) ∧
        lanEnd.outsOf learned.links.length =
          frames.filterMap (fun frame =>
            (portOf learned.listener.intfnameToPort frame).map fun port => (frame.1, port)) ∧
        (link.toServer.waiting = [] → waiting = []) ∧
        (lanEnd.isLost learned.links.length = true →
          .disconnected learned.links.length ∈ lanSession ∨ link.process.templated = true ∨
            ∃ frame, frames.getLast? = some frame ∧
              portOf learned.listener.intfnameToPort frame = none) :=
  ⟨by decide +kernel, frames_reach_switch learned_reached connect_learned lanEnd_goes
    (by simp [lanSession, registers, answers])⟩

end Cmput313.Network
