import Cmput313.Network.Connections

/-!
# The way of the configuration

What the switch tells of its interfaces goes through the server into the hardware
information, and from there into the list that a router's process looks its interfaces up in.
-/

set_option autoImplicit false

namespace Cmput313.Network

open Cmput313.Bytes Cmput313.Machine Cmput313.Pox Cmput313.Program Cmput313.Router
  Cmput313.StructPack

variable {net next : Net} {link : Link} {interfaces : List VnsInterface}

/-! ## What the message does -/

/-- Names fit, and so does the message. -/
structure Sound (interfaces : List VnsInterface) : Prop where
  named : ∀ interface ∈ interfaces, Registrable interface.name
  few : interfaces.length ≤ 46

/-- The interfaces are added to those that are there; the type of the message is not read. -/
theorem srHandleHwinfo_appends (memory : Memory) {word : Bytes} (sized : word.length = 4)
    (sound : Sound interfaces) (sr : SrInstance) :
    srHandleHwinfo memory
        (packI (UInt32.ofNat (8 + (VnsHardwareInfo.pack interfaces).length)) ++ word ++
          VnsHardwareInfo.pack interfaces) sr =
      .ok (6 * interfaces.length)
        { sr with ifList := sr.ifList ++ interfaces.map registeredAs } := by
  have entries := length_interfaceEntries interfaces
  have body := VnsHardwareInfo.pack_length interfaces
  have few := sound.few
  have counts : 8 + (VnsHardwareInfo.pack interfaces).length =
      8 + 36 * (6 * interfaces.length) := by
    rw [body]
    simp only [VnsInterface.size]
    omega
  have front : peek32 memory.beyond
      (packI (UInt32.ofNat (8 + (VnsHardwareInfo.pack interfaces).length)) ++ word ++
        VnsHardwareInfo.pack interfaces) 0 =
        swap32 (UInt32.ofNat (8 + (VnsHardwareInfo.pack interfaces).length)) := by
    have read := peek32_append_packI memory.beyond [] (word ++ VnsHardwareInfo.pack interfaces)
      (UInt32.ofNat (8 + (VnsHardwareInfo.pack interfaces).length))
    rw [List.nil_append, ← List.append_assoc] at read
    exact read
  have number : numEntries (ntohl (peek32 memory.beyond
      (packI (UInt32.ofNat (8 + (VnsHardwareInfo.pack interfaces).length)) ++ word ++
        VnsHardwareInfo.pack interfaces) 0)) = ((6 * interfaces.length : Nat) : Int) := by
    rw [front, ntohl, swap32_swap32, counts, numEntries_of_length (by omega)]
  have listed := hwEntries_of_pack memory
    (packI (UInt32.ofNat (8 + (VnsHardwareInfo.pack interfaces).length)) ++ word)
    (by rw [List.length_append, packI_length, sized])
    fun entry member => @value_length_of_interfaceEntries interfaces entry member
  rw [← hardwareInfo_pack_eq_entries, entries] at listed
  have folds : (List.range (6 * interfaces.length)).foldlM
      (fun ifList i => handleHwEntry memory ifList (hwEntry memory
        (packI (UInt32.ofNat (8 + (VnsHardwareInfo.pack interfaces).length)) ++ word ++
          VnsHardwareInfo.pack interfaces) i)) sr.ifList =
      some (sr.ifList ++ interfaces.map registeredAs) := by
    rw [← List.foldlM_map, listed, foldlM_hardwareInfo memory sound.named]
  have got : (get : Sr SrInstance) sr = .ok sr sr := rfl
  unfold srHandleHwinfo
  simp only [number, Int.toNat_natCast, bind, EStateM.bind, got, folds]
  rfl

theorem commandSwitch_hwinfo (host : Host) {message : Dispatch}
    (hwinfo : message.command = vnsHwinfo) {sr after : SrInstance} {entries : Int}
    (handled : srHandleHwinfo host.memory message.buf sr = .ok entries after) :
    finalState (commandSwitch host message) sr = after := by
  have otherPacket : ¬ vnsHwinfo = vnsPacket := by decide
  have otherClose : ¬ vnsHwinfo = vnsClose := by decide
  have otherBanner : ¬ vnsHwinfo = vnsBanner := by decide
  apply @Ends.finalState _ _ _ _ _ fun last : SrInstance => last = after
  simp only [commandSwitch, hwinfo, if_neg otherPacket, if_neg otherClose,
    if_neg otherBanner, if_true, ends_bind, ends_get, ends_pure]
  rw [ends_iff_of_ok handled]

theorem reads_hardwareInfo {process : Process} {now : Int} {sr : SrInstance} {bytes : Str}
    {turn : Process.Turn} (sound : Sound interfaces)
    (wired : wireBytes (.vnsHardwareInfo interfaces) = some bytes)
    (turned : process.reads now .running sr bytes = some turn) :
    turn.sr.ifList = sr.ifList ++ interfaces.map registeredAs := by
  have packed : (LtMessage.vnsHardwareInfo interfaces).pack =
      some (VnsHardwareInfo.pack interfaces) := rfl
  have length := VnsHardwareInfo.pack_length interfaces
  have few := sound.few
  have short : (VnsHardwareInfo.pack interfaces).length ≤ 9992 := by
    rw [length, VnsInterface.size]
    omega
  have command := framed_command vnsHwinfo (VnsHardwareInfo.pack interfaces) short
  have read := @reads_short process now .running sr 0 _ bytes _ rfl wired packed short
  have type : (LtMessage.vnsHardwareInfo interfaces).getType = vnsHwinfo := rfl
  rw [if_neg fun unexpected => unexpected.1 rfl, type] at read
  obtain ⟨-, last⟩ := @afterSwitch_running process now sr
    (framed vnsHwinfo (VnsHardwareInfo.pack interfaces) short) (by rw [command]; decide)
  have buf : ∃ word : Bytes, word.length = 4 ∧
      (framed vnsHwinfo (VnsHardwareInfo.pack interfaces) short).dispatched.buf =
        packI (UInt32.ofNat (8 + (VnsHardwareInfo.pack interfaces).length)) ++ word ++
          VnsHardwareInfo.pack interfaces :=
    ⟨bytes32 _, bytes32_length _, rfl⟩
  obtain ⟨word, sized, buf⟩ := buf
  have handled := srHandleHwinfo_appends process.toHost.memory sized sound (sr.atTime now)
  rw [← buf] at handled
  have switched := commandSwitch_hwinfo process.toHost command handled
  rw [switched] at last
  have same := Option.some.inj (read.symm.trans turned)
  rw [← same, last]
  rfl

/-! ## What a process knows -/

/-- A process in its main loop knows the interfaces of the hardware information that it took,
any other process knows none. -/
structure Equipped (link : Link) : Prop where
  equipped : link.phase.Looped → ∀ interfaces : List VnsInterface,
    .vnsHardwareInfo interfaces ∈ link.toRouter.taken → Sound interfaces →
      link.sr.ifList = interfaces.map registeredAs
  bare : ¬ link.phase.Looped → link.sr.ifList = []

theorem first_of_controls {taken : List LtMessage}
    (before : controls (taken ++ [.vnsHardwareInfo interfaces]) <+:
      [vnsAuthRequest, vnsAuthStatus, vnsHwinfo]) :
    ∀ message ∈ taken, message.getType ≠ vnsHwinfo := by
  have last : controls [.vnsHardwareInfo interfaces] = [vnsHwinfo] := rfl
  rw [controls_append, last] at before
  intro message member same
  have inside : vnsHwinfo ∈ controls taken := by
    have kept : (packet? message).isNone = true := by
      rw [isNone_packet?, same]
      decide
    exact same ▸ List.mem_map_of_mem (List.mem_filter.mpr ⟨member, kept⟩)
  have twice : [vnsHwinfo, vnsHwinfo].Sublist [vnsAuthRequest, vnsAuthStatus, vnsHwinfo] :=
    ((List.singleton_sublist.mpr inside).append_right [vnsHwinfo]).trans before.sublist
  exact absurd twice (by decide)

theorem Session.first_hardwareInfo {requested : List UInt32} (session : Session requested link)
    {toRouter : Fifo LtMessage}
    (took : link.toRouter.take = some (.vnsHardwareInfo interfaces, toRouter)) :
    ∀ message ∈ link.toRouter.taken, message.getType ≠ vnsHwinfo := by
  have before : controls toRouter.taken <+: [vnsAuthRequest, vnsAuthStatus, vnsHwinfo] := by
    have front := session.controls_prefix
    rw [← Fifo.sent_take took, Fifo.sent, controls_append] at front
    exact (List.prefix_append _ _).trans front
  rw [Fifo.taken_take took] at before
  exact first_of_controls before

theorem Stage.taken_connecting {process : Process} {phase : Phase} {taken : List LtMessage}
    {messages : List Pox.VnsMessage} (stage : Stage process phase taken messages)
    (connecting : ¬ phase.Looped) (alive : phase.expectedCmd ≠ none) :
    ∀ message ∈ taken, message.getType ≠ vnsHwinfo := by
  have request : vnsAuthRequest ≠ vnsHwinfo := by decide
  have status : vnsAuthStatus ≠ vnsHwinfo := by decide
  cases stage with
  | waiting => exact List.forall_mem_nil _
  | asked keyed requested => simp [requested, request]
  | awaiting keyed templated requested passed => simp [requested, passed, request, status]
  | refused => exact absurd rfl alive
  | rejected => exact absurd rfl alive
  | abandoned => exact absurd rfl alive
  | opened looped => exact absurd looped connecting

theorem reads_hardwareInfo_connecting {process : Process} {now : Int} {phase : Phase}
    {sr : SrInstance} {bytes : Str} {turn : Process.Turn} (connecting : ¬ phase.Looped)
    (wired : wireBytes (.vnsHardwareInfo interfaces) = some bytes)
    (turned : process.reads now phase sr bytes = some turn) :
    ¬ turn.phase.Looped ∧ turn.sr.ifList = sr.ifList := by
  have type : (LtMessage.vnsHardwareInfo interfaces).getType = vnsHwinfo := rfl
  have fails : ∀ {expectedCmd : UInt32}, phase.expectedCmd = some expectedCmd →
      expectedCmd ≠ 0 → vnsHwinfo ≠ expectedCmd → turn = process.refuses now phase sr := by
    intro expectedCmd expects strict other
    rw [reads_other expects strict (.hardwareInfo interfaces) (type ▸ other) wired] at turned
    exact (Option.some.inj turned).symm
  cases phase with
  | authRequest => rw [fails rfl (by decide) (by decide)]; exact ⟨id, rfl⟩
  | authStatus => rw [fails rfl (by decide) (by decide)]; exact ⟨id, rfl⟩
  | rtable => rw [fails rfl (by decide) (by decide)]; exact ⟨id, rfl⟩
  | running => exact absurd trivial connecting
  | connectFailed => cases turned
  | loopEnded => cases turned
  | died fault => cases turned

theorem equipped_init (process : Process) (routingTable : List SrRt) (now : Int) :
    Equipped (Link.init process routingTable now) where
  equipped := fun looped => looped.elim
  bare := fun _ => rfl

theorem getType_eq_vnsHwinfo {message : LtMessage} (type : message.getType = vnsHwinfo) :
    ∃ interfaces, message = .vnsHardwareInfo interfaces := by
  cases message with
  | vnsHardwareInfo interfaces => exact ⟨interfaces, rfl⟩
  | decodable message =>
      have other : message.getType ≠ vnsHwinfo := by
        unfold VnsMessage.getType
        split <;> decide
      exact absurd type other

theorem running_of_looped {phase : Phase} (looped : phase.Looped)
    (alive : phase.expectedCmd ≠ none) : phase = .running := by
  cases phase with
  | running => rfl
  | loopEnded => exact absurd rfl alive
  | died fault => exact absurd rfl alive
  | authRequest => exact looped.elim
  | authStatus => exact looped.elim
  | rtable => exact looped.elim
  | connectFailed => exact looped.elim

theorem Equipped.reads (equipped : Equipped link) {requested : List UInt32}
    (session : Session requested link) (bare : (∀ message ∈ link.toRouter.taken,
      message.getType ≠ vnsHwinfo) → link.sr.ifList = []) {message : LtMessage}
    {toRouter : Fifo LtMessage} {bytes : Str} {now : Int} {turn : Process.Turn}
    (took : link.toRouter.take = some (message, toRouter))
    (wired : wireBytes message = some bytes)
    (turned : link.process.reads now link.phase link.sr bytes = some turn) :
    Equipped
      { link with
        phase := turn.phase
        sr := turn.sr
        toRouter := toRouter
        toServer := link.toServer.sendAll turn.written } := by
  have taken := Fifo.taken_take took
  obtain ⟨opening, messages, stage, -, -⟩ := session.opening
  obtain ⟨⟨_, _, -, -, -, -, -, stays, -⟩, kept⟩ := session.proceeds took wired turned stage
  have alive : link.phase.expectedCmd ≠ none := by
    intro ended
    rw [Process.reads, ended] at turned
    cases turned
  by_cases looped : link.phase.Looped
  · have running := running_of_looped looped alive
    refine { equipped := fun _ interfaces member sound => ?_, bare := fun connecting => ?_ }
    · by_cases type : message.getType = vnsHwinfo
      · obtain ⟨own, rfl⟩ := getType_eq_vnsHwinfo type
        have first := session.first_hardwareInfo took
        have same : LtMessage.vnsHardwareInfo interfaces = .vnsHardwareInfo own := by
          rw [taken] at member
          rcases List.mem_append.mp member with early | late
          · exact absurd rfl (first _ early)
          · exact List.mem_singleton.mp late
        cases same
        rw [running] at turned
        rw [reads_hardwareInfo sound wired turned, bare first, List.nil_append]
      · rw [taken] at member
        rcases List.mem_append.mp member with early | late
        · exact (kept type).trans (equipped.equipped looped interfaces early sound)
        · exact absurd (congrArg LtMessage.getType (List.mem_singleton.mp late).symm) type
    · exact absurd (stays looped).1 connecting
  · have none_ := stage.taken_connecting looped alive
    by_cases type : message.getType = vnsHwinfo
    · obtain ⟨own, rfl⟩ := getType_eq_vnsHwinfo type
      obtain ⟨ended, same⟩ := reads_hardwareInfo_connecting looped wired turned
      exact ⟨fun impossible => absurd impossible ended, fun _ => same.trans (equipped.bare looped)⟩
    · have same := (kept type).trans (equipped.bare looped)
      refine { equipped := fun _ interfaces member _ => ?_, bare := fun _ => same }
      rw [taken] at member
      rcases List.mem_append.mp member with early | late
      · exact absurd rfl (none_ _ early)
      · exact absurd (congrArg LtMessage.getType (List.mem_singleton.mp late).symm) type

structure EquippedNet (net : Net) : Prop where
  informed : InformedNet net
  equipped : ∀ (conn : Conn) (link : Link), net.links[conn]? = some link → Equipped link

theorem EquippedNet.step {event : NetEvent} (equippedNet : EquippedNet net)
    (taken : net.step event = some next) : EquippedNet next where
  informed := equippedNet.informed.step taken
  equipped := by
    intro conn after there
    have sessions := equippedNet.informed.sessions
    rcases links_step sessions.wellFormed taken there with
      ⟨process, routingTable, now, rfl⟩ | ⟨link, was, step⟩
    · exact equipped_init process routingTable now
    · have equipped := equippedNet.equipped conn link was
      cases step with
      | still same =>
          refine ⟨?_, ?_⟩
          · rw [same.phase, same.taken, same.sr]
            exact equipped.equipped
          · rw [same.phase, same.sr]
            exact equipped.bare
      | reads took wired turned =>
          exact equipped.reads (sessions.session conn link was)
            (equippedNet.informed.informed conn link was).bare took wired turned
      | timesOut now running =>
          obtain ⟨loopTurn, same⟩ := @loopTurn_timesOut link.process now link.sr
          have looped : link.phase.Looped := by
            rw [running]
            trivial
          refine ⟨fun _ interfaces member sound => ?_, fun connecting => ?_⟩
          · exact same.trans (equipped.equipped looped interfaces member sound)
          · exact absurd loopTurn.phase connecting

/-! ## What the server announces -/

def described (entry : Str × IntfInfo) : Option VnsInterface := do
  let ip ← packIp entry.2.ip
  let mac ← packMac entry.2.mac
  let mask ← packIp SrServerListener.hostMask
  VnsInterface.init entry.1 mac ip mask

def Describes (entry : Str × IntfInfo) (interface : VnsInterface) : Prop :=
  described entry = some interface

theorem learn_eq_some {listener later : SrServerListener} {intf : Str} {info : IntfInfo}
    {interface : VnsInterface} (learned : listener.learn intf info = some (interface, later)) :
    Describes (intf, info) interface ∧ later.interfaces = listener.interfaces := by
  obtain ⟨ip, packedIp, learned⟩ := Option.bind_eq_some_iff.mp learned
  obtain ⟨mac, packedMac, learned⟩ := Option.bind_eq_some_iff.mp learned
  obtain ⟨mask, packedMask, learned⟩ := Option.bind_eq_some_iff.mp learned
  obtain ⟨built, init, learned⟩ := Option.bind_eq_some_iff.mp learned
  cases learned
  refine ⟨?_, rfl⟩
  simp only [Describes, described, packedIp, packedMac, packedMask, init, Option.bind_eq_bind,
    Option.bind_some]

/-- The interfaces are those of one whole description, in its order. -/
def Announced (events : List NetEvent) (interfaces : List VnsInterface) : Prop :=
  ∃ info, .routerInfo info ∈ events ∧ List.Forall₂ Describes info interfaces

/-- All hardware information that was sent, and what the server knows, was announced. -/
structure Announces (events : List NetEvent) (net : Net) : Prop where
  learning : ∀ rest interfaces, net.task = .learning rest interfaces →
    ∃ done, .routerInfo (done ++ rest) ∈ events ∧ List.Forall₂ Describes done interfaces
  known : ∀ interfaces, net.listener.interfaces = some interfaces → Announced events interfaces
  sent : ∀ (conn : Conn) (link : Link) (interfaces : List VnsInterface),
    net.links[conn]? = some link → .vnsHardwareInfo interfaces ∈ link.toRouter.sent →
      Announced events interfaces

def Posts (net next : Net) (new : LtMessage → Prop) : Prop :=
  ∀ (conn : Conn) (after : Link), next.links[conn]? = some after →
    ∀ message ∈ after.toRouter.sent, new message ∨
      ∃ link, net.links[conn]? = some link ∧ message ∈ link.toRouter.sent

theorem posts_of_links {new : LtMessage → Prop} (same : next.links = net.links) :
    Posts net next new :=
  fun _ after there _ member => Or.inr ⟨after, same ▸ there, member⟩

theorem posts_send (net : Net) (conn : Conn) (message : LtMessage) :
    Posts net (net.send conn message) (· = message) := by
  intro other after there sent member
  cases sendable : (wireBytes message).isSome with
  | true =>
      rw [getElem?_links_send sendable] at there
      split at there
      · obtain ⟨link, was, rfl⟩ := Option.map_eq_some_iff.mp there
        rcases List.mem_append.mp (link.toRouter.sent_send message ▸ member) with old | new
        · exact Or.inr ⟨link, was, old⟩
        · exact Or.inl (List.mem_singleton.mp new)
      · exact Or.inr ⟨after, there, member⟩
  | false =>
      rw [Net.send, if_neg (by rw [sendable]; exact Bool.false_ne_true)] at there
      exact Or.inr ⟨after, there, member⟩

theorem Posts.trans {third : Net} {new : LtMessage → Prop} (early : Posts net next new)
    (late : Posts next third new) : Posts net third new := by
  intro conn after there message member
  rcases late conn after there message member with fresh | ⟨link, was, old⟩
  · exact Or.inl fresh
  · exact early conn link was message old

theorem Posts.mono {new weaker : LtMessage → Prop} (posts : Posts net next new)
    (implies : ∀ message, new message → weaker message) : Posts net next weaker :=
  fun conn after there message member =>
    (posts conn after there message member).imp_left (implies message)

theorem posts_applyAll (net : Net) (source : Conn) (effects : List Effect) :
    Posts net (net.applyAll source effects)
      fun message => ∃ target, Effect.send target message ∈ effects := by
  induction effects generalizing net with
  | nil => exact posts_of_links rfl
  | cons effect rest inductionHypothesis =>
      have first : Posts net (net.apply source effect)
          fun message => ∃ target, Effect.send target message ∈ effect :: rest := by
        cases effect with
        | send conn message =>
            refine (posts_send net conn message).mono fun other same => ⟨conn, ?_⟩
            rw [same]
            exact List.mem_cons_self ..
        | sendText conn text => exact posts_of_links rfl
        | loseConnection conn => exact posts_of_links rfl
        | packetOut pkt port => exact posts_of_links rfl
      refine first.trans ((inductionHypothesis (net.apply source effect)).mono ?_)
      rintro message ⟨target, member⟩
      exact ⟨target, List.mem_cons_of_mem _ member⟩

theorem posts_setLink {conn : Conn} {changed : Link} (was : net.links[conn]? = some link)
    (same : changed.toRouter.sent = link.toRouter.sent) :
    Posts net (net.setLink conn changed) fun _ => False := by
  obtain ⟨inside, -⟩ := List.getElem?_eq_some_iff.mp was
  intro other after there message member
  rw [getElem?_links_setLink inside] at there
  split at there
  · next own =>
      cases Option.some.inj there
      exact Or.inr ⟨link, own ▸ was, same ▸ member⟩
  · exact Or.inr ⟨after, there, member⟩

theorem server_send (net : Net) (conn : Conn) (message : LtMessage) :
    (net.send conn message).task = net.task ∧ (net.send conn message).listener = net.listener := by
  rw [Net.send]
  split
  · exact ⟨rfl, rfl⟩
  · exact ⟨rfl, rfl⟩

theorem server_applyAll (net : Net) (source : Conn) (effects : List Effect) :
    (net.applyAll source effects).task = net.task ∧
      (net.applyAll source effects).listener = net.listener := by
  induction effects generalizing net with
  | nil => exact ⟨rfl, rfl⟩
  | cons effect rest inductionHypothesis =>
      have first : (net.apply source effect).task = net.task ∧
          (net.apply source effect).listener = net.listener := by
        cases effect with
        | send conn message => exact server_send net conn message
        | sendText conn text => exact ⟨rfl, rfl⟩
        | loseConnection conn => exact ⟨rfl, rfl⟩
        | packetOut pkt port => exact ⟨rfl, rfl⟩
      obtain ⟨task, listener⟩ := inductionHypothesis (net.apply source effect)
      exact ⟨task.trans first.1, listener.trans first.2⟩

theorem handleRecvMsg_hardwareInfo {listener : SrServerListener} {conn target : Conn}
    {connText : Str} {received : Option Pox.VnsMessage}
    (sends : Effect.send target (.vnsHardwareInfo interfaces) ∈
      (listener.handleRecvMsg conn connText received).effects) :
    listener.interfaces = some interfaces := by
  unfold SrServerListener.handleRecvMsg at sends
  split at sends
  · simp [SrServerListener.handleCloseMsg] at sends
  · simp [SrServerListener.handleAuthReply] at sends
  · rw [SrServerListener.handleOpenMsg] at sends
    split at sends
    · next known =>
        cases List.mem_singleton.mp sends
        exact known
    · cases sends
  · simp [SrServerListener.handleCloseMsg] at sends
  · rw [SrServerListener.handlePacketMsg] at sends
    split at sends <;> simp at sends
  · cases sends
  · cases sends

section Announces

variable {events : List NetEvent}

theorem Announces.keep {new : LtMessage → Prop} (announces : Announces events net)
    (posts : Posts net next new)
    (announced : ∀ interfaces, new (.vnsHardwareInfo interfaces) → Announced events interfaces)
    (task : ∀ rest interfaces, next.task = .learning rest interfaces →
      net.task = .learning rest interfaces)
    (listener : next.listener.interfaces = net.listener.interfaces) : Announces events next where
  learning := fun rest interfaces current =>
    announces.learning rest interfaces (task rest interfaces current)
  known := by
    rw [listener]
    exact announces.known
  sent := by
    intro conn link interfaces there member
    rcases posts conn link there _ member with new | ⟨old, was, earlier⟩
    · exact announced interfaces new
    · exact announces.sent conn old interfaces was earlier

theorem Announces.quiet (announces : Announces events net) (posts : Posts net next fun _ => False)
    (task : ∀ rest interfaces, next.task = .learning rest interfaces →
      net.task = .learning rest interfaces)
    (listener : next.listener.interfaces = net.listener.interfaces) : Announces events next :=
  announces.keep posts (fun _ impossible => impossible.elim) task listener

theorem Announces.step {event : NetEvent} (announces : Announces events net)
    (wellFormed : WellFormed net) (happens : event ∈ events)
    (taken : net.step event = some next) : Announces events next := by
  cases event with
  | connect process routingTable now =>
      obtain ⟨-, rfl⟩ := connect_cases taken
      refine announces.quiet ?_ (fun _ _ => id) rfl
      intro conn after there message member
      rcases Nat.lt_or_ge conn net.links.length with inside | outside
      · exact Or.inr ⟨after, (List.getElem?_append_left inside).symm.trans there, member⟩
      · have new := (List.getElem?_append_right outside).symm.trans there
        obtain ⟨only, same⟩ := List.getElem?_eq_some_iff.mp new
        rw [List.getElem_singleton] at same
        rw [← same] at member
        cases member
  | requestAuth salt =>
      obtain ⟨-, source, -, rfl⟩ := requestAuth_cases taken
      obtain ⟨task, listener⟩ := server_send { net with requesting := none } source
        (.decodable (.vnsAuthRequest ⟨salt⟩))
      have posts : Posts net _ (· = LtMessage.decodable (.vnsAuthRequest ⟨salt⟩)) :=
        posts_send { net with requesting := none } source _
      exact announces.keep posts (fun _ same => by cases same)
        (fun rest interfaces current => task.symm.trans current)
        (congrArg SrServerListener.interfaces listener)
  | receive source connText drops =>
      obtain ⟨link, bytes, toServer, handled, received⟩ := receive_cases taken
      have was := received.there
      have first : Posts net (net.setLink source { link with toServer := toServer })
          fun _ => False := posts_setLink was rfl
      have posts := (first.mono fun _ impossible => impossible.elim).trans
        (posts_applyAll (net.setLink source { link with toServer := toServer }) source
          (net.listener.handleRecvMsg source connText (decode bytes)).effects)
      obtain ⟨task, listener⟩ := server_applyAll
        (net.setLink source { link with toServer := toServer }) source
        (net.listener.handleRecvMsg source connText (decode bytes)).effects
      have announced : Announces events handled := by
        rw [received.handles]
        refine announces.keep posts (fun interfaces sends => ?_)
          (fun rest interfaces current => task.symm.trans current)
          (congrArg SrServerListener.interfaces listener)
        obtain ⟨target, member⟩ := sends
        exact announces.known interfaces (handleRecvMsg_hardwareInfo member)
      rw [received.ends]
      split
      · exact announced.quiet (posts_of_links rfl) (fun _ _ => id) rfl
      · exact announced
  | disconnected source =>
      obtain ⟨-, -, -, rfl⟩ := disconnected_cases taken
      exact announces.quiet (posts_of_links rfl) (fun _ _ => id) rfl
  | packetIn port pkt =>
      obtain ⟨-, ⟨-, rfl⟩ | ⟨packet, -, -, rfl⟩⟩ := packetIn_cases taken
      · exact announces
      · exact announces.quiet (posts_of_links rfl)
          (fun _ _ current => Task.noConfusion current) rfl
  | broadcastNext =>
      obtain ⟨packet, number, -, ⟨-, rfl⟩ | ⟨-, rfl⟩⟩ := broadcastNext_cases wellFormed taken
      · have posts : Posts net { net.send number (packetMessageOf packet) with
            task := .broadcasting packet (number + 1) } (· = packetMessageOf packet) :=
          posts_send net number _
        exact announces.keep posts (fun _ same => by cases same)
          (fun _ _ current => Task.noConfusion current)
          (congrArg SrServerListener.interfaces (server_send net number _).2)
      · exact announces.quiet (posts_of_links rfl)
          (fun _ _ current => Task.noConfusion current) rfl
  | routerInfo info =>
      obtain ⟨-, rfl⟩ := routerInfo_cases taken
      refine ⟨fun rest interfaces current => ?_, announces.known, announces.sent⟩
      cases current
      exact ⟨[], happens, .nil⟩
  | learnNext =>
      rw [Net.step, Net.learnNext] at taken
      split at taken
      · next interfaces current =>
          cases taken
          obtain ⟨done, whole, describes⟩ := announces.learning [] interfaces current
          rw [List.append_nil] at whole
          refine ⟨fun _ _ idle => Task.noConfusion idle, fun others known => ?_, announces.sent⟩
          cases known
          exact ⟨done, whole, describes⟩
      · next intf info rest interfaces current =>
          split at taken
          · next interface listener learned =>
              cases taken
              obtain ⟨done, whole, describes⟩ := announces.learning _ interfaces current
              obtain ⟨own, same⟩ := learn_eq_some learned
              refine ⟨fun others built next => ?_, fun others known => ?_, announces.sent⟩
              · cases next
                refine ⟨done ++ [(intf, info)], ?_, List.rel_append describes (.cons own .nil)⟩
                rw [List.append_assoc]
                exact whole
              · exact announces.known others (same.symm.trans known)
          · cases taken
            exact announces.quiet (posts_of_links rfl)
              (fun _ _ idle => Task.noConfusion idle) rfl
      · cases taken
  | reads conn now =>
      obtain ⟨link, message, toRouter, bytes, turn, there, -, took, -, -, rfl⟩ := reads_cases taken
      exact announces.quiet (posts_setLink there (Fifo.sent_take took)) (fun _ _ => id) rfl
  | timesOut conn now =>
      obtain ⟨link, there, -, rfl⟩ := timesOut_cases taken
      exact announces.quiet (posts_setLink there rfl) (fun _ _ => id) rfl

theorem announces_init : Announces events Net.init where
  learning := fun _ _ idle => Task.noConfusion idle
  known := fun _ none_ => absurd none_.symm (Option.some_ne_none _)
  sent := fun _ _ _ there => absurd there.symm (Option.some_ne_none _)

end Announces

/-! ## The configuration -/

/-- The interface has the name and, in octets, the addresses that the switch told in text. -/
structure Configured (entry : Str × IntfInfo) (interface : SrIf) : Prop where
  name : cString srIfaceNamelen interface.name = entry.1
  mac : packMac entry.2.mac = some interface.addr.toList
  ip : packIp entry.2.ip = some (bytes32 interface.ip)

theorem init_eq_some {name mac ip mask : Str} {interface : VnsInterface}
    (built : VnsInterface.init name mac ip mask = some interface) :
    interface.name = name ∧ interface.mac.toList = mac ∧ interface.ip.toList = ip := by
  rw [VnsInterface.init] at built
  split at built
  · cases built
    exact ⟨rfl, rfl, rfl⟩
  · cases built

theorem Describes.configured {entry : Str × IntfInfo} {interface : VnsInterface}
    (describes : Describes entry interface) (named : Registrable entry.1) :
    Configured entry (registeredAs interface) := by
  obtain ⟨ip, packedIp, rest⟩ := Option.bind_eq_some_iff.mp describes
  obtain ⟨mac, packedMac, rest⟩ := Option.bind_eq_some_iff.mp rest
  obtain ⟨mask, -, built⟩ := Option.bind_eq_some_iff.mp rest
  obtain ⟨name, rfl, rfl⟩ := init_eq_some built
  have registered := registered_registeredAs (name ▸ named : Registrable interface.name)
  rw [SrIf.registered, vnsRegistered, Prod.mk.injEq, Prod.mk.injEq] at registered
  obtain ⟨ownName, ownMac, ownIp⟩ := registered
  exact ⟨ownName.trans name, packedMac.trans (congrArg some ownMac.symm),
    packedIp.trans (congrArg some ownIp.symm)⟩

theorem configured_of_describes {info : List (Str × IntfInfo)}
    (describes : List.Forall₂ Describes info interfaces)
    (named : ∀ entry ∈ info, Registrable entry.1) :
    List.Forall₂ Configured info (interfaces.map registeredAs) := by
  induction describes with
  | nil => exact .nil
  | cons first rest inductionHypothesis =>
      exact .cons (first.configured (named _ (List.mem_cons_self ..)))
        (inductionHypothesis fun entry member => named entry (List.mem_cons_of_mem _ member))

theorem exists_of_forall₂ {α β : Type*} {related : α → β → Prop} {front : List α}
    {back : List β} (all : List.Forall₂ related front back) {value : β} (member : value ∈ back) :
    ∃ own ∈ front, related own value := by
  induction all with
  | nil => cases member
  | @cons first other _ _ pair rest inductionHypothesis =>
      rcases List.mem_cons.mp member with rfl | later
      · exact ⟨first, List.mem_cons_self .., pair⟩
      · obtain ⟨own, inside, same⟩ := inductionHypothesis later
        exact ⟨own, List.mem_cons_of_mem _ inside, same⟩

theorem sound_of_describes {info : List (Str × IntfInfo)}
    (describes : List.Forall₂ Describes info interfaces) (few : info.length ≤ 46)
    (named : ∀ entry ∈ info, Registrable entry.1) : Sound interfaces where
  named := by
    intro interface member
    obtain ⟨entry, inside, own⟩ := exists_of_forall₂ describes member
    obtain ⟨ip, -, rest⟩ := Option.bind_eq_some_iff.mp own
    obtain ⟨mac, -, rest⟩ := Option.bind_eq_some_iff.mp rest
    obtain ⟨mask, -, built⟩ := Option.bind_eq_some_iff.mp rest
    exact (init_eq_some built).1 ▸ named entry inside
  few := describes.length_eq ▸ few

theorem equippedNet_init : EquippedNet .init where
  informed := ⟨sessions_init, fun _ _ there => absurd there.symm (Option.some_ne_none _)⟩
  equipped := fun _ _ there => absurd there.symm (Option.some_ne_none _)

theorem announces_run {events : List NetEvent}
    (reached : run Net.step .init events = some net) :
    EquippedNet net ∧ Announces events net := by
  refine @run_preserves _ _ Net.step (fun _ event => event ∈ events)
    (fun net => EquippedNet net ∧ Announces events net)
    (fun net event next holds happens taken => ?_) _ _ _ ⟨equippedNet_init, announces_init⟩
    (meets_of_forall (fun event member _ => member) _) reached
  exact ⟨holds.1.step taken, holds.2.step holds.1.informed.sessions.wellFormed happens taken⟩

theorem EquippedNet.configured {events : List NetEvent} {conn : Conn}
    (equippedNet : EquippedNet net) (announces : Announces events net)
    (there : net.links[conn]? = some link)
    (plain : ∀ info, .routerInfo info ∈ events →
      info.length ≤ 46 ∧ ∀ entry ∈ info, Registrable entry.1) :
    (¬ link.phase.Looped ∨ (∀ message ∈ link.toRouter.taken, message.getType ≠ vnsHwinfo) →
        link.sr.ifList = []) ∧
      (link.phase.Looped → (∃ message ∈ link.toRouter.taken, message.getType = vnsHwinfo) →
        ∃ info, .routerInfo info ∈ events ∧ List.Forall₂ Configured info link.sr.ifList) := by
  have equipped := equippedNet.equipped conn link there
  refine ⟨fun early => ?_, fun looped took => ?_⟩
  · rcases early with connecting | uninformed
    · exact equipped.bare connecting
    · exact (equippedNet.informed.informed conn link there).bare uninformed
  · obtain ⟨message, member, type⟩ := took
    obtain ⟨interfaces, rfl⟩ := getType_eq_vnsHwinfo type
    have sent := (@Fifo.taken_prefix_sent _ link.toRouter).subset member
    obtain ⟨info, announced, describes⟩ := announces.sent conn link interfaces there sent
    obtain ⟨few, named⟩ := plain info announced
    refine ⟨info, announced, ?_⟩
    rw [equipped.equipped looped interfaces member (sound_of_describes describes few named)]
    exact configured_of_describes describes named

/-- In every run, a router's process looks its frames up in no interfaces as long as it took no
hardware information or is not in its main loop, and otherwise in exactly those of one
description by the switch, in its order. -/
theorem configuration_reaches_router {events : List NetEvent} {conn : Conn}
    (reached : run Net.step .init events = some net) (there : net.links[conn]? = some link)
    (plain : ∀ info, .routerInfo info ∈ events →
      info.length ≤ 46 ∧ ∀ entry ∈ info, Registrable entry.1) :
    (¬ link.phase.Looped ∨ (∀ message ∈ link.toRouter.taken, message.getType ≠ vnsHwinfo) →
        link.sr.ifList = []) ∧
      (link.phase.Looped → (∃ message ∈ link.toRouter.taken, message.getType = vnsHwinfo) →
        ∃ info, .routerInfo info ∈ events ∧ List.Forall₂ Configured info link.sr.ifList) := by
  obtain ⟨equippedNet, announces⟩ := announces_run reached
  exact equippedNet.configured announces there plain

theorem lanRun_plain : ∀ info, .routerInfo info ∈ lanRun →
    info.length ≤ 46 ∧ ∀ entry ∈ info, Registrable entry.1 := by
  intro info told
  have only : info = [(eth0.name, eth0Info), (uplink, uplinkInfo)] := by
    simpa [lanRun, switchConnects, lanSession, registers, answers] using told
  subst only
  refine ⟨by decide, fun entry member => ?_⟩
  rcases List.mem_cons.mp member with rfl | member
  · exact ⟨by decide, by decide, by decide⟩
  · cases List.mem_singleton.mp member
    exact ⟨by decide, by decide, by decide⟩

/-- Its process is in the main loop and took the hardware information. -/
theorem lanLink_configured :
    (lanLink.phase = .running ∧
      (∃ message ∈ lanLink.toRouter.taken, message.getType = vnsHwinfo) ∧
      lanLink.sr.ifList.length = 2) ∧
    (¬ lanLink.phase.Looped ∨
          (∀ message ∈ lanLink.toRouter.taken, message.getType ≠ vnsHwinfo) →
        lanLink.sr.ifList = []) ∧
      (lanLink.phase.Looped →
        (∃ message ∈ lanLink.toRouter.taken, message.getType = vnsHwinfo) →
        ∃ info, .routerInfo info ∈ lanRun ∧ List.Forall₂ Configured info lanLink.sr.ifList) :=
  ⟨by decide +kernel, configuration_reaches_router lanEnd_reached lanLink_there lanRun_plain⟩

end Cmput313.Network
