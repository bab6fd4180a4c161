import Cmput313.Router.GuardedMoves

/-!
# Every function is a sequence of moves

Each function of the router makes guarded moves, whatever `handle_arpreq` it is
given as long as that one does when it is called on a request it may be called on.
Without the guards the same lemmas hold from any state at all.
-/

set_option autoImplicit false

namespace Cmput313.Router

open Cmput313.Bytes Cmput313.Program

/-- What a state shows where the router faults in it: a request without packets
was asked for its first one.  An assertion fails only where that is allowed. -/
def Fault.Explained (asserting : Prop) (fault : Fault) (sr : SrInstance) : Prop :=
  match fault with
  | .nullPacket => ∃ req, sr.request? req.id = some req ∧ req.packets = []
  | .assertion _ => asserting
  | _ => True

/-- The program only makes moves, and an explained fault if any. -/
abbrev KeepsMoves {α : Type} (asserting : Prop) (start : SrInstance) (program : Sr α)
    (good : α → Prop) : Prop :=
  Keeps (Moves start) (Fault.Explained asserting) program good

abbrev KeepsGuarded {α : Type} (guards : Guards) (asserting : Prop) (start : SrInstance)
    (program : Sr α) (good : α → Prop) : Prop :=
  Keeps (GuardedMoves guards start) (Fault.Explained asserting) program good

/-- Called on a request that it may be called on, `handle` makes guarded moves. -/
def HandlesHeld (guards : Guards) (asserting : Prop) (handle : Nat → Sr Unit) : Prop :=
  ∀ sr id, (guards.ready → Ready sr) → (guards.ready → Held sr id) →
    Ends (handle id) sr (fun _ => GuardedMoves guards sr) fun fault next =>
      GuardedMoves guards sr next ∧ fault.Explained asserting next

/-- The mapping of an ARP reply for one of the router's addresses, as it is read. -/
structure HearsReply (memory : Memory) (ifList : List SrIf) (buf : Bytes) (mac : Mac)
    (ip : UInt32) : Prop where
  header : sizeofEthernetHdr ≤ buf.length
  type : ntohs (peek16 memory.beyond buf etherType) = ethertypeArp
  op : ntohs (peek16 memory.beyond buf arOp) = arpOpReply
  target : ∃ interface ∈ ifList, interface.ip = peek32 memory.beyond buf arTip
  sha : mac = Vector.ofFn fun i => peek memory.beyond buf (arSha + i)
  sip : ip = peek32 memory.beyond buf arSip

/-! ## Frames that the router writes -/

theorem icmpErrorPacket_long (memory : Memory) (hl : Nat) (type code : UInt8)
    (src dst : UInt32) (quoted : Bytes) :
    50 ≤ (icmpErrorPacket memory hl type code src dst quoted).length := by
  unfold icmpErrorPacket
  repeat refine Nat.le_trans ?_ (length_le_length_put _ _ _)
  simp [sizeofEthernetHdr, sizeofIcmpT3Hdr]

theorem isDatagram_icmpErrorPacket (memory : Memory) (hl : Nat) (type code : UInt8)
    (src dst : UInt32) (quoted : Bytes) :
    IsDatagram (icmpErrorPacket memory hl type code src dst quoted) := by
  have icmpHdr : etherType + 2 ≤ sizeofEthernetHdr + hl * 4 := Nat.le_add_right 14 _
  unfold icmpErrorPacket
  -- the header fields and the ICMP message lie behind the type
  iterate 6 refine isDatagram_put_behind ?_ (Nat.le_add_right_of_le icmpHdr) _
  refine isDatagram_put_behind ?_ icmpHdr _
  iterate 11 refine isDatagram_put_behind ?_ (by decide) _
  show List.take (bytes16 (htons ethertypeIp)).length _ = _
  apply take_drop_put_self
  repeat refine Nat.le_trans ?_ (length_le_length_put _ _ _)
  rw [List.length_map, List.length_range]
  exact Nat.le_trans (by decide) (Nat.le_add_left _ _)

theorem field_of_ntohs (memory : Memory) {buf : Bytes} {offset : Nat} {value : UInt16}
    (inside : offset + 2 ≤ buf.length)
    (reads : ntohs (peek16 memory.beyond buf offset) = value) :
    (buf.drop offset).take 2 = bytes16 (htons value) := by
  rw [← reads, ← bytes16_peek16 memory.beyond inside]
  exact congrArg bytes16 (swap16_swap16 _).symm

theorem isDatagram_of_type (memory : Memory) {buf : Bytes} (long : 14 ≤ buf.length)
    (type : ntohs (peek16 memory.beyond buf etherType) = ethertypeIp) : IsDatagram buf :=
  field_of_ntohs memory long type

theorem arpReplyFields_behind_addresses (interface : SrIf) (sha sip : Bytes) :
    ∀ write ∈ arpReplyFields interface sha sip, etherShost + 6 ≤ write.1 := by
  intro write member
  simp only [arpReplyFields, List.mem_cons, List.not_mem_nil, or_false] at member
  rcases member with rfl | rfl | rfl | rfl | rfl | rfl | rfl | rfl | rfl | rfl <;>
    simp [etherShost, etherType, arHrd, arPro, arHln, arPln, arOp, arSha, arSip,
      arTha, arTip]

theorem isArpReply_putAll {interface : SrIf} {sha sip buf : Bytes}
    (fit : Fit (arpReplyFields interface sha sip) buf.length) :
    IsArpReply (putAll (arpReplyFields interface sha sip) buf) where
  type := by
    apply take_drop_putAll_self [] ((arpReplyFields interface sha sip).drop 1) _ fit
    intro write member
    simp only [arpReplyFields, List.drop_succ_cons, List.drop_zero, List.mem_cons,
      List.not_mem_nil, or_false] at member
    rcases member with rfl | rfl | rfl | rfl | rfl | rfl | rfl | rfl | rfl <;>
      exact Or.inl (Nat.le_of_ble_eq_true rfl)
  op := by
    apply take_drop_putAll_self ((arpReplyFields interface sha sip).take 5)
      ((arpReplyFields interface sha sip).drop 6) _ fit
    intro write member
    simp only [arpReplyFields, List.drop_succ_cons, List.drop_zero, List.mem_cons,
      List.not_mem_nil, or_false] at member
    rcases member with rfl | rfl | rfl | rfl <;> exact Or.inl (Nat.le_of_ble_eq_true rfl)

/-! ## Reading, writing and sending -/

section Primitives

variable {guards : Guards} {asserting : Prop} {start : SrInstance} (memory : Memory)

theorem keeps_guarded_touch (buf : Buf) (offset size : Nat) :
    KeepsGuarded guards asserting start (touch buf offset size) fun _ => True :=
  keeps_modify trivial fun _ before => before.next (.touch buf offset size)

theorem keeps_guarded_note {event : Event} (isNote : event.IsNote) :
    KeepsGuarded guards asserting start (log event) fun _ => True :=
  keeps_modify trivial fun _ before => before.next (.note event isNote)

theorem keeps_guarded_load (buf : Buf) (offset size : Nat) :
    KeepsGuarded guards asserting start (load memory buf offset size)
      (fun bytes => bytes = read memory.beyond buf.bytes offset size) :=
  fun _ before => ⟨before.next (.touch buf offset size), rfl⟩

theorem keeps_guarded_load8 (buf : Buf) (offset : Nat) :
    KeepsGuarded guards asserting start (load8 memory buf offset) fun _ => True :=
  fun _ before => ⟨before.next (.touch buf offset 1), trivial⟩

theorem keeps_guarded_load16 (buf : Buf) (offset : Nat) :
    KeepsGuarded guards asserting start (load16 memory buf offset)
      (fun word => word = peek16 memory.beyond buf.bytes offset) :=
  fun _ before => ⟨before.next (.touch buf offset 2), rfl⟩

theorem keeps_guarded_load32 (buf : Buf) (offset : Nat) :
    KeepsGuarded guards asserting start (load32 memory buf offset)
      (fun word => word = peek32 memory.beyond buf.bytes offset) :=
  fun _ before => ⟨before.next (.touch buf offset 4), rfl⟩

theorem keeps_guarded_store (buf : Buf) (offset : Nat) (bytes : Bytes) :
    KeepsGuarded guards asserting start (store buf offset bytes) fun stored =>
      offset + bytes.length ≤ buf.bytes.length ∧
        stored = { buf with bytes := put buf.bytes offset bytes } := by
  intro sr before
  rw [ends_store]
  split
  · rename_i fits
    exact ⟨before.next (.touch _ _ _), fits, rfl⟩
  · exact ⟨before.next (.touch _ _ _), trivial⟩

theorem keeps_guarded_storeAll (writes : List (Nat × Bytes)) :
    ∀ buf : Buf, KeepsGuarded guards asserting start (storeAll writes buf) fun stored =>
      Fit writes buf.bytes.length ∧
        stored = { buf with bytes := putAll writes buf.bytes } := by
  induction writes with
  | nil => exact fun buf => keeps_pure ⟨fun _ member => absurd member List.not_mem_nil, rfl⟩
  | cons write rest inductionHypothesis =>
      intro buf
      apply keeps_bind (keeps_guarded_store buf write.1 write.2)
      rintro _ ⟨fits, rfl⟩
      apply (inductionHypothesis _).weaken
      rintro _ ⟨restFits, rfl⟩
      have length := put_length fits
      refine ⟨?_, rfl⟩
      intro other member
      rcases List.mem_cons.mp member with rfl | later
      · exact fits
      · exact length ▸ restFits other later

theorem keeps_guarded_edit {buf : Buf} (carries : guards.ready → IsDatagram buf.bytes)
    {offset : Nat} (behind : etherType + 2 ≤ offset) (bytes : Bytes) :
    KeepsGuarded guards asserting start (store buf offset bytes) fun stored =>
      offset + bytes.length ≤ stored.bytes.length ∧
        buf.bytes.length ≤ stored.bytes.length ∧
        (guards.ready → IsDatagram stored.bytes) := by
  apply (keeps_guarded_store buf offset bytes).weaken
  rintro _ ⟨fits, rfl⟩
  have longer := length_le_length_put buf.bytes offset bytes
  exact ⟨Nat.le_trans fits longer, longer,
    fun ready => isDatagram_put_behind (carries ready) behind bytes⟩

theorem keeps_guarded_address {buf : Buf} (carries : guards.ready → IsDatagram buf.bytes)
    {offset : Nat} {bytes : Bytes} (before : offset + bytes.length ≤ etherType) :
    KeepsGuarded guards asserting start (store buf offset bytes) fun stored =>
      (stored.bytes.drop offset).take bytes.length = bytes ∧
        stored.bytes.length = buf.bytes.length ∧
        (guards.ready → IsDatagram stored.bytes) := by
  apply (keeps_guarded_store buf offset bytes).weaken
  rintro _ ⟨fits, rfl⟩
  refine ⟨take_drop_put_self fits, put_length fits, fun ready => ?_⟩
  have fit : Fit [(offset, bytes)] buf.bytes.length :=
    fun write member => List.mem_singleton.mp member ▸ fits
  exact isDatagram_putAll (carries ready) fit
    fun write member => List.mem_singleton.mp member ▸ before

theorem keeps_guarded_dereference (interface : Option SrIf) :
    KeepsGuarded guards asserting start (dereference interface)
      (fun found => interface = some found) := by
  intro sr before
  cases interface with
  | none => exact ⟨before, trivial⟩
  | some found => exact ⟨before, rfl⟩

theorem keeps_guarded_getInterfaceByIp (ip : UInt32) :
    KeepsGuarded guards True start (srGetInterfaceByIp ip) fun found =>
      found = start.ifList.find? fun walker => walker.ip = ip := by
  intro sr before
  rw [ends_srGetInterfaceByIp]
  split
  · exact ⟨before, trivial⟩
  · exact ⟨before, by rw [before.moves.grows.ifList]⟩

theorem keeps_guarded_send {buf : Bytes} {iface : Name} {interface : SrIf}
    (found : srGetInterface start.ifList iface = some interface)
    (source : (buf.drop etherShost).take 6 = interface.addr.toList)
    (typed : guards.ready → IsDatagram buf ∨ IsArpReply buf) :
    KeepsGuarded guards asserting start (srSendPacket buf iface) fun _ => True := by
  intro sr before
  apply ends_srSendPacket
  intro value
  have current : srGetInterface sr.ifList iface = some interface := by
    rw [before.moves.grows.ifList, found]
  exact ⟨before.next (.send buf iface interface current source typed), trivial⟩

theorem keeps_guarded_errorSource (packet : Buf) (code : UInt8)
    (interface : Option SrIf) :
    KeepsGuarded guards asserting start (errorSource memory packet code interface)
      fun _ => True :=
  keeps_ite (fun _ => (keeps_guarded_load32 memory _ _).weaken fun _ _ => trivial) fun _ =>
    keeps_bind (keeps_guarded_dereference _) fun _ _ => keeps_pure trivial

end Primitives

/-! ## What calls on a request may follow -/

section Handle

variable {guards : Guards} {asserting : Prop} {start : SrInstance} (memory : Memory)
  {handle : Nat → Sr Unit} (handles : HandlesHeld guards asserting handle)
  (ready : guards.ready → Ready start)

include handles ready

theorem keeps_guarded_sendOrQueue (gw : UInt32) (packet : Buf) (name : Name)
    (long : 34 ≤ packet.bytes.length) (carries : guards.ready → IsDatagram packet.bytes) :
    KeepsGuarded guards asserting start
      (sendOrQueue handle gw packet (srGetInterface start.ifList name))
      fun _ => True := by
  intro sr before
  simp only [sendOrQueue, ends_bind, ends_get]
  cases lookup : srArpcacheLookup sr.entries gw with
  | some arpEntry =>
      refine keeps_bind (keeps_guarded_address carries ?_) ?_ sr before
      · simp [etherDhost, etherType]
      rintro packet ⟨_, _, carries⟩
      refine keeps_bind (keeps_guarded_dereference _) fun interface found => ?_
      refine keeps_bind (keeps_guarded_address carries ?_) ?_
      · simp [etherShost, etherType]
      rintro packet ⟨source, _, carries⟩
      rw [Vector.length_toList] at source
      exact keeps_bind (keeps_guarded_send (srGetInterface_own_name found) source
        fun ordered => Or.inl (carries ordered)) fun _ _ => keeps_pure trivial
  | none =>
      cases found : srGetInterface start.ifList name with
      | none => exact ⟨before, trivial⟩
      | some interface =>
          have nonempty : packet.bytes.length ≠ 0 := by omega
          have current : srGetInterface sr.ifList interface.name = some interface := by
            rw [before.moves.grows.ifList]
            exact srGetInterface_own_name found
          simp only [ends_bind, ends_dereference_some,
            ends_srArpcacheQueuereq _ _ nonempty]
          have queued := before.next
            (.queue gw packet.bytes _ interface current long lookup carries)
          have called := handles _ _ (queued.preserves_ready ready) fun _ =>
            Or.inl (mem_requestIds_enqueue sr gw packet.bytes interface.name)
          exact called.mono (fun _ _ later => ⟨queued.trans later, trivial⟩)
            fun _ _ stopped => ⟨queued.trans stopped.1, stopped.2⟩

theorem keeps_guarded_sendEchoReply (packet : Buf) (type code : UInt8) (rtEntry : SrRt)
    (name : Name) (carries : guards.ready → IsDatagram packet.bytes) :
    KeepsGuarded guards asserting start
      (sendEchoReply memory handle packet type code rtEntry
        (srGetInterface start.ifList name)) fun _ => True := by
  refine keeps_bind (keeps_guarded_address carries ?_) ?_
  · simp [etherShost, etherType]
  rintro packet ⟨_, _, carries⟩
  refine keeps_bind (keeps_guarded_address carries ?_) ?_
  · simp [etherDhost, etherType]
  rintro packet ⟨_, _, carries⟩
  refine keeps_bind (keeps_guarded_load32 memory _ _) fun temp _ => ?_
  refine keeps_bind (keeps_guarded_load32 memory _ _) fun src _ => ?_
  refine keeps_bind (keeps_guarded_edit carries (by decide) _) ?_
  rintro packet ⟨written, _, carries⟩
  -- the write to ip_dst shows that the frame holds a whole header
  have long : 34 ≤ packet.bytes.length := written
  refine keeps_bind (keeps_guarded_edit carries (by decide) _) ?_
  rintro packet ⟨_, longer, carries⟩
  replace long := Nat.le_trans long longer
  refine keeps_bind (keeps_guarded_load8 memory _ _) fun vhl _ => ?_
  have icmpHdr : etherType + 2 ≤ sizeofEthernetHdr + headerLength vhl * 4 :=
    Nat.le_add_right 14 _
  refine keeps_bind (keeps_guarded_edit carries icmpHdr _) ?_
  rintro packet ⟨_, longer, carries⟩
  replace long := Nat.le_trans long longer
  refine keeps_bind (keeps_guarded_edit carries (Nat.le_add_right_of_le icmpHdr) _) ?_
  rintro packet ⟨_, longer, carries⟩
  replace long := Nat.le_trans long longer
  refine keeps_bind (keeps_guarded_edit carries (Nat.le_add_right_of_le icmpHdr) _) ?_
  rintro packet ⟨_, longer, carries⟩
  replace long := Nat.le_trans long longer
  refine keeps_bind (keeps_guarded_load16 memory _ _) fun len _ => ?_
  refine keeps_bind (keeps_guarded_load8 memory _ _) fun vhl _ => ?_
  refine keeps_bind (keeps_guarded_load memory _ _ _) fun data _ => ?_
  refine keeps_bind (keeps_guarded_edit carries (Nat.le_add_right_of_le icmpHdr) _) ?_
  rintro packet ⟨_, longer, carries⟩
  exact keeps_guarded_sendOrQueue handles ready _ _ _ (Nat.le_trans long longer) carries

theorem keeps_guarded_sendIcmpError (packet : Buf) (type code : UInt8) (rtEntry : SrRt)
    (name : Name) :
    KeepsGuarded guards asserting start
      (sendIcmpError memory handle packet type code rtEntry
        (srGetInterface start.ifList name)) fun _ => True := by
  refine keeps_bind (keeps_guarded_load8 memory _ _) fun vhl _ => ?_
  refine keeps_bind (keeps_guarded_errorSource memory _ _ _) fun src _ => ?_
  refine keeps_bind (keeps_guarded_load32 memory _ _) fun dst _ => ?_
  refine keeps_bind (keeps_guarded_load memory _ _ _) fun quoted _ => ?_
  apply keeps_guarded_sendOrQueue handles ready
  · exact Nat.le_trans (by decide) (icmpErrorPacket_long memory _ _ _ _ _ _)
  · exact fun _ => isDatagram_icmpErrorPacket memory _ _ _ _ _ _

/-- `send_icmp_msg` is its report and what it does after it. -/
theorem sendIcmpMsg_eq_report_then (packet : Buf) (type code : UInt8)
    (carries : guards.ready → IsDatagram packet.bytes) :
    ∃ rest, sendIcmpMsg memory handle packet type code =
        (log (.icmp packet.tag type code) >>= fun _ => rest) ∧
      KeepsGuarded guards asserting start rest fun _ => True := by
  refine ⟨_, rfl, ?_⟩
  refine keeps_bind (keeps_guarded_touch _ _ _) fun _ _ => ?_
  refine keeps_bind (keeps_guarded_load32 memory _ _) fun src _ => ?_
  refine keeps_bind keeps_get fun sr reached => ?_
  rw [reached.moves.grows.ifList]
  cases longestPrefixMatching sr.routingTable src with
  | none => exact keeps_pure trivial
  | some rtEntry =>
      refine keeps_ite (fun _ => ?_) fun _ => keeps_ite (fun _ => ?_) fun _ => ?_
      · exact keeps_guarded_sendEchoReply memory handles ready _ _ _ _ _ carries
      · exact keeps_guarded_sendIcmpError memory handles ready _ _ _ _ _
      · exact keeps_pure trivial

theorem keeps_guarded_sendIcmpMsg (packet : Buf) (type code : UInt8)
    (carries : guards.ready → IsDatagram packet.bytes) :
    KeepsGuarded guards asserting start (sendIcmpMsg memory handle packet type code)
      fun _ => True := by
  obtain ⟨rest, same, keeps⟩ :=
    sendIcmpMsg_eq_report_then memory handles ready packet type code carries
  rw [same]
  exact keeps_bind (keeps_guarded_note trivial) fun _ _ => keeps

theorem ends_guarded_timeOutArpreq (request : SrArpreq) (exists_ : request ∈ start.everyRequest)
    (expired : Expired start.clock request)
    (carry : guards.ready → ∀ packet ∈ request.packets, IsDatagram packet.buf) :
    Ends (timeOutArpreq memory handle request) start (fun _ => GuardedMoves guards start)
      fun fault next => GuardedMoves guards start next ∧ fault.Explained asserting next := by
  unfold timeOutArpreq
  cases waiting : request.packets with
  | nil =>
      apply (GuardedMoves.refl guards start).next
      exact .timeOut request.id (fun _ => ⟨request, exists_, rfl, expired⟩)
        fun _ => ⟨request, exists_, rfl, waiting⟩
  | cons packet rest =>
      have keeps : KeepsGuarded guards asserting start
          ((packet :: rest).forM (fun packet =>
            sendIcmpMsg memory handle ⟨.packet packet.id, packet.buf⟩
              icmpTypeDestUnreachable icmpDestUnreachableHost) >>= fun _ =>
            throw (.freedTwice packet.id)) fun _ : Unit => True := by
        refine keeps_then (keeps_forM trivial fun packet member => ?_) fun _ =>
          keeps_throw fun _ => trivial
        exact keeps_guarded_sendIcmpMsg memory handles ready _ _ _ fun ordered =>
          carry ordered packet (waiting ▸ member)
      exact (keeps start (.refl guards start)).mono (fun _ _ kept => kept.1)
        fun _ _ stopped => stopped

theorem keeps_guarded_srForwardIpPacket (packet : Buf) (long : 34 ≤ packet.bytes.length)
    (carries : guards.ready → IsDatagram packet.bytes) :
    KeepsGuarded guards asserting start (srForwardIpPacket memory handle packet)
      fun _ => True := by
  refine keeps_bind (keeps_guarded_touch _ _ _) fun _ _ => ?_
  refine keeps_bind (keeps_guarded_load16 memory _ _) fun sum _ => ?_
  refine keeps_bind (keeps_guarded_edit carries (by decide) _) ?_
  rintro packet ⟨_, longer, carries⟩
  replace long := Nat.le_trans long longer
  refine keeps_bind (keeps_guarded_load memory _ _ _) fun header _ => ?_
  refine keeps_ite (fun _ => keeps_pure trivial) fun _ => ?_
  refine keeps_bind (keeps_guarded_load8 memory _ _) fun ttl _ => ?_
  refine keeps_ite (fun _ => keeps_guarded_sendIcmpMsg memory handles ready _ _ _ carries)
    fun _ => ?_
  refine keeps_bind (keeps_guarded_edit carries (by decide) _) ?_
  rintro packet ⟨_, longer, carries⟩
  replace long := Nat.le_trans long longer
  refine keeps_bind (keeps_guarded_edit carries (by decide) _) ?_
  rintro packet ⟨_, longer, carries⟩
  replace long := Nat.le_trans long longer
  refine keeps_bind (keeps_guarded_load memory _ _ _) fun header _ => ?_
  refine keeps_bind (keeps_guarded_edit carries (by decide) _) ?_
  rintro packet ⟨_, longer, carries⟩
  replace long := Nat.le_trans long longer
  refine keeps_bind (keeps_guarded_load32 memory _ _) fun dst _ => ?_
  refine keeps_bind keeps_get fun sr reached => ?_
  rw [reached.moves.grows.ifList]
  cases longestPrefixMatching sr.routingTable dst with
  | none => exact keeps_guarded_sendIcmpMsg memory handles ready _ _ _ carries
  | some routingTableEntry =>
      exact keeps_guarded_sendOrQueue handles ready _ _ _ long carries

theorem keeps_guarded_deliverLocally (buf : Buf)
    (carries : guards.ready → IsDatagram buf.bytes) :
    KeepsGuarded guards asserting start (deliverLocally memory handle buf)
      fun _ => True := by
  refine keeps_bind (keeps_guarded_load8 memory _ _) fun protocol _ => ?_
  refine keeps_ite (fun _ => ?_) fun _ => keeps_ite (fun _ => ?_) fun _ => ?_
  · refine keeps_bind (keeps_guarded_load8 memory _ _) fun vhl _ => ?_
    refine keeps_bind (keeps_guarded_load8 memory _ _) fun type _ => ?_
    exact keeps_ite (fun _ => keeps_guarded_sendIcmpMsg memory handles ready _ _ _ carries)
      fun _ => keeps_pure trivial
  · exact keeps_guarded_sendIcmpMsg memory handles ready _ _ _ carries
  · exact keeps_pure trivial

end Handle

theorem keeps_guarded_handleIpFrame {guards : Guards} {start : SrInstance} (memory : Memory)
    {handle : Nat → Sr Unit} (handles : HandlesHeld guards True handle)
    (ready : guards.ready → Ready start) (buf : Buf)
    (carries : guards.ready → IsDatagram buf.bytes) :
    KeepsGuarded guards True start (handleIpFrame memory handle buf) fun _ => True := by
  refine keeps_ite (fun _ => keeps_pure trivial) fun enough => ?_
  have long : 34 ≤ buf.bytes.length := Nat.not_lt.mp enough
  refine keeps_bind (keeps_guarded_load16 memory _ _) fun sum _ => ?_
  refine keeps_bind (keeps_guarded_edit carries (by decide) _) ?_
  rintro buf ⟨_, longer, carries⟩
  replace long := Nat.le_trans long longer
  refine keeps_bind (keeps_guarded_load8 memory _ _) fun vhl _ => ?_
  refine keeps_bind (keeps_guarded_load memory _ _ _) fun header _ => ?_
  refine keeps_ite (fun _ => keeps_pure trivial) fun _ => ?_
  refine keeps_bind (keeps_guarded_edit carries (by decide) _) ?_
  rintro buf ⟨_, longer, carries⟩
  replace long := Nat.le_trans long longer
  refine keeps_bind (keeps_guarded_load8 memory _ _) fun ttl _ => ?_
  refine keeps_ite (fun _ => keeps_guarded_sendIcmpMsg memory handles ready _ _ _ carries)
    fun _ => ?_
  refine keeps_bind (keeps_guarded_load32 memory _ _) fun dst _ => ?_
  refine keeps_bind (keeps_guarded_getInterfaceByIp dst) fun interface _ => ?_
  cases interface with
  | some _ => exact keeps_guarded_deliverLocally memory handles ready _ carries
  | none => exact keeps_guarded_srForwardIpPacket memory handles ready _ long carries

/-! ## ARP requests -/

section Arp

variable {guards : Guards} {asserting : Prop} {start : SrInstance} (memory : Memory)

theorem ends_guarded_broadcastArpreq {request : SrArpreq} {sr : SrInstance}
    (live : sr.request? request.id = some request)
    (queued : guards.ready → request ∈ sr.requests)
    (due : sr.clock - request.sent > 1) (left : request.timesSent < 5) :
    Ends (broadcastArpreq request) sr (fun _ => GuardedMoves guards sr) fun fault next =>
      GuardedMoves guards sr next ∧ fault.Explained asserting next := by
  unfold broadcastArpreq
  cases packets : request.packets with
  | nil => exact ⟨.refl guards sr, request, live, packets⟩
  | cons packet rest =>
      simp only [ends_bind, ends_get]
      cases found : srGetInterface sr.ifList packet.iface with
      | none => exact .refl guards sr
      | some interface =>
          simp only [ends_bind, ends_log]
          apply ends_srSendPacket
          intro value
          apply (GuardedMoves.refl guards sr).next
          exact .broadcast request packet interface live queued due left
            (by rw [packets]; rfl) found

theorem handlesHeld_handleArpreq (depth : Nat) :
    HandlesHeld guards asserting (handleArpreq memory depth) := by
  induction depth with
  | zero => exact fun sr _ _ _ => ⟨.refl guards sr, trivial⟩
  | succ depth inductionHypothesis =>
      intro sr id ready held
      simp only [handleArpreq, ends_bind, ends_get]
      cases live : sr.request? id with
      | none => exact ⟨.refl guards sr, trivial⟩
      | some request =>
          obtain rfl : request.id = id := by simpa using List.find?_some live
          have exists_ : request ∈ sr.everyRequest := List.mem_of_find?_eq_some live
          simp only [ends_ite]
          split
          · rename_i due
            split
            · rename_i spent
              exact ends_guarded_timeOutArpreq memory inductionHypothesis ready request exists_
                ⟨due, spent⟩ fun ordered => (ready ordered).datagrams request exists_
            · rename_i left
              apply ends_guarded_broadcastArpreq live _ due (Nat.not_le.mp left)
              exact fun ordered => (held ordered).mem_requests (ready ordered).addressed live
                (Nat.not_le.mp left)
          · exact .refl guards sr

end Arp

/-! ## Received frames -/

section Frames

variable {guards : Guards} {asserting : Prop} {start : SrInstance} (memory : Memory)

theorem keeps_guarded_replyToArpRequest (buf : Buf) (iface : Name) :
    KeepsGuarded guards asserting start (replyToArpRequest memory buf iface)
      fun _ => True := by
  refine keeps_bind keeps_get fun sr reached => ?_
  rw [reached.moves.grows.ifList]
  refine keeps_bind (keeps_guarded_load memory _ _ _) fun copy _ => ?_
  refine keeps_bind (keeps_guarded_load memory _ _ _) fun requester _ => ?_
  refine keeps_bind (keeps_guarded_store _ _ _) ?_
  rintro dhost ⟨_, rfl⟩
  refine keeps_bind (keeps_guarded_dereference _) fun interface found => ?_
  refine keeps_bind (keeps_guarded_store _ _ _) ?_
  rintro _ ⟨fits, rfl⟩
  refine keeps_bind (keeps_guarded_load memory _ _ _) fun sha _ => ?_
  refine keeps_bind (keeps_guarded_load memory _ _ _) fun sip _ => ?_
  refine keeps_bind (keeps_guarded_storeAll _ _) ?_
  rintro _ ⟨fit, rfl⟩
  have outside : ∀ write ∈ arpReplyFields interface sha sip,
      etherShost + 6 ≤ write.1 ∨ write.1 + write.2.length ≤ etherShost :=
    fun write member =>
      Or.inl (arpReplyFields_behind_addresses interface sha sip write member)
  have own := take_drop_put_self fits
  have reply := isArpReply_putAll fit
  generalize arpReplyFields interface sha sip = fields at outside fit reply ⊢
  rw [← put_length fits] at fits
  simp only [Vector.length_toList] at own fits
  -- no later write reaches the source address
  have source := (take_drop_putAll outside fit fits).trans own
  exact keeps_bind (keeps_guarded_send (srGetInterface_own_name found) source
    fun _ => Or.inr reply) fun _ _ => keeps_pure trivial

theorem keeps_guarded_sendWaiting (mac : Mac) (arpPacket : SrPacket)
    (carries : guards.ready → IsDatagram arpPacket.buf) :
    KeepsGuarded guards asserting start (sendWaiting mac arpPacket) fun _ => True := by
  refine keeps_bind keeps_get fun sr reached => ?_
  rw [reached.moves.grows.ifList]
  cases found : srGetInterface start.ifList arpPacket.iface with
  | none => exact keeps_pure trivial
  | some interface =>
      refine keeps_bind (keeps_guarded_storeAll _ _) ?_
      rintro _ ⟨fit, rfl⟩
      refine keeps_bind (keeps_guarded_send found ?_ ?_) fun _ _ => keeps_pure trivial
      · have dhost := fit _ (List.mem_cons_self ..)
        have shost := fit (etherShost, interface.addr.toList) (by simp)
        rw [← put_length dhost] at shost
        have written := take_drop_put_self shost
        rwa [Vector.length_toList] at written
      · intro ordered
        apply Or.inl
        apply isDatagram_putAll (carries ordered) fit
        intro write member
        simp only [List.mem_cons, List.not_mem_nil, or_false] at member
        rcases member with rfl | rfl <;> simp [etherDhost, etherShost, etherType]

theorem keeps_requests_sendWaiting (requests : List SrArpreq) (mac : Mac)
    (arpPacket : SrPacket) :
    Keeps (fun sr => sr.requests = requests) (fun _ _ => True)
      (sendWaiting mac arpPacket) fun _ => True := by
  intro sr same
  simp only [sendWaiting, storeAll, ends_bind, ends_get]
  cases srGetInterface sr.ifList arpPacket.iface with
  | none => exact ⟨same, trivial⟩
  | some interface =>
      simp only [ends_bind, ends_store, ends_pure]
      split
      · split
        · exact ends_srSendPacket _ _ _ _ _ fun _ => ⟨same, trivial⟩
        · exact ⟨same, trivial⟩
      · exact ⟨same, trivial⟩

theorem ends_srArpcacheInsert (sr : SrInstance) (mac : Mac) (ip : UInt32)
    (stopped : Fault → SrInstance → Prop)
    (returned : Option SrArpreq → SrInstance → Prop) :
    Ends (srArpcacheInsert mac ip) sr returned stopped ↔
      returned (sr.requests.find? fun req => req.ip = ip)
        (match sr.requests.find? fun req => req.ip = ip with
          | some found =>
              { sr.unlink found with
                entries := insertMapping sr.entries mac ip sr.clock }
          | none => { sr with entries := insertMapping sr.entries mac ip sr.clock }) := by
  simp only [srArpcacheInsert, ends_bind, ends_get]
  cases sr.requests.find? fun req => req.ip = ip with
  | none => rfl
  | some found => rfl

theorem destroy_of_unlinked {sr : SrInstance} {id : Nat}
    (unlinked : ∀ req ∈ sr.requests, req.id ≠ id) : sr.destroy id = sr := by
  have absent : (sr.requests.find? fun req => req.id = id) = none := by
    simpa using unlinked
  simp only [SrInstance.destroy, absent]

variable (ready : guards.ready → Ready start)

include ready

theorem keeps_guarded_acceptArpReply (buf : Buf)
    (heard : guards.heard (Vector.ofFn fun i => peek memory.beyond buf.bytes (arSha + i))
      (peek32 memory.beyond buf.bytes arSip)) :
    KeepsGuarded guards asserting start (acceptArpReply memory buf) fun _ => True := by
  refine keeps_bind (keeps_guarded_touch _ _ _) fun _ _ => ?_
  generalize (Vector.ofFn fun i => peek memory.beyond buf.bytes (arSha + i)) = mac at heard ⊢
  refine keeps_bind (keeps_guarded_load32 memory _ _) ?_
  rintro sip rfl
  generalize peek32 memory.beyond buf.bytes arSip = sip at heard ⊢
  intro sr before
  have learned := before.next (.learn mac sip heard)
  rw [ends_bind, ends_srArpcacheInsert]
  unfold SrInstance.learn at learned
  cases found : sr.requests.find? fun req => req.ip = sip with
  | none =>
      simp only [found] at learned
      exact ⟨learned, trivial⟩
  | some arpEntry =>
      simp only [found] at learned
      simp only [ends_bind, ends_log]
      have queued : arpEntry ∈ sr.everyRequest :=
        mem_everyRequest_of_mem (List.mem_of_find?_eq_some found)
      have carry : guards.ready → ∀ packet ∈ arpEntry.packets, IsDatagram packet.buf :=
        fun ordered => (before.preserves_ready ready ordered).datagrams arpEntry queued
      have loop : Keeps
          (fun next => GuardedMoves guards start next ∧
            next.requests = (sr.unlink arpEntry).requests)
          (Fault.Explained asserting) (arpEntry.packets.forM (sendWaiting mac)) fun _ => True :=
        keeps_forM trivial fun packet member =>
          ((keeps_guarded_sendWaiting mac packet fun ordered => carry ordered packet member).and
            (keeps_requests_sendWaiting _ mac packet)).weaken fun _ _ => trivial
      refine (loop _ ⟨learned, rfl⟩).mono ?_ fun _ _ kept =>
        ⟨kept.1.1, kept.2⟩
      rintro _ sent ⟨⟨reached, requests⟩, _⟩
      rw [ends_srArpreqDestroy, destroy_of_unlinked]
      · exact ⟨reached, trivial⟩
      · intro req member
        rw [requests, SrInstance.unlink] at member
        simpa using (List.mem_filter.mp member).2

theorem keeps_guarded_answerArpFrame (buf : Buf) (iface : Name)
    (heard : ntohs (peek16 memory.beyond buf.bytes arOp) = arpOpReply →
      guards.heard (Vector.ofFn fun i => peek memory.beyond buf.bytes (arSha + i))
        (peek32 memory.beyond buf.bytes arSip)) :
    KeepsGuarded guards asserting start (answerArpFrame memory buf iface) fun _ => True := by
  refine keeps_bind (keeps_guarded_load16 memory _ _) ?_
  rintro op rfl
  refine keeps_ite (fun _ => keeps_guarded_replyToArpRequest memory _ _) fun _ => ?_
  exact keeps_ite (fun reply => keeps_guarded_acceptArpReply memory ready _ (heard reply))
    fun _ => keeps_pure trivial

theorem keeps_guarded_handleArpFrame (buf : Buf) (iface : Name)
    (header : sizeofEthernetHdr ≤ buf.bytes.length)
    (type : ntohs (peek16 memory.beyond buf.bytes etherType) = ethertypeArp)
    (heard : ∀ mac ip, HearsReply memory start.ifList buf.bytes mac ip →
      guards.heard mac ip) :
    KeepsGuarded guards True start (handleArpFrame memory buf iface) fun _ => True := by
  refine keeps_bind (keeps_guarded_load32 memory _ _) ?_
  rintro tip rfl
  refine keeps_bind (keeps_guarded_getInterfaceByIp _) fun outInterface found => ?_
  cases outInterface with
  | none => exact keeps_pure trivial
  | some interface =>
      apply keeps_guarded_answerArpFrame memory ready
      intro reply
      have target : interface.ip = peek32 memory.beyond buf.bytes arTip := by
        simpa using List.find?_some found.symm
      exact heard _ _ ⟨header, type, reply,
        ⟨interface, List.mem_of_find?_eq_some found.symm, target⟩, rfl, rfl⟩

theorem keeps_guarded_srHandlepacket (depth : Nat) (buf : Buf) (iface : Name)
    (heard : ∀ mac ip, HearsReply memory start.ifList buf.bytes mac ip →
      guards.heard mac ip) :
    KeepsGuarded guards True start (srHandlepacket memory depth buf iface)
      fun _ => True := by
  refine keeps_ite (fun _ => keeps_pure trivial) fun enough => ?_
  have long : 14 ≤ buf.bytes.length := Nat.not_lt.mp enough
  refine keeps_bind (keeps_guarded_load16 memory _ _) ?_
  rintro type rfl
  refine keeps_ite (fun arp => ?_) fun _ => keeps_ite (fun ip => ?_) fun _ => keeps_pure trivial
  · exact keeps_guarded_handleArpFrame memory ready buf iface long arp heard
  · exact keeps_guarded_handleIpFrame memory (handlesHeld_handleArpreq memory depth) ready buf
      fun _ => isDatagram_of_type memory long ip

end Frames

/-! ## The sweep -/

section Sweep

variable {guards : Guards} {asserting : Prop} {start : SrInstance} (memory : Memory)
  (ready : guards.ready → Ready start)

include ready

/-- The sweep calls `handle_arpreq` only on requests that it may be called on: those
that were on the queue when it began. -/
theorem keeps_guarded_sweepFrom (depth : Nat) :
    ∀ (steps : Nat) (cacheRequest : Option Nat),
      (guards.ready → ∀ id, cacheRequest = some id → id ∈ start.requestIds) →
      KeepsGuarded guards.silent asserting start (sweepFrom memory depth steps cacheRequest)
        fun _ => True := by
  intro steps
  induction steps with
  | zero =>
      intro cacheRequest _
      cases cacheRequest with
      | none => exact keeps_pure trivial
      | some id => exact keeps_throw fun _ => trivial
  | succ steps inductionHypothesis =>
      intro cacheRequest pending
      cases cacheRequest with
      | none => exact keeps_pure trivial
      | some id =>
          refine keeps_bind keeps_get fun sr reached => ?_
          refine keeps_bind (keeps_guarded_note trivial) fun _ _ => ?_
          refine keeps_then ?_ fun _ => inductionHypothesis _ ?_
          · intro called before
            have held : guards.ready → Held called id := fun ordered =>
              before.preserves_held (fun _ _ heard => heard) ordered (ready ordered).addressed
                (Or.inl (pending ordered id rfl))
            have handles : HandlesHeld guards.silent asserting (handleArpreq memory depth) :=
              handlesHeld_handleArpreq memory depth
            exact (handles called id (before.preserves_ready ready) held).mono
              (fun _ _ later => ⟨before.trans later, trivial⟩)
              fun _ _ stopped => ⟨before.trans stopped.1, stopped.2⟩
          · intro ordered following next
            have behind := next_behind (ready ordered).addressed reached.moves
              (pending ordered id rfl) next
            exact behind.subset (List.mem_cons_of_mem _ (List.mem_cons_self ..))

theorem keeps_guarded_srArpcacheSweepreqs (depth : Nat) :
    KeepsGuarded guards asserting start (srArpcacheSweepreqs memory depth)
      fun _ => True := by
  intro sr before
  have first : guards.ready → ∀ id, sr.requests.head?.map SrArpreq.id = some id →
      id ∈ sr.requestIds := by
    intro _ id head
    rw [← List.head?_map] at head
    exact List.mem_of_mem_head? head
  have sweep : KeepsGuarded guards.silent asserting sr
      (sweepFrom memory depth (sr.requests.length + 1) (sr.requests.head?.map SrArpreq.id))
      fun _ => True :=
    keeps_guarded_sweepFrom memory (before.preserves_ready ready) depth _ _ first
  exact (sweep sr (.refl _ sr)).mono
    (fun _ _ kept => ⟨before.trans kept.1.of_silent, trivial⟩)
    fun _ _ stopped => ⟨before.trans stopped.1.of_silent, stopped.2⟩

theorem keeps_guarded_srArpcacheTimeout (depth : Nat) :
    KeepsGuarded guards asserting start (srArpcacheTimeout memory depth) fun _ => True :=
  keeps_then (keeps_modify trivial fun _ before => before.next .expire) fun _ =>
    keeps_guarded_srArpcacheSweepreqs memory ready depth

end Sweep

/-! ## From any state -/

def unguarded : Guards where
  ready := False
  heard := fun _ _ => True

section Unguarded

variable {asserting : Prop} {start : SrInstance} (memory : Memory)

theorem Moves.unguarded {sr : SrInstance} (moves : Moves start sr) :
    GuardedMoves unguarded start sr :=
  moves.guarded (fun impossible => impossible) fun _ _ => trivial

theorem keepsMoves_of_guarded {α : Type} {program : Sr α} {good : α → Prop}
    (keeps : KeepsGuarded unguarded asserting start program good) :
    KeepsMoves asserting start program good := by
  intro sr before
  exact (keeps sr before.unguarded).mono (fun _ _ kept => ⟨kept.1.moves, kept.2⟩)
    fun _ _ stopped => ⟨stopped.1.moves, stopped.2⟩

theorem handlesHeld_of_keepsMoves {handle : Nat → Sr Unit}
    (handleKeeps : ∀ start id, KeepsMoves asserting start (handle id) fun _ => True) :
    HandlesHeld unguarded asserting handle := by
  intro sr id _ _
  exact (handleKeeps sr id sr (Moves.refl sr)).mono (fun _ _ kept => kept.1.unguarded)
    fun _ _ stopped => ⟨stopped.1.unguarded, stopped.2⟩

theorem keeps_moves_handleArpreq (depth id : Nat) :
    KeepsMoves asserting start (handleArpreq memory depth id) fun _ => True := by
  intro sr before
  have handles : HandlesHeld unguarded asserting (handleArpreq memory depth) :=
    handlesHeld_handleArpreq memory depth
  exact (handles sr id False.elim False.elim).mono
    (fun _ _ later => ⟨Relation.ReflTransGen.trans before later.moves, trivial⟩)
    fun _ _ stopped => ⟨Relation.ReflTransGen.trans before stopped.1.moves, stopped.2⟩

theorem keeps_moves_srArpcacheSweepreqs (depth : Nat) :
    KeepsMoves asserting start (srArpcacheSweepreqs memory depth) fun _ => True :=
  keepsMoves_of_guarded (keeps_guarded_srArpcacheSweepreqs memory False.elim depth)

theorem keeps_moves_srArpcacheTimeout (depth : Nat) :
    KeepsMoves asserting start (srArpcacheTimeout memory depth) fun _ => True :=
  keepsMoves_of_guarded (keeps_guarded_srArpcacheTimeout memory False.elim depth)

theorem keeps_moves_srHandlepacket (depth : Nat) (buf : Buf) (iface : Name) :
    KeepsMoves True start (srHandlepacket memory depth buf iface) fun _ => True :=
  keepsMoves_of_guarded (keeps_guarded_srHandlepacket memory False.elim depth buf iface
    fun _ _ _ => trivial)

theorem keeps_moves_answerArpFrame (buf : Buf) (iface : Name) :
    KeepsMoves asserting start (answerArpFrame memory buf iface) fun _ => True :=
  keepsMoves_of_guarded (keeps_guarded_answerArpFrame memory False.elim buf iface
    fun _ => trivial)

variable {handle : Nat → Sr Unit}
  (handleKeeps : ∀ start id, KeepsMoves asserting start (handle id) fun _ => True)

include handleKeeps

theorem keeps_moves_sendOrQueue (gw : UInt32) (packet : Buf) (name : Name)
    (long : 34 ≤ packet.bytes.length) :
    KeepsMoves asserting start
      (sendOrQueue handle gw packet (srGetInterface start.ifList name))
      fun _ => True :=
  keepsMoves_of_guarded (keeps_guarded_sendOrQueue (handlesHeld_of_keepsMoves handleKeeps)
    False.elim gw packet name long False.elim)

theorem keeps_moves_sendIcmpMsg (packet : Buf) (type code : UInt8) :
    KeepsMoves asserting start (sendIcmpMsg memory handle packet type code)
      fun _ => True :=
  keepsMoves_of_guarded (keeps_guarded_sendIcmpMsg memory
    (handlesHeld_of_keepsMoves handleKeeps) False.elim packet type code False.elim)

theorem keeps_moves_srForwardIpPacket (packet : Buf)
    (long : 34 ≤ packet.bytes.length) :
    KeepsMoves asserting start (srForwardIpPacket memory handle packet)
      fun _ => True :=
  keepsMoves_of_guarded (keeps_guarded_srForwardIpPacket memory
    (handlesHeld_of_keepsMoves handleKeeps) False.elim packet long False.elim)

theorem keeps_moves_deliverLocally (buf : Buf) :
    KeepsMoves asserting start (deliverLocally memory handle buf) fun _ => True :=
  keepsMoves_of_guarded (keeps_guarded_deliverLocally memory
    (handlesHeld_of_keepsMoves handleKeeps) False.elim buf False.elim)

end Unguarded

theorem trace_sendIcmpMsg (memory : Memory) (depth : Nat) (packet : Buf)
    (type code : UInt8) (sr : SrInstance) :
    ∃ rest, (finalState (sendIcmpMsg memory (handleArpreq memory depth) packet type code)
      sr).trace = sr.trace ++ .icmp packet.tag type code :: rest := by
  obtain ⟨rest, same, keeps⟩ := @sendIcmpMsg_eq_report_then unguarded True
    (sr.record (.icmp packet.tag type code)) memory (handleArpreq memory depth)
    (handlesHeld_handleArpreq memory depth) False.elim
    packet type code False.elim
  have reported : Ends (sendIcmpMsg memory (handleArpreq memory depth) packet type code) sr
      (fun _ next => Moves (sr.record (.icmp packet.tag type code)) next)
      (fun _ next => Moves (sr.record (.icmp packet.tag type code)) next) := by
    rw [same, ends_bind, ends_log]
    exact (keeps _ (GuardedMoves.refl _ _)).mono (fun _ _ both => both.1.moves)
      fun _ _ both => both.1.moves
  obtain ⟨later, trace⟩ := reported.finalState.grows.trace
  refine ⟨later, ?_⟩
  rw [← trace, SrInstance.record, List.append_assoc]
  rfl

end Cmput313.Router
