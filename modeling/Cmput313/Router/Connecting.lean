import Cmput313.Router.AuthReply
import Cmput313.Router.EndOfStream
import Cmput313.Router.VerifiedRoutes

/-!
# A router process

`sr_connect_to_server` of `sr_vns_comm.c` behind `connect`, and `main` of `sr_main.c` behind
it: which message each call of `sr_read_from_server_expect` waits for, and what the process
writes to the server.
-/

set_option autoImplicit false

namespace Cmput313.Router

open Cmput313.Arrivals Cmput313.Bytes Cmput313.Pox Cmput313.Program Cmput313.StructPack Sha1

/-! ## The messages that open a session -/

def vnsOpen : UInt32 := 1
def vnsOpenTemplate : UInt32 := 64

def idsize : Nat := 32

def openMessage (topoId : UInt16) (host user : Name) : Bytes :=
  packI 108 ++ packI vnsOpen ++ bytes16 (htons topoId) ++ [0, 0] ++ strncpy idsize host ++
    strncpy idsize user ++ List.replicate idsize 0

/-- `c_open_template` without source filters. -/
def openTemplateMessage (template host : Name) : Bytes :=
  packI 70 ++ packI vnsOpenTemplate ++ strncpy 30 template ++ strncpy idsize host

/-! ## What was written -/

def Event.wire? : Event → Option Bytes
  | .wire message => some message
  | _ => none

def SrInstance.written (sr : SrInstance) : List Bytes := sr.trace.filterMap Event.wire?

def newWires (before after : SrInstance) : List Bytes :=
  (after.trace.drop before.trace.length).filterMap Event.wire?

theorem written_append_newWires {before after : SrInstance}
    (extended : before.trace <+: after.trace) :
    before.written ++ newWires before after = after.written := by
  obtain ⟨later, appended⟩ := extended
  rw [SrInstance.written, newWires, SrInstance.written, ← appended, List.drop_left,
    List.filterMap_append]

/-- Whatever was written is a frame behind its header. -/
def WritesPackets (sr : SrInstance) : Prop :=
  ∀ bytes ∈ sr.written, ∃ buf iface, bytes = packetMessage buf iface

theorem WritesPackets.append {before after : SrInstance} (writes : WritesPackets before)
    {events : List Event} (trace : after.trace = before.trace ++ events)
    (framed : ∀ bytes, .wire bytes ∈ events → ∃ buf iface, bytes = packetMessage buf iface) :
    WritesPackets after := by
  intro bytes member
  rw [SrInstance.written, trace, List.filterMap_append, List.mem_append] at member
  rcases member with early | late
  · exact writes bytes early
  · obtain ⟨event, inside, wired⟩ := List.mem_filterMap.mp late
    cases event with
    | wire message => exact framed bytes (Option.some.inj wired ▸ inside)
    | _ => cases wired

/-- The frame behind its header, from the address of the interface that its name finds. -/
def FromInterface (ifList : List SrIf) (bytes : Bytes) : Prop :=
  ∃ buf iface interface, bytes = packetMessage buf iface ∧
    srGetInterface ifList iface = some interface ∧
    (buf.drop etherShost).take 6 = interface.addr.toList

theorem fromInterface_of_sendEvents {ifList : List SrIf} {buf bytes : Bytes} {iface : Name}
    (member : .wire bytes ∈ sendEvents ifList buf iface) : FromInterface ifList bytes := by
  rw [sendEvents, List.mem_cons] at member
  rcases member with impossible | member
  · cases impossible
  · split at member
    · next accepted =>
        cases List.mem_singleton.mp member
        have matching := accepted.2
        rw [srEtherAddrsMatchInterface] at matching
        cases found : srGetInterface ifList iface with
        | none =>
            rw [found] at matching
            cases matching
        | some interface =>
            rw [found] at matching
            exact ⟨buf, iface, interface, rfl, found, of_decide_eq_true matching⟩
    · cases member

theorem Move.fromInterface {before after : SrInstance} (move : Move before after) :
    ∃ events, after.trace = before.trace ++ events ∧
      ∀ bytes, .wire bytes ∈ events → FromInterface before.ifList bytes := by
  cases move with
  | touch buf offset size => exact ⟨[], (List.append_nil _).symm, by simp⟩
  | note event isNote =>
      refine ⟨[event], rfl, fun bytes member => ?_⟩
      rw [← List.mem_singleton.mp member] at isNote
      cases isNote
  | send buf iface interface found source =>
      exact ⟨_, rfl, fun bytes member => fromInterface_of_sendEvents member⟩
  | queue gw packet iface interface found long miss =>
      exact ⟨_, trace_enqueue before gw packet iface, by simp⟩
  | broadcast req packet interface live due left first found =>
      refine ⟨_, trace_rebroadcast before req interface, fun bytes member => ?_⟩
      rcases List.mem_cons.mp member with impossible | member
      · cases impossible
      · exact fromInterface_of_sendEvents member
  | timeOut id => exact ⟨_, trace_destroy _ id, by simp⟩
  | learn mac ip =>
      refine ⟨_, trace_learn before mac ip, fun bytes member => ?_⟩
      rw [learnEvents] at member
      split at member
      · simp at member
      · cases member
  | expire => exact ⟨[], (List.append_nil _).symm, by simp⟩

theorem Move.writesPackets {before after : SrInstance} (move : Move before after)
    (writes : WritesPackets before) : WritesPackets after := by
  obtain ⟨events, trace, origins⟩ := move.fromInterface
  refine writes.append trace fun bytes member => ?_
  obtain ⟨buf, iface, -, same, -⟩ := origins bytes member
  exact ⟨buf, iface, same⟩

theorem Moves.writesPackets {before after : SrInstance} (moves : Moves before after)
    (writes : WritesPackets before) : WritesPackets after :=
  moves.preserves WritesPackets writes fun _ _ holds move => move.writesPackets holds

/-! ## The process -/

/-- What a process finds outside of itself, and its arguments. -/
structure Process extends SrNames where
  memory : Memory
  depth : Nat
  opensRtable : Name → Bool
  stack : Vector UInt8 65
  context : Sha1Context
  authKey : Option Bytes

/-- Which call the process is in: the three of `sr_connect_to_server` and that of the main
loop; or how it ended. -/
inductive Phase where
  | authRequest
  | authStatus
  | rtable
  | running
  | connectFailed
  | loopEnded
  | died (fault : Fault)
  deriving DecidableEq

def Phase.Looped : Phase → Prop
  | .running => True
  | .loopEnded => True
  | .died _ => True
  | _ => False

def Phase.expectedCmd : Phase → Option UInt32
  | .authRequest => some vnsAuthRequest
  | .authStatus => some vnsAuthStatus
  | .rtable => some vnsRtable
  | .running => some 0
  | _ => none

namespace Process

variable (process : Process)

/-- `auth_key` can be opened and has a line. -/
def keyed : Bool := (process.authKey.bind (hashedKey process.stack)).isSome

def authReply? (req : Bytes) : Option Bytes :=
  (srHandleAuthRequest process.memory process.stack process.context process.authKey
    process.toSrNames req).join

def toHost : Host where
  memory := process.memory
  depth := process.depth
  opensRtable := process.opensRtable
  sendsAuthReply := fun req => (process.authReply? req).isSome

/-- There is a template to open. -/
def templated : Bool := cString 30 process.template ≠ []

def nextPhase (ret : Int) : Phase → Phase
  | .authRequest => if ret = 1 then .authStatus else .connectFailed
  | .authStatus =>
      if ret = 1 then if process.templated then .rtable else .running
      else .connectFailed
  | .rtable => if ret = 1 then .running else .connectFailed
  | .running => if ret = 1 then .running else .loopEnded
  | phase => phase

def opening (ret : Int) (phase : Phase) : List Bytes :=
  if phase = .authStatus ∧ ret = 1 then
    if process.templated then [openTemplateMessage process.template process.host]
    else [openMessage process.topoId process.host process.user]
  else []

def replies (dispatched : List Dispatch) : List Bytes :=
  dispatched.filterMap fun message =>
    if message.command = vnsAuthRequest then process.authReply? message.buf else none

structure Turn where
  phase : Phase
  sr : SrInstance
  written : List Bytes

/-- What follows from a call; `none` where it did not return. -/
def afterCall (phase : Phase) (sr : SrInstance) : EStateM.Result Stop Session Int → Option Turn
  | .ok ret session => some ⟨process.nextPhase ret phase, session.sr,
      process.replies session.dispatched ++ newWires sr session.sr ++ process.opening ret phase⟩
  | .error (.fault fault) session =>
      some ⟨.died fault, session.sr, newWires sr session.sr⟩
  | .error .reading _ => none

/-- The call that the process is in, where the bytes of one message come. -/
def reads (now : Int) (phase : Phase) (sr : SrInstance) (bytes : Bytes) : Option Turn :=
  phase.expectedCmd.bind fun expectedCmd =>
    process.afterCall phase sr
      (srReadFromServerExpect process.toHost (bytes.length + 10001) expectedCmd
        ⟨⟨putBack bytes [], false, false⟩, [], sr.atTime now⟩)

/-- The thread that `sr_init` starts: one round of `sr_arpcache_timeout`. -/
def timesOut (now : Int) (sr : SrInstance) : Turn :=
  match Operation.timeout.perform process.memory process.depth (sr.atTime now) with
  | .ok _ next => ⟨.running, next, newWires sr next⟩
  | .error fault next => ⟨.died fault, next, newWires sr next⟩

end Process

/-! ## What a call makes of a message -/

def framed (type : UInt32) (body : Bytes) (short : body.length ≤ 9992) : VnsMessage where
  bytes := ltMessage type body
  mLen := by rw [ltMessage_length]; rfl
  long := by rw [ltMessage_length]; omega
  short := by rw [ltMessage_length]; omega

theorem framed_command (type : UInt32) (body : Bytes) (short : body.length ≤ 9992) :
    (framed type body short).dispatched.command = type := by
  have word := peek32_append_packI (fun _ => 0) (packI (UInt32.ofNat (8 + body.length))) body type
  exact (congrArg swap32 word).trans (swap32_swap32 type)

theorem delivered_putBack_nil (bytes : Bytes) : delivered (putBack bytes []) = some bytes := by
  rw [delivered_putBack]
  simp [delivered]

theorem length_putBack_nil_le (bytes : Bytes) :
    (putBack bytes []).length + 10000 ≤ bytes.length + 10001 := by
  cases bytes with
  | nil => exact Nat.le_succ _
  | cons first others =>
      simp only [putBack, List.length_cons, List.length_nil]
      omega

def Unexpected (expectedCmd command : UInt32) : Prop :=
  expectedCmd ≠ 0 ∧ command ≠ expectedCmd ∧ command ≠ vnsClose

instance (expectedCmd command : UInt32) : Decidable (Unexpected expectedCmd command) :=
  inferInstanceAs (Decidable (_ ∧ _ ∧ _))

/-- Where the bytes of a message come next, a call hands it to the `switch`, or returns -1
where another one was expected. -/
theorem srReadFromServerExpect_message (host : Host) {calls : Nat} (expectedCmd : UInt32)
    (message : VnsMessage) {session : Session} (opened : session.socket.shut = false)
    (delivers : delivered session.socket.arrivals = some message.bytes)
    (patient : session.socket.arrivals.length + 10000 ≤ calls) :
    ∃ next : Socket,
      srReadFromServerExpect host calls expectedCmd session =
        if Unexpected expectedCmd message.dispatched.command then
          .ok (-1) { session with socket := next }
        else dispatch host message.dispatched { session with socket := next } := by
  have long := message.long
  have short := message.short
  have head : (message.bytes.take 4).length = 4 := by
    rw [List.length_take]
    omega
  have tail : (message.bytes.drop 4).length = message.bytes.length - 4 := List.length_drop
  have cut : message.bytes = message.bytes.take 4 ++ (message.bytes.drop 4 ++ []) := by
    rw [List.append_nil, List.take_append_drop]
  obtain ⟨middle, fillsHead, middleDelivers, middleOpened, fewer⟩ :=
    fill_delivered opened (delivers.trans (congrArg some cut))
      (show session.socket.arrivals.length < calls by omega)
      (show (message.bytes.take 4).length ≤ calls by omega)
  obtain ⟨next, fillsTail, -, -, -⟩ :=
    fill_delivered middleOpened middleDelivers (show middle.arrivals.length < calls by omega)
      (show (message.bytes.drop 4).length ≤ calls by omega)
  rw [head] at fillsHead
  rw [tail] at fillsTail
  have mLen : ntohl (peek32 host.memory.fresh (message.bytes.take 4) 0) =
      UInt32.ofNat message.bytes.length := by
    have word := peek32_append_packI host.memory.fresh [] []
      (UInt32.ofNat message.bytes.length)
    rw [List.nil_append, List.append_nil] at word
    rw [message.mLen]
    exact (congrArg swap32 word).trans (swap32_swap32 _)
  have len : toInt (UInt32.ofNat message.bytes.length) = message.bytes.length :=
    toInt_ofNat (by omega)
  have accepted : ¬ ((message.bytes.length : Int) > maxCommandLength ∨
      (message.bytes.length : Int) < 0) := by
    simp only [maxCommandLength]
    omega
  have bodyLength : ((message.bytes.length : Int) - 4).toNat = message.bytes.length - 4 := by
    omega
  have buf : bytes32 (htonl (UInt32.ofNat message.bytes.length)) ++ message.bytes.drop 4 =
      message.bytes := by
    rw [htonl, ← packI_eq, ← message.mLen, List.take_append_drop]
  have command : peek32 host.memory.fresh message.bytes 4 =
      peek32 (fun _ => 0) message.bytes 4 := by
    apply bytes32_injective
    rw [bytes32_peek32 _ long, bytes32_peek32 _ long]
  have readsHead := readBytes_of_fill fillsHead
  have readsTail : readBytes calls (message.bytes.length - 4)
      { session with socket := middle } =
        .ok (some (message.bytes.drop 4)) { session with socket := next } :=
    readBytes_of_fill fillsTail
  refine ⟨next, ?_⟩
  simp only [srReadFromServerExpect, bind, EStateM.bind, readsHead, mLen, len, if_neg accepted,
    bodyLength, readsTail, buf, command]
  rw [apply_ite (fun call : Vns Int => call { session with socket := next })]
  rfl

theorem srReadFromServerExpect_tooLong (host : Host) {calls : Nat} (expectedCmd : UInt32)
    {bytes : Bytes} {session : Session} (opened : session.socket.shut = false)
    (mLen : bytes.take 4 = packI (UInt32.ofNat bytes.length)) (long : 10000 < bytes.length)
    (fits : bytes.length < 2 ^ 32)
    (delivers : delivered session.socket.arrivals = some bytes)
    (patient : session.socket.arrivals.length + 10000 ≤ calls) :
    ∃ next : Socket, srReadFromServerExpect host calls expectedCmd session =
      .ok (-1) { session with socket := next } := by
  have four : 4 ≤ bytes.length := by omega
  have head : (bytes.take 4).length = 4 := by
    rw [List.length_take]
    omega
  obtain ⟨middle, fills, -, -, -⟩ :=
    fill_delivered opened (delivers.trans (congrArg some (List.take_append_drop 4 bytes).symm))
      (show session.socket.arrivals.length < calls by omega)
      (show (bytes.take 4).length ≤ calls by omega)
  rw [head] at fills
  have word : ntohl (peek32 (fun _ => 0) bytes 0) = UInt32.ofNat bytes.length := by
    apply swap32_injective
    apply bytes32_injective
    rw [ntohl, swap32_swap32, bytes32_peek32 _ (by omega), List.drop_zero, mLen, packI_eq]
  have number : (UInt32.ofNat bytes.length).toNat = bytes.length := by
    rw [UInt32.toNat_ofNat']
    omega
  have rejected : streamLength bytes > maxCommandLength ∨ streamLength bytes < 0 := by
    rw [streamLength, word, toInt, number, maxCommandLength]
    split <;> omega
  exact ⟨_, srReadFromServerExpect_of_rejected four fills rejected⟩

/-! ## What the `switch` leaves alone -/

theorem commandSwitch_authRequest (host : Host) {message : Dispatch}
    (request : message.command = vnsAuthRequest) (sr : SrInstance) :
    commandSwitch host message sr =
      .ok (if host.sendsAuthReply message.buf then 1 else -1) sr := by
  simp only [commandSwitch, request]
  rfl

theorem commandSwitch_authStatus (host : Host) {message : Dispatch}
    (status : message.command = vnsAuthStatus) (sr : SrInstance) :
    commandSwitch host message sr =
      .ok (if peek host.memory.fresh message.buf sizeofBase ≠ 0 then 1 else -1) sr := by
  simp only [commandSwitch, status]
  rfl

/-- Without an interface, a frame that could hold an ARP packet fails the filter's assertion. -/
theorem commandSwitch_packet_bare (host : Host) {message : Dispatch} {sr : SrInstance}
    (packet : message.command = vnsPacket) (bare : sr.ifList = [])
    (long : 42 ≤ (packetCall host.memory message.buf message.len).packet.length) :
    commandSwitch host message sr = .error (.assertion .iface) sr := by
  have notShort : ¬ (packetCall host.memory message.buf message.len).packet.length <
      sizeofEthernetHdr + sizeofArpHdr := Nat.not_lt.mpr long
  have fails : srArpReqNotForUs host.memory
      ⟨.frame, (packetCall host.memory message.buf message.len).packet⟩
      (packetCall host.memory message.buf message.len).interface sr =
        .error (.assertion .iface) sr := by
    have nowhere : srGetInterface sr.ifList
        (packetCall host.memory message.buf message.len).interface = none := by
      rw [bare]
      rfl
    have stops : srArpReqNotForUs host.memory
        ⟨.frame, (packetCall host.memory message.buf message.len).packet⟩
        (packetCall host.memory message.buf message.len).interface sr =
          (throw (.assertion .iface) : Sr Bool) sr := by
      apply result_eq_of_ends_iff
      intro returned stopped
      rw [srArpReqNotForUs, ends_bind, ends_get, ends_ite, if_neg notShort, nowhere]
    exact stops
  rw [commandSwitch, if_pos packet, handlePacketMessage_eq_receiveFrame]
  simp only [receiveFrame, bind, EStateM.bind, fails]

/-- Only the hardware information is handled otherwise than by moves. -/
theorem moves_commandSwitch (host : Host) {message : Dispatch}
    (other : message.command ≠ vnsHwinfo) (sr : SrInstance) :
    Moves sr (finalState (commandSwitch host message) sr) := by
  apply Ends.finalState
  simp only [commandSwitch, if_neg other, ends_ite, ends_bind, ends_pure, Moves.refl, ite_self,
    if_true_right]
  intro _
  have moves := keeps_moves_handlePacketMessage host.memory host.depth message.buf
    message.len sr (Moves.refl sr)
  exact moves.mono (fun _ _ kept => kept.1) fun _ _ stopped => stopped.1

theorem writesPackets_of_trace {before after : SrInstance} (writes : WritesPackets before)
    (same : after.trace = before.trace) : WritesPackets after := by
  rw [WritesPackets, SrInstance.written, same]
  exact writes

theorem trace_srHandleHwinfo (memory : Memory) (hwinfo : Bytes) (sr : SrInstance) :
    Ends (srHandleHwinfo memory hwinfo) sr (fun _ next => next.trace = sr.trace)
      (fun _ next => next.trace = sr.trace) := by
  simp only [srHandleHwinfo, ends_bind, ends_get]
  generalize (numEntries (ntohl (peek32 memory.beyond hwinfo 0))).toNat = count
  cases (List.range count).foldlM
      (fun ifList i => handleHwEntry memory ifList (hwEntry memory hwinfo i)) sr.ifList with
  | none => exact rfl
  | some ifList => exact rfl

theorem trace_commandSwitch_hwinfo (host : Host) {message : Dispatch}
    (hwinfo : message.command = vnsHwinfo) (sr : SrInstance) :
    (finalState (commandSwitch host message) sr).trace = sr.trace := by
  apply @Ends.finalState _ _ _ _ _ fun next : SrInstance => next.trace = sr.trace
  have otherPacket : ¬ vnsHwinfo = vnsPacket := by decide
  have otherClose : ¬ vnsHwinfo = vnsClose := by decide
  have otherBanner : ¬ vnsHwinfo = vnsBanner := by decide
  simp only [commandSwitch, hwinfo, if_neg otherPacket, if_neg otherClose,
    if_neg otherBanner, if_true, ends_bind, ends_get, ends_pure]
  exact (trace_srHandleHwinfo host.memory message.buf sr).mono
    (fun _ _ same => same) fun _ _ same => same

theorem trace_commandSwitch (host : Host) (message : Dispatch) (sr : SrInstance) :
    sr.trace <+: (finalState (commandSwitch host message) sr).trace := by
  by_cases hwinfo : message.command = vnsHwinfo
  · exact trace_commandSwitch_hwinfo host hwinfo sr ▸ List.prefix_rfl
  · exact (moves_commandSwitch host hwinfo sr).grows.trace

theorem writesPackets_commandSwitch (host : Host) (message : Dispatch) {sr : SrInstance}
    (writes : WritesPackets sr) :
    WritesPackets (finalState (commandSwitch host message) sr) := by
  by_cases hwinfo : message.command = vnsHwinfo
  · exact writesPackets_of_trace writes (trace_commandSwitch_hwinfo host hwinfo sr)
  · exact (moves_commandSwitch host hwinfo sr).writesPackets writes

/-! ## Turns -/

namespace Process

variable (process : Process) {now : Int} {phase : Phase} {sr : SrInstance} {expectedCmd : UInt32}

/-- What follows where the `switch` handled the message. -/
def afterSwitch (phase : Phase) (sr : SrInstance) (message : VnsMessage) :
    EStateM.Result Fault SrInstance Int → Turn
  | .ok ret next => ⟨process.nextPhase ret phase, next,
      process.replies [message.dispatched] ++ newWires sr next ++ process.opening ret phase⟩
  | .error fault next => ⟨.died fault, next, newWires sr next⟩

/-- What follows where the message was not read, or not expected. -/
def refuses (now : Int) (phase : Phase) (sr : SrInstance) : Turn :=
  ⟨process.nextPhase (-1) phase, sr.atTime now, []⟩

@[simp] theorem newWires_atTime (sr : SrInstance) (now : Int) :
    newWires sr (sr.atTime now) = [] := by
  rw [newWires, SrInstance.atTime, List.drop_length]
  rfl

theorem opening_neg_one (phase : Phase) : process.opening (-1) phase = [] := by
  rw [opening, if_neg]
  rintro ⟨-, impossible⟩
  cases impossible

theorem afterCall_refuses (now : Int) (phase : Phase) (sr : SrInstance) (socket : Socket) :
    process.afterCall phase sr (.ok (-1) ⟨socket, [], sr.atTime now⟩) =
      some (process.refuses now phase sr) := by
  simp only [afterCall, replies, List.filterMap_nil, newWires_atTime, opening_neg_one,
    List.append_nil, refuses]

theorem reads_message (expects : phase.expectedCmd = some expectedCmd) (message : VnsMessage) :
    process.reads now phase sr message.bytes = some
      (if Unexpected expectedCmd message.dispatched.command then process.refuses now phase sr
        else process.afterSwitch phase sr message
          (commandSwitch process.toHost message.dispatched (sr.atTime now))) := by
  obtain ⟨next, call⟩ := @srReadFromServerExpect_message process.toHost
    (message.bytes.length + 10001) expectedCmd message
    ⟨⟨putBack message.bytes [], false, false⟩, [], sr.atTime now⟩ rfl (delivered_putBack_nil _)
    (length_putBack_nil_le _)
  rw [reads, expects, Option.bind_some, call]
  split
  · exact afterCall_refuses process now phase sr next
  · simp only [dispatch]
    cases commandSwitch process.toHost message.dispatched (sr.atTime now) with
    | ok ret after => rfl
    | error fault after => rfl

theorem reads_tooLong (expects : phase.expectedCmd = some expectedCmd) {bytes : Bytes}
    (mLen : bytes.take 4 = packI (UInt32.ofNat bytes.length)) (long : 10000 < bytes.length)
    (fits : bytes.length < 2 ^ 32) :
    process.reads now phase sr bytes = some (process.refuses now phase sr) := by
  obtain ⟨next, call⟩ := @srReadFromServerExpect_tooLong process.toHost (bytes.length + 10001)
    expectedCmd bytes ⟨⟨putBack bytes [], false, false⟩, [], sr.atTime now⟩ rfl mLen long fits
    (delivered_putBack_nil _) (length_putBack_nil_le _)
  rw [reads, expects, Option.bind_some, call]
  exact afterCall_refuses process now phase sr next

end Process

end Cmput313.Router
