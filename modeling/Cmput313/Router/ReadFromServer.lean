import Cmput313.Lib.Arrivals
import Cmput313.Router.PacketMessage

/-!
# Messages from the server

`sr_read_from_server_expect` of `sr_vns_comm.c`: the two reading loops, the check of
the length, and the `switch` over the commands.
-/

set_option autoImplicit false

namespace Cmput313.Router

open Cmput313.Arrivals Cmput313.Bytes Cmput313.Pox Cmput313.Program Cmput313.StructPack

def vnsClose : UInt32 := 2
def vnsBanner : UInt32 := 8
def vnsHwinfo : UInt32 := 16
def vnsRtable : UInt32 := 32
def vnsAuthRequest : UInt32 := 128
def vnsAuthStatus : UInt32 := 512

def maxCommandLength : Int := 10000

/-- What the branches find outside the router: the memory, how deep `handle_arpreq`
may call itself, whether `fopen` opens a routing table for writing, and whether
`sr_handle_auth_request` finds its key and sends its answer. -/
structure Host where
  memory : Memory
  depth : Nat
  opensRtable : Name → Bool
  sendsAuthReply : Bytes → Bool

/-- A message as the `switch` finds it: the command in host order, in its place in
the buffer too, and the length. -/
structure Dispatch where
  command : UInt32
  len : Int
  buf : Bytes
  deriving DecidableEq

/-- The connection, the messages that reached the `switch` so far, and the router. -/
structure Session where
  socket : Socket
  dispatched : List Dispatch
  sr : SrInstance
  deriving DecidableEq

/-- Why a call has not returned: it still reads, or the process died. -/
inductive Stop where
  | reading
  | fault (fault : Fault)
  deriving DecidableEq

abbrev Vns (α : Type) := EStateM Stop Session α

/-! ## The `switch` -/

def rtableFile (buf : Bytes) : Name :=
  [114, 116, 97, 98, 108, 101, 46] ++ (buf.drop sizeofBase).takeWhile (· ≠ 0)

def commandSwitch (host : Host) (message : Dispatch) : Sr Int :=
  if message.command = vnsPacket then do
    handlePacketMessage host.memory host.depth message.buf message.len
    return 1
  else if message.command = vnsClose then
    return 0
  else if message.command = vnsBanner then
    return 1
  else if message.command = vnsHwinfo then do
    let _ ← srHandleHwinfo host.memory message.buf
    let sr ← get
    return if srVerifyRoutingTable sr.ifList sr.routingTable ≠ 0 then -1 else 1
  else if message.command = vnsRtable then
    return if host.opensRtable (rtableFile message.buf) then 1 else -1
  else if message.command = vnsAuthRequest then
    return if host.sendsAuthReply message.buf then 1 else -1
  else if message.command = vnsAuthStatus then
    return if peek host.memory.fresh message.buf sizeofBase ≠ 0 then 1 else -1
  else
    return 1

/-! ## One call -/

def readBytes (calls count : Nat) : Vns (Option Bytes) := do
  let session ← get
  match fill calls count session.socket with
  | none => throw .reading
  | some (bytes, socket) =>
      modify fun session => { session with socket := socket }
      return bytes

def closeSocket : Vns Unit :=
  modify fun session => { session with socket := { session.socket with shut := true } }

def dispatch (host : Host) (message : Dispatch) : Vns Int := fun session =>
  let entered := { session with dispatched := session.dispatched ++ [message] }
  match commandSwitch host message session.sr with
  | .ok ret sr => .ok ret { entered with sr := sr }
  | .error fault sr => .error (.fault fault) { entered with sr := sr }

/-- The commands of a buffer that holds all its words; behind a shorter one lies
what `malloc` left there. -/
def srReadFromServerExpect (host : Host) (calls : Nat) (expectedCmd : UInt32) :
    Vns Int := do
  let lenBytes ← readBytes calls 4
  match lenBytes with
  | none => return -1
  | some lenBytes =>
      let mLen := ntohl (peek32 host.memory.fresh lenBytes 0)
      let len := toInt mLen
      if len > maxCommandLength ∨ len < 0 then
        closeSocket
        return -1
      else
        let body ← readBytes calls (len - 4).toNat
        match body with
        | none =>
            closeSocket
            return -1
        | some body =>
            let buf := bytes32 (htonl mLen) ++ body
            let command := ntohl (peek32 host.memory.fresh buf 4)
            let buf := put buf 4 (bytes32 command)
            if expectedCmd ≠ 0 ∧ command ≠ expectedCmd ∧ command ≠ vnsClose then
              return -1
            else
              dispatch host ⟨command, len, buf⟩

def srReadFromServer (host : Host) (calls : Nat) : Vns Int :=
  srReadFromServerExpect host calls 0

def successiveCalls (host : Host) (calls : Nat) : Nat → Vns (List Int)
  | 0 => return []
  | more + 1 => do
      let ret ← srReadFromServer host calls
      let later ← successiveCalls host calls more
      return ret :: later

/-! ## Messages -/

/-- A message that carries its own length, long enough for its command and short
enough to be accepted. -/
structure VnsMessage where
  bytes : Bytes
  mLen : bytes.take 4 = packI (UInt32.ofNat bytes.length)
  long : 8 ≤ bytes.length
  short : bytes.length ≤ 10000

def VnsMessage.dispatched (message : VnsMessage) : Dispatch where
  command := ntohl (peek32 (fun _ => 0) message.bytes 4)
  len := message.bytes.length
  buf := put message.bytes 4 (bytes32 (ntohl (peek32 (fun _ => 0) message.bytes 4)))

/-- The bytes that were sent, with the command in network order again. -/
def Dispatch.sent (message : Dispatch) : Bytes :=
  put message.buf 4 (bytes32 (htonl message.command))

def serve (host : Host) : List VnsMessage → Sr (List Int)
  | [] => return []
  | message :: rest => do
      let ret ← commandSwitch host message.dispatched
      let later ← serve host rest
      return ret :: later

theorem sent_dispatched (message : VnsMessage) : message.dispatched.sent = message.bytes := by
  have inside : 4 + 4 ≤ message.bytes.length := message.long
  have word : bytes32 (htonl (ntohl (peek32 (fun _ => 0) message.bytes 4))) =
      (message.bytes.drop 4).take 4 := by
    rw [htonl, ntohl, swap32_swap32, bytes32_peek32 _ inside]
  have twice : message.dispatched.sent =
      put (put message.bytes 4 (bytes32 (ntohl (peek32 (fun _ => 0) message.bytes 4)))) 4
        (bytes32 (htonl (ntohl (peek32 (fun _ => 0) message.bytes 4)))) := rfl
  have fits : 4 + (bytes32 (ntohl (peek32 (fun _ => 0) message.bytes 4))).length ≤
      message.bytes.length := inside
  rw [twice, put_put fits (by rw [bytes32_length, bytes32_length]), word,
    ← read_of_le (fun _ => 0) _ inside, put_read_self _ inside]

/-! ## A call reads the next message -/

theorem toInt_ofNat {number : Nat} (small : number < 2147483648) :
    toInt (UInt32.ofNat number) = number := by
  have value : (UInt32.ofNat number).toNat = number := by
    rw [UInt32.toNat_ofNat']
    omega
  rw [toInt, value, if_pos small]

theorem readBytes_of_fill {calls count : Nat} {session : Session} {bytes : Option Bytes}
    {next : Socket} (fills : fill calls count session.socket = some (bytes, next)) :
    readBytes calls count session = .ok bytes { session with socket := next } := by
  have got : (get : Vns Session) session = .ok session session := rfl
  simp only [readBytes, bind, EStateM.bind, got, fills]
  rfl

/-- Where the bytes of a message come next, a call hands exactly that message to the
`switch`, and leaves the bytes behind it. -/
theorem srReadFromServer_eq_dispatch (host : Host) {calls : Nat} (message : VnsMessage)
    {rest : Bytes} {session : Session} (opened : session.socket.shut = false)
    (delivers : delivered session.socket.arrivals = some (message.bytes ++ rest))
    (patient : session.socket.arrivals.length + 10000 ≤ calls) :
    ∃ next : Socket,
      srReadFromServer host calls session =
        dispatch host message.dispatched { session with socket := next } ∧
      delivered next.arrivals = some rest ∧ next.shut = false ∧
      next.arrivals.length ≤ session.socket.arrivals.length := by
  have long := message.long
  have short := message.short
  have head : (message.bytes.take 4).length = 4 := by
    rw [List.length_take]
    omega
  have tail : (message.bytes.drop 4).length = message.bytes.length - 4 := List.length_drop
  have cut : message.bytes ++ rest =
      message.bytes.take 4 ++ (message.bytes.drop 4 ++ rest) := by
    rw [← List.append_assoc, List.take_append_drop]
  have patientHead : session.socket.arrivals.length < calls := by omega
  have headShort : (message.bytes.take 4).length ≤ calls := by omega
  obtain ⟨middle, fillsHead, middleDelivers, middleOpened, fewer⟩ :=
    fill_delivered opened (delivers.trans (congrArg some cut)) patientHead headShort
  have tailShort : (message.bytes.drop 4).length ≤ calls := by omega
  have middlePatient : middle.arrivals.length < calls := by omega
  obtain ⟨next, fillsTail, nextDelivers, nextOpened, less⟩ :=
    fill_delivered middleOpened middleDelivers middlePatient tailShort
  rw [head] at fillsHead
  rw [tail] at fillsTail
  have mLen : ntohl (peek32 host.memory.fresh (message.bytes.take 4) 0) =
      UInt32.ofNat message.bytes.length := by
    have word := peek32_append_packI host.memory.fresh [] []
      (UInt32.ofNat message.bytes.length)
    rw [List.nil_append, List.append_nil] at word
    rw [message.mLen]
    exact (congrArg swap32 word).trans (swap32_swap32 _)
  have len : toInt (UInt32.ofNat message.bytes.length) = message.bytes.length :=
    toInt_ofNat (by omega)
  have accepted : ¬ ((message.bytes.length : Int) > maxCommandLength ∨
      (message.bytes.length : Int) < 0) := by
    simp only [maxCommandLength]
    omega
  have bodyLength : ((message.bytes.length : Int) - 4).toNat = message.bytes.length - 4 := by
    omega
  have buf : bytes32 (htonl (UInt32.ofNat message.bytes.length)) ++ message.bytes.drop 4 =
      message.bytes := by
    rw [htonl, ← packI_eq, ← message.mLen, List.take_append_drop]
  have command : peek32 host.memory.fresh message.bytes 4 =
      peek32 (fun _ => 0) message.bytes 4 := by
    apply bytes32_injective
    rw [bytes32_peek32 _ long, bytes32_peek32 _ long]
  refine ⟨next, ?_, nextDelivers, nextOpened, Nat.le_trans less fewer⟩
  have readsHead : readBytes calls 4 session =
      .ok (some (message.bytes.take 4)) { session with socket := middle } :=
    readBytes_of_fill fillsHead
  have readsTail : readBytes calls (message.bytes.length - 4)
      { session with socket := middle } =
        .ok (some (message.bytes.drop 4)) { session with socket := next } :=
    readBytes_of_fill fillsTail
  simp only [srReadFromServer, srReadFromServerExpect, bind, EStateM.bind, readsHead, mLen,
    len, if_neg accepted, bodyLength, readsTail, buf, command, ne_eq, not_true_eq_false,
    false_and, if_false]
  rfl

/-! ## Successive calls read all messages -/

theorem dispatch_eq_ok {host : Host} {message : Dispatch} (session : Session) {ret : Int}
    {sr : SrInstance} (handled : commandSwitch host message session.sr = .ok ret sr) :
    dispatch host message session =
      .ok ret { session with dispatched := session.dispatched ++ [message], sr := sr } := by
  simp only [dispatch, handled]

theorem dispatch_eq_error {host : Host} {message : Dispatch} (session : Session)
    {fault : Fault} {sr : SrInstance}
    (handled : commandSwitch host message session.sr = .error fault sr) :
    dispatch host message session = .error (.fault fault)
      { session with dispatched := session.dispatched ++ [message], sr := sr } := by
  simp only [dispatch, handled]

/-- Calls on a stream of messages do what handing over the messages does: all of them
in order, or those up to the one on which the process dies. -/
theorem successiveCalls_serve (host : Host) (calls : Nat) (messages : List VnsMessage) :
    ∀ session : Session, session.socket.shut = false →
      delivered session.socket.arrivals = some (messages.flatMap VnsMessage.bytes) →
      session.socket.arrivals.length + 10000 ≤ calls →
      Ends (successiveCalls host calls messages.length) session
        (fun returned next =>
          next.dispatched = session.dispatched ++ messages.map VnsMessage.dispatched ∧
            serve host messages session.sr = .ok returned next.sr)
        (fun stop next => ∃ handed last rest fault, messages = handed ++ last :: rest ∧
          stop = .fault fault ∧
          next.dispatched =
            session.dispatched ++ (handed ++ [last]).map VnsMessage.dispatched ∧
          serve host messages session.sr = .error fault next.sr) := by
  induction messages with
  | nil =>
      intro session _ _ _
      exact ⟨(List.append_nil _).symm, rfl⟩
  | cons message rest inductionHypothesis =>
      intro session opened delivers patient
      rw [List.flatMap_cons] at delivers
      obtain ⟨socket, call, left, still, fewer⟩ :=
        srReadFromServer_eq_dispatch host message opened delivers patient
      rw [List.length_cons, successiveCalls, ends_bind]
      cases handled : commandSwitch host message.dispatched session.sr with
      | error fault sr =>
          rw [ends_iff_of_error (call.trans (dispatch_eq_error _ handled))]
          refine ⟨[], message, rest, fault, rfl, rfl, rfl, ?_⟩
          simp only [serve, bind, EStateM.bind, handled]
      | ok ret sr =>
          have served : ∀ {returned next}, serve host rest sr = .ok returned next →
              serve host (message :: rest) session.sr = .ok (ret :: returned) next := by
            intro returned next tail
            simp only [serve, bind, EStateM.bind, handled, tail]
            rfl
          have died : ∀ {fault next}, serve host rest sr = .error fault next →
              serve host (message :: rest) session.sr = .error fault next := by
            intro fault next tail
            simp only [serve, bind, EStateM.bind, handled, tail]
          rw [ends_iff_of_ok (call.trans (dispatch_eq_ok _ handled)), ends_bind]
          have later := inductionHypothesis
            ⟨socket, session.dispatched ++ [message.dispatched], sr⟩ still left
            (Nat.le_trans (Nat.add_le_add_right fewer 10000) patient)
          refine later.mono ?_ ?_
          · rintro returned next ⟨dispatched, tail⟩
            refine ⟨?_, served tail⟩
            rw [dispatched, List.map_cons, List.append_assoc]
            rfl
          · rintro stop next ⟨handed, last, behind, fault, split, stopped, dispatched, tail⟩
            refine ⟨message :: handed, last, behind, fault, ?_, stopped, ?_, died tail⟩
            · rw [split]
              rfl
            · rw [dispatched, List.cons_append, List.map_cons, List.append_assoc]
              rfl

/-- The length that the `switch` goes by and the bytes that were sent. -/
def Dispatch.received (message : Dispatch) : Int × Bytes := (message.len, message.sent)

def VnsMessage.received (message : VnsMessage) : Int × Bytes :=
  (message.bytes.length, message.bytes)

theorem map_received (messages : List VnsMessage) :
    (messages.map VnsMessage.dispatched).map Dispatch.received =
      messages.map VnsMessage.received := by
  rw [List.map_map]
  apply List.map_congr_left
  intro message _
  exact congrArg (Prod.mk _) (sent_dispatched message)

/-- However the bytes of messages arrive, successive calls hand each message to the
`switch` once, in order and whole, until one of them kills the process; and the router
does what it does on these messages. -/
theorem successiveCalls_dispatch_messages (host : Host) {calls : Nat}
    (messages : List VnsMessage) {session : Session} (opened : session.socket.shut = false)
    (delivers :
      delivered session.socket.arrivals = some (messages.flatMap VnsMessage.bytes))
    (patient : session.socket.arrivals.length + 10000 ≤ calls) :
    Ends (successiveCalls host calls messages.length) session
      (fun returned next =>
        next.dispatched.map Dispatch.received =
            session.dispatched.map Dispatch.received ++ messages.map VnsMessage.received ∧
          serve host messages session.sr = .ok returned next.sr)
      (fun stop next => ∃ handed last rest fault, messages = handed ++ last :: rest ∧
        stop = .fault fault ∧
        next.dispatched.map Dispatch.received =
          session.dispatched.map Dispatch.received ++
            (handed ++ [last]).map VnsMessage.received ∧
        serve host messages session.sr = .error fault next.sr) := by
  have calls_ := successiveCalls_serve host calls messages session opened delivers patient
  refine calls_.mono ?_ ?_
  · rintro returned next ⟨dispatched, served⟩
    refine ⟨?_, served⟩
    rw [dispatched, List.map_append, map_received]
  · rintro stop next ⟨handed, last, rest, fault, split, died, dispatched, served⟩
    refine ⟨handed, last, rest, fault, split, died, ?_, served⟩
    rw [dispatched, List.map_append, map_received]

def quietHost : Host where
  memory := noMemory
  depth := 1
  opensRtable := fun _ => true
  sendsAuthReply := fun _ => true

def emptyBanner : VnsMessage where
  bytes := [0, 0, 0, 8, 0, 0, 0, 8]
  mLen := by decide
  long := by decide
  short := by decide

/-- Two banners in four pieces, one of them across the border, with two signals. -/
def bannerArrivals : List Arrival :=
  [.piece 0 [0], .interrupt, .piece 0 [8, 0, 0], .interrupt, .piece 0 [8, 0, 0, 0, 8, 0],
    .piece 0 [0, 8]]

theorem banners_dispatched :
    Ends (successiveCalls quietHost 10006 2) ⟨⟨bannerArrivals, false, false⟩, [], smallNetwork⟩
      (fun returned next =>
        next.dispatched.map Dispatch.received =
            [(8, emptyBanner.bytes), (8, emptyBanner.bytes)] ∧
          serve quietHost [emptyBanner, emptyBanner] smallNetwork = .ok returned next.sr)
      (fun stop next => ∃ handed last rest fault,
        [emptyBanner, emptyBanner] = handed ++ last :: rest ∧ stop = .fault fault ∧
        next.dispatched.map Dispatch.received =
          [] ++ (handed ++ [last]).map VnsMessage.received ∧
        serve quietHost [emptyBanner, emptyBanner] smallNetwork = .error fault next.sr) :=
  successiveCalls_dispatch_messages quietHost [emptyBanner, emptyBanner] rfl (by decide)
    (by decide)

end Cmput313.Router
