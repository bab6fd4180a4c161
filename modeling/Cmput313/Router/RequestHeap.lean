import Cmput313.Lib.Heap
import Cmput313.Router.Packets

/-!
# The request queue on the heap

The functions of `sr_arpcache.c` that follow, write and free the pointers of the
queue, over an explicit heap.  A cell is one block from `malloc` or `calloc`: a
request, a packet node, the buffer of a packet or the name of its interface.  The
rest of the router is an `SrInstance` whose own queue stays empty.
-/

set_option autoImplicit false

namespace Cmput313.Router.OnHeap

open Cmput313.Program

structure ArpreqCell where
  ip : UInt32
  sent : Int
  timesSent : Nat
  packets : Option Addr
  next : Option Addr
  deriving DecidableEq

structure PacketCell where
  buf : Option Addr
  len : Nat
  iface : Option Addr
  next : Option Addr
  deriving DecidableEq

inductive Cell where
  | arpreq (cell : ArpreqCell)
  | packet (cell : PacketCell)
  | buf (bytes : Bytes)
  | iface (name : Name)
  deriving DecidableEq

namespace Cell

def arpreq? : Cell → Option ArpreqCell
  | arpreq cell => some cell
  | _ => none

def packet? : Cell → Option PacketCell
  | packet cell => some cell
  | _ => none

def buf? : Cell → Option Bytes
  | buf bytes => some bytes
  | _ => none

def iface? : Cell → Option Name
  | iface name => some name
  | _ => none

end Cell

structure HeapInstance where
  sr : SrInstance
  requests : Option Addr
  heap : Heap Cell

inductive HeapFault where
  | gone (address : Addr)
  | otherCell (address : Addr)
  | nullPointer
  | router (fault : Fault)
  | outOfFuel
  deriving DecidableEq

abbrev HeapSr (α : Type) := EStateM HeapFault HeapInstance α

/-! ## Access to the heap -/

section Access

variable {α : Type}

/-- A read of a cell that was removed, or was never there, has no meaning. -/
def readAs (view : Cell → Option α) (address : Addr) : HeapSr α := do
  let state ← get
  match state.heap.cells address with
  | none => throw (.gone address)
  | some cell =>
      match view cell with
      | none => throw (.otherCell address)
      | some value => return value

def writeCell (address : Addr) (cell : Cell) : HeapSr Unit := do
  let state ← get
  match state.heap.write address cell with
  | none => throw (.gone address)
  | some heap => modify fun state => { state with heap }

def free (address : Addr) : HeapSr Unit := do
  let state ← get
  match state.heap.free address with
  | none => throw (.gone address)
  | some heap => modify fun state => { state with heap }

def malloc (cell : Cell) : HeapSr Addr := do
  let state ← get
  modify fun state => { state with heap := state.heap.alloc cell }
  return state.heap.bound

def freeIfSet : Option Addr → HeapSr Unit
  | none => return ()
  | some address => free address

def follow : Option Addr → HeapSr Addr
  | none => throw .nullPointer
  | some address => return address

def updateArpreq (address : Addr) (change : ArpreqCell → ArpreqCell) : HeapSr Unit := do
  let cell ← readAs Cell.arpreq? address
  writeCell address (.arpreq (change cell))

def onSr (program : Sr α) : HeapSr α := fun state =>
  match program state.sr with
  | .ok value sr => .ok value { state with sr }
  | .error fault sr => .error (.router fault) { state with sr }

end Access

/-! ## `sr_arpcache_queuereq` -/

def findRequest (ip : UInt32) : Nat → Option Addr → HeapSr (Option Addr)
  | _, none => return none
  | 0, some _ => throw .outOfFuel
  | steps + 1, some req => do
      let cell ← readAs Cell.arpreq? req
      if cell.ip = ip then return some req else findRequest ip steps cell.next

def findOrCreateRequest (ip : UInt32) : HeapSr Addr := do
  let state ← get
  let found ← findRequest ip state.heap.bound state.requests
  match found with
  | some req => return req
  | none => do
      let req ← malloc (.arpreq
        { ip, sent := 0, timesSent := 0, packets := none, next := state.requests })
      modify fun state => { state with requests := some req }
      return req

def srArpcacheQueuereq (ip : UInt32) (packet : Bytes) (iface : Name) : HeapSr Addr := do
  let req ← findOrCreateRequest ip
  if packet.length ≠ 0 then
    let newPkt ← malloc (.packet { buf := none, len := 0, iface := none, next := none })
    let buf ← malloc (.buf packet)
    let name ← malloc (.iface (strncpy srIfaceNamelen iface))
    let cell ← readAs Cell.arpreq? req
    writeCell newPkt (.packet
      { buf := some buf, len := packet.length, iface := some name, next := cell.packets })
    updateArpreq req fun cell => { cell with packets := some newPkt }
  return req

/-! ## `sr_arpreq_destroy` -/

/-- The `for` that takes the entry off the queue if it is there. -/
def unlinkFrom (entry : Addr) : Nat → Option Addr → Option Addr → HeapSr Unit
  | _, _, none => return ()
  | 0, _, some _ => throw .outOfFuel
  | steps + 1, prev, some req => do
      let cell ← readAs Cell.arpreq? req
      if req = entry then
        match prev with
        | some prev => updateArpreq prev fun before => { before with next := cell.next }
        | none => modify fun state => { state with requests := cell.next }
      else
        unlinkFrom entry steps (some req) cell.next

/-- The `for` that frees the packets, `nxt` read before the node goes. -/
def destroyPackets : Nat → Option Addr → HeapSr Unit
  | _, none => return ()
  | 0, some _ => throw .outOfFuel
  | steps + 1, some pkt => do
      let cell ← readAs Cell.packet? pkt
      freeIfSet cell.buf
      freeIfSet cell.iface
      free pkt
      destroyPackets steps cell.next

def srArpreqDestroy : Option Addr → HeapSr Unit
  | none => return ()
  | some entry => do
      let state ← get
      unlinkFrom entry state.heap.bound none state.requests
      let cell ← readAs Cell.arpreq? entry
      let state ← get
      destroyPackets state.heap.bound cell.packets
      free entry

/-! ## `handle_arpreq` -/

variable (memory : Memory)

/-- `send_icmp_msg` on a waiting packet.  What it put on the queue of `sr` is queued
on the heap instead, and handled there. -/
def sendIcmpMsg (handle : Addr → HeapSr Unit) (packet : Addr) (cell : PacketCell)
    (type code : UInt8) : HeapSr Unit := do
  let buf ← follow cell.buf
  let bytes ← readAs Cell.buf? buf
  onSr (Router.sendIcmpMsg memory (fun _ => return ())
    ⟨.packet packet, bytes.take cell.len⟩ type code)
  let state ← get
  modify fun state => { state with sr := { state.sr with requests := [] } }
  state.sr.requests.forM fun request =>
    request.packets.forM fun waiting => do
      let arpReq ← srArpcacheQueuereq request.ip waiting.buf waiting.iface
      handle arpReq

/-- The `while` over the waiting packets: `packet->next` is read after
`free(packet)`. -/
def sendHostUnreachable (handle : Addr → HeapSr Unit) : Nat → Option Addr → HeapSr Unit
  | _, none => return ()
  | 0, some _ => throw .outOfFuel
  | steps + 1, some packet => do
      let cell ← readAs Cell.packet? packet
      sendIcmpMsg memory handle packet cell icmpTypeDestUnreachable
        icmpDestUnreachableHost
      free packet
      let cell ← readAs Cell.packet? packet
      sendHostUnreachable handle steps cell.next

def timeOutArpreq (handle : Addr → HeapSr Unit) (request : Addr) : HeapSr Unit := do
  let cell ← readAs Cell.arpreq? request
  let state ← get
  sendHostUnreachable memory handle state.heap.bound cell.packets
  srArpreqDestroy (some request)

def broadcastArpreq (request : Addr) : HeapSr Unit := do
  let cell ← readAs Cell.arpreq? request
  let packet ← follow cell.packets
  let packet ← readAs Cell.packet? packet
  let name ← follow packet.iface
  let iface ← readAs Cell.iface? name
  let state ← get
  match srGetInterface state.sr.ifList iface with
  | none => return ()
  | some interface =>
      onSr do
        log (.broadcast request state.sr.clock)
        let _ ← srSendPacket (arpRequestFrame interface cell.ip) interface.name
      updateArpreq request fun cell =>
        { cell with sent := state.sr.clock, timesSent := cell.timesSent + 1 }

def handleArpreq : Nat → Addr → HeapSr Unit
  | 0, _ => throw .outOfFuel
  | depth + 1, request => do
      let state ← get
      let cell ← readAs Cell.arpreq? request
      if state.sr.clock - cell.sent > 1 then
        if cell.timesSent ≥ 5 then
          timeOutArpreq memory (handleArpreq depth) request
        else
          broadcastArpreq request
      else
        return ()

/-! ## Rules -/

section Rules

variable {α : Type} {state : HeapInstance} {address : Addr} {cell : Cell}
  {stopped : HeapFault → HeapInstance → Prop}

theorem ends_readAs {view : Cell → Option α} {value : α}
    (live : state.heap.cells address = some cell) (viewed : view cell = some value)
    (returned : α → HeapInstance → Prop) :
    Ends (readAs view address) state returned stopped ↔ returned value state := by
  simp only [readAs, ends_bind, ends_get, live, viewed, ends_pure]

theorem ends_readArpreq {cell : ArpreqCell}
    (live : state.heap.cells address = some (.arpreq cell))
    (returned : ArpreqCell → HeapInstance → Prop) :
    Ends (readAs Cell.arpreq? address) state returned stopped ↔ returned cell state := by
  have viewed : Cell.arpreq? (.arpreq cell) = some cell := rfl
  exact ends_readAs live viewed returned

theorem ends_readPacket {cell : PacketCell}
    (live : state.heap.cells address = some (.packet cell))
    (returned : PacketCell → HeapInstance → Prop) :
    Ends (readAs Cell.packet? address) state returned stopped ↔ returned cell state := by
  have viewed : Cell.packet? (.packet cell) = some cell := rfl
  exact ends_readAs live viewed returned

theorem ends_readAs_gone {view : Cell → Option α}
    (gone : state.heap.cells address = none) (returned : α → HeapInstance → Prop) :
    Ends (readAs view address) state returned stopped ↔ stopped (.gone address) state := by
  simp only [readAs, ends_bind, ends_get, gone, ends_throw]

theorem ends_free {heap : Heap Cell} (freed : state.heap.free address = some heap)
    (returned : Unit → HeapInstance → Prop) :
    Ends (free address) state returned stopped ↔ returned () { state with heap } := by
  simp only [free, ends_bind, ends_get, freed, ends_modify]

theorem ends_free_gone (state : HeapInstance) (address : Addr) :
    Ends (free address) state (fun _ next => next.heap.cells address = none)
      (fun fault _ => fault = .gone address) := by
  rw [free, ends_bind, ends_get]
  cases freed : state.heap.free address with
  | none => rfl
  | some heap => exact Heap.cells_of_free freed

theorem ends_writeCell {heap : Heap Cell} {value : Cell}
    (written : state.heap.write address value = some heap)
    (returned : Unit → HeapInstance → Prop) :
    Ends (writeCell address value) state returned stopped ↔
      returned () { state with heap } := by
  simp only [writeCell, ends_bind, ends_get, written, ends_modify]

theorem ends_malloc (returned : Addr → HeapInstance → Prop) :
    Ends (malloc cell) state returned stopped ↔
      returned state.heap.bound { state with heap := state.heap.alloc cell } := Iff.rfl

theorem ends_updateArpreq {heap : Heap Cell} {before : ArpreqCell}
    (live : state.heap.cells address = some (.arpreq before))
    {change : ArpreqCell → ArpreqCell}
    (written : state.heap.write address (.arpreq (change before)) = some heap)
    (returned : Unit → HeapInstance → Prop) :
    Ends (updateArpreq address change) state returned stopped ↔
      returned () { state with heap } := by
  rw [updateArpreq, ends_bind, ends_readArpreq live, ends_writeCell written]

theorem ends_onSr {program : Sr α} (returned : α → HeapInstance → Prop) :
    Ends (onSr program) state returned stopped ↔
      Ends program state.sr (fun value sr => returned value { state with sr })
        (fun fault sr => stopped (.router fault) { state with sr }) := by
  unfold Ends onSr
  cases program state.sr <;> rfl

end Rules

end Cmput313.Router.OnHeap
