import Cmput313.Lib.Program
import Cmput313.Router.Protocol

/-!
# The router instance and its primitive steps

`SrInstance` is `struct sr_instance` with its ARP cache, followed by what a run
leaves behind: the clock that `time` reads, the calls a run made and the bytes
it touched.  A node's `id` is its address.  `free` does not change what the
freed storage holds: a request that left the queue keeps its contents and its
`next` pointer in `detached`, where a pointer that outlived it still finds them.
To free a packet node twice is a fault.
-/

set_option autoImplicit false

namespace Cmput313.Router

open Cmput313.Bytes Cmput313.Program

structure SrIf where
  name : Name
  addr : Mac
  ip : UInt32
  deriving DecidableEq

structure SrRt where
  dest : UInt32
  gw : UInt32
  mask : UInt32
  interface : Name
  deriving DecidableEq

structure SrArpentry where
  mac : Mac
  ip : UInt32
  added : Int
  valid : Bool
  deriving DecidableEq

structure SrPacket where
  id : Nat
  buf : Bytes
  iface : Name
  deriving DecidableEq

structure SrArpreq where
  id : Nat
  ip : UInt32
  sent : Int
  timesSent : Nat
  packets : List SrPacket
  deriving DecidableEq

/-- Which buffer an access goes to: the received frame, the copy that waits in a
queued packet, or one of the two blocks the router allocates for its answers. -/
inductive Tag where
  | frame
  | packet (id : Nat)
  | newPacket
  | arpReply
  deriving DecidableEq

structure Buf where
  tag : Tag
  bytes : Bytes
  deriving DecidableEq

structure Access where
  tag : Tag
  offset : Nat
  size : Nat
  deriving DecidableEq

/-- Calls and decisions that later states do not show. -/
inductive Event where
  | sendPacket (buf : Bytes) (iface : Name)
  | wire (message : Bytes)
  | icmp (packet : Tag) (type code : UInt8)
  | queued (gw : UInt32) (request packet : Nat) (buf : Bytes) (iface : Name)
  | broadcast (request : Nat) (now : Int)
  | timedOut (request : Nat)
  | resolved (request : Nat) (mac : Mac)
  | swept (request : Nat) (onQueue : Bool)
  deriving DecidableEq

inductive Assertion where
  | ip
  | iface
  | ifList
  deriving DecidableEq

inductive Fault where
  | assertion (failed : Assertion)
  | nullInterface
  | nullPacket
  | unknownRequest
  | freedTwice (packet : Nat)
  | wildWrite
  | outOfFuel (request : Nat)
  deriving DecidableEq

structure SrInstance where
  ifList : List SrIf
  routingTable : List SrRt
  entries : Vector SrArpentry srArpcacheSz
  requests : List SrArpreq
  detached : List (SrArpreq × Option Nat)
  nextId : Nat
  clock : Int
  trace : List Event
  accesses : List Access
  deriving DecidableEq

abbrev Sr (α : Type) := EStateM Fault SrInstance α

/-- Memory the router did not write: what a read past the end of a buffer finds
at an offset from its start, and what a block from `malloc` holds. -/
structure Memory where
  beyond : Nat → UInt8
  fresh : Nat → UInt8

/-! ## Primitive steps -/

def SrInstance.record (sr : SrInstance) (event : Event) : SrInstance :=
  { sr with trace := sr.trace ++ [event] }

def SrInstance.touched (sr : SrInstance) (buf : Buf) (offset size : Nat) :
    SrInstance :=
  { sr with accesses := sr.accesses ++ [⟨buf.tag, offset, size⟩] }

def SrInstance.accessed (sr : SrInstance) (accesses : List Access) : SrInstance :=
  { sr with accesses := sr.accesses ++ accesses }

theorem touched_eq_accessed (sr : SrInstance) (buf : Buf) (offset size : Nat) :
    sr.touched buf offset size = sr.accessed [⟨buf.tag, offset, size⟩] := rfl

@[simp] theorem accessed_accessed (sr : SrInstance) (first second : List Access) :
    (sr.accessed first).accessed second = sr.accessed (first ++ second) := by
  simp [SrInstance.accessed]

def log (event : Event) : Sr Unit :=
  modify fun sr => sr.record event

def touch (buf : Buf) (offset size : Nat) : Sr Unit :=
  modify fun sr => sr.touched buf offset size

def load (memory : Memory) (buf : Buf) (offset size : Nat) : Sr Bytes := do
  touch buf offset size
  return read memory.beyond buf.bytes offset size

def load8 (memory : Memory) (buf : Buf) (offset : Nat) : Sr UInt8 := do
  touch buf offset 1
  return peek memory.beyond buf.bytes offset

def load16 (memory : Memory) (buf : Buf) (offset : Nat) : Sr UInt16 := do
  touch buf offset 2
  return peek16 memory.beyond buf.bytes offset

def load32 (memory : Memory) (buf : Buf) (offset : Nat) : Sr UInt32 := do
  touch buf offset 4
  return peek32 memory.beyond buf.bytes offset

/-- A write that leaves the buffer has no meaning; a read that does sees the
memory behind it. -/
def store (buf : Buf) (offset : Nat) (bytes : Bytes) : Sr Buf := do
  touch buf offset bytes.length
  if offset + bytes.length ≤ buf.bytes.length then
    return { buf with bytes := put buf.bytes offset bytes }
  else
    throw .wildWrite

def storeAll : List (Nat × Bytes) → Buf → Sr Buf
  | [], buf => return buf
  | (offset, bytes) :: rest, buf => do
      let buf ← store buf offset bytes
      storeAll rest buf

/-- A fresh address, as `malloc` and `calloc` return. -/
def allocate : Sr Nat := do
  let sr ← get
  modify fun sr => { sr with nextId := sr.nextId + 1 }
  return sr.nextId

section Ends

variable (memory : Memory) (buf : Buf) (offset size : Nat) (sr : SrInstance)
  (stopped : Fault → SrInstance → Prop)

@[simp] theorem ends_log (event : Event) (returned : Unit → SrInstance → Prop) :
    Ends (log event) sr returned stopped ↔ returned () (sr.record event) := Iff.rfl

@[simp] theorem ends_touch (returned : Unit → SrInstance → Prop) :
    Ends (touch buf offset size) sr returned stopped ↔
      returned () (sr.touched buf offset size) := Iff.rfl

@[simp] theorem ends_load (returned : Bytes → SrInstance → Prop) :
    Ends (load memory buf offset size) sr returned stopped ↔
      returned (read memory.beyond buf.bytes offset size)
        (sr.touched buf offset size) := Iff.rfl

@[simp] theorem ends_load8 (returned : UInt8 → SrInstance → Prop) :
    Ends (load8 memory buf offset) sr returned stopped ↔
      returned (peek memory.beyond buf.bytes offset)
        (sr.touched buf offset 1) := Iff.rfl

@[simp] theorem ends_load16 (returned : UInt16 → SrInstance → Prop) :
    Ends (load16 memory buf offset) sr returned stopped ↔
      returned (peek16 memory.beyond buf.bytes offset)
        (sr.touched buf offset 2) := Iff.rfl

@[simp] theorem ends_load32 (returned : UInt32 → SrInstance → Prop) :
    Ends (load32 memory buf offset) sr returned stopped ↔
      returned (peek32 memory.beyond buf.bytes offset)
        (sr.touched buf offset 4) := Iff.rfl

@[simp] theorem ends_store (bytes : Bytes) (returned : Buf → SrInstance → Prop) :
    Ends (store buf offset bytes) sr returned stopped ↔
      if offset + bytes.length ≤ buf.bytes.length then
        returned { buf with bytes := put buf.bytes offset bytes }
          (sr.touched buf offset bytes.length)
      else stopped .wildWrite (sr.touched buf offset bytes.length) := by
  rw [store, ends_bind, ends_touch, ends_ite]
  rfl

theorem store_eq (bytes : Bytes) :
    store buf offset bytes sr =
      if offset + bytes.length ≤ buf.bytes.length then
        .ok { buf with bytes := put buf.bytes offset bytes }
          (sr.touched buf offset bytes.length)
      else .error .wildWrite (sr.touched buf offset bytes.length) := by
  rw [store]
  split <;> rfl

theorem ends_storeAll (returned : Buf → SrInstance → Prop) :
    ∀ (writes : List (Nat × Bytes)) (buf : Buf) (sr : SrInstance),
      Fit writes buf.bytes.length →
      (Ends (storeAll writes buf) sr returned stopped ↔
        returned { buf with bytes := putAll writes buf.bytes } (sr.accessed
          (writes.map fun write => ⟨buf.tag, write.1, write.2.length⟩)))
  | [], buf, sr, _ => by
      rw [storeAll, ends_pure, SrInstance.accessed, List.map_nil, List.append_nil]
      rfl
  | (offset, bytes) :: rest, buf, sr, fits => by
      have first := fits _ (List.mem_cons_self ..)
      have later : Fit rest (put buf.bytes offset bytes).length := by
        intro write member
        rw [put_length first]
        exact fits write (List.mem_cons_of_mem _ member)
      rw [storeAll, ends_bind, ends_store, if_pos first,
        ends_storeAll returned rest ⟨buf.tag, put buf.bytes offset bytes⟩ _ later,
        touched_eq_accessed, accessed_accessed]
      rfl

@[simp] theorem ends_allocate (returned : Nat → SrInstance → Prop) :
    Ends allocate sr returned stopped ↔
      returned sr.nextId { sr with nextId := sr.nextId + 1 } := Iff.rfl

end Ends

end Cmput313.Router
