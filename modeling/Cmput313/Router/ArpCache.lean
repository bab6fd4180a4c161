import Cmput313.Router.Tables

/-!
# The ARP cache and its request queue

The table of IP to MAC mappings and the queue operations of `sr_arpcache.c`.
The recursive lock is held inside each of them, so each is one step.
-/

set_option autoImplicit false

namespace Cmput313.Router

open Cmput313.Program

abbrev ArpTable := Vector SrArpentry srArpcacheSz

/-! ## The mapping table -/

/-- The last slot that is valid and matches wins. -/
def srArpcacheLookup (entries : ArpTable) (ip : UInt32) : Option SrArpentry :=
  (List.finRange srArpcacheSz).foldl
    (fun entry i =>
      if entries[i].valid ∧ entries[i].ip = ip then some entries[i] else entry)
    none

/-- The slot at which the search of `sr_arpcache_insert` for a free one stops. -/
def firstFree (entries : ArpTable) : Option (Fin srArpcacheSz) :=
  (List.finRange srArpcacheSz).find? fun i => !entries[i].valid

/-- The second half of `sr_arpcache_insert`; a full table is left alone. -/
def insertMapping (entries : ArpTable) (mac : Mac) (ip : UInt32) (now : Int) :
    ArpTable :=
  match firstFree entries with
  | some i => entries.set i { mac, ip, added := now, valid := true }
  | none => entries

def expireMappings (entries : ArpTable) (curtime : Int) : ArpTable :=
  entries.map fun entry =>
    if entry.valid ∧ curtime - entry.added > srArpcacheTo then
      { entry with valid := false }
    else entry

/-! ## The request queue -/

def SrInstance.request? (sr : SrInstance) (id : Nat) : Option SrArpreq :=
  (sr.requests ++ sr.detached.map Prod.fst).find? fun req => req.id = id

def nextOnQueue : List SrArpreq → Nat → Option Nat
  | [], _ => none
  | req :: rest, id =>
      if req.id = id then rest.head?.map SrArpreq.id else nextOnQueue rest id

/-- `entry->next`; a request off the queue still has the one it left with. -/
def SrInstance.next (sr : SrInstance) (id : Nat) : Option Nat :=
  if sr.requests.any fun req => req.id = id then nextOnQueue sr.requests id
  else (sr.detached.find? fun left => left.1.id = id).bind Prod.snd

def SrInstance.updateRequest (sr : SrInstance) (id : Nat)
    (change : SrArpreq → SrArpreq) : SrInstance :=
  { sr with
    requests := sr.requests.map fun req => if req.id = id then change req else req
    detached := sr.detached.map fun left =>
      if left.1.id = id then (change left.1, left.2) else left }

def SrInstance.unlink (sr : SrInstance) (req : SrArpreq) : SrInstance :=
  { sr with
    requests := sr.requests.filter fun other => other.id ≠ req.id
    detached := (req, nextOnQueue sr.requests req.id) :: sr.detached }

/-- The address of the request that waits for `ip`, calloc'ed and pushed on the
queue if there was none. -/
def findOrCreateRequest (ip : UInt32) : Sr Nat := do
  let sr ← get
  match sr.requests.find? fun req => req.ip = ip with
  | some req => return req.id
  | none =>
      let id ← allocate
      modify fun sr =>
        { sr with
          requests := { id, ip, sent := 0, timesSent := 0, packets := [] } ::
            sr.requests }
      return id

def srArpcacheQueuereq (ip : UInt32) (packet : Bytes) (iface : Name) : Sr Nat := do
  let request ← findOrCreateRequest ip
  if packet.length ≠ 0 then
    let id ← allocate
    modify fun sr => sr.updateRequest request fun req =>
      { req with
        packets := { id, buf := packet, iface := strncpy srIfaceNamelen iface } ::
          req.packets }
    log (.queued ip request id packet iface)
  return request

/-- The request for `ip`, taken off the queue. -/
def srArpcacheInsert (mac : Mac) (ip : UInt32) : Sr (Option SrArpreq) := do
  let sr ← get
  let req := sr.requests.find? fun req => req.ip = ip
  match req with
  | some found => modify fun sr => sr.unlink found
  | none => pure ()
  modify fun sr =>
    { sr with entries := insertMapping sr.entries mac ip sr.clock }
  return req

/-- Unlinks the request if it is on the queue; the caller freed nothing of it. -/
def srArpreqDestroy (id : Nat) : Sr Unit :=
  modify fun sr =>
    match sr.requests.find? fun req => req.id = id with
    | some req => sr.unlink req
    | none => sr

def srArpcacheInit (ifList : List SrIf) (routingTable : List SrRt) (clock : Int) :
    SrInstance where
  ifList := ifList
  routingTable := routingTable
  entries := Vector.replicate srArpcacheSz
    { mac := Vector.replicate 6 0, ip := 0, added := 0, valid := false }
  requests := []
  detached := []
  nextId := 0
  clock := clock
  trace := []
  accesses := []

end Cmput313.Router
