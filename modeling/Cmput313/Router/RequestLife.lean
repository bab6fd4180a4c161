import Cmput313.Lib.Window
import Cmput313.Router.History

/-!
# The broadcasts of one request

A request lives from its creation, which the packet that is queued with it marks,
until it is given up or answered.  Where nothing comes between the test and the update
of `handle_arpreq`, at most five broadcasts of the request are made in that part of a
trace, more than a second apart, and each asks for the address that the request was
created for.
-/

set_option autoImplicit false

namespace Cmput313.Router

open Cmput313.Bytes Cmput313.Keyed Cmput313.Program Cmput313.Window

/-! ## The life of a request -/

def isCreation (id : Nat) : Event → Bool
  | .queued _ request _ _ _ => request = id
  | _ => false

def isRemoval (id : Nat) : Event → Bool
  | .timedOut request => request = id
  | .resolved request _ => request = id
  | _ => false

def lifeOf (id : Nat) (trace : List Event) : List Event :=
  window (isCreation id) (isRemoval id) trace

def CreatedFor (trace : List Event) (id : Nat) (ip : UInt32) : Prop :=
  ∃ packet buf iface, Event.queued ip id packet buf iface ∈ trace

def broadcastTime? (id : Nat) : Event → Option Int
  | .broadcast request now => if request = id then some now else none
  | _ => none

def broadcastTimes (id : Nat) (trace : List Event) : List Int :=
  trace.filterMap (broadcastTime? id)

/-- The frame is an ARP request with the interface as its sender and the address as its
target. -/
structure AsksFrom (interface : SrIf) (ip : UInt32) (buf : Bytes) : Prop where
  type : (buf.drop etherType).take 2 = bytes16 (htons ethertypeArp)
  op : (buf.drop arOp).take 2 = bytes16 (htons arpOpRequest)
  source : (buf.drop etherShost).take 6 = interface.addr.toList
  sha : (buf.drop arSha).take 6 = interface.addr.toList
  sip : (buf.drop arSip).take 4 = bytes32 interface.ip
  tip : (buf.drop arTip).take 4 = bytes32 ip

/-- What follows is a frame that asks for the address, on the interface it names. -/
def FollowedByRequest (ifList : List SrIf) (ip : UInt32) (after : List Event) : Prop :=
  ∃ buf iface interface rest, after = .sendPacket buf iface :: rest ∧
    srGetInterface ifList iface = some interface ∧ AsksFrom interface ip buf

def Asks (ifList : List SrIf) (id : Nat) (ip : UInt32) (trace : List Event) : Prop :=
  ∀ before now after, trace = before ++ .broadcast id now :: after →
    FollowedByRequest ifList ip after

/-- In the life of the request at most five broadcasts are made, any two of them more than
a second apart, and each asks for the address. -/
structure RateLimited (ifList : List SrIf) (trace : List Event) (id : Nat) (ip : UInt32) :
    Prop where
  few : (broadcastTimes id (lifeOf id trace)).length ≤ 5
  apart : (broadcastTimes id (lifeOf id trace)).Pairwise fun earlier later =>
    later - earlier > 1
  asks : Asks ifList id ip trace

theorem asksFrom_arpRequestFrame (interface : SrIf) (ip : UInt32) :
    AsksFrom interface ip (arpRequestFrame interface ip) := by
  obtain ⟨a, b, c, d, e, f, mac⟩ : ∃ a b c d e f, interface.addr.toList = [a, b, c, d, e, f] := by
    have six : interface.addr.toList.length = 6 := Vector.length_toList
    match interface.addr.toList, six with
    | [a, b, c, d, e, f], _ => exact ⟨a, b, c, d, e, f, rfl⟩
  unfold arpRequestFrame
  constructor
  all_goals
    rw [mac]
    rfl

theorem AsksFrom.long {interface : SrIf} {ip : UInt32} {buf : Bytes}
    (asks : AsksFrom interface ip buf) : 14 ≤ buf.length :=
  length_of_word asks.type

theorem CreatedFor.opened {trace : List Event} {id : Nat} {ip : UInt32}
    (created : CreatedFor trace id ip) : Opened (isCreation id) trace := by
  obtain ⟨packet, buf, iface, member⟩ := created
  exact ⟨_, member, decide_eq_true rfl⟩

theorem createdFor_append {trace new : List Event} {id : Nat} {ip : UInt32} :
    CreatedFor (trace ++ new) id ip ↔ CreatedFor trace id ip ∨ CreatedFor new id ip := by
  unfold CreatedFor
  simp only [List.mem_append, exists_or]

/-! ## Spaced broadcasts -/

/-- At most that many broadcasts were made in the life, the last one no later than
`last`. -/
structure Spaced (id : Nat) (life : List Event) (tries : Nat) (last : Int) : Prop where
  few : (broadcastTimes id life).length ≤ tries
  apart : (broadcastTimes id life).Pairwise fun earlier later => later - earlier > 1
  past : ∀ time ∈ broadcastTimes id life, time ≤ last

theorem Spaced.of_eq {id : Nat} {life longer : List Event} {tries : Nat} {last : Int}
    (spaced : Spaced id life tries last)
    (same : broadcastTimes id longer = broadcastTimes id life) :
    Spaced id longer tries last where
  few := same ▸ spaced.few
  apart := same ▸ spaced.apart
  past := same ▸ spaced.past

theorem spaced_nil {id : Nat} {life : List Event} (tries : Nat) (last : Int)
    (none : broadcastTimes id life = []) : Spaced id life tries last where
  few := by rw [none]; exact Nat.zero_le _
  apart := by rw [none]; exact List.Pairwise.nil
  past := by rw [none]; exact fun _ member => absurd member List.not_mem_nil

theorem Spaced.snoc {id : Nat} {life longer : List Event} {tries : Nat} {last now : Int}
    (spaced : Spaced id life tries last) (due : now - last > 1)
    (more : broadcastTimes id longer = broadcastTimes id life ++ [now]) :
    Spaced id longer (tries + 1) now where
  few := by
    rw [more, List.length_append]
    exact Nat.succ_le_succ spaced.few
  apart := by
    rw [more, List.pairwise_append]
    refine ⟨spaced.apart, List.pairwise_singleton _ _, ?_⟩
    intro earlier before later same
    have old := spaced.past earlier before
    rw [List.mem_singleton.mp same]
    omega
  past := by
    rw [more]
    intro time member
    rcases List.mem_append.mp member with before | own
    · have old := spaced.past time before
      omega
    · rw [List.mem_singleton.mp own]

/-! ## What the trace says of each request -/

structure Lives (trace : List Event) (req : SrArpreq) : Prop where
  created : Opened (isCreation req.id) trace
  present : ¬ Closed (isCreation req.id) (isRemoval req.id) trace
  spaced : Spaced req.id (lifeOf req.id trace) req.timesSent req.sent

structure Paced (sr : SrInstance) : Prop where
  live : ∀ req ∈ sr.requests, Lives sr.trace req
  ended : ∀ id, Opened (isCreation id) sr.trace → id ∉ sr.requestIds →
    Closed (isCreation id) (isRemoval id) sr.trace ∧
      ∃ last, Spaced id (lifeOf id sr.trace) 5 last
  fresh : ∀ event ∈ sr.trace, ∀ id, isCreation id event = true → id < sr.nextId

def Quiet (id : Nat) (new : List Event) : Prop :=
  ∀ event ∈ new, isRemoval id event = false ∧ broadcastTime? id event = none

theorem Lives.quiet {trace new : List Event} {req : SrArpreq} (lives : Lives trace req)
    (quiet : Quiet req.id new) : Lives (trace ++ new) req where
  created := lives.created.append
  present := by
    rw [closed_append_iff lives.created lives.present]
    rintro ⟨event, member, removal⟩
    rw [(quiet event member).1] at removal
    exact Bool.false_ne_true removal
  spaced := lives.spaced.of_eq
    (filterMap_window_append (fun event member => (quiet event member).2) (Or.inl lives.created))

/-- The trace goes on: the requests of the queue live, and those that left it were
removed just now. -/
theorem Paced.step {new : List Event} {before after : SrInstance} (paced : Paced before)
    (trace : after.trace = before.trace ++ new)
    (later : before.nextId ≤ after.nextId) (tries : ∀ req ∈ before.requests, req.timesSent ≤ 5)
    (live : ∀ req ∈ after.requests, Lives after.trace req)
    (left : ∀ req ∈ before.requests, req.id ∉ after.requestIds →
      ∃ event, new = [event] ∧ isRemoval req.id event = true)
    (queued : ∀ event ∈ new, ∀ id, isCreation id event = true → id ∈ after.requestIds)
    (addressed : Addressed after) : Paced after where
  live := live
  ended := by
    intro id created gone
    rw [trace] at created ⊢
    obtain ⟨event, member, creation⟩ := created
    rcases List.mem_append.mp member with old | own
    · have opened : Opened (isCreation id) before.trace := ⟨event, old, creation⟩
      by_cases waited : id ∈ before.requestIds
      · obtain ⟨req, waits, rfl⟩ := List.mem_map.mp waited
        have lives := paced.live req waits
        obtain ⟨event, rfl, removal⟩ := left req waits gone
        have closed : Closed (isCreation req.id) (isRemoval req.id) (before.trace ++ [event]) :=
          (closed_append_iff lives.created lives.present).mpr
            ⟨event, List.mem_singleton.mpr rfl, removal⟩
        have same : lifeOf req.id (before.trace ++ [event]) = lifeOf req.id before.trace := by
          rw [lifeOf, lifeOf, window_append_of_open lives.created lives.present,
            List.takeWhile_cons_of_neg (by simp [removal]), List.append_nil]
        refine ⟨closed, req.sent, ?_⟩
        rw [same]
        exact { lives.spaced with few := Nat.le_trans lives.spaced.few (tries req waits) }
      · obtain ⟨closed, last, spaced⟩ := paced.ended id opened waited
        refine ⟨closed.append, last, ?_⟩
        rw [lifeOf, window_append_of_closed closed]
        exact spaced
    · exact absurd (queued event own id creation) gone
  fresh := by
    rw [trace]
    intro event member id creation
    rcases List.mem_append.mp member with old | new
    · exact Nat.lt_of_lt_of_le (paced.fresh event old id creation) later
    · obtain ⟨req, waits, rfl⟩ := List.mem_map.mp (queued event new id creation)
      exact addressed.fresh req (mem_everyRequest_of_mem waits)

theorem Lives.of_same {trace : List Event} {req other : SrArpreq} (lives : Lives trace req)
    (id : other.id = req.id) (sent : other.sent = req.sent)
    (tries : other.timesSent = req.timesSent) : Lives trace other where
  created := id ▸ lives.created
  present := id ▸ lives.present
  spaced := by rw [id, sent, tries]; exact lives.spaced

/-! ## What every request was asked for -/

/-- Requests are created and asked for under one address each, and the trace knows no other
requests. -/
structure Named (sr : SrInstance) : Prop where
  created : ∀ req ∈ sr.everyRequest, ∀ ip, CreatedFor sr.trace req.id ip → ip = req.ip
  asked : ∀ req ∈ sr.everyRequest, Asks sr.ifList req.id req.ip sr.trace
  known : ∀ event ∈ sr.trace, ∀ id,
    isCreation id event = true ∨ (broadcastTime? id event).isSome = true →
      ∃ req ∈ sr.everyRequest, req.id = id

theorem Asks.append {ifList : List SrIf} {id : Nat} {ip : UInt32} {trace new : List Event}
    (first : Asks ifList id ip trace) (last : Asks ifList id ip new) :
    Asks ifList id ip (trace ++ new) := by
  intro before now after split
  obtain ⟨middle, rfl, behind⟩ | ⟨middle, rfl, behind⟩ := List.append_eq_append_iff.mp split
  · exact last middle now after behind
  · cases middle with
    | nil =>
        rw [List.nil_append] at behind
        exact last [] now after behind.symm
    | cons event middle =>
        obtain ⟨same, rest⟩ := List.cons_eq_cons.mp behind
        subst same
        obtain ⟨buf, iface, interface, tail, rfl, found, asks⟩ := first before now middle rfl
        exact ⟨buf, iface, interface, tail ++ new, rest, found, asks⟩

theorem asks_of_silent {ifList : List SrIf} {id : Nat} {ip : UInt32} {new : List Event}
    (silent : ∀ event ∈ new, broadcastTime? id event = none) : Asks ifList id ip new := by
  intro before now after split
  have none := silent (.broadcast id now) (split ▸ List.mem_append_right _ (List.mem_cons_self ..))
  simp [broadcastTime?] at none

theorem Named.step {new : List Event} {before after : SrInstance} (named : Named before)
    (trace : after.trace = before.trace ++ new) (ifList : after.ifList = before.ifList)
    (old : ∀ req ∈ after.everyRequest,
      (∃ previous ∈ before.everyRequest, previous.id = req.id ∧ previous.ip = req.ip) ∨
        ∀ previous ∈ before.everyRequest, previous.id ≠ req.id)
    (kept : ∀ previous ∈ before.everyRequest, ∃ req ∈ after.everyRequest, req.id = previous.id)
    (created : ∀ req ∈ after.everyRequest, ∀ ip, CreatedFor new req.id ip → ip = req.ip)
    (asked : ∀ req ∈ after.everyRequest, Asks before.ifList req.id req.ip new)
    (known : ∀ event ∈ new, ∀ id,
      isCreation id event = true ∨ (broadcastTime? id event).isSome = true →
        ∃ req ∈ after.everyRequest, req.id = id) : Named after where
  created := by
    intro req member ip creation
    rw [trace, createdFor_append] at creation
    rcases creation with before_ | now
    · rcases old req member with ⟨previous, waited, id, same⟩ | none
      · exact same ▸ named.created previous waited ip (id ▸ before_)
      · obtain ⟨packet, buf, iface, created⟩ := before_
        obtain ⟨previous, waited, id⟩ :=
          named.known _ created req.id (Or.inl (decide_eq_true rfl))
        exact absurd id (none previous waited)
    · exact created req member ip now
  asked := by
    intro req member
    rw [trace, ifList]
    refine Asks.append ?_ (asked req member)
    rcases old req member with ⟨previous, waited, id, same⟩ | none
    · exact id ▸ same ▸ named.asked previous waited
    · apply asks_of_silent
      intro event heard
      by_contra broadcast
      obtain ⟨previous, waited, id⟩ :=
        named.known event heard req.id (Or.inr (Option.isSome_iff_ne_none.mpr broadcast))
      exact none previous waited id
  known := by
    rw [trace]
    intro event member id names
    rcases List.mem_append.mp member with before_ | now
    · obtain ⟨previous, waited, rfl⟩ := named.known event before_ id names
      exact kept previous waited
    · exact known event now id names

theorem Named.idle {new : List Event} {before after : SrInstance} (named : Named before)
    (trace : after.trace = before.trace ++ new) (ifList : after.ifList = before.ifList)
    (requests : after.everyRequest.Perm before.everyRequest)
    (silent : ∀ event ∈ new, ∀ id, isCreation id event = false ∧ broadcastTime? id event = none) :
    Named after := by
  apply named.step trace ifList
  · exact fun req member => Or.inl ⟨req, requests.subset member, rfl, rfl⟩
  · exact fun req member => ⟨req, requests.symm.subset member, rfl⟩
  · rintro req _ ip ⟨packet, buf, iface, created⟩
    have none := (silent _ created req.id).1
    simp [isCreation] at none
  · exact fun req _ => asks_of_silent fun event member => (silent event member req.id).2
  · intro event member id names
    obtain ⟨uncreated, unasked⟩ := silent event member id
    simp [uncreated, unasked] at names

/-! ## Every move keeps what the trace says -/

theorem Paced.idle {new : List Event} {before after : SrInstance} (paced : Paced before)
    (invariant : QueueInvariant after) (trace : after.trace = before.trace ++ new)
    (requests : after.requests = before.requests) (later : before.nextId ≤ after.nextId)
    (tries : ∀ req ∈ before.requests, req.timesSent ≤ 5) (quiet : ∀ id, Quiet id new)
    (none : ∀ event ∈ new, ∀ id, isCreation id event = false) : Paced after := by
  apply paced.step trace later tries
  · rw [requests, trace]
    exact fun req member => (paced.live req member).quiet (quiet req.id)
  · intro req member gone
    rw [SrInstance.requestIds, requests] at gone
    exact absurd (List.mem_map_of_mem member) gone
  · intro event member id creation
    rw [none event member id] at creation
    exact absurd creation Bool.false_ne_true
  · exact invariant.addressed

/-- The event marks nothing and is no broadcast. -/
def Event.IsSilent (event : Event) : Prop :=
  ∀ id, isCreation id event = false ∧ isRemoval id event = false ∧ broadcastTime? id event = none

theorem Event.IsNote.silent {event : Event} (isNote : event.IsNote) : event.IsSilent := by
  cases event with
  | icmp packet type code => exact fun _ => ⟨rfl, rfl, rfl⟩
  | swept request onQueue => exact fun _ => ⟨rfl, rfl, rfl⟩
  | _ => exact isNote.elim

theorem silent_of_send {ifList : List SrIf} {buf : Bytes} {iface : Name} {event : Event}
    (member : event ∈ sendEvents ifList buf iface) : event.IsSilent := by
  unfold sendEvents at member
  rcases List.mem_cons.mp member with rfl | wired
  · exact fun _ => ⟨rfl, rfl, rfl⟩
  · split at wired
    · rw [List.mem_singleton.mp wired]
      exact fun _ => ⟨rfl, rfl, rfl⟩
    · exact absurd wired List.not_mem_nil

/-- What a run of moves keeps. -/
structure Sound (ifList : List SrIf) (sr : SrInstance) : Prop where
  queue : QueueInvariant sr
  ready : Ready sr
  paced : Paced sr
  named : Named sr
  interfaces : sr.ifList = ifList

section Move

variable {sr : SrInstance}

theorem Sound.idle {ifList : List SrIf} {new : List Event} {after : SrInstance}
    (sound : Sound ifList sr) (trace : after.trace = sr.trace ++ new)
    (requests : after.requests = sr.requests) (detached : after.detached = sr.detached)
    (interfaces : after.ifList = sr.ifList) (nextId : after.nextId = sr.nextId)
    (silent : ∀ event ∈ new, event.IsSilent) : Sound ifList after := by
  have every : after.everyRequest = sr.everyRequest := by
    rw [SrInstance.everyRequest, requests, detached]
    rfl
  have queue : QueueInvariant after :=
    sound.queue.perm (every ▸ List.Perm.refl _) (requests ▸ List.Sublist.refl _) interfaces
      (Nat.le_of_eq nextId.symm)
  have tries : ∀ req ∈ sr.requests, req.timesSent ≤ 5 :=
    fun req member => (sound.queue.requests req (mem_everyRequest_of_mem member)).tries
  exact {
    queue := queue
    ready := ready_of_requests sound.ready queue.addressed (every ▸ List.Subset.refl _)
    paced := sound.paced.idle queue trace requests (Nat.le_of_eq nextId.symm) tries
      (fun id event member => (silent event member id).2)
      fun event member id => (silent event member id).1
    named := sound.named.idle trace interfaces (every ▸ List.Perm.refl _)
      fun event member id => ⟨(silent event member id).1, (silent event member id).2.2⟩
    interfaces := interfaces.trans sound.interfaces }

theorem Sound.atTime {ifList : List SrIf} (sound : Sound ifList sr) (now : Int) :
    Sound ifList (sr.atTime now) :=
  sound.idle (List.append_nil _).symm rfl rfl rfl rfl fun _ member =>
    absurd member List.not_mem_nil

/-- The requests of the queue after a packet was queued: those of before, up to their
packets, and perhaps a new one. -/
theorem mem_requests_enqueue {gw : UInt32} {packet : Bytes} {iface : Name} {req : SrArpreq}
    (member : req ∈ (sr.enqueue gw packet iface).requests) :
    (∃ old ∈ sr.requests, req.id = old.id ∧ req.sent = old.sent ∧
      req.timesSent = old.timesSent) ∨
      (req.id = sr.nextId ∧ (sr.withRequest gw).2 = sr.nextId) := by
  have updated : req ∈ update SrArpreq.id (sr.withRequest gw).2 _
    (sr.withRequest gw).1.requests := member
  obtain ⟨previous, existed, same⟩ := mem_update updated
  have fields : req.id = previous.id ∧ req.sent = previous.sent ∧
      req.timesSent = previous.timesSent := by
    rcases same with ⟨_, rfl⟩ | ⟨_, rfl⟩
    · exact ⟨rfl, rfl, rfl⟩
    · exact ⟨rfl, rfl, rfl⟩
  rcases withRequest_cases sr gw with ⟨_, _, _, found⟩ | ⟨_, created⟩
  · rw [found] at existed
    exact Or.inl ⟨previous, existed, fields⟩
  · rw [created] at existed
    rcases List.mem_cons.mp existed with rfl | old
    · exact Or.inr ⟨fields.1, by rw [created]⟩
    · exact Or.inl ⟨previous, old, fields⟩

theorem lives_created {trace : List Event}
    (fresh : ∀ event ∈ trace, ∀ id, isCreation id event = true → id < sr.nextId)
    {req : SrArpreq} (own : req.id = sr.nextId) (gw : UInt32) (packet : Nat) (buf : Bytes)
    (iface : Name) : Lives (trace ++ [.queued gw sr.nextId packet buf iface]) req := by
  have unopened : ¬ Opened (isCreation req.id) trace := by
    rintro ⟨event, member, creation⟩
    exact absurd (fresh event member _ creation) (own ▸ Nat.lt_irrefl _)
  refine ⟨?_, ?_, ?_⟩
  · exact ⟨_, List.mem_append_right _ (List.mem_singleton.mpr rfl), decide_eq_true own.symm⟩
  · rw [closed_append_of_unopened unopened]
    rintro ⟨event, member, removal⟩
    rw [List.mem_singleton.mp ((List.dropWhile_sublist _).subset member)] at removal
    exact Bool.false_ne_true removal
  · apply spaced_nil
    rw [lifeOf, window_append_of_unopened unopened, broadcastTimes, List.filterMap_eq_nil_iff]
    intro event member
    have inLife := (List.dropWhile_sublist _).subset ((List.takeWhile_prefix _).subset member)
    rw [List.mem_singleton.mp inLife]
    rfl

theorem paced_enqueue (paced : Paced sr) (tries : ∀ req ∈ sr.requests, req.timesSent ≤ 5)
    {gw : UInt32} {packet : Bytes} {iface : Name}
    (after : QueueInvariant (sr.enqueue gw packet iface)) :
    Paced (sr.enqueue gw packet iface) := by
  have trace := trace_enqueue sr gw packet iface
  apply paced.step trace (grows_enqueue sr gw packet iface).nextId tries _ _ _ after.addressed
  · intro req member
    rw [trace]
    rcases mem_requests_enqueue member with ⟨old, waits, id, sent, count⟩ | ⟨own, new⟩
    · apply Lives.of_same _ id sent count
      apply (paced.live old waits).quiet
      intro event same
      obtain rfl := List.mem_singleton.mp same
      exact ⟨rfl, rfl⟩
    · rw [new]
      exact lives_created paced.fresh own _ _ _ _
  · intro req member gone
    have queue : req.id ∈ (sr.withRequest gw).1.requestIds := by
      rcases withRequest_cases sr gw with ⟨_, _, _, same⟩ | ⟨_, same⟩
      · rw [same]
        exact List.mem_map_of_mem member
      · rw [same]
        exact List.mem_cons_of_mem _ (List.mem_map_of_mem member)
    rw [requestIds_enqueue] at gone
    exact absurd queue gone
  · intro event member id creation
    obtain rfl := List.mem_singleton.mp member
    rw [← of_decide_eq_true creation]
    exact mem_requestIds_enqueue sr gw packet iface

theorem named_enqueue (named : Named sr) (invariant : QueueInvariant sr) (gw : UInt32)
    (packet : Bytes) (iface : Name) : Named (sr.enqueue gw packet iface) := by
  have addressed := (addressed_withRequest invariant.addressed gw).1
  -- the request that the packet goes to, and what else there is
  obtain ⟨own, waits, id, ip⟩ : ∃ own ∈ (sr.withRequest gw).1.everyRequest,
      own.id = (sr.withRequest gw).2 ∧ own.ip = gw := by
    rcases withRequest_cases sr gw with ⟨req, member, same, found⟩ | ⟨_, created⟩
    · rw [found]
      exact ⟨req, mem_everyRequest_of_mem member, rfl, same⟩
    · rw [created]
      exact ⟨_, List.mem_cons_self .., rfl, rfl⟩
  have every : (sr.enqueue gw packet iface).everyRequest = update SrArpreq.id
      (sr.withRequest gw).2
      (fun req => req.push ⟨(sr.withRequest gw).1.nextId, packet, strncpy srIfaceNamelen iface⟩)
      (sr.withRequest gw).1.everyRequest := by
    rw [SrInstance.enqueue, everyRequest_record, everyRequest_updateRequest]
    rfl
  have before : ∀ req ∈ (sr.enqueue gw packet iface).everyRequest,
      ∃ previous ∈ (sr.withRequest gw).1.everyRequest,
        previous.id = req.id ∧ previous.ip = req.ip := by
    intro req member
    rw [every] at member
    obtain ⟨previous, existed, ⟨_, rfl⟩ | ⟨_, rfl⟩⟩ := mem_update member
    · exact ⟨previous, existed, rfl, rfl⟩
    · exact ⟨_, existed, rfl, rfl⟩
  have behind : ∀ previous ∈ (sr.withRequest gw).1.everyRequest,
      ∃ req ∈ (sr.enqueue gw packet iface).everyRequest, req.id = previous.id := by
    intro previous member
    rw [every]
    refine ⟨_, List.mem_map_of_mem member, ?_⟩
    split <;> rfl
  apply named.step (trace_enqueue sr gw packet iface) (grows_enqueue sr gw packet iface).ifList
  · intro req member
    obtain ⟨previous, existed, same, sameIp⟩ := before req member
    rcases mem_everyRequest_withRequest existed with old | ⟨new, _⟩
    · exact Or.inl ⟨previous, old, same, sameIp⟩
    · rcases withRequest_cases sr gw with ⟨_, _, _, found⟩ | ⟨_, created⟩
      · rw [found] at existed
        exact Or.inl ⟨previous, existed, same, sameIp⟩
      · right
        intro other waited clash
        have older := invariant.addressed.fresh other waited
        rw [created] at new
        exact absurd older (by rw [clash, ← same, new]; exact Nat.lt_irrefl _)
  · intro previous member
    apply behind
    rcases withRequest_cases sr gw with ⟨_, _, _, found⟩ | ⟨_, created⟩
    · rw [found]
      exact member
    · rw [created]
      exact List.mem_cons_of_mem _ member
  · rintro req member other ⟨_, _, _, created⟩
    injection List.mem_singleton.mp created with gateway request
    subst gateway
    obtain ⟨previous, existed, same, sameIp⟩ := before req member
    obtain rfl := addressed.requests.eq_of_key existed waits
      (same.trans (request.trans id.symm))
    exact ip.symm.trans sameIp
  · intro req _
    apply asks_of_silent
    intro event same
    rw [List.mem_singleton.mp same]
    rfl
  · intro event member other names
    obtain rfl := List.mem_singleton.mp member
    have same : (sr.withRequest gw).2 = other := by simpa [isCreation, broadcastTime?] using names
    rw [← same, ← id]
    exact behind own waits

/-! ## A broadcast -/

/-- A broadcast by a thread that has read the clock before. -/
def SrInstance.rebroadcastAt (sr : SrInstance) (now : Int) (req : SrArpreq)
    (interface : SrIf) : SrInstance :=
  ((sr.record (.broadcast req.id now)).sendPacket (arpRequestFrame interface req.ip)
    interface.name).updateRequest req.id
      fun req => { req with sent := now, timesSent := req.timesSent + 1 }

def rebroadcastEvents (ifList : List SrIf) (now : Int) (req : SrArpreq) (interface : SrIf) :
    List Event :=
  .broadcast req.id now ::
    sendEvents ifList (arpRequestFrame interface req.ip) interface.name

theorem trace_rebroadcastAt (sr : SrInstance) (now : Int) (req : SrArpreq) (interface : SrIf) :
    (sr.rebroadcastAt now req interface).trace =
      sr.trace ++ rebroadcastEvents sr.ifList now req interface := by
  show (sr.trace ++ [.broadcast req.id now]) ++ sendEvents _ _ _ = _
  rw [List.append_assoc]
  rfl

theorem unmarked_rebroadcast {ifList : List SrIf} {now : Int} {req : SrArpreq}
    {interface : SrIf} {event : Event}
    (member : event ∈ rebroadcastEvents ifList now req interface) (id : Nat) :
    isCreation id event = false ∧ isRemoval id event = false := by
  rcases List.mem_cons.mp member with rfl | sent
  · exact ⟨rfl, rfl⟩
  · exact ⟨(silent_of_send sent id).1, (silent_of_send sent id).2.1⟩

theorem broadcastTimes_rebroadcast (ifList : List SrIf) (now : Int) (req : SrArpreq)
    (interface : SrIf) :
    broadcastTimes req.id (rebroadcastEvents ifList now req interface) = [now] := by
  have none : (sendEvents ifList (arpRequestFrame interface req.ip) interface.name).filterMap
      (broadcastTime? req.id) = [] := by
    rw [List.filterMap_eq_nil_iff]
    exact fun event sent => (silent_of_send sent req.id).2.2
  rw [broadcastTimes, rebroadcastEvents, List.filterMap_cons, none]
  simp [broadcastTime?]

theorem quiet_rebroadcast {ifList : List SrIf} {now : Int} {req : SrArpreq} {interface : SrIf}
    {id : Nat} (different : req.id ≠ id) :
    Quiet id (rebroadcastEvents ifList now req interface) := by
  intro event member
  refine ⟨(unmarked_rebroadcast member id).2, ?_⟩
  rcases List.mem_cons.mp member with rfl | sent
  · exact if_neg different
  · exact (silent_of_send sent id).2.2

theorem Lives.rebroadcast {trace : List Event} {req : SrArpreq} (lives : Lives trace req)
    {now : Int} (due : now - req.sent > 1) (ifList : List SrIf) (interface : SrIf) :
    Lives (trace ++ rebroadcastEvents ifList now req interface)
      { req with sent := now, timesSent := req.timesSent + 1 } where
  created := lives.created.append
  present := by
    rw [closed_append_iff lives.created lives.present]
    rintro ⟨event, member, removal⟩
    rw [(unmarked_rebroadcast member req.id).2] at removal
    exact Bool.false_ne_true removal
  spaced := by
    apply lives.spaced.snoc due
    have whole : (rebroadcastEvents ifList now req interface).takeWhile
        (fun event => !isRemoval req.id event) =
          rebroadcastEvents ifList now req interface := by
      rw [List.takeWhile_eq_self_iff]
      intro event member
      rw [(unmarked_rebroadcast member req.id).2]
      rfl
    rw [lifeOf, window_append_of_open lives.created lives.present, whole, broadcastTimes,
      List.filterMap_append]
    exact congrArg _ (broadcastTimes_rebroadcast ifList now req interface)

theorem queueInvariant_rebroadcastAt (invariant : QueueInvariant sr) (now : Int)
    {req : SrArpreq} (interface : SrIf) (live : sr.request? req.id = some req)
    (left : req.timesSent < 5) : QueueInvariant (sr.rebroadcastAt now req interface) :=
  -- only the time differs from a broadcast at the clock of the state
  have asIfNow : QueueInvariant ((sr.atTime now).rebroadcast req interface) :=
    queueInvariant_rebroadcast (queueInvariant_atTime invariant now) live left
  asIfNow.perm (List.Perm.refl _) (List.Sublist.refl _) rfl (Nat.le_refl _)

theorem mem_everyRequest_rebroadcastAt {now : Int} {req other : SrArpreq} {interface : SrIf}
    (member : other ∈ (sr.rebroadcastAt now req interface).everyRequest) :
    ∃ old ∈ sr.everyRequest, old.id = other.id ∧ old.ip = other.ip ∧
      old.packets = other.packets := by
  rw [SrInstance.rebroadcastAt, everyRequest_updateRequest] at member
  obtain ⟨old, existed, ⟨_, rfl⟩ | ⟨_, rfl⟩⟩ := mem_update member
  · exact ⟨old, existed, rfl, rfl, rfl⟩
  · exact ⟨_, existed, rfl, rfl, rfl⟩

theorem paced_rebroadcastAt (paced : Paced sr) (invariant : QueueInvariant sr) {now : Int}
    {req : SrArpreq} (interface : SrIf) (live : sr.request? req.id = some req)
    (left : req.timesSent < 5) (due : now - req.sent > 1) :
    Paced (sr.rebroadcastAt now req interface) := by
  have after := queueInvariant_rebroadcastAt invariant now interface live left
  have existed := (invariant.addressed.request?_eq_some_iff.mp live).1
  have tries : ∀ req ∈ sr.requests, req.timesSent ≤ 5 :=
    fun req member => (invariant.requests req (mem_everyRequest_of_mem member)).tries
  have trace := trace_rebroadcastAt sr now req interface
  have ids : (sr.rebroadcastAt now req interface).requestIds = sr.requestIds :=
    map_update SrArpreq.id fun _ => rfl
  apply paced.step trace (Nat.le_refl _) tries _ _ _ after.addressed
  · intro other member
    rw [trace]
    have updated : other ∈ update SrArpreq.id req.id _ sr.requests := member
    obtain ⟨old, waits, ⟨same, rfl⟩ | ⟨different, rfl⟩⟩ := mem_update updated
    · obtain rfl := invariant.addressed.requests.eq_of_key (mem_everyRequest_of_mem waits)
        existed same
      exact (paced.live old waits).rebroadcast due sr.ifList interface
    · exact (paced.live other waits).quiet (quiet_rebroadcast different.symm)
  · intro other member gone
    rw [ids] at gone
    exact absurd (List.mem_map_of_mem member) gone
  · intro event member id creation
    rw [(unmarked_rebroadcast member id).1] at creation
    exact absurd creation Bool.false_ne_true

theorem named_rebroadcastAt (named : Named sr) (addressed : Addressed sr) {now : Int}
    {req : SrArpreq} {interface : SrIf} (live : sr.request? req.id = some req)
    (found : srGetInterface sr.ifList interface.name = some interface) :
    Named (sr.rebroadcastAt now req interface) := by
  have existed := (addressed.request?_eq_some_iff.mp live).1
  have trace := trace_rebroadcastAt sr now req interface
  apply named.step trace rfl
  · intro other member
    obtain ⟨old, waits, id, ip, _⟩ := mem_everyRequest_rebroadcastAt member
    exact Or.inl ⟨old, waits, id, ip⟩
  · intro old waits
    rw [SrInstance.rebroadcastAt, everyRequest_updateRequest]
    refine ⟨_, List.mem_map_of_mem waits, ?_⟩
    split <;> rfl
  · rintro other _ ip ⟨_, _, _, created⟩
    have none := (unmarked_rebroadcast created other.id).1
    simp [isCreation] at none
  · intro other member before time after split
    obtain ⟨old, waits, id, ip, _⟩ := mem_everyRequest_rebroadcastAt member
    cases before with
    | nil =>
        obtain ⟨same, sent⟩ := List.cons_eq_cons.mp split
        injection same with own _
        obtain rfl := addressed.requests.eq_of_key waits existed (id.trans own.symm)
        rw [← sent, sendEvents, ← ip]
        exact ⟨_, _, interface, _, rfl, found, asksFrom_arpRequestFrame interface old.ip⟩
    | cons event before =>
        obtain ⟨_, sent⟩ := List.cons_eq_cons.mp split
        have broadcast : Event.broadcast other.id time ∈ sendEvents sr.ifList
            (arpRequestFrame interface req.ip) interface.name :=
          sent ▸ List.mem_append_right _ (List.mem_cons_self ..)
        have none := (silent_of_send broadcast other.id).2.2
        simp [broadcastTime?] at none
  · intro event member id names
    rw [(unmarked_rebroadcast member id).1] at names
    have own : req.id = id := by
      by_contra different
      rw [(quiet_rebroadcast different event member).2] at names
      simp at names
    rw [SrInstance.rebroadcastAt, everyRequest_updateRequest]
    refine ⟨_, List.mem_map_of_mem existed, ?_⟩
    rw [if_pos rfl]
    exact own

theorem Sound.rebroadcastAt {ifList : List SrIf} (sound : Sound ifList sr) {now : Int}
    {req : SrArpreq} {interface : SrIf} (live : sr.request? req.id = some req)
    (left : req.timesSent < 5) (due : now - req.sent > 1)
    (found : srGetInterface sr.ifList interface.name = some interface) :
    Sound ifList (sr.rebroadcastAt now req interface) := by
  have queue := queueInvariant_rebroadcastAt sound.queue now interface live left
  exact {
    queue := queue
    ready := {
      addressed := queue.addressed
      datagrams := by
        intro other member packet waits
        obtain ⟨old, existed, _, _, packets⟩ := mem_everyRequest_rebroadcastAt member
        exact sound.ready.datagrams old existed packet (packets ▸ waits) }
    paced := paced_rebroadcastAt sound.paced sound.queue interface live left due
    named := named_rebroadcastAt sound.named sound.queue.addressed live found
    interfaces := sound.interfaces }

theorem Sound.remove {ifList : List SrIf} {after : SrInstance} (sound : Sound ifList sr)
    {event : Event} (id : Nat) (removal : ∀ other, isRemoval other event = decide (id = other))
    (silent : ∀ other, isCreation other event = false ∧ broadcastTime? other event = none)
    (trace : after.trace = sr.trace ++ [event])
    (every : after.everyRequest.Perm sr.everyRequest)
    (requests : after.requests = sr.requests.filter fun other => other.id ≠ id)
    (interfaces : after.ifList = sr.ifList) (nextId : after.nextId = sr.nextId) :
    Sound ifList after := by
  have queue : QueueInvariant after :=
    sound.queue.perm every (requests ▸ List.filter_sublist) interfaces (Nat.le_of_eq nextId.symm)
  have tries : ∀ req ∈ sr.requests, req.timesSent ≤ 5 :=
    fun req member => (sound.queue.requests req (mem_everyRequest_of_mem member)).tries
  refine ⟨queue, ready_of_requests sound.ready queue.addressed every.subset, ?_, ?_,
    interfaces.trans sound.interfaces⟩
  · apply sound.paced.step trace (Nat.le_of_eq nextId.symm) tries _ _ _ queue.addressed
    · intro req member
      rw [requests, List.mem_filter] at member
      rw [trace]
      apply (sound.paced.live req member.1).quiet
      intro other same
      obtain rfl := List.mem_singleton.mp same
      refine ⟨?_, (silent req.id).2⟩
      rw [removal]
      exact decide_eq_false fun own => (of_decide_eq_true member.2) own.symm
    · intro req member gone
      refine ⟨_, rfl, ?_⟩
      rw [removal]
      apply decide_eq_true
      by_contra different
      apply gone
      rw [SrInstance.requestIds, requests]
      apply List.mem_map_of_mem
      exact List.mem_filter.mpr ⟨member, decide_eq_true fun own => different own.symm⟩
    · intro other member id creation
      rw [List.mem_singleton.mp member, (silent id).1] at creation
      exact absurd creation Bool.false_ne_true
  · apply sound.named.idle trace interfaces every
    intro other member id
    rw [List.mem_singleton.mp member]
    exact silent id

theorem GuardedMove.preserves_sound {ifList : List SrIf} {after : SrInstance}
    (sound : Sound ifList sr) (guarded : GuardedMove ordered sr after) :
    Sound ifList after := by
  have distinct := distinct_requests sound.queue.addressed.requests
  have nothing : ∀ next : SrInstance, next.requests = sr.requests →
      next.detached = sr.detached → next.trace = sr.trace → next.ifList = sr.ifList →
      next.nextId = sr.nextId → Sound ifList next :=
    fun next requests detached trace interfaces nextId =>
      sound.idle (trace.trans (List.append_nil _).symm) requests detached interfaces nextId
        fun _ member => absurd member List.not_mem_nil
  cases guarded with
  | touch buf offset size => exact nothing _ rfl rfl rfl rfl rfl
  | expire => exact nothing _ rfl rfl rfl rfl rfl
  | note event isNote =>
      have trace : (sr.record event).trace = sr.trace ++ [event] := rfl
      apply sound.idle trace rfl rfl rfl rfl
      intro other member
      rw [List.mem_singleton.mp member]
      exact isNote.silent
  | send buf iface interface found source typed =>
      have trace : (sr.sendPacket buf iface).trace =
        sr.trace ++ sendEvents sr.ifList buf iface := rfl
      exact sound.idle trace rfl rfl rfl rfl fun _ member => silent_of_send member
  | queue gw packet iface interface found long miss typed =>
      have queue : QueueInvariant (sr.enqueue gw packet iface) :=
        queueInvariant_enqueue sound.queue found long
      have tries : ∀ req ∈ sr.requests, req.timesSent ≤ 5 :=
        fun req member => (sound.queue.requests req (mem_everyRequest_of_mem member)).tries
      exact {
        queue := queue
        ready := ready_enqueue sound.ready gw iface (typed trivial)
        paced := paced_enqueue sound.paced tries queue
        named := named_enqueue sound.named sound.queue gw packet iface
        interfaces := (grows_enqueue sr gw packet iface).ifList.trans sound.interfaces }
  | broadcast req packet interface live queued due left first found =>
      exact sound.rebroadcastAt live left due (srGetInterface_own_name found)
  | timeOut id spent empty =>
      have trace := trace_destroy (sr.record (.timedOut id)) id
      rcases destroy_cases (sr.record (.timedOut id)) id with
        ⟨req, member, rfl, unlinked⟩ | ⟨none, same⟩
      · rw [unlinked] at trace ⊢
        exact sound.remove req.id (fun _ => rfl) (fun _ => ⟨rfl, rfl⟩) trace
          (everyRequest_unlink distinct member) rfl rfl rfl
      · rw [same]
        refine sound.remove id (fun _ => rfl) (fun _ => ⟨rfl, rfl⟩) rfl (List.Perm.refl _) ?_ rfl
          rfl
        exact (List.filter_eq_self.mpr fun req member => by simpa using none req member).symm
  | learn mac ip heard =>
      rcases learn_cases sr mac ip with ⟨req, member, _, learned⟩ | ⟨_, learned⟩
      · rw [learned]
        exact sound.remove req.id (fun _ => rfl) (fun _ => ⟨rfl, rfl⟩) rfl
          (everyRequest_unlink distinct member) rfl rfl rfl
      · rw [learned]
        exact nothing _ rfl rfl rfl rfl rfl

theorem GuardedMoves.preserves_sound {ifList : List SrIf} {after : SrInstance}
    (guarded : GuardedMoves ordered sr after) (sound : Sound ifList sr) : Sound ifList after :=
  guarded.preserves (Sound ifList) sound fun _ _ before move => move.preserves_sound before

end Move

theorem sound_srArpcacheInit (ifList : List SrIf) (routingTable : List SrRt) (clock : Int) :
    Sound ifList (srArpcacheInit ifList routingTable clock) where
  queue := queueInvariant_srArpcacheInit ifList routingTable clock
  ready := ready_srArpcacheInit ifList routingTable clock
  paced := {
    live := fun _ member => absurd member List.not_mem_nil
    ended := fun _ created => by
      obtain ⟨_, member, _⟩ := created
      exact absurd member List.not_mem_nil
    fresh := fun _ member => absurd member List.not_mem_nil }
  named := {
    created := fun _ member => absurd member List.not_mem_nil
    asked := fun _ member => absurd member List.not_mem_nil
    known := fun _ member => absurd member List.not_mem_nil }
  interfaces := rfl

theorem Sound.rateLimited {ifList : List SrIf} {sr : SrInstance} (sound : Sound ifList sr)
    {id : Nat} {ip : UInt32} (created : CreatedFor sr.trace id ip) :
    RateLimited ifList sr.trace id ip := by
  obtain ⟨req, existed, rfl⟩ : ∃ req ∈ sr.everyRequest, req.id = id := by
    obtain ⟨packet, buf, iface, member⟩ := created
    exact sound.named.known _ member id (Or.inl (decide_eq_true rfl))
  obtain ⟨last, spaced⟩ : ∃ last, Spaced req.id (lifeOf req.id sr.trace) 5 last := by
    by_cases waits : req.id ∈ sr.requestIds
    · obtain ⟨waiting, member, same⟩ := List.mem_map.mp waits
      have tries := (sound.queue.requests waiting (mem_everyRequest_of_mem member)).tries
      have lives := sound.paced.live waiting member
      rw [← same]
      exact ⟨waiting.sent, { lives.spaced with few := Nat.le_trans lives.spaced.few tries }⟩
    · exact (sound.paced.ended req.id created.opened waits).2
  refine ⟨spaced.few, spaced.apart, ?_⟩
  have asks := sound.named.asked req existed
  rw [sound.interfaces, ← sound.named.created req existed ip created] at asks
  exact asks

theorem Run.sound {ifList : List SrIf} {routingTable : List SrRt} {clock : Int}
    {sr : SrInstance} (run : Run (srArpcacheInit ifList routingTable clock) sr) :
    Sound ifList sr := by
  induction run with
  | refl => exact sound_srArpcacheInit ifList routingTable clock
  | tail earlier step inductionHypothesis =>
      obtain ⟨now, _, moves⟩ := step.guardedMoves inductionHypothesis.ready
      exact moves.preserves_sound (inductionHypothesis.atTime now)

/-- Where no operation is interrupted, every request is rate limited. -/
theorem run_rateLimited {ifList : List SrIf} {routingTable : List SrRt} {clock : Int}
    {sr : SrInstance} (run : Run (srArpcacheInit ifList routingTable clock) sr) {id : Nat}
    {ip : UInt32} (created : CreatedFor sr.trace id ip) : RateLimited ifList sr.trace id ip :=
  run.sound.rateLimited created

end Cmput313.Router
