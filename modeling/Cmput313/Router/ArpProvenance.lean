import Cmput313.Router.ArpTable
import Cmput313.Router.History

/-!
# Where a cached mapping comes from

A slot of the table is written only when an ARP reply for one of the router's
addresses is accepted, and each pass of the timer clears the slots that are older
than `srArpcacheTo`.  The ARP branch does not test the length of the frame, so that
of a truncated reply it takes what the memory behind the frame happens to hold.
-/

set_option autoImplicit false

namespace Cmput313.Router

open Cmput313.Bytes Cmput313.Program

/-- The frame is an ARP reply for one of the interfaces, with this mapping. -/
structure RepliesFor (ifList : List SrIf) (buf : Bytes) (mac : Mac) (ip : UInt32) : Prop where
  whole : sizeofEthernetHdr + sizeofArpHdr ≤ buf.length
  type : (buf.drop etherType).take 2 = bytes16 (htons ethertypeArp)
  op : (buf.drop arOp).take 2 = bytes16 (htons arpOpReply)
  target : ∃ interface ∈ ifList, (buf.drop arTip).take 4 = bytes32 interface.ip
  sha : (buf.drop arSha).take 6 = mac.toList
  sip : (buf.drop arSip).take 4 = bytes32 ip

/-- The type says ARP, and the frame ends before an ARP header does. -/
def TruncatedArp (buf : Bytes) : Prop :=
  (buf.drop etherType).take 2 = bytes16 (htons ethertypeArp) ∧
    buf.length < sizeofEthernetHdr + sizeofArpHdr

instance (buf : Bytes) : Decidable (TruncatedArp buf) := inferInstanceAs (Decidable (_ ∧ _))

theorem HearsReply.repliesFor {memory : Memory} {ifList : List SrIf} {buf : Bytes} {mac : Mac}
    {ip : UInt32} (hears : HearsReply memory ifList buf mac ip) (whole : ¬ TruncatedArp buf) :
    RepliesFor ifList buf mac ip := by
  have type := field_of_ntohs memory hears.header hears.type
  have enough : 42 ≤ buf.length := Nat.not_lt.mp fun short => whole ⟨type, short⟩
  have op : arOp + 2 ≤ buf.length := Nat.le_trans (by decide) enough
  have sha : arSha + 6 ≤ buf.length := Nat.le_trans (by decide) enough
  have sip : arSip + 4 ≤ buf.length := Nat.le_trans (by decide) enough
  have tip : arTip + 4 ≤ buf.length := Nat.le_trans (by decide) enough
  obtain ⟨interface, member, target⟩ := hears.target
  refine ⟨enough, type, field_of_ntohs memory op hears.op, ⟨interface, member, ?_⟩, ?_, ?_⟩
  · rw [target, bytes32_peek32 memory.beyond tip]
  · rw [hears.sha, ← read_of_le memory.beyond buf sha, Vector.toList_ofFn]
    rfl
  · rw [hears.sip, bytes32_peek32 memory.beyond sip]

/-! ## What the moves of an operation do to the table -/

/-- A valid slot was so before, or holds a mapping that was heard just now. -/
def Sourced (heard : Mac → UInt32 → Prop) (now : Int) (before after : ArpTable) : Prop :=
  ∀ i, (after.get i).valid = true →
    after.get i = before.get i ∨
      heard (after.get i).mac (after.get i).ip ∧ (after.get i).added = now

theorem Sourced.trans {heard : Mac → UInt32 → Prop} {now : Int} {first second third : ArpTable}
    (left : Sourced heard now first second) (right : Sourced heard now second third) :
    Sourced heard now first third := by
  intro i valid
  rcases right i valid with same | new
  · rw [same] at valid ⊢
    exact left i valid
  · exact Or.inr new

theorem sourced_expireMappings (heard : Mac → UInt32 → Prop) (now : Int) (entries : ArpTable) :
    Sourced heard now entries (expireMappings entries now) := by
  intro i valid
  rw [get_expireMappings] at valid ⊢
  split
  · rename_i gone
    rw [if_pos gone] at valid
    exact absurd valid Bool.false_ne_true
  · exact Or.inl rfl

theorem sourced_insertMapping {heard : Mac → UInt32 → Prop} {mac : Mac} {ip : UInt32}
    (known : heard mac ip) (now : Int) (entries : ArpTable) :
    Sourced heard now entries (insertMapping entries mac ip now) := by
  intro i _
  cases free : firstFree entries with
  | none => exact Or.inl (congrArg (fun table : ArpTable => table.get i)
      (insertMapping_of_full free mac ip now))
  | some slot =>
      rw [insertMapping_of_free free]
      by_cases same : i = slot
      · subst same
        rw [get_set_same]
        exact Or.inr ⟨known, rfl⟩
      · exact Or.inl (get_set_other entries same _)

theorem entries_enqueue (sr : SrInstance) (gw : UInt32) (packet : Bytes) (iface : Name) :
    (sr.enqueue gw packet iface).entries = sr.entries := by
  rcases withRequest_cases sr gw with ⟨_, _, _, found⟩ | ⟨_, created⟩
  · show (sr.withRequest gw).1.entries = sr.entries
    rw [found]
  · show (sr.withRequest gw).1.entries = sr.entries
    rw [created]

theorem entries_destroy (sr : SrInstance) (id : Nat) : (sr.destroy id).entries = sr.entries := by
  rcases destroy_cases sr id with ⟨_, _, _, unlinked⟩ | ⟨_, same⟩
  · rw [unlinked]
    rfl
  · rw [same]

theorem entries_learn (sr : SrInstance) (mac : Mac) (ip : UInt32) :
    (sr.learn mac ip).entries = insertMapping sr.entries mac ip sr.clock := by
  rcases learn_cases sr mac ip with ⟨_, _, _, learned⟩ | ⟨_, learned⟩
  · rw [learned]
    rfl
  · rw [learned]

theorem GuardedMove.entries {guards : Guards} {before after : SrInstance}
    (guarded : GuardedMove guards before after) :
    after.entries = before.entries ∨
      after.entries = expireMappings before.entries before.clock ∨
      ∃ mac ip, guards.heard mac ip ∧
        after.entries = insertMapping before.entries mac ip before.clock := by
  cases guarded with
  | touch buf offset size => exact Or.inl rfl
  | note event isNote => exact Or.inl rfl
  | send buf iface interface found source typed => exact Or.inl rfl
  | queue gw packet iface interface found long miss typed =>
      exact Or.inl (entries_enqueue before gw packet iface)
  | broadcast req packet interface live queued due left first found => exact Or.inl rfl
  | timeOut id spent empty => exact Or.inl (entries_destroy (before.record (.timedOut id)) id)
  | learn mac ip heard =>
      exact Or.inr (Or.inr ⟨mac, ip, heard, entries_learn before mac ip⟩)
  | expire => exact Or.inr (Or.inl rfl)

theorem GuardedMoves.sourced {guards : Guards} {start sr : SrInstance}
    (guarded : GuardedMoves guards start sr) :
    Sourced guards.heard start.clock start.entries sr.entries := by
  induction guarded with
  | refl => exact fun _ _ => Or.inl rfl
  | tail reached move inductionHypothesis =>
      apply inductionHypothesis.trans
      rw [← (GuardedMoves.moves reached).grows.clock]
      rcases move.entries with same | expired | ⟨mac, ip, heard, learned⟩
      · rw [same]
        exact fun _ _ => Or.inl rfl
      · rw [expired]
        exact sourced_expireMappings _ _ _
      · rw [learned]
        exact sourced_insertMapping heard _ _

/-! ## A pass of the timer -/

theorem expireMappings_expireMappings (entries : ArpTable) (now : Int) :
    expireMappings (expireMappings entries now) now = expireMappings entries now := by
  unfold expireMappings
  rw [Vector.map_map]
  apply Vector.map_congr_left
  intro entry _
  rw [Function.comp_apply]
  split
  · rw [if_neg]
    exact fun again => absurd again.1 Bool.false_ne_true
  · rfl

theorem GuardedMoves.entries_of_silent {guards : Guards} {start sr : SrInstance}
    (silent : ∀ mac ip, ¬ guards.heard mac ip) {table : ArpTable}
    (initially : start.entries = expireMappings table start.clock)
    (guarded : GuardedMoves guards start sr) : sr.entries = expireMappings table sr.clock := by
  apply guarded.preserves (fun sr => sr.entries = expireMappings table sr.clock) initially
  intro before after expired move
  rw [move.move.grows.clock]
  rcases move.entries with same | again | ⟨mac, ip, heard, _⟩
  · rw [same, expired]
  · rw [again, expired, expireMappings_expireMappings]
  · exact absurd heard (silent mac ip)

/-- However the sweep behind it ends, a pass of the timer makes the table what its loop
makes of it. -/
theorem entries_timeout (memory : Memory) (depth : Nat) (sr : SrInstance) (now : Int) :
    (finalState (Operation.timeout.perform memory depth) (sr.atTime now)).entries =
      expireMappings sr.entries now := by
  have expired : ({ sr.atTime now with
      entries := expireMappings sr.entries now } : SrInstance).entries =
        expireMappings sr.entries now := rfl
  have keeps : Keeps (fun next => next.entries = expireMappings sr.entries next.clock)
      (fun _ _ => True) (srArpcacheSweepreqs memory depth) fun _ => True := by
    intro next same
    have sweep : KeepsGuarded unguarded.silent True next
        (srArpcacheSweepreqs memory depth) fun _ => True :=
      keeps_guarded_srArpcacheSweepreqs memory False.elim depth
    have still : ∀ {last : SrInstance}, GuardedMoves unguarded.silent next last →
        last.entries = expireMappings sr.entries last.clock :=
      fun moves => moves.entries_of_silent (fun _ _ heard => heard) same
    exact (sweep next (.refl _ _)).mono (fun _ _ kept => ⟨still kept.1, trivial⟩)
      fun _ _ stopped => ⟨still stopped.1, trivial⟩
  have moves : Moves (sr.atTime now)
      (finalState (Operation.timeout.perform memory depth) (sr.atTime now)) :=
    (keeps_moves_perform memory depth .timeout).finalState (Moves.refl _)
  have pass : Ends (Operation.timeout.perform memory depth) (sr.atTime now)
      (fun _ next => next.entries = expireMappings sr.entries next.clock)
      fun _ next => next.entries = expireMappings sr.entries next.clock := by
    show Ends (srArpcacheTimeout memory depth) _ _ _
    rw [srArpcacheTimeout, ends_bind, ends_modify]
    exact (keeps _ expired).mono (fun _ _ kept => kept.1) fun _ _ stopped => stopped.1
  have done := pass.finalState
  rw [moves.grows.clock] at done
  exact done

/-! ## Over a run -/

/-- A logged reply has the mapping, was heard at `added`, and no later pass of the timer
came more than `srArpcacheTo` after it. -/
def LearntAt (ifList : List SrIf) (log : List LogEntry) (mac : Mac) (ip : UInt32)
    (added : Int) : Prop :=
  ∃ earlier reply later buf iface, log = earlier ++ reply :: later ∧
    reply.operation = .handlePacket buf iface ∧ RepliesFor ifList buf mac ip ∧
    reply.now = added ∧
    ∀ tick ∈ later, tick.operation = .timeout → tick.now - added ≤ srArpcacheTo

/-- Whatever the cache returns was learnt from a reply received earlier, no more than
`srArpcacheTo` before the last pass of the timer. -/
def OnlyLearnt (ifList : List SrIf) (log : List LogEntry) (sr : SrInstance) : Prop :=
  ∀ ip entry, srArpcacheLookup sr.entries ip = some entry →
    entry.ip = ip ∧ ∃ added, LearntAt ifList log entry.mac ip added

theorem LearntAt.append {ifList : List SrIf} {log : List LogEntry} {mac : Mac} {ip : UInt32}
    {added : Int} (learnt : LearntAt ifList log mac ip added) {entry : LogEntry}
    (young : entry.operation = .timeout → entry.now - added ≤ srArpcacheTo) :
    LearntAt ifList (log ++ [entry]) mac ip added := by
  obtain ⟨earlier, reply, later, buf, iface, rfl, received, replies, now, ticks⟩ := learnt
  refine ⟨earlier, reply, later ++ [entry], buf, iface, ?_, received, replies, now, ?_⟩
  · rw [List.append_assoc]
    rfl
  · intro tick member
    rcases List.mem_append.mp member with old | new
    · exact ticks tick old
    · exact List.mem_singleton.mp new ▸ young

def SlotsLearnt (ifList : List SrIf) (log : List LogEntry) (entries : ArpTable) : Prop :=
  ∀ i, (entries.get i).valid = true →
    LearntAt ifList log (entries.get i).mac (entries.get i).ip (entries.get i).added

theorem SlotsLearnt.onlyLearnt {ifList : List SrIf} {log : List LogEntry} {sr : SrInstance}
    (learnt : SlotsLearnt ifList log sr.entries) : OnlyLearnt ifList log sr := by
  intro ip entry found
  obtain ⟨i, last, rfl⟩ := srArpcacheLookup_eq_some_iff.mp found
  obtain ⟨valid, same⟩ := last.1
  exact ⟨same, _, same ▸ learnt i valid⟩

theorem slotsLearnt_perform {ifList : List SrIf} {log : List LogEntry} {before after : SrInstance}
    (learnt : SlotsLearnt ifList log before.entries) (interfaces : before.ifList = ifList)
    (memory : Memory) (depth : Nat) (operation : Operation) (now : Int) (events : List Event)
    (whole : ∀ buf iface, operation = .handlePacket buf iface → ¬ TruncatedArp buf)
    (completes : operation.perform memory depth (before.atTime now) = .ok () after) :
    SlotsLearnt ifList (log ++ [⟨now, operation, events⟩]) after.entries := by
  -- the replies that this operation can hear
  let heard : Mac → UInt32 → Prop := fun mac ip =>
    ∃ buf iface, operation = .handlePacket buf iface ∧ RepliesFor ifList buf mac ip
  have keeps : KeepsGuarded ⟨False, heard⟩ True (before.atTime now)
      (operation.perform memory depth) fun _ => True := by
    apply keeps_guarded_perform False.elim
    intro buf iface same mac ip hears
    exact ⟨buf, iface, same, interfaces ▸ hears.repliesFor (whole buf iface same)⟩
  have sourced := (keeps.of_ok (.refl _ _) completes).1.sourced
  intro i valid
  rcases sourced i valid with same | ⟨⟨buf, iface, received, replies⟩, added⟩
  · have old : after.entries.get i = before.entries.get i := same
    rw [old] at valid ⊢
    apply (learnt i valid).append
    rintro (rfl : operation = .timeout)
    have expired := entries_timeout memory depth before now
    have ended : finalState (Operation.timeout.perform memory depth) (before.atTime now) =
        after := by
      rw [finalState, completes]
    rw [ended] at expired
    by_contra older
    have stale : (before.entries.get i).valid ∧ Stale (before.entries.get i) now :=
      ⟨valid, not_le.mp older⟩
    rw [expired, get_expireMappings, if_pos stale] at old
    rw [← old] at valid
    exact Bool.false_ne_true valid
  · refine ⟨log, _, [], buf, iface, rfl, received, replies, added.symm, ?_⟩
    exact fun _ member => absurd member List.not_mem_nil

theorem slotsLearnt_srArpcacheInit (ifList : List SrIf) (routingTable : List SrRt)
    (clock : Int) : SlotsLearnt ifList [] (srArpcacheInit ifList routingTable clock).entries := by
  intro i valid
  have empty : ((srArpcacheInit ifList routingTable clock).entries.get i).valid = false := by
    change (srArpcacheInit ifList routingTable clock).entries[i].valid = false
    simp only [srArpcacheInit, Fin.getElem_fin, Vector.getElem_replicate]
  rw [empty] at valid
  exact absurd valid Bool.false_ne_true

/-- Where no received ARP frame is truncated, the cache returns only mappings that replies
for the router brought, and none that the last pass of the timer found too old; a pass
invalidates exactly those and changes no other slot. -/
theorem onlyLearnt_of_whole {ifList : List SrIf} {routingTable : List SrRt} {clock : Int}
    {log : List LogEntry} {sr : SrInstance}
    (logged : Logged (srArpcacheInit ifList routingTable clock) log sr)
    (whole : ∀ entry ∈ log, ∀ buf iface, entry.operation = .handlePacket buf iface →
      ¬ TruncatedArp buf) :
    OnlyLearnt ifList log sr ∧
      ∀ (memory : Memory) (depth : Nat) (now : Int) (i : Fin srArpcacheSz),
        (finalState (Operation.timeout.perform memory depth) (sr.atTime now)).entries.get i =
          if (sr.entries.get i).valid ∧ now - (sr.entries.get i).added > srArpcacheTo then
            { sr.entries.get i with valid := false }
          else sr.entries.get i := by
  constructor
  · apply SlotsLearnt.onlyLearnt
    induction logged with
    | start => exact slotsLearnt_srArpcacheInit ifList routingTable clock
    | @perform log before after memory depth operation now logged later completes
        inductionHypothesis =>
        have earlier := inductionHypothesis fun entry member =>
          whole entry (List.mem_append_left _ member)
        apply slotsLearnt_perform earlier logged.run.ifList memory depth operation now _ _
          completes
        exact whole _ (List.mem_append_right _ (List.mem_singleton.mpr rfl))
  · intro memory depth now i
    rw [entries_timeout]
    exact get_expireMappings sr.entries now i

def repliedNetwork : SrInstance :=
  finalState ((Operation.handlePacket (arpReplyFrom 9 9) eth0.name).perform noMemory 1)
    (smallNetwork.atTime 100)

def repliedLog : List LogEntry :=
  [⟨100, .handlePacket (arpReplyFrom 9 9) eth0.name, repliedNetwork.trace⟩]

theorem repliedNetwork_onlyLearnt :
    (srArpcacheLookup repliedNetwork.entries lanRoute.gw).isSome = true ∧
      OnlyLearnt [eth0] repliedLog repliedNetwork ∧
      ∀ (memory : Memory) (depth : Nat) (now : Int) (i : Fin srArpcacheSz),
        (finalState (Operation.timeout.perform memory depth)
          (repliedNetwork.atTime now)).entries.get i =
          if (repliedNetwork.entries.get i).valid ∧
              now - (repliedNetwork.entries.get i).added > srArpcacheTo then
            { repliedNetwork.entries.get i with valid := false }
          else repliedNetwork.entries.get i := by
  have logged : Logged smallNetwork repliedLog repliedNetwork :=
    .perform noMemory 1 (.handlePacket (arpReplyFrom 9 9) eth0.name) 100 .start (by decide)
      (eq_ok_of_returns (by decide +kernel))
  refine ⟨by decide +kernel, onlyLearnt_of_whole logged ?_⟩
  intro entry member buf iface received
  rw [List.mem_singleton.mp member] at received
  injection received with same
  subst same
  decide

def truncatedReply : Bytes := (arpReplyFrom 9 9).take 14

/-- The bytes of an earlier reply, where the memory behind the frame holds them. -/
def leftoverMemory : Memory where
  beyond := fun offset => (arpReplyFrom 9 9).getD offset 0
  fresh := fun _ => 0

def forgedNetwork : SrInstance :=
  finalState ((Operation.handlePacket truncatedReply eth0.name).perform leftoverMemory 1)
    (smallNetwork.atTime 100)

def forgedLog : List LogEntry :=
  [⟨100, .handlePacket truncatedReply eth0.name, forgedNetwork.trace⟩]

/-- A frame of fourteen bytes makes the cache return a mapping that no reply brought. -/
theorem forgedNetwork_not_onlyLearnt :
    Logged smallNetwork forgedLog forgedNetwork ∧
      ¬ OnlyLearnt [eth0] forgedLog forgedNetwork := by
  have logged : Logged smallNetwork forgedLog forgedNetwork :=
    .perform leftoverMemory 1 (.handlePacket truncatedReply eth0.name) 100 .start (by decide)
      (eq_ok_of_returns (by decide +kernel))
  refine ⟨logged, fun learnt => ?_⟩
  have known : (srArpcacheLookup forgedNetwork.entries lanRoute.gw).isSome = true := by
    decide +kernel
  obtain ⟨entry, found⟩ := Option.isSome_iff_exists.mp known
  obtain ⟨_, _, earlier, reply, later, buf, iface, log, received, replies, _⟩ :=
    learnt lanRoute.gw entry found
  have only : reply ∈ forgedLog := log ▸ List.mem_append_right _ (List.mem_cons_self ..)
  rw [List.mem_singleton.mp only] at received
  injection received with same
  subst same
  exact absurd replies.whole (by decide)

end Cmput313.Router
