import Cmput313.Lib.LastMatch
import Cmput313.Router.Run
import Mathlib.Order.Fin.Basic

/-!
# What the mapping table remembers

`sr_arpcache_insert` takes the first free slot, `sr_arpcache_lookup` returns the
last slot that matches.  A mapping is remembered when no older one for the same
address sits behind it, and when there was a slot for it at all.
-/

set_option autoImplicit false

namespace Cmput313.Router

open Cmput313.LastMatch Cmput313.Program

/-! ## The last match -/

def Matches (entries : ArpTable) (ip : UInt32) (i : Fin srArpcacheSz) : Prop :=
  (entries.get i).valid = true ∧ (entries.get i).ip = ip

instance (entries : ArpTable) (ip : UInt32) (i : Fin srArpcacheSz) :
    Decidable (Matches entries ip i) :=
  inferInstanceAs (Decidable (_ ∧ _))

def IsLast (entries : ArpTable) (ip : UInt32) (i : Fin srArpcacheSz) : Prop :=
  Matches entries ip i ∧ ∀ j, i < j → ¬ Matches entries ip j

theorem IsLast.unique {entries : ArpTable} {ip : UInt32} {i j : Fin srArpcacheSz}
    (left : IsLast entries ip i) (right : IsLast entries ip j) : i = j := by
  rcases Nat.lt_trichotomy i.val j.val with less | same | more
  · exact absurd right.1 (left.2 j less)
  · exact Fin.ext same
  · exact absurd left.1 (right.2 i more)

theorem srArpcacheLookup_eq_lastMatch (entries : ArpTable) (ip : UInt32) :
    srArpcacheLookup entries ip =
      lastMatch (Matches entries ip) entries.get
        (List.finRange srArpcacheSz) := rfl

theorem srArpcacheLookup_eq_some_iff {entries : ArpTable} {ip : UInt32}
    {entry : SrArpentry} :
    srArpcacheLookup entries ip = some entry ↔
      ∃ i, IsLast entries ip i ∧ entries.get i = entry := by
  rw [srArpcacheLookup_eq_lastMatch,
    lastMatch_eq_some_iff (List.pairwise_lt_finRange _)]
  simp [IsLast, List.mem_finRange, and_assoc]

theorem exists_isLast {entries : ArpTable} {ip : UInt32} {i : Fin srArpcacheSz}
    (matched : Matches entries ip i) : ∃ j, i ≤ j ∧ IsLast entries ip j := by
  cases result : srArpcacheLookup entries ip with
  | none =>
      rw [srArpcacheLookup_eq_lastMatch, lastMatch_eq_none_iff] at result
      exact absurd matched (result i (List.mem_finRange i))
  | some entry =>
      obtain ⟨j, last, _⟩ := srArpcacheLookup_eq_some_iff.mp result
      refine ⟨j, ?_, last⟩
      by_contra behind
      exact last.2 i (Fin.not_le.mp behind) matched

def Remembers (entries : ArpTable) (ip : UInt32) (mac : Mac) : Prop :=
  ∃ entry, srArpcacheLookup entries ip = some entry ∧ entry.mac = mac

theorem remembers_iff {entries : ArpTable} {ip : UInt32} {mac : Mac} :
    Remembers entries ip mac ↔ ∃ i, IsLast entries ip i ∧ (entries.get i).mac = mac := by
  constructor
  · rintro ⟨entry, found, same⟩
    obtain ⟨i, last, rfl⟩ := srArpcacheLookup_eq_some_iff.mp found
    exact ⟨i, last, same⟩
  · rintro ⟨i, last, same⟩
    exact ⟨entries.get i, srArpcacheLookup_eq_some_iff.mpr ⟨i, last, rfl⟩, same⟩

/-! ## Expiry -/

/-- The mapping is too old at a pass of the timer. -/
def Stale (entry : SrArpentry) (curtime : Int) : Prop :=
  curtime - entry.added > srArpcacheTo

instance (entry : SrArpentry) (curtime : Int) : Decidable (Stale entry curtime) :=
  inferInstanceAs (Decidable (_ > _))

theorem get_expireMappings (entries : ArpTable) (curtime : Int)
    (i : Fin srArpcacheSz) :
    (expireMappings entries curtime).get i =
      if (entries.get i).valid ∧ Stale (entries.get i) curtime then
        { entries.get i with valid := false }
      else entries.get i := by
  change (expireMappings entries curtime)[i] = _
  simp only [expireMappings, Fin.getElem_fin, Vector.getElem_map]
  rfl

theorem matches_expireMappings {entries : ArpTable} {curtime : Int} {ip : UInt32}
    {i : Fin srArpcacheSz} :
    Matches (expireMappings entries curtime) ip i ↔
      Matches entries ip i ∧ ¬ Stale (entries.get i) curtime := by
  unfold Matches
  rw [get_expireMappings]
  by_cases dead : (entries.get i).valid = true ∧ Stale (entries.get i) curtime
  · rw [if_pos dead]
    exact iff_of_false (fun matched => Bool.noConfusion matched.1)
      fun both => both.2 dead.2
  · rw [if_neg dead]
    constructor
    · intro matched
      exact ⟨matched, fun stale => dead ⟨matched.1, stale⟩⟩
    · exact fun both => both.1

theorem get_expireMappings_of_matches {entries : ArpTable} {curtime : Int}
    {ip : UInt32} {i : Fin srArpcacheSz}
    (survives : Matches (expireMappings entries curtime) ip i) :
    (expireMappings entries curtime).get i = entries.get i := by
  rw [get_expireMappings, if_neg]
  exact fun dead => (matches_expireMappings.mp survives).2 dead.2

/-! ## Insertion -/

theorem firstFree_eq_some {entries : ArpTable} {i : Fin srArpcacheSz}
    (free : firstFree entries = some i) : (entries.get i).valid = false := by
  change entries[i].valid = false
  simpa using List.find?_some free

theorem insertMapping_of_free {entries : ArpTable} {i : Fin srArpcacheSz}
    (free : firstFree entries = some i) (mac : Mac) (ip : UInt32) (now : Int) :
    insertMapping entries mac ip now =
      entries.set i { mac, ip, added := now, valid := true } i.isLt := by
  rw [insertMapping, free]

theorem insertMapping_of_full {entries : ArpTable} (full : firstFree entries = none)
    (mac : Mac) (ip : UInt32) (now : Int) :
    insertMapping entries mac ip now = entries := by
  rw [insertMapping, full]

theorem get_set_same (entries : ArpTable) (i : Fin srArpcacheSz)
    (entry : SrArpentry) : (entries.set i entry i.isLt).get i = entry := by
  change (entries.set i entry i.isLt)[i] = entry
  simp

theorem get_set_other (entries : ArpTable) {i j : Fin srArpcacheSz}
    (other : j ≠ i) (entry : SrArpentry) :
    (entries.set i entry i.isLt).get j = entries.get j := by
  have apart : i.val ≠ j.val := fun same => other (Fin.ext same.symm)
  change (entries.set i entry i.isLt)[j] = entries[j]
  simp [apart]

/-- A table agrees with another on the slots that map one address. -/
def AgreesOn (ip : UInt32) (left right : ArpTable) : Prop :=
  ∀ j, (Matches left ip j ↔ Matches right ip j) ∧
    (Matches right ip j → left.get j = right.get j)

theorem AgreesOn.trans {ip : UInt32} {first second third : ArpTable}
    (left : AgreesOn ip first second) (right : AgreesOn ip second third) :
    AgreesOn ip first third := by
  intro j
  refine ⟨(left j).1.trans (right j).1, fun matched => ?_⟩
  exact ((left j).2 ((right j).1.mpr matched)).trans ((right j).2 matched)

theorem agreesOn_insertMapping {entries : ArpTable} {ip other : UInt32}
    (different : other ≠ ip) (mac : Mac) (now : Int) :
    AgreesOn ip (insertMapping entries mac other now) entries := by
  intro j
  cases free : firstFree entries with
  | none => rw [insertMapping_of_full free]; exact ⟨Iff.rfl, fun _ => rfl⟩
  | some i =>
      rw [insertMapping_of_free free]
      by_cases same : j = i
      · subst same
        have empty : ¬ Matches entries ip j := by
          rw [Matches, firstFree_eq_some free]
          simp
        refine ⟨iff_of_false ?_ empty, fun matched => absurd matched empty⟩
        rw [Matches, get_set_same]
        exact fun matched => different matched.2
      · rw [Matches, get_set_other entries same]
        exact ⟨Iff.rfl, fun _ => rfl⟩

/-! ## What follows an insertion -/

/-- A later insertion for another address, or a pass of the timer before the
mapping is due. -/
inductive CacheStep (ip : UInt32) (due : Int) : ArpTable × Int → ArpTable × Int → Prop where
  | insert (entries : ArpTable) (clock now : Int) (later : clock ≤ now) (mac : Mac)
      (other : UInt32) (different : other ≠ ip) :
      CacheStep ip due (entries, clock) (insertMapping entries mac other now, now)
  | expire (entries : ArpTable) (clock now : Int) (later : clock ≤ now)
      (early : now ≤ due) :
      CacheStep ip due (entries, clock) (expireMappings entries now, now)

/-- From the table after `sr_arpcache_insert(cache, mac, ip)` on, the lookup finds
the mapping until it is due. -/
def StaysCached (mac : Mac) (ip : UInt32) (sr : SrInstance) : Prop :=
  ∀ later : ArpTable × Int,
    Relation.ReflTransGen (CacheStep ip (sr.clock + srArpcacheTo))
      ((finalState (srArpcacheInsert mac ip) sr).entries, sr.clock) later →
    Remembers later.1 ip mac

/-- The moments at which the oldest mappings go: none yet, or a pass at a time. -/
def Moment (now : Int) : Option Int → Prop
  | none => True
  | some curtime => now ≤ curtime ∧ curtime ≤ now + srArpcacheTo

def agedTo (entries : ArpTable) : Option Int → ArpTable
  | none => entries
  | some curtime => expireMappings entries curtime

theorem get_agedTo_of_matches {entries : ArpTable} {moment : Option Int}
    {ip : UInt32} {i : Fin srArpcacheSz} (survives : Matches (agedTo entries moment) ip i) :
    (agedTo entries moment).get i = entries.get i := by
  cases moment with
  | none => rfl
  | some curtime => exact get_expireMappings_of_matches survives

theorem stale_mono {entry : SrArpentry} {earlier later : Int} (passed : earlier ≤ later)
    (stale : Stale entry earlier) : Stale entry later := by
  unfold Stale at stale ⊢
  omega

theorem matches_agedTo {entries : ArpTable} {moment : Option Int} {ip : UInt32}
    {i : Fin srArpcacheSz} :
    Matches (agedTo entries moment) ip i ↔
      Matches entries ip i ∧ ∀ curtime ∈ moment, ¬ Stale (entries.get i) curtime := by
  cases moment with
  | none => simp [agedTo]
  | some curtime => simp [agedTo, matches_expireMappings]

theorem AgreesOn.expire {ip : UInt32} {left base : ArpTable} {moment : Option Int}
    (agrees : AgreesOn ip left (agedTo base moment)) {curtime : Int}
    (passed : ∀ earlier ∈ moment, earlier ≤ curtime) :
    AgreesOn ip (expireMappings left curtime) (expireMappings base curtime) := by
  intro j
  have same : Matches (agedTo base moment) ip j → left.get j = base.get j := fun matched =>
    ((agrees j).2 matched).trans (get_agedTo_of_matches matched)
  have survivors : Matches (expireMappings left curtime) ip j ↔
      Matches (expireMappings base curtime) ip j := by
    rw [matches_expireMappings, matches_expireMappings, (agrees j).1]
    constructor
    · intro both
      exact ⟨(matches_agedTo.mp both.1).1, same both.1 ▸ both.2⟩
    · intro both
      have matched : Matches (agedTo base moment) ip j :=
        matches_agedTo.mpr ⟨both.1, fun earlier member stale =>
          both.2 (stale_mono (passed earlier member) stale)⟩
      exact ⟨matched, (same matched).symm ▸ both.2⟩
  refine ⟨survivors, fun matched => ?_⟩
  have leftMatched := survivors.mpr matched
  have earlier := (agrees j).1.mp (matches_expireMappings.mp leftMatched).1
  rw [get_expireMappings_of_matches leftMatched,
    get_expireMappings_of_matches matched, same earlier]

theorem AgreesOn.remembers_iff {ip : UInt32} {left right : ArpTable}
    (agrees : AgreesOn ip left right) (mac : Mac) :
    Remembers left ip mac ↔ Remembers right ip mac := by
  have last : ∀ i, IsLast left ip i ↔ IsLast right ip i := by
    intro i
    exact and_congr (agrees i).1
      (forall_congr' fun j => imp_congr_right fun _ => not_congr (agrees j).1)
  rw [Router.remembers_iff, Router.remembers_iff]
  constructor
  · rintro ⟨i, isLast, same⟩
    have right := (last i).mp isLast
    exact ⟨i, right, (agrees i).2 right.1 ▸ same⟩
  · rintro ⟨i, isLast, same⟩
    exact ⟨i, (last i).mpr isLast, ((agrees i).2 isLast.1).symm ▸ same⟩

/-- After any steps the table agrees with the first one at some moment. -/
theorem cacheSteps_agree {ip : UInt32} {now : Int} {base : ArpTable}
    {later : ArpTable × Int}
    (steps : Relation.ReflTransGen (CacheStep ip (now + srArpcacheTo)) (base, now) later) :
    now ≤ later.2 ∧ ∃ moment, Moment now moment ∧ (∀ curtime ∈ moment, curtime ≤ later.2) ∧
      AgreesOn ip later.1 (agedTo base moment) := by
  induction steps with
  | refl =>
      exact ⟨Int.le_refl _, none, trivial, by simp, fun _ => ⟨Iff.rfl, fun _ => rfl⟩⟩
  | tail _ step inductionHypothesis =>
      obtain ⟨reached, moment, valid, passed, agrees⟩ := inductionHypothesis
      cases step with
      | insert entries clock time after mac other different =>
          refine ⟨Int.le_trans reached after, moment, valid,
            fun curtime member => Int.le_trans (passed curtime member) after, ?_⟩
          exact (agreesOn_insertMapping different mac time).trans agrees
      | expire entries clock time after early =>
          have reachedTime := Int.le_trans reached after
          refine ⟨reachedTime, some time, ⟨reachedTime, early⟩, by simp, ?_⟩
          exact agrees.expire fun curtime member =>
            Int.le_trans (passed curtime member) after

theorem cacheSteps_of_moment {ip : UInt32} {now : Int} (base : ArpTable)
    {moment : Option Int} (valid : Moment now moment) :
    ∃ clock, Relation.ReflTransGen (CacheStep ip (now + srArpcacheTo)) (base, now)
      (agedTo base moment, clock) := by
  cases moment with
  | none => exact ⟨now, Relation.ReflTransGen.refl⟩
  | some curtime =>
      exact ⟨curtime, Relation.ReflTransGen.single
        (.expire base now curtime valid.1 valid.2)⟩

theorem entries_srArpcacheInsert (sr : SrInstance) (mac : Mac) (ip : UInt32) :
    (finalState (srArpcacheInsert mac ip) sr).entries =
      insertMapping sr.entries mac ip sr.clock := by
  have ends : Ends (srArpcacheInsert mac ip) sr
      (fun _ next => next.entries = insertMapping sr.entries mac ip sr.clock)
      (fun _ next => next.entries = insertMapping sr.entries mac ip sr.clock) := by
    rw [ends_srArpcacheInsert]
    cases sr.requests.find? fun req => req.ip = ip <;> rfl
  exact ends.finalState

theorem staysCached_iff_moments {mac : Mac} {ip : UInt32} {sr : SrInstance} :
    StaysCached mac ip sr ↔
      ∀ moment, Moment sr.clock moment →
        Remembers (agedTo (insertMapping sr.entries mac ip sr.clock) moment) ip mac := by
  rw [StaysCached, entries_srArpcacheInsert]
  constructor
  · intro stays moment valid
    obtain ⟨clock, steps⟩ := cacheSteps_of_moment
      (insertMapping sr.entries mac ip sr.clock) valid
    exact stays _ steps
  · intro moments later steps
    obtain ⟨_, moment, valid, _, agrees⟩ := cacheSteps_agree steps
    exact (agrees.remembers_iff mac).mpr (moments moment valid)

/-! ## When the mapping is remembered -/

/-- With a free slot, the last mapping behind it that is left has this MAC, if
there is one; without, the last mapping that is left has it, and there is one. -/
def LastMappingAgrees (entries : ArpTable) (mac : Mac) (ip : UInt32)
    (moment : Option Int) : Prop :=
  match firstFree entries with
  | some i =>
      ∀ j, i < j → IsLast (agedTo entries moment) ip j → (entries.get j).mac = mac
  | none => ∃ j, IsLast (agedTo entries moment) ip j ∧ (entries.get j).mac = mac

theorem matches_agedTo_set_same (entries : ArpTable) (i : Fin srArpcacheSz) (mac : Mac)
    (ip : UInt32) {now : Int} {moment : Option Int} (valid : Moment now moment) :
    Matches (agedTo (entries.set i { mac, ip, added := now, valid := true } i.isLt) moment)
      ip i := by
  rw [matches_agedTo, Matches, get_set_same]
  refine ⟨⟨rfl, rfl⟩, ?_⟩
  intro curtime member stale
  cases moment with
  | none => simp at member
  | some time =>
      obtain rfl := Option.some.inj member
      have early := valid.2
      have old : time - now > srArpcacheTo := stale
      omega

theorem matches_agedTo_set_other (entries : ArpTable) {i j : Fin srArpcacheSz}
    (other : j ≠ i) (entry : SrArpentry) (ip : UInt32) (moment : Option Int) :
    Matches (agedTo (entries.set i entry i.isLt) moment) ip j ↔
      Matches (agedTo entries moment) ip j := by
  rw [matches_agedTo, matches_agedTo, Matches, Matches, get_set_other entries other]

theorem isLast_agedTo_set_iff (entries : ArpTable) {i j : Fin srArpcacheSz}
    (behind : i < j) (entry : SrArpentry) (ip : UInt32) (moment : Option Int) :
    IsLast (agedTo (entries.set i entry i.isLt) moment) ip j ↔
      IsLast (agedTo entries moment) ip j := by
  refine and_congr (matches_agedTo_set_other entries (Fin.ne_of_gt behind) _ _ _) ?_
  refine forall_congr' fun k => imp_congr_right fun later => not_congr ?_
  exact matches_agedTo_set_other entries (Fin.ne_of_gt (Fin.lt_trans behind later)) _ _ _

theorem remembers_of_full_iff {entries : ArpTable} (full : firstFree entries = none)
    (mac : Mac) (ip : UInt32) (now : Int) (moment : Option Int) :
    Remembers (agedTo (insertMapping entries mac ip now) moment) ip mac ↔
      ∃ j, IsLast (agedTo entries moment) ip j ∧ (entries.get j).mac = mac := by
  have same : ∀ i, IsLast (agedTo entries moment) ip i →
      (agedTo entries moment).get i = entries.get i :=
    fun i last => get_agedTo_of_matches last.1
  rw [insertMapping_of_full full, remembers_iff]
  constructor
  · intro remembered
    obtain ⟨i, last, found⟩ := remembered
    exact ⟨i, last, same i last ▸ found⟩
  · intro agrees
    obtain ⟨i, last, found⟩ := agrees
    exact ⟨i, last, (same i last).symm ▸ found⟩

theorem remembers_of_free_iff {entries : ArpTable} {i : Fin srArpcacheSz}
    (free : firstFree entries = some i) (mac : Mac) (ip : UInt32) {now : Int}
    {moment : Option Int} (valid : Moment now moment) :
    Remembers (agedTo (insertMapping entries mac ip now) moment) ip mac ↔
      ∀ j, i < j → IsLast (agedTo entries moment) ip j → (entries.get j).mac = mac := by
  rw [insertMapping_of_free free, remembers_iff]
  have behindSame : ∀ j, i < j →
      (entries.set i { mac, ip, added := now, valid := true } i.isLt).get j = entries.get j :=
    fun j behind => get_set_other entries (Fin.ne_of_gt behind) _
  constructor
  · intro remembered j behind last
    obtain ⟨k, kLast, found⟩ := remembered
    have moved := (isLast_agedTo_set_iff entries behind
      { mac, ip, added := now, valid := true } ip moment).mpr last
    obtain rfl := kLast.unique moved
    rw [get_agedTo_of_matches kLast.1, behindSame k behind] at found
    exact found
  · intro agrees
    obtain ⟨j, notBefore, last⟩ :=
      exists_isLast (matches_agedTo_set_same entries i mac ip valid)
    refine ⟨j, last, ?_⟩
    rw [get_agedTo_of_matches last.1]
    rcases Fin.lt_or_eq_of_le notBefore with behind | rfl
    · rw [behindSame j behind]
      exact agrees j behind ((isLast_agedTo_set_iff entries behind _ ip moment).mp last)
    · rw [get_set_same]

/-- An insertion is remembered until it is due exactly when, at every moment until
then, the last mapping of the address that counts has the inserted MAC: the one
behind the free slot, or any one if there is no free slot. -/
theorem staysCached_iff (mac : Mac) (ip : UInt32) (sr : SrInstance) :
    StaysCached mac ip sr ↔
      ∀ moment, Moment sr.clock moment → LastMappingAgrees sr.entries mac ip moment := by
  rw [staysCached_iff_moments]
  refine forall_congr' fun moment => imp_congr_right fun valid => ?_
  unfold LastMappingAgrees
  cases free : firstFree sr.entries with
  | none => exact remembers_of_full_iff free mac ip sr.clock moment
  | some i => exact remembers_of_free_iff free mac ip valid

/-! ## A run that forgets -/

/-- 10.0.0.8 is learnt at 0, 10.0.0.9 behind it at 10, and at 16 the first is gone. -/
def freedFirst : SrInstance :=
  let start := srArpcacheInit [eth0] [lanRoute] 0
  let first := finalState
    ((Operation.handlePacket (arpReplyFrom 8 8) eth0.name).perform noMemory 0) start
  let second := finalState
    ((Operation.handlePacket (arpReplyFrom 9 9) eth0.name).perform noMemory 0)
    (first.atTime 10)
  finalState (Operation.timeout.perform noMemory 0) (second.atTime 16)

theorem run_freedFirst : Run (srArpcacheInit [eth0] [lanRoute] 0) freedFirst := by
  apply Relation.ReflTransGen.tail
  apply Relation.ReflTransGen.tail
  apply Relation.ReflTransGen.tail Relation.ReflTransGen.refl
  · apply Step.perform noMemory 0 (.handlePacket (arpReplyFrom 8 8) eth0.name) 0
      (by decide)
    exact eq_ok_of_returns (by decide +kernel)
  · apply Step.perform noMemory 0 (.handlePacket (arpReplyFrom 9 9) eth0.name) 10
      (by decide +kernel)
    exact eq_ok_of_returns (by decide +kernel)
  · apply Step.perform noMemory 0 .timeout 16 (by decide +kernel)
    exact eq_ok_of_returns (by decide +kernel)

/-- Learning 10.0.0.9 again at another MAC takes the slot in front of the old one,
which the lookup still prefers. -/
theorem freedFirst_not_staysCached :
    Run (srArpcacheInit [eth0] [lanRoute] 0) freedFirst ∧
      ¬ StaysCached #v[2, 0, 0, 0, 0, 7] (htonl 0x0a000009) freedFirst := by
  refine ⟨run_freedFirst, ?_⟩
  intro stays
  obtain ⟨entry, found, mac⟩ := stays _ Relation.ReflTransGen.refl
  have old : srArpcacheLookup (finalState (srArpcacheInsert #v[2, 0, 0, 0, 0, 7]
      (htonl 0x0a000009)) freedFirst).entries (htonl 0x0a000009) =
      some ⟨#v[2, 0, 0, 0, 0, 9], htonl 0x0a000009, 10, true⟩ := by decide +kernel
  rw [old] at found
  obtain rfl := Option.some.inj found
  exact absurd mac (by decide)

end Cmput313.Router
