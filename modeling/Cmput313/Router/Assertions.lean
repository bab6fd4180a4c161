import Cmput313.Router.IpFrame

/-!
# The assertions on the receive path

`sr_get_interface_by_ip` asserts that its argument is not 0.0.0.0.  The filter in
front of `sr_handlepacket` catches that target in whole ARP requests only, and
nothing catches it in an IP destination.
-/

set_option autoImplicit false

namespace Cmput313.Router

open Cmput313.Bytes Cmput313.Program

variable (memory : Memory)

def frameArpOp (frame : Bytes) : UInt16 :=
  ntohs (peek16 memory.beyond frame arOp)

def frameArpTarget (frame : Bytes) : UInt32 := peek32 memory.beyond frame arTip

def ZeroTarget (frame : Bytes) : Prop :=
  sizeofEthernetHdr ≤ frame.length ∧ frameEthertype memory frame = ethertypeArp ∧
    frameArpTarget memory frame = 0

/-- A frame that the ARP filter looks at to the end. -/
def WholeArpRequest (frame : Bytes) : Prop :=
  sizeofEthernetHdr + sizeofArpHdr ≤ frame.length ∧
    frameEthertype memory frame = ethertypeArp ∧ frameArpOp memory frame = arpOpRequest

/-- An IP frame for 0.0.0.0 that passes the header check and has time to live. -/
def ZeroDestination (frame : Bytes) : Prop :=
  sizeofEthernetHdr + sizeofIpHdr ≤ frame.length ∧
    frameEthertype memory frame = ethertypeIp ∧
    ChecksumAccepts memory frame (headerSize memory frame) ∧
    1 < frameTtl memory frame ∧ frameDst memory frame = 0

instance (frame : Bytes) : Decidable (ZeroTarget memory frame) :=
  inferInstanceAs (Decidable (_ ∧ _ ∧ _))

instance (frame : Bytes) : Decidable (WholeArpRequest memory frame) :=
  inferInstanceAs (Decidable (_ ∧ _ ∧ _))

instance (frame : Bytes) : Decidable (ZeroDestination memory frame) :=
  inferInstanceAs (Decidable (_ ∧ _ ∧ _ ∧ _ ∧ _))

/-- No run of the program from the state fails an assertion. -/
def NeverAsserts {α : Type} (program : Sr α) (sr : SrInstance) : Prop :=
  ∀ failed next, program sr ≠ .error (.assertion failed) next

theorem neverAsserts_iff_ends {α : Type} {program : Sr α} {sr : SrInstance} :
    NeverAsserts program sr ↔
      Ends program sr (fun _ _ => True)
        (fun fault _ => ∀ failed, fault ≠ .assertion failed) := by
  unfold NeverAsserts Ends
  cases program sr with
  | ok value next => simp
  | error fault next =>
      simp only [ne_eq, EStateM.Result.error.injEq, not_and]
      exact ⟨fun never failed same => never failed next same rfl,
        fun never failed _ same _ => never failed same⟩

theorem neverAsserts_of_keeps {α : Type} {program : Sr α} {sr : SrInstance}
    {good : α → Prop} (keeps : KeepsMoves False sr program good) :
    NeverAsserts program sr := by
  intro failed next stops
  exact (keeps.of_error (Moves.refl sr) stops).2

/-! ## Behind the filter -/

section Packet

variable (sr : SrInstance) (depth : Nat) (frame : Bytes) (arrival : Name)

theorem neverAsserts_handleArpFrame_iff :
    NeverAsserts (handleArpFrame memory ⟨.frame, frame⟩ arrival) sr ↔
      frameArpTarget memory frame ≠ 0 := by
  rw [neverAsserts_iff_ends, frameArpTarget]
  simp only [handleArpFrame, ends_bind, ends_load32, ends_srGetInterfaceByIp]
  by_cases zero : peek32 memory.beyond frame arTip = 0
  · rw [if_pos zero]
    exact ⟨fun never => absurd rfl (never .ip), fun nonzero => absurd zero nonzero⟩
  · rw [if_neg zero]
    refine iff_of_true ?_ zero
    cases (sr.touched ⟨.frame, frame⟩ arTip 4).ifList.find? fun walker =>
        walker.ip = peek32 memory.beyond frame arTip with
    | none => trivial
    | some outInterface =>
        exact neverAsserts_iff_ends.mp
          (neverAsserts_of_keeps (keeps_moves_answerArpFrame memory _ _))

theorem neverAsserts_handleIpFrame_iff
    (ip : frameEthertype memory frame = ethertypeIp) :
    NeverAsserts (handleIpFrame memory (handleArpreq memory depth) ⟨.frame, frame⟩) sr ↔
      ¬ ZeroDestination memory frame := by
  have keepsHandle : ∀ start id, KeepsMoves False start (handleArpreq memory depth id)
      fun _ => True := fun start id => keeps_moves_handleArpreq memory depth id
  by_cases long : 34 ≤ frame.length
  · rw [neverAsserts_iff_ends, ends_handleIpFrame memory sr _ ⟨.frame, frame⟩ _ _ long]
    by_cases accepted : ChecksumAccepts memory frame (headerSize memory frame)
    · rw [if_pos accepted]
      by_cases expired : frameTtl memory frame ≤ 1
      · rw [if_pos expired]
        refine iff_of_true ?_ fun bad => absurd bad.2.2.2.1 (UInt8.not_lt.mpr expired)
        exact neverAsserts_iff_ends.mp (neverAsserts_of_keeps
          (keeps_moves_sendIcmpMsg memory keepsHandle _ _ _))
      · rw [if_neg expired]
        by_cases zero : frameDst memory frame = 0
        · rw [if_pos zero]
          refine iff_of_false (fun never => never .ip rfl) fun good => good ?_
          exact ⟨long, ip, accepted, UInt8.not_le.mp expired, zero⟩
        · rw [if_neg zero]
          refine iff_of_true ?_ fun bad => absurd bad.2.2.2.2 zero
          cases sr.ifList.find? fun walker => walker.ip = frameDst memory frame with
          | some interface =>
              exact neverAsserts_iff_ends.mp (neverAsserts_of_keeps
                (keeps_moves_deliverLocally memory keepsHandle _))
          | none =>
              exact neverAsserts_iff_ends.mp (neverAsserts_of_keeps
                (keeps_moves_srForwardIpPacket memory keepsHandle _ long))
    · rw [if_neg accepted]
      exact iff_of_true trivial fun bad => absurd bad.2.2.1 accepted
  · have short : frame.length < sizeofEthernetHdr + sizeofIpHdr := Nat.not_le.mp long
    rw [neverAsserts_iff_ends, handleIpFrame, ends_ite, if_pos short]
    exact iff_of_true trivial fun bad => absurd bad.1 long

theorem neverAsserts_srHandlepacket_iff :
    NeverAsserts (srHandlepacket memory depth ⟨.frame, frame⟩ arrival) sr ↔
      ¬ ZeroTarget memory frame ∧ ¬ ZeroDestination memory frame := by
  have different : ethertypeArp ≠ ethertypeIp := by decide
  rw [neverAsserts_iff_ends, ends_srHandlepacket]
  by_cases short : frame.length < sizeofEthernetHdr
  · rw [if_pos short]
    refine iff_of_true trivial ⟨fun bad => absurd bad.1 (Nat.not_le.mpr short), ?_⟩
    intro bad
    have long := bad.1
    omega
  · rw [if_neg short]
    by_cases arp : frameEthertype memory frame = ethertypeArp
    · have notIp : ¬ ZeroDestination memory frame :=
        fun bad => different (arp.symm.trans bad.2.1)
      have target : ZeroTarget memory frame ↔ frameArpTarget memory frame = 0 :=
        ⟨fun bad => bad.2.2, fun zero => ⟨Nat.not_lt.mp short, arp, zero⟩⟩
      have handled := neverAsserts_handleArpFrame_iff memory
        (sr.touched ⟨.frame, frame⟩ etherType 2) frame arrival
      rw [neverAsserts_iff_ends] at handled
      rw [if_pos arp, handled, target]
      exact ⟨fun nonzero => ⟨nonzero, notIp⟩, fun both => both.1⟩
    · have notArp : ¬ ZeroTarget memory frame := fun bad => arp bad.2.1
      rw [if_neg arp]
      by_cases ip : frameEthertype memory frame = ethertypeIp
      · have handled := neverAsserts_handleIpFrame_iff memory
          (sr.touched ⟨.frame, frame⟩ etherType 2) depth frame ip
        rw [neverAsserts_iff_ends] at handled
        rw [if_pos ip, handled]
        exact ⟨fun good => ⟨notArp, good⟩, fun both => both.2⟩
      · rw [if_neg ip]
        exact iff_of_true trivial ⟨notArp, fun bad => ip bad.2.1⟩

end Packet

/-! ## With the filter in front -/

theorem eq_htons_iff {word value : UInt16} : word = htons value ↔ ntohs word = value := by
  constructor
  · rintro rfl
    exact swap16_swap16 value
  · rintro rfl
    exact (swap16_swap16 word).symm

/-- The filter keeps a whole ARP request for another address from the router. -/
def FilteredOut (frame : Bytes) (interface : SrIf) : Prop :=
  WholeArpRequest memory frame ∧ frameArpTarget memory frame ≠ interface.ip

instance (frame : Bytes) (interface : SrIf) :
    Decidable (FilteredOut memory frame interface) :=
  inferInstanceAs (Decidable (_ ∧ _))

section Receive

variable {sr : SrInstance} {arrival : Name} {interface : SrIf}
  (exists_ : srGetInterface sr.ifList arrival = some interface) (frame : Bytes)

include exists_

theorem srArpReqNotForUs_eq :
    ∃ accesses, srArpReqNotForUs memory ⟨.frame, frame⟩ arrival sr =
      .ok (decide (FilteredOut memory frame interface)) (sr.accessed accesses) := by
  have start : sr = sr.accessed [] := by simp [SrInstance.accessed]
  have ends : Ends (srArpReqNotForUs memory ⟨.frame, frame⟩ arrival) sr
      (fun value next => value = decide (FilteredOut memory frame interface) ∧
        ∃ accesses, next = sr.accessed accesses) (fun _ _ => False) := by
    simp only [srArpReqNotForUs, ends_bind, ends_get, ends_ite]
    by_cases short : frame.length < sizeofEthernetHdr + sizeofArpHdr
    · rw [if_pos short]
      have passed : ¬ FilteredOut memory frame interface :=
        fun filtered => absurd filtered.1.1 (Nat.not_le.mpr short)
      exact ⟨by rw [decide_eq_false passed], [], start⟩
    · rw [if_neg short]
      simp only [exists_, ends_bind, ends_load16, ends_ite, ne_eq, eq_htons_iff]
      by_cases arp : ntohs (peek16 memory.beyond frame etherType) = ethertypeArp
      · rw [if_neg (not_not_intro arp)]
        by_cases request : ntohs (peek16 memory.beyond frame arOp) = arpOpRequest
        · rw [if_neg (not_not_intro request)]
          have whole : WholeArpRequest memory frame := ⟨Nat.not_lt.mp short, arp, request⟩
          have filtered : FilteredOut memory frame interface ↔
              frameArpTarget memory frame ≠ interface.ip :=
            ⟨fun both => both.2, fun other => ⟨whole, other⟩⟩
          exact ⟨decide_eq_decide.mpr filtered.symm, _,
            (accessed_accessed ..).trans (accessed_accessed ..)⟩
        · rw [if_pos request]
          have passed : ¬ FilteredOut memory frame interface :=
            fun filtered => request filtered.1.2.2
          exact ⟨by rw [decide_eq_false passed], _, accessed_accessed ..⟩
      · rw [if_pos arp]
        have passed : ¬ FilteredOut memory frame interface :=
          fun filtered => arp filtered.1.2.1
        exact ⟨by rw [decide_eq_false passed], _, rfl⟩
  unfold Ends at ends
  cases result : srArpReqNotForUs memory ⟨.frame, frame⟩ arrival sr with
  | ok value next =>
      simp only [result] at ends
      obtain ⟨rfl, accesses, rfl⟩ := ends
      exact ⟨accesses, rfl⟩
  | error fault next =>
      simp only [result] at ends

/-- No assertion fails exactly on the frames without 0.0.0.0 as ARP target or IP
destination, and on the whole ARP requests for it, which the filter drops. -/
theorem neverAsserts_receiveFrame_iff
    (nonzero : ∀ walker ∈ sr.ifList, walker.ip ≠ 0) (depth : Nat) :
    NeverAsserts (receiveFrame memory depth frame arrival) sr ↔
      ¬ ((ZeroTarget memory frame ∧ ¬ WholeArpRequest memory frame) ∨
        ZeroDestination memory frame) := by
  obtain ⟨accesses, filter⟩ := srArpReqNotForUs_eq memory exists_ frame
  have handled := neverAsserts_srHandlepacket_iff memory (sr.accessed accesses) depth
    frame arrival
  have continues : receiveFrame memory depth frame arrival sr =
      if FilteredOut memory frame interface then .ok () (sr.accessed accesses)
      else srHandlepacket memory depth ⟨.frame, frame⟩ arrival (sr.accessed accesses) := by
    rw [receiveFrame]
    simp only [bind, EStateM.bind, filter]
    by_cases filtered : FilteredOut memory frame interface
    · simp only [filtered, decide_true, if_true]
      rfl
    · simp only [filtered, decide_false, if_false, Bool.false_eq_true]
  rw [NeverAsserts, continues]
  by_cases filtered : FilteredOut memory frame interface
  · rw [if_pos filtered]
    refine iff_of_true (fun failed next => by simp) ?_
    rintro (⟨_, notWhole⟩ | destination)
    · exact notWhole filtered.1
    · have different : ethertypeArp ≠ ethertypeIp := by decide
      exact different (filtered.1.2.1.symm.trans destination.2.1)
  · rw [if_neg filtered]
    have whole : ZeroTarget memory frame → ¬ WholeArpRequest memory frame := by
      intro zero request
      have own : frameArpTarget memory frame = interface.ip := by
        by_contra other
        exact filtered ⟨request, other⟩
      exact nonzero interface (srGetInterface_mem exists_) (own.symm.trans zero.2.2)
    rw [← NeverAsserts, handled]
    constructor
    · rintro ⟨noTarget, noDestination⟩ (both | destination)
      · exact noTarget both.1
      · exact noDestination destination
    · intro neither
      exact ⟨fun zero => neither (Or.inl ⟨zero, whole zero⟩),
        fun destination => neither (Or.inr destination)⟩

end Receive

theorem datagram_neverAsserts :
    NeverAsserts (receiveFrame noMemory 1 datagram eth0.name) smallNetwork ↔
      ¬ ((ZeroTarget noMemory datagram ∧ ¬ WholeArpRequest noMemory datagram) ∨
        ZeroDestination noMemory datagram) := by
  have found : srGetInterface smallNetwork.ifList eth0.name = some eth0 := by
    decide +kernel
  exact neverAsserts_receiveFrame_iff noMemory found datagram (by decide +kernel) 1

def zeroDatagram : Bytes :=
  [2, 0, 0, 0, 0, 1, 2, 0, 0, 0, 0, 2, 8, 0,
    0x45, 0, 0, 20, 0, 0, 0, 0, 64, 0xfd, 0x6f, 0xec, 10, 0, 0, 2, 0, 0, 0, 0]

theorem zeroDatagram_asserts :
    ¬ NeverAsserts (receiveFrame noMemory 1 zeroDatagram eth0.name) smallNetwork := by
  intro never
  apply never .ip
    (finalState (receiveFrame noMemory 1 zeroDatagram eth0.name) smallNetwork)
  rfl

end Cmput313.Router
