import Cmput313.Router.Assertions
import Cmput313.Router.HardwareInfo

/-!
# Frames in VNS messages

The `VNSPACKET` case of `sr_read_from_server_expect`, and how interface names and
frames travel between it, `sr_send_packet` and `VNSPacket` of `VNSProtocol.py`.  The
names fill 32 bytes in the router and 16 in a message.
-/

set_option autoImplicit false

namespace Cmput313.Router

open Cmput313.Bytes Cmput313.Pox Cmput313.Program Cmput313.StructPack

variable (memory : Memory)

/-! ## The `VNSPACKET` case -/

structure PacketCall where
  packet : Bytes
  len : UInt32
  interface : Name
  deriving DecidableEq

def sizeofPacketHeader : Nat := 24
def sizeofPacketEthernetHeader : Int := 38
def sizeofBase : Nat := 8

/-- `len - sizeof(c_packet_ethernet_header) + sizeof(struct sr_ethernet_hdr)`, an
`unsigned int`. -/
def frameLength (len : Int) : UInt32 :=
  UInt32.ofInt (len - sizeofPacketEthernetHeader + sizeofEthernetHdr)

/-- What lies behind a message is what lies behind its frame. -/
def behindMessage (offset : Nat) : UInt8 := memory.beyond (offset - sizeofPacketHeader)

/-- The arguments that the filter and `sr_handlepacket` are called with; the name is
what string functions see through the pointer into the message. -/
def packetCall (buf : Bytes) (len : Int) : PacketCall where
  packet := read (behindMessage memory) buf sizeofPacketHeader (frameLength len).toNat
  len := frameLength len
  interface := read (behindMessage memory) buf sizeofBase srIfaceNamelen

def passedCall (buf : Bytes) (len : Int) : Sr (Option PacketCall) := do
  let call := packetCall memory buf len
  let notForUs ← srArpReqNotForUs memory ⟨.frame, call.packet⟩ call.interface
  return if notForUs then none else some call

def handlePacketMessage (depth : Nat) (buf : Bytes) (len : Int) : Sr Unit := do
  let call ← passedCall memory buf len
  match call with
  | none => return ()
  | some call => srHandlepacket memory depth ⟨.frame, call.packet⟩ call.interface

theorem handlePacketMessage_eq_receiveFrame (depth : Nat) (buf : Bytes) (len : Int) :
    handlePacketMessage memory depth buf len =
      receiveFrame memory depth (packetCall memory buf len).packet
        (packetCall memory buf len).interface := by
  funext sr
  simp only [handlePacketMessage, passedCall, receiveFrame, bind, EStateM.bind]
  cases srArpReqNotForUs memory ⟨.frame, (packetCall memory buf len).packet⟩
      (packetCall memory buf len).interface sr with
  | error fault next => rfl
  | ok notForUs next => cases notForUs <;> rfl

/-! ## Both directions -/

def vnsPacketMessage (mType : UInt32) (name : Name) (frame : Bytes) : Bytes :=
  ltMessage mType (VnsPacket.pack ⟨name, frame⟩)

/-- Name and frame reach the server as the router sends them, and reach
`sr_handlepacket` as the server sends them. -/
structure Travels (sr : SrInstance) (interface : SrIf) (mType : UInt32) (name : Name)
    (frame : Bytes) : Prop where
  toServer : VnsPacket.unpack ((packetMessage frame name).drop sizeofBase) =
    some ⟨name, frame⟩
  toRouter : ∃ call next,
    passedCall memory (vnsPacketMessage mType name frame)
        (vnsPacketMessage mType name frame).length sr = .ok (some call) next ∧
      call.packet = frame ∧ call.len.toNat = frame.length ∧
      srGetInterface sr.ifList call.interface = some interface

theorem unpack_packetMessage {name : Name} (noNul : 0 ∉ name) (frame : Bytes) :
    VnsPacket.unpack ((packetMessage frame name).drop sizeofBase) =
      some ⟨name.take VnsPacket.headerSize, frame⟩ := by
  have body : (packetMessage frame name).drop sizeofBase =
      packS VnsPacket.headerSize name ++ frame := by
    rw [packetMessage, strncpy_eq_packS 16 noNul, List.append_assoc]
    exact List.drop_left' rfl
  have header : (packS VnsPacket.headerSize name ++ frame).take VnsPacket.headerSize =
      packS VnsPacket.headerSize name := List.take_left' (packS_length _ _)
  have rest : (packS VnsPacket.headerSize name ++ frame).drop VnsPacket.headerSize = frame :=
    List.drop_left' (packS_length _ _)
  rw [body, VnsPacket.unpack, header, rest, if_pos (packS_length _ _),
    stripNullChars_packS _ noNul]

theorem toNat_frameLength {length : Nat} (short : length ≤ 9976) :
    (frameLength ((24 + length : Nat) : Int)).toNat = length := by
  have difference : ((24 + length : Nat) : Int) - sizeofPacketEthernetHeader +
      sizeofEthernetHdr = (length : Int) := by
    simp only [sizeofPacketEthernetHeader, sizeofEthernetHdr]
    omega
  rw [frameLength, difference, UInt32.ofInt, UInt32.toNat_ofNat']
  omega

/-- Behind the 16 bytes of the name field the pointer finds the frame. -/
theorem packetCall_vnsPacketMessage (mType : UInt32) (name : Name) {frame : Bytes}
    (short : frame.length ≤ 9976) :
    packetCall memory (vnsPacketMessage mType name frame)
        (vnsPacketMessage mType name frame).length =
      ⟨frame, frameLength ((24 + frame.length : Nat) : Int),
        packS 16 name ++ read memory.beyond frame 0 16⟩ := by
  have length : (vnsPacketMessage mType name frame).length = 24 + frame.length := by
    simp [vnsPacketMessage, VnsPacket.pack, VnsPacket.headerSize]
    omega
  have split : vnsPacketMessage mType name frame =
      (packI (UInt32.ofNat (8 + (VnsPacket.pack ⟨name, frame⟩).length)) ++ packI mType) ++
        (packS 16 name ++ frame) := rfl
  have nameAt : (vnsPacketMessage mType name frame).drop sizeofBase =
      packS 16 name ++ frame := by
    rw [split]
    exact List.drop_left' rfl
  have frameAt : (vnsPacketMessage mType name frame).drop sizeofPacketHeader = frame := by
    have later : (vnsPacketMessage mType name frame).drop (sizeofBase + 16) =
        (packS 16 name ++ frame).drop 16 := by
      rw [← List.drop_drop, nameAt]
    exact later.trans (List.drop_left' (packS_length _ _))
  have packet : read (behindMessage memory) (vnsPacketMessage mType name frame)
      sizeofPacketHeader frame.length = frame := by
    rw [read_of_le _ _ (by rw [length]; exact Nat.le_refl _), frameAt, List.take_length]
  have field : read (behindMessage memory) (vnsPacketMessage mType name frame) sizeofBase 16 =
      packS 16 name := by
    rw [read_of_le _ _ (by rw [length, sizeofBase]; omega), nameAt,
      List.take_left' (packS_length _ _)]
  have behind : read (behindMessage memory) (vnsPacketMessage mType name frame)
      (sizeofBase + 16) 16 = read memory.beyond frame 0 16 := by
    apply List.map_congr_left
    intro index _
    have shifted : peek (behindMessage memory) (vnsPacketMessage mType name frame)
        (sizeofPacketHeader + index) =
          peek memory.beyond ((vnsPacketMessage mType name frame).drop sizeofPacketHeader)
            index := by
      simp only [peek, behindMessage, List.getD_eq_getElem?_getD, List.getElem?_drop,
        Nat.add_sub_cancel_left]
    rw [Nat.zero_add, ← congrArg (peek memory.beyond · index) frameAt]
    exact shifted
  have name32 : read (behindMessage memory) (vnsPacketMessage mType name frame) sizeofBase
      srIfaceNamelen = packS 16 name ++ read memory.beyond frame 0 16 := by
    rw [← field, ← behind, ← read_append]
    rfl
  rw [packetCall, length, toNat_frameLength short, packet, name32]

theorem cString_field_eq_iff {name tail : Name} (noNul : 0 ∉ name)
    (field : name.length ≤ 16) (long : tail.length = 16) :
    cString srIfaceNamelen (packS 16 name ++ tail) = name ↔
      name.length ≤ 15 ∨ tail.head? = some 0 := by
  have nonzero := nonzero_of_noNul noNul
  have whole : (packS 16 name ++ tail).take srIfaceNamelen = packS 16 name ++ tail :=
    List.take_of_length_le (by rw [List.length_append, packS_length, long]; exact Nat.le_refl _)
  rw [cString, whole, packS_of_le field, List.append_assoc,
    List.takeWhile_append_of_pos nonzero]
  have shorter : name.length ≤ 15 ∨ name.length = 16 := by omega
  rcases shorter with short | full
  · refine iff_of_true ?_ (Or.inl short)
    have some_ : 16 - name.length = (15 - name.length) + 1 := by omega
    rw [some_, List.replicate_succ, List.cons_append,
      List.takeWhile_cons_of_neg (by decide), List.append_nil]
  · have notShort : ¬ name.length ≤ 15 := by omega
    have none : 16 - name.length = 0 := by omega
    rw [none, List.replicate_zero, List.nil_append, or_iff_right notShort,
      List.append_right_eq_self]
    cases tail with
    | nil => simp at long
    | cons first rest =>
        rw [List.head?_cons, Option.some.injEq, List.takeWhile_cons]
        by_cases zero : first = 0
        · simp [zero]
        · simp [zero]

theorem passedCall_eq {sr : SrInstance} {interface : SrIf} {buf : Bytes} {len : Int}
    (found : srGetInterface sr.ifList (packetCall memory buf len).interface = some interface) :
    ∃ accesses, passedCall memory buf len sr =
      .ok (if FilteredOut memory (packetCall memory buf len).packet interface then none
        else some (packetCall memory buf len)) (sr.accessed accesses) := by
  obtain ⟨accesses, filter⟩ :=
    srArpReqNotForUs_eq memory found (packetCall memory buf len).packet
  refine ⟨accesses, ?_⟩
  simp only [passedCall, bind, EStateM.bind, filter]
  by_cases filtered : FilteredOut memory (packetCall memory buf len).packet interface
  · simp only [filtered, decide_true, if_true]
    rfl
  · simp only [filtered, decide_false, if_false, Bool.false_eq_true]
    rfl

theorem passedCall_some {sr next : SrInstance} {buf : Bytes} {len : Int} {call : PacketCall}
    (passed : passedCall memory buf len sr = .ok (some call) next) :
    call = packetCall memory buf len := by
  obtain ⟨notForUs, reached, _, returned⟩ := ok_of_bind_ok passed
  cases notForUs with
  | true => exact absurd returned (by simp [pure, EStateM.pure])
  | false =>
      have same : some (packetCall memory buf len) = some call := by
        injection returned
      exact (Option.some.inj same).symm

/-- The two 16-byte fields carry a registered name exactly when it leaves room for its
NUL, or fills the field in front of a frame whose first byte is 0. -/
theorem travels_iff (mType : UInt32) {name : Name} (named : Registrable name)
    {frame : Bytes} (long : sizeofEthernetHdr ≤ frame.length) (short : frame.length ≤ 9976)
    {sr : SrInstance} {interface : SrIf}
    (registered : srGetInterface sr.ifList name = some interface) :
    Travels memory sr interface mType name frame ↔
      (name.length ≤ 15 ∨ name.length = 16 ∧ frame.head? = some 0) ∧
        ¬ FilteredOut memory frame interface := by
  have call := packetCall_vnsPacketMessage memory mType name short
  have ownName : cString srIfaceNamelen name = name := by
    rw [cString_of_noNul _ named.noNul, List.take_of_length_le]
    exact Nat.le_trans named.short (by decide)
  have firstByte : (read memory.beyond frame 0 16).head? = frame.head? := by
    cases frame with
    | nil => exact absurd long (by decide)
    | cons first rest => rfl
  have pointer : name.length ≤ 16 →
      (cString srIfaceNamelen (packS 16 name ++ read memory.beyond frame 0 16) = name ↔
        name.length ≤ 15 ∨ frame.head? = some 0) := by
    intro field
    rw [← firstByte]
    exact cString_field_eq_iff named.noNul field (read_length _ _ _ _)
  constructor
  · rintro ⟨toServer, passed, next, through, packet, _, found⟩
    have field : name.length ≤ 16 := by
      rw [unpack_packetMessage named.noNul] at toServer
      have cut : name.take 16 = name := congrArg VnsPacket.intfName (Option.some.inj toServer)
      have bound := congrArg List.length cut
      rw [List.length_take] at bound
      omega
    have same := passedCall_some memory through
    rw [same] at found packet
    obtain ⟨accesses, filter⟩ := passedCall_eq memory found
    have unfiltered : ¬ FilteredOut memory frame interface := by
      intro filtered
      rw [packet, if_pos filtered, through] at filter
      injection filter with none_
      exact absurd none_ (by simp)
    have agrees := (srGetInterface_name found).symm.trans (srGetInterface_name registered)
    rw [call, ownName] at agrees
    rcases (pointer field).mp agrees with shorter | zero
    · exact ⟨Or.inl shorter, unfiltered⟩
    · rcases Nat.lt_or_ge name.length 16 with less | full
      · exact ⟨Or.inl (by omega), unfiltered⟩
      · exact ⟨Or.inr ⟨by omega, zero⟩, unfiltered⟩
  · rintro ⟨fits, unfiltered⟩
    have field : name.length ≤ 16 := by omega
    have agrees := (pointer field).mpr (fits.imp_right And.right)
    have found : srGetInterface sr.ifList
        (packetCall memory (vnsPacketMessage mType name frame)
          (vnsPacketMessage mType name frame).length).interface = some interface := by
      rw [call, ← registered]
      exact srGetInterface_congr sr.ifList (agrees.trans ownName.symm)
    obtain ⟨accesses, filter⟩ := passedCall_eq memory found
    have packet : (packetCall memory (vnsPacketMessage mType name frame)
        (vnsPacketMessage mType name frame).length).packet = frame := by rw [call]
    rw [packet, if_neg unfiltered] at filter
    have server := unpack_packetMessage named.noNul frame
    have whole : name.take VnsPacket.headerSize = name := List.take_of_length_le field
    rw [whole] at server
    refine ⟨server, _, _, filter, packet, ?_, found⟩
    rw [call]
    exact toNat_frameLength short

theorem eth0_travels :
    Travels noMemory smallNetwork eth0 VnsPacket.getType eth0.name datagram := by
  have fits : eth0.name.length ≤ 15 ∨ eth0.name.length = 16 ∧ datagram.head? = some 0 := by
    decide
  have unfiltered : ¬ FilteredOut noMemory datagram eth0 := by decide
  exact (travels_iff noMemory VnsPacket.getType ⟨by decide, by decide, by decide⟩
    (by decide) (by decide) (by decide)).mpr ⟨fits, unfiltered⟩

def longName : Name :=
  [103, 105, 103, 97, 98, 105, 116, 101, 116, 104, 101, 114, 110, 101, 116, 48, 49]

def longNetwork : SrInstance :=
  { smallNetwork with ifList := [registeredAs { vnsEth0 with name := longName }] }

/-- The server is told of an interface `gigabitethernet0`. -/
theorem longName_not_travels :
    Registrable longName ∧ ∃ interface,
      srGetInterface longNetwork.ifList longName = some interface ∧
      ¬ Travels noMemory longNetwork interface VnsPacket.getType longName datagram := by
  refine ⟨⟨by decide, by decide, by decide⟩, registeredAs { vnsEth0 with name := longName },
    by decide, ?_⟩
  intro travels
  have server := travels.toServer
  rw [unpack_packetMessage (by decide)] at server
  have cut : longName.take VnsPacket.headerSize = longName :=
    congrArg VnsPacket.intfName (Option.some.inj server)
  exact absurd cut (by decide)

end Cmput313.Router
