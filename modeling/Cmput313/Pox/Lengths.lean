import Cmput313.Pox.RoundTrip

/-!
# The lengths that the messages of the VNS server tell

Each class computes the length of its body apart from the code that encodes it.
-/

set_option autoImplicit false

namespace Cmput313.Pox

open Cmput313.StructPack

namespace VnsOpen

def length (_ : VnsOpen) : Nat := size

theorem pack_length {message : VnsOpen} {body : Str} (packed : message.pack = some body) :
    message.length = body.length := by
  obtain ⟨topoId, topoIdPacked, packed⟩ := Option.bind_eq_some_iff.mp packed
  obtain ⟨pad, padPacked, packed⟩ := Option.bind_eq_some_iff.mp packed
  have two := packUnsigned_length topoIdPacked
  have twoMore := packUnsigned_length padPacked
  rw [← Option.some.inj packed]
  simp [length, size, idSize, two, twoMore]

end VnsOpen

def VnsClose.length (_ : VnsClose) : Nat := VnsClose.size

def VnsPacket.length (packet : VnsPacket) : Nat :=
  VnsPacket.headerSize + packet.ethernetFrame.length

def VnsBanner.length (_ : VnsBanner) : Nat := VnsBanner.size

def VnsHardwareInfo.length (interfaces : List VnsInterface) : Nat :=
  interfaces.length * VnsInterface.size

def VnsRtable.length (message : VnsRtable) : Nat := idSize + message.rtable.length

namespace VnsOpenTemplate

/-- The header holds the 30 bytes of the name already. -/
def length (message : VnsOpenTemplate) : Nat :=
  headerSize + 30 + 5 * message.srcFilters.length

theorem packFilter_length {srcFilter : SrcFilter} {record : Str}
    (packed : packFilter srcFilter = some record) : record.length = 5 := by
  obtain ⟨address, -, packed⟩ := Option.bind_eq_some_iff.mp packed
  obtain ⟨mask, maskPacked, packed⟩ := Option.bind_eq_some_iff.mp packed
  have one := packUnsigned_length maskPacked
  rw [← Option.some.inj packed]
  simp [one]

theorem packFilters_length {srcFilters : List SrcFilter} :
    ∀ {records : List Str}, srcFilters.mapM packFilter = some records →
      records.flatten.length = 5 * srcFilters.length := by
  induction srcFilters with
  | nil =>
      intro records packed
      rw [← Option.some.inj packed]
      rfl
  | cons srcFilter rest inductionHypothesis =>
      intro records packed
      rw [List.mapM_cons] at packed
      obtain ⟨record, first, packed⟩ := Option.bind_eq_some_iff.mp packed
      obtain ⟨others, later, packed⟩ := Option.bind_eq_some_iff.mp packed
      rw [← Option.some.inj packed, List.flatten_cons, List.length_append,
        packFilter_length first, inductionHypothesis later, List.length_cons]
      omega

theorem pack_length {message : VnsOpenTemplate} {body : Str}
    (packed : message.pack = some body) : message.length = body.length + 30 := by
  obtain ⟨records, filtersPacked, packed⟩ := Option.bind_eq_some_iff.mp packed
  have filters := packFilters_length filtersPacked
  rw [← Option.some.inj packed]
  simp only [length, headerSize, idSize, List.length_append, packS_length, filters]
  omega

end VnsOpenTemplate

def VnsAuthRequest.length (message : VnsAuthRequest) : Nat := message.salt.length

namespace VnsAuthReply

/-- The four bytes of the length of the user name do not count. -/
def length (message : VnsAuthReply) : Nat := message.username.length + message.ssp.length

theorem pack_length {message : VnsAuthReply} {body : Str} (packed : message.pack = some body) :
    message.length + 4 = body.length := by
  obtain ⟨front, frontPacked, packed⟩ := Option.bind_eq_some_iff.mp packed
  have four := packUnsigned_length frontPacked
  rw [← Option.some.inj packed]
  simp only [length, List.length_append, four]
  omega

end VnsAuthReply

namespace VnsAuthStatus

def length (message : VnsAuthStatus) : Nat := 1 + message.msg.length

theorem pack_length {message : VnsAuthStatus} {body : Str} (packed : message.pack = some body) :
    message.length = body.length := by
  obtain ⟨front, frontPacked, packed⟩ := Option.bind_eq_some_iff.mp packed
  have one := packUnsigned_length frontPacked
  rw [← Option.some.inj packed, List.length_append, one]
  rfl

end VnsAuthStatus

/-! ## Any message -/

namespace VnsMessage

def length : VnsMessage → Nat
  | vnsOpen message => message.length
  | vnsClose message => message.length
  | vnsPacket message => message.length
  | vnsBanner message => message.length
  | vnsRtable message => message.length
  | vnsOpenTemplate message => message.length
  | vnsAuthRequest message => message.length
  | vnsAuthReply message => message.length
  | vnsAuthStatus message => message.length

end VnsMessage

/-- A message of one of the ten classes of `VNS_MESSAGES`; only `VNSHardwareInfo` has no
decoder. -/
inductive LtMessage where
  | decodable (message : VnsMessage)
  | vnsHardwareInfo (interfaces : List VnsInterface)
  deriving DecidableEq

namespace LtMessage

def getType : LtMessage → UInt32
  | decodable message => message.getType
  | vnsHardwareInfo _ => VnsHardwareInfo.getType

def pack : LtMessage → Option Str
  | decodable message => message.pack
  | vnsHardwareInfo interfaces => some (VnsHardwareInfo.pack interfaces)

def length : LtMessage → Nat
  | decodable message => message.length
  | vnsHardwareInfo interfaces => VnsHardwareInfo.length interfaces

/-- The class is neither `VNSOpenTemplate` nor `VNSAuthReply`. -/
def CountsWell (message : LtMessage) : Prop :=
  message.getType ≠ VnsOpenTemplate.getType ∧ message.getType ≠ VnsAuthReply.getType

instance (message : LtMessage) : Decidable message.CountsWell :=
  inferInstanceAs (Decidable (_ ∧ _))

theorem countsWell_of_getType {message : LtMessage} (type : UInt32)
    (same : message.getType = type)
    (neither : type ≠ VnsOpenTemplate.getType ∧ type ≠ VnsAuthReply.getType) :
    message.CountsWell := by
  rw [CountsWell, same]
  exact neither

/-- Eight classes count all bytes of every message, and the other two of none. -/
theorem length_eq_iff_countsWell {message : LtMessage} {body : Str}
    (packed : message.pack = some body) :
    message.length = body.length ↔ message.CountsWell := by
  cases message with
  | vnsHardwareInfo interfaces =>
      refine iff_of_true ?_ (countsWell_of_getType VnsHardwareInfo.getType rfl (by decide))
      rw [← Option.some.inj packed, VnsHardwareInfo.pack_length]
      exact Nat.mul_comm ..
  | decodable message =>
      cases message with
      | vnsOpen message =>
          exact iff_of_true (VnsOpen.pack_length packed)
            (countsWell_of_getType VnsOpen.getType rfl (by decide))
      | vnsClose message =>
          refine iff_of_true ?_ (countsWell_of_getType VnsClose.getType rfl (by decide))
          rw [← Option.some.inj packed]
          exact (packS_length ..).symm
      | vnsPacket packet =>
          refine iff_of_true ?_ (countsWell_of_getType VnsPacket.getType rfl (by decide))
          rw [← Option.some.inj packed, VnsPacket.pack, List.length_append, packS_length]
          rfl
      | vnsBanner message =>
          refine iff_of_true ?_ (countsWell_of_getType VnsBanner.getType rfl (by decide))
          rw [← Option.some.inj packed]
          exact (packS_length ..).symm
      | vnsRtable message =>
          refine iff_of_true ?_ (countsWell_of_getType VnsRtable.getType rfl (by decide))
          rw [← Option.some.inj packed, VnsRtable.pack, List.length_append, packS_length]
          rfl
      | vnsOpenTemplate message =>
          have more := VnsOpenTemplate.pack_length packed
          refine iff_of_false ?_ fun counts => counts.1 rfl
          change message.length ≠ body.length
          omega
      | vnsAuthRequest message =>
          refine iff_of_true ?_ (countsWell_of_getType VnsAuthRequest.getType rfl (by decide))
          rw [← Option.some.inj packed]
          rfl
      | vnsAuthReply message =>
          have fewer := VnsAuthReply.pack_length packed
          refine iff_of_false ?_ fun counts => counts.2 rfl
          change message.length ≠ body.length
          omega
      | vnsAuthStatus message =>
          exact iff_of_true (VnsAuthStatus.pack_length packed)
            (countsWell_of_getType VnsAuthStatus.getType rfl (by decide))

def acceptedStatus : LtMessage := decodable (.vnsAuthStatus ⟨true, [111, 107]⟩)

theorem acceptedStatus_length_eq_iff :
    acceptedStatus.length = [1, 111, 107].length ↔ acceptedStatus.CountsWell :=
  @length_eq_iff_countsWell acceptedStatus [1, 111, 107] rfl

/-- An empty reply has the four bytes of the length of its user name. -/
theorem emptyReply_length_ne :
    ¬ ∀ (message : LtMessage) (body : Str), message.pack = some body →
      message.length = body.length := by
  intro always
  have counted := always (decodable (.vnsAuthReply ⟨[], []⟩)) [0, 0, 0, 0] rfl
  exact absurd counted (by decide)

end LtMessage

end Cmput313.Pox
