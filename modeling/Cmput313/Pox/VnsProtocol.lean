import Cmput313.Lib.InetAddress
import Cmput313.Lib.StructPack

/-!
# The messages of the VNS server

The classes of `VNSProtocol.py`, encoder and decoder, and the header of length and
type that goes in front of a body.  A `str` of Python is its list of bytes; an
exception is `none`.
-/

set_option autoImplicit false

namespace Cmput313.Pox

open Cmput313.Inet Cmput313.StructPack

abbrev Str := List UInt8

/-- Every run of NULs removed, wherever it stands. -/
def stripNullChars (s : Str) : Str := s.filter (· ≠ 0)

/-- The body behind `mLen`, which counts these eight bytes too, and `mType`. -/
def ltMessage (type : UInt32) (body : Str) : Str :=
  packI (UInt32.ofNat (8 + body.length)) ++ packI type ++ body

def slice (offset size : Nat) (body : Str) : Str := (body.drop offset).take size

def idSize : Nat := 32

theorem stripNullChars_packS {text : Str} (width : Nat) (noNul : 0 ∉ text) :
    stripNullChars (packS width text) = text.take width := by
  have kept : (text.take width).filter (· ≠ 0) = text.take width := by
    rw [List.filter_eq_self]
    intro char member
    simp only [ne_eq, decide_not, Bool.not_eq_true', decide_eq_false_iff_not]
    rintro rfl
    exact noNul (List.mem_of_mem_take member)
  have dropped : (List.replicate (width - text.length) (0 : UInt8)).filter (· ≠ 0) = [] := by
    rw [List.filter_eq_nil_iff]
    intro char member
    simp [List.eq_of_mem_replicate member]
  rw [stripNullChars, packS, List.filter_append, kept, dropped, List.append_nil]

/-! ## `VNSOpen` and `VNSClose` -/

structure VnsOpen where
  topoId : Nat
  vhost : Str
  user : Str
  pw : Str
  deriving DecidableEq

namespace VnsOpen

def getType : UInt32 := 1

def size : Nat := 100

/-- `> HH 32s 32s 32s`. -/
def pack (message : VnsOpen) : Option Str := do
  let topoId ← packUnsigned 2 message.topoId
  let pad ← packUnsigned 2 0
  return topoId ++ pad ++ packS idSize message.vhost ++ packS idSize message.user ++
    packS idSize message.pw

def unpack (body : Str) : Option VnsOpen :=
  if body.length = size then
    some ⟨unpackUnsigned (slice 0 2 body), stripNullChars (slice 4 idSize body),
      stripNullChars (slice 36 idSize body), stripNullChars (slice 68 idSize body)⟩
  else
    none

end VnsOpen

def unpackText (width : Nat) (body : Str) : Option Str :=
  if body.length = width then some (stripNullChars body) else none

structure VnsClose where
  msg : Str
  deriving DecidableEq

namespace VnsClose

def getType : UInt32 := 2

def size : Nat := 256

def pack (message : VnsClose) : Str := packS size message.msg

def unpack (body : Str) : Option VnsClose := (unpackText size body).map VnsClose.mk

end VnsClose

/-! ## `VNSPacket` -/

structure VnsPacket where
  intfName : Str
  ethernetFrame : Str
  deriving DecidableEq

namespace VnsPacket

def getType : UInt32 := 4

def headerSize : Nat := 16

def pack (packet : VnsPacket) : Str :=
  packS headerSize packet.intfName ++ packet.ethernetFrame

/-- `struct.unpack` raises an exception unless it is given the whole header. -/
def unpack (body : Str) : Option VnsPacket :=
  if (body.take headerSize).length = headerSize then
    some ⟨stripNullChars (body.take headerSize), body.drop headerSize⟩
  else
    none

end VnsPacket

/-! ## `VNSInterface` -/

/-- The constructor refuses a MAC, an address or a mask of another length. -/
structure VnsInterface where
  name : Str
  mac : Vector UInt8 6
  ip : Vector UInt8 4
  mask : Vector UInt8 4
  deriving DecidableEq

namespace VnsInterface

def hwInterface : UInt32 := 1
def hwSpeed : UInt32 := 2
def hwSubnet : UInt32 := 4
def hwEther : UInt32 := 32
def hwEthIp : UInt32 := 64
def hwMask : UInt32 := 128

def size : Nat := 216

/-- `> I32s II28s I32s I4s28s II28s I4s28s`. -/
def pack (interface : VnsInterface) : Str :=
  packI hwInterface ++ packS 32 interface.name ++
    (packI hwSpeed ++ packI 0 ++ packS 28 []) ++
    (packI hwEther ++ packS 32 interface.mac.toList) ++
    (packI hwEthIp ++ packS 4 interface.ip.toList ++ packS 28 []) ++
    (packI hwSubnet ++ packI 0 ++ packS 28 []) ++
    (packI hwMask ++ packS 4 interface.mask.toList ++ packS 28 [])

@[simp] theorem pack_length (interface : VnsInterface) : interface.pack.length = size := by
  simp [pack, size]

end VnsInterface

/-! ## `VNSBanner` -/

structure VnsBanner where
  msg : Str
  deriving DecidableEq

namespace VnsBanner

def getType : UInt32 := 8

def size : Nat := 256

def pack (message : VnsBanner) : Str := packS size message.msg

def unpack (body : Str) : Option VnsBanner := (unpackText size body).map VnsBanner.mk

end VnsBanner

/-! ## `VNSHardwareInfo` -/

namespace VnsHardwareInfo

def getType : UInt32 := 16

def pack (interfaces : List VnsInterface) : Str :=
  (interfaces.map VnsInterface.pack).flatten

theorem pack_length (interfaces : List VnsInterface) :
    (pack interfaces).length = VnsInterface.size * interfaces.length := by
  have sized : ∀ record ∈ interfaces.map VnsInterface.pack,
      record.length = VnsInterface.size := by simp
  rw [pack, length_flatten_records sized, List.length_map]

end VnsHardwareInfo

/-! ## `VNSRtable` and `VNSOpenTemplate` -/

structure VnsRtable where
  vrhost : Str
  rtable : Str
  deriving DecidableEq

namespace VnsRtable

def getType : UInt32 := 32

def pack (message : VnsRtable) : Str := packS idSize message.vrhost ++ message.rtable

/-- The header is cut off as it is, however short. -/
def unpack (body : Str) : VnsRtable :=
  ⟨stripNullChars (body.take idSize), body.drop idSize⟩

end VnsRtable

abbrev SrcFilter := Str × Nat

def noSrcFilters : List SrcFilter := [([48, 46, 48, 46, 48, 46, 48], 0)]

/-- The constructor leaves no message without a filter. -/
structure VnsOpenTemplate where
  templateName : Str
  vrhost : Str
  srcFilters : List SrcFilter
  filtered : srcFilters ≠ []
  deriving DecidableEq

namespace VnsOpenTemplate

def getType : UInt32 := 64

def init (templateName vrhost : Str) (srcFilters : List SrcFilter) : VnsOpenTemplate :=
  if given : srcFilters = [] then
    ⟨templateName, vrhost, noSrcFilters, List.cons_ne_nil _ _⟩
  else
    ⟨templateName, vrhost, srcFilters, given⟩

def headerSize : Nat := 62

def packFilter (srcFilter : SrcFilter) : Option Str := do
  let address ← inetAton srcFilter.1
  let mask ← packUnsigned 1 srcFilter.2
  return address.toList ++ mask

def pack (message : VnsOpenTemplate) : Option Str := do
  let filters ← message.srcFilters.mapM packFilter
  return packS 30 message.templateName ++ packS idSize message.vrhost ++ filters.flatten

/-- `inet_ntoa` of a packed address; it raises an exception unless it is given four
bytes. -/
def ntoaPacked (bytes : Str) : Option Str :=
  if four : bytes.length = 4 then some (inetNtoa ⟨bytes.toArray, four⟩) else none

/-- The body of the `for` over the filters. -/
def unpackFilter (sfBytes : Str) (i : Nat) : Option SrcFilter := do
  let ip ← ntoaPacked (slice (i * 5) 4 sfBytes)
  let mask := unpackUnsigned (slice (i * 5 + 4) 1 sfBytes)
  if mask > 32 then none else return (ip, mask)

def unpack (body : Str) : Option VnsOpenTemplate :=
  if (body.take headerSize).length = headerSize then do
    let sfBytes := body.drop headerSize
    let srcFilters ← (List.range (sfBytes.length / 5)).mapM (unpackFilter sfBytes)
    return init (stripNullChars (slice 0 30 body)) (stripNullChars (slice 30 idSize body))
      srcFilters
  else
    none

end VnsOpenTemplate

/-! ## `VNSAuthRequest`, `VNSAuthReply` and `VNSAuthStatus` -/

structure VnsAuthRequest where
  salt : Str
  deriving DecidableEq

namespace VnsAuthRequest

def getType : UInt32 := 128

def pack (message : VnsAuthRequest) : Str := message.salt

def unpack (body : Str) : VnsAuthRequest := ⟨body⟩

end VnsAuthRequest

structure VnsAuthReply where
  username : Str
  ssp : Str
  deriving DecidableEq

namespace VnsAuthReply

def getType : UInt32 := 256

def pack (message : VnsAuthReply) : Option Str := do
  let length ← packUnsigned 4 message.username.length
  return length ++ message.username ++ message.ssp

def unpack (body : Str) : Option VnsAuthReply :=
  if (body.take 4).length = 4 then
    let usernameLen := unpackUnsigned (body.take 4)
    some ⟨(body.drop 4).take usernameLen, (body.drop 4).drop usernameLen⟩
  else
    none

end VnsAuthReply

structure VnsAuthStatus where
  authOk : Bool
  msg : Str
  deriving DecidableEq

namespace VnsAuthStatus

def getType : UInt32 := 512

def pack (message : VnsAuthStatus) : Option Str := do
  let authOk ← packUnsigned 1 message.authOk.toNat
  return authOk ++ message.msg

def unpack (body : Str) : Option VnsAuthStatus :=
  if (body.take 1).length = 1 then
    some ⟨unpackUnsigned (body.take 1) ≠ 0, body.drop 1⟩
  else
    none

end VnsAuthStatus

/-! ## The header -/

@[simp] theorem ltMessage_length (type : UInt32) (body : Str) :
    (ltMessage type body).length = 8 + body.length := by
  simp [ltMessage]
  omega

end Cmput313.Pox
