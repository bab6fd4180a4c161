import Cmput313.Lib.Bytes
import Mathlib.Data.List.TakeWhile

/-!
# Wire formats and C strings

The constants and packed layouts of `sr_protocol.h`, `sr_arpcache.h` and
`vnscommand.h`, as byte offsets from the start of a frame, and the two string
functions the router uses.  Words are kept as the little-endian machine holds
them, so `htons` and `htonl` exchange bytes.
-/

set_option autoImplicit false

namespace Cmput313.Router

open Cmput313.Bytes

abbrev Bytes := List UInt8

abbrev Mac := Vector UInt8 6

/-- The bytes found at a `char *`; the string ends at the first NUL. -/
abbrev Name := List UInt8

def htons (word : UInt16) : UInt16 := swap16 word
def ntohs (word : UInt16) : UInt16 := swap16 word
def htonl (word : UInt32) : UInt32 := swap32 word
def ntohl (word : UInt32) : UInt32 := swap32 word

/-! ## Sizes and offsets -/

def sizeofEthernetHdr : Nat := 14
def sizeofIpHdr : Nat := 20
def sizeofArpHdr : Nat := 28
def sizeofIcmpT3Hdr : Nat := 36
def icmpDataSize : Nat := 28
def srIfaceNamelen : Nat := 32
def srArpcacheSz : Nat := 100
def srArpcacheTo : Int := 15

def etherDhost : Nat := 0
def etherShost : Nat := 6
def etherType : Nat := 12

def ipVhl : Nat := 14
def ipTos : Nat := 15
def ipLen : Nat := 16
def ipId : Nat := 18
def ipOff : Nat := 20
def ipTtl : Nat := 22
def ipP : Nat := 23
def ipSum : Nat := 24
def ipSrc : Nat := 26
def ipDst : Nat := 30

def arHrd : Nat := 14
def arPro : Nat := 16
def arHln : Nat := 18
def arPln : Nat := 19
def arOp : Nat := 20
def arSha : Nat := 22
def arSip : Nat := 28
def arTha : Nat := 32
def arTip : Nat := 38

/-! ## Codes -/

def ethertypeArp : UInt16 := 0x0806
def ethertypeIp : UInt16 := 0x0800
def arpOpRequest : UInt16 := 1
def arpOpReply : UInt16 := 2
def arpHrdEthernet : UInt16 := 1
def ipProtocolIcmp : UInt8 := 1
def ipProtocolTcp : UInt8 := 6
def ipProtocolUdp : UInt8 := 0x11
def ipDf : UInt16 := 0x4000
def icmpTypeEchoReply : UInt8 := 0
def icmpTypeDestUnreachable : UInt8 := 3
def icmpTypeEchoRequest : UInt8 := 8
def icmpTypeTimeExceeded : UInt8 := 11
def icmpDestUnreachableNet : UInt8 := 0
def icmpDestUnreachableHost : UInt8 := 1
def icmpDestUnreachablePort : UInt8 := 3
def vnsPacket : UInt32 := 4

/-! ## Strings -/

/-- What `strncmp` and `strncpy` see of a string: up to the first NUL and at
most `limit` characters. -/
def cString (limit : Nat) (name : Name) : Name :=
  (name.take limit).takeWhile (· ≠ 0)

/-- `strncmp(left, right, limit) == 0`. -/
def strncmpEq (limit : Nat) (left right : Name) : Bool :=
  cString limit left = cString limit right

/-- The `limit` characters that `strncpy(_, name, limit)` writes. -/
def strncpy (limit : Nat) (name : Name) : Name :=
  cString limit name ++ List.replicate (limit - (cString limit name).length) 0

theorem cString_length_le (limit : Nat) (name : Name) :
    (cString limit name).length ≤ limit := by
  have shorter := (List.takeWhile_prefix (· ≠ 0) (l := name.take limit)).length_le
  have taken := List.length_take_le limit name
  exact Nat.le_trans shorter taken

theorem nonzero_of_noNul {name : Name} (noNul : 0 ∉ name) :
    ∀ char ∈ name, decide (char ≠ 0) = true := by
  intro char member
  rw [decide_eq_true_eq]
  exact fun zero => noNul (zero ▸ member)

theorem cString_eq_take {short long : Nat} (fits : short ≤ long) (name : Name) :
    cString short name = (cString long name).take short := by
  rw [cString, cString, List.take_takeWhile, List.take_take, Nat.min_eq_left fits]

theorem cString_of_noNul {name : Name} (limit : Nat) (noNul : 0 ∉ name) :
    cString limit name = name.take limit := by
  rw [cString, List.takeWhile_eq_self_iff]
  exact nonzero_of_noNul fun member => noNul (List.mem_of_mem_take member)

theorem takeWhile_append_replicate_zero (text : Name) (count : Nat)
    (noNul : ∀ char ∈ text, char ≠ 0) :
    (text ++ List.replicate count 0).takeWhile (· ≠ 0) = text := by
  induction text with
  | nil => cases count <;> simp [List.replicate_succ]
  | cons head rest inductionHypothesis =>
      have headNonzero : head ≠ 0 := noNul head (List.mem_cons_self ..)
      have restNonzero : ∀ char ∈ rest, char ≠ 0 :=
        fun char member => noNul char (List.mem_cons_of_mem _ member)
      simpa [headNonzero] using inductionHypothesis restNonzero

@[simp] theorem strncpy_length (limit : Nat) (name : Name) :
    (strncpy limit name).length = limit := by
  have bound := cString_length_le limit name
  simp [strncpy]; omega

@[simp] theorem cString_strncpy (limit : Nat) (name : Name) :
    cString limit (strncpy limit name) = cString limit name := by
  have whole : (strncpy limit name).take limit = strncpy limit name :=
    List.take_of_length_le (by simp)
  rw [cString, whole, strncpy]
  apply takeWhile_append_replicate_zero
  intro char member
  simpa using List.mem_takeWhile_imp member

end Cmput313.Router
