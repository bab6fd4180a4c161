import Cmput313.Router.ArpCache

/-!
# Frames to and from the VNS server

`sr_send_packet` with its address check, and the ARP filter in front of
`sr_handlepacket`, from `sr_vns_comm.c`.
-/

set_option autoImplicit false

namespace Cmput313.Router

open Cmput313.Bytes

def srEtherAddrsMatchInterface (ifList : List SrIf) (buf : Bytes) (name : Name) :
    Bool :=
  match srGetInterface ifList name with
  | none => false
  | some iface => (buf.drop etherShost).take 6 = iface.addr.toList

def packetMessage (buf : Bytes) (iface : Name) : Bytes :=
  bytes32 (htonl (UInt32.ofNat (buf.length + 24))) ++
    bytes32 (htonl vnsPacket) ++ strncpy 16 iface ++ buf

def srSendPacket (buf : Bytes) (iface : Name) : Sr Int := do
  log (.sendPacket buf iface)
  let sr ← get
  if buf.length < sizeofEthernetHdr then
    return -1
  if srEtherAddrsMatchInterface sr.ifList buf iface then
    log (.wire (packetMessage buf iface))
    return 0
  else
    return -1

/-- Whether the frame is an ARP request for another address than the receiving
interface's; a frame too short for an ARP header is let through. -/
def srArpReqNotForUs (memory : Memory) (packet : Buf) (interface : Name) :
    Sr Bool := do
  let sr ← get
  let iface := srGetInterface sr.ifList interface
  if packet.bytes.length < sizeofEthernetHdr + sizeofArpHdr then
    return false
  match iface with
  | none => throw (.assertion .iface)
  | some iface =>
      let type ← load16 memory packet etherType
      if type ≠ htons ethertypeArp then
        return false
      let op ← load16 memory packet arOp
      if op ≠ htons arpOpRequest then
        return false
      let tip ← load32 memory packet arTip
      return tip ≠ iface.ip

end Cmput313.Router
