import Cmput313.Router.Vns
import Cmput313.Router.Checksum

/-!
# Packet handling

`sr_router.c` and the two functions of `sr_arpcache.c` that send: the ICMP
generator, forwarding, the dispatch on received frames, ARP retries and the
sweep.  `send_icmp_msg` and `handle_arpreq` call each other, so everything below
`handleArpreq` takes it as `handle`, and `handleArpreq` counts down a depth.
-/

set_option autoImplicit false

namespace Cmput313.Router

open Cmput313.Bytes

variable (memory : Memory)

/-! ## Sending -/

/-- The tail that forwarding, echo replies and ICMP errors share: send through
the cached mapping of the gateway, or wait for one. -/
def sendOrQueue (handle : Nat → Sr Unit) (gw : UInt32) (packet : Buf)
    (interface : Option SrIf) : Sr Unit := do
  let sr ← get
  match srArpcacheLookup sr.entries gw with
  | some arpEntry =>
      let packet ← store packet etherDhost arpEntry.mac.toList
      let interface ← dereference interface
      let packet ← store packet etherShost interface.addr.toList
      let _ ← srSendPacket packet.bytes interface.name
  | none =>
      let interface ← dereference interface
      let arpReq ← srArpcacheQueuereq gw packet.bytes interface.name
      handle arpReq

def headerLength (vhl : UInt8) : Nat := vhl.toNat % 16

/-- The packet that `send_icmp_msg` allocates for an error, in the order it is
written; `quoted` are the first 28 bytes of the offending datagram. -/
def icmpErrorPacket (hl : Nat) (type code : UInt8) (src dst : UInt32)
    (quoted : Bytes) : Bytes :=
  let newLen := sizeofEthernetHdr + hl * 4 + sizeofIcmpT3Hdr
  let icmpHdr := sizeofEthernetHdr + hl * 4
  let packet := (List.range newLen).map memory.fresh
  let packet := put packet etherShost (List.replicate 6 0)
  let packet := put packet etherDhost (List.replicate 6 0)
  let packet := put packet etherType (bytes16 (htons ethertypeIp))
  let packet := put packet ipVhl [UInt8.ofNat (64 + hl)]
  let packet := put packet ipTos [0]
  let packet := put packet ipLen
    (bytes16 (htons (UInt16.ofNat (hl * 4 + sizeofIcmpT3Hdr))))
  let packet := put packet ipId (bytes16 (htons 0))
  let packet := put packet ipOff (bytes16 (htons ipDf))
  let packet := put packet ipTtl [255]
  let packet := put packet ipP [ipProtocolIcmp]
  let packet := put packet ipSrc (bytes32 src)
  let packet := put packet ipDst (bytes32 dst)
  let packet := put packet ipSum (bytes16 0)
  let packet := put packet ipSum
    (bytes16 (cksum (read memory.beyond packet ipVhl (hl * 4))))
  let packet := put packet icmpHdr [type]
  let packet := put packet (icmpHdr + 1) [code]
  let packet := put packet (icmpHdr + 4) (bytes16 0)
  let packet := put packet (icmpHdr + 6) (bytes16 0)
  let packet := put packet (icmpHdr + 8) quoted
  let packet := put packet (icmpHdr + 2) (bytes16 0)
  put packet (icmpHdr + 2)
    (bytes16 (cksum (read memory.beyond packet icmpHdr sizeofIcmpT3Hdr)))

def sendEchoReply (handle : Nat → Sr Unit) (packet : Buf) (type code : UInt8)
    (rtEntry : SrRt) (interface : Option SrIf) : Sr Unit := do
  let packet ← store packet etherShost (List.replicate 6 0)
  let packet ← store packet etherDhost (List.replicate 6 0)
  let temp ← load32 memory packet ipDst
  let src ← load32 memory packet ipSrc
  let packet ← store packet ipDst (bytes32 src)
  let packet ← store packet ipSrc (bytes32 temp)
  let vhl ← load8 memory packet ipVhl
  let icmpHdr := sizeofEthernetHdr + headerLength vhl * 4
  let packet ← store packet icmpHdr [type]
  let packet ← store packet (icmpHdr + 1) [code]
  let packet ← store packet (icmpHdr + 2) (bytes16 0)
  let len ← load16 memory packet ipLen
  let vhl ← load8 memory packet ipVhl
  let data ← load memory packet icmpHdr
    ((ntohs len).toNat - headerLength vhl * 4)
  let packet ← store packet (icmpHdr + 2) (bytes16 (cksum data))
  sendOrQueue handle rtEntry.gw packet interface

/-- `new_ip_hdr->ip_src`: only the port error answers from the address asked. -/
def errorSource (packet : Buf) (code : UInt8) (interface : Option SrIf) :
    Sr UInt32 := do
  if code = icmpDestUnreachablePort then
    load32 memory packet ipDst
  else
    let interface ← dereference interface
    return interface.ip

def sendIcmpError (handle : Nat → Sr Unit) (packet : Buf) (type code : UInt8)
    (rtEntry : SrRt) (interface : Option SrIf) : Sr Unit := do
  let vhl ← load8 memory packet ipVhl
  let src ← errorSource memory packet code interface
  let dst ← load32 memory packet ipSrc
  let quoted ← load memory packet sizeofEthernetHdr icmpDataSize
  let newPacket :=
    icmpErrorPacket memory (headerLength vhl) type code src dst quoted
  sendOrQueue handle rtEntry.gw ⟨.newPacket, newPacket⟩ interface

def sendIcmpMsg (handle : Nat → Sr Unit) (packet : Buf) (type code : UInt8) :
    Sr Unit := do
  log (.icmp packet.tag type code)
  -- print_hdr_ip is given the frame, not its IP header
  touch packet 0 sizeofIpHdr
  let src ← load32 memory packet ipSrc
  let sr ← get
  match longestPrefixMatching sr.routingTable src with
  | none => return ()
  | some rtEntry =>
      let interface := srGetInterface sr.ifList rtEntry.interface
      if type = icmpTypeEchoReply then
        sendEchoReply memory handle packet type code rtEntry interface
      else if type = icmpTypeTimeExceeded ∨ type = icmpTypeDestUnreachable then
        sendIcmpError memory handle packet type code rtEntry interface
      else
        return ()

/-! ## ARP requests -/

def arpRequestFrame (interface : SrIf) (ip : UInt32) : Bytes :=
  List.replicate 6 0xff ++ interface.addr.toList ++
    bytes16 (htons ethertypeArp) ++
    bytes16 (htons arpHrdEthernet) ++ bytes16 (htons ethertypeIp) ++ [6, 4] ++
    bytes16 (htons arpOpRequest) ++
    interface.addr.toList ++ bytes32 interface.ip ++
    List.replicate 6 0 ++ bytes32 ip

def broadcastArpreq (request : SrArpreq) : Sr Unit :=
  match request.packets with
  | [] => throw .nullPacket
  | packet :: _ => do
      let sr ← get
      match srGetInterface sr.ifList packet.iface with
      | none => return ()
      | some interface =>
          log (.broadcast request.id sr.clock)
          let _ ← srSendPacket (arpRequestFrame interface request.ip)
            interface.name
          modify fun sr => sr.updateRequest request.id fun req =>
            { req with sent := sr.clock, timesSent := req.timesSent + 1 }

/-- The branch that gives up.  New errors are pushed in front of the list, so
the walk along `next` sees the packets that waited at its start.  It frees each of
them, and `sr_arpreq_destroy` would free them again. -/
def timeOutArpreq (handle : Nat → Sr Unit) (request : SrArpreq) : Sr Unit := do
  request.packets.forM fun packet =>
    sendIcmpMsg memory handle ⟨.packet packet.id, packet.buf⟩
      icmpTypeDestUnreachable icmpDestUnreachableHost
  match request.packets with
  | packet :: _ => throw (.freedTwice packet.id)
  | [] =>
      log (.timedOut request.id)
      srArpreqDestroy request.id

def handleArpreq : Nat → Nat → Sr Unit
  | 0, id => throw (.outOfFuel id)
  | depth + 1, id => do
      let sr ← get
      match sr.request? id with
      | none => throw .unknownRequest
      | some request =>
          if sr.clock - request.sent > 1 then
            if request.timesSent ≥ 5 then
              timeOutArpreq memory (handleArpreq depth) request
            else
              broadcastArpreq request
          else
            return ()

/-- The `while` of the sweep, `steps` iterations at most. -/
def sweepFrom (depth : Nat) : Nat → Option Nat → Sr Unit
  | _, none => return ()
  | 0, some cacheRequest => throw (.outOfFuel cacheRequest)
  | steps + 1, some cacheRequest => do
      let sr ← get
      let next := sr.next cacheRequest
      log (.swept cacheRequest (sr.requests.any fun req => req.id = cacheRequest))
      handleArpreq memory depth cacheRequest
      sweepFrom depth steps next

def srArpcacheSweepreqs (depth : Nat) : Sr Unit := do
  let sr ← get
  sweepFrom memory depth (sr.requests.length + 1)
    (sr.requests.head?.map SrArpreq.id)

def srArpcacheTimeout (depth : Nat) : Sr Unit := do
  modify fun sr => { sr with entries := expireMappings sr.entries sr.clock }
  srArpcacheSweepreqs memory depth

/-! ## Forwarding -/

def srForwardIpPacket (handle : Nat → Sr Unit) (packet : Buf) : Sr Unit := do
  touch packet ipDst 4
  let receivedChecksum ← load16 memory packet ipSum
  let packet ← store packet ipSum (bytes16 0)
  let header ← load memory packet sizeofEthernetHdr sizeofIpHdr
  if receivedChecksum ≠ cksum header then
    return ()
  let ttl ← load8 memory packet ipTtl
  if ttl ≤ 1 then
    sendIcmpMsg memory handle packet icmpTypeTimeExceeded 0
  else
    let packet ← store packet ipTtl [ttl - 1]
    let packet ← store packet ipSum (bytes16 0)
    let header ← load memory packet sizeofEthernetHdr sizeofIpHdr
    let packet ← store packet ipSum (bytes16 (cksum header))
    let dst ← load32 memory packet ipDst
    let sr ← get
    match longestPrefixMatching sr.routingTable dst with
    | none =>
        sendIcmpMsg memory handle packet icmpTypeDestUnreachable
          icmpDestUnreachableNet
    | some routingTableEntry =>
        sendOrQueue handle routingTableEntry.gw packet
          (srGetInterface sr.ifList routingTableEntry.interface)

/-! ## Received frames -/

/-- What the answer to an ARP request sets behind its Ethernet addresses. -/
def arpReplyFields (interface : SrIf) (sha sip : Bytes) : List (Nat × Bytes) :=
  [(etherType, bytes16 (htons ethertypeArp)),
    (arHrd, bytes16 (htons arpHrdEthernet)), (arPro, bytes16 (htons ethertypeIp)),
    (arHln, [6]), (arPln, [4]), (arOp, bytes16 (htons arpOpReply)),
    (arSha, interface.addr.toList), (arSip, bytes32 interface.ip),
    (arTha, sha), (arTip, sip)]

def replyToArpRequest (buf : Buf) (iface : Name) : Sr Unit := do
  let sr ← get
  let interface := srGetInterface sr.ifList iface
  let copy ← load memory buf 0 buf.bytes.length
  let requester ← load memory buf etherShost 6
  let reply ← store ⟨.arpReply, copy⟩ etherDhost requester
  let interface ← dereference interface
  let reply ← store reply etherShost interface.addr.toList
  let sha ← load memory buf arSha 6
  let sip ← load memory buf arSip 4
  let reply ← storeAll (arpReplyFields interface sha sip) reply
  let _ ← srSendPacket reply.bytes interface.name

/-- The body of the `while` over the packets that waited for a reply. -/
def sendWaiting (mac : Mac) (arpPacket : SrPacket) : Sr Unit := do
  let sr ← get
  match srGetInterface sr.ifList arpPacket.iface with
  | none => return ()
  | some interface =>
      let packet ← storeAll
        [(etherDhost, mac.toList), (etherShost, interface.addr.toList)]
        ⟨.packet arpPacket.id, arpPacket.buf⟩
      let _ ← srSendPacket packet.bytes arpPacket.iface

def acceptArpReply (buf : Buf) : Sr Unit := do
  touch buf arSha 6
  let mac : Mac := Vector.ofFn fun i => peek memory.beyond buf.bytes (arSha + i)
  let sip ← load32 memory buf arSip
  let arpEntry ← srArpcacheInsert mac sip
  match arpEntry with
  | none => return ()
  | some arpEntry =>
      log (.resolved arpEntry.id mac)
      arpEntry.packets.forM (sendWaiting mac)
      srArpreqDestroy arpEntry.id

def answerArpFrame (buf : Buf) (iface : Name) : Sr Unit := do
  let op ← load16 memory buf arOp
  let opcode := ntohs op
  if opcode = arpOpRequest then
    replyToArpRequest memory buf iface
  else if opcode = arpOpReply then
    acceptArpReply memory buf
  else
    return ()

def handleArpFrame (buf : Buf) (iface : Name) : Sr Unit := do
  let tip ← load32 memory buf arTip
  let outInterface ← srGetInterfaceByIp tip
  match outInterface with
  | none => return ()
  | some _ => answerArpFrame memory buf iface

def deliverLocally (handle : Nat → Sr Unit) (buf : Buf) : Sr Unit := do
  let protocol ← load8 memory buf ipP
  if protocol = ipProtocolIcmp then
    let vhl ← load8 memory buf ipVhl
    let type ← load8 memory buf (sizeofEthernetHdr + headerLength vhl * 4)
    if type = icmpTypeEchoRequest then
      sendIcmpMsg memory handle buf icmpTypeEchoReply 0
    else
      return ()
  else if protocol = ipProtocolTcp ∨ protocol = ipProtocolUdp then
    sendIcmpMsg memory handle buf icmpTypeDestUnreachable
      icmpDestUnreachablePort
  else
    return ()

def handleIpFrame (handle : Nat → Sr Unit) (buf : Buf) : Sr Unit := do
  if buf.bytes.length < sizeofEthernetHdr + sizeofIpHdr then
    return ()
  let originalSum ← load16 memory buf ipSum
  let cleared ← store buf ipSum (bytes16 0)
  let vhl ← load8 memory cleared ipVhl
  let header ← load memory cleared sizeofEthernetHdr (headerLength vhl * 4)
  if cksum header ≠ originalSum then
    return ()
  let buf ← store cleared ipSum (bytes16 originalSum)
  let ttl ← load8 memory buf ipTtl
  if ttl ≤ 1 then
    sendIcmpMsg memory handle buf icmpTypeTimeExceeded 0
  else
    let dst ← load32 memory buf ipDst
    let interface ← srGetInterfaceByIp dst
    match interface with
    | some _ => deliverLocally memory handle buf
    | none => srForwardIpPacket memory handle buf

def srHandlepacket (depth : Nat) (buf : Buf) (iface : Name) : Sr Unit := do
  if buf.bytes.length < sizeofEthernetHdr then
    return ()
  let type ← load16 memory buf etherType
  let ethertype := ntohs type
  if ethertype = ethertypeArp then
    handleArpFrame memory buf iface
  else if ethertype = ethertypeIp then
    handleIpFrame memory (handleArpreq memory depth) buf
  else
    return ()

/-- The `VNSPACKET` case of `sr_read_from_server_expect`: filter, then handle. -/
def receiveFrame (depth : Nat) (frame : Bytes) (iface : Name) : Sr Unit := do
  let buf : Buf := ⟨.frame, frame⟩
  let notForUs ← srArpReqNotForUs memory buf iface
  if notForUs then
    return ()
  else
    srHandlepacket memory depth buf iface

end Cmput313.Router
