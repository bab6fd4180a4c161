import Cmput313.Pox.Lengths

/-!
# The server of the router's messages

`srhandler.py`: what `SRServerListener` keeps, and what each of its handlers sends, closes
and raises.  A connection is the number of clients that were accepted before it; a
dictionary is the function that it looks up.
-/

set_option autoImplicit false

namespace Cmput313.Pox

/-! ## Addresses in text -/

def isPySpace (char : UInt8) : Bool := char == 32 || (9 ≤ char && char ≤ 13)

def digitOf (base : Nat) (char : UInt8) : Option Nat :=
  let value :=
    if 48 ≤ char ∧ char ≤ 57 then some (char.toNat - 48)
    else if 97 ≤ char ∧ char ≤ 102 then some (char.toNat - 87)
    else if 65 ≤ char ∧ char ≤ 70 then some (char.toNat - 55)
    else none
  value.filter (· < base)

def digits (base : Nat) (text : Str) : List Nat × Str :=
  ((text.takeWhile fun char => (digitOf base char).isSome).filterMap (digitOf base),
    text.dropWhile fun char => (digitOf base char).isSome)

def withoutPrefix (base : Nat) : Str → Str
  | 48 :: x :: char :: rest =>
      if base = 16 ∧ (x = 120 ∨ x = 88) ∧ (digitOf 16 char).isSome then char :: rest
      else 48 :: x :: char :: rest
  | text => text

/-- `int(text, base)`, for the bases 10 and 16. -/
def pyInt (base : Nat) (text : Str) : Option Int :=
  let (negative, text) :=
    match text.dropWhile isPySpace with
    | 45 :: rest => (true, rest)
    | 43 :: rest => (false, rest)
    | rest => (false, rest)
  let (number, rest) := digits base (withoutPrefix base text)
  if number = [] ∨ rest.dropWhile isPySpace ≠ [] then none
  else
    let value := number.foldl (fun value digit => base * value + digit) 0
    some (if negative then -(value : Int) else value)

def pyChr (number : Int) : Option UInt8 :=
  if 0 ≤ number ∧ number < 256 then some (UInt8.ofNat number.toNat) else none

def packOctets (separator : UInt8) (base : Nat) (text : Str) : Option Str :=
  (text.splitOn separator).mapM fun octet => (pyInt base octet).bind pyChr

def packMac (macaddr : Str) : Option Str := packOctets 58 16 macaddr

def packIp (ipaddr : Str) : Option Str := packOctets 46 10 ipaddr

/-- `VNSInterface(intf, mac, ip, mask)`, whose constructor refuses other lengths. -/
def VnsInterface.init (name mac ip mask : Str) : Option VnsInterface :=
  if sized : mac.length = 6 ∧ ip.length = 4 ∧ mask.length = 4 then
    some ⟨name, ⟨mac.toArray, sized.1⟩, ⟨ip.toArray, sized.2.1⟩, ⟨mask.toArray, sized.2.2⟩⟩
  else none

/-! ## The listener -/

abbrev Conn := Nat

structure IntfInfo where
  ip : Str
  mac : Str
  rate : Str
  port : Nat
  deriving DecidableEq

/-- `interfaces` is not there before the first `RouterInfo`. -/
structure SrServerListener where
  srclients : List Conn
  intfnameToPort : Str → Option Nat
  portToIntfname : Nat → Option Str
  interfaces : Option (List VnsInterface)

def SrServerListener.init : SrServerListener where
  srclients := []
  intfnameToPort := fun _ => none
  portToIntfname := fun _ => none
  interfaces := none

inductive Effect where
  | send (conn : Conn) (message : LtMessage)
  | sendText (conn : Conn) (text : Str)
  | loseConnection (conn : Conn)
  | packetOut (pkt : Str) (port : Nat)

def Effect.out? : Effect → Option (Str × Nat)
  | .packetOut pkt port => some (pkt, port)
  | _ => none

structure Handled where
  effects : List Effect
  raised : Bool

namespace SrServerListener

variable (listener : SrServerListener)

/-! ### `_handle_RouterInfo` -/

def hostMask : Str :=
  [50, 53, 53, 46, 50, 53, 53, 46, 50, 53, 53, 46, 50, 53, 53]

/-- The loop's body for one interface; `none` where an exception leaves it, before it
changes a dictionary. -/
def learn (intf : Str) (info : IntfInfo) : Option (VnsInterface × SrServerListener) := do
  let ip ← packIp info.ip
  let mac ← packMac info.mac
  let mask ← packIp hostMask
  let interface ← VnsInterface.init intf mac ip mask
  return (interface,
    { listener with
      intfnameToPort := Function.update listener.intfnameToPort intf (some info.port)
      portToIntfname := Function.update listener.portToIntfname info.port (some intf) })

/-! ### `_handle_SRPacketIn` -/

def srPacketIn (port : Nat) (pkt : Str) : Option VnsPacket :=
  (listener.portToIntfname port).map fun intfname => ⟨intfname, pkt⟩

/-! ### The clients -/

/-- The two halves of `_handle_new_client`: other threads may run between them. -/
def appendClient (conn : Conn) : SrServerListener :=
  { listener with srclients := listener.srclients ++ [conn] }

def requestAuth (conn : Conn) (salt : Str) : Effect :=
  .send conn (.decodable (.vnsAuthRequest ⟨salt⟩))

def authMsg (connText : Str) : Str :=
  [97, 117, 116, 104, 101, 110, 116, 105, 99, 97, 116, 101, 100, 32] ++ connText ++
    [32, 97, 115, 32, 117, 115, 101, 114]

def handleAuthReply (conn : Conn) (connText : Str) : Handled :=
  ⟨[.send conn (.decodable (.vnsAuthStatus ⟨true, authMsg connText⟩))], false⟩

def handleClientDisconnected (conn : Conn) : Handled := ⟨[.loseConnection conn], false⟩

/-- Without interfaces the exception is caught. -/
def handleOpenMsg (conn : Conn) : Handled :=
  match listener.interfaces with
  | some interfaces => ⟨[.send conn (.vnsHardwareInfo interfaces)], false⟩
  | none => ⟨[], false⟩

def goodbyte : Str := [71, 111, 111, 100, 98, 121, 116, 101, 33]

def handleCloseMsg (conn : Conn) : Handled :=
  ⟨[.sendText conn goodbyte, .loseConnection conn], false⟩

/-- The line that logs an unknown name reads `out_port`, which has no value there. -/
def handlePacketMsg (packet : VnsPacket) : Handled :=
  match listener.intfnameToPort packet.intfName with
  | some outPort => ⟨[.packetOut packet.ethernetFrame outPort], false⟩
  | none => ⟨[], true⟩

/-- There is no `_handle_open_template_msg` to call. -/
def handleRecvMsg (conn : Conn) (connText : Str) : Option VnsMessage → Handled
  | none => handleCloseMsg conn
  | some (.vnsAuthReply _) => handleAuthReply conn connText
  | some (.vnsOpen _) => listener.handleOpenMsg conn
  | some (.vnsClose _) => handleCloseMsg conn
  | some (.vnsPacket packet) => listener.handlePacketMsg packet
  | some (.vnsOpenTemplate _) => ⟨[], true⟩
  | some _ => ⟨[], false⟩

end SrServerListener

end Cmput313.Pox
