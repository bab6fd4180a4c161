import Cmput313.Lib.Fifo
import Cmput313.Lib.Machine
import Cmput313.Pox.SrHandler
import Cmput313.Router.ArpRequests
import Cmput313.Router.Connecting

/-!
# The server and its routers

The server of `srhandler.py` with any number of router processes, each on a connection of
its own.  The server has two threads: one takes the messages of the routers, the other the
events of the switches.  Between any two of its statements that others can see, the other
thread and the processes may take steps.  A connection may be lost at any time, and where an
exception leaves the handler of a message.
-/

set_option autoImplicit false

namespace Cmput313.Network

open Cmput313.Bytes Cmput313.Machine Cmput313.Pox Cmput313.Router

/-! ## Messages -/

def wireBytes (message : LtMessage) : Option Str :=
  message.pack.bind fun body =>
    if 8 + body.length < 2 ^ 32 then some (ltMessage message.getType body) else none

def packet? : LtMessage → Option VnsPacket
  | .decodable (.vnsPacket packet) => some packet
  | _ => none

def packetMessageOf (packet : VnsPacket) : LtMessage := .decodable (.vnsPacket packet)

def decode (bytes : Str) : Option Pox.VnsMessage :=
  Pox.VnsMessage.unpackAs (ntohl (peek32 (fun _ => 0) bytes 4)) (bytes.drop 8)

/-! ## States -/

structure Link where
  process : Process
  phase : Phase
  sr : SrInstance
  toRouter : Fifo LtMessage
  toServer : Fifo Str

/-- No interface is known yet.  `routingTable` is what `main` loads before it connects; it
loads the same file again before its main loop. -/
def Link.init (process : Process) (routingTable : List SrRt) (now : Int) : Link where
  process := process
  phase := .authRequest
  sr := srArpcacheInit [] routingTable now
  toRouter := .empty
  toServer := .empty

/-- Where the thread of the switches stands: the loop of `broadcast` before its next client,
or that of `_handle_RouterInfo` before its next interface. -/
inductive Task where
  | idle
  | broadcasting (packet : VnsPacket) (next : Nat)
  | learning (rest : List (Str × IntfInfo)) (interfaces : List VnsInterface)

/-- The connections that Twisted found gone, each with the number of messages that were sent
on it until then, and those on which the server called `loseConnection`. -/
structure Endings where
  lost : List (Conn × Nat)
  closed : List Conn

/-- `requesting` is the client that was added and not yet asked to authenticate; `packetOuts`
are the packets for the switch so far, each with the connection it came from. -/
structure Net where
  listener : SrServerListener
  task : Task
  requesting : Option Conn
  links : List Link
  packetOuts : List (Conn × Str × Nat)
  endings : Endings

def Net.init : Net where
  listener := .init
  task := .idle
  requesting := none
  links := []
  packetOuts := []
  endings := ⟨[], []⟩

/-! ## Steps -/

/-- `drops` is whether an exception that leaves the handler gets through `LTProtocol` to
Twisted, which then gives the connection up. -/
inductive NetEvent where
  | connect (process : Process) (routingTable : List SrRt) (now : Int)
  | requestAuth (salt : Str)
  | receive (conn : Conn) (connText : Str) (drops : Bool)
  | disconnected (conn : Conn)
  | packetIn (port : Nat) (pkt : Str)
  | broadcastNext
  | routerInfo (info : List (Str × IntfInfo))
  | learnNext
  | reads (conn : Conn) (now : Int)
  | timesOut (conn : Conn) (now : Int)

namespace Net

variable (net : Net)

def send (conn : Conn) (message : LtMessage) : Net :=
  if (wireBytes message).isSome then
    { net with
      links := net.links.modify conn fun link =>
        { link with toRouter := link.toRouter.send message } }
  else net

/-- What `LTProtocol` makes of a `str` cannot be read here; what is to be closed is kept. -/
def apply (source : Conn) : Effect → Net
  | .send conn message => net.send conn message
  | .sendText _ _ => net
  | .loseConnection conn =>
      { net with endings := { net.endings with closed := net.endings.closed ++ [conn] } }
  | .packetOut pkt port => { net with packetOuts := net.packetOuts ++ [(source, pkt, port)] }

def applyAll (source : Conn) (effects : List Effect) : Net :=
  effects.foldl (fun net effect => net.apply source effect) net

def setLink (conn : Conn) (link : Link) : Net :=
  { net with links := net.links.set conn link }

def isLost (conn : Conn) : Bool := net.endings.lost.any fun ending => ending.1 = conn

/-- A connection is gone, and `_handle_client_disconnected` is called. -/
def lose (conn : Conn) : Net :=
  let sent := net.links[conn]?.elim 0 fun link => link.toRouter.sent.length
  Net.applyAll
    { net with endings := { net.endings with lost := net.endings.lost ++ [(conn, sent)] } } conn
    (SrServerListener.handleClientDisconnected conn).effects

/-- Behind what was sent until it was lost, a connection is the end of a stream: there a
process calls `recv` for ever. -/
def arrives (conn : Conn) (link : Link) : Bool :=
  net.endings.lost.all fun ending => ending.1 = conn → link.toRouter.taken.length < ending.2

def connect (process : Process) (routingTable : List SrRt) (now : Int) : Option Net :=
  if net.requesting = none then
    some { net with
      listener := net.listener.appendClient net.links.length
      requesting := some net.links.length
      links := net.links ++ [Link.init process routingTable now] }
  else none

def requestAuth (salt : Str) : Option Net :=
  if salt.length = 20 then
    net.requesting.map fun conn =>
      Net.apply { net with requesting := none } conn (SrServerListener.requestAuth conn salt)
  else none

/-- The text of a connection fits into a message. -/
def receive (conn : Conn) (connText : Str) (drops : Bool) : Option Net :=
  if net.requesting = none ∧ connText.length ≤ 9969 ∧ net.isLost conn = false then do
    let link ← net.links[conn]?
    let (bytes, toServer) ← link.toServer.take
    let handled := net.listener.handleRecvMsg conn connText (decode bytes)
    let next := (net.setLink conn { link with toServer := toServer }).applyAll conn
      handled.effects
    return if handled.raised && drops then next.lose conn else next
  else none

def disconnected (conn : Conn) : Option Net :=
  if net.requesting = none ∧ conn < net.links.length ∧ net.isLost conn = false then
    some (net.lose conn)
  else none

/-- A packet of the switch has at most 65535 bytes. -/
def packetIn (port : Nat) (pkt : Str) : Option Net :=
  match net.task with
  | .idle =>
      if pkt.length ≤ 65535 then
        match net.listener.srPacketIn port pkt with
        | some packet => some { net with task := .broadcasting packet 0 }
        | none => some net
      else none
  | _ => none

def broadcastNext : Option Net :=
  match net.task with
  | .broadcasting packet next =>
      match net.listener.srclients[next]? with
      | some conn => some
          { net.send conn (packetMessageOf packet) with
            task := .broadcasting packet (next + 1) }
      | none => some { net with task := .idle }
  | _ => none

def routerInfo (info : List (Str × IntfInfo)) : Option Net :=
  match net.task with
  | .idle => some { net with task := .learning info [] }
  | _ => none

def learnNext : Option Net :=
  match net.task with
  | .learning [] interfaces => some
      { net with
        task := .idle
        listener := { net.listener with interfaces := some interfaces } }
  | .learning ((intf, info) :: rest) interfaces =>
      match net.listener.learn intf info with
      | some (interface, listener) => some
          { net with task := .learning rest (interfaces ++ [interface]), listener := listener }
      | none => some { net with task := .idle }
  | _ => none

def turned (conn : Conn) (link : Link) (toRouter : Fifo LtMessage) (turn : Process.Turn) : Net :=
  net.setLink conn
    { link with
      phase := turn.phase
      sr := turn.sr
      toRouter := toRouter
      toServer := link.toServer.sendAll turn.written }

def reads (conn : Conn) (now : Int) : Option Net := do
  let link ← net.links[conn]?
  if net.arrives conn link then
    let (message, toRouter) ← link.toRouter.take
    let bytes ← wireBytes message
    let turn ← link.process.reads now link.phase link.sr bytes
    return net.turned conn link toRouter turn
  else none

def timesOut (conn : Conn) (now : Int) : Option Net := do
  let link ← net.links[conn]?
  if link.phase = .running then
    return net.turned conn link link.toRouter (link.process.timesOut now link.sr)
  else none

def step : NetEvent → Option Net
  | .connect process routingTable now => net.connect process routingTable now
  | .requestAuth salt => net.requestAuth salt
  | .receive conn connText drops => net.receive conn connText drops
  | .disconnected conn => net.disconnected conn
  | .packetIn port pkt => net.packetIn port pkt
  | .broadcastNext => net.broadcastNext
  | .routerInfo info => net.routerInfo info
  | .learnNext => net.learnNext
  | .reads conn now => net.reads conn now
  | .timesOut conn now => net.timesOut conn now

end Net

/-! ## What a step can do -/

section Cases

variable {net next : Net} {conn : Conn}

theorem connect_cases {process : Process} {routingTable : List SrRt} {now : Int}
    (taken : net.connect process routingTable now = some next) :
    net.requesting = none ∧
      next = { net with
        listener := net.listener.appendClient net.links.length
        requesting := some net.links.length
        links := net.links ++ [Link.init process routingTable now] } := by
  rw [Net.connect, Option.ite_none_right_eq_some] at taken
  exact ⟨taken.1, (Option.some.inj taken.2).symm⟩

theorem requestAuth_cases {salt : Str} (taken : net.requestAuth salt = some next) :
    salt.length = 20 ∧ ∃ conn, net.requesting = some conn ∧
      next = Net.send { net with requesting := none } conn
        (.decodable (.vnsAuthRequest ⟨salt⟩)) := by
  rw [Net.requestAuth, Option.ite_none_right_eq_some] at taken
  obtain ⟨conn, asked, rfl⟩ := Option.map_eq_some_iff.mp taken.2
  exact ⟨taken.1, conn, asked, rfl⟩

/-- The server took the next message of a connection and handled it; if an exception left the
handler, it may have lost the connection. -/
structure Received (net : Net) (conn : Conn) (connText : Str) (drops : Bool) (link : Link)
    (bytes : Str) (toServer : Fifo Str) (handled next : Net) : Prop where
  idle : net.requesting = none
  short : connText.length ≤ 9969
  open_ : net.isLost conn = false
  there : net.links[conn]? = some link
  took : link.toServer.take = some (bytes, toServer)
  handles : handled = (net.setLink conn { link with toServer := toServer }).applyAll conn
    (net.listener.handleRecvMsg conn connText (decode bytes)).effects
  ends : next =
    if (net.listener.handleRecvMsg conn connText (decode bytes)).raised && drops then
      handled.lose conn
    else handled

theorem receive_cases {connText : Str} {drops : Bool}
    (taken : net.receive conn connText drops = some next) :
    ∃ link bytes toServer handled,
      Received net conn connText drops link bytes toServer handled next := by
  rw [Net.receive, Option.ite_none_right_eq_some] at taken
  obtain ⟨⟨idle, short, open_⟩, rest⟩ := taken
  obtain ⟨link, there, rest⟩ := Option.bind_eq_some_iff.mp rest
  obtain ⟨⟨bytes, toServer⟩, took, rest⟩ := Option.bind_eq_some_iff.mp rest
  exact ⟨link, bytes, toServer, _, idle, short, open_, there, took, rfl,
    (Option.some.inj rest).symm⟩

theorem disconnected_cases (taken : net.disconnected conn = some next) :
    net.requesting = none ∧ conn < net.links.length ∧ net.isLost conn = false ∧
      next = net.lose conn := by
  rw [Net.disconnected, Option.ite_none_right_eq_some] at taken
  exact ⟨taken.1.1, taken.1.2.1, taken.1.2.2, (Option.some.inj taken.2).symm⟩

theorem routerInfo_cases {info : List (Str × IntfInfo)}
    (taken : net.routerInfo info = some next) :
    net.task = .idle ∧ next = { net with task := .learning info [] } := by
  rw [Net.routerInfo] at taken
  split at taken
  · next idle => exact ⟨idle, (Option.some.inj taken).symm⟩
  · cases taken

theorem reads_cases {now : Int} (taken : net.reads conn now = some next) :
    ∃ link message toRouter bytes turn, net.links[conn]? = some link ∧
      net.arrives conn link = true ∧ link.toRouter.take = some (message, toRouter) ∧
      wireBytes message = some bytes ∧
      link.process.reads now link.phase link.sr bytes = some turn ∧
      next = net.turned conn link toRouter turn := by
  obtain ⟨link, there, rest⟩ := Option.bind_eq_some_iff.mp taken
  rw [Option.ite_none_right_eq_some] at rest
  obtain ⟨arrives, rest⟩ := rest
  obtain ⟨⟨message, toRouter⟩, took, rest⟩ := Option.bind_eq_some_iff.mp rest
  obtain ⟨bytes, wired, rest⟩ := Option.bind_eq_some_iff.mp rest
  obtain ⟨turn, turned, rest⟩ := Option.bind_eq_some_iff.mp rest
  exact ⟨link, message, toRouter, bytes, turn, there, arrives, took, wired, turned,
    (Option.some.inj rest).symm⟩

theorem timesOut_cases {now : Int} (taken : net.timesOut conn now = some next) :
    ∃ link, net.links[conn]? = some link ∧ link.phase = .running ∧
      next = net.turned conn link link.toRouter (link.process.timesOut now link.sr) := by
  obtain ⟨link, there, rest⟩ := Option.bind_eq_some_iff.mp taken
  rw [Option.ite_none_right_eq_some] at rest
  exact ⟨link, there, rest.1, (Option.some.inj rest.2).symm⟩

end Cases

/-! ## Small nets

One interface behind port 1, and a process that connects first and has no key.
-/

def keyless : Process where
  memory := noMemory
  depth := 0
  opensRtable := fun _ => false
  stack := Vector.replicate 65 0
  context :=
    { messageDigest := ⟨0, 0, 0, 0, 0⟩
      lengthLow := 0
      lengthHigh := 0
      messageBlock := Vector.replicate 64 0
      messageBlockIndex := 0
      computed := false
      corrupted := false }
  authKey := none
  user := []
  host := []
  template := []
  topoId := 0

def eth0Info : Pox.IntfInfo where
  ip := [49, 48, 46, 48, 46, 48, 46, 49]
  mac := [50, 58, 48, 58, 48, 58, 48, 58, 48, 58, 49]
  rate := []
  port := 1

def keylessNet : Net where
  listener := Pox.SrServerListener.init.appendClient 0
  task := .idle
  requesting := some 0
  links := [Link.init keyless [] 0]
  packetOuts := []
  endings := ⟨[], []⟩

theorem connect_keylessNet : Net.init.connect keyless [] 0 = some keylessNet := rfl

/-- The interface is learned, and a frame goes to the client before its request does. -/
def earlyFrame : List NetEvent :=
  [.routerInfo [(eth0.name, eth0Info)], .learnNext, .learnNext,
    .packetIn 1 (List.replicate 42 0), .broadcastNext]

/-! ### A process with a key

The second interface, `10.0.1.1` behind port 2, has a name of 17 octets, of which a message
carries 16.
-/

def keyedProcess : Process :=
  { keyless with
    depth := 1
    authKey := some [115, 101, 99, 114, 101, 116, 10]
    user := [117]
    host := [104] }

def uplink : Name := [98, 97, 99, 107, 98, 111, 110, 101, 45, 117, 112, 108, 105, 110, 107, 45, 49]

def uplinkInfo : Pox.IntfInfo where
  ip := [49, 48, 46, 48, 46, 49, 46, 49]
  mac := [50, 58, 48, 58, 48, 58, 48, 58, 49, 58, 49]
  rate := []
  port := 2

def uplinkRoute : SrRt where
  dest := htonl 0x0a000100
  gw := htonl 0x0a000109
  mask := htonl 0xffffff00
  interface := uplink

def uplinkDatagram : Bytes :=
  [2, 0, 0, 0, 0, 1, 2, 0, 0, 0, 0, 2, 8, 0,
    0x45, 0, 0, 20, 0, 0, 0, 0, 64, 0xfd, 0x64, 0xe9, 10, 0, 0, 2, 10, 0, 1, 3]

def switchConnects : List NetEvent :=
  [.routerInfo [(eth0.name, eth0Info), (uplink, uplinkInfo)], .learnNext, .learnNext, .learnNext]

/-- Until the process has the hardware information. -/
def registers : List NetEvent :=
  [.requestAuth (List.replicate 20 0), .reads 0 100, .receive 0 [] true, .reads 0 100,
    .receive 0 [] true, .reads 0 100]

/-- A frame goes up to the only client, which answers at once. -/
def answers (frame : Str) : List NetEvent :=
  [.packetIn 1 frame, .broadcastNext, .broadcastNext, .reads 0 100, .receive 0 [] true]

/-- The process answers an ARP request, asks for a gateway, sends a datagram to it, and asks
for the gateway behind the second interface. -/
def lanSession : List NetEvent :=
  registers ++ answers whoHasRouter ++ answers datagram ++ answers (arpReplyFrom 9 9) ++
    answers uplinkDatagram

def lanRun : List NetEvent :=
  switchConnects ++ .connect keyedProcess [lanRoute, uplinkRoute] 100 :: lanSession

def learned : Net := runEnd Net.step .init switchConnects

theorem learned_reached : run Net.step .init switchConnects = some learned :=
  run_eq_runEnd (by decide)

def connected : Net :=
  { learned with
    listener := learned.listener.appendClient 0
    requesting := some 0
    links := [Link.init keyedProcess [lanRoute, uplinkRoute] 100] }

theorem connect_learned :
    learned.connect keyedProcess [lanRoute, uplinkRoute] 100 = some connected := rfl

def lanEnd : Net := runEnd Net.step connected lanSession

theorem lanEnd_goes : run Net.step connected lanSession = some lanEnd :=
  run_eq_runEnd (by decide +kernel)

theorem lanEnd_reached : run Net.step .init lanRun = some lanEnd := by
  rw [lanRun, run_append learned_reached, run, Net.step, connect_learned, Option.bind_some]
  exact lanEnd_goes

/-- Three frames left by port 1, the message of the fourth raised an exception. -/
theorem lanEnd_sent : lanEnd.packetOuts.map (fun out => out.2.2) = [1, 1, 1] ∧
    lanEnd.isLost 0 = true ∧ lanEnd.links.length = 1 := by decide +kernel

def lanLink : Link := lanEnd.links.get ⟨0, Nat.lt_of_lt_of_eq Nat.zero_lt_one lanEnd_sent.2.2.symm⟩

theorem lanLink_there : lanEnd.links[0]? = some lanLink := by
  rw [lanLink, List.get_eq_getElem]
  exact List.getElem?_eq_getElem _

end Cmput313.Network
