import Cmput313.Network.Net

/-!
# How a session opens

What the server decodes of everything that a process writes, and how a process answers each
message that the server sends.
-/

set_option autoImplicit false

namespace Cmput313.Network

open Cmput313.Bytes Cmput313.Pox Cmput313.Program Cmput313.Router
  Cmput313.StructPack

/-! ## What the server decodes -/

theorem decode_framed (length type : UInt32) (body : Str) :
    decode (packI length ++ packI type ++ body) = Pox.VnsMessage.unpackAs type body := by
  have word := peek32_append_packI (fun _ => 0) (packI length) body type
  have found : ntohl (peek32 (fun _ => 0) (packI length ++ packI type ++ body) 4) = type :=
    (congrArg swap32 word).trans (swap32_swap32 type)
  have behind : (packI length ++ packI type ++ body).drop 8 = body := List.drop_left' rfl
  rw [decode, found, behind]

theorem stripNullChars_strncpy (limit : Nat) (name : Name) :
    stripNullChars (strncpy limit name) = cString limit name := by
  have kept : (cString limit name).filter (· ≠ 0) = cString limit name := by
    rw [List.filter_eq_self]
    intro char member
    rw [cString] at member
    exact @List.mem_takeWhile_imp _ (fun char => decide (char ≠ 0)) _ _ member
  have dropped : ∀ count, (List.replicate count (0 : UInt8)).filter (· ≠ 0) = [] := by
    intro count
    rw [List.filter_eq_nil_iff]
    intro char member
    simp [List.eq_of_mem_replicate member]
  rw [stripNullChars, strncpy, List.filter_append, kept, dropped, List.append_nil]

theorem decode_authReply (memory : Memory) {user : Name} (short : user.length < 2 ^ 32)
    (words : Sha1.Words) :
    decode (authReply memory user words) =
      some (.vnsAuthReply ⟨user, digestOctets words⟩) := by
  have unpacked := unpack_authReply memory short words
  have framed : authReply memory user words =
      packI (UInt32.ofNat (sizeofAuthReply + user.length + sha1Len)) ++ packI vnsAuthReply ++
        (authReply memory user words).drop sizeofBase := by
    rw [authReply_eq]
    simp only [List.append_assoc]
    rfl
  rw [framed, decode_framed]
  exact congrArg (Option.map Pox.VnsMessage.vnsAuthReply) unpacked

theorem unpackUnsigned_htons (word : UInt16) :
    unpackUnsigned (bytes16 (htons word)) = word.toNat := by
  have bound := word.toNat_lt
  have low : (UInt8.ofNat (swap16 word).toNat).toNat = word.toNat / 256 := by
    rw [UInt8.toNat_ofNat', toNat_swap16]
    omega
  have high : (UInt8.ofNat ((swap16 word).toNat / 256)).toNat = word.toNat % 256 := by
    have byte : word.toNat / 256 < 256 := by omega
    rw [UInt8.toNat_ofNat', toNat_swap16, Nat.add_mul_div_left _ _ (by decide),
      Nat.div_eq_of_lt byte]
    omega
  simp only [htons, bytes16, unpackUnsigned, List.foldl_cons, List.foldl_nil, low, high]
  omega

theorem slice_append {front field back : Str} {offset size : Nat} (starts : front.length = offset)
    (sized : field.length = size) : slice offset size (front ++ (field ++ back)) = field := by
  rw [slice, List.drop_left' starts, List.take_left' sized]

theorem decode_openMessage (topoId : UInt16) (host user : Name) :
    decode (openMessage topoId host user) =
      some (.vnsOpen ⟨topoId.toNat, cString idsize host, cString idsize user, []⟩) := by
  have framed : openMessage topoId host user = packI 108 ++ packI vnsOpen ++
      (bytes16 (htons topoId) ++ ([0, 0] ++ (strncpy idsize host ++ (strncpy idsize user ++
        List.replicate idsize 0)))) := by
    simp only [openMessage, List.append_assoc]
  have whole : (bytes16 (htons topoId) ++ ([0, 0] ++ (strncpy idsize host ++
      (strncpy idsize user ++ List.replicate idsize 0)))).length = VnsOpen.size := by
    simp only [List.length_append, bytes16_length, strncpy_length, List.length_replicate,
      List.length_cons, List.length_nil]
    rfl
  have topology : slice 0 2 (bytes16 (htons topoId) ++ ([0, 0] ++ (strncpy idsize host ++
      (strncpy idsize user ++ List.replicate idsize 0)))) = bytes16 (htons topoId) :=
    @slice_append [] (bytes16 (htons topoId)) _ 0 2 rfl rfl
  have hostField : slice 4 32 (bytes16 (htons topoId) ++ ([0, 0] ++ (strncpy idsize host ++
      (strncpy idsize user ++ List.replicate idsize 0)))) = strncpy idsize host :=
    @slice_append (bytes16 (htons topoId) ++ [0, 0]) _ _ 4 32 rfl (strncpy_length _ _)
  have userField : slice 36 32 (bytes16 (htons topoId) ++ ([0, 0] ++ (strncpy idsize host ++
      (strncpy idsize user ++ List.replicate idsize 0)))) = strncpy idsize user := by
    rw [← List.append_assoc [0, 0], ← List.append_assoc]
    exact slice_append (by simp [idsize]) (strncpy_length _ _)
  have password : slice 68 32 (bytes16 (htons topoId) ++ ([0, 0] ++ (strncpy idsize host ++
      (strncpy idsize user ++ List.replicate idsize 0)))) = List.replicate idsize 0 := by
    rw [← List.append_assoc (strncpy idsize host), ← List.append_assoc [0, 0],
      ← List.append_assoc, ← List.append_nil (List.replicate idsize 0)]
    exact slice_append (by simp [idsize]) List.length_replicate
  rw [framed, decode_framed]
  show (VnsOpen.unpack _).map _ = _
  rw [VnsOpen.unpack, if_pos whole, idSize, topology, hostField, userField, password,
    unpackUnsigned_htons, stripNullChars_strncpy, stripNullChars_strncpy]
  rfl

/-- The server adds the filter that lets everything through. -/
theorem decode_openTemplateMessage (template host : Name) :
    decode (openTemplateMessage template host) =
      some (.vnsOpenTemplate (.init (cString 30 template) (cString idsize host) [])) := by
  have framed : openTemplateMessage template host = packI 70 ++ packI vnsOpenTemplate ++
      (strncpy 30 template ++ (strncpy idsize host ++ [])) := by
    simp only [openTemplateMessage, List.append_assoc, List.append_nil]
  have templateField : slice 0 30 (strncpy 30 template ++ (strncpy idsize host ++ [])) =
      strncpy 30 template := @slice_append [] _ _ 0 30 rfl (strncpy_length _ _)
  have hostField : slice 30 32 (strncpy 30 template ++ (strncpy idsize host ++ [])) =
      strncpy idsize host := slice_append (strncpy_length _ _) (strncpy_length _ _)
  have whole : (strncpy 30 template ++ (strncpy idsize host ++ [])).length =
      VnsOpenTemplate.headerSize := by
    simp only [List.length_append, strncpy_length, List.length_nil]
    rfl
  have header : ((strncpy 30 template ++ (strncpy idsize host ++ [])).take
      VnsOpenTemplate.headerSize).length = VnsOpenTemplate.headerSize := by
    rw [List.take_of_length_le (Nat.le_of_eq whole), whole]
  have behind : (strncpy 30 template ++ (strncpy idsize host ++ [])).drop
      VnsOpenTemplate.headerSize = [] := List.drop_eq_nil_of_le (Nat.le_of_eq whole)
  rw [framed, decode_framed]
  show (VnsOpenTemplate.unpack _).map _ = _
  rw [VnsOpenTemplate.unpack, if_pos header, behind, idSize, templateField, hostField,
    stripNullChars_strncpy, stripNullChars_strncpy]
  rfl

theorem decode_packetMessage (buf : Str) (iface : Name) :
    decode (packetMessage buf iface) = some (.vnsPacket ⟨cString 16 iface, buf⟩) := by
  have framed : packetMessage buf iface = packI (UInt32.ofNat (buf.length + 24)) ++
      packI vnsPacket ++ (strncpy 16 iface ++ buf) := by
    simp only [packetMessage, htonl, packI_eq, List.append_assoc]
  have header : (strncpy 16 iface ++ buf).take VnsPacket.headerSize = strncpy 16 iface :=
    List.take_left' (strncpy_length _ _)
  have behind : (strncpy 16 iface ++ buf).drop VnsPacket.headerSize = buf :=
    List.drop_left' (strncpy_length _ _)
  rw [framed, decode_framed]
  show (VnsPacket.unpack _).map _ = _
  rw [VnsPacket.unpack, header, behind, VnsPacket.headerSize, if_pos (strncpy_length 16 iface),
    stripNullChars_strncpy]
  rfl

/-! ## What a process makes of the messages of the server -/

inductive Served : LtMessage → Prop where
  | authRequest {salt : Str} (sized : salt.length = 20) :
      Served (.decodable (.vnsAuthRequest ⟨salt⟩))
  | authStatus {msg : Str} (short : msg.length ≤ 9991) :
      Served (.decodable (.vnsAuthStatus ⟨true, msg⟩))
  | hardwareInfo (interfaces : List VnsInterface) : Served (.vnsHardwareInfo interfaces)
  | packet (packet : VnsPacket) : Served (packetMessageOf packet)

theorem Served.getType_cases {message : LtMessage} (served : Served message) :
    message.getType = vnsAuthRequest ∨ message.getType = vnsAuthStatus ∨
      message.getType = vnsHwinfo ∨ message.getType = vnsPacket := by
  cases served with
  | authRequest => exact Or.inl rfl
  | authStatus => exact Or.inr (Or.inl rfl)
  | hardwareInfo => exact Or.inr (Or.inr (Or.inl rfl))
  | packet => exact Or.inr (Or.inr (Or.inr rfl))

theorem Served.getType_ne_vnsClose {message : LtMessage} (served : Served message) :
    message.getType ≠ vnsClose := by
  rcases served.getType_cases with type | type | type | type <;> rw [type] <;> decide

theorem Served.exists_salt {message : LtMessage} (served : Served message)
    (type : message.getType = vnsAuthRequest) :
    ∃ salt : Str, salt.length = 20 ∧ message = .decodable (.vnsAuthRequest ⟨salt⟩) := by
  cases served with
  | authRequest sized => exact ⟨_, sized, rfl⟩
  | authStatus => exact absurd (show vnsAuthStatus = vnsAuthRequest from type) (by decide)
  | hardwareInfo => exact absurd (show vnsHwinfo = vnsAuthRequest from type) (by decide)
  | packet => exact absurd (show vnsPacket = vnsAuthRequest from type) (by decide)

theorem Served.exists_msg {message : LtMessage} (served : Served message)
    (type : message.getType = vnsAuthStatus) :
    ∃ msg : Str, msg.length ≤ 9991 ∧ message = .decodable (.vnsAuthStatus ⟨true, msg⟩) := by
  cases served with
  | authRequest => exact absurd (show vnsAuthRequest = vnsAuthStatus from type) (by decide)
  | authStatus short => exact ⟨_, short, rfl⟩
  | hardwareInfo => exact absurd (show vnsHwinfo = vnsAuthStatus from type) (by decide)
  | packet => exact absurd (show vnsPacket = vnsAuthStatus from type) (by decide)

theorem wireBytes_eq_some {message : LtMessage} {bytes : Str}
    (wired : wireBytes message = some bytes) :
    ∃ body, message.pack = some body ∧ 8 + body.length < 2 ^ 32 ∧
      bytes = ltMessage message.getType body := by
  obtain ⟨body, packed, rest⟩ := Option.bind_eq_some_iff.mp wired
  rw [Option.ite_none_right_eq_some] at rest
  exact ⟨body, packed, rest.1, (Option.some.inj rest.2).symm⟩

section Process

variable {process : Process} {now : Int} {phase : Phase} {sr : SrInstance}
  {expectedCmd : UInt32} {message : LtMessage} {bytes body : Str}

theorem reads_short (expects : phase.expectedCmd = some expectedCmd)
    (wired : wireBytes message = some bytes) (packed : message.pack = some body)
    (short : body.length ≤ 9992) :
    process.reads now phase sr bytes = some
      (if Unexpected expectedCmd message.getType then process.refuses now phase sr
        else process.afterSwitch phase sr (framed message.getType body short)
          (commandSwitch process.toHost (framed message.getType body short).dispatched
            (sr.atTime now))) := by
  obtain ⟨other, otherPacked, -, rfl⟩ := wireBytes_eq_some wired
  cases Option.some.inj (packed.symm.trans otherPacked)
  have read := @Process.reads_message process now phase sr expectedCmd expects
    (framed message.getType body short)
  rw [framed_command] at read
  exact read

theorem reads_long (expects : phase.expectedCmd = some expectedCmd)
    (wired : wireBytes message = some bytes) (packed : message.pack = some body)
    (long : 9992 < body.length) :
    process.reads now phase sr bytes = some (process.refuses now phase sr) := by
  obtain ⟨other, otherPacked, fits, rfl⟩ := wireBytes_eq_some wired
  cases Option.some.inj (packed.symm.trans otherPacked)
  refine process.reads_tooLong expects ?_ ?_ ?_
  · rw [ltMessage_length]
    rfl
  · rw [ltMessage_length]
    omega
  · rw [ltMessage_length]
    exact fits

theorem reads_other (expects : phase.expectedCmd = some expectedCmd) (strict : expectedCmd ≠ 0)
    (served : Served message) (other : message.getType ≠ expectedCmd)
    (wired : wireBytes message = some bytes) :
    process.reads now phase sr bytes = some (process.refuses now phase sr) := by
  obtain ⟨body, packed, -, -⟩ := wireBytes_eq_some wired
  rcases Nat.lt_or_ge 9992 body.length with long | short
  · exact reads_long expects wired packed long
  · rw [reads_short expects wired packed short, if_pos]
    exact ⟨strict, other, served.getType_ne_vnsClose⟩

/-! ### The request -/

theorem authReply?_dispatched (process : Process) (message : Router.VnsMessage) :
    process.authReply? message.dispatched.buf =
      (process.authKey.bind (hashedKey process.stack)).map fun key =>
        authReply process.memory process.userText
          (Sha1.sha1 (message.bytes.drop 8 ++ key)) := by
  rw [Process.authReply?, srHandleAuthRequest_eq]
  rfl

theorem reads_authRequest {salt : Str} (sized : salt.length = 20)
    (wired : wireBytes (.decodable (.vnsAuthRequest ⟨salt⟩)) = some bytes) :
    (process.keyed = false ∧
        process.reads now .authRequest sr bytes = some ⟨.connectFailed, sr.atTime now, []⟩) ∨
      (process.keyed = true ∧ ∃ reply sent, decode reply = some (.vnsAuthReply sent) ∧
        process.reads now .authRequest sr bytes =
          some ⟨.authStatus, sr.atTime now, [reply]⟩) := by
  have short : salt.length ≤ 9992 := by omega
  have packed : LtMessage.pack (.decodable (.vnsAuthRequest ⟨salt⟩)) = some salt := rfl
  have read := @reads_short process now .authRequest sr vnsAuthRequest _ bytes salt rfl wired
    packed short
  have type : LtMessage.getType (.decodable (.vnsAuthRequest ⟨salt⟩)) = vnsAuthRequest := rfl
  rw [if_neg (fun unexpected => unexpected.2.1 type)] at read
  simp only [type] at read
  have command := framed_command vnsAuthRequest salt short
  have reply := authReply?_dispatched process (framed vnsAuthRequest salt short)
  rw [commandSwitch_authRequest _ command] at read
  have sends : process.toHost.sendsAuthReply
      (framed vnsAuthRequest salt short).dispatched.buf =
        (process.authReply? (framed vnsAuthRequest salt short).dispatched.buf).isSome := rfl
  cases keyed : process.authKey.bind (hashedKey process.stack) with
  | none =>
      rw [keyed] at reply
      refine Or.inl ⟨by rw [Process.keyed, keyed]; rfl, ?_⟩
      rw [read, sends, reply]
      simp [Process.afterSwitch, Process.nextPhase, Process.replies, Process.opening, command,
        reply]
  | some key =>
      rw [keyed] at reply
      refine Or.inr ⟨by rw [Process.keyed, keyed]; rfl, _, _,
        decode_authReply process.memory process.userText_short
          (Sha1.sha1 ((framed vnsAuthRequest salt short).bytes.drop 8 ++ key)), ?_⟩
      rw [read, sends, reply]
      simp [Process.afterSwitch, Process.nextPhase, Process.replies, Process.opening, command,
        reply]

/-! ### The status -/

theorem reads_authStatus {msg : Str} (short : msg.length ≤ 9991)
    (wired : wireBytes (.decodable (.vnsAuthStatus ⟨true, msg⟩)) = some bytes) :
    process.reads now .authStatus sr bytes = some
      (if process.templated then
        ⟨.rtable, sr.atTime now, [openTemplateMessage process.template process.host]⟩
      else
        ⟨.running, sr.atTime now, [openMessage process.topoId process.host process.user]⟩) := by
  have bodyShort : ((1 : UInt8) :: msg).length ≤ 9992 := Nat.succ_le_succ short
  have packed : LtMessage.pack (.decodable (.vnsAuthStatus ⟨true, msg⟩)) = some (1 :: msg) := rfl
  have read := @reads_short process now .authStatus sr vnsAuthStatus _ bytes (1 :: msg) rfl wired
    packed bodyShort
  have type : LtMessage.getType (.decodable (.vnsAuthStatus ⟨true, msg⟩)) = vnsAuthStatus := rfl
  rw [if_neg (fun unexpected => unexpected.2.1 type)] at read
  simp only [type] at read
  have command := framed_command vnsAuthStatus (1 :: msg) bodyShort
  have notRequest : ¬ vnsAuthStatus = vnsAuthRequest := by decide
  have long : 4 + 4 ≤ (framed vnsAuthStatus (1 :: msg) bodyShort).bytes.length :=
    (framed vnsAuthStatus (1 :: msg) bodyShort).long
  have ok : peek process.toHost.memory.fresh
      (framed vnsAuthStatus (1 :: msg) bodyShort).dispatched.buf sizeofBase = 1 :=
    (peek_put_outside _ long (Or.inr (Nat.le_refl 8))).trans rfl
  have nonzero : ¬ (1 : UInt8) = 0 := by decide
  rw [read, commandSwitch_authStatus _ command, ok]
  cases template : process.templated with
  | true =>
      simp [Process.afterSwitch, Process.nextPhase, Process.replies, Process.opening, command,
        notRequest, nonzero, template]
  | false =>
      simp [Process.afterSwitch, Process.nextPhase, Process.replies, Process.opening, command,
        notRequest, nonzero, template]

/-! ### The main loop -/

/-- What a turn of the main loop does to the log and to the phase. -/
structure LoopTurn (sr : SrInstance) (turn : Process.Turn) : Prop where
  phase : turn.phase.Looped
  trace : sr.trace <+: turn.sr.trace
  wrote : turn.written = newWires sr turn.sr
  packets : WritesPackets sr → WritesPackets turn.sr

theorem loopTurn_refuses : LoopTurn sr (process.refuses now .running sr) where
  phase := trivial
  trace := List.prefix_rfl
  wrote := (Process.newWires_atTime sr now).symm
  packets := id

theorem afterSwitch_running {received : Router.VnsMessage}
    (other : received.dispatched.command ≠ vnsAuthRequest) :
    LoopTurn sr (process.afterSwitch .running sr received
        (commandSwitch process.toHost received.dispatched (sr.atTime now))) ∧
      (process.afterSwitch .running sr received
        (commandSwitch process.toHost received.dispatched (sr.atTime now))).sr =
          finalState (commandSwitch process.toHost received.dispatched) (sr.atTime now) := by
  have noReply : process.replies [received.dispatched] = [] := by
    simp [Process.replies, other]
  have trace := trace_commandSwitch process.toHost received.dispatched (sr.atTime now)
  have packets : WritesPackets sr → WritesPackets _ :=
    @writesPackets_commandSwitch process.toHost received.dispatched (sr.atTime now)
  rw [finalState] at trace packets ⊢
  cases handled : commandSwitch process.toHost received.dispatched (sr.atTime now) with
  | ok ret next =>
      rw [handled] at trace packets
      refine ⟨⟨?_, trace, ?_, packets⟩, rfl⟩
      · show (if ret = 1 then Phase.running else Phase.loopEnded).Looped
        split <;> trivial
      · show process.replies [received.dispatched] ++ newWires sr next ++ [] = _
        rw [noReply, List.nil_append, List.append_nil]
        rfl
  | error fault next =>
      rw [handled] at trace packets
      exact ⟨⟨trivial, trace, rfl, packets⟩, rfl⟩

theorem reads_running (other : message.getType ≠ vnsAuthRequest)
    (wired : wireBytes message = some bytes) :
    ∃ turn, process.reads now .running sr bytes = some turn ∧ LoopTurn sr turn ∧
      (message.getType ≠ vnsHwinfo → turn.sr.ifList = sr.ifList) := by
  obtain ⟨body, packed, -, -⟩ := wireBytes_eq_some wired
  rcases Nat.lt_or_ge 9992 body.length with long | short
  · exact ⟨_, reads_long rfl wired packed long, loopTurn_refuses, fun _ => rfl⟩
  · have command := framed_command message.getType body short
    have anything : ¬ Unexpected 0 message.getType := fun unexpected => unexpected.1 rfl
    have read := @reads_short process now .running sr 0 _ bytes body rfl wired packed short
    rw [if_neg anything] at read
    obtain ⟨loopTurn, last⟩ := @afterSwitch_running process now sr
      (framed message.getType body short) (by rw [command]; exact other)
    refine ⟨_, read, loopTurn, fun quiet => ?_⟩
    rw [last]
    exact (moves_commandSwitch process.toHost (by rw [command]; exact quiet)
      (sr.atTime now)).grows.ifList

theorem timesOut_sr : (process.timesOut now sr).sr =
    finalState (Operation.timeout.perform process.memory process.depth) (sr.atTime now) := by
  rw [Process.timesOut, finalState]
  cases Operation.timeout.perform process.memory process.depth (sr.atTime now) with
  | ok value next => rfl
  | error fault next => rfl

theorem moves_timesOut : Moves (sr.atTime now) (process.timesOut now sr).sr := by
  rw [timesOut_sr]
  have keeps : KeepsMoves True (sr.atTime now)
      (Operation.timeout.perform process.memory process.depth) fun _ => True :=
    keeps_moves_perform process.memory process.depth .timeout
  exact keeps.finalState (Moves.refl _)

theorem loopTurn_timesOut : LoopTurn sr (process.timesOut now sr) ∧
    (process.timesOut now sr).sr.ifList = sr.ifList := by
  have moves := @moves_timesOut process now sr
  refine ⟨⟨?_, moves.grows.trace, ?_, moves.writesPackets⟩, moves.grows.ifList⟩
  · rw [Process.timesOut]
    split <;> trivial
  · rw [Process.timesOut]
    split <;> rfl

end Process

end Cmput313.Network
