import Cmput313.Network.Deliveries
import Cmput313.Network.Opening

/-!
# Sessions

In which order the messages of both sides come, whatever happens in between, and which
process gets through.
-/

set_option autoImplicit false

namespace Cmput313.Network

open Cmput313.Machine Cmput313.Pox Cmput313.Router

/-! ## What a connection has seen -/

/-- How a process got to its phase: what it took, and what it said before its first frame. -/
inductive Stage (process : Process) : Phase → List LtMessage → List Pox.VnsMessage → Prop where
  | waiting : Stage process .authRequest [] []
  | refused {message : LtMessage}
      (why : process.keyed = true → message.getType ≠ vnsAuthRequest) :
      Stage process .connectFailed [message] []
  | asked {request : LtMessage} {reply : VnsAuthReply} (keyed : process.keyed = true)
      (requested : request.getType = vnsAuthRequest) :
      Stage process .authStatus [request] [.vnsAuthReply reply]
  | rejected {request message : LtMessage} {reply : VnsAuthReply} (keyed : process.keyed = true)
      (requested : request.getType = vnsAuthRequest) (why : message.getType ≠ vnsAuthStatus) :
      Stage process .connectFailed [request, message] [.vnsAuthReply reply]
  | awaiting {request status : LtMessage} {reply : VnsAuthReply} {template : VnsOpenTemplate}
      (keyed : process.keyed = true) (templated : process.templated = true)
      (requested : request.getType = vnsAuthRequest) (passed : status.getType = vnsAuthStatus) :
      Stage process .rtable [request, status] [.vnsAuthReply reply, .vnsOpenTemplate template]
  | abandoned {request status message : LtMessage} {reply : VnsAuthReply}
      {template : VnsOpenTemplate} (keyed : process.keyed = true)
      (templated : process.templated = true) (requested : request.getType = vnsAuthRequest)
      (passed : status.getType = vnsAuthStatus) :
      Stage process .connectFailed [request, status, message]
        [.vnsAuthReply reply, .vnsOpenTemplate template]
  | opened {phase : Phase} {request status : LtMessage} {rest : List LtMessage}
      {reply : VnsAuthReply} {message : VnsOpen} (looped : phase.Looped)
      (keyed : process.keyed = true) (untemplated : process.templated = false)
      (requested : request.getType = vnsAuthRequest) (passed : status.getType = vnsAuthStatus) :
      Stage process phase (request :: status :: rest) [.vnsAuthReply reply, .vnsOpen message]

/-- The types of the messages that are no packets. -/
def controls (messages : List LtMessage) : List UInt32 :=
  (messages.filter fun message => (packet? message).isNone).map LtMessage.getType

theorem isNone_packet? (message : LtMessage) :
    (packet? message).isNone = decide (message.getType ≠ vnsPacket) := by
  cases message with
  | vnsHardwareInfo interfaces => rfl
  | decodable message => cases message <;> rfl

theorem controls_cons (message : LtMessage) (rest : List LtMessage) :
    controls (message :: rest) =
      if message.getType = vnsPacket then controls rest
      else message.getType :: controls rest := by
  rw [controls, List.filter_cons, isNone_packet?]
  by_cases packet : message.getType = vnsPacket
  · simp only [packet, ne_eq, not_true, decide_false, if_true, Bool.false_eq_true, if_false]
    rfl
  · simp only [packet, ne_eq, not_false_iff, decide_true, if_true, if_false]
    rfl

@[simp] theorem controls_append (early late : List LtMessage) :
    controls (early ++ late) = controls early ++ controls late := by
  rw [controls, controls, controls, List.filter_append, List.map_append]

def Answers : Option Pox.VnsMessage → List UInt32 → Prop
  | some (.vnsAuthReply _), types => types = [vnsAuthStatus]
  | some (.vnsOpen _), types => types = [] ∨ types = [vnsHwinfo]
  | _, types => types = []

/-- Both directions of a connection; `requested` is what the server sent of its own accord. -/
structure Session (requested : List UInt32) (link : Link) : Prop where
  opening : ∃ (opening : List Str) (messages : List Pox.VnsMessage),
    Stage link.process link.phase link.toRouter.taken messages ∧
      opening.map decode = messages.map some ∧
      link.toServer.sent = opening ++ link.sr.written
  silent : ¬ link.phase.Looped → link.sr.written = []
  packets : WritesPackets link.sr
  served : ∀ message ∈ link.toRouter.sent, Served message
  answered : ∃ answers, List.Forall₂ Answers (link.toServer.taken.map decode) answers ∧
    controls link.toRouter.sent = requested ++ answers.flatten
  requested : requested = [vnsAuthRequest] ∨ requested = [] ∧ link.toServer.taken = []

/-! ## The order of the messages -/

theorem answers_packets {received : List (Option Pox.VnsMessage)} {answers : List (List UInt32)}
    (all : List.Forall₂ Answers received answers)
    (packets : ∀ message ∈ received, ∃ packet, message = some (.vnsPacket packet)) :
    answers.flatten = [] := by
  induction all with
  | nil => rfl
  | cons first rest inductionHypothesis =>
      obtain ⟨packet, rfl⟩ := packets _ (List.mem_cons_self ..)
      rw [List.flatten_cons, show _ = [] from first, List.nil_append]
      exact inductionHypothesis fun message member => packets message (List.mem_cons_of_mem _ member)

theorem Stage.answers_prefix {process : Process} {phase : Phase} {taken : List LtMessage}
    {messages : List Pox.VnsMessage} (stage : Stage process phase taken messages)
    {received packets : List (Option Pox.VnsMessage)} {answers : List (List UInt32)}
    (framed : ∀ message ∈ packets, ∃ packet, message = some (.vnsPacket packet))
    (sent : received <+: messages.map some ++ packets)
    (all : List.Forall₂ Answers received answers) :
    answers.flatten <+: [vnsAuthStatus, vnsHwinfo] := by
  have onlyPackets : ∀ {others : List (Option Pox.VnsMessage)} {types : List (List UInt32)},
      others <+: packets → List.Forall₂ Answers others types → types.flatten = [] :=
    fun before each => answers_packets each fun message member =>
      framed message (before.subset member)
  have behindReply : ∀ {reply : VnsAuthReply} {more : List (Option Pox.VnsMessage)},
      received <+: some (.vnsAuthReply reply) :: more →
      (∀ {others : List (Option Pox.VnsMessage)} {types : List (List UInt32)}, others <+: more →
        List.Forall₂ Answers others types → types.flatten <+: [vnsHwinfo]) →
      answers.flatten <+: [vnsAuthStatus, vnsHwinfo] := by
    intro reply more before later
    cases all with
    | nil => exact List.nil_prefix
    | cons first rest =>
        obtain ⟨rfl, inner⟩ := List.cons_prefix_cons.mp before
        rw [List.flatten_cons, show _ = [vnsAuthStatus] from first, List.singleton_append,
          List.cons_prefix_cons]
        exact ⟨rfl, later inner rest⟩
  have behindOpen : ∀ {second : Pox.VnsMessage} {others : List (Option Pox.VnsMessage)}
      {types : List (List UInt32)}, (∀ answer, Answers (some second) answer →
        answer = [] ∨ answer = [vnsHwinfo]) → others <+: some second :: packets →
      List.Forall₂ Answers others types → types.flatten <+: [vnsHwinfo] := by
    intro second others types either before each
    cases each with
    | nil => exact List.nil_prefix
    | cons first rest =>
        obtain ⟨rfl, inner⟩ := List.cons_prefix_cons.mp before
        rw [List.flatten_cons, onlyPackets inner rest, List.append_nil]
        rcases either _ first with none_ | one
        · exact none_ ▸ List.nil_prefix
        · exact one ▸ List.prefix_rfl
  cases stage with
  | waiting => exact onlyPackets sent all ▸ List.nil_prefix
  | refused => exact onlyPackets sent all ▸ List.nil_prefix
  | asked => exact behindReply sent fun before each => onlyPackets before each ▸ List.nil_prefix
  | rejected => exact behindReply sent fun before each => onlyPackets before each ▸ List.nil_prefix
  | awaiting => exact behindReply sent (behindOpen fun answer none_ => Or.inl none_)
  | abandoned => exact behindReply sent (behindOpen fun answer none_ => Or.inl none_)
  | opened => exact behindReply sent (behindOpen fun answer either => either)

theorem Session.controls_prefix {requested : List UInt32} {link : Link}
    (session : Session requested link) :
    controls link.toRouter.sent <+: [vnsAuthRequest, vnsAuthStatus, vnsHwinfo] := by
  obtain ⟨opening, messages, stage, decoded, sent⟩ := session.opening
  obtain ⟨answers, all, types⟩ := session.answered
  rw [types]
  rcases session.requested with rfl | ⟨rfl, nothing⟩
  · have framed : ∀ message ∈ link.sr.written.map decode,
        ∃ packet, message = some (.vnsPacket packet) := by
      intro message member
      obtain ⟨bytes, wrote, rfl⟩ := List.mem_map.mp member
      obtain ⟨buf, iface, rfl⟩ := session.packets bytes wrote
      exact ⟨_, decode_packetMessage buf iface⟩
    have before : link.toServer.taken.map decode <+:
        messages.map some ++ link.sr.written.map decode := by
      rw [← decoded, ← List.map_append, ← sent]
      exact (Fifo.taken_prefix_sent).map decode
    exact List.cons_prefix_cons.mpr ⟨rfl, stage.answers_prefix framed before all⟩
  · rw [nothing] at all
    cases all
    exact List.nil_prefix

/-! ## What a process takes -/

/-- A turn takes one more message; what it says before the first frame, what it writes to the
log and what it writes to the server fit together. -/
def Proceeds (process : Process) (phase : Phase) (sr : SrInstance) (taken : List LtMessage)
    (messages : List Pox.VnsMessage) (turn : Process.Turn) : Prop :=
  ∃ (opening : List Str) (more : List Pox.VnsMessage),
    Stage process turn.phase taken (messages ++ more) ∧ opening.map decode = more.map some ∧
      turn.written = opening ++ newWires sr turn.sr ∧ sr.trace <+: turn.sr.trace ∧
      (¬ turn.phase.Looped → turn.sr.trace = sr.trace) ∧
      (phase.Looped → turn.phase.Looped ∧ opening = []) ∧
      (WritesPackets sr → WritesPackets turn.sr)

theorem Stage.reads {process : Process} {now : Int} {phase : Phase} {sr : SrInstance}
    {taken : List LtMessage} {messages : List Pox.VnsMessage} {message : LtMessage} {bytes : Str}
    {turn : Process.Turn} (stage : Stage process phase taken messages)
    (served : Served message) (once : phase.Looped → message.getType ≠ vnsAuthRequest)
    (wired : wireBytes message = some bytes)
    (turned : process.reads now phase sr bytes = some turn) :
    Proceeds process phase sr (taken ++ [message]) messages turn ∧
      (message.getType ≠ vnsHwinfo → turn.sr.ifList = sr.ifList) := by
  have opens : ∀ {next : Phase} {opening : List Str} {more : List Pox.VnsMessage},
      turn = ⟨next, sr.atTime now, opening⟩ → ¬ phase.Looped →
      Stage process next (taken ++ [message]) (messages ++ more) →
      opening.map decode = more.map some →
      Proceeds process phase sr (taken ++ [message]) messages turn ∧
        (message.getType ≠ vnsHwinfo → turn.sr.ifList = sr.ifList) := by
    rintro next opening more rfl connecting after decoded
    refine ⟨⟨opening, more, after, decoded, ?_, List.prefix_rfl, fun _ => rfl,
      fun looped => absurd looped connecting, id⟩, fun _ => rfl⟩
    rw [Process.newWires_atTime, List.append_nil]
  cases stage with
  | waiting =>
      by_cases requested : message.getType = vnsAuthRequest
      · obtain ⟨salt, sized, rfl⟩ := served.exists_salt requested
        rcases @reads_authRequest process now sr bytes salt sized wired with
          ⟨unkeyed, read⟩ | ⟨keyed, reply, sent, decoded, read⟩
        · refine opens (Option.some.inj (turned.symm.trans read)) id (.refused fun keyed => ?_) rfl
          exact absurd (unkeyed.symm.trans keyed) (by decide)
        · have said : [reply].map decode = [Pox.VnsMessage.vnsAuthReply sent].map some :=
            congrArg (fun first => [first]) decoded
          exact opens (Option.some.inj (turned.symm.trans read)) id (.asked keyed rfl) said
      · have read := @reads_other process now .authRequest sr _ _ _ rfl (by decide) served
          requested wired
        exact opens (Option.some.inj (turned.symm.trans read)) id (.refused fun _ => requested) rfl
  | refused => cases turned
  | asked keyed requested =>
      by_cases passed : message.getType = vnsAuthStatus
      · obtain ⟨msg, short, rfl⟩ := served.exists_msg passed
        have read := @reads_authStatus process now sr bytes msg short wired
        cases templated : process.templated with
        | true =>
            rw [templated, if_pos rfl] at read
            have said : [openTemplateMessage process.template process.host].map decode =
                [Pox.VnsMessage.vnsOpenTemplate _].map some :=
              congrArg (fun first => [first]) (decode_openTemplateMessage _ _)
            exact opens (Option.some.inj (turned.symm.trans read)) id
              (.awaiting keyed templated requested rfl) said
        | false =>
            rw [templated, if_neg Bool.false_ne_true] at read
            have said : [openMessage process.topoId process.host process.user].map decode =
                [Pox.VnsMessage.vnsOpen _].map some :=
              congrArg (fun first => [first]) (decode_openMessage _ _ _)
            exact opens (Option.some.inj (turned.symm.trans read)) id
              (.opened trivial keyed templated requested rfl) said
      · have read := @reads_other process now .authStatus sr _ _ _ rfl (by decide) served
          passed wired
        exact opens (Option.some.inj (turned.symm.trans read)) id
          (.rejected keyed requested passed) rfl
  | rejected => cases turned
  | awaiting keyed templated requested passed =>
      have other : message.getType ≠ vnsRtable := by
        rcases served.getType_cases with type | type | type | type <;> rw [type] <;> decide
      have read := @reads_other process now .rtable sr _ _ _ rfl (by decide) served other wired
      exact opens (Option.some.inj (turned.symm.trans read)) id
        (.abandoned keyed templated requested passed) rfl
  | abandoned => cases turned
  | opened looped keyed untemplated requested passed =>
      cases phase with
      | running =>
          obtain ⟨read, reads, loopTurn, kept⟩ := @reads_running process now sr _ _ (once looped) wired
          cases Option.some.inj (turned.symm.trans reads)
          exact ⟨⟨[], [], .opened loopTurn.phase keyed untemplated requested passed, rfl,
            loopTurn.wrote, loopTurn.trace, fun ended => absurd loopTurn.phase ended,
            fun _ => ⟨loopTurn.phase, rfl⟩, loopTurn.packets⟩, kept⟩
      | loopEnded => cases turned
      | died fault => cases turned
      | authRequest => exact looped.elim
      | authStatus => exact looped.elim
      | rtable => exact looped.elim
      | connectFailed => exact looped.elim

theorem Stage.once {process : Process} {phase : Phase} {taken : List LtMessage}
    {messages : List Pox.VnsMessage} {message : LtMessage}
    (stage : Stage process phase taken messages) (looped : phase.Looped)
    (before : controls (taken ++ [message]) <+: [vnsAuthRequest, vnsAuthStatus, vnsHwinfo]) :
    message.getType ≠ vnsAuthRequest := by
  intro again
  cases stage with
  | opened looped keyed untemplated requested passed =>
      have noPacket : ¬ vnsAuthRequest = vnsPacket := by decide
      have noPacketEither : ¬ vnsAuthStatus = vnsPacket := by decide
      simp only [List.cons_append, controls_cons, requested, passed, noPacket, noPacketEither,
        if_false, List.cons_prefix_cons, true_and] at before
      have inside : vnsAuthRequest ∈ [vnsHwinfo] := by
        apply before.subset
        rw [controls_append, controls_cons, again, if_neg noPacket]
        exact List.mem_append_right _ (List.mem_singleton_self _)
      exact absurd inside (by decide)
  | waiting => exact looped
  | refused => exact looped
  | asked => exact looped
  | rejected => exact looped
  | awaiting => exact looped
  | abandoned => exact looped

/-! ## Steps of a session -/

theorem session_init (process : Process) (routingTable : List SrRt) (now : Int) :
    Session [] (Link.init process routingTable now) where
  opening := ⟨[], [], .waiting, rfl, rfl⟩
  silent := fun _ => rfl
  packets := nofun
  served := nofun
  answered := ⟨[], .nil, rfl⟩
  requested := Or.inr ⟨rfl, rfl⟩

section Steps

variable {requested : List UInt32} {link : Link}

theorem Session.sendPacket (session : Session requested link) (packet : VnsPacket) :
    Session requested { link with toRouter := link.toRouter.send (packetMessageOf packet) } :=
  { session with
    served := by
      intro message member
      rw [Fifo.sent_send, List.mem_append, List.mem_singleton] at member
      rcases member with early | rfl
      · exact session.served message early
      · exact .packet packet
    answered := by
      obtain ⟨answers, all, types⟩ := session.answered
      refine ⟨answers, all, ?_⟩
      rw [Fifo.sent_send, controls_append, types]
      exact List.append_nil _ }

theorem Session.request (session : Session [] link) {salt : Str} (sized : salt.length = 20) :
    Session [vnsAuthRequest]
      { link with toRouter := link.toRouter.send (.decodable (.vnsAuthRequest ⟨salt⟩)) } :=
  { session with
    served := by
      intro message member
      rw [Fifo.sent_send, List.mem_append, List.mem_singleton] at member
      rcases member with early | rfl
      · exact session.served message early
      · exact .authRequest sized
    answered := by
      obtain ⟨answers, all, types⟩ := session.answered
      have nothing : link.toServer.taken = [] :=
        session.requested.elim (fun some_ => nomatch some_) And.right
      rw [nothing] at all
      cases all
      refine ⟨[], nothing ▸ .nil, ?_⟩
      rw [Fifo.sent_send, controls_append, types]
      rfl
    requested := Or.inl rfl }

theorem Session.receive (session : Session [vnsAuthRequest] link) {bytes : Str}
    {toServer : Fifo Str} (took : link.toServer.take = some (bytes, toServer))
    {replies : List LtMessage} (answer : Answers (decode bytes) (controls replies))
    (served : ∀ message ∈ replies, Served message) :
    Session [vnsAuthRequest]
      { link with toServer := toServer, toRouter := link.toRouter.sendAll replies } :=
  { session with
    opening := by
      obtain ⟨opening, messages, stage, decoded, sent⟩ := session.opening
      exact ⟨opening, messages, stage, decoded, (Fifo.sent_take took).trans sent⟩
    served := by
      intro message member
      rw [Fifo.sent_sendAll, List.mem_append] at member
      exact member.elim (session.served message) (served message)
    answered := by
      obtain ⟨answers, all, types⟩ := session.answered
      refine ⟨answers ++ [controls replies], ?_, ?_⟩
      · rw [Fifo.taken_take took, List.map_append]
        exact List.rel_append all (.cons answer .nil)
      · rw [Fifo.sent_sendAll, controls_append, types, List.flatten_append, List.append_assoc,
          List.flatten_singleton]
    requested := Or.inl rfl }

theorem Session.turned (session : Session requested link) {toRouter : Fifo LtMessage}
    {turn : Process.Turn} (sent : toRouter.sent = link.toRouter.sent)
    (proceeds : ∀ messages, Stage link.process link.phase link.toRouter.taken messages →
      Proceeds link.process link.phase link.sr toRouter.taken messages turn) :
    Session requested
      { link with
        phase := turn.phase
        sr := turn.sr
        toRouter := toRouter
        toServer := link.toServer.sendAll turn.written } := by
  obtain ⟨opening, messages, stage, decoded, wrote⟩ := session.opening
  obtain ⟨said, more, after, saidDecoded, written, trace, quiet, looped, packets⟩ :=
    proceeds messages stage
  refine
    { opening := ⟨opening ++ said, messages ++ more, after, ?_, ?_⟩
      silent := fun connecting => ?_
      packets := packets session.packets
      served := sent ▸ session.served
      answered := sent ▸ session.answered
      requested := session.requested }
  · rw [List.map_append, List.map_append, decoded, saidDecoded]
  · rw [Fifo.sent_sendAll, wrote, written, ← written_append_newWires trace]
    by_cases inLoop : link.phase.Looped
    · rw [(looped inLoop).2, List.nil_append, List.append_nil, List.append_assoc]
    · rw [session.silent inLoop, List.append_nil, List.nil_append, List.append_assoc]
  · have notYet : ¬ link.phase.Looped := fun inLoop => connecting (looped inLoop).1
    show turn.sr.written = []
    rw [SrInstance.written, quiet connecting]
    exact session.silent notYet

theorem Session.proceeds (session : Session requested link) {message : LtMessage}
    {toRouter : Fifo LtMessage} {bytes : Str} {now : Int} {turn : Process.Turn}
    (took : link.toRouter.take = some (message, toRouter))
    (wired : wireBytes message = some bytes)
    (turned : link.process.reads now link.phase link.sr bytes = some turn)
    {messages : List Pox.VnsMessage}
    (stage : Stage link.process link.phase link.toRouter.taken messages) :
    Proceeds link.process link.phase link.sr toRouter.taken messages turn ∧
      (message.getType ≠ vnsHwinfo → turn.sr.ifList = link.sr.ifList) := by
  have taken := Fifo.taken_take took
  have before : controls toRouter.taken <+: [vnsAuthRequest, vnsAuthStatus, vnsHwinfo] := by
    obtain ⟨waiting, whole⟩ := @Fifo.taken_prefix_sent _ toRouter
    have front := session.controls_prefix
    rw [← Fifo.sent_take took, ← whole, controls_append] at front
    exact (List.prefix_append _ _).trans front
  rw [taken] at before ⊢
  exact stage.reads (session.served message (Fifo.mem_sent_take took))
    (fun looped => stage.once looped before) wired turned

theorem Session.reads (session : Session requested link) {message : LtMessage}
    {toRouter : Fifo LtMessage} {bytes : Str} {now : Int} {turn : Process.Turn}
    (took : link.toRouter.take = some (message, toRouter))
    (wired : wireBytes message = some bytes)
    (turned : link.process.reads now link.phase link.sr bytes = some turn) :
    Session requested
      { link with
        phase := turn.phase
        sr := turn.sr
        toRouter := toRouter
        toServer := link.toServer.sendAll turn.written } :=
  session.turned (Fifo.sent_take took) fun _ stage => (session.proceeds took wired turned stage).1

theorem Session.timesOut (session : Session requested link) (now : Int)
    (running : link.phase = .running) :
    Session requested
      { link with
        phase := (link.process.timesOut now link.sr).phase
        sr := (link.process.timesOut now link.sr).sr
        toServer := link.toServer.sendAll (link.process.timesOut now link.sr).written } := by
  obtain ⟨loopTurn, -⟩ := @loopTurn_timesOut link.process now link.sr
  refine session.turned rfl fun messages stage => ?_
  rw [running] at stage ⊢
  generalize link.toRouter.taken = taken at stage ⊢
  cases stage with
  | opened looped keyed untemplated requested passed =>
      exact ⟨[], [], .opened loopTurn.phase keyed untemplated requested passed, rfl,
        loopTurn.wrote, loopTurn.trace, fun ended => absurd loopTurn.phase ended,
        fun _ => ⟨loopTurn.phase, rfl⟩, loopTurn.packets⟩

end Steps

/-! ## Steps of the net -/

def Net.requested (net : Net) (conn : Conn) : List UInt32 :=
  if net.requesting = some conn then [] else [vnsAuthRequest]

structure Sessions (net : Net) : Prop where
  wellFormed : WellFormed net
  session : ∀ conn link, net.links[conn]? = some link → Session (net.requested conn) link
  endings : net.endings.closed = net.endings.lost.map Prod.fst

theorem sessions_init : Sessions .init where
  wellFormed := wellFormed_init
  session := nofun
  endings := rfl

theorem Sessions.changed {net next : Net} (sessions : Sessions net) (wellFormed : WellFormed next)
    (endings : next.endings = net.endings) {conn : Conn} {link : Link}
    (here : next.links[conn]? = some link)
    (elsewhere : ∀ other, other ≠ conn → next.links[other]? = net.links[other]? ∧
      next.requested other = net.requested other)
    (session : Session (next.requested conn) link) : Sessions next where
  wellFormed := wellFormed
  session := by
    intro other found there
    by_cases own : other = conn
    · subst own
      cases Option.some.inj (here.symm.trans there)
      exact session
    · obtain ⟨same, asked⟩ := elsewhere other own
      rw [asked]
      exact sessions.session other found (same.symm.trans there)
  endings := endings ▸ sessions.endings

theorem Sessions.same {net next : Net} (sessions : Sessions net) (wellFormed : WellFormed next)
    (endings : next.endings = net.endings) (links : next.links = net.links)
    (requesting : next.requesting = net.requesting) : Sessions next where
  wellFormed := wellFormed
  session := by
    intro conn link there
    rw [Net.requested, requesting]
    exact sessions.session conn link (links ▸ there)
  endings := endings ▸ sessions.endings

section Links

variable {net : Net} {conn : Conn} {link : Link} {message : LtMessage}

theorem Sessions.lose (sessions : Sessions net) (conn : Conn) : Sessions (net.lose conn) where
  wellFormed := sessions.wellFormed.quiet (quiet_lose conn)
  session := sessions.session
  endings := by
    show net.endings.closed ++ [conn] = (net.endings.lost ++ [(conn, _)]).map Prod.fst
    rw [sessions.endings, List.map_append]
    rfl

@[simp] theorem endings_send (conn : Conn) : (net.send conn message).endings = net.endings := by
  rw [Net.send]
  split <;> rfl

theorem wireBytes_authRequest {salt : Str} (sized : salt.length = 20) :
    (wireBytes (.decodable (.vnsAuthRequest ⟨salt⟩))).isSome := by
  have fits : 8 + salt.length < 2 ^ 32 := by omega
  have bytes : wireBytes (.decodable (.vnsAuthRequest ⟨salt⟩)) =
      if 8 + salt.length < 2 ^ 32 then some (ltMessage VnsAuthRequest.getType salt) else none := rfl
  rw [bytes, if_pos fits]
  rfl

theorem wireBytes_authStatus {msg : Str} (short : msg.length ≤ 9991) :
    (wireBytes (.decodable (.vnsAuthStatus ⟨true, msg⟩))).isSome := by
  have fits : 8 + (1 :: msg).length < 2 ^ 32 := by
    rw [List.length_cons]
    omega
  have bytes : wireBytes (.decodable (.vnsAuthStatus ⟨true, msg⟩)) =
      if 8 + (1 :: msg).length < 2 ^ 32 then some (ltMessage VnsAuthStatus.getType (1 :: msg))
      else none := rfl
  rw [bytes, if_pos fits]
  rfl

theorem getElem?_links_send (sendable : (wireBytes message).isSome) (other : Conn) :
    (net.send conn message).links[other]? =
      if conn = other then net.links[other]?.map fun link =>
        { link with toRouter := link.toRouter.send message }
      else net.links[other]? := by
  rw [Net.send, if_pos sendable]
  show (net.links.modify conn _)[other]? = _
  rw [List.getElem?_modify]
  by_cases own : conn = other
  · simp [own]
  · simp [own]

theorem getElem?_links_setLink (there : conn < net.links.length) (other : Conn) :
    (net.setLink conn link).links[other]? =
      if conn = other then some link else net.links[other]? := by
  by_cases own : conn = other
  · rw [if_pos own, ← own]
    exact List.getElem?_set_self there
  · rw [if_neg own]
    exact List.getElem?_set_ne own

theorem Sessions.setLink {before changed : Link} (sessions : Sessions net)
    (there : net.links[conn]? = some before) (same : changed.toRouter.sent = before.toRouter.sent)
    (session : Session (net.requested conn) changed) : Sessions (net.setLink conn changed) := by
  obtain ⟨inside, -⟩ := List.getElem?_eq_some_iff.mp there
  refine @Sessions.changed net _ sessions (sessions.wellFormed.quiet (quiet_setLink there same))
    rfl conn changed ?_ (fun other own => ⟨?_, rfl⟩) session
  · rw [getElem?_links_setLink inside, if_pos rfl]
  · rw [getElem?_links_setLink inside, if_neg (Ne.symm own)]

end Links

/-- What the server decodes of the messages of a process. -/
inductive FromProcess : Option Pox.VnsMessage → Prop where
  | authReply (reply : VnsAuthReply) : FromProcess (some (.vnsAuthReply reply))
  | opens (message : VnsOpen) : FromProcess (some (.vnsOpen message))
  | template (template : VnsOpenTemplate) : FromProcess (some (.vnsOpenTemplate template))
  | packet (packet : VnsPacket) : FromProcess (some (.vnsPacket packet))

theorem Stage.fromProcess {process : Process} {phase : Phase} {taken : List LtMessage}
    {messages : List Pox.VnsMessage} (stage : Stage process phase taken messages) :
    ∀ message ∈ messages, FromProcess (some message) := by
  have first : ∀ {reply : VnsAuthReply}, ∀ message ∈ [Pox.VnsMessage.vnsAuthReply reply],
      FromProcess (some message) := by
    rintro reply message member
    cases List.mem_singleton.mp member
    exact .authReply reply
  have both : ∀ {reply : VnsAuthReply} {second : Pox.VnsMessage}, FromProcess (some second) →
      ∀ message ∈ [.vnsAuthReply reply, second], FromProcess (some message) := by
    rintro reply second expected message member
    rcases List.mem_cons.mp member with rfl | member
    · exact .authReply reply
    · cases List.mem_singleton.mp member
      exact expected
  cases stage with
  | waiting => exact List.forall_mem_nil _
  | refused => exact List.forall_mem_nil _
  | asked => exact first
  | rejected => exact first
  | awaiting => exact both (.template _)
  | abandoned => exact both (.template _)
  | opened => exact both (.opens _)

theorem Session.fromProcess {requested : List UInt32} {link : Link}
    (session : Session requested link) {bytes : Str} (member : bytes ∈ link.toServer.sent) :
    FromProcess (decode bytes) := by
  obtain ⟨opening, messages, stage, decoded, sent⟩ := session.opening
  rw [sent, List.mem_append] at member
  rcases member with early | late
  · have inside : decode bytes ∈ messages.map some :=
      decoded ▸ List.mem_map_of_mem early
    obtain ⟨message, found, same⟩ := List.mem_map.mp inside
    exact same ▸ stage.fromProcess message found
  · obtain ⟨buf, iface, rfl⟩ := session.packets bytes late
    rw [decode_packetMessage]
    exact .packet _

/-- A handler that sent these messages on its own connection, and nothing else, keeps the
sessions. -/
theorem Sessions.replied {net handled next : Net} {conn : Conn} {connText bytes : Str}
    {drops : Bool} {link : Link} {toServer : Fifo Str} (sessions : Sessions net)
    (received : Received net conn connText drops link bytes toServer handled next)
    (replies : List LtMessage) (answer : Answers (decode bytes) (controls replies))
    (served : ∀ message ∈ replies, Served message) (endings : handled.endings = net.endings)
    (free : handled.requesting = none)
    (links : ∀ other, handled.links[other]? = if conn = other then
      some { link with toServer := toServer, toRouter := link.toRouter.sendAll replies }
      else net.links[other]?) : Sessions handled := by
  have wellFormed := sessions.wellFormed.quiet received.quiet.1
  obtain ⟨idle, -, -, there, took, -, -⟩ := received
  have session := sessions.session conn link there
  have nobody : ∀ other, ¬ net.requesting = some other := by
    rw [idle]
    exact fun other => (Option.some_ne_none other).symm
  have requested : ∀ other, handled.requested other = net.requested other := by
    intro other
    rw [Net.requested, Net.requested, free, idle]
  refine @Sessions.changed net handled sessions wellFormed endings conn _
    ((links conn).trans (if_pos rfl))
    (fun other own => ⟨(links other).trans (if_neg (Ne.symm own)), requested other⟩) ?_
  rw [Net.requested, if_neg (nobody conn)] at session
  rw [requested, Net.requested, if_neg (nobody conn)]
  exact session.receive took answer served

/-- No message of a process makes its handler close the connection. -/
theorem Sessions.handled {net handled next : Net} {conn : Conn} {connText bytes : Str}
    {drops : Bool} {link : Link} {toServer : Fifo Str} (sessions : Sessions net)
    (received : Received net conn connText drops link bytes toServer handled next) :
    Sessions handled := by
  have moved := sessions.replied received
  obtain ⟨idle, short, -, there, took, handles, -⟩ := received
  obtain ⟨inside, -⟩ := List.getElem?_eq_some_iff.mp there
  have base : ∀ other, (net.setLink conn { link with toServer := toServer }).links[other]? =
      if conn = other then some { link with toServer := toServer } else net.links[other]? :=
    getElem?_links_setLink inside
  have expected := (sessions.session conn link there).fromProcess (Fifo.mem_sent_take took)
  have result : (net.setLink conn { link with toServer := toServer }).applyAll conn
      (net.listener.handleRecvMsg conn connText (decode bytes)).effects = handled :=
    handles.symm
  have silently : Answers (decode bytes) [] → handled.endings = net.endings →
      handled.requesting = none →
      handled.links = (net.setLink conn { link with toServer := toServer }).links →
      Sessions handled := by
    intro answer endings free links
    refine moved [] answer (List.forall_mem_nil _) endings free fun other => ?_
    rw [links, base, Fifo.sendAll_nil]
  generalize decode bytes = received at expected moved silently result
  cases expected with
  | authReply reply =>
      have room : (SrServerListener.authMsg connText).length ≤ 9991 := by
        simp only [SrServerListener.authMsg, List.length_append, List.length_cons,
          List.length_nil]
        omega
      cases result
      refine moved [.decodable (.vnsAuthStatus ⟨true, SrServerListener.authMsg connText⟩)] rfl
        (fun message member => ?_) (endings_send conn) ((requesting_send conn).trans idle)
        fun other => ?_
      · cases List.mem_singleton.mp member
        exact .authStatus room
      · refine (getElem?_links_send (wireBytes_authStatus room) other).trans ?_
        rw [base]
        split <;> rfl
  | opens message =>
      rw [SrServerListener.handleRecvMsg, SrServerListener.handleOpenMsg] at result
      cases known : net.listener.interfaces with
      | none =>
          rw [known] at result
          cases result
          exact silently (Or.inl rfl) rfl idle rfl
      | some interfaces =>
          rw [known] at result
          cases result
          cases sendable : (wireBytes (.vnsHardwareInfo interfaces)).isSome with
          | true =>
              refine moved [.vnsHardwareInfo interfaces] (Or.inr rfl) (fun message member => ?_)
                (endings_send conn) ((requesting_send conn).trans idle) fun other => ?_
              · cases List.mem_singleton.mp member
                exact .hardwareInfo interfaces
              · refine (getElem?_links_send sendable other).trans ?_
                rw [base]
                split <;> rfl
          | false =>
              refine silently (Or.inl rfl) (endings_send conn) ((requesting_send conn).trans idle)
                ?_
              show (Net.send _ conn (.vnsHardwareInfo interfaces)).links = _
              rw [Net.send, if_neg (by rw [sendable]; exact Bool.false_ne_true)]
  | template template =>
      cases result
      exact silently rfl rfl idle rfl
  | packet packet =>
      rw [SrServerListener.handleRecvMsg, SrServerListener.handlePacketMsg] at result
      cases known : net.listener.intfnameToPort packet.intfName with
      | none =>
          rw [known] at result
          cases result
          exact silently rfl rfl idle rfl
      | some outPort =>
          rw [known] at result
          cases result
          exact silently rfl rfl idle rfl

theorem Sessions.receive {net next : Net} {conn : Conn} {connText : Str} {drops : Bool}
    (sessions : Sessions net) (taken : net.receive conn connText drops = some next) :
    Sessions next := by
  obtain ⟨link, bytes, toServer, handled, received⟩ := receive_cases taken
  have sessions := sessions.handled received
  rw [received.ends]
  split
  · exact sessions.lose conn
  · exact sessions

theorem Sessions.step {net next : Net} {event : NetEvent} (sessions : Sessions net)
    (taken : net.step event = some next) : Sessions next := by
  have wellFormed : WellFormed next := sessions.wellFormed.step taken
  cases event with
  | connect process routingTable now =>
      obtain ⟨idle, rfl⟩ := connect_cases taken
      refine @Sessions.changed net _ sessions wellFormed rfl net.links.length
        (Link.init process routingTable now) List.getElem?_concat_length
        (fun other own => ⟨?_, ?_⟩) ?_
      · rcases Nat.lt_or_ge other net.links.length with inside | outside
        · exact List.getElem?_append_left inside
        · rw [List.getElem?_eq_none outside, List.getElem?_eq_none]
          rw [List.length_append, List.length_singleton]
          exact Nat.lt_of_le_of_ne outside (Ne.symm own)
      · have first : ¬ some net.links.length = some other := by
          rw [Option.some.injEq]
          exact Ne.symm own
        have second : ¬ net.requesting = some other := by
          rw [idle]
          exact (Option.some_ne_none other).symm
        rw [Net.requested, Net.requested, if_neg first, if_neg second]
      · rw [Net.requested, if_pos rfl]
        exact session_init process routingTable now
  | requestAuth salt =>
      obtain ⟨sized, conn, asked, rfl⟩ := requestAuth_cases taken
      have inside := sessions.wellFormed.requesting conn asked
      have there := List.getElem?_eq_getElem inside
      have session := sessions.session conn _ there
      rw [Net.requested, if_pos asked] at session
      have free : ∀ other, ¬ (Net.send { net with requesting := none } conn
          (.decodable (.vnsAuthRequest ⟨salt⟩))).requesting = some other := by
        intro other
        rw [requesting_send]
        exact (Option.some_ne_none other).symm
      refine @Sessions.changed net _ sessions wellFormed (endings_send conn) conn
        { net.links[conn] with toRouter :=
          net.links[conn].toRouter.send (.decodable (.vnsAuthRequest ⟨salt⟩)) } ?_
        (fun other own => ⟨?_, ?_⟩) ?_
      · refine (getElem?_links_send (wireBytes_authRequest sized) conn).trans ?_
        rw [if_pos rfl, there, Option.map_some]
      · exact (getElem?_links_send (wireBytes_authRequest sized) other).trans
          (if_neg (Ne.symm own))
      · have first : ¬ net.requesting = some other := by
          rw [asked, Option.some.injEq]
          exact Ne.symm own
        rw [Net.requested, Net.requested, if_neg first]
        exact if_neg (free other)
      · rw [Net.requested, if_neg (free conn)]
        exact session.request sized
  | receive conn connText drops => exact sessions.receive taken
  | disconnected conn =>
      obtain ⟨-, -, -, rfl⟩ := disconnected_cases taken
      exact sessions.lose conn
  | packetIn port pkt =>
      obtain ⟨-, ⟨-, rfl⟩ | ⟨packet, -, -, rfl⟩⟩ := packetIn_cases taken
      · exact sessions
      · exact sessions.same wellFormed rfl rfl rfl
  | broadcastNext =>
      obtain ⟨packet, number, current, ⟨more, rfl⟩ | ⟨-, rfl⟩⟩ :=
        broadcastNext_cases sessions.wellFormed taken
      · have there := List.getElem?_eq_getElem more
        have sendable := wireBytes_packet (sessions.wellFormed.broadcasting packet number current).2
        have requested : ∀ conn, Net.requested { net.send number (packetMessageOf packet) with
            task := .broadcasting packet (number + 1) } conn = net.requested conn := by
          intro conn
          rw [Net.requested, Net.requested, requesting_send]
        refine @Sessions.changed net _ sessions wellFormed (endings_send number) number
          { net.links[number] with toRouter :=
            net.links[number].toRouter.send (packetMessageOf packet) } ?_
          (fun other own => ⟨?_, requested other⟩) ?_
        · refine (getElem?_links_send sendable number).trans ?_
          rw [if_pos rfl, there, Option.map_some]
        · exact (getElem?_links_send sendable other).trans (if_neg (Ne.symm own))
        · rw [requested]
          exact (sessions.session number _ there).sendPacket packet
      · exact sessions.same wellFormed rfl rfl rfl
  | routerInfo info =>
      obtain ⟨-, rfl⟩ := routerInfo_cases taken
      exact sessions.same wellFormed rfl rfl rfl
  | learnNext =>
      obtain ⟨-, -, links, requesting, -, endings, -⟩ := learnNext_cases taken
      exact sessions.same wellFormed endings links requesting
  | reads conn now =>
      obtain ⟨link, message, toRouter, bytes, turn, there, -, took, wired, turned, rfl⟩ :=
        reads_cases taken
      exact sessions.setLink there (Fifo.sent_take took)
        ((sessions.session conn link there).reads took wired turned)
  | timesOut conn now =>
      obtain ⟨link, there, running, rfl⟩ := timesOut_cases taken
      exact sessions.setLink there rfl ((sessions.session conn link there).timesOut now running)

theorem sessions_run {events : List NetEvent} {net : Net}
    (reached : run Net.step .init events = some net) : Sessions net :=
  run_keeps (fun _ _ _ sessions taken => sessions.step taken) sessions_init reached

/-! ## What a step does to a process -/

structure Still (link after : Link) : Prop where
  process : after.process = link.process
  phase : after.phase = link.phase
  sr : after.sr = link.sr
  taken : after.toRouter.taken = link.toRouter.taken

inductive LinkStep (link : Link) : Link → Prop where
  | still {after : Link} (same : Still link after) : LinkStep link after
  | reads {message : LtMessage} {toRouter : Fifo LtMessage} {bytes : Str} {now : Int}
      {turn : Process.Turn} (took : link.toRouter.take = some (message, toRouter))
      (wired : wireBytes message = some bytes)
      (turned : link.process.reads now link.phase link.sr bytes = some turn) :
      LinkStep link
        { link with
          phase := turn.phase
          sr := turn.sr
          toRouter := toRouter
          toServer := link.toServer.sendAll turn.written }
  | timesOut (now : Int) (running : link.phase = .running) :
      LinkStep link
        { link with
          phase := (link.process.timesOut now link.sr).phase
          sr := (link.process.timesOut now link.sr).sr
          toServer := link.toServer.sendAll (link.process.timesOut now link.sr).written }

theorem Still.refl (link : Link) : Still link link := ⟨rfl, rfl, rfl, rfl⟩

/-- All that happened since the first net is that the server sent messages. -/
def Mailed (net next : Net) : Prop :=
  ∀ (conn : Conn) (after : Link), next.links[conn]? = some after →
    ∃ (link : Link) (messages : List LtMessage), net.links[conn]? = some link ∧
      after = { link with toRouter := link.toRouter.sendAll messages }

theorem mailed_of_links {net next : Net} (same : next.links = net.links) : Mailed net next := by
  intro conn after there
  refine ⟨after, [], same ▸ there, ?_⟩
  rw [Fifo.sendAll_nil]

theorem Mailed.trans {first second third : Net} (early : Mailed first second)
    (late : Mailed second third) : Mailed first third := by
  intro conn after there
  obtain ⟨middle, more, was, rfl⟩ := late conn after there
  obtain ⟨link, messages, before, rfl⟩ := early conn middle was
  refine ⟨link, messages ++ more, before, ?_⟩
  rw [Fifo.sendAll_append]

theorem mailed_send (net : Net) (conn : Conn) (message : LtMessage) :
    Mailed net (net.send conn message) := by
  cases sendable : (wireBytes message).isSome with
  | true =>
      intro other after there
      rw [getElem?_links_send sendable] at there
      split at there
      · obtain ⟨link, was, rfl⟩ := Option.map_eq_some_iff.mp there
        exact ⟨link, [message], was, rfl⟩
      · exact mailed_of_links rfl other after there
  | false =>
      rw [Net.send, if_neg (by rw [sendable]; exact Bool.false_ne_true)]
      exact mailed_of_links rfl

theorem mailed_applyAll (net : Net) (source : Conn) (effects : List Effect) :
    Mailed net (net.applyAll source effects) := by
  induction effects generalizing net with
  | nil => exact mailed_of_links rfl
  | cons effect rest inductionHypothesis =>
      have first : Mailed net (net.apply source effect) := by
        cases effect with
        | send conn message => exact mailed_send net conn message
        | sendText conn text => exact mailed_of_links rfl
        | loseConnection conn => exact mailed_of_links rfl
        | packetOut pkt port => exact mailed_of_links rfl
      exact first.trans (inductionHypothesis (net.apply source effect))

theorem Received.mailed {net handled next : Net} {conn : Conn} {connText bytes : Str}
    {drops : Bool} {link : Link} {toServer : Fifo Str}
    (received : Received net conn connText drops link bytes toServer handled next) :
    Mailed (net.setLink conn { link with toServer := toServer }) next := by
  have sent := mailed_applyAll (net.setLink conn { link with toServer := toServer }) conn
    (net.listener.handleRecvMsg conn connText (decode bytes)).effects
  rw [received.ends, received.handles]
  split
  · exact sent.trans (mailed_of_links rfl)
  · exact sent

/-- A link that comes from one of the net by a step of its process. -/
def Evolves (net : Net) (conn : Conn) (after : Link) : Prop :=
  ∃ link, net.links[conn]? = some link ∧ LinkStep link after

theorem Mailed.evolves {net next : Net} (mailed : Mailed net next) {conn : Conn}
    {after : Link} (there : next.links[conn]? = some after) : Evolves net conn after := by
  obtain ⟨link, messages, was, rfl⟩ := mailed conn after there
  exact ⟨link, was, .still ⟨rfl, rfl, rfl, rfl⟩⟩

theorem evolves_setLink {net : Net} {source conn : Conn} {link turned after : Link}
    (was : net.links[source]? = some link) (step : LinkStep link turned)
    (there : (net.setLink source turned).links[conn]? = some after) : Evolves net conn after := by
  obtain ⟨inside, -⟩ := List.getElem?_eq_some_iff.mp was
  rw [getElem?_links_setLink inside] at there
  split at there
  · next own =>
      cases Option.some.inj there
      exact ⟨link, own ▸ was, step⟩
  · exact ⟨after, there, .still (Still.refl after)⟩

/-- The link of a process is new, or the process read a message, or its cache timed out, or
it did nothing. -/
theorem links_step {net next : Net} {event : NetEvent} {conn : Conn} {after : Link}
    (wellFormed : WellFormed net) (taken : net.step event = some next)
    (there : next.links[conn]? = some after) :
    (∃ process routingTable now, after = Link.init process routingTable now) ∨
      Evolves net conn after := by
  cases event with
  | connect process routingTable now =>
      obtain ⟨-, rfl⟩ := connect_cases taken
      rcases Nat.lt_or_ge conn net.links.length with inside | outside
      · have was : net.links[conn]? = some after :=
          (List.getElem?_append_left inside).symm.trans there
        exact Or.inr ⟨after, was, .still (Still.refl after)⟩
      · have new : [Link.init process routingTable now][conn - net.links.length]? = some after :=
          (List.getElem?_append_right outside).symm.trans there
        obtain ⟨only, same⟩ := List.getElem?_eq_some_iff.mp new
        rw [List.getElem_singleton] at same
        exact Or.inl ⟨process, routingTable, now, same.symm⟩
  | requestAuth salt =>
      obtain ⟨-, source, -, rfl⟩ := requestAuth_cases taken
      have mailed : Mailed net (Net.send { net with requesting := none } source
          (.decodable (.vnsAuthRequest ⟨salt⟩))) :=
        mailed_send { net with requesting := none } source _
      exact Or.inr (mailed.evolves there)
  | receive source connText drops =>
      obtain ⟨link, bytes, toServer, handled, received⟩ := receive_cases taken
      obtain ⟨inside, -⟩ := List.getElem?_eq_some_iff.mp received.there
      have mailed := received.mailed
      obtain ⟨middle, messages, between, rfl⟩ := mailed conn after there
      rw [getElem?_links_setLink inside] at between
      split at between
      · next own =>
          cases Option.some.inj between
          exact Or.inr ⟨link, own ▸ received.there, .still ⟨rfl, rfl, rfl, rfl⟩⟩
      · exact Or.inr ⟨middle, between, .still ⟨rfl, rfl, rfl, rfl⟩⟩
  | disconnected source =>
      obtain ⟨-, -, -, rfl⟩ := disconnected_cases taken
      exact Or.inr ⟨after, there, .still (Still.refl after)⟩
  | packetIn port pkt =>
      obtain ⟨-, ⟨-, rfl⟩ | ⟨packet, -, -, rfl⟩⟩ := packetIn_cases taken
      · exact Or.inr ⟨after, there, .still (Still.refl after)⟩
      · exact Or.inr ⟨after, there, .still (Still.refl after)⟩
  | broadcastNext =>
      obtain ⟨packet, number, -, ⟨-, rfl⟩ | ⟨-, rfl⟩⟩ := broadcastNext_cases wellFormed taken
      · exact Or.inr ((mailed_send net number _).evolves there)
      · exact Or.inr ⟨after, there, .still (Still.refl after)⟩
  | routerInfo info =>
      obtain ⟨-, rfl⟩ := routerInfo_cases taken
      exact Or.inr ⟨after, there, .still (Still.refl after)⟩
  | learnNext =>
      obtain ⟨-, -, links, -, -, -, -⟩ := learnNext_cases taken
      exact Or.inr ((mailed_of_links links).evolves there)
  | reads source now =>
      obtain ⟨link, message, toRouter, bytes, turn, was, -, took, wired, turned, rfl⟩ :=
        reads_cases taken
      exact Or.inr (evolves_setLink was (.reads took wired turned) there)
  | timesOut source now =>
      obtain ⟨link, was, running, rfl⟩ := timesOut_cases taken
      exact Or.inr (evolves_setLink was (.timesOut now running) there)

end Cmput313.Network
