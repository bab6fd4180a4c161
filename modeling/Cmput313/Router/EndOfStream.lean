import Cmput313.Router.ReadFromServer

/-!
# The end of the stream

Where the server closed the connection `recv` and `read` return 0, which both loops of
`sr_read_from_server_expect` count as bytes they have read.  A loop that still wants
bytes then calls again, for ever.
-/

set_option autoImplicit false

namespace Cmput313.Router

open Cmput313.Arrivals Cmput313.Bytes Cmput313.Program

def streamLength (stream : Bytes) : Int := toInt (ntohl (peek32 (fun _ => 0) stream 0))

/-- The length word, and behind it the message unless the length is rejected. -/
def HoldsMessage (stream : Bytes) : Prop :=
  4 ≤ stream.length ∧
    (streamLength stream > maxCommandLength ∨ streamLength stream < 0 ∨
      streamLength stream ≤ stream.length)

instance (stream : Bytes) : Decidable (HoldsMessage stream) :=
  inferInstanceAs (Decidable (_ ∧ _))

/-- After finitely many calls of `recv` and `read` both loops are left; the process may
still die of the message. -/
def LeavesLoops (host : Host) (expectedCmd : UInt32) (session : Session) : Prop :=
  ∃ calls, ∀ next, srReadFromServerExpect host calls expectedCmd session ≠ .error .reading next

def handleBody (host : Host) (expectedCmd mLen : UInt32) (body : Bytes) : Vns Int :=
  let buf := bytes32 (htonl mLen) ++ body
  let command := ntohl (peek32 host.memory.fresh buf 4)
  if expectedCmd ≠ 0 ∧ command ≠ expectedCmd ∧ command ≠ vnsClose then
    return -1
  else
    dispatch host ⟨command, toInt mLen, put buf 4 (bytes32 command)⟩

section Loops

variable {host : Host} {calls : Nat} {expectedCmd : UInt32} {session : Session}

theorem readBytes_of_none {count : Nat} (blocks : fill calls count session.socket = none) :
    readBytes calls count session = .error .reading session := by
  have got : (get : Vns Session) session = .ok session session := rfl
  simp only [readBytes, bind, EStateM.bind, got, blocks]
  rfl

theorem handleBody_ne_reading (mLen : UInt32) (body : Bytes) (next : Session) :
    handleBody host expectedCmd mLen body session ≠ .error .reading next := by
  unfold handleBody
  split
  · exact fun impossible => by cases impossible
  · unfold dispatch
    cases commandSwitch host _ session.sr with
    | ok ret sr => simp
    | error fault sr => simp

theorem toInt_take_four (background : Nat → UInt8) {stream : Bytes}
    (long : 4 ≤ stream.length) :
    toInt (ntohl (peek32 background (stream.take 4) 0)) = streamLength stream := by
  have word : peek32 background (stream.take 4) 0 = peek32 (fun _ => 0) stream 0 := by
    have whole : 0 + 4 ≤ (stream.take 4).length := by
      rw [List.length_take]
      omega
    apply bytes32_injective
    rw [bytes32_peek32 _ whole, bytes32_peek32 _ (by omega), List.drop_zero, List.drop_zero,
      List.take_take, Nat.min_self]
  rw [word, streamLength]

section LengthWord

variable {stream : Bytes} {middle : Socket} (long : 4 ≤ stream.length)
  (fills : fill calls 4 session.socket = some (some (stream.take 4), middle))

include long fills

theorem srReadFromServerExpect_of_rejected
    (rejected : streamLength stream > maxCommandLength ∨ streamLength stream < 0) :
    srReadFromServerExpect host calls expectedCmd session =
      .ok (-1) { session with socket := { middle with shut := true } } := by
  simp only [srReadFromServerExpect, bind, EStateM.bind, readBytes_of_fill fills,
    toInt_take_four _ long, if_pos rejected]
  rfl

theorem srReadFromServerExpect_of_accepted
    (accepted : ¬ (streamLength stream > maxCommandLength ∨ streamLength stream < 0)) :
    ∃ mLen, srReadFromServerExpect host calls expectedCmd session =
      (do
        let body ← readBytes calls (streamLength stream - 4).toNat
        match body with
        | none => closeSocket; return -1
        | some body => handleBody host expectedCmd mLen body)
          { session with socket := middle } := by
  refine ⟨ntohl (peek32 host.memory.fresh (stream.take 4) 0), ?_⟩
  rw [srReadFromServerExpect]
  simp only [bind, EStateM.bind, readBytes_of_fill fills, toInt_take_four _ long,
    if_neg accepted]
  cases readBytes calls (streamLength stream - 4).toNat { session with socket := middle } with
  | error stop next => rfl
  | ok body next =>
      cases body with
      | none => rfl
      | some body => simp only [handleBody, toInt_take_four _ long]

end LengthWord

end Loops

section Stream

variable {host : Host} {expectedCmd : UInt32} {session : Session} {stream : Bytes}
  (opened : session.socket.shut = false)
  (delivers : delivered session.socket.arrivals = some stream)

include opened delivers

theorem holdsMessage_of_leavesLoops (leavesLoops : LeavesLoops host expectedCmd session) :
    HoldsMessage stream := by
  obtain ⟨calls, leaves⟩ := leavesLoops
  cases fillsHead : fill calls 4 session.socket with
  | none =>
      -- the first loop calls for ever
      refine absurd ?_ (leaves session)
      rw [srReadFromServerExpect]
      simp only [bind, EStateM.bind, readBytes_of_none fillsHead]
  | some head =>
      obtain ⟨word, middle⟩ := head
      obtain ⟨rfl, long, middleDelivers, middleOpened⟩ := fill_eq_some opened delivers fillsHead
      refine ⟨long, ?_⟩
      by_contra short
      rw [not_or, not_or] at short
      obtain ⟨notLong, notNegative, missing⟩ := short
      obtain ⟨mLen, continues⟩ := @srReadFromServerExpect_of_accepted host _ expectedCmd _ _ _
        long fillsHead (not_or.mpr ⟨notLong, notNegative⟩)
      cases fillsTail : fill calls (streamLength stream - 4).toNat middle with
      | none =>
          -- and so does the second one
          refine absurd ?_ (leaves { session with socket := middle })
          rw [continues]
          simp only [bind, EStateM.bind]
          rw [readBytes_of_none fillsTail]
      | some tail =>
          obtain ⟨body, last⟩ := tail
          obtain ⟨-, enough, -, -⟩ := fill_eq_some middleOpened middleDelivers fillsTail
          rw [List.length_drop] at enough
          omega

theorem leavesLoops_of_holdsMessage (holds : HoldsMessage stream) :
    LeavesLoops host expectedCmd session := by
  obtain ⟨long, enough⟩ := holds
  have cut : stream = stream.take 4 ++ stream.drop 4 := (List.take_append_drop 4 stream).symm
  have head : (stream.take 4).length = 4 := by
    rw [List.length_take]
    omega
  have patient : session.socket.arrivals.length <
      session.socket.arrivals.length + stream.length + 1 := by omega
  obtain ⟨middle, fillsHead, middleDelivers, middleOpened, fewer⟩ :=
    fill_delivered opened (delivers.trans (congrArg some cut)) patient (by omega)
  rw [head] at fillsHead
  refine ⟨session.socket.arrivals.length + stream.length + 1, fun next => ?_⟩
  by_cases rejected : streamLength stream > maxCommandLength ∨ streamLength stream < 0
  · rw [srReadFromServerExpect_of_rejected long fillsHead rejected]
    exact fun impossible => by cases impossible
  · obtain ⟨mLen, continues⟩ := @srReadFromServerExpect_of_accepted host _ expectedCmd _ _ _
      long fillsHead rejected
    generalize count : (streamLength stream - 4).toNat = wanted at continues
    have tail : ((stream.drop 4).take wanted).length = wanted := by
      rw [List.length_take, List.length_drop]
      omega
    have tailCut := (List.take_append_drop wanted (stream.drop 4)).symm
    obtain ⟨last, fillsTail, -, -, -⟩ := fill_delivered middleOpened
      (middleDelivers.trans (congrArg some tailCut)) (Nat.lt_of_le_of_lt fewer patient)
      (by rw [tail]; omega)
    rw [tail] at fillsTail
    rw [continues]
    simp only [bind, EStateM.bind]
    rw [readBytes_of_fill fillsTail]
    exact handleBody_ne_reading _ _ _

/-- However the stream arrives, and with as many signals between its pieces, the loops are
left exactly where it holds what the call wants to read. -/
theorem leavesLoops_iff_holdsMessage :
    LeavesLoops host expectedCmd session ↔ HoldsMessage stream :=
  ⟨holdsMessage_of_leavesLoops opened delivers, leavesLoops_of_holdsMessage opened delivers⟩

end Stream

/-- A banner that comes in two pieces, after which the server closes the connection. -/
theorem bannerThenEnd_leavesLoops :
    LeavesLoops quietHost 0
        ⟨⟨[.piece 0 [0], .interrupt, .piece 0 [8, 0, 0, 0, 8]], true, false⟩, [],
          smallNetwork⟩ ↔
      HoldsMessage emptyBanner.bytes :=
  leavesLoops_iff_holdsMessage rfl (by decide)

/-- The server closes the connection between two messages. -/
theorem closedConnection_not_leavesLoops :
    ¬ LeavesLoops quietHost 0 ⟨⟨[], true, false⟩, [], smallNetwork⟩ := by
  intro leaves
  have holds : HoldsMessage [] := holdsMessage_of_leavesLoops rfl rfl leaves
  exact absurd holds (by decide)

end Cmput313.Router
