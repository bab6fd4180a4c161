import Cmput313.Lib.TextFile
import Cmput313.Pox.RoundTrip
import Cmput313.Router.ReadFromServer
import Cmput313.Router.Sha1Digest

/-!
# The reply to an authentication request

`sr_handle_auth_request` of `sr_vns_comm.c`, which hashes the salt of the request and the
buffer that it read the first line of `auth_key` into.
-/

set_option autoImplicit false

namespace Cmput313.Router

open Cmput313.Bytes Cmput313.CText Cmput313.Pox Cmput313.StructPack Sha1

def authKeyLen : Nat := 64
def sha1Len : Nat := 20
def sizeofAuthRequest : Nat := 8
def sizeofAuthReply : Nat := 12

def vnsAuthReply : UInt32 := 256

/-- What `main` makes of its arguments, in `struct sr_instance`: an array of 32 characters
for `user` and `host`, of 30 for `template`, and `topo_id`. -/
structure SrNames where
  user : Name
  host : Name
  template : Name
  topoId : UInt16

/-- These members and, behind them, `sin_family`, which is `AF_INET`. -/
def SrNames.members (names : SrNames) : Bytes :=
  strncpy 32 names.user ++ (strncpy 32 names.host ++ strncpy 30 names.template ++
    bytes16 names.topoId ++ bytes16 2)

/-- What `strlen` and `strcpy` see from `sr->user` on.  A name that fills the array has no
NUL there, and goes on in the members behind. -/
def SrNames.userText (names : SrNames) : Name :=
  cString 98 names.members

/-- `auth_key` behind `fgets`, which writes the first line and its NUL over what the stack
held; `none` where the file has no line. -/
def readAuthKey (stack : Vector UInt8 65) (file : Bytes) : Option Bytes :=
  match fgetsLines (authKeyLen + 1) file with
  | [] => none
  | line :: _ => some (line ++ 0 :: stack.toList.drop (line.length + 1))

def digestOctets (words : Words) : Bytes :=
  packI words.a ++ packI words.b ++ packI words.c ++ packI words.d ++ packI words.e

/-- The message that is sent, from a block of `malloc`. -/
def authReply (memory : Memory) (user : Name) (words : Words) : Bytes :=
  let len := sizeofAuthReply + user.length + sha1Len
  putAll [(0, packI (UInt32.ofNat len)), (4, packI vnsAuthReply),
    (8, packI (UInt32.ofNat user.length)), (sizeofAuthReply, user ++ [0]),
    (sizeofAuthReply + user.length, digestOctets words)] (read memory.fresh [] 0 len)

/-- `none` where a write leaves `Message_Block`, and `some none` where the function returns
0; `authKey` is what the file holds, if it can be opened. -/
def srHandleAuthRequest (memory : Memory) (stack : Vector UInt8 65) (context : Sha1Context)
    (authKey : Option Bytes) (names : SrNames) (req : Bytes) : Option (Option Bytes) :=
  match authKey.bind (readAuthKey stack) with
  | none => some none
  | some key => do
      let saltLen := (ntohl (peek32 memory.beyond req 0)).toUInt64 - 8
      let salt := read memory.beyond req sizeofAuthRequest saltLen.toUInt32.toNat
      let context := sha1Reset context
      let context ← sha1Input context salt
      let context ← sha1Input context (key.take authKeyLen)
      let (computed, context) ← sha1Result context
      if computed = 0 then return none
      else return some (authReply memory names.userText context.messageDigest)

/-! ## The name of the user -/

theorem SrNames.userText_short (names : SrNames) : names.userText.length < 2 ^ 32 :=
  Nat.lt_of_le_of_lt (cString_length_le 98 names.members) (by decide)

/-! ## The message -/

theorem digestOctets_length (words : Words) : (digestOctets words).length = sha1Len := rfl

theorem put_over_nul {text bytes block : Bytes} (some_ : 1 ≤ bytes.length)
    (ends : block.length = text.length + bytes.length) :
    put (text ++ [(0 : UInt8)] ++ block.drop (text ++ [(0 : UInt8)]).length) text.length bytes =
      text ++ bytes := by
  have front : (text ++ [(0 : UInt8)] ++
      block.drop (text ++ [(0 : UInt8)]).length).take text.length = text := by
    rw [List.append_assoc, List.take_left]
  have back : (text ++ [(0 : UInt8)] ++ block.drop (text ++ [(0 : UInt8)]).length).drop
      (text.length + bytes.length) = [] := by
    apply List.drop_eq_nil_of_le
    simp only [List.length_append, List.length_drop, List.length_singleton]
    omega
  rw [put, front, back, List.append_nil]

/-- The digest takes the place of the NUL behind the name and fills the block. -/
theorem authReply_eq (memory : Memory) (user : Name) (words : Words) :
    authReply memory user words =
      packI (UInt32.ofNat (sizeofAuthReply + user.length + sha1Len)) ++ packI vnsAuthReply ++
        packI (UInt32.ofNat user.length) ++ user ++ digestOctets words := by
  have block : (read memory.fresh [] 0 (sizeofAuthReply + user.length + sha1Len)).length =
      32 + user.length := by
    rw [read_length, sizeofAuthReply, sha1Len]
    omega
  rw [authReply]
  generalize read memory.fresh [] 0 (sizeofAuthReply + user.length + sha1Len) = buffer at *
  have named := putAll_contiguous
    [(0, packI (UInt32.ofNat (sizeofAuthReply + user.length + sha1Len))),
      (4, packI vnsAuthReply), (8, packI (UInt32.ofNat user.length)),
      (sizeofAuthReply, user ++ [0])] 0 buffer ⟨rfl, rfl, rfl, rfl, trivial⟩ (by
      simp only [block, List.flatMap_cons, List.flatMap_nil, List.length_append, packI_length,
        List.length_singleton, List.length_nil]
      omega)
  have text : (packI (UInt32.ofNat (sizeofAuthReply + user.length + sha1Len)) ++
      packI vnsAuthReply ++ packI (UInt32.ofNat user.length) ++ user).length =
        sizeofAuthReply + user.length := by
    simp only [List.length_append, packI_length, sizeofAuthReply]
  have digest := @put_over_nul
    (packI (UInt32.ofNat (sizeofAuthReply + user.length + sha1Len)) ++
      packI vnsAuthReply ++ packI (UInt32.ofNat user.length) ++ user) (digestOctets words) buffer
    (by rw [digestOctets_length]; decide)
    (by rw [block, text, digestOctets_length, sizeofAuthReply, sha1Len]; omega)
  rw [text] at digest
  rw [← digest]
  simp only [List.take_zero, List.nil_append, List.flatMap_cons, List.flatMap_nil,
    List.append_nil, Nat.zero_add] at named
  have split : ∀ (writes : List (Nat × Bytes)) (last : Nat × Bytes),
      putAll (writes ++ [last]) buffer = put (putAll writes buffer) last.1 last.2 :=
    fun writes last => List.foldl_append
  refine (split [_, _, _, _] _).trans ?_
  rw [named]
  simp only [List.append_assoc]

theorem unpack_authReply (memory : Memory) {user : Name} (short : user.length < 2 ^ 32)
    (words : Words) :
    VnsAuthReply.unpack ((authReply memory user words).drop sizeofBase) =
      some ⟨user, digestOctets words⟩ := by
  obtain ⟨body, packed, unpacked⟩ :=
    @VnsAuthReply.unpack_pack ⟨user, digestOctets words⟩ short
  have same : (authReply memory user words).drop sizeofBase = body := by
    rw [VnsAuthReply.pack, packUnsigned_of_lt short, ← packI_ofNat] at packed
    rw [← Option.some.inj packed, authReply_eq]
    simp only [List.append_assoc]
    rfl
  rw [same, unpacked]

/-! ## What is hashed -/

def hashedKey (stack : Vector UInt8 65) (file : Bytes) : Option Bytes :=
  (readAuthKey stack file).map (List.take authKeyLen)

section Request

variable (memory : Memory) (message : VnsMessage)

theorem dispatched_mLen :
    ntohl (peek32 memory.beyond message.dispatched.buf 0) =
      UInt32.ofNat message.bytes.length := by
  have long := message.long
  have kept : peek32 memory.beyond message.dispatched.buf 0 =
      peek32 memory.beyond message.bytes 0 :=
    peek32_put_outside _ (by rw [bytes32_length]; omega) (Or.inl (Nat.le_refl _))
  rw [kept, ntohl]
  apply swap32_injective
  apply bytes32_injective
  rw [swap32_swap32, bytes32_peek32 _ (by omega), List.drop_zero, message.mLen, packI_eq]

theorem dispatched_salt :
    read memory.beyond message.dispatched.buf sizeofAuthRequest (message.bytes.length - 8) =
      message.bytes.drop 8 := by
  have long := message.long
  have kept : read memory.beyond message.dispatched.buf sizeofAuthRequest
      (message.bytes.length - 8) =
        read memory.beyond message.bytes sizeofAuthRequest (message.bytes.length - 8) :=
    read_put_outside _ (by rw [bytes32_length]; omega)
      (Or.inr (by rw [bytes32_length, sizeofAuthRequest]))
  rw [kept, read_of_le _ _ (by rw [sizeofAuthRequest]; omega), sizeofAuthRequest,
    List.take_of_length_le (by rw [List.length_drop])]

theorem saltLen_eq :
    ((ntohl (peek32 memory.beyond message.dispatched.buf 0)).toUInt64 - 8).toUInt32.toNat =
      message.bytes.length - 8 := by
  have long := message.long
  have short := message.short
  have number : (UInt32.ofNat message.bytes.length).toUInt64.toNat = message.bytes.length := by
    rw [UInt32.toNat_toUInt64, UInt32.toNat_ofNat']
    omega
  rw [dispatched_mLen, UInt64.toNat_toUInt32, UInt64.toNat_sub_of_le, number]
  · show (message.bytes.length - 8) % 2 ^ 32 = _
    omega
  · rw [UInt64.le_iff_toNat_le, number]
    exact long

theorem srHandleAuthRequest_eq (stack : Vector UInt8 65) (context : Sha1Context)
    (authKey : Option Bytes) (names : SrNames) :
    srHandleAuthRequest memory stack context authKey names message.dispatched.buf =
      some ((authKey.bind (hashedKey stack)).map fun key =>
        authReply memory names.userText (sha1 (message.bytes.drop 8 ++ key))) := by
  have short := message.short
  have hashed : authKey.bind (hashedKey stack) =
      (authKey.bind (readAuthKey stack)).map (List.take authKeyLen) := by
    cases authKey with
    | none => rfl
    | some file => rfl
  rw [hashed]
  cases opened : authKey.bind (readAuthKey stack) with
  | none => simp only [srHandleAuthRequest, opened, Option.map_none]
  | some key =>
      have keyShort := List.length_take_le authKeyLen key
      have saltShort : (message.bytes.drop 8).length ≤ 10000 := by
        rw [List.length_drop]
        omega
      obtain ⟨salted, saltTaken, absorbsSalt⟩ :=
        (sha1Reset_absorbing context).sha1Input (message.bytes.drop 8)
          (by rw [List.nil_append]; omega)
      obtain ⟨keyed, keyTaken, absorbsKey⟩ := absorbsSalt.sha1Input (key.take authKeyLen) (by
        rw [List.nil_append, List.length_append]
        simp only [authKeyLen] at keyShort ⊢
        omega)
      obtain ⟨last, result, -, -, digest⟩ := @sha1Result_represents _ (.absorbing _) absorbsKey
      rw [List.nil_append] at digest
      simp only [srHandleAuthRequest, opened, saltLen_eq, dispatched_salt, saltTaken, keyTaken,
        result, Option.bind_eq_bind, Option.bind_some]
      rw [digest]
      rfl

/-- A request is answered as long as the file can be opened and has a line; the server then
reads the name of the user and the digest of its salt and the key. -/
theorem srHandleAuthRequest_answers (stack : Vector UInt8 65) (context : Sha1Context)
    (authKey : Option Bytes) (names : SrNames) :
    ∃ answer, srHandleAuthRequest memory stack context authKey names message.dispatched.buf =
        some answer ∧
      answer.map (fun reply => VnsAuthReply.unpack (reply.drop sizeofBase)) =
        (authKey.bind (hashedKey stack)).map fun key => some
          ⟨names.userText, digestOctets (sha1 (message.bytes.drop 8 ++ key))⟩ := by
  refine ⟨_, srHandleAuthRequest_eq memory message stack context authKey names, ?_⟩
  cases authKey.bind (hashedKey stack) with
  | none => rfl
  | some key => exact congrArg some (unpack_authReply memory names.userText_short _)

end Request

/-! ## The file and the stack -/

theorem line_le_head_fgetsFrom {size : Nat} {text line : Bytes} (some_ : line ≠ []) :
    ∃ first ∈ (fgetsFrom size line text).head?, line.length ≤ first.length := by
  induction text generalizing line with
  | nil => exact ⟨line, by rw [fgetsFrom, if_neg some_]; rfl, Nat.le_refl _⟩
  | cons char rest inductionHypothesis =>
      have longer : (line ++ [char]).length = line.length + 1 := List.length_append
      rw [fgetsFrom]
      split
      · exact ⟨line ++ [char], rfl, by omega⟩
      · obtain ⟨first, member, reaches⟩ := @inductionHypothesis (line ++ [char]) (by simp)
        exact ⟨first, member, by omega⟩

/-- A call of `fgets` reads more than `count` characters behind a line as long as the text
has more, without a newline among the first `count`. -/
theorem length_head_fgetsFrom {size count : Nat} {text line : Bytes} :
    line.length + count + 1 < size →
      ((∃ first ∈ (fgetsFrom size line text).head?, line.length + count < first.length) ↔
        count < text.length ∧ 10 ∉ text.take count) := by
  induction text generalizing line count with
  | nil =>
      intro room
      rw [fgetsFrom]
      refine iff_of_false ?_ (fun both => absurd both.1 (Nat.not_lt_zero _))
      rintro ⟨first, member, longer⟩
      split at member
      · cases member
      · rw [List.head?_cons, Option.mem_some] at member
        rw [← member] at longer
        omega
  | cons char rest inductionHypothesis =>
      intro room
      have longer : (line ++ [char]).length = line.length + 1 := List.length_append
      rw [fgetsFrom]
      by_cases ends : char = 10 ∨ (line ++ [char]).length + 1 = size
      · rw [if_pos ends, List.head?_cons]
        cases count with
        | zero => exact iff_of_true ⟨_, rfl, by omega⟩ ⟨Nat.succ_pos _, by simp⟩
        | succ count =>
            have newline : char = 10 := ends.resolve_right (by omega)
            refine iff_of_false ?_ fun both => both.2 (by simp [newline])
            rintro ⟨first, member, reaches⟩
            rw [← Option.mem_some.mp member] at reaches
            omega
      · rw [if_neg ends]
        obtain ⟨first, member, reaches⟩ :=
          @line_le_head_fgetsFrom size rest (line ++ [char]) (by simp)
        cases count with
        | zero => exact iff_of_true ⟨first, member, by omega⟩ ⟨Nat.succ_pos _, by simp⟩
        | succ count =>
            have other : char ≠ 10 := fun newline => ends (Or.inl newline)
            have later := @inductionHypothesis count (line ++ [char]) (by omega)
            rw [longer, Nat.add_right_comm] at later
            rw [← Nat.add_assoc, later, List.length_cons, List.take_succ_cons, List.mem_cons,
              not_or]
            constructor
            · exact fun both => ⟨by omega, Ne.symm other, both.2⟩
            · exact fun both => ⟨by omega, both.2.2⟩

/-- Only a first line of 63 characters or more covers all of the buffer that is hashed. -/
theorem take_line_append_eq_iff (line : Bytes) :
    (∀ stack other : Vector UInt8 65,
      (line ++ 0 :: stack.toList.drop (line.length + 1)).take authKeyLen =
        (line ++ 0 :: other.toList.drop (line.length + 1)).take authKeyLen) ↔
      62 < line.length := by
  constructor
  · intro same
    by_contra uncovered
    have equal := congrArg (·[line.length + 1]?)
      (same (Vector.replicate 65 0) (Vector.replicate 65 1))
    have inside : line.length + 1 < authKeyLen := by
      rw [authKeyLen]
      omega
    have behind : line.length + 1 < 65 := by omega
    have index : line.length + 1 - line.length = 1 := by omega
    simp only [List.getElem?_take, if_pos inside,
      List.getElem?_append_right (Nat.le_succ line.length), Nat.succ_eq_add_one, index,
      List.getElem?_cons_succ, List.getElem?_drop, Nat.add_zero, Vector.toList_replicate,
      List.getElem?_replicate, if_pos behind] at equal
    exact absurd (Option.some.inj equal) (by decide)
  · intro covered stack other
    have nul : ∀ rest : Bytes, (line ++ 0 :: rest).take authKeyLen =
        (line ++ [0]).take authKeyLen := by
      intro rest
      rw [← List.singleton_append, ← List.append_assoc, List.take_append_of_le_length]
      rw [List.length_append, List.length_singleton, authKeyLen]
      omega
    exact (nul _).trans (nul _).symm

/-- What is hashed of `auth_key` is the same whatever was on the stack exactly if the file
is empty, or has at least 63 characters and no newline among the first 62. -/
theorem hashedKey_determined_iff (file : Bytes) :
    (∀ stack other, hashedKey stack file = hashedKey other file) ↔
      file = [] ∨ 62 < file.length ∧ 10 ∉ file.take 62 := by
  have reads := @length_head_fgetsFrom (authKeyLen + 1) 62 file [] (by decide)
  have empty : fgetsLines (authKeyLen + 1) file = [] ↔ file = [] := by
    cases file with
    | nil => exact iff_of_true rfl rfl
    | cons char rest =>
        refine iff_of_false ?_ (List.cons_ne_nil _ _)
        rw [fgetsLines, fgetsFrom]
        split
        · exact List.cons_ne_nil _ _
        · intro none_
          obtain ⟨first, member, -⟩ :=
            @line_le_head_fgetsFrom (authKeyLen + 1) rest ([] ++ [char]) (by simp)
          rw [none_] at member
          cases member
  have hashed : ∀ stack, hashedKey stack file =
      (fgetsLines (authKeyLen + 1) file).head?.map fun line =>
        (line ++ 0 :: stack.toList.drop (line.length + 1)).take authKeyLen := by
    intro stack
    rw [hashedKey, readAuthKey]
    cases fgetsLines (authKeyLen + 1) file <;> rfl
  rw [← reads, ← empty]
  simp only [hashed]
  rw [← fgetsLines]
  cases lines : fgetsLines (authKeyLen + 1) file with
  | nil => exact iff_of_true (fun _ _ => rfl) (Or.inl rfl)
  | cons line rest =>
      simp only [List.head?_cons, Option.map_some, Option.some.injEq, Option.mem_some,
        exists_eq_left', List.length_nil, Nat.zero_add, reduceCtorEq, false_or]
      exact take_line_append_eq_iff line

end Cmput313.Router
