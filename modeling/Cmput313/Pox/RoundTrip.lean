import Cmput313.Pox.VnsProtocol

/-!
# What the messages of the VNS server say after a round trip

Each class reads its own body back: the fields of a fixed width come back whole
when they fit and hold no NUL, the payload behind them whatever it is.
-/

set_option autoImplicit false

namespace Cmput313.Pox

open Cmput313.Inet Cmput313.StructPack

/-! ## Fields -/

/-- A text that its field neither cuts nor strips. -/
def Fits (width : Nat) (text : Str) : Prop := 0 ∉ text ∧ text.length ≤ width

instance (width : Nat) (text : Str) : Decidable (Fits width text) :=
  inferInstanceAs (Decidable (_ ∧ _))

theorem Fits.stripNullChars_packS {width : Nat} {text : Str} (fits : Fits width text) :
    stripNullChars (packS width text) = text := by
  rw [Pox.stripNullChars_packS width fits.1, List.take_of_length_le fits.2]

theorem slice_append {front field back : Str} {offset size : Nat}
    (frontSize : front.length = offset) (fieldSize : field.length = size) :
    slice offset size (front ++ (field ++ back)) = field := by
  rw [slice, List.drop_left' frontSize, List.take_left' fieldSize]

theorem slice_slice {body : Str} {offset size inner width : Nat}
    (inside : inner + width ≤ size) :
    slice inner width (slice offset size body) = slice (offset + inner) width body := by
  rw [slice, slice, slice, List.drop_take, List.take_take, List.drop_drop,
    Nat.min_eq_left (by omega)]

theorem packUnsigned_of_lt {size value : Nat} (fits : value < 256 ^ size) :
    packUnsigned size value = some (bigEndian size value) := if_pos fits

/-! ## `VNSOpen` -/

namespace VnsOpen

def WellFormed (message : VnsOpen) : Prop :=
  message.topoId < 65536 ∧ Fits idSize message.vhost ∧ Fits idSize message.user ∧
    Fits idSize message.pw

theorem unpack_pack {message : VnsOpen} (wellFormed : message.WellFormed) :
    ∃ body, message.pack = some body ∧ unpack body = some message := by
  obtain ⟨topoIdFits, vhostFits, userFits, pwFits⟩ := wellFormed
  have packed : message.pack = some (bigEndian 2 message.topoId ++ bigEndian 2 0 ++
      packS idSize message.vhost ++ packS idSize message.user ++
      packS idSize message.pw) := by
    rw [pack, packUnsigned_of_lt topoIdFits, packUnsigned_of_lt (by decide : 0 < 256 ^ 2)]
    rfl
  refine ⟨_, packed, ?_⟩
  generalize layout : bigEndian 2 message.topoId ++ bigEndian 2 0 ++
    packS idSize message.vhost ++ packS idSize message.user ++ packS idSize message.pw = body
  have whole : body.length = size := by
    rw [← layout]
    simp [size, idSize]
  have topoId : slice 0 2 body = bigEndian 2 message.topoId := by
    have first := @slice_append [] (bigEndian 2 message.topoId) (bigEndian 2 0 ++
      packS idSize message.vhost ++ packS idSize message.user ++ packS idSize message.pw)
      0 2 rfl (by simp)
    simpa [← layout] using first
  have vhost : slice 4 idSize body = packS idSize message.vhost := by
    have second := @slice_append (bigEndian 2 message.topoId ++ bigEndian 2 0)
      (packS idSize message.vhost) (packS idSize message.user ++ packS idSize message.pw)
      4 idSize (by simp) (by simp)
    simpa [← layout] using second
  have user : slice 36 idSize body = packS idSize message.user := by
    have third := @slice_append
      (bigEndian 2 message.topoId ++ bigEndian 2 0 ++ packS idSize message.vhost)
      (packS idSize message.user) (packS idSize message.pw) 36 idSize
      (by simp [idSize]) (by simp)
    simpa [← layout] using third
  have pw : slice 68 idSize body = packS idSize message.pw := by
    have fourth := @slice_append (bigEndian 2 message.topoId ++ bigEndian 2 0 ++
      packS idSize message.vhost ++ packS idSize message.user)
      (packS idSize message.pw) [] 68 idSize (by simp [idSize]) (by simp)
    simpa [← layout] using fourth
  have number : unpackUnsigned (bigEndian 2 message.topoId) = message.topoId :=
    unpackUnsigned_bigEndian topoIdFits
  rw [unpack, if_pos whole, topoId, vhost, user, pw, number,
    vhostFits.stripNullChars_packS, userFits.stripNullChars_packS,
    pwFits.stripNullChars_packS]

end VnsOpen

/-! ## The messages of one text -/

theorem unpackText_packS {width : Nat} {text : Str} (fits : Fits width text) :
    unpackText width (packS width text) = some text := by
  rw [unpackText, if_pos (packS_length width text), fits.stripNullChars_packS]

theorem VnsClose.unpack_pack {message : VnsClose} (fits : Fits VnsClose.size message.msg) :
    VnsClose.unpack message.pack = some message := by
  rw [VnsClose.unpack, VnsClose.pack, unpackText_packS fits]
  rfl

theorem VnsBanner.unpack_pack {message : VnsBanner} (fits : Fits VnsBanner.size message.msg) :
    VnsBanner.unpack message.pack = some message := by
  rw [VnsBanner.unpack, VnsBanner.pack, unpackText_packS fits]
  rfl

/-! ## The messages of a text and a payload -/

theorem VnsPacket.unpack_pack {packet : VnsPacket}
    (fits : Fits VnsPacket.headerSize packet.intfName) :
    VnsPacket.unpack packet.pack = some packet := by
  have header : packet.pack.take VnsPacket.headerSize =
      packS VnsPacket.headerSize packet.intfName := List.take_left' (packS_length _ _)
  have payload : packet.pack.drop VnsPacket.headerSize = packet.ethernetFrame :=
    List.drop_left' (packS_length _ _)
  rw [VnsPacket.unpack, header, payload, if_pos (packS_length _ _),
    fits.stripNullChars_packS]

theorem VnsRtable.unpack_pack {message : VnsRtable} (fits : Fits idSize message.vrhost) :
    VnsRtable.unpack message.pack = message := by
  have header : message.pack.take idSize = packS idSize message.vrhost :=
    List.take_left' (packS_length _ _)
  have payload : message.pack.drop idSize = message.rtable :=
    List.drop_left' (packS_length _ _)
  rw [VnsRtable.unpack, header, payload, fits.stripNullChars_packS]

/-! ## `VNSOpenTemplate` -/

/-- A canonical dotted quad and a mask of at most 32 bits. -/
def FilterWellFormed (srcFilter : SrcFilter) : Prop :=
  (∃ address : Address, srcFilter.1 = inetNtoa address) ∧ srcFilter.2 ≤ 32

namespace VnsOpenTemplate

def WellFormed (message : VnsOpenTemplate) : Prop :=
  Fits 30 message.templateName ∧ Fits idSize message.vrhost ∧
    ∀ srcFilter ∈ message.srcFilters, FilterWellFormed srcFilter

theorem packFilter_record {srcFilter : SrcFilter} (wellFormed : FilterWellFormed srcFilter) :
    ∃ record, packFilter srcFilter = some record ∧ record.length = 5 ∧
      unpackFilter record 0 = some srcFilter := by
  obtain ⟨ip, mask⟩ := srcFilter
  obtain ⟨⟨address, canonical⟩, maskFits⟩ := wellFormed
  dsimp only at canonical maskFits
  have maskByte : mask < 256 ^ 1 := by omega
  have fourBytes : address.toList.length = 4 := address.length_toList
  refine ⟨address.toList ++ bigEndian 1 mask, ?_, by simp, ?_⟩
  · rw [packFilter, canonical, inetAton_inetNtoa, packUnsigned_of_lt maskByte]
    rfl
  · have addressBytes : slice (0 * 5) 4 (address.toList ++ bigEndian 1 mask) =
        address.toList := @slice_append [] _ _ 0 4 rfl fourBytes
    have maskBytes : slice (0 * 5 + 4) 1 (address.toList ++ bigEndian 1 mask) =
        bigEndian 1 mask := by
      have last := @slice_append address.toList (bigEndian 1 mask) [] 4 1 fourBytes (by simp)
      rwa [List.append_nil] at last
    have dotted : ntoaPacked address.toList = some ip := by
      rw [ntoaPacked, dif_pos fourBytes, canonical]
      rfl
    have number : unpackUnsigned (bigEndian 1 mask) = mask :=
      unpackUnsigned_bigEndian maskByte
    rw [unpackFilter, addressBytes, maskBytes, dotted, number]
    exact if_neg (by omega)

theorem packFilters_records {srcFilters : List SrcFilter}
    (wellFormed : ∀ srcFilter ∈ srcFilters, FilterWellFormed srcFilter) :
    ∃ records, srcFilters.mapM packFilter = some records ∧
      (∀ record ∈ records, record.length = 5) ∧
      records.mapM (fun record => unpackFilter record 0) = some srcFilters := by
  induction srcFilters with
  | nil => exact ⟨[], rfl, by simp, rfl⟩
  | cons srcFilter rest inductionHypothesis =>
      obtain ⟨record, packed, sized, unpacked⟩ :=
        packFilter_record (wellFormed srcFilter (List.mem_cons_self ..))
      obtain ⟨records, restPacked, restSized, restUnpacked⟩ :=
        inductionHypothesis fun other member =>
          wellFormed other (List.mem_cons_of_mem _ member)
      refine ⟨record :: records, ?_, ?_, ?_⟩
      · rw [List.mapM_cons, packed, restPacked]
        rfl
      · intro other member
        cases member with
        | head => exact sized
        | tail _ later => exact restSized other later
      · rw [List.mapM_cons, unpacked, restUnpacked]
        rfl

/-- The offsets of the loop stay inside the record of their own filter. -/
theorem unpackFilter_slice (sfBytes : Str) (i : Nat) :
    unpackFilter sfBytes i = unpackFilter (slice (5 * i) 5 sfBytes) 0 := by
  have address : slice (0 * 5) 4 (slice (5 * i) 5 sfBytes) = slice (i * 5) 4 sfBytes := by
    rw [slice_slice (by decide), Nat.zero_mul, Nat.add_zero, Nat.mul_comm]
  have mask : slice (0 * 5 + 4) 1 (slice (5 * i) 5 sfBytes) = slice (i * 5 + 4) 1 sfBytes := by
    rw [slice_slice (by decide), Nat.zero_mul, Nat.zero_add, Nat.mul_comm]
  rw [unpackFilter, unpackFilter, address, mask]

theorem unpackFilters_flatten {records : List Str}
    (sized : ∀ record ∈ records, record.length = 5) :
    (List.range (records.flatten.length / 5)).mapM (unpackFilter records.flatten) =
      records.mapM (fun record => unpackFilter record 0) := by
  have count : records.flatten.length / 5 = records.length := by
    rw [length_flatten_records sized, Nat.mul_div_cancel_left _ (by decide)]
  have cut := map_range_records sized []
  rw [List.append_nil] at cut
  have perRecord : unpackFilter records.flatten =
      (fun record => unpackFilter record 0) ∘ fun i => slice (5 * i) 5 records.flatten :=
    funext (unpackFilter_slice records.flatten)
  rw [count, perRecord, ← List.mapM_map]
  exact congrArg (fun pieces => pieces.mapM fun record => unpackFilter record 0) cut

theorem unpack_pack {message : VnsOpenTemplate} (wellFormed : message.WellFormed) :
    ∃ body, message.pack = some body ∧ unpack body = some message := by
  obtain ⟨nameFits, vrhostFits, filtersWellFormed⟩ := wellFormed
  obtain ⟨records, packed, sized, unpacked⟩ := packFilters_records filtersWellFormed
  have layout : message.pack = some (packS 30 message.templateName ++
      packS idSize message.vrhost ++ records.flatten) := by
    rw [pack, packed]
    rfl
  refine ⟨_, layout, ?_⟩
  generalize whole : packS 30 message.templateName ++ packS idSize message.vrhost ++
    records.flatten = body
  have headerLength : (packS 30 message.templateName ++
      packS idSize message.vrhost).length = headerSize := by simp [headerSize, idSize]
  have header : (body.take headerSize).length = headerSize := by
    rw [← whole, List.take_left' headerLength, headerLength]
  have payload : body.drop headerSize = records.flatten := by
    rw [← whole, List.drop_left' headerLength]
  have templateName : slice 0 30 body = packS 30 message.templateName := by
    rw [← whole, List.append_assoc]
    exact @slice_append [] _ _ 0 30 rfl (packS_length _ _)
  have vrhost : slice 30 idSize body = packS idSize message.vrhost := by
    rw [← whole, List.append_assoc]
    exact slice_append (packS_length _ _) (packS_length _ _)
  have filters := (unpackFilters_flatten sized).trans unpacked
  rw [unpack, if_pos header, payload, templateName, vrhost,
    nameFits.stripNullChars_packS, vrhostFits.stripNullChars_packS]
  dsimp only
  rw [filters]
  exact congrArg some (dif_neg message.filtered)

end VnsOpenTemplate

/-! ## The messages of the authentication -/

/-- The length in front of the user name is an `I`. -/
theorem VnsAuthReply.pack_eq_some_iff (message : VnsAuthReply) :
    (∃ body, message.pack = some body) ↔ message.username.length < 4294967296 := by
  constructor
  · intro ⟨body, packed⟩
    by_contra tooLong
    have refused : packUnsigned 4 message.username.length = none := if_neg tooLong
    rw [VnsAuthReply.pack, refused] at packed
    cases packed
  · intro fits
    rw [VnsAuthReply.pack, packUnsigned_of_lt fits]
    exact ⟨_, rfl⟩

theorem VnsAuthReply.unpack_pack {message : VnsAuthReply}
    (fits : message.username.length < 4294967296) :
    ∃ body, message.pack = some body ∧ VnsAuthReply.unpack body = some message := by
  have packed : message.pack = some (bigEndian 4 message.username.length ++
      message.username ++ message.ssp) := by
    rw [VnsAuthReply.pack, packUnsigned_of_lt fits]
    rfl
  refine ⟨_, packed, ?_⟩
  rw [List.append_assoc]
  have header : (bigEndian 4 message.username.length ++
      (message.username ++ message.ssp)).take 4 = bigEndian 4 message.username.length :=
    List.take_left' (bigEndian_length _ _)
  have payload : (bigEndian 4 message.username.length ++
      (message.username ++ message.ssp)).drop 4 = message.username ++ message.ssp :=
    List.drop_left' (bigEndian_length _ _)
  have number : unpackUnsigned (bigEndian 4 message.username.length) =
      message.username.length := unpackUnsigned_bigEndian fits
  rw [VnsAuthReply.unpack, header, payload, if_pos (bigEndian_length _ _), number]
  dsimp only
  rw [List.take_left, List.drop_left]

theorem VnsAuthStatus.unpack_pack (message : VnsAuthStatus) :
    ∃ body, message.pack = some body ∧ VnsAuthStatus.unpack body = some message := by
  obtain ⟨authOk, msg⟩ := message
  cases authOk <;> exact ⟨_, rfl, rfl⟩

/-! ## Any message -/

inductive VnsMessage where
  | vnsOpen (message : VnsOpen)
  | vnsClose (message : VnsClose)
  | vnsPacket (message : VnsPacket)
  | vnsBanner (message : VnsBanner)
  | vnsRtable (message : VnsRtable)
  | vnsOpenTemplate (message : VnsOpenTemplate)
  | vnsAuthRequest (message : VnsAuthRequest)
  | vnsAuthReply (message : VnsAuthReply)
  | vnsAuthStatus (message : VnsAuthStatus)
  deriving DecidableEq

namespace VnsMessage

def getType : VnsMessage → UInt32
  | vnsOpen _ => VnsOpen.getType
  | vnsClose _ => VnsClose.getType
  | vnsPacket _ => VnsPacket.getType
  | vnsBanner _ => VnsBanner.getType
  | vnsRtable _ => VnsRtable.getType
  | vnsOpenTemplate _ => VnsOpenTemplate.getType
  | vnsAuthRequest _ => VnsAuthRequest.getType
  | vnsAuthReply _ => VnsAuthReply.getType
  | vnsAuthStatus _ => VnsAuthStatus.getType

def pack : VnsMessage → Option Str
  | vnsOpen message => message.pack
  | vnsClose message => some message.pack
  | vnsPacket message => some message.pack
  | vnsBanner message => some message.pack
  | vnsRtable message => some message.pack
  | vnsOpenTemplate message => message.pack
  | vnsAuthRequest message => some message.pack
  | vnsAuthReply message => message.pack
  | vnsAuthStatus message => message.pack

/-- `unpack` of the class of `VNS_MESSAGES` with this type. -/
def unpackAs (type : UInt32) (body : Str) : Option VnsMessage :=
  if type = VnsOpen.getType then (VnsOpen.unpack body).map vnsOpen
  else if type = VnsClose.getType then (VnsClose.unpack body).map vnsClose
  else if type = VnsPacket.getType then (VnsPacket.unpack body).map vnsPacket
  else if type = VnsBanner.getType then (VnsBanner.unpack body).map vnsBanner
  else if type = VnsRtable.getType then some (vnsRtable (VnsRtable.unpack body))
  else if type = VnsOpenTemplate.getType then
    (VnsOpenTemplate.unpack body).map vnsOpenTemplate
  else if type = VnsAuthRequest.getType then
    some (vnsAuthRequest (VnsAuthRequest.unpack body))
  else if type = VnsAuthReply.getType then (VnsAuthReply.unpack body).map vnsAuthReply
  else if type = VnsAuthStatus.getType then (VnsAuthStatus.unpack body).map vnsAuthStatus
  else none

/-- The fields of a fixed width fit, the numbers are in range and the addresses are
canonical; a payload, a user name or a salt is of any length. -/
def WellFormed : VnsMessage → Prop
  | vnsOpen message => message.WellFormed
  | vnsClose message => Fits VnsClose.size message.msg
  | vnsPacket message => Fits VnsPacket.headerSize message.intfName
  | vnsBanner message => Fits VnsBanner.size message.msg
  | vnsRtable message => Fits idSize message.vrhost
  | vnsOpenTemplate message => message.WellFormed
  | vnsAuthRequest _ => True
  | vnsAuthReply _ => True
  | vnsAuthStatus _ => True

/-- The one field whose length is written in front of it is not too long for that. -/
def LengthsFit : VnsMessage → Prop
  | vnsAuthReply message => message.username.length < 4294967296
  | _ => True

def RoundTrips (message : VnsMessage) : Prop :=
  ∃ body, message.pack = some body ∧ unpackAs message.getType body = some message

/-- `unpack(pack(m))` is `m` for every well-formed message, whatever the length of its
payloads, with a user name of less than 2 ^ 32 bytes. -/
theorem wellFormed_roundTrips (message : VnsMessage) (wellFormed : message.WellFormed)
    (lengthsFit : message.LengthsFit) : message.RoundTrips := by
  cases message with
  | vnsOpen message =>
      obtain ⟨body, packed, unpacked⟩ := VnsOpen.unpack_pack wellFormed
      exact ⟨body, packed, congrArg (Option.map vnsOpen) unpacked⟩
  | vnsClose message =>
      exact ⟨_, rfl, congrArg (Option.map vnsClose) (VnsClose.unpack_pack wellFormed)⟩
  | vnsPacket message =>
      exact ⟨_, rfl, congrArg (Option.map vnsPacket) (VnsPacket.unpack_pack wellFormed)⟩
  | vnsBanner message =>
      exact ⟨_, rfl, congrArg (Option.map vnsBanner) (VnsBanner.unpack_pack wellFormed)⟩
  | vnsRtable message =>
      exact ⟨_, rfl, congrArg (fun read => some (vnsRtable read))
        (VnsRtable.unpack_pack wellFormed)⟩
  | vnsOpenTemplate message =>
      obtain ⟨body, packed, unpacked⟩ := VnsOpenTemplate.unpack_pack wellFormed
      exact ⟨body, packed, congrArg (Option.map vnsOpenTemplate) unpacked⟩
  | vnsAuthRequest message => exact ⟨_, rfl, rfl⟩
  | vnsAuthReply message =>
      obtain ⟨body, packed, unpacked⟩ := VnsAuthReply.unpack_pack lengthsFit
      exact ⟨body, packed, congrArg (Option.map vnsAuthReply) unpacked⟩
  | vnsAuthStatus message =>
      obtain ⟨body, packed, unpacked⟩ := message.unpack_pack
      exact ⟨body, packed, congrArg (Option.map vnsAuthStatus) unpacked⟩

def campusTemplate : VnsOpenTemplate :=
  VnsOpenTemplate.init [49, 112, 114] [118, 104, 111, 115, 116]
    [(inetNtoa #v[10, 0, 0, 0], 8), (inetNtoa #v[192, 168, 1, 7], 32)]

theorem campusTemplate_roundTrips : (vnsOpenTemplate campusTemplate).RoundTrips :=
  wellFormed_roundTrips (vnsOpenTemplate campusTemplate)
    ⟨by decide, by decide, by
      intro srcFilter member
      cases member with
      | head => exact ⟨⟨_, rfl⟩, by decide⟩
      | tail _ later =>
          cases later with
          | head => exact ⟨⟨_, rfl⟩, by decide⟩
          | tail _ none => cases none⟩
    trivial

/-- `struct.pack` raises an exception for the length of this user name. -/
theorem longUsername_has_no_body :
    ¬ ∀ message : VnsMessage, message.WellFormed → message.RoundTrips := by
  intro always
  obtain ⟨body, packed, _⟩ :=
    always (vnsAuthReply ⟨List.replicate 4294967296 97, []⟩) trivial
  have short := (VnsAuthReply.pack_eq_some_iff _).mp ⟨body, packed⟩
  rw [List.length_replicate] at short
  exact Nat.lt_irrefl _ short

end VnsMessage

end Cmput313.Pox
