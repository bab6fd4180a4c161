import Cmput313.Pox.VnsProtocol
import Cmput313.Router.Run

/-!
# Hardware information

`sr_handle_hwinfo` of `sr_vns_comm.c` with the three functions of `sr_if.c` that
build the interface list, and what it makes of the message that
`VNSHardwareInfo.pack` encodes.
-/

set_option autoImplicit false

namespace Cmput313.Router

open Cmput313.Bytes Cmput313.Pox Cmput313.Program Cmput313.StructPack

/-! ## The interface list -/

/-- A `struct sr_if` from `malloc` of which only the name is written. -/
def newInterface (memory : Memory) (name : Name) : SrIf where
  name := strncpy srIfaceNamelen name
  addr := Vector.ofFn fun i => memory.fresh (32 + i)
  ip := peek32 memory.fresh [] 40

def srAddInterface (memory : Memory) (ifList : List SrIf) (name : Name) : List SrIf :=
  ifList ++ [newInterface memory name]

/-- The walk to the last interface and the change there; an empty list fails the
assertion in front of it. -/
def setLast (change : SrIf → SrIf) : List SrIf → Option (List SrIf)
  | [] => none
  | [last] => some [change last]
  | first :: rest => (setLast change rest).map (first :: ·)

def srSetEtherAddr (ifList : List SrIf) (addr : Mac) : Option (List SrIf) :=
  setLast (fun last => { last with addr := addr }) ifList

def srSetEtherIp (ifList : List SrIf) (ipNbo : UInt32) : Option (List SrIf) :=
  setLast (fun last => { last with ip := ipNbo }) ifList

theorem setLast_concat (change : SrIf → SrIf) (front : List SrIf) (last : SrIf) :
    setLast change (front ++ [last]) = some (front ++ [change last]) := by
  induction front with
  | nil => rfl
  | cons first rest inductionHypothesis =>
      have walks : setLast change (first :: (rest ++ [last])) =
          (setLast change (rest ++ [last])).map (first :: ·) := by
        cases rest <;> rfl
      rw [List.cons_append, walks, inductionHypothesis]
      rfl

/-! ## The entries of a message -/

def hwInterface : UInt32 := 1
def hwEther : UInt32 := 32
def hwEthIp : UInt32 := 64

def sizeofHwEntry : Nat := 36

/-- `c_hw_entry`, its key in host order. -/
structure HwEntry where
  mKey : UInt32
  value : Bytes
  deriving DecidableEq

def hwEntry (memory : Memory) (hwinfo : Bytes) (i : Nat) : HwEntry where
  mKey := ntohl (peek32 memory.beyond hwinfo (8 + sizeofHwEntry * i))
  value := read memory.beyond hwinfo (8 + sizeofHwEntry * i + 4) 32

def toInt (word : UInt32) : Int :=
  if word.toNat < 2147483648 then word.toNat else word.toNat - 4294967296

/-- The length is subtracted from and divided as a `size_t`, then stored as an
`int`. -/
def numEntries (mLen : UInt32) : Int :=
  toInt ((mLen.toUInt64 - 8) / 36).toUInt32

def handleHwEntry (memory : Memory) (ifList : List SrIf) (entry : HwEntry) :
    Option (List SrIf) :=
  if entry.mKey = hwInterface then
    some (srAddInterface memory ifList entry.value)
  else if entry.mKey = hwEthIp then
    srSetEtherIp ifList (peek32 memory.beyond entry.value 0)
  else if entry.mKey = hwEther then
    srSetEtherAddr ifList (Vector.ofFn fun i => peek memory.beyond entry.value i)
  else
    some ifList

def srHandleHwinfo (memory : Memory) (hwinfo : Bytes) : Sr Int := do
  let entries := numEntries (ntohl (peek32 memory.beyond hwinfo 0))
  let sr ← get
  match (List.range entries.toNat).foldlM
      (fun ifList i => handleHwEntry memory ifList (hwEntry memory hwinfo i))
      sr.ifList with
  | none => throw (.assertion .ifList)
  | some ifList =>
      modify fun sr => { sr with ifList := ifList }
      return entries

/-! ## Reading back packed entries -/

def HwEntry.pack (entry : HwEntry) : Bytes := packI entry.mKey ++ entry.value

/-- The six entries that encode an interface. -/
def interfaceEntries (interface : VnsInterface) : List HwEntry :=
  [⟨VnsInterface.hwInterface, packS 32 interface.name⟩,
    ⟨VnsInterface.hwSpeed, packI 0 ++ packS 28 []⟩,
    ⟨VnsInterface.hwEther, packS 32 interface.mac.toList⟩,
    ⟨VnsInterface.hwEthIp, packS 4 interface.ip.toList ++ packS 28 []⟩,
    ⟨VnsInterface.hwSubnet, packI 0 ++ packS 28 []⟩,
    ⟨VnsInterface.hwMask, packS 4 interface.mask.toList ++ packS 28 []⟩]

theorem pack_eq_entries (interface : VnsInterface) :
    interface.pack = ((interfaceEntries interface).map HwEntry.pack).flatten := by
  simp only [VnsInterface.pack, interfaceEntries, HwEntry.pack, List.map_cons, List.map_nil,
    List.flatten_cons, List.flatten_nil, List.append_assoc, List.append_nil]

theorem hardwareInfo_pack_eq_entries (interfaces : List VnsInterface) :
    VnsHardwareInfo.pack interfaces =
      ((interfaces.flatMap interfaceEntries).map HwEntry.pack).flatten := by
  induction interfaces with
  | nil => rfl
  | cons interface rest inductionHypothesis =>
      have head := pack_eq_entries interface
      unfold VnsHardwareInfo.pack at inductionHypothesis ⊢
      rw [List.map_cons, List.flatten_cons, head, inductionHypothesis, List.flatMap_cons,
        List.map_append, List.flatten_append]

theorem length_interfaceEntries (interfaces : List VnsInterface) :
    (interfaces.flatMap interfaceEntries).length = 6 * interfaces.length := by
  induction interfaces with
  | nil => rfl
  | cons interface rest inductionHypothesis =>
      rw [List.flatMap_cons, List.length_append, inductionHypothesis, List.length_cons]
      simp only [interfaceEntries, List.length_cons, List.length_nil]
      omega

theorem value_length_of_interfaceEntries {interfaces : List VnsInterface} {entry : HwEntry}
    (member : entry ∈ interfaces.flatMap interfaceEntries) : entry.value.length = 32 := by
  obtain ⟨interface, _, own⟩ := List.mem_flatMap.mp member
  simp only [interfaceEntries, List.mem_cons, List.not_mem_nil, or_false] at own
  rcases own with rfl | rfl | rfl | rfl | rfl | rfl <;>
    simp only [List.length_append, packS_length, packI_length]

theorem hwEntry_of_record {memory : Memory} {hwinfo : Bytes} {i : Nat} {entry : HwEntry}
    (long : entry.value.length = 32)
    (lies : ((hwinfo.drop 8).drop (sizeofHwEntry * i)).take sizeofHwEntry = entry.pack) :
    hwEntry memory hwinfo i = entry := by
  rw [List.drop_drop] at lies
  have packed : entry.pack.length = sizeofHwEntry := by
    simp [HwEntry.pack, long, sizeofHwEntry]
  have inside : 8 + sizeofHwEntry * i + sizeofHwEntry ≤ hwinfo.length := by
    have taken := congrArg List.length lies
    rw [packed, List.length_take, List.length_drop] at taken
    simp only [sizeofHwEntry] at taken ⊢
    omega
  have keyBytes : (hwinfo.drop (8 + sizeofHwEntry * i)).take 4 = packI entry.mKey := by
    have taken := congrArg (List.take 4) lies
    rwa [List.take_take, HwEntry.pack, List.take_left' (packI_length _)] at taken
  have valueBytes : (hwinfo.drop (8 + sizeofHwEntry * i + 4)).take 32 = entry.value := by
    have dropped := congrArg (List.drop 4) lies
    rwa [List.drop_take, List.drop_drop, HwEntry.pack,
      List.drop_left' (packI_length _)] at dropped
  have key : ntohl (peek32 memory.beyond hwinfo (8 + sizeofHwEntry * i)) = entry.mKey := by
    apply swap32_injective
    apply bytes32_injective
    rw [ntohl, swap32_swap32, bytes32_peek32 _ (by simp only [sizeofHwEntry] at inside ⊢; omega),
      keyBytes, packI_eq]
  have value : read memory.beyond hwinfo (8 + sizeofHwEntry * i + 4) 32 = entry.value := by
    rw [read_of_le _ _ (by simp only [sizeofHwEntry] at inside ⊢; omega), valueBytes]
  rw [hwEntry, key, value]

theorem hwEntries_of_pack (memory : Memory) (front : Bytes) (framed : front.length = 8)
    {entries : List HwEntry} (long : ∀ entry ∈ entries, entry.value.length = 32) :
    (List.range entries.length).map
      (hwEntry memory (front ++ (entries.map HwEntry.pack).flatten)) = entries := by
  have sized : ∀ record ∈ entries.map HwEntry.pack, record.length = sizeofHwEntry := by
    intro record member
    obtain ⟨entry, listed, rfl⟩ := List.mem_map.mp member
    simp [HwEntry.pack, long entry listed, sizeofHwEntry]
  have cuts := map_range_records sized []
  rw [List.length_map, List.append_nil] at cuts
  apply List.ext_getElem
  · simp
  · intro index leftBound rightBound
    rw [List.getElem_map, List.getElem_range]
    apply hwEntry_of_record (long _ (List.getElem_mem rightBound))
    rw [List.drop_left' framed]
    have here := congrArg (fun records => records[index]?) cuts
    simp only [List.getElem?_map, List.getElem?_range rightBound, Option.map_some,
      List.getElem?_eq_getElem rightBound] at here
    exact Option.some.inj here

/-! ## What a packed message registers -/

/-- A name that fits with its NUL, as `struct sr_if` keeps it. -/
structure Registrable (name : Name) : Prop where
  nonempty : 1 ≤ name.length
  short : name.length ≤ 31
  noNul : 0 ∉ name

def SrIf.registered (interface : SrIf) : Name × Bytes × Bytes :=
  (cString srIfaceNamelen interface.name, interface.addr.toList, bytes32 interface.ip)

def vnsRegistered (interface : VnsInterface) : Name × Bytes × Bytes :=
  (interface.name, interface.mac.toList, interface.ip.toList)

/-- The interface that the six entries leave behind. -/
def registeredAs (interface : VnsInterface) : SrIf where
  name := packS srIfaceNamelen interface.name
  addr := interface.mac
  ip := peek32 (fun _ => 0) interface.ip.toList 0

theorem strncpy_eq_packS {name : Name} (limit : Nat) (noNul : 0 ∉ name) :
    strncpy limit name = packS limit name := by
  rw [strncpy, cString_of_noNul limit noNul, packS, List.length_take]
  congr 2
  omega

theorem cString_packS {name : Name} (limit : Nat) (noNul : 0 ∉ name) :
    cString limit (packS limit name) = name.take limit := by
  rw [← strncpy_eq_packS limit noNul, cString_strncpy, cString_of_noNul limit noNul]

theorem strncpy_packS {name : Name} (limit : Nat) (noNul : 0 ∉ name) :
    strncpy limit (packS limit name) = packS limit name := by
  rw [← strncpy_eq_packS limit noNul, strncpy, cString_strncpy]
  rfl

theorem registered_registeredAs {interface : VnsInterface}
    (named : Registrable interface.name) :
    (registeredAs interface).registered = vnsRegistered interface := by
  have name : cString srIfaceNamelen (packS srIfaceNamelen interface.name) =
      interface.name := by
    rw [cString_packS _ named.noNul, List.take_of_length_le]
    exact Nat.le_trans named.short (by decide)
  have address : bytes32 (peek32 (fun _ => 0) interface.ip.toList 0) = interface.ip.toList := by
    rw [bytes32_peek32 _ (by simp), List.drop_zero, List.take_of_length_le (by simp)]
  simp only [SrIf.registered, vnsRegistered, registeredAs, name, address]

theorem ofFn_peek_packS (background : Nat → UInt8) (mac : Mac) :
    (Vector.ofFn fun i : Fin 6 => peek background (packS 32 mac.toList) i) = mac := by
  apply Vector.ext
  intro index inside
  have fits : mac.toList.length ≤ 32 := by simp
  rw [Vector.getElem_ofFn, peek_of_lt _ _ (by rw [packS_length]; omega)]
  simp only [packS_of_le fits]
  rw [List.getElem_append_left (by simpa using inside), Vector.getElem_toList]

theorem foldlM_interfaceEntries (memory : Memory) (ifList : List SrIf)
    {interface : VnsInterface} (named : Registrable interface.name) :
    (interfaceEntries interface).foldlM (handleHwEntry memory) ifList =
      some (ifList ++ [registeredAs interface]) := by
  have added : handleHwEntry memory ifList
      ⟨VnsInterface.hwInterface, packS 32 interface.name⟩ =
        some (ifList ++ [newInterface memory (packS 32 interface.name)]) := if_pos rfl
  have ignored : ∀ (list : List SrIf) (key : UInt32) (value : Bytes), key ≠ hwInterface →
      key ≠ hwEthIp → key ≠ hwEther → handleHwEntry memory list ⟨key, value⟩ = some list := by
    intro list key value notInterface notIp notEther
    rw [handleHwEntry, if_neg notInterface, if_neg notIp, if_neg notEther]
  have ether : ∀ last : SrIf, handleHwEntry memory (ifList ++ [last])
      ⟨VnsInterface.hwEther, packS 32 interface.mac.toList⟩ =
        some (ifList ++ [{ last with addr := interface.mac }]) := by
    intro last
    rw [handleHwEntry, if_neg (show VnsInterface.hwEther ≠ hwInterface by decide),
      if_neg (show VnsInterface.hwEther ≠ hwEthIp by decide),
      if_pos (show VnsInterface.hwEther = hwEther by rfl), srSetEtherAddr, setLast_concat,
      ofFn_peek_packS]
  have ethIp : ∀ last : SrIf, handleHwEntry memory (ifList ++ [last])
      ⟨VnsInterface.hwEthIp, packS 4 interface.ip.toList ++ packS 28 []⟩ =
        some (ifList ++ [{ last with ip := peek32 (fun _ => 0) interface.ip.toList 0 }]) := by
    intro last
    have word : peek32 memory.beyond (packS 4 interface.ip.toList ++ packS 28 []) 0 =
        peek32 (fun _ => 0) interface.ip.toList 0 := by
      have exact : packS 4 interface.ip.toList = interface.ip.toList := by
        simpa using packS_self interface.ip.toList
      apply bytes32_injective
      rw [bytes32_peek32 _ (by simp), bytes32_peek32 _ (by simp), List.drop_zero,
        List.drop_zero, exact, List.take_left' (by simp), List.take_of_length_le (by simp)]
    rw [handleHwEntry, if_neg (show VnsInterface.hwEthIp ≠ hwInterface by decide),
      if_pos (show VnsInterface.hwEthIp = hwEthIp by rfl), srSetEtherIp, setLast_concat, word]
  rw [interfaceEntries, List.foldlM_cons, added, Option.bind_eq_bind, Option.bind_some,
    List.foldlM_cons, ignored _ _ _ (by decide) (by decide) (by decide), Option.bind_eq_bind,
    Option.bind_some, List.foldlM_cons, ether, Option.bind_eq_bind, Option.bind_some,
    List.foldlM_cons, ethIp, Option.bind_eq_bind, Option.bind_some, List.foldlM_cons,
    ignored _ _ _ (by decide) (by decide) (by decide), Option.bind_eq_bind, Option.bind_some,
    List.foldlM_cons, ignored _ _ _ (by decide) (by decide) (by decide), Option.bind_eq_bind,
    Option.bind_some, List.foldlM_nil]
  simp only [newInterface, strncpy_packS 32 named.noNul, registeredAs, srIfaceNamelen]
  rfl

theorem foldlM_hardwareInfo (memory : Memory) {interfaces : List VnsInterface}
    (named : ∀ interface ∈ interfaces, Registrable interface.name) :
    ∀ ifList : List SrIf,
      (interfaces.flatMap interfaceEntries).foldlM (handleHwEntry memory) ifList =
        some (ifList ++ interfaces.map registeredAs) := by
  induction interfaces with
  | nil => exact fun ifList => congrArg some (List.append_nil ifList).symm
  | cons interface rest inductionHypothesis =>
      intro ifList
      have head := named interface (List.mem_cons_self ..)
      have tail := inductionHypothesis fun other member =>
        named other (List.mem_cons_of_mem _ member)
      rw [List.flatMap_cons, List.foldlM_append, foldlM_interfaceEntries memory ifList head,
        Option.bind_eq_bind, Option.bind_some, tail, List.append_assoc]
      rfl

theorem numEntries_of_length {entries : Nat} (short : 8 + 36 * entries ≤ 10000) :
    numEntries (UInt32.ofNat (8 + 36 * entries)) = entries := by
  have length : (UInt32.ofNat (8 + 36 * entries)).toUInt64.toNat = 8 + 36 * entries := by
    rw [UInt32.toNat_toUInt64, UInt32.toNat_ofNat']
    omega
  have quotient : (((UInt32.ofNat (8 + 36 * entries)).toUInt64 - 8) / 36).toNat = entries := by
    rw [UInt64.toNat_div, UInt64.toNat_sub_of_le _ _ (by
      rw [UInt64.le_iff_toNat_le, length]; exact Nat.le_add_right 8 _), length]
    have eight : (8 : UInt64).toNat = 8 := rfl
    have thirtySix : (36 : UInt64).toNat = 36 := rfl
    rw [eight, thirtySix]
    omega
  have word : (((UInt32.ofNat (8 + 36 * entries)).toUInt64 - 8) / 36).toUInt32.toNat =
      entries := by
    rw [UInt64.toNat_toUInt32, quotient]
    omega
  rw [numEntries, toInt, word, if_pos (by omega)]

/-- The message that the server packs registers exactly its interfaces, in order. -/
theorem srHandleHwinfo_registers (memory : Memory) (mType : UInt32)
    {interfaces : List VnsInterface}
    (named : ∀ interface ∈ interfaces, Registrable interface.name)
    (short : (ltMessage mType (VnsHardwareInfo.pack interfaces)).length ≤ 10000)
    {sr : SrInstance} (empty : sr.ifList = []) :
    ∃ ifList : List SrIf,
      srHandleHwinfo memory (ltMessage mType (VnsHardwareInfo.pack interfaces)) sr =
        .ok (6 * interfaces.length) { sr with ifList := ifList } ∧
      ifList.map SrIf.registered = interfaces.map vnsRegistered := by
  refine ⟨interfaces.map registeredAs, ?_, ?_⟩
  · have entries := length_interfaceEntries interfaces
    have body := VnsHardwareInfo.pack_length interfaces
    rw [ltMessage_length, body] at short
    have counts : 8 + (VnsHardwareInfo.pack interfaces).length =
        8 + 36 * (6 * interfaces.length) := by
      rw [body]
      simp only [VnsInterface.size]
      omega
    have front : peek32 memory.beyond
        (ltMessage mType (VnsHardwareInfo.pack interfaces)) 0 =
          swap32 (UInt32.ofNat (8 + (VnsHardwareInfo.pack interfaces).length)) := by
      have read := peek32_append_packI memory.beyond []
        (packI mType ++ VnsHardwareInfo.pack interfaces)
        (UInt32.ofNat (8 + (VnsHardwareInfo.pack interfaces).length))
      rw [List.nil_append, ← List.append_assoc] at read
      exact read
    have number : numEntries (ntohl (peek32 memory.beyond
        (ltMessage mType (VnsHardwareInfo.pack interfaces)) 0)) =
          ((6 * interfaces.length : Nat) : Int) := by
      rw [front, ntohl, swap32_swap32, counts, numEntries_of_length]
      simp only [VnsInterface.size] at short
      omega
    have values : ∀ entry ∈ interfaces.flatMap interfaceEntries, entry.value.length = 32 :=
      fun _ member => value_length_of_interfaceEntries member
    have listed := hwEntries_of_pack memory
      (packI (UInt32.ofNat (8 + (VnsHardwareInfo.pack interfaces).length)) ++ packI mType)
      (by simp) values
    rw [← hardwareInfo_pack_eq_entries, entries] at listed
    have folds : (List.range (6 * interfaces.length)).foldlM
        (fun ifList i => handleHwEntry memory ifList (hwEntry memory
          (ltMessage mType (VnsHardwareInfo.pack interfaces)) i)) [] =
        some (interfaces.map registeredAs) := by
      rw [← List.foldlM_map, ltMessage, listed, foldlM_hardwareInfo memory named]
      rfl
    have got : (get : Sr SrInstance) sr = .ok sr sr := rfl
    unfold srHandleHwinfo
    simp only [number, Int.toNat_natCast, bind, EStateM.bind, got, empty, folds]
    rfl
  · rw [List.map_map]
    apply List.map_congr_left
    intro interface member
    exact registered_registeredAs (named interface member)

def vnsEth0 : VnsInterface where
  name := eth0.name
  mac := eth0.addr
  ip := #v[10, 0, 0, 1]
  mask := #v[255, 0, 0, 0]

def vnsEth1 : VnsInterface where
  name := [101, 116, 104, 49]
  mac := #v[2, 0, 0, 0, 1, 1]
  ip := #v[10, 0, 1, 1]
  mask := #v[255, 255, 255, 0]

theorem srHandleHwinfo_registers_both :
    ∃ ifList : List SrIf,
      srHandleHwinfo noMemory
          (ltMessage VnsHardwareInfo.getType (VnsHardwareInfo.pack [vnsEth0, vnsEth1]))
          { smallNetwork with ifList := [] } =
        .ok 12 { smallNetwork with ifList := ifList } ∧
      ifList.map SrIf.registered =
        [(eth0.name, [2, 0, 0, 0, 0, 1], [10, 0, 0, 1]),
          ([101, 116, 104, 49], [2, 0, 0, 0, 1, 1], [10, 0, 1, 1])] := by
  have named : ∀ interface ∈ [vnsEth0, vnsEth1], Registrable interface.name := by
    intro interface member
    rcases List.mem_cons.mp member with rfl | member
    · exact ⟨by decide, by decide, by decide⟩
    · rw [List.mem_singleton.mp member]
      exact ⟨by decide, by decide, by decide⟩
  have short : (ltMessage VnsHardwareInfo.getType
      (VnsHardwareInfo.pack [vnsEth0, vnsEth1])).length ≤ 10000 := by
    rw [ltMessage_length, VnsHardwareInfo.pack_length]
    decide
  exact srHandleHwinfo_registers noMemory VnsHardwareInfo.getType named short rfl

end Cmput313.Router
