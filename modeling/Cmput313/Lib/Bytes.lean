import Mathlib.Tactic.Common

/-!
# Byte buffers and little-endian words

Reads and writes at an offset of a byte list, with a background that supplies
the bytes past the end of the list, and the words of two and four bytes that a
little-endian machine reads from and writes to memory.
-/

set_option autoImplicit false

namespace Cmput313.Bytes

/-! ## Reading and overwriting -/

/-- The byte at an offset; past the end of the buffer it is the background's. -/
def peek (background : Nat → UInt8) (buffer : List UInt8) (offset : Nat) : UInt8 :=
  buffer.getD offset (background offset)

def read (background : Nat → UInt8) (buffer : List UInt8) (offset size : Nat) :
    List UInt8 :=
  (List.range size).map fun index => peek background buffer (offset + index)

/-- Overwrite the bytes at `offset`; meaningful where the bytes fit. -/
def put (buffer : List UInt8) (offset : Nat) (bytes : List UInt8) : List UInt8 :=
  buffer.take offset ++ bytes ++ buffer.drop (offset + bytes.length)

section Read

variable (background : Nat → UInt8) (buffer : List UInt8)

@[simp] theorem read_length (offset size : Nat) :
    (read background buffer offset size).length = size := by
  simp [read]

theorem peek_of_lt {offset : Nat} (inside : offset < buffer.length) :
    peek background buffer offset = buffer[offset] := by
  simp [peek, inside]

theorem read_getElem (offset size index : Nat)
    (inside : index < (read background buffer offset size).length) :
    (read background buffer offset size)[index] =
      peek background buffer (offset + index) := by
  simp [read]

theorem peek_read {offset size index : Nat} (inside : index < size) :
    peek background (read background buffer offset size) index =
      peek background buffer (offset + index) := by
  have bound : index < (read background buffer offset size).length := by
    rw [read_length]; exact inside
  rw [peek_of_lt _ _ bound, read_getElem]

theorem read_of_le {offset size : Nat} (inside : offset + size ≤ buffer.length) :
    read background buffer offset size = (buffer.drop offset).take size := by
  apply List.ext_getElem
  · simp; omega
  · intro index leftBound rightBound
    have sizeBound : index < size := by simpa using leftBound
    rw [read_getElem, peek_of_lt _ _ (by omega)]
    simp

theorem read_append (offset first second : Nat) :
    read background buffer offset (first + second) =
      read background buffer offset first ++
        read background buffer (offset + first) second := by
  simp [read, List.range_add, List.map_map, Function.comp_def, Nat.add_assoc]

end Read

section Put

variable (background : Nat → UInt8) {buffer bytes : List UInt8} {offset : Nat}

theorem put_length (fits : offset + bytes.length ≤ buffer.length) :
    (put buffer offset bytes).length = buffer.length := by
  simp [put]; omega

theorem length_le_length_put (buffer : List UInt8) (offset : Nat)
    (bytes : List UInt8) : buffer.length ≤ (put buffer offset bytes).length := by
  simp only [put, List.length_append, List.length_take, List.length_drop]
  omega

theorem peek_put_inside (fits : offset + bytes.length ≤ buffer.length) {index : Nat}
    (low : offset ≤ index) (high : index < offset + bytes.length) :
    peek background (put buffer offset bytes) index =
      peek background bytes (index - offset) := by
  rw [peek_of_lt _ _ (by rw [put_length fits]; omega), peek_of_lt _ _ (by omega)]
  simp only [put, List.append_assoc]
  rw [List.getElem_append_right (by simp; omega),
    List.getElem_append_left (by simp; omega)]
  congr 1
  simp; omega

theorem peek_put_outside (fits : offset + bytes.length ≤ buffer.length) {index : Nat}
    (outside : index < offset ∨ offset + bytes.length ≤ index) :
    peek background (put buffer offset bytes) index =
      peek background buffer index := by
  by_cases inside : index < buffer.length
  · rw [peek_of_lt _ _ (by rw [put_length fits]; omega), peek_of_lt _ _ inside]
    rcases outside with below | above
    · simp only [put, List.append_assoc]
      rw [List.getElem_append_left (by simp; omega)]
      simp
    · simp only [put]
      rw [List.getElem_append_right (by simp; omega)]
      simp only [List.getElem_drop]
      congr 1
      simp; omega
  · have shorter : (put buffer offset bytes).length ≤ index := by
      rw [put_length fits]; omega
    simp [peek, List.getElem?_eq_none shorter,
      List.getElem?_eq_none (Nat.not_lt.mp inside)]

theorem getElem?_put_outside (fits : offset + bytes.length ≤ buffer.length) {index : Nat}
    (outside : index < offset ∨ offset + bytes.length ≤ index) :
    (put buffer offset bytes)[index]? = buffer[index]? := by
  by_cases inside : index < buffer.length
  · have kept := peek_put_outside (fun _ => 0) fits outside
    rw [peek_of_lt _ _ (by rw [put_length fits]; exact inside), peek_of_lt _ _ inside] at kept
    rw [List.getElem?_eq_getElem (by rw [put_length fits]; exact inside),
      List.getElem?_eq_getElem inside, kept]
  · rw [List.getElem?_eq_none (by rw [put_length fits]; exact Nat.not_lt.mp inside),
      List.getElem?_eq_none (Nat.not_lt.mp inside)]

theorem read_put_outside (fits : offset + bytes.length ≤ buffer.length) {start size : Nat}
    (outside : start + size ≤ offset ∨ offset + bytes.length ≤ start) :
    read background (put buffer offset bytes) start size =
      read background buffer start size := by
  apply List.map_congr_left
  intro index member
  have bound : index < size := List.mem_range.mp member
  exact peek_put_outside background fits (by omega)

theorem read_put_within {start offset size : Nat}
    (fits : start + offset + bytes.length ≤ buffer.length)
    (within : offset + bytes.length ≤ size) :
    read background (put buffer (start + offset) bytes) start size =
      put (read background buffer start size) offset bytes := by
  have room : offset + bytes.length ≤ (read background buffer start size).length := by
    rw [read_length]; exact within
  apply List.ext_getElem
  · rw [read_length, put_length room, read_length]
  · intro index leftBound rightBound
    have bound : index < size := by simpa using leftBound
    rw [read_getElem, ← peek_of_lt background _ rightBound]
    by_cases inside : offset ≤ index ∧ index < offset + bytes.length
    · rw [peek_put_inside background fits (by omega) (by omega),
        peek_put_inside background room inside.1 inside.2, Nat.add_sub_add_left]
    · rw [peek_put_outside background fits (by omega),
        peek_put_outside background room (by omega),
        peek_of_lt _ (read background buffer start size) (by simpa using bound), read_getElem]

theorem take_drop_put_self (fits : offset + bytes.length ≤ buffer.length) :
    ((put buffer offset bytes).drop offset).take bytes.length = bytes := by
  have taken : (buffer.take offset).length = offset := by simp; omega
  rw [put, List.append_assoc, List.drop_left' taken, List.take_left]

theorem take_drop_put_outside (fits : offset + bytes.length ≤ buffer.length)
    {start size : Nat} (inside : start + size ≤ buffer.length)
    (outside : start + size ≤ offset ∨ offset + bytes.length ≤ start) :
    ((put buffer offset bytes).drop start).take size =
      (buffer.drop start).take size := by
  rw [← read_of_le (fun _ => 0) buffer inside,
    ← read_of_le (fun _ => 0) _ (by rw [put_length fits]; exact inside),
    read_put_outside _ fits outside]

theorem drop_put_behind (fits : offset + bytes.length ≤ buffer.length) {start : Nat}
    (behind : offset + bytes.length ≤ start) :
    (put buffer offset bytes).drop start = buffer.drop start := by
  have front : (buffer.take offset ++ bytes).length = offset + bytes.length := by
    simp; omega
  rw [put, List.drop_append, List.drop_eq_nil_of_le (by rw [front]; exact behind), front,
    List.nil_append, List.drop_drop, Nat.add_sub_cancel' behind]

theorem put_read_self {size : Nat} (fits : offset + size ≤ buffer.length) :
    put buffer offset (read background buffer offset size) = buffer := by
  rw [read_of_le background buffer fits, put, List.length_take, List.length_drop,
    Nat.min_eq_left (by omega), List.append_assoc, ← List.drop_drop,
    List.take_append_drop, List.take_append_drop]

theorem put_put {other : List UInt8} (fits : offset + bytes.length ≤ buffer.length)
    (same : other.length = bytes.length) :
    put (put buffer offset bytes) offset other = put buffer offset other := by
  have taken : (buffer.take offset).length = offset := by simp; omega
  have front : (put buffer offset bytes).take offset = buffer.take offset := by
    rw [put, List.append_assoc, List.take_left' taken]
  have back : (put buffer offset bytes).drop (offset + other.length) =
      buffer.drop (offset + other.length) := by
    have written : (buffer.take offset ++ bytes).length = offset + other.length := by
      rw [List.length_append, taken, same]
    rw [put, List.drop_left' written, same]
  show (put buffer offset bytes).take offset ++ other ++
      (put buffer offset bytes).drop (offset + other.length) =
    buffer.take offset ++ other ++ buffer.drop (offset + other.length)
  rw [front, back]

end Put

/-! ## Several writes in a row -/

def putAll (writes : List (Nat × List UInt8)) (buffer : List UInt8) : List UInt8 :=
  writes.foldl (fun current write => put current write.1 write.2) buffer

/-- Every write lies inside a buffer of this length. -/
def Fit (writes : List (Nat × List UInt8)) (length : Nat) : Prop :=
  ∀ write ∈ writes, write.1 + write.2.length ≤ length

instance (writes : List (Nat × List UInt8)) (length : Nat) :
    Decidable (Fit writes length) :=
  inferInstanceAs (Decidable (∀ _ ∈ _, _))

theorem putAll_length {writes : List (Nat × List UInt8)} :
    ∀ {buffer : List UInt8}, Fit writes buffer.length →
      (putAll writes buffer).length = buffer.length := by
  induction writes with
  | nil => intro buffer _; rfl
  | cons write rest inductionHypothesis =>
      intro buffer fits
      have first := put_length (fits write (List.mem_cons_self ..))
      have later : Fit rest (put buffer write.1 write.2).length := by
        intro other member
        rw [first]
        exact fits other (List.mem_cons_of_mem _ member)
      exact (inductionHypothesis later).trans first

theorem take_drop_putAll {writes : List (Nat × List UInt8)} {start size : Nat}
    (outside : ∀ write ∈ writes,
      start + size ≤ write.1 ∨ write.1 + write.2.length ≤ start) :
    ∀ {buffer : List UInt8}, Fit writes buffer.length →
      start + size ≤ buffer.length →
      ((putAll writes buffer).drop start).take size =
        (buffer.drop start).take size := by
  induction writes with
  | nil => intro buffer _ _; rfl
  | cons write rest inductionHypothesis =>
      intro buffer fits inside
      have headFits := fits write (List.mem_cons_self ..)
      have first := put_length headFits
      have later : Fit rest (put buffer write.1 write.2).length := by
        intro other member
        rw [first]
        exact fits other (List.mem_cons_of_mem _ member)
      have restOutside := fun other member =>
        outside other (List.mem_cons_of_mem write member)
      have tail := inductionHypothesis restOutside later (by rw [first]; exact inside)
      exact tail.trans (take_drop_put_outside headFits inside
        (outside write (List.mem_cons_self ..)))

theorem take_drop_putAll_self (front back : List (Nat × List UInt8)) {offset : Nat}
    {bytes buffer : List UInt8}
    (outside : ∀ write ∈ back,
      offset + bytes.length ≤ write.1 ∨ write.1 + write.2.length ≤ offset)
    (fits : Fit (front ++ (offset, bytes) :: back) buffer.length) :
    ((putAll (front ++ (offset, bytes) :: back) buffer).drop offset).take bytes.length =
      bytes := by
  have frontFits : Fit front buffer.length :=
    fun write member => fits write (List.mem_append_left _ member)
  have first := putAll_length frontFits
  have own : offset + bytes.length ≤ (putAll front buffer).length := by
    rw [first]
    exact fits _ (List.mem_append_right _ (List.mem_cons_self ..))
  have second := put_length own
  have backFits : Fit back (put (putAll front buffer) offset bytes).length := by
    intro write member
    rw [second, first]
    exact fits write (List.mem_append_right _ (List.mem_cons_of_mem _ member))
  have split : putAll (front ++ (offset, bytes) :: back) buffer =
      putAll back (put (putAll front buffer) offset bytes) := List.foldl_append
  rw [split, take_drop_putAll outside backFits (second ▸ own), take_drop_put_self own]

theorem read_putAll_self (background : Nat → UInt8) (front back : List (Nat × List UInt8))
    {offset : Nat} {bytes buffer : List UInt8}
    (outside : ∀ write ∈ back,
      offset + bytes.length ≤ write.1 ∨ write.1 + write.2.length ≤ offset)
    (fits : Fit (front ++ (offset, bytes) :: back) buffer.length) :
    read background (putAll (front ++ (offset, bytes) :: back) buffer) offset bytes.length =
      bytes := by
  have own := fits _ (List.mem_append_right _ (List.mem_cons_self ..))
  rw [read_of_le background _ (by rw [putAll_length fits]; exact own),
    take_drop_putAll_self front back outside fits]

theorem getElem?_putAll_outside {writes : List (Nat × List UInt8)} {index : Nat}
    (outside : ∀ write ∈ writes, index < write.1 ∨ write.1 + write.2.length ≤ index)
    {buffer : List UInt8} (fits : Fit writes buffer.length) :
    (putAll writes buffer)[index]? = buffer[index]? := by
  induction writes generalizing buffer with
  | nil => rfl
  | cons write rest inductionHypothesis =>
      have first := fits write (List.mem_cons_self ..)
      have later : Fit rest (put buffer write.1 write.2).length := by
        intro other member
        rw [put_length first]
        exact fits other (List.mem_cons_of_mem _ member)
      have moved := inductionHypothesis
        (fun other member => outside other (List.mem_cons_of_mem _ member)) later
      exact moved.trans (getElem?_put_outside first (outside write (List.mem_cons_self ..)))

theorem peek_putAll_outside (background : Nat → UInt8) {writes : List (Nat × List UInt8)}
    {index : Nat}
    (outside : ∀ write ∈ writes, index < write.1 ∨ write.1 + write.2.length ≤ index)
    {buffer : List UInt8} (fits : Fit writes buffer.length) :
    peek background (putAll writes buffer) index = peek background buffer index := by
  rw [peek, peek, List.getD_eq_getElem?_getD, List.getD_eq_getElem?_getD,
    getElem?_putAll_outside outside fits]

/-- Each write starts where the one before it ended, the first at `offset`. -/
def Contiguous : Nat → List (Nat × List UInt8) → Prop
  | _, [] => True
  | offset, write :: rest => write.1 = offset ∧ Contiguous (offset + write.2.length) rest

theorem putAll_contiguous :
    ∀ (writes : List (Nat × List UInt8)) (offset : Nat) (buffer : List UInt8),
      Contiguous offset writes →
      offset + (writes.flatMap Prod.snd).length ≤ buffer.length →
      putAll writes buffer = buffer.take offset ++ writes.flatMap Prod.snd ++
        buffer.drop (offset + (writes.flatMap Prod.snd).length)
  | [], offset, buffer, _, _ => by simp [putAll]
  | (start, bytes) :: rest, offset, buffer, row, fits => by
      obtain ⟨rfl, row⟩ := row
      simp only [List.flatMap_cons, List.length_append] at fits
      have first : start + bytes.length ≤ buffer.length := by omega
      have taken : (buffer.take start).length = start := by
        rw [List.length_take]; omega
      have front : (put buffer start bytes).take (start + bytes.length) =
          buffer.take start ++ bytes := by
        rw [put, List.take_left' (by rw [List.length_append, taken])]
      have back : (put buffer start bytes).drop
            (start + bytes.length + (rest.flatMap Prod.snd).length) =
          buffer.drop (start + bytes.length + (rest.flatMap Prod.snd).length) := by
        rw [put, ← List.drop_drop, List.drop_left' (by rw [List.length_append, taken]),
          List.drop_drop]
      have later := putAll_contiguous rest (start + bytes.length) (put buffer start bytes) row
        (by rw [put_length first]; omega)
      rw [front, back] at later
      rw [List.flatMap_cons, List.length_append, ← Nat.add_assoc, ← List.append_assoc]
      exact later

/-! ## Words in little-endian memory -/

def le16 (low high : UInt8) : UInt16 :=
  UInt16.ofNat (low.toNat + 256 * high.toNat)

def bytes16 (word : UInt16) : List UInt8 :=
  [UInt8.ofNat word.toNat, UInt8.ofNat (word.toNat / 256)]

def le32 (b0 b1 b2 b3 : UInt8) : UInt32 :=
  UInt32.ofNat
    (b0.toNat + 256 * b1.toNat + 65536 * b2.toNat + 16777216 * b3.toNat)

def bytes32 (word : UInt32) : List UInt8 :=
  [UInt8.ofNat word.toNat, UInt8.ofNat (word.toNat / 256),
    UInt8.ofNat (word.toNat / 65536), UInt8.ofNat (word.toNat / 16777216)]

def swap16 (word : UInt16) : UInt16 :=
  UInt16.ofNat (word.toNat / 256 + 256 * (word.toNat % 256))

def swap32 (word : UInt32) : UInt32 :=
  UInt32.ofNat
    (word.toNat / 16777216 + 256 * (word.toNat / 65536 % 256) +
      65536 * (word.toNat / 256 % 256) + 16777216 * (word.toNat % 256))

def peek16 (background : Nat → UInt8) (buffer : List UInt8) (offset : Nat) : UInt16 :=
  le16 (peek background buffer offset) (peek background buffer (offset + 1))

def peek32 (background : Nat → UInt8) (buffer : List UInt8) (offset : Nat) : UInt32 :=
  le32 (peek background buffer offset) (peek background buffer (offset + 1))
    (peek background buffer (offset + 2)) (peek background buffer (offset + 3))

@[simp] theorem bytes16_length (word : UInt16) : (bytes16 word).length = 2 := rfl

@[simp] theorem bytes32_length (word : UInt32) : (bytes32 word).length = 4 := rfl

theorem toNat_le16 (low high : UInt8) :
    (le16 low high).toNat = low.toNat + 256 * high.toNat := by
  have lowBound := low.toNat_lt
  have highBound := high.toNat_lt
  simp only [le16, UInt16.toNat_ofNat']
  omega

theorem toNat_swap16 (word : UInt16) :
    (swap16 word).toNat = word.toNat / 256 + 256 * (word.toNat % 256) := by
  have bound := word.toNat_lt
  simp only [swap16, UInt16.toNat_ofNat']
  omega

theorem toNat_swap32 (word : UInt32) :
    (swap32 word).toNat =
      word.toNat / 16777216 + 256 * (word.toNat / 65536 % 256) +
        65536 * (word.toNat / 256 % 256) + 16777216 * (word.toNat % 256) := by
  have bound := word.toNat_lt
  simp only [swap32, UInt32.toNat_ofNat']
  omega

@[simp] theorem swap16_swap16 (word : UInt16) : swap16 (swap16 word) = word := by
  apply UInt16.toNat_inj.mp
  have bound := word.toNat_lt
  rw [toNat_swap16, toNat_swap16]
  omega

@[simp] theorem swap32_swap32 (word : UInt32) : swap32 (swap32 word) = word := by
  apply UInt32.toNat_inj.mp
  have bound := word.toNat_lt
  rw [toNat_swap32, toNat_swap32]
  generalize word.toNat = value at bound ⊢
  generalize first : value % 256 = b0
  generalize second : value / 256 % 256 = b1
  generalize third : value / 65536 % 256 = b2
  generalize fourth : value / 16777216 = b3
  have digits : value = b0 + 256 * b1 + 65536 * b2 + 16777216 * b3 := by omega
  have top : (b3 + 256 * b2 + 65536 * b1 + 16777216 * b0) / 16777216 = b0 := by omega
  have upperHalf : (b3 + 256 * b2 + 65536 * b1 + 16777216 * b0) / 65536 =
      b1 + 256 * b0 := by omega
  have lowerHalf : (b3 + 256 * b2 + 65536 * b1 + 16777216 * b0) / 256 =
      b2 + 256 * b1 + 65536 * b0 := by omega
  have upper : (b1 + 256 * b0) % 256 = b1 := by omega
  have lower : (b2 + 256 * b1 + 65536 * b0) % 256 = b2 := by omega
  have bottom : (b3 + 256 * b2 + 65536 * b1 + 16777216 * b0) % 256 = b3 := by omega
  rw [top, upperHalf, lowerHalf, upper, lower, bottom, digits]

theorem swap16_injective {left right : UInt16} (same : swap16 left = swap16 right) :
    left = right := by
  rw [← swap16_swap16 left, same, swap16_swap16]

theorem swap32_injective {left right : UInt32} (same : swap32 left = swap32 right) :
    left = right := by
  rw [← swap32_swap32 left, same, swap32_swap32]

theorem bytes16_le16 (low high : UInt8) : bytes16 (le16 low high) = [low, high] := by
  have lowBound := low.toNat_lt
  have highBound := high.toNat_lt
  rw [bytes16, toNat_le16]
  have first : UInt8.ofNat (low.toNat + 256 * high.toNat) = low := by
    apply UInt8.toNat_inj.mp
    rw [UInt8.toNat_ofNat']
    omega
  have second : UInt8.ofNat ((low.toNat + 256 * high.toNat) / 256) = high := by
    apply UInt8.toNat_inj.mp
    rw [UInt8.toNat_ofNat']
    omega
  rw [first, second]

theorem bytes16_peek16 (background : Nat → UInt8) {buffer : List UInt8} {offset : Nat}
    (inside : offset + 2 ≤ buffer.length) :
    bytes16 (peek16 background buffer offset) = (buffer.drop offset).take 2 := by
  rw [← read_of_le background buffer inside, peek16, bytes16_le16]
  rfl

theorem put_peek16 (background : Nat → UInt8) {buffer : List UInt8} {offset : Nat}
    (fits : offset + 2 ≤ buffer.length) :
    put buffer offset (bytes16 (peek16 background buffer offset)) = buffer := by
  rw [bytes16_peek16 background fits, ← read_of_le background buffer fits,
    put_read_self background fits]

theorem peek16_put_self (background : Nat → UInt8) {buffer : List UInt8} {offset : Nat}
    (word : UInt16) (fits : offset + (bytes16 word).length ≤ buffer.length) :
    peek16 background (put buffer offset (bytes16 word)) offset = word := by
  have bound := word.toNat_lt
  rw [bytes16_length] at fits
  rw [peek16, peek_put_inside background fits (Nat.le_refl _) (by rw [bytes16_length]; omega),
    peek_put_inside background fits (by omega) (by rw [bytes16_length]; omega),
    Nat.sub_self, Nat.add_sub_cancel_left]
  apply UInt16.toNat_inj.mp
  simp only [peek, bytes16, toNat_le16, List.getD_cons_zero, List.getD_cons_succ,
    UInt8.toNat_ofNat']
  omega

theorem peek16_put_outside (background : Nat → UInt8) {buffer bytes : List UInt8}
    {offset index : Nat} (fits : offset + bytes.length ≤ buffer.length)
    (outside : index + 2 ≤ offset ∨ offset + bytes.length ≤ index) :
    peek16 background (put buffer offset bytes) index =
      peek16 background buffer index := by
  simp only [peek16]
  rw [peek_put_outside background fits (by omega),
    peek_put_outside background fits (by omega)]

theorem peek32_put_outside (background : Nat → UInt8) {buffer bytes : List UInt8}
    {offset index : Nat} (fits : offset + bytes.length ≤ buffer.length)
    (outside : index + 4 ≤ offset ∨ offset + bytes.length ≤ index) :
    peek32 background (put buffer offset bytes) index =
      peek32 background buffer index := by
  simp only [peek32]
  rw [peek_put_outside background fits (by omega),
    peek_put_outside background fits (by omega), peek_put_outside background fits (by omega),
    peek_put_outside background fits (by omega)]

@[simp] theorem peek16_bytes16 (background : Nat → UInt8) (word : UInt16) :
    peek16 background (bytes16 word) 0 = word := by
  apply UInt16.toNat_inj.mp
  have bound := word.toNat_lt
  simp only [peek16, peek, bytes16, toNat_le16, List.getD_cons_zero, List.getD_cons_succ,
    UInt8.toNat_ofNat']
  omega

@[simp] theorem peek32_bytes32 (background : Nat → UInt8) (word : UInt32) :
    peek32 background (bytes32 word) 0 = word := by
  apply UInt32.toNat_inj.mp
  have bound := word.toNat_lt
  simp only [peek32, peek, bytes32, le32, List.getD_cons_zero, List.getD_cons_succ,
    UInt8.toNat_ofNat', UInt32.toNat_ofNat']
  omega

theorem bytes32_le32 (b0 b1 b2 b3 : UInt8) : bytes32 (le32 b0 b1 b2 b3) = [b0, b1, b2, b3] := by
  have bound0 := b0.toNat_lt
  have bound1 := b1.toNat_lt
  have bound2 := b2.toNat_lt
  have bound3 := b3.toNat_lt
  have value : (le32 b0 b1 b2 b3).toNat =
      b0.toNat + 256 * b1.toNat + 65536 * b2.toNat + 16777216 * b3.toNat := by
    rw [le32, UInt32.toNat_ofNat']
    omega
  have same : ∀ (number : Nat) (byte : UInt8), number % 256 = byte.toNat →
      UInt8.ofNat number = byte := by
    intro number byte equal
    apply UInt8.toNat_inj.mp
    rw [UInt8.toNat_ofNat']
    exact equal
  rw [bytes32, value, same _ b0 (by omega), same _ b1 (by omega), same _ b2 (by omega),
    same _ b3 (by omega)]

theorem bytes32_peek32 (background : Nat → UInt8) {buffer : List UInt8} {offset : Nat}
    (inside : offset + 4 ≤ buffer.length) :
    bytes32 (peek32 background buffer offset) = (buffer.drop offset).take 4 := by
  rw [← read_of_le background buffer inside, peek32, bytes32_le32]
  rfl

theorem peek32_of_read (background : Nat → UInt8) {buffer : List UInt8} {offset : Nat}
    {word : UInt32} (bytes : read background buffer offset 4 = bytes32 word) :
    peek32 background buffer offset = word := by
  have whole := peek32_bytes32 background word
  rw [← bytes] at whole
  rw [← whole]
  rfl

theorem bytes32_injective {left right : UInt32} (same : bytes32 left = bytes32 right) :
    left = right := by
  rw [← peek32_bytes32 (fun _ => 0) left, same, peek32_bytes32]

end Cmput313.Bytes
