import Mathlib.Algebra.GroupWithZero.Nat
import Cmput313.Lib.Bytes

/-!
# Buffers made of fields

A packet that is written field by field, each at its offset, is the row of those
fields.  A row keeps its sizes while its fields are replaced, so a write at the
offset of a field is a replacement in the row, and the bytes that no write
replaces are those of the block that was there before.
-/

set_option autoImplicit false

namespace Cmput313.Bytes

/-! ## Two parts of a buffer -/

section Append

variable {front back bytes : List UInt8} {offset : Nat}

theorem put_append_left (fits : offset + bytes.length ≤ front.length) :
    put (front ++ back) offset bytes = put front offset bytes ++ back := by
  have start : offset ≤ front.length := by omega
  rw [put, put, List.take_append_of_le_length start, List.drop_append_of_le_length fits]
  simp

theorem put_append_right (front back bytes : List UInt8) (offset : Nat) :
    put (front ++ back) (front.length + offset) bytes = front ++ put back offset bytes := by
  simp only [put, List.take_append, List.drop_append, Nat.add_assoc]
  rw [List.take_of_length_le (by omega), List.drop_eq_nil_of_le (by omega)]
  simp

theorem read_append_middle (background : Nat → UInt8) (front middle back : List UInt8) :
    read background (front ++ (middle ++ back)) front.length middle.length = middle := by
  rw [read_of_le background _ (by simp), List.drop_left, List.take_left]

end Append

theorem putAll_append_left {front : List UInt8} (back : List UInt8)
    {writes : List (Nat × List UInt8)} (fits : Fit writes front.length) :
    putAll writes (front ++ back) = putAll writes front ++ back := by
  induction writes generalizing front with
  | nil => rfl
  | cons write rest inductionHypothesis =>
      have first := fits write (List.mem_cons_self ..)
      have later : Fit rest (put front write.1 write.2).length := by
        intro other member
        rw [put_length first]
        exact fits other (List.mem_cons_of_mem _ member)
      have moved := inductionHypothesis later
      rwa [← put_append_left first] at moved

theorem putAll_append_right (front : List UInt8) (writes : List (Nat × List UInt8))
    (back : List UInt8) :
    putAll (writes.map fun write => (front.length + write.1, write.2)) (front ++ back) =
      front ++ putAll writes back := by
  induction writes generalizing back with
  | nil => rfl
  | cons write rest inductionHypothesis =>
      have moved := inductionHypothesis (put back write.1 write.2)
      rwa [← put_append_right] at moved

/-! ## Rows of fields -/

/-- The bytes that a source has from `start` on, cut into fields of these sizes. -/
def rowOf (source : Nat → UInt8) : Nat → List Nat → List (List UInt8)
  | _, [] => []
  | start, size :: rest =>
      (List.range' start size).map source :: rowOf source (start + size) rest

theorem flatten_rowOf (source : Nat → UInt8) (start : Nat) (sizes : List Nat) :
    (rowOf source start sizes).flatten = (List.range' start sizes.sum).map source := by
  induction sizes generalizing start with
  | nil => rfl
  | cons size rest inductionHypothesis =>
      rw [rowOf, List.flatten_cons, inductionHypothesis, ← List.map_append,
        List.range'_append_1, List.sum_cons]

theorem sizes_rowOf (source : Nat → UInt8) (start : Nat) (sizes : List Nat) :
    (rowOf source start sizes).map List.length = sizes := by
  induction sizes generalizing start with
  | nil => rfl
  | cons size rest inductionHypothesis =>
      rw [rowOf, List.map_cons, inductionHypothesis, List.length_map, List.length_range']

def fieldOffset (sizes : List Nat) (index : Nat) : Nat := (sizes.take index).sum

theorem put_flatten (fields : List (List UInt8)) {index : Nat} {bytes : List UInt8}
    (size : (fields.map List.length)[index]? = some bytes.length) :
    put fields.flatten (fieldOffset (fields.map List.length) index) bytes =
      (fields.set index bytes).flatten := by
  induction fields generalizing index with
  | nil => simp at size
  | cons field rest inductionHypothesis =>
      cases index with
      | zero =>
          have same : field.length = bytes.length := by simpa using size
          simp [fieldOffset, put, ← same]
      | succ index =>
          have later := inductionHypothesis (by simpa using size)
          have start : fieldOffset ((field :: rest).map List.length) (index + 1) =
              field.length + fieldOffset (rest.map List.length) index := by
            simp [fieldOffset]
          rw [start, List.flatten_cons, put_append_right, later]
          rfl

theorem sizes_set (fields : List (List UInt8)) {index : Nat} {bytes : List UInt8}
    (size : (fields.map List.length)[index]? = some bytes.length) :
    (fields.set index bytes).map List.length = fields.map List.length := by
  induction fields generalizing index with
  | nil => rfl
  | cons field rest inductionHypothesis =>
      cases index with
      | zero =>
          have same : field.length = bytes.length := by simpa using size
          simp [same]
      | succ index =>
          have later := inductionHypothesis (by simpa using size)
          simp only [List.set_cons_succ, List.map_cons, later]

theorem fieldOffset_add_le {sizes : List Nat} {index size : Nat}
    (field : sizes[index]? = some size) : fieldOffset sizes index + size ≤ sizes.sum := by
  induction sizes generalizing index with
  | nil => simp at field
  | cons first rest inductionHypothesis =>
      cases index with
      | zero =>
          have same : first = size := by simpa using field
          simp [fieldOffset, same]
      | succ index =>
          have later := inductionHypothesis (by simpa using field)
          simp only [fieldOffset, List.take_succ_cons, List.sum_cons] at later ⊢
          omega

def setAll (writes : List (Nat × List UInt8)) (fields : List (List UInt8)) :
    List (List UInt8) :=
  writes.foldl (fun current write => current.set write.1 write.2) fields

def fieldWrites (sizes : List Nat) (writes : List (Nat × List UInt8)) :
    List (Nat × List UInt8) :=
  writes.map fun write => (fieldOffset sizes write.1, write.2)

theorem fit_fieldWrites {sizes : List Nat} {writes : List (Nat × List UInt8)}
    (fit : ∀ write ∈ writes, sizes[write.1]? = some write.2.length) :
    Fit (fieldWrites sizes writes) sizes.sum := by
  intro placed member
  obtain ⟨write, own, rfl⟩ := List.mem_map.mp member
  exact fieldOffset_add_le (fit write own)

theorem putAll_flatten {sizes : List Nat} {writes : List (Nat × List UInt8)}
    (fit : ∀ write ∈ writes, sizes[write.1]? = some write.2.length)
    {fields : List (List UInt8)} (laid : fields.map List.length = sizes) :
    putAll (fieldWrites sizes writes) fields.flatten = (setAll writes fields).flatten := by
  induction writes generalizing fields with
  | nil => rfl
  | cons write rest inductionHypothesis =>
      have size := fit write (List.mem_cons_self ..)
      rw [← laid] at size
      have later := inductionHypothesis
        (fun other member => fit other (List.mem_cons_of_mem _ member))
        ((sizes_set fields size).trans laid)
      rw [← put_flatten fields size, laid] at later
      exact later

end Cmput313.Bytes
