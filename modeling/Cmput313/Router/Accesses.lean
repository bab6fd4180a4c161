import Cmput313.Router.Packets

/-!
# Programs that access allowed bytes only

The log of accesses between two states, against any predicate on accesses.  A
program keeps to the predicate when each of its steps does.
-/

set_option autoImplicit false

namespace Cmput313.Router

open Cmput313.Bytes Cmput313.Program

variable {allowed : Access → Prop}

/-- Between the two states only allowed accesses were made. -/
def Touches (allowed : Access → Prop) (before after : SrInstance) : Prop :=
  ∃ accesses, after.accesses = before.accesses ++ accesses ∧
    ∀ access ∈ accesses, allowed access

theorem Touches.refl (allowed : Access → Prop) (sr : SrInstance) : Touches allowed sr sr :=
  ⟨[], (List.append_nil _).symm, fun _ member => absurd member List.not_mem_nil⟩

theorem Touches.accessed {before after : SrInstance} (touches : Touches allowed before after)
    {accesses : List Access} (inside : ∀ access ∈ accesses, allowed access) :
    Touches allowed before (after.accessed accesses) := by
  obtain ⟨earlier, same, earlierInside⟩ := touches
  refine ⟨earlier ++ accesses, ?_, List.forall_mem_append.mpr ⟨earlierInside, inside⟩⟩
  rw [SrInstance.accessed, same, List.append_assoc]

/-- The log only grows, so an access that is not allowed stays in it. -/
theorem touches_iff_of_accessed {before after : SrInstance} {accesses : List Access}
    (grows : (before.accessed accesses).accesses <+: after.accesses) :
    Touches allowed before after ↔ (∀ access ∈ accesses, allowed access) ∧
      Touches allowed (before.accessed accesses) after := by
  obtain ⟨later, split⟩ := grows
  have whole : after.accesses = before.accesses ++ (accesses ++ later) := by
    rw [← split, SrInstance.accessed, List.append_assoc]
  constructor
  · rintro ⟨new, same, inside⟩
    have newSplit : new = accesses ++ later :=
      List.append_cancel_left (same.symm.trans whole)
    rw [newSplit, List.forall_mem_append] at inside
    exact ⟨inside.1, later, split.symm, inside.2⟩
  · rintro ⟨inside, new, same, newInside⟩
    have newLater : new = later :=
      List.append_cancel_left (same.symm.trans split.symm)
    exact ⟨accesses ++ later, whole,
      List.forall_mem_append.mpr ⟨inside, newLater ▸ newInside⟩⟩

abbrev KeepsTouches {α : Type} (allowed : Access → Prop) (start : SrInstance)
    (program : Sr α) (good : α → Prop) : Prop :=
  Keeps (Touches allowed start) (fun _ _ => True) program good

section Steps

variable {start : SrInstance} (memory : Memory)

theorem keeps_touches_modify {change : SrInstance → SrInstance}
    (same : ∀ sr, (change sr).accesses = sr.accesses) :
    KeepsTouches allowed start (modify change) fun _ => True := by
  apply keeps_modify trivial
  rintro sr ⟨accesses, split, inside⟩
  exact ⟨accesses, (same sr).trans split, inside⟩

theorem keeps_touches_touch {buf : Buf} {offset size : Nat}
    (inside : allowed ⟨buf.tag, offset, size⟩) :
    KeepsTouches allowed start (touch buf offset size) fun _ => True :=
  keeps_modify trivial fun _ touches =>
    touches.accessed (by simpa using inside)

theorem keeps_touches_load {buf : Buf} {offset size : Nat}
    (inside : allowed ⟨buf.tag, offset, size⟩) :
    KeepsTouches allowed start (load memory buf offset size) fun _ => True :=
  keeps_then (keeps_touches_touch inside) fun _ => keeps_pure trivial

theorem keeps_touches_load8 {buf : Buf} {offset : Nat}
    (inside : allowed ⟨buf.tag, offset, 1⟩) :
    KeepsTouches allowed start (load8 memory buf offset) fun _ => True :=
  keeps_then (keeps_touches_touch inside) fun _ => keeps_pure trivial

theorem keeps_touches_load16 {buf : Buf} {offset : Nat}
    (inside : allowed ⟨buf.tag, offset, 2⟩) :
    KeepsTouches allowed start (load16 memory buf offset) fun _ => True :=
  keeps_then (keeps_touches_touch inside) fun _ => keeps_pure trivial

theorem keeps_touches_load32 {buf : Buf} {offset : Nat}
    (inside : allowed ⟨buf.tag, offset, 4⟩) :
    KeepsTouches allowed start (load32 memory buf offset) fun _ => True :=
  keeps_then (keeps_touches_touch inside) fun _ => keeps_pure trivial

theorem keeps_touches_store {buf : Buf} {offset : Nat} {bytes : Bytes}
    (inside : allowed ⟨buf.tag, offset, bytes.length⟩) :
    KeepsTouches allowed start (store buf offset bytes) fun stored =>
      stored.tag = buf.tag := by
  refine keeps_then (keeps_touches_touch inside) fun _ => ?_
  exact keeps_ite (fun _ => keeps_pure rfl) fun _ => keeps_throw fun _ => trivial

theorem keeps_touches_storeAll :
    ∀ (writes : List (Nat × Bytes)) (buf : Buf),
      (∀ write ∈ writes, allowed ⟨buf.tag, write.1, write.2.length⟩) →
      KeepsTouches allowed start (storeAll writes buf) fun _ => True
  | [], _, _ => keeps_pure trivial
  | (offset, bytes) :: rest, buf, inside => by
      refine keeps_bind (keeps_touches_store (inside _ (List.mem_cons_self ..)))
        fun stored same => ?_
      refine keeps_touches_storeAll rest stored fun write member => ?_
      rw [same]
      exact inside write (List.mem_cons_of_mem _ member)

theorem keeps_touches_dereference (interface : Option SrIf) :
    KeepsTouches allowed start (dereference interface) fun _ => True := by
  cases interface with
  | none => exact keeps_throw fun _ => trivial
  | some interface => exact keeps_pure trivial

theorem keeps_touches_srGetInterfaceByIp (ip : UInt32) :
    KeepsTouches allowed start (srGetInterfaceByIp ip) fun _ => True := by
  unfold srGetInterfaceByIp
  by_cases zero : ip = 0
  · rw [if_pos zero]
    exact fun _ touches => ⟨touches, trivial⟩
  · rw [if_neg zero]
    exact keeps_bind keeps_get fun _ _ => keeps_pure trivial

theorem keeps_touches_srSendPacket (buf : Bytes) (iface : Name) :
    KeepsTouches allowed start (srSendPacket buf iface) fun _ => True := by
  refine keeps_then (keeps_touches_modify fun _ => rfl) fun _ => ?_
  refine keeps_bind keeps_get fun sr _ => ?_
  refine keeps_ite (fun _ => keeps_pure trivial) fun _ => ?_
  refine keeps_ite (fun _ => ?_) fun _ => keeps_pure trivial
  exact keeps_then (keeps_touches_modify fun _ => rfl) fun _ => keeps_pure trivial

theorem keeps_touches_srArpcacheQueuereq (ip : UInt32) (packet : Bytes) (iface : Name) :
    KeepsTouches allowed start (srArpcacheQueuereq ip packet iface) fun _ => True := by
  have allocates : KeepsTouches allowed start allocate fun _ => True :=
    keeps_bind keeps_get fun _ _ =>
      keeps_then (keeps_touches_modify fun _ => rfl) fun _ => keeps_pure trivial
  refine keeps_then ?_ fun request => ?_
  · refine keeps_bind keeps_get fun sr _ => ?_
    cases sr.requests.find? fun req => req.ip = ip with
    | some req => exact keeps_pure trivial
    | none =>
        refine keeps_then allocates fun id => ?_
        exact keeps_then (keeps_touches_modify fun _ => rfl) fun _ => keeps_pure trivial
  · refine keeps_ite (fun _ => ?_) fun _ => keeps_pure trivial
    refine keeps_then allocates fun id => ?_
    refine keeps_then (keeps_touches_modify fun _ => rfl) fun _ => ?_
    exact keeps_then (keeps_touches_modify fun _ => rfl) fun _ => keeps_pure trivial

theorem keeps_touches_srArpcacheInsert (mac : Mac) (ip : UInt32) :
    KeepsTouches allowed start (srArpcacheInsert mac ip) fun _ => True := by
  refine keeps_bind keeps_get fun sr _ => ?_
  cases sr.requests.find? fun req => req.ip = ip with
  | some found =>
      refine keeps_then (keeps_touches_modify fun _ => rfl) fun _ => ?_
      exact keeps_then (keeps_touches_modify fun _ => rfl) fun _ => keeps_pure trivial
  | none => exact keeps_then (keeps_touches_modify fun _ => rfl) fun _ => keeps_pure trivial

theorem keeps_touches_srArpreqDestroy (id : Nat) :
    KeepsTouches allowed start (srArpreqDestroy id) fun _ => True := by
  apply keeps_touches_modify
  intro sr
  cases sr.requests.find? fun req => req.id = id with
  | none => rfl
  | some req => rfl

end Steps

end Cmput313.Router
