import Mathlib.Tactic.Common

/-!
# Messages that one side sends to another

They are taken in the order in which they were sent.
-/

set_option autoImplicit false

namespace Cmput313

structure Fifo (α : Type) where
  taken : List α
  waiting : List α
  deriving DecidableEq

namespace Fifo

variable {α : Type} (fifo : Fifo α)

def empty : Fifo α := ⟨[], []⟩

def sent : List α := fifo.taken ++ fifo.waiting

def sendAll (messages : List α) : Fifo α := { fifo with waiting := fifo.waiting ++ messages }

def send (message : α) : Fifo α := fifo.sendAll [message]

def take : Option (α × Fifo α) :=
  match fifo.waiting with
  | [] => none
  | message :: rest => some (message, ⟨fifo.taken ++ [message], rest⟩)

variable {fifo} {message : α} {next : Fifo α}

@[simp] theorem sent_empty : (empty : Fifo α).sent = [] := rfl

@[simp] theorem taken_sendAll (messages : List α) : (fifo.sendAll messages).taken = fifo.taken :=
  rfl

@[simp] theorem taken_send (message : α) : (fifo.send message).taken = fifo.taken := rfl

@[simp] theorem sent_sendAll (messages : List α) :
    (fifo.sendAll messages).sent = fifo.sent ++ messages :=
  (List.append_assoc ..).symm

@[simp] theorem sent_send (message : α) : (fifo.send message).sent = fifo.sent ++ [message] :=
  sent_sendAll _

@[simp] theorem sendAll_nil : fifo.sendAll [] = fifo := by
  rw [sendAll, List.append_nil]

theorem sendAll_append (early late : List α) :
    fifo.sendAll (early ++ late) = (fifo.sendAll early).sendAll late := by
  rw [sendAll, sendAll, sendAll, List.append_assoc]

theorem sent_take (took : fifo.take = some (message, next)) : next.sent = fifo.sent := by
  rw [take] at took
  split at took
  · cases took
  · next rest waits =>
      cases took
      rw [sent, sent, waits, List.append_assoc, List.singleton_append]

theorem taken_take (took : fifo.take = some (message, next)) :
    next.taken = fifo.taken ++ [message] := by
  rw [take] at took
  split at took
  · cases took
  · cases took
    rfl

theorem taken_prefix_sent : fifo.taken <+: fifo.sent := List.prefix_append _ _

theorem mem_sent_take (took : fifo.take = some (message, next)) : message ∈ fifo.sent := by
  rw [← sent_take took, sent, taken_take took]
  exact List.mem_append_left _ (List.mem_append_right _ (List.mem_singleton_self _))

end Fifo

end Cmput313
