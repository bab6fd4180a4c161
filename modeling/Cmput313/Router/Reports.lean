import Cmput313.Router.Steady

/-!
# What a call reports

`send_icmp_msg` logs the type it is called with.  What may follow in the same call,
down to nested time-outs, is reported as unreachable only.
-/

set_option autoImplicit false

namespace Cmput313.Router

open Cmput313.Bytes Cmput313.Program

def Event.IsReport (kind : UInt8) : Event → Prop
  | .icmp _ type _ => type = kind
  | _ => False

instance (kind : UInt8) : DecidablePred (Event.IsReport kind)
  | .icmp _ type _ => inferInstanceAs (Decidable (type = kind))
  | .sendPacket .. => isFalse fun impossible => impossible
  | .wire _ => isFalse fun impossible => impossible
  | .queued .. => isFalse fun impossible => impossible
  | .broadcast .. => isFalse fun impossible => impossible
  | .timedOut _ => isFalse fun impossible => impossible
  | .resolved .. => isFalse fun impossible => impossible
  | .swept .. => isFalse fun impossible => impossible

def SrInstance.reports (kind : UInt8) (sr : SrInstance) : List Event :=
  sr.trace.filter (Event.IsReport kind)

theorem reports_record (kind : UInt8) (sr : SrInstance) {event : Event}
    (other : ¬ event.IsReport kind) : (sr.record event).reports kind = sr.reports kind := by
  simp [SrInstance.reports, SrInstance.record, List.filter_append, other]

theorem reports_ne_of_trace {kind : UInt8} {before after : SrInstance} {event : Event}
    {rest : List Event} (report : event.IsReport kind)
    (trace : after.trace = before.trace ++ event :: rest) :
    after.reports kind ≠ before.reports kind := by
  intro same
  have length := congrArg List.length same
  rw [SrInstance.reports, trace, List.filter_append, List.filter_cons_of_pos (by simpa using report),
    SrInstance.reports, List.length_append, List.length_cons] at length
  omega

abbrev KeepsReports {α : Type} (kind : UInt8) (start : SrInstance) (program : Sr α) : Prop :=
  Keeps (fun sr => sr.reports kind = start.reports kind) (fun _ _ => True) program fun _ => True

theorem steady_reports (kind : UInt8) (start : SrInstance) :
    Steady (fun sr => sr.reports kind = start.reports kind) fun _ _ => True where
  unchanged := fun _ _ trace kept => by
    rw [← kept, SrInstance.reports, trace, SrInstance.reports]
  recorded := fun {sr event} effect kept => by
    have other : ¬ event.IsReport kind := by
      intro report
      cases event with
      | icmp => exact effect trivial
      | _ => exact report
    rw [reports_record kind sr other, kept]
  stops := fun _ _ => trivial
  resolves := .inl fun _ => trivial

theorem permits_reports {kind type : UInt8} (other : type ≠ kind) (start : SrInstance) :
    Permits (fun sr => sr.reports kind = start.reports kind) type :=
  fun sr packet code kept =>
    (@reports_record kind sr (.icmp packet type code) other).trans kept

theorem keeps_reports_deliverLocally {memory : Memory} {kind : UInt8} {start : SrInstance}
    (notReply : icmpTypeEchoReply ≠ kind) (notUnreachable : icmpTypeDestUnreachable ≠ kind)
    (depth : Nat) (buf : Buf) :
    KeepsReports kind start (deliverLocally memory (handleArpreq memory depth) buf) := by
  have steady := steady_reports kind start
  have unreachable := permits_reports notUnreachable start
  have handles := keeps_steady_handleArpreq steady memory unreachable depth
  exact keeps_steady_deliverLocally steady memory handles buf (permits_reports notReply start)
    unreachable

end Cmput313.Router
