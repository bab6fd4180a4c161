import Cmput313.Router.State

/-!
# Interface list and routing table

`sr_if.c`, the lookup of `sr_rt.c` and the start-up check of `sr_main.c`.
-/

set_option autoImplicit false

namespace Cmput313.Router

open Cmput313.Program

def srGetInterface (ifList : List SrIf) (name : Name) : Option SrIf :=
  ifList.find? fun walker => strncmpEq srIfaceNamelen walker.name name

def srGetInterfaceByIp (ip : UInt32) : Sr (Option SrIf) := do
  if ip = 0 then
    throw (.assertion .ip)
  let sr ← get
  return sr.ifList.find? fun walker => walker.ip = ip

def dereference (interface : Option SrIf) : Sr SrIf :=
  match interface with
  | some interface => return interface
  | none => throw .nullInterface

/-- The `while` of `longest_prefix_matching`: the best entry so far and its
mask, the mask in network order as the code keeps it. -/
def longestPrefixLoop (ip : UInt32) :
    List SrRt → Option SrRt → UInt32 → Option SrRt
  | [], longestPrefixMatch, _ => longestPrefixMatch
  | entry :: rest, longestPrefixMatch, longestMask =>
      let destIp := ntohl entry.dest
      let mask := ntohl entry.mask
      let hostIp := ntohl ip
      if hostIp &&& mask = destIp &&& mask then
        if mask > ntohl longestMask then
          longestPrefixLoop ip rest (some entry) entry.mask
        else
          longestPrefixLoop ip rest longestPrefixMatch longestMask
      else
        longestPrefixLoop ip rest longestPrefixMatch longestMask

def longestPrefixMatching (routingTable : List SrRt) (ip : UInt32) : Option SrRt :=
  longestPrefixLoop ip routingTable none 0

/-- The number of routes whose interface is missing; 999 when either list is
empty. -/
def srVerifyRoutingTable (ifList : List SrIf) (routingTable : List SrRt) : Nat :=
  if ifList.isEmpty || routingTable.isEmpty then 999
  else
    routingTable.countP fun walker =>
      (srGetInterface ifList walker.interface).isNone

theorem srGetInterface_mem {ifList : List SrIf} {name : Name} {interface : SrIf}
    (found : srGetInterface ifList name = some interface) :
    interface ∈ ifList :=
  List.mem_of_find?_eq_some found

theorem srGetInterface_name {ifList : List SrIf} {name : Name} {interface : SrIf}
    (found : srGetInterface ifList name = some interface) :
    cString srIfaceNamelen interface.name = cString srIfaceNamelen name := by
  have matched := List.find?_some found
  simpa [strncmpEq] using matched

theorem srGetInterface_congr (ifList : List SrIf) {left right : Name}
    (same : cString srIfaceNamelen left = cString srIfaceNamelen right) :
    srGetInterface ifList left = srGetInterface ifList right := by
  simp only [srGetInterface, strncmpEq, same]

theorem srGetInterface_own_name {ifList : List SrIf} {name : Name} {interface : SrIf}
    (found : srGetInterface ifList name = some interface) :
    srGetInterface ifList interface.name = some interface := by
  rw [srGetInterface_congr ifList (srGetInterface_name found), found]

theorem longestPrefixLoop_mem (ip : UInt32) :
    ∀ (table : List SrRt) (best : Option SrRt) (mask : UInt32) (entry : SrRt),
      longestPrefixLoop ip table best mask = some entry →
        entry ∈ table ∨ best = some entry := by
  intro table
  induction table with
  | nil =>
      intro best mask entry result
      exact Or.inr result
  | cons head rest inductionHypothesis =>
      intro best mask entry result
      simp only [longestPrefixLoop] at result
      split at result
      · split at result
        · rcases inductionHypothesis _ _ entry result with member | chosen
          · exact Or.inl (List.mem_cons_of_mem _ member)
          · exact Or.inl (by simp [Option.some.inj chosen])
        · exact (inductionHypothesis _ _ entry result).imp_left
            (List.mem_cons_of_mem _)
      · exact (inductionHypothesis _ _ entry result).imp_left
          (List.mem_cons_of_mem _)

theorem longestPrefixMatching_mem {table : List SrRt} {ip : UInt32} {entry : SrRt}
    (result : longestPrefixMatching table ip = some entry) : entry ∈ table := by
  rcases longestPrefixLoop_mem ip table none 0 entry result with member | impossible
  · exact member
  · simp at impossible

theorem srVerifyRoutingTable_interface {ifList : List SrIf} {table : List SrRt}
    (verified : srVerifyRoutingTable ifList table = 0) {entry : SrRt}
    (member : entry ∈ table) :
    ∃ interface, srGetInterface ifList entry.interface = some interface := by
  unfold srVerifyRoutingTable at verified
  split at verified
  · simp at verified
  · have present := List.countP_eq_zero.mp verified entry member
    exact Option.ne_none_iff_exists'.mp (by simpa using present)

section Ends

variable (sr : SrInstance) (stopped : Fault → SrInstance → Prop)

@[simp] theorem ends_srGetInterfaceByIp (ip : UInt32)
    (returned : Option SrIf → SrInstance → Prop) :
    Ends (srGetInterfaceByIp ip) sr returned stopped ↔
      if ip = 0 then stopped (.assertion .ip) sr
      else returned (sr.ifList.find? fun walker => walker.ip = ip) sr := by
  unfold srGetInterfaceByIp
  by_cases zero : ip = 0
  · rw [if_pos zero, if_pos zero]; rfl
  · rw [if_neg zero, if_neg zero]; rfl

@[simp] theorem ends_dereference_some (interface : SrIf)
    (returned : SrIf → SrInstance → Prop) :
    Ends (dereference (some interface)) sr returned stopped ↔
      returned interface sr := Iff.rfl

@[simp] theorem ends_dereference_none (returned : SrIf → SrInstance → Prop) :
    Ends (dereference none) sr returned stopped ↔ stopped .nullInterface sr := Iff.rfl

end Ends

end Cmput313.Router
