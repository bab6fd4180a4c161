import Cmput313.Router.Tables
import Mathlib.Algebra.Group.Nat.Defs
import Mathlib.Data.List.MinMax

/-!
# What the routing table scan selects

The scan is Mathlib's `List.argmax` of the host-order mask over the matching
entries with a nonzero mask.  For prefix masks that makes it the longest prefix
match, except that a route of length 0 is never selected.
-/

set_option autoImplicit false

namespace Cmput313.Router

open Cmput313.Bytes

def hostMask (entry : SrRt) : Nat := (ntohl entry.mask).toNat

def RouteMatches (ip : UInt32) (entry : SrRt) : Prop :=
  ntohl ip &&& ntohl entry.mask = ntohl entry.dest &&& ntohl entry.mask

instance (ip : UInt32) (entry : SrRt) : Decidable (RouteMatches ip entry) :=
  inferInstanceAs (Decidable (_ = _))

def candidates (table : List SrRt) (ip : UInt32) : List SrRt :=
  table.filter fun entry => RouteMatches ip entry ∧ 0 < hostMask entry

theorem mem_candidates {table : List SrRt} {ip : UInt32} {entry : SrRt} :
    entry ∈ candidates table ip ↔
      entry ∈ table ∧ RouteMatches ip entry ∧ 0 < hostMask entry := by
  simp [candidates]

/-- The loop carries the best entry so far together with its own mask, which is
nonzero; before the first hit the mask is 0. -/
theorem longestPrefixLoop_eq_foldl (ip : UInt32) :
    ∀ (table : List SrRt) (best : Option SrRt) (longestMask : UInt32),
      (ntohl longestMask).toNat = (best.map hostMask).getD 0 →
      longestPrefixLoop ip table best longestMask =
        (candidates table ip).foldl
          (List.argAux fun left right => hostMask right < hostMask left) best := by
  intro table
  induction table with
  | nil => intro best longestMask _; rfl
  | cons entry rest inductionHypothesis =>
      intro best longestMask carried
      by_cases hit : RouteMatches ip entry
      · have hitCode :
            ntohl ip &&& ntohl entry.mask = ntohl entry.dest &&& ntohl entry.mask :=
          hit
        by_cases longer : ntohl entry.mask > ntohl longestMask
        · have larger : (ntohl longestMask).toNat < hostMask entry :=
            UInt32.lt_iff_toNat_lt.mp longer
          have positive : 0 < hostMask entry := by omega
          have selected : List.argAux
              (fun left right => hostMask right < hostMask left) best entry =
              some entry := by
            cases best with
            | none => rfl
            | some current =>
                have beaten : hostMask current < hostMask entry := by
                  simpa [carried] using larger
                simp [List.argAux, beaten]
          have head : candidates (entry :: rest) ip =
              entry :: candidates rest ip := by
            simp [candidates, hit, positive]
          rw [head, List.foldl_cons, selected]
          simp only [longestPrefixLoop, hitCode, longer, if_true]
          exact inductionHypothesis (some entry) entry.mask rfl
        · have notLarger : ¬ (ntohl longestMask).toNat < hostMask entry :=
            fun larger => longer (UInt32.lt_iff_toNat_lt.mpr larger)
          simp only [longestPrefixLoop, hitCode, longer, if_true, if_false]
          rw [inductionHypothesis best longestMask carried]
          by_cases positive : 0 < hostMask entry
          · have head : candidates (entry :: rest) ip =
                entry :: candidates rest ip := by
              simp [candidates, hit, positive]
            rw [head, List.foldl_cons]
            cases best with
            | none => exact absurd positive (by simpa [carried] using notLarger)
            | some current =>
                have kept : ¬ hostMask current < hostMask entry := by
                  simpa [carried] using notLarger
                simp [List.argAux, kept]
          · have head : candidates (entry :: rest) ip = candidates rest ip := by
              simp [candidates, positive]
            rw [head]
      · have missCode : ¬ ntohl ip &&& ntohl entry.mask =
            ntohl entry.dest &&& ntohl entry.mask := hit
        have head : candidates (entry :: rest) ip = candidates rest ip := by
          simp [candidates, hit]
        simp only [longestPrefixLoop, missCode, if_false]
        rw [head, inductionHypothesis best longestMask carried]

theorem longestPrefixMatching_eq_argmax (table : List SrRt) (ip : UInt32) :
    longestPrefixMatching table ip = (candidates table ip).argmax hostMask :=
  longestPrefixLoop_eq_foldl ip table none 0 (by decide)

/-! ## Prefix routes -/

/-- A route whose mask is a prefix, given by the prefix length. -/
structure PrefixRoute where
  dest : UInt32
  gw : UInt32
  length : Fin 33
  interface : Name

def prefixMask (length : Fin 33) : UInt32 :=
  htonl (UInt32.ofNat (2 ^ 32 - 2 ^ (32 - length.val)))

def PrefixRoute.entry (route : PrefixRoute) : SrRt where
  dest := route.dest
  gw := route.gw
  mask := prefixMask route.length
  interface := route.interface

theorem hostMask_entry (route : PrefixRoute) :
    hostMask route.entry = 2 ^ 32 - 2 ^ (32 - route.length.val) := by
  have powerPositive : 0 < 2 ^ (32 - route.length.val) := Nat.two_pow_pos _
  simp only [hostMask, PrefixRoute.entry, prefixMask, ntohl, htonl, swap32_swap32,
    UInt32.toNat_ofNat']
  omega

theorem hostMask_entry_le_iff (left right : PrefixRoute) :
    hostMask left.entry ≤ hostMask right.entry ↔ left.length ≤ right.length := by
  have leftBound : 2 ^ (32 - left.length.val) ≤ 2 ^ 32 :=
    Nat.pow_le_pow_right (by omega) (by omega)
  have rightBound : 2 ^ (32 - right.length.val) ≤ 2 ^ 32 :=
    Nat.pow_le_pow_right (by omega) (by omega)
  have powers : 2 ^ (32 - right.length.val) ≤ 2 ^ (32 - left.length.val) ↔
      32 - right.length.val ≤ 32 - left.length.val :=
    Nat.pow_le_pow_iff_right (by omega)
  rw [hostMask_entry, hostMask_entry, Fin.le_def]
  omega

theorem hostMask_entry_pos_iff (route : PrefixRoute) :
    0 < hostMask route.entry ↔ 0 < route.length.val := by
  have powers : 2 ^ (32 - route.length.val) < 2 ^ 32 ↔ 32 - route.length.val < 32 :=
    Nat.pow_lt_pow_iff_right (by omega)
  rw [hostMask_entry]
  omega

/-- NULL exactly when no route matches, and otherwise a matching route at least
as long as every matching one. -/
def SelectsLongest (table : List PrefixRoute) (ip : UInt32)
    (result : Option SrRt) : Prop :=
  (result = none ↔ ∀ route ∈ table, ¬ RouteMatches ip route.entry) ∧
    ∀ entry, result = some entry →
      ∃ route ∈ table, route.entry = entry ∧ RouteMatches ip entry ∧
        ∀ other ∈ table, RouteMatches ip other.entry → other.length ≤ route.length

theorem mem_candidates_of_routes {table : List PrefixRoute} {ip : UInt32}
    {entry : SrRt} :
    entry ∈ candidates (table.map PrefixRoute.entry) ip ↔
      ∃ route ∈ table, route.entry = entry ∧ RouteMatches ip entry ∧
        0 < route.length.val := by
  rw [mem_candidates]
  constructor
  · rintro ⟨member, hit, positive⟩
    obtain ⟨route, routeMember, rfl⟩ := List.mem_map.mp member
    exact ⟨route, routeMember, rfl, hit, (hostMask_entry_pos_iff route).mp positive⟩
  · rintro ⟨route, routeMember, rfl, hit, positive⟩
    exact ⟨List.mem_map.mpr ⟨route, routeMember, rfl⟩, hit,
      (hostMask_entry_pos_iff route).mpr positive⟩

/-- The result is right for every table and destination, unless only routes of
length 0 match: then the scan returns NULL although there is a match. -/
theorem longestPrefixMatching_selects_iff (table : List PrefixRoute) (ip : UInt32) :
    SelectsLongest table ip
        (longestPrefixMatching (table.map PrefixRoute.entry) ip) ↔
      ((∃ route ∈ table, RouteMatches ip route.entry) →
        ∃ route ∈ table, RouteMatches ip route.entry ∧ 0 < route.length.val) := by
  rw [longestPrefixMatching_eq_argmax]
  constructor
  · rintro ⟨noneIff, _⟩ ⟨route, member, hit⟩
    cases result : (candidates (table.map PrefixRoute.entry) ip).argmax hostMask with
    | none => exact absurd hit (noneIff.mp result route member)
    | some entry =>
        obtain ⟨chosen, chosenMember, rfl, chosenHit, positive⟩ :=
          mem_candidates_of_routes.mp (List.argmax_mem result)
        exact ⟨chosen, chosenMember, chosenHit, positive⟩
  · intro someLong
    refine ⟨?_, ?_⟩
    · rw [List.argmax_eq_none, List.eq_nil_iff_forall_not_mem]
      constructor
      · intro empty route member hit
        obtain ⟨long, longMember, longHit, positive⟩ := someLong ⟨route, member, hit⟩
        exact empty long.entry
          (mem_candidates_of_routes.mpr ⟨long, longMember, rfl, longHit, positive⟩)
      · intro noMatch entry member
        obtain ⟨route, routeMember, rfl, hit, _⟩ := mem_candidates_of_routes.mp member
        exact noMatch route routeMember hit
    · intro entry result
      obtain ⟨route, routeMember, rfl, hit, positive⟩ :=
        mem_candidates_of_routes.mp (List.argmax_mem result)
      refine ⟨route, routeMember, rfl, hit, ?_⟩
      intro other otherMember otherHit
      by_cases otherPositive : 0 < other.length.val
      · have otherCandidate := mem_candidates_of_routes.mpr
          ⟨other, otherMember, rfl, otherHit, otherPositive⟩
        exact (hostMask_entry_le_iff other route).mp
          (List.le_of_mem_argmax otherCandidate result)
      · exact Fin.le_def.mpr (by omega)

/-- 0.0.0.0/0 alone: it matches every destination, and the scan finds nothing. -/
theorem default_route_not_selected :
    ¬ SelectsLongest [⟨0, htonl 0x0a000001, 0, []⟩] (htonl 0x08080808)
      (longestPrefixMatching
        ([⟨0, htonl 0x0a000001, 0, []⟩].map PrefixRoute.entry)
        (htonl 0x08080808)) := by
  intro selects
  have missed : longestPrefixMatching
      ([⟨0, htonl 0x0a000001, 0, []⟩].map PrefixRoute.entry)
      (htonl 0x08080808) = none := by decide +kernel
  have noMatch := selects.1.mp missed ⟨0, htonl 0x0a000001, 0, []⟩ (by simp)
  exact noMatch (by decide +kernel)

end Cmput313.Router
