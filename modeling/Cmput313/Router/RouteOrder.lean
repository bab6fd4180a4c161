import Cmput313.Lib.Keyed
import Cmput313.Router.LongestPrefix

/-!
# The order in which routes are added

`sr_add_rt_entry` of `sr_rt.c`.  The scan of `longest_prefix_matching` keeps the
first of the entries with the longest mask, but of the entries that match one
destination no two share a mask, unless they are for the same network.
-/

set_option autoImplicit false

namespace Cmput313.Router

open Cmput313.Bytes Cmput313.Keyed

structure RouteArguments where
  dest : UInt32
  gw : UInt32
  mask : UInt32
  ifName : Name
  deriving DecidableEq

/-- The entry that is linked behind the last one; `strncpy` fills its whole name. -/
def RouteArguments.entry (arguments : RouteArguments) : SrRt where
  dest := arguments.dest
  gw := arguments.gw
  mask := arguments.mask
  interface := strncpy srIfaceNamelen arguments.ifName

/-- An empty list gets its first entry, any other one more at its end. -/
def srAddRtEntry : List SrRt → RouteArguments → List SrRt
  | [], arguments => [arguments.entry]
  | rtWalker :: next, arguments => rtWalker :: srAddRtEntry next arguments

def addedRoutes (routes : List RouteArguments) : List SrRt :=
  routes.foldl srAddRtEntry []

theorem srAddRtEntry_eq (routingTable : List SrRt) (arguments : RouteArguments) :
    srAddRtEntry routingTable arguments = routingTable ++ [arguments.entry] := by
  induction routingTable with
  | nil => rfl
  | cons rtWalker next inductionHypothesis =>
      rw [srAddRtEntry, inductionHypothesis, List.cons_append]

theorem foldl_srAddRtEntry (routes : List RouteArguments) (routingTable : List SrRt) :
    routes.foldl srAddRtEntry routingTable =
      routingTable ++ routes.map RouteArguments.entry := by
  induction routes generalizing routingTable with
  | nil => rw [List.foldl_nil, List.map_nil, List.append_nil]
  | cons arguments rest inductionHypothesis =>
      rw [List.foldl_cons, inductionHypothesis, srAddRtEntry_eq, List.map_cons,
        List.append_assoc, List.singleton_append]

theorem addedRoutes_eq (routes : List RouteArguments) :
    addedRoutes routes = routes.map RouteArguments.entry :=
  foldl_srAddRtEntry routes []

/-! ## The maximum of a key without ties -/

theorem argmax_perm {α β : Type} [LinearOrder β] {key : α → β} {left right : List α}
    (same : left.Perm right)
    (apart : ∀ first ∈ left, ∀ second ∈ left, key first = key second → first = second) :
    left.argmax key = right.argmax key := by
  cases leftBest : left.argmax key with
  | none =>
      have empty : left = [] := List.argmax_eq_none.mp leftBest
      subst empty
      rw [List.nil_perm.mp same, List.argmax_nil]
  | some first =>
      cases rightBest : right.argmax key with
      | none =>
          have empty : right = [] := List.argmax_eq_none.mp rightBest
          subst empty
          rw [List.perm_nil.mp same, List.argmax_nil] at leftBest
          exact absurd leftBest (Option.some_ne_none first).symm
      | some second =>
          have firstMember : first ∈ left := List.argmax_mem leftBest
          have secondMember : second ∈ right := List.argmax_mem rightBest
          have below : key first ≤ key second :=
            List.le_of_mem_argmax (same.mem_iff.mp firstMember) rightBest
          have above : key second ≤ key first :=
            List.le_of_mem_argmax (same.mem_iff.mpr secondMember) leftBest
          exact congrArg some (apart first firstMember second
            (same.mem_iff.mpr secondMember) (le_antisymm below above))

/-! ## Networks -/

def RouteArguments.network (arguments : RouteArguments) : UInt32 × UInt32 :=
  (ntohl arguments.mask, ntohl arguments.dest &&& ntohl arguments.mask)

theorem network_eq_of_matches {ip : UInt32} {first second : RouteArguments}
    (firstMatches : RouteMatches ip first.entry)
    (secondMatches : RouteMatches ip second.entry)
    (sameMask : hostMask first.entry = hostMask second.entry) :
    first.network = second.network := by
  have mask : ntohl first.mask = ntohl second.mask := UInt32.toNat_inj.mp sameMask
  have masked : ntohl first.dest &&& ntohl first.mask =
      ntohl second.dest &&& ntohl second.mask := by
    calc ntohl first.dest &&& ntohl first.mask
        = ntohl ip &&& ntohl first.mask := firstMatches.symm
      _ = ntohl ip &&& ntohl second.mask := by rw [mask]
      _ = ntohl second.dest &&& ntohl second.mask := secondMatches
  exact Prod.ext mask masked

/-- Without two routes for one network, the order in which routes are added makes no
difference to any lookup. -/
theorem longestPrefixMatching_addedRoutes_perm {left right : List RouteArguments}
    (same : left.Perm right) (distinct : Distinct RouteArguments.network left)
    (ip : UInt32) :
    longestPrefixMatching (addedRoutes left) ip =
      longestPrefixMatching (addedRoutes right) ip := by
  have entries : (candidates (addedRoutes left) ip).Perm
      (candidates (addedRoutes right) ip) := by
    rw [addedRoutes_eq, addedRoutes_eq]
    exact (same.map RouteArguments.entry).filter _
  rw [longestPrefixMatching_eq_argmax, longestPrefixMatching_eq_argmax]
  refine argmax_perm entries ?_
  intro first firstMember second secondMember sameMask
  rw [addedRoutes_eq, mem_candidates] at firstMember secondMember
  obtain ⟨firstAdded, firstMatches, _⟩ := firstMember
  obtain ⟨secondAdded, secondMatches, _⟩ := secondMember
  obtain ⟨firstRoute, firstRouteMember, rfl⟩ := List.mem_map.mp firstAdded
  obtain ⟨secondRoute, secondRouteMember, rfl⟩ := List.mem_map.mp secondAdded
  have network := network_eq_of_matches firstMatches secondMatches sameMask
  exact congrArg RouteArguments.entry
    (distinct.eq_of_key firstRouteMember secondRouteMember network)

/-- Two routes with non-contiguous masks and a default route, which is never selected. -/
def threeRoutes : List RouteArguments :=
  [⟨htonl 0x0a000001, htonl 0x0a000009, htonl 0xff0000ff, [101, 116, 104, 48]⟩,
    ⟨htonl 0x0a000000, htonl 0x0a000008, htonl 0xff000000, [101, 116, 104, 49]⟩,
    ⟨0, htonl 0x0a000007, 0, [101, 116, 104, 50]⟩]

theorem threeRoutes_reversed :
    longestPrefixMatching (addedRoutes threeRoutes) (htonl 0x0a222201) =
      longestPrefixMatching (addedRoutes threeRoutes.reverse) (htonl 0x0a222201) :=
  longestPrefixMatching_addedRoutes_perm threeRoutes.reverse_perm.symm
    (by rw [Distinct]; decide) (htonl 0x0a222201)

end Cmput313.Router
