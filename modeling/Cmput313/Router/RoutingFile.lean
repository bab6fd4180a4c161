import Cmput313.Lib.InetAddress
import Cmput313.Lib.TextFile
import Cmput313.Router.RouteOrder

/-!
# The routing table file

`sr_load_rt` of `sr_rt.c`.  The result of `sscanf` is not looked at, and its four
buffers live across the lines, so that a line with fewer than four words is completed
with the words of earlier ones.
-/

set_option autoImplicit false

namespace Cmput313.Router

open Cmput313.Bytes Cmput313.CText

structure RouteWords where
  dest : Text
  gw : Text
  mask : Text
  iface : Text
  deriving DecidableEq

def bufsiz : Nat := 8192

def scanRoute (line : Text) (buffers : RouteWords) : Option RouteWords := do
  let (dest, rest) ← scanString 32 buffers.dest (some (cText line))
  let (gw, rest) ← scanString 32 buffers.gw rest
  let (mask, rest) ← scanString 32 buffers.mask rest
  let (iface, _) ← scanString 32 buffers.iface rest
  return ⟨dest, gw, mask, iface⟩

section Load

variable (inetAton : Text → Option UInt32)

/-- The arguments that the four buffers give, if the first three hold addresses. -/
def RouteWords.route (buffers : RouteWords) : Option RouteArguments := do
  let dest ← inetAton buffers.dest
  let gw ← inetAton buffers.gw
  let mask ← inetAton buffers.mask
  return ⟨dest, gw, mask, buffers.iface⟩

/-- The `while` over the lines; `none` where a word overflows its buffer. -/
def loadLines :
    List Text → RouteWords → Bool → List SrRt → Option (Int × List SrRt)
  | [], _, _, routingTable => some (0, routingTable)
  | line :: rest, buffers, clearRoutingTable, routingTable => do
      let buffers ← scanRoute line buffers
      match inetAton buffers.dest with
      | none => some (-1, routingTable)
      | some destAddr =>
          match inetAton buffers.gw with
          | none => some (-1, routingTable)
          | some gwAddr =>
              match inetAton buffers.mask with
              | none => some (-1, routingTable)
              | some maskAddr =>
                  let routingTable := if clearRoutingTable then routingTable else []
                  loadLines rest buffers true
                    (srAddRtEntry routingTable ⟨destAddr, gwAddr, maskAddr, buffers.iface⟩)

/-- `file` is `none` where it cannot be read; `stack` is what the buffers hold before
they are written. -/
def srLoadRt (stack : RouteWords) (file : Option Text) (routingTable : List SrRt) :
    Option (Int × List SrRt) :=
  match file with
  | none => some (-1, routingTable)
  | some file => loadLines inetAton (fgetsLines bufsiz file) stack false routingTable

/-! ## What a file says -/

def lineWords (line : Text) : List Text := words (cText line)

/-- The route of a line with at least four words, the first three of them addresses. -/
def lineRoute (line : Text) : Option RouteArguments :=
  match lineWords line with
  | dest :: gw :: mask :: iface :: _ => RouteWords.route inetAton ⟨dest, gw, mask, iface⟩
  | _ => none

/-- Every line gives a route, and these are the table, unless there is none and the table
stays; or some line gives none, and the file is refused. -/
def LoadsExactly (stack : RouteWords) (file : Text) (routingTable : List SrRt) : Prop :=
  ∃ ret loaded, srLoadRt inetAton stack (some file) routingTable = some (ret, loaded) ∧
    ((∃ routes, (fileLines file).mapM (lineRoute inetAton) = some routes ∧ ret = 0 ∧
        (fileLines file ≠ [] → loaded = routes.map RouteArguments.entry)) ∨
      ((fileLines file).mapM (lineRoute inetAton) = none ∧ ret = -1))

/-- The last word that the lines have in a place, or what the buffer held. -/
def lastWord (held : Text) (place : Nat) (lines : List Text) : Text :=
  ((lines.filterMap fun line => (lineWords line)[place]?).getLast?).getD held

def lastWords (held : RouteWords) (lines : List Text) : RouteWords where
  dest := lastWord held.dest 0 lines
  gw := lastWord held.gw 1 lines
  mask := lastWord held.mask 2 lines
  iface := lastWord held.iface 3 lines

def Rejects (buffers : RouteWords) : Prop :=
  inetAton buffers.dest = none ∨ inetAton buffers.gw = none ∨ inetAton buffers.mask = none

/-! ## The words that a line leaves -/

theorem lastWord_append (held : Text) (place : Nat) (front lines : List Text) :
    lastWord held place (front ++ lines) =
      lastWord (lastWord held place front) place lines := by
  simp only [lastWord, List.filterMap_append, List.getLast?_append]
  cases (lines.filterMap fun line => (lineWords line)[place]?).getLast? with
  | none => rw [Option.none_or, Option.getD_none]
  | some word => rfl

theorem lastWords_nil (held : RouteWords) : lastWords held [] = held := rfl

theorem lastWords_append (held : RouteWords) (front lines : List Text) :
    lastWords held (front ++ lines) = lastWords (lastWords held front) lines := by
  simp only [lastWords, lastWord_append]

theorem lastWord_singleton (held : Text) (place : Nat) (line : Text) :
    lastWord held place [line] = ((lineWords line)[place]?).getD held := by
  unfold lastWord
  cases word : (lineWords line)[place]? with
  | none => simp [word]
  | some found => simp [word]

theorem scanRoute_eq {line : Text} (short : ∀ word ∈ lineWords line, word.length < 32)
    (buffers : RouteWords) : scanRoute line buffers = some (lastWords buffers [line]) := by
  obtain ⟨gwInput, dest, afterDest⟩ :=
    @scanString_eq 32 buffers.dest (some (cText line)) short
  have shortGw : ∀ word ∈ gwInput.elim [] words, word.length < 32 := by
    rw [afterDest]
    exact fun word member => short word (List.mem_of_mem_tail member)
  obtain ⟨maskInput, gw, afterGw⟩ := scanString_eq buffers.gw gwInput shortGw
  have shortMask : ∀ word ∈ maskInput.elim [] words, word.length < 32 := by
    rw [afterGw]
    exact fun word member => shortGw word (List.mem_of_mem_tail member)
  obtain ⟨ifaceInput, mask, afterMask⟩ := scanString_eq buffers.mask maskInput shortMask
  have shortIface : ∀ word ∈ ifaceInput.elim [] words, word.length < 32 := by
    rw [afterMask]
    exact fun word member => shortMask word (List.mem_of_mem_tail member)
  obtain ⟨rest, iface, _⟩ := scanString_eq buffers.iface ifaceInput shortIface
  rw [scanRoute]
  simp only [dest, gw, mask, iface, Option.bind_eq_bind, Option.bind_some, Option.pure_def,
    afterMask, afterGw, afterDest, Option.elim_some, lastWords, lastWord_singleton, lineWords,
    List.getElem?_tail, Nat.zero_add]

theorem route_eq_none_iff (buffers : RouteWords) :
    buffers.route inetAton = none ↔ Rejects inetAton buffers := by
  simp only [RouteWords.route, Rejects]
  cases inetAton buffers.dest with
  | none => simp
  | some dest =>
      cases inetAton buffers.gw with
      | none => simp
      | some gw =>
          cases inetAton buffers.mask with
          | none => simp
          | some mask => simp

theorem loadLines_cons {line : Text} (short : ∀ word ∈ lineWords line, word.length < 32)
    (rest : List Text) (buffers : RouteWords) (clearRoutingTable : Bool)
    (routingTable : List SrRt) :
    loadLines inetAton (line :: rest) buffers clearRoutingTable routingTable =
      match (lastWords buffers [line]).route inetAton with
      | none => some (-1, routingTable)
      | some route =>
          loadLines inetAton rest (lastWords buffers [line]) true
            ((if clearRoutingTable then routingTable else []) ++ [route.entry]) := by
  rw [loadLines, scanRoute_eq short]
  simp only [Option.bind_eq_bind, Option.bind_some, RouteWords.route, srAddRtEntry_eq]
  cases inetAton (lastWords buffers [line]).dest with
  | none => rfl
  | some dest =>
      cases inetAton (lastWords buffers [line]).gw with
      | none => rfl
      | some gw =>
          cases inetAton (lastWords buffers [line]).mask with
          | none => rfl
          | some mask => rfl

/-! ## The whole file -/

/-- The loop ends at the first line with which the buffers hold something else than
addresses. -/
theorem loadLines_ret (lines : List Text)
    (short : ∀ line ∈ lines, ∀ word ∈ lineWords line, word.length < 32) :
    ∀ (buffers : RouteWords) (clearRoutingTable : Bool) (routingTable : List SrRt),
      ∃ ret loaded,
        loadLines inetAton lines buffers clearRoutingTable routingTable = some (ret, loaded) ∧
        (ret = 0 ∨ ret = -1) ∧
        (ret = -1 ↔
          ∃ front, front ≠ [] ∧ front <+: lines ∧ Rejects inetAton (lastWords buffers front)) := by
  induction lines with
  | nil =>
      intro buffers clearRoutingTable routingTable
      refine ⟨0, routingTable, rfl, Or.inl rfl, iff_of_false (by decide) ?_⟩
      rintro ⟨front, nonempty, isPrefix, _⟩
      exact nonempty (List.prefix_nil.mp isPrefix)
  | cons line rest inductionHypothesis =>
      intro buffers clearRoutingTable routingTable
      have own := short line (List.mem_cons_self ..)
      rw [loadLines_cons inetAton own]
      cases routed : (lastWords buffers [line]).route inetAton with
      | none =>
          refine ⟨-1, routingTable, rfl, Or.inr rfl, iff_of_true rfl ?_⟩
          exact ⟨[line], List.cons_ne_nil _ _, ⟨rest, rfl⟩,
            (route_eq_none_iff inetAton _).mp routed⟩
      | some route =>
          obtain ⟨ret, loaded, loads, either, rejected⟩ := inductionHypothesis
            (fun other member => short other (List.mem_cons_of_mem _ member))
            (lastWords buffers [line]) true
            ((if clearRoutingTable then routingTable else []) ++ [route.entry])
          refine ⟨ret, loaded, loads, either, rejected.trans ?_⟩
          constructor
          · rintro ⟨front, _, isPrefix, rejects⟩
            rw [← lastWords_append] at rejects
            exact ⟨line :: front, List.cons_ne_nil _ _,
              List.cons_prefix_cons.mpr ⟨rfl, isPrefix⟩, rejects⟩
          · rintro ⟨front, nonempty, isPrefix, rejects⟩
            cases front with
            | nil => exact absurd rfl nonempty
            | cons first front =>
                obtain ⟨rfl, behind⟩ := List.cons_prefix_cons.mp isPrefix
                rw [← List.singleton_append, lastWords_append] at rejects
                refine ⟨front, ?_, behind, rejects⟩
                rintro rfl
                rw [lastWords_nil, ← route_eq_none_iff, routed] at rejects
                exact absurd rejects (Option.some_ne_none route)

theorem lastWords_of_lineWords {line dest gw mask iface : Text} {more : List Text}
    (four : lineWords line = dest :: gw :: mask :: iface :: more) (buffers : RouteWords) :
    lastWords buffers [line] = ⟨dest, gw, mask, iface⟩ := by
  simp [lastWords, lastWord_singleton, four]

theorem lineRoute_eq_route {line : Text} (four : 4 ≤ (lineWords line).length)
    (buffers : RouteWords) :
    lineRoute inetAton line = (lastWords buffers [line]).route inetAton := by
  match listed : lineWords line, four with
  | dest :: gw :: mask :: iface :: more, _ =>
      rw [lineRoute, listed, lastWords_of_lineWords listed]

theorem four_of_lineRoute {line : Text} {route : RouteArguments}
    (given : lineRoute inetAton line = some route) : 4 ≤ (lineWords line).length := by
  unfold lineRoute at given
  split at given
  · rename_i listed
    rw [listed]
    simp
  · simp at given

theorem loadLines_routes {lines : List Text}
    (short : ∀ line ∈ lines, ∀ word ∈ lineWords line, word.length < 32) :
    ∀ {routes : List RouteArguments} (buffers : RouteWords) (clearRoutingTable : Bool)
      (routingTable : List SrRt), lines.mapM (lineRoute inetAton) = some routes →
      loadLines inetAton lines buffers clearRoutingTable routingTable =
        some (0, (if clearRoutingTable = true ∨ lines = [] then routingTable else []) ++
          routes.map RouteArguments.entry) := by
  induction lines with
  | nil =>
      intro routes buffers clearRoutingTable routingTable given
      rw [List.mapM_nil] at given
      obtain rfl := Option.some.inj given
      simp [loadLines]
  | cons line rest inductionHypothesis =>
      intro routes buffers clearRoutingTable routingTable given
      rw [List.mapM_cons] at given
      obtain ⟨route, own, given⟩ := Option.bind_eq_some_iff.mp given
      obtain ⟨others, later, given⟩ := Option.bind_eq_some_iff.mp given
      obtain rfl := Option.some.inj given
      have same := lineRoute_eq_route inetAton (four_of_lineRoute inetAton own) buffers
      rw [loadLines_cons inetAton (short line (List.mem_cons_self ..)), ← same, own]
      have tail := inductionHypothesis
        (fun other member => short other (List.mem_cons_of_mem _ member))
        (lastWords buffers [line]) true
        ((if clearRoutingTable then routingTable else []) ++ [route.entry]) later
      simp only [tail, true_or, if_true, List.append_assoc, List.singleton_append,
        List.map_cons, or_false, reduceCtorEq]

end Load

theorem isSome_mapM_iff {α β : Type} {function : α → Option β} {items : List α} :
    (items.mapM function).isSome ↔ ∀ item ∈ items, (function item).isSome := by
  induction items with
  | nil => simp
  | cons item rest inductionHypothesis =>
      rw [List.mapM_cons, List.forall_mem_cons, ← inductionHypothesis]
      cases function item with
      | none => simp
      | some value =>
          cases rest.mapM function with
          | none => simp
          | some values => simp

section Exact

variable (inetAton : Text → Option UInt32) (stack : RouteWords) {file : Text}
  (routingTable : List SrRt)
  (narrow : ∀ line ∈ fileLines file, line.length < bufsiz)
  (short : ∀ line ∈ fileLines file, ∀ word ∈ lineWords line, word.length < 32)

include narrow short

/-- The file is loaded as it says exactly if every line has four words, or the words that
some line leaves in the buffers, its own and those of earlier lines, are refused. -/
theorem loadsExactly_iff :
    LoadsExactly inetAton stack file routingTable ↔
      (∀ line ∈ fileLines file, 4 ≤ (lineWords line).length) ∨
        ∃ front, front ≠ [] ∧ front <+: fileLines file ∧
          Rejects inetAton (lastWords stack front) := by
  obtain ⟨ret, loaded, loads, either, rejected⟩ :=
    loadLines_ret inetAton (fileLines file) short stack false routingTable
  have whole : srLoadRt inetAton stack (some file) routingTable = some (ret, loaded) := by
    rw [srLoadRt, fgetsLines_eq_fileLines narrow]
    exact loads
  cases given : (fileLines file).mapM (lineRoute inetAton) with
  | some routes =>
      have every : ∀ line ∈ fileLines file, 4 ≤ (lineWords line).length := by
        intro line member
        have some_ := isSome_mapM_iff.mp (by rw [given]; rfl) line member
        obtain ⟨route, own⟩ := Option.isSome_iff_exists.mp some_
        exact four_of_lineRoute inetAton own
      have table := loadLines_routes inetAton short stack false routingTable given
      rw [loads] at table
      obtain ⟨rfl, rfl⟩ := Prod.mk.inj (Option.some.inj table)
      refine iff_of_true ⟨0, _, whole, Or.inl ⟨routes, given, rfl, fun lines => ?_⟩⟩ (Or.inl every)
      rw [if_neg (by simp [lines]), List.nil_append]
  | none =>
      have refused : LoadsExactly inetAton stack file routingTable ↔ ret = -1 := by
        constructor
        · rintro ⟨otherRet, otherLoaded, same, ⟨routes, impossible, _⟩ | ⟨_, refusal⟩⟩
          · rw [given] at impossible
            exact absurd impossible (by simp)
          · rw [whole] at same
            exact (Prod.mk.inj (Option.some.inj same)).1.trans refusal
        · exact fun refusal => ⟨ret, loaded, whole, Or.inr ⟨given, refusal⟩⟩
      rw [refused, rejected, iff_or_self]
      intro every
      -- a line with four words that gives no route is refused for its own words
      have missing : ¬ ∀ line ∈ fileLines file, (lineRoute inetAton line).isSome := by
        rw [← isSome_mapM_iff, given]
        exact Bool.false_ne_true
      push Not at missing
      obtain ⟨line, member, noRoute⟩ := missing
      obtain ⟨front, rest, split⟩ := List.append_of_mem member
      refine ⟨front ++ [line], by simp, ⟨rest, by simp [split]⟩, ?_⟩
      rw [lastWords_append, ← route_eq_none_iff,
        ← lineRoute_eq_route inetAton (every line member)]
      simpa using noRoute

end Exact

/-! ## A blank line -/

def aton (text : Text) : Option UInt32 :=
  (Inet.inetAton text).map fun address => peek32 (fun _ => 0) address.toList 0

def emptyStack : RouteWords := ⟨[], [], [], []⟩

def defaultRouteLine : Text := [48, 32, 48, 32, 48, 32, 101, 116, 104, 48, 10]

theorem defaultRouteLine_loadsExactly :
    LoadsExactly aton emptyStack defaultRouteLine [] ↔
      (∀ line ∈ fileLines defaultRouteLine, 4 ≤ (lineWords line).length) ∨
        ∃ front, front ≠ [] ∧ front <+: fileLines defaultRouteLine ∧
          Rejects aton (lastWords emptyStack front) :=
  loadsExactly_iff aton emptyStack [] (by decide +kernel) (by decide +kernel)

/-- A blank line behind the route adds it once more. -/
theorem blankLine_not_loadsExactly :
    ¬ LoadsExactly aton emptyStack (defaultRouteLine ++ [10]) [] := by
  have given : (fileLines (defaultRouteLine ++ [10])).mapM (lineRoute aton) = none := by
    decide +kernel
  have loads : (srLoadRt aton emptyStack (some (defaultRouteLine ++ [10])) []).map Prod.fst =
      some 0 := by
    decide +kernel
  rintro ⟨ret, loaded, same, ⟨routes, impossible, _⟩ | ⟨_, refusal⟩⟩
  · rw [given] at impossible
    exact absurd impossible (by simp)
  · rw [same, refusal] at loads
    exact absurd loads (by simp)

end Cmput313.Router
