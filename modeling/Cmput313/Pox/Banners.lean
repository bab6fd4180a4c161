import Cmput313.Lib.Pieces
import Cmput313.Pox.VnsProtocol

/-!
# Long texts as banners

`VNSBanner.get_banners` and `VNSClose.get_banners_and_close` cut a text after every
255 characters.  They make one piece more than the length divided by 255, and so an
empty last one where the length is a multiple of it.
-/

set_option autoImplicit false

namespace Cmput313.Pox

open Cmput313.Pieces

namespace VnsBanner

def getBanners (msg : Str) : List VnsBanner :=
  let n := msg.length / 255 + 1
  (List.range n).map fun i => ⟨slice (i * 255) 255 msg⟩

end VnsBanner

namespace VnsClose

def getBannersAndClose (msg : Str) : List (VnsBanner ⊕ VnsClose) :=
  let n := msg.length / 255 + 1
  (List.range n).map fun i =>
    if i + 1 < n then .inl ⟨slice (i * 255) 255 msg⟩ else .inr ⟨slice (i * 255) 255 msg⟩

end VnsClose

def noticeText : VnsBanner ⊕ VnsClose → Str := Sum.elim VnsBanner.msg VnsClose.msg

/-- Pieces of at most 255 characters that make up the text, one for an empty text and
otherwise the length by 255, rounded up; and no other pieces are fewer. -/
structure SplitsMinimally (msg : Str) (pieces : List Str) : Prop where
  splits : Splits 255 msg pieces
  number : pieces.length = if msg = [] then 1 else (msg.length + 254) / 255
  least : ∀ other, other ≠ [] → Splits 255 msg other → pieces.length ≤ other.length

/-- What the docstrings say of both functions, and that only the last message closes. -/
structure SplitsAsDocumented (msg : Str) : Prop where
  banners : SplitsMinimally msg ((VnsBanner.getBanners msg).map VnsBanner.msg)
  bannersAndClose : SplitsMinimally msg ((VnsClose.getBannersAndClose msg).map noticeText)
  onlyLastCloses : ∃ (banners : List VnsBanner) (close : VnsClose),
    VnsClose.getBannersAndClose msg = banners.map Sum.inl ++ [Sum.inr close]

/-! ## The pieces -/

theorem getBanners_text (msg : Str) :
    (VnsBanner.getBanners msg).map VnsBanner.msg = cut 255 msg (msg.length / 255 + 1) := by
  rw [VnsBanner.getBanners, List.map_map]
  rfl

theorem getBannersAndClose_text (msg : Str) :
    (VnsClose.getBannersAndClose msg).map noticeText =
      cut 255 msg (msg.length / 255 + 1) := by
  rw [VnsClose.getBannersAndClose, List.map_map]
  refine List.map_congr_left fun i _ => ?_
  rw [Function.comp_apply]
  split <;> rfl

theorem getBannersAndClose_eq (msg : Str) : ∃ (banners : List VnsBanner) (close : VnsClose),
    VnsClose.getBannersAndClose msg = banners.map Sum.inl ++ [Sum.inr close] := by
  refine ⟨(List.range (msg.length / 255)).map fun i => ⟨slice (i * 255) 255 msg⟩,
    ⟨slice (msg.length / 255 * 255) 255 msg⟩, ?_⟩
  rw [VnsClose.getBannersAndClose, List.range_succ, List.map_append, List.map_map]
  congr 1
  · refine List.map_congr_left fun i member => ?_
    exact if_pos (Nat.succ_lt_succ (List.mem_range.mp member))
  · rw [List.map_singleton, if_neg (Nat.lt_irrefl _)]

theorem splits_pieces (msg : Str) : Splits 255 msg (cut 255 msg (msg.length / 255 + 1)) := by
  apply splits_cut
  omega

/-- One piece too many is made of a text whose length is a multiple of 255. -/
theorem number_iff (msg : Str) :
    msg.length / 255 + 1 = (if msg = [] then 1 else (msg.length + 254) / 255) ↔
      msg = [] ∨ ¬ 255 ∣ msg.length := by
  by_cases empty : msg = []
  · subst empty
    exact iff_of_true rfl (Or.inl rfl)
  · have positive : 0 < msg.length := List.length_pos_iff.mpr empty
    rw [if_neg empty, or_iff_right empty]
    omega

theorem splitsMinimally_iff (msg : Str) :
    SplitsMinimally msg (cut 255 msg (msg.length / 255 + 1)) ↔
      msg = [] ∨ ¬ 255 ∣ msg.length := by
  constructor
  · intro minimal
    have number := minimal.number
    rw [cut_length] at number
    exact (number_iff msg).mp number
  · intro condition
    have number := (number_iff msg).mpr condition
    refine ⟨splits_pieces msg, by rw [cut_length, number], fun other some_ splits => ?_⟩
    rw [cut_length, number]
    split
    · exact List.length_pos_iff.mpr some_
    · exact splits.ceil_le (by decide)

/-- The number of pieces is as documented for every text whose length is no multiple of
255, and for the empty one; all else holds of every text. -/
theorem splitsAsDocumented_iff (msg : Str) :
    SplitsAsDocumented msg ↔ msg = [] ∨ ¬ 255 ∣ msg.length := by
  constructor
  · intro documented
    have banners := documented.banners
    rw [getBanners_text] at banners
    exact (splitsMinimally_iff msg).mp banners
  · intro condition
    have minimal := (splitsMinimally_iff msg).mpr condition
    refine ⟨?_, ?_, getBannersAndClose_eq msg⟩
    · rw [getBanners_text]
      exact minimal
    · rw [getBannersAndClose_text]
      exact minimal

/-- 255 characters fit in one banner, and two are made. -/
theorem fullBanner_not_splitsAsDocumented :
    ¬ SplitsAsDocumented (List.replicate 255 97) := by
  intro documented
  have number := documented.banners.number
  rw [getBanners_text, cut_length, List.length_replicate] at number
  exact absurd number (by decide)

end Cmput313.Pox
