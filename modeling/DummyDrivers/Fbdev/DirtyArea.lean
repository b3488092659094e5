import DummyDrivers.Fbdev.DeferredIo
import Mathlib.Data.Finset.Max
import Mathlib.Order.Bounds.Basic

/-! The rectangle that the deferred-IO callback computes, for every geometry and every list
of pages: its lines are tight, whereas its columns hang on the page that comes last.
-/

namespace DummyDrivers.Fbdev

open DummyDrivers.Hull

/-- A page of the mapping of a framebuffer. -/
structure MappedPage (info : FbInfo) (offset : BitVec 64) : Prop where
  aligned : pageSize.toNat ∣ offset.toNat
  inside : offset.toNat < info.var.yres.toNat * info.fix.lineLength.toNat

theorem MappedPage.lineLength_pos {info : FbInfo} {offset : BitVec 64}
    (mapped : MappedPage info offset)
    : 0 < info.fix.lineLength.toNat :=
  Nat.pos_of_mul_pos_left (Nat.zero_lt_of_lt mapped.inside)

theorem MappedPage.yres_pos {info : FbInfo} {offset : BitVec 64}
    (mapped : MappedPage info offset)
    : 0 < info.var.yres.toNat :=
  Nat.pos_of_mul_pos_right (Nat.zero_lt_of_lt mapped.inside)

/-- The first line of a page lies on the screen. -/
theorem MappedPage.line_lt {info : FbInfo} {offset : BitVec 64}
    (mapped : MappedPage info offset)
    : offset.toNat / info.fix.lineLength.toNat < info.var.yres.toNat :=
  Nat.div_lt_of_lt_mul (Nat.mul_comm _ _ ▸ mapped.inside)

/-- A page has a byte of a line. -/
def TouchesLine (info : FbInfo) (offset : BitVec 64) (line : Nat) : Prop :=
  ∃ byte,
    offset.toNat ≤ byte
    ∧ byte < offset.toNat + pageSize.toNat
    ∧ byte / info.fix.lineLength.toNat = line

/-- The lines of a page are those from its first byte's to its last byte's. -/
theorem touchesLine_iff {info : FbInfo} {offset : BitVec 64} {line : Nat}
    (width : 0 < info.fix.lineLength.toNat)
    : TouchesLine info offset line
      ↔ offset.toNat / info.fix.lineLength.toNat ≤ line
        ∧ line ≤ (offset.toNat + (pageSize.toNat - 1)) / info.fix.lineLength.toNat := by
  constructor
  · intro touches
    obtain ⟨byte, first, last, rfl⟩ := touches
    rw [pageSize_toNat] at last
    refine ⟨Nat.div_le_div_right first, Nat.div_le_div_right ?_⟩
    rw [pageSize_toNat]
    omega
  · intro between
    obtain ⟨low, high⟩ := between
    have start : line * info.fix.lineLength.toNat ≤ offset.toNat + (pageSize.toNat - 1) :=
      (Nat.le_div_iff_mul_le width).mp high
    have finish : offset.toNat < (line + 1) * info.fix.lineLength.toNat :=
      (Nat.div_lt_iff_lt_mul width).mp (Nat.lt_succ_of_le low)
    -- The first byte that the page and the line share.
    refine ⟨max offset.toNat (line * info.fix.lineLength.toNat), le_max_left _ _, ?_, ?_⟩
    · rw [pageSize_toNat] at start ⊢
      omega
    · refine Nat.div_eq_of_lt_le (le_max_right _ _) (max_lt finish ?_)
      rw [Nat.succ_mul]
      omega

/-- The lines that some listed page touches. -/
def touchedLines (info : FbInfo) (pages : List (BitVec 64)) : Set Nat :=
  { line | ∃ offset ∈ pages, TouchesLine info offset line }

/-- The page's last byte and the byte after it are on one line or on two lines in a row. -/
theorem succ_div_cases (byte width : Nat)
    : (byte + 1) / width = byte / width
      ∨ (byte + 1) / width = byte / width + 1 ∧ (byte / width + 1) * width = byte + 1 := by
  rw [Nat.succ_div]
  split
  · next divides =>
      refine .inr ⟨rfl, ?_⟩
      have whole := Nat.div_mul_cancel divides
      rwa [Nat.succ_div, if_pos divides] at whole
  · exact .inl rfl

/-- The span that the callback takes a page to cover, in numbers. -/
theorem MappedPage.pageLines {info : FbInfo} {offset : BitVec 64}
    (mapped : MappedPage info offset)
    : pageLines info offset
      = {
        low := offset.toNat / info.fix.lineLength.toNat
        high :=
          min (info.var.yres.toNat - 1)
            ((offset.toNat + pageSize.toNat) / info.fix.lineLength.toNat % 2 ^ 32)
      } :=
  congrArg₂ Span.mk (yCur_toNat_of_inside mapped.inside) (yEnd_toNat_of_inside mapped.inside)

/-- The first line of the area is below a line when a listed page starts there. -/
theorem area_y1_le (uninit : BitVec 32) {info : FbInfo} {pages : List (BitVec 64)}
    (listed : pages ≠ []) (mapped : ∀ offset ∈ pages, MappedPage info offset) {line : Nat}
    : (dummyFbDeferredIo uninit info pages).y1.toNat ≤ line
      ↔ ∃ offset ∈ pages, offset.toNat / info.fix.lineLength.toNat ≤ line := by
  change (dummyFbDeferredIo uninit info pages).lines.low ≤ line ↔ _
  rw [dummyFbDeferredIo_lines, hull_low_le]
  constructor
  · intro reached
    rcases reached with bottom | page
    · obtain ⟨offset, member⟩ := List.exists_mem_of_ne_nil _ listed
      have line_lt := (mapped offset member).line_lt
      rw [pred_toNat (mapped offset member).yres_pos] at bottom
      exact ⟨offset, member, (Nat.le_sub_one_of_lt line_lt).trans bottom⟩
    · obtain ⟨span, spanned, low⟩ := page
      obtain ⟨offset, member, rfl⟩ := List.mem_map.mp spanned
      rw [(mapped offset member).pageLines] at low
      exact ⟨offset, member, low⟩
  · intro page
    obtain ⟨offset, member, low⟩ := page
    refine .inr ⟨pageLines info offset, List.mem_map_of_mem member, ?_⟩
    rw [(mapped offset member).pageLines]
    exact low

/-- A line is at most the last line of the area when it is at most the clamped line after a
listed page.
-/
theorem le_area_y2 (uninit : BitVec 32) {info : FbInfo} {pages : List (BitVec 64)}
    (listed : pages ≠ []) (mapped : ∀ offset ∈ pages, MappedPage info offset) {line : Nat}
    : line ≤ (dummyFbDeferredIo uninit info pages).y2.toNat
      ↔ ∃ offset ∈ pages,
          line ≤ min (info.var.yres.toNat - 1)
            ((offset.toNat + pageSize.toNat) / info.fix.lineLength.toNat % 2 ^ 32) := by
  change line ≤ (dummyFbDeferredIo uninit info pages).lines.high ↔ _
  rw [dummyFbDeferredIo_lines, le_hull_high]
  constructor
  · intro reached
    rcases reached with top | page
    · obtain ⟨offset, member⟩ := List.exists_mem_of_ne_nil _ listed
      exact ⟨offset, member, top.trans (Nat.zero_le _)⟩
    · obtain ⟨span, spanned, high⟩ := page
      obtain ⟨offset, member, rfl⟩ := List.mem_map.mp spanned
      rw [(mapped offset member).pageLines] at high
      exact ⟨offset, member, high⟩
  · intro page
    obtain ⟨offset, member, high⟩ := page
    refine .inr ⟨pageLines info offset, List.mem_map_of_mem member, ?_⟩
    rw [(mapped offset member).pageLines]
    exact high

/-- A non-empty list has a page with the highest offset. -/
theorem exists_highest {pages : List (BitVec 64)} (listed : pages ≠ [])
    : ∃ highest ∈ pages, ∀ offset ∈ pages, offset.toNat ≤ highest.toNat := by
  obtain ⟨offset, member⟩ := List.exists_mem_of_ne_nil _ listed
  obtain ⟨highest, member, above⟩ :=
    pages.toFinset.exists_max_image BitVec.toNat ⟨offset, List.mem_toFinset.mpr member⟩
  exact ⟨highest, List.mem_toFinset.mp member, fun other listed =>
    above other (List.mem_toFinset.mpr listed)⟩

/-- The lines of an area report what the pages touch: from the first line touched to the
last one on the screen, or to the line after it where the highest page ends with a line.
-/
structure TightLines (info : FbInfo) (pages : List (BitVec 64)) (area : DirtyArea) : Prop where
  first : IsLeast (touchedLines info pages) area.y1.toNat
  last
    : ∃ line highest,
        IsGreatest { line ∈ touchedLines info pages | line < info.var.yres.toNat } line
        ∧ (highest ∈ pages ∧ ∀ offset ∈ pages, offset.toNat ≤ highest.toNat)
        ∧ (area.y2.toNat = line
          ∨ area.y2.toNat = line + 1
            ∧ line + 1 ≤ info.var.yres.toNat - 1
            ∧ highest.toNat + pageSize.toNat = (line + 1) * info.fix.lineLength.toNat)
  ordered : area.y1.toNat ≤ area.y2.toNat ∧ area.y2.toNat ≤ info.var.yres.toNat - 1

/-- The last line touched on the screen is the clamped line of the highest page's last
byte.
-/
theorem touched_last {info : FbInfo} {pages : List (BitVec 64)} {highest : BitVec 64}
    (member : highest ∈ pages) (above : ∀ offset ∈ pages, offset.toNat ≤ highest.toNat)
    (mapped : MappedPage info highest)
    : IsGreatest { line ∈ touchedLines info pages | line < info.var.yres.toNat }
        (min (info.var.yres.toNat - 1)
          ((highest.toNat + (pageSize.toNat - 1)) / info.fix.lineLength.toNat)) := by
  have width := mapped.lineLength_pos
  have height := mapped.yres_pos
  refine ⟨⟨⟨highest, member, (touchesLine_iff width).mpr ⟨?_, min_le_right _ _⟩⟩, ?_⟩, ?_⟩
  · exact le_min (Nat.le_sub_one_of_lt mapped.line_lt)
      (Nat.div_le_div_right (Nat.le_add_right _ _))
  · exact (min_le_left _ _).trans_lt (Nat.sub_one_lt_of_lt height)
  · intro line touched
    obtain ⟨⟨offset, listed, touches⟩, visible⟩ := touched
    have reach := ((touchesLine_iff width).mp touches).2
    refine le_min (Nat.le_sub_one_of_lt visible) (reach.trans (Nat.div_le_div_right ?_))
    exact Nat.add_le_add_right (above offset listed) _

/-- The last line of the area is the clamped line after the highest page. -/
theorem area_y2_eq (uninit : BitVec 32) {info : FbInfo} {pages : List (BitVec 64)}
    {highest : BitVec 64} (member : highest ∈ pages)
    (above : ∀ offset ∈ pages, offset.toNat ≤ highest.toNat)
    (mapped : ∀ offset ∈ pages, MappedPage info offset)
    (fits
      : ∀ offset ∈ pages,
          (offset.toNat + pageSize.toNat) / info.fix.lineLength.toNat < 2 ^ 32)
    : (dummyFbDeferredIo uninit info pages).y2.toNat
      = min (info.var.yres.toNat - 1)
          ((highest.toNat + pageSize.toNat) / info.fix.lineLength.toNat) := by
  refine eq_of_forall_le_iff ?_
  intro line
  rw [le_area_y2 uninit (List.ne_nil_of_mem member) mapped]
  constructor
  · intro page
    obtain ⟨offset, listed, reach⟩ := page
    rw [Nat.mod_eq_of_lt (fits offset listed)] at reach
    refine reach.trans (min_le_min_left _ (Nat.div_le_div_right ?_))
    exact Nat.add_le_add_right (above offset listed) _
  · intro reach
    refine ⟨highest, member, ?_⟩
    rw [Nat.mod_eq_of_lt (fits highest member)]
    exact reach

/-- Every non-empty list of mapped pages gives tight lines. -/
theorem dummyFbDeferredIo_tightLines (uninit : BitVec 32) {info : FbInfo}
    {pages : List (BitVec 64)} (listed : pages ≠ [])
    (mapped : ∀ offset ∈ pages, MappedPage info offset)
    (fits
      : ∀ offset ∈ pages,
          (offset.toNat + pageSize.toNat) / info.fix.lineLength.toNat < 2 ^ 32)
    : TightLines info pages (dummyFbDeferredIo uninit info pages) := by
  obtain ⟨highest, member, above⟩ := exists_highest listed
  have y2 := area_y2_eq uninit member above mapped fits
  have width := (mapped highest member).lineLength_pos
  constructor
  case first =>
    refine ⟨?_, ?_⟩
    · obtain ⟨offset, inList, low⟩ := (area_y1_le uninit listed mapped).mp le_rfl
      have high := (area_y1_le uninit listed mapped).mpr ⟨offset, inList, le_rfl⟩
      refine ⟨offset, inList, (touchesLine_iff width).mpr ⟨low, high.trans ?_⟩⟩
      exact Nat.div_le_div_right (Nat.le_add_right _ _)
    · intro line touched
      obtain ⟨offset, inList, touches⟩ := touched
      have low := ((touchesLine_iff width).mp touches).1
      exact (area_y1_le uninit listed mapped).mpr ⟨offset, inList, low⟩
  case last =>
    refine ⟨_, highest, touched_last member above (mapped highest member), ⟨member, above⟩, ?_⟩
    have whole : highest.toNat + (pageSize.toNat - 1) + 1 = highest.toNat + pageSize.toNat := rfl
    rcases succ_div_cases (highest.toNat + (pageSize.toNat - 1)) info.fix.lineLength.toNat
      with same | ⟨next, ends⟩
    · refine .inl ?_
      rw [y2, ← whole, same]
    · rw [whole] at next ends
      rcases Nat.lt_or_ge ((highest.toNat + (pageSize.toNat - 1)) / info.fix.lineLength.toNat)
        (info.var.yres.toNat - 1) with within | beyond
      · rw [y2, next, min_eq_right within, min_eq_right within.le]
        exact .inr ⟨rfl, within, ends.symm⟩
      · rw [y2, next, min_eq_left beyond, min_eq_left (Nat.le_succ_of_le beyond)]
        exact .inl rfl
  case ordered =>
    rw [y2]
    refine ⟨?_, min_le_left _ _⟩
    have low := (area_y1_le uninit listed mapped).mpr ⟨highest, member, le_rfl⟩
    refine low.trans (le_min (Nat.le_sub_one_of_lt (mapped highest member).line_lt) ?_)
    exact Nat.div_le_div_right (Nat.le_add_right _ _)

/-- For every geometry, every non-empty list of mapped pages gives tight lines, and the lines
of a concatenation are the hull of the lines of its two parts.
-/
theorem dummyFb_dirtyLines_exact {info : FbInfo} {pages : List (BitVec 64)}
    (listed : pages ≠ []) (mapped : ∀ offset ∈ pages, MappedPage info offset)
    (fits
      : ∀ offset ∈ pages,
          (offset.toNat + pageSize.toNat) / info.fix.lineLength.toNat < 2 ^ 32)
    : (∀ uninit, TightLines info pages (dummyFbDeferredIo uninit info pages))
      ∧ ∀ uninit uninitOther uninitBoth other,
          other ≠ []
          → (dummyFbDeferredIo uninitBoth info (pages ++ other)).lines
            = (dummyFbDeferredIo uninit info pages).lines.join
                (dummyFbDeferredIo uninitOther info other).lines := by
  refine ⟨fun uninit => dummyFbDeferredIo_tightLines uninit listed mapped fits, ?_⟩
  intro uninit uninitOther uninitBoth other _
  rw [dummyFbDeferredIo_lines, dummyFbDeferredIo_lines, dummyFbDeferredIo_lines, List.map_append,
    hull_append]

/-- Witness: two pages of the driver's own framebuffer, listed backwards. -/
theorem dummyFb_dirtyLines_backwards
    : TightLines dummyFbInfo [pageOffset 3, pageOffset 0]
        (dummyFbDeferredIo 0 dummyFbInfo [pageOffset 3, pageOffset 0]) := by
  have mapped : ∀ offset ∈ [pageOffset 3, pageOffset 0], MappedPage dummyFbInfo offset := by
    intro offset member
    rcases List.mem_pair.mp member with rfl | rfl
    · exact { aligned := by decide, inside := by decide }
    · exact { aligned := by decide, inside := by decide }
  have width : dummyFbInfo.fix.lineLength.toNat = 960 := rfl
  have fits
      : ∀ offset ∈ [pageOffset 3, pageOffset 0],
          (offset.toNat + pageSize.toNat) / dummyFbInfo.fix.lineLength.toNat < 2 ^ 32 := by
    intro offset member
    have inside := (mapped offset member).inside
    have height : dummyFbInfo.var.yres.toNat = 320 := rfl
    rw [width, height] at inside
    rw [width, pageSize_toNat]
    omega
  exact (dummyFb_dirtyLines_exact (List.cons_ne_nil _ _) mapped fits).1 0

end DummyDrivers.Fbdev
