import DummyDrivers.Fbdev.DirtyArea

/-! When the rectangle of the deferred-IO callback contains what its pages show. Its columns
are chosen after the loop, by the page that the list happens to end with.
-/

namespace DummyDrivers.Fbdev

open DummyDrivers.Hull

/-- A line holds at least a row of pixels, and a pixel at least one bit. -/
structure Geometry (info : FbInfo) : Prop where
  xres : 0 < info.var.xres.toNat
  bitsPerPixel : 0 < info.var.bitsPerPixel.toNat
  row
    : info.var.xres.toNat * info.var.bitsPerPixel.toNat ≤ 8 * info.fix.lineLength.toNat

/-- A page has a byte of a pixel on the screen. -/
def Shows (info : FbInfo) (offset : BitVec 64) (x y : Nat) : Prop :=
  x < info.var.xres.toNat
  ∧ y < info.var.yres.toNat
  ∧ ∃ byte,
      offset.toNat ≤ byte
      ∧ byte < offset.toNat + pageSize.toNat
      ∧ y * info.fix.lineLength.toNat + x * info.var.bitsPerPixel.toNat / 8 ≤ byte
      ∧ byte
        ≤ y * info.fix.lineLength.toNat + ((x + 1) * info.var.bitsPerPixel.toNat - 1) / 8

/-- An area contains a pixel. -/
def DirtyArea.Covers (area : DirtyArea) (x y : Nat) : Prop :=
  (area.x1.toNat ≤ x ∧ x ≤ area.x2.toNat) ∧ (area.y1.toNat ≤ y ∧ y ≤ area.y2.toNat)

/-- The area contains every pixel that a listed page shows, and the order of the list has no
part in it.
-/
structure AreaRight (info : FbInfo) (pages : List (BitVec 64)) : Prop where
  covers
    : ∀ uninit, ∀ offset ∈ pages, ∀ x y,
        Shows info offset x y → (dummyFbDeferredIo uninit info pages).Covers x y
  unordered
    : ∀ uninit uninitOther other,
        other.Perm pages
        → dummyFbDeferredIo uninitOther info other = dummyFbDeferredIo uninit info pages

/-- The screen has a third line and the page reaches the end of the second one. A page that
ends at line 2^32 does not count: that number is stored as zero.
-/
def EndsLate (info : FbInfo) (offset : BitVec 64) : Prop :=
  3 ≤ info.var.yres.toNat
  ∧ 2 * info.fix.lineLength.toNat ≤ offset.toNat + pageSize.toNat
  ∧ offset.toNat + pageSize.toNat ≠ 2 ^ 32 * info.fix.lineLength.toNat

/-- What a page list must be like for its area to be right. -/
structure PagesSettled (info : FbInfo) (pages : List (BitVec 64)) : Prop where
  /-- The screen has one column, or all pages end late, or no page ends late and none shows
  a pixel outside the first column. -/
  columns
    : info.var.xres.toNat = 1
      ∨ (∀ offset ∈ pages, EndsLate info offset)
      ∨ ∀ offset ∈ pages, ¬ EndsLate info offset ∧ ∀ x y, Shows info offset x y → x = 0
  /-- A page that ends at line 2^32 holds no pixel, or it lies in the last line and the page
  before it is listed, too. -/
  wrapped
    : ∀ offset ∈ pages,
        offset.toNat + pageSize.toNat = 2 ^ 32 * info.fix.lineLength.toNat
        → 8 * ((info.var.yres.toNat - 1) * info.fix.lineLength.toNat)
              + info.var.xres.toNat * info.var.bitsPerPixel.toNat
            ≤ 8 * offset.toNat
          ∨ (info.var.yres.toNat - 1) * info.fix.lineLength.toNat ≤ offset.toNat
            ∧ ∃ before ∈ pages, before.toNat + pageSize.toNat = offset.toNat

/-- The lines of a screen end before line 2^32. -/
theorem screen_le (info : FbInfo)
    : info.var.yres.toNat * info.fix.lineLength.toNat
      ≤ (2 ^ 32 - 1) * info.fix.lineLength.toNat :=
  Nat.mul_le_mul_right _ (Nat.le_sub_one_of_lt info.var.yres.isLt)

/-- The last of some blocks ends where all of them end. -/
theorem pred_mul_add {count : Nat} (positive : 0 < count) (size : Nat)
    : (count - 1) * size + size = count * size := by
  rw [← Nat.succ_mul, Nat.succ_eq_add_one, Nat.sub_add_cancel positive]

/-- A mapped page ends at line 2^32 at the latest. -/
theorem MappedPage.end_le {info : FbInfo} {offset : BitVec 64} (mapped : MappedPage info offset)
    : offset.toNat + pageSize.toNat ≤ 2 ^ 32 * info.fix.lineLength.toNat := by
  obtain ⟨index, aligned⟩ := mapped.aligned
  have inside := mapped.inside
  have bound := screen_le info
  rw [pageSize_toNat] at aligned ⊢
  omega

/-- The line after a page, as `y_end` stores it before the test. -/
theorem MappedPage.stored_end {info : FbInfo} {offset : BitVec 64}
    (mapped : MappedPage info offset)
    : (offset.toNat + pageSize.toNat) / info.fix.lineLength.toNat % 2 ^ 32
      = if offset.toNat + pageSize.toNat = 2 ^ 32 * info.fix.lineLength.toNat then
          0
        else
          (offset.toNat + pageSize.toNat) / info.fix.lineLength.toNat := by
  have width := mapped.lineLength_pos
  split
  · next wrapped => rw [wrapped, Nat.mul_div_cancel _ width, Nat.mod_self]
  · next other =>
      have below := lt_of_le_of_ne mapped.end_le other
      exact Nat.mod_eq_of_lt ((Nat.div_lt_iff_lt_mul width).mpr below)

theorem MappedPage.yEnd_late {info : FbInfo} {offset : BitVec 64}
    (mapped : MappedPage info offset)
    : 1 < yEnd info offset ↔ EndsLate info offset := by
  have width := mapped.lineLength_pos
  have one : (1 : BitVec 32).toNat = 1 := rfl
  rw [BitVec.lt_def, one, yEnd_toNat_of_inside mapped.inside, mapped.stored_end, EndsLate,
    lt_min_iff]
  split
  · next wrapped => simp [wrapped]
  · next other =>
      rw [← Nat.succ_le_iff, ← Nat.succ_le_iff, Nat.le_div_iff_mul_le width]
      constructor
      · intro late
        exact ⟨by omega, late.2, other⟩
      · intro late
        exact ⟨by omega, late.2.1⟩

/-- The last page of the list decides the columns. -/
theorem area_columns (uninit : BitVec 32) (info : FbInfo) (front : List (BitVec 64))
    (last : BitVec 64)
    : (dummyFbDeferredIo uninit info (front ++ [last])).x1 = 0
      ∧ (dummyFbDeferredIo uninit info (front ++ [last])).x2
        = if 1 < yEnd info last then info.var.xres - 1 else 0 := by
  let start : DirtyArea × BitVec 32 :=
    ({ x1 := 0, y1 := info.var.yres - 1, x2 := 0, y2 := 0 }, uninit)
  obtain ⟨x1, x2⟩ := scan_columns info start (front ++ [last])
  have ends : ((front ++ [last]).foldl (scanPage info) start).2 = yEnd info last := by
    rw [List.foldl_append]
    rfl
  unfold dummyFbDeferredIo
  dsimp only
  rw [ends]
  split
  · exact ⟨x1, rfl⟩
  · exact ⟨x1, x2⟩

theorem area_x1 (uninit : BitVec 32) {info : FbInfo} {pages : List (BitVec 64)}
    (listed : pages ≠ [])
    : (dummyFbDeferredIo uninit info pages).x1 = 0 := by
  rw [← List.dropLast_append_getLast listed]
  exact (area_columns uninit info _ _).1

/-- Every listed page can be moved to the end. -/
theorem exists_perm_last {pages : List (BitVec 64)} {offset : BitVec 64}
    (member : offset ∈ pages)
    : ∃ front, (front ++ [offset]).Perm pages := by
  obtain ⟨before, after, rfl⟩ := List.append_of_mem member
  refine ⟨before ++ after, ?_⟩
  rw [List.append_assoc]
  exact List.Perm.append_left before (List.perm_append_singleton offset after)

/-- The lines do not depend on the order of the list. -/
theorem area_lines_perm (uninit uninitOther : BitVec 32) (info : FbInfo)
    {pages other : List (BitVec 64)} (perm : other.Perm pages)
    : (dummyFbDeferredIo uninitOther info other).lines
      = (dummyFbDeferredIo uninit info pages).lines := by
  rw [dummyFbDeferredIo_lines, dummyFbDeferredIo_lines]
  exact hull_congr fun span => (perm.map (pageLines info)).mem_iff

/-- In every order of the list, some listed page decides the columns. -/
theorem exists_deciding (uninit : BitVec 32) (info : FbInfo) {pages other : List (BitVec 64)}
    (listed : pages ≠ []) (perm : other.Perm pages)
    : ∃ last ∈ pages,
        (dummyFbDeferredIo uninit info other).x2
        = if 1 < yEnd info last then info.var.xres - 1 else 0 := by
  have otherListed : other ≠ [] := fun empty => listed (List.nil_perm.mp (empty ▸ perm))
  refine ⟨other.getLast otherListed, perm.subset (List.getLast_mem otherListed), ?_⟩
  rw [← (area_columns uninit info other.dropLast (other.getLast otherListed)).2,
    List.dropLast_append_getLast]

/-- Settled pages give one last column in every order, and it is right of all they show. -/
theorem PagesSettled.area_x2 {info : FbInfo} {pages : List (BitVec 64)}
    (settled : PagesSettled info pages) (geometry : Geometry info) (listed : pages ≠ [])
    (mapped : ∀ offset ∈ pages, MappedPage info offset)
    : ∃ x2,
        (∀ uninit other, other.Perm pages → (dummyFbDeferredIo uninit info other).x2 = x2)
        ∧ ∀ offset ∈ pages, ∀ x y, Shows info offset x y → x ≤ x2.toNat := by
  have pred := pred_toNat geometry.xres
  rcases settled.columns with single | late | early
  · refine ⟨0, ?_, ?_⟩
    · intro uninit other perm
      obtain ⟨last, _, decided⟩ := exists_deciding uninit info listed perm
      have zero : info.var.xres - 1 = 0 := BitVec.eq_of_toNat_eq (by rw [pred, single]; rfl)
      rw [decided, zero, ite_self]
    · intro offset _ x y shows
      have column := shows.1
      omega
  · refine ⟨info.var.xres - 1, ?_, ?_⟩
    · intro uninit other perm
      obtain ⟨last, member, decided⟩ := exists_deciding uninit info listed perm
      rw [decided, if_pos ((mapped last member).yEnd_late.mpr (late last member))]
    · intro offset _ x y shows
      rw [pred]
      exact Nat.le_sub_one_of_lt shows.1
  · refine ⟨0, ?_, ?_⟩
    · intro uninit other perm
      obtain ⟨last, member, decided⟩ := exists_deciding uninit info listed perm
      rw [decided, if_neg (mt (mapped last member).yEnd_late.mp (early last member).1)]
    · intro offset member x y shows
      exact ((early offset member).2 x y shows).le

/-- A page's pixel lies in a line that the page touches. -/
theorem Shows.touches {info : FbInfo} {offset : BitVec 64} {x y : Nat}
    (geometry : Geometry info) (shows : Shows info offset x y)
    : TouchesLine info offset y := by
  obtain ⟨column, _, byte, first, last, low, high⟩ := shows
  have whole : (x + 1) * info.var.bitsPerPixel.toNat ≤ 8 * info.fix.lineLength.toNat :=
    (Nat.mul_le_mul_right _ column).trans geometry.row
  have some_bits : 0 < (x + 1) * info.var.bitsPerPixel.toNat :=
    Nat.mul_pos (Nat.succ_pos x) geometry.bitsPerPixel
  refine ⟨byte, first, last, Nat.div_eq_of_lt_le ?_ ?_⟩
  · exact (Nat.le_add_right _ _).trans low
  · rw [Nat.succ_mul]
    omega

/-- A page that starts behind the last pixel shows none. -/
theorem Shows.not_padding {info : FbInfo} {offset : BitVec 64} {x y : Nat}
    (geometry : Geometry info) (shows : Shows info offset x y)
    : ¬ 8 * ((info.var.yres.toNat - 1) * info.fix.lineLength.toNat)
          + info.var.xres.toNat * info.var.bitsPerPixel.toNat
        ≤ 8 * offset.toNat := by
  obtain ⟨column, line, byte, first, _, _, high⟩ := shows
  have row : y * info.fix.lineLength.toNat
      ≤ (info.var.yres.toNat - 1) * info.fix.lineLength.toNat :=
    Nat.mul_le_mul_right _ (Nat.le_sub_one_of_lt line)
  have bits : (x + 1) * info.var.bitsPerPixel.toNat
      ≤ info.var.xres.toNat * info.var.bitsPerPixel.toNat :=
    Nat.mul_le_mul_right _ column
  have some_bits : 0 < (x + 1) * info.var.bitsPerPixel.toNat :=
    Nat.mul_pos (Nat.succ_pos x) geometry.bitsPerPixel
  omega

/-- The last line of the area of settled pages is below every line that they show. -/
theorem PagesSettled.le_y2 {info : FbInfo} {pages : List (BitVec 64)}
    (settled : PagesSettled info pages) (geometry : Geometry info)
    (mapped : ∀ offset ∈ pages, MappedPage info offset) (uninit : BitVec 32)
    {offset : BitVec 64} (member : offset ∈ pages) {x y : Nat} (shows : Shows info offset x y)
    : y ≤ (dummyFbDeferredIo uninit info pages).y2.toNat := by
  have width := (mapped offset member).lineLength_pos
  have visible : y ≤ info.var.yres.toNat - 1 := Nat.le_sub_one_of_lt shows.2.1
  refine (le_area_y2 uninit (List.ne_nil_of_mem member) mapped).mpr ?_
  by_cases wrap : offset.toNat + pageSize.toNat = 2 ^ 32 * info.fix.lineLength.toNat
  · rcases settled.wrapped offset member wrap with padding | ⟨inLast, before, listed, next⟩
    · exact absurd padding (shows.not_padding geometry)
    · refine ⟨before, listed, le_min visible ?_⟩
      have inside : before.toNat + pageSize.toNat ≠ 2 ^ 32 * info.fix.lineLength.toNat := by
        rw [next, ← wrap, pageSize_toNat]
        omega
      rw [(mapped before listed).stored_end, if_neg inside, next]
      exact visible.trans ((Nat.le_div_iff_mul_le width).mpr inLast)
  · refine ⟨offset, member, le_min visible ?_⟩
    rw [(mapped offset member).stored_end, if_neg wrap]
    refine ((touchesLine_iff width).mp (shows.touches geometry)).2.trans ?_
    exact Nat.div_le_div_right (Nat.add_le_add_left (Nat.sub_le _ _) _)

/-- Settled pages have the right area. -/
theorem PagesSettled.areaRight {info : FbInfo} {pages : List (BitVec 64)}
    (settled : PagesSettled info pages) (geometry : Geometry info) (listed : pages ≠ [])
    (mapped : ∀ offset ∈ pages, MappedPage info offset)
    : AreaRight info pages := by
  obtain ⟨x2, columns, right⟩ := settled.area_x2 geometry listed mapped
  constructor
  case covers =>
    intro uninit offset member x y shows
    have width := (mapped offset member).lineLength_pos
    have low := ((touchesLine_iff width).mp (shows.touches geometry)).1
    refine ⟨⟨?_, ?_⟩, ?_, settled.le_y2 geometry mapped uninit member shows⟩
    · rw [area_x1 uninit listed]
      exact Nat.zero_le x
    · rw [columns uninit pages (List.Perm.refl pages)]
      exact right offset member x y shows
    · exact (area_y1_le uninit listed mapped).mpr ⟨offset, member, low⟩
  case unordered =>
    intro uninit uninitOther other perm
    have otherListed : other ≠ [] := fun empty => listed (List.nil_perm.mp (empty ▸ perm))
    apply DirtyArea.ext_lines
    · rw [area_x1 uninit listed, area_x1 uninitOther otherListed]
    · rw [columns uninitOther other perm, columns uninit pages (List.Perm.refl pages)]
    · exact area_lines_perm uninit uninitOther info perm

/-- In a right area every listed page decides the columns alike. -/
theorem AreaRight.x2_eq {info : FbInfo} {pages : List (BitVec 64)} (right : AreaRight info pages)
    {offset : BitVec 64} (member : offset ∈ pages)
    : (dummyFbDeferredIo 0 info pages).x2
      = if 1 < yEnd info offset then info.var.xres - 1 else 0 := by
  obtain ⟨front, perm⟩ := exists_perm_last member
  rw [← right.unordered 0 0 (front ++ [offset]) perm]
  exact (area_columns 0 info front offset).2

theorem AreaRight.columns {info : FbInfo} {pages : List (BitVec 64)}
    (right : AreaRight info pages) (geometry : Geometry info)
    (mapped : ∀ offset ∈ pages, MappedPage info offset)
    : info.var.xres.toNat = 1
      ∨ (∀ offset ∈ pages, EndsLate info offset)
      ∨ ∀ offset ∈ pages, ¬ EndsLate info offset ∧ ∀ x y, Shows info offset x y → x = 0 := by
  by_cases single : info.var.xres.toNat = 1
  · exact .inl single
  by_cases late : ∀ offset ∈ pages, EndsLate info offset
  · exact .inr (.inl late)
  -- One page that does not end late keeps all columns but the first out of the area.
  obtain ⟨early, listed, notLate⟩ := not_forall₂.mp late
  have x2 := right.x2_eq listed
  rw [if_neg (mt (mapped early listed).yEnd_late.mp notLate)] at x2
  refine .inr (.inr ?_)
  intro offset member
  refine ⟨?_, ?_⟩
  · intro endsLate
    have wide := right.x2_eq member
    rw [if_pos ((mapped offset member).yEnd_late.mpr endsLate), x2] at wide
    have width := congrArg BitVec.toNat wide
    have zero : (0 : BitVec 32).toNat = 0 := rfl
    have positive := geometry.xres
    rw [pred_toNat geometry.xres, zero] at width
    omega
  · intro x y shows
    have column := (right.covers 0 offset member x y shows).1.2
    rw [x2] at column
    exact Nat.le_zero.mp column

/-- The page behind line 2^32 shows the last pixel unless it starts behind it. -/
theorem MappedPage.shows_last {info : FbInfo} {offset : BitVec 64}
    (mapped : MappedPage info offset) (geometry : Geometry info)
    (wrap : offset.toNat + pageSize.toNat = 2 ^ 32 * info.fix.lineLength.toNat)
    (pixels
      : ¬ 8 * ((info.var.yres.toNat - 1) * info.fix.lineLength.toNat)
            + info.var.xres.toNat * info.var.bitsPerPixel.toNat
          ≤ 8 * offset.toNat)
    : ∃ x, Shows info offset x (info.var.yres.toNat - 1) := by
  have height := mapped.yres_pos
  have wide := geometry.xres
  have row := geometry.row
  have lines := pred_mul_add height info.fix.lineLength.toNat
  have bound := screen_le info
  have bits := pred_mul_add wide info.var.bitsPerPixel.toNat
  have some_bits := geometry.bitsPerPixel
  refine ⟨info.var.xres.toNat - 1, Nat.sub_one_lt_of_lt wide, Nat.sub_one_lt_of_lt height,
    (info.var.yres.toNat - 1) * info.fix.lineLength.toNat
      + (info.var.xres.toNat * info.var.bitsPerPixel.toNat - 1) / 8, ?_, ?_, ?_, ?_⟩
  · omega
  · omega
  · omega
  · rw [Nat.sub_add_cancel wide]

/-- In a right area a page that ends at line 2^32 needs the page before it for its line. -/
theorem AreaRight.wrapped {info : FbInfo} {pages : List (BitVec 64)}
    (right : AreaRight info pages) (geometry : Geometry info)
    (mapped : ∀ offset ∈ pages, MappedPage info offset) {offset : BitVec 64}
    (member : offset ∈ pages)
    (wrap : offset.toNat + pageSize.toNat = 2 ^ 32 * info.fix.lineLength.toNat)
    : 8 * ((info.var.yres.toNat - 1) * info.fix.lineLength.toNat)
          + info.var.xres.toNat * info.var.bitsPerPixel.toNat
        ≤ 8 * offset.toNat
      ∨ (info.var.yres.toNat - 1) * info.fix.lineLength.toNat ≤ offset.toNat
        ∧ ∃ before ∈ pages, before.toNat + pageSize.toNat = offset.toNat := by
  by_contra neither
  obtain ⟨pixels, alone⟩ := not_or.mp neither
  obtain ⟨x, shows⟩ := (mapped offset member).shows_last geometry wrap pixels
  have reached := (right.covers 0 offset member x _ shows).2.2
  obtain ⟨before, listed, reach⟩ :=
    (le_area_y2 0 (List.ne_nil_of_mem member) mapped).mp reached
  have height := (mapped offset member).yres_pos
  have width := (mapped offset member).lineLength_pos
  have inside := (mapped offset member).inside
  have lines := pred_mul_add height info.fix.lineLength.toNat
  have bound := screen_le info
  have ends := (mapped before listed).end_le
  obtain ⟨index, aligned⟩ := (mapped offset member).aligned
  obtain ⟨indexBefore, alignedBefore⟩ := (mapped before listed).aligned
  have line := reach.trans (min_le_right _ _)
  rw [(mapped before listed).stored_end] at line
  split at line
  · -- A page that is stored to end at line zero reaches the last line of no other screen.
    have single : info.var.yres.toNat = 1 := by omega
    rw [single] at inside
    rw [pageSize_toNat] at wrap
    omega
  · next other =>
      have below := (Nat.le_div_iff_mul_le width).mp line
      rw [pageSize_toNat] at *
      refine alone ⟨by omega, before, listed, by omega⟩

/-- For every geometry and every list of mapped pages, the rectangle contains what the pages
show and does not depend on their order exactly when the pages are settled.
-/
theorem dummyFb_dirtyArea_iff {info : FbInfo} (geometry : Geometry info)
    {pages : List (BitVec 64)} (listed : pages ≠ [])
    (mapped : ∀ offset ∈ pages, MappedPage info offset)
    : AreaRight info pages ↔ PagesSettled info pages := by
  constructor
  · intro right
    constructor
    case columns => exact right.columns geometry mapped
    case wrapped => exact fun offset member wrap => right.wrapped geometry mapped member wrap
  · intro settled
    exact settled.areaRight geometry listed mapped

/-- Witness: the driver's own framebuffer, whose pages all end late. -/
theorem dummyFb_dirtyArea_own
    : AreaRight dummyFbInfo [pageOffset 3, pageOffset 0] := by
  have mapped : ∀ offset ∈ [pageOffset 3, pageOffset 0], MappedPage dummyFbInfo offset := by
    intro offset member
    rcases List.mem_pair.mp member with rfl | rfl
    · exact { aligned := by decide, inside := by decide }
    · exact { aligned := by decide, inside := by decide }
  have geometry : Geometry dummyFbInfo :=
    { xres := by decide, bitsPerPixel := by decide, row := by decide }
  have late : ∀ offset ∈ [pageOffset 3, pageOffset 0], EndsLate dummyFbInfo offset := by
    intro offset member
    have inside : offset.toNat < smemLen := (mapped offset member).inside
    exact (mapped offset member).yEnd_late.mp (yEnd_late inside)
  refine (dummyFb_dirtyArea_iff geometry (List.cons_ne_nil _ _) mapped).mpr ?_
  exact
    {
      columns := .inr (.inl late)
      wrapped := fun offset member wrap => absurd wrap (late offset member).2.2
    }

/-- A screen of the driver's height whose lines are two pages long. -/
def wideInfo : FbInfo :=
  {
    fix := { dummyFbInfo.fix with lineLength := 8192 }
    var := { dummyFbInfo.var with xres := 4096 }
  }

/-- The first page of a wide screen ends within the first line, and then the area has no
column but the first.
-/
theorem dummyFb_dirtyArea_wide
    : ¬ ∀ info pages,
          Geometry info
          → pages ≠ []
          → (∀ offset ∈ pages, MappedPage info offset)
          → AreaRight info pages := by
  intro right
  have geometry : Geometry wideInfo :=
    { xres := by decide, bitsPerPixel := by decide, row := by decide }
  have mapped : ∀ offset ∈ [pageOffset 0], MappedPage wideInfo offset := by
    intro offset member
    obtain rfl := List.mem_singleton.mp member
    exact { aligned := by decide, inside := by decide }
  have area := right wideInfo [pageOffset 0] geometry (List.cons_ne_nil _ _) mapped
  have shows : Shows wideInfo (pageOffset 0) 1 0 := by
    refine ⟨by decide, by decide, 2, ?_⟩
    decide
  have column := (area.covers 0 _ (List.mem_singleton_self _) 1 0 shows).1.2
  have x2 : (dummyFbDeferredIo 0 wideInfo [pageOffset 0]).x2 = 0 := by decide
  rw [x2] at column
  contradiction

end DummyDrivers.Fbdev
