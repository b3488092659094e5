import DummyDrivers.Fbdev.Device
import DummyDrivers.Library.Hull
import DummyDrivers.Library.Transition
import Mathlib.Algebra.Ring.Nat

/-! Which dirty areas the deferred-IO callback reports over a history of writes, touches
of mapped pages and runs of the deferred work.
-/

namespace DummyDrivers.Fbdev

open DummyDrivers.Hull
open DummyDrivers.Transition

-----------------------------------------------------------------------------------------
-- The callback as a hull of line spans
-----------------------------------------------------------------------------------------

theorem pageSize_toNat : pageSize.toNat = 4096 := rfl

/-- The span of lines of an area. -/
def DirtyArea.lines (area : DirtyArea) : Span Nat := { low := area.y1.toNat, high := area.y2.toNat }

/-- The span of lines that the callback takes a page to cover. -/
def pageLines (info : FbInfo) (offset : BitVec 64) : Span Nat :=
  { low := (yCur info offset).toNat, high := (yEnd info offset).toNat }

/-- The first line of an offset inside the screen, which fits `y_cur`. -/
theorem yCur_toNat_of_inside {info : FbInfo} {offset : BitVec 64}
    (inside : offset.toNat < info.var.yres.toNat * info.fix.lineLength.toNat)
    : (yCur info offset).toNat = offset.toNat / info.fix.lineLength.toNat := by
  have line : offset.toNat / info.fix.lineLength.toNat < info.var.yres.toNat :=
    Nat.div_lt_of_lt_mul (Nat.mul_comm _ _ ▸ inside)
  rw [yCur, BitVec.toNat_setWidth, BitVec.toNat_udiv, BitVec.toNat_setWidth_of_le (by decide),
    Nat.mod_eq_of_lt (line.trans info.var.yres.isLt)]

theorem pred_toNat {value : BitVec 32} (positive : 0 < value.toNat)
    : (value - 1).toNat = value.toNat - 1 := by
  have one : (1 : BitVec 32).toNat = 1 := rfl
  have least : 1 ≤ value := by
    rw [BitVec.le_def, one]
    exact positive
  rw [BitVec.toNat_sub_of_le least, one]

/-- The line after a page inside the screen, as far as it fits `y_end`, and at most the last
line.
-/
theorem yEnd_toNat_of_inside {info : FbInfo} {offset : BitVec 64}
    (inside : offset.toNat < info.var.yres.toNat * info.fix.lineLength.toNat)
    : (yEnd info offset).toNat
      = min (info.var.yres.toNat - 1)
          ((offset.toNat + pageSize.toNat) / info.fix.lineLength.toNat % 2 ^ 32) := by
  have width : info.fix.lineLength.toNat < 2 ^ 32 := info.fix.lineLength.isLt
  have height : info.var.yres.toNat < 2 ^ 32 := info.var.yres.isLt
  -- The product of two 32-bit numbers leaves room for one more page in 64 bits.
  have room : offset.toNat + pageSize.toNat < 2 ^ 64 := by
    have bound : info.var.yres.toNat * info.fix.lineLength.toNat ≤ (2 ^ 32 - 1) * (2 ^ 32 - 1) :=
      Nat.mul_le_mul (Nat.le_sub_one_of_lt height) (Nat.le_sub_one_of_lt width)
    rw [pageSize_toNat]
    omega
  have lastLine := pred_toNat (Nat.pos_of_mul_pos_right (Nat.zero_lt_of_lt inside))
  have line : (((offset + pageSize) / info.fix.lineLength.setWidth 64).setWidth 32).toNat
      = (offset.toNat + pageSize.toNat) / info.fix.lineLength.toNat % 2 ^ 32 := by
    rw [BitVec.toNat_setWidth, BitVec.toNat_udiv, BitVec.toNat_add,
      BitVec.toNat_setWidth_of_le (by decide), Nat.mod_eq_of_lt room]
  rw [← lastLine, ← line]
  unfold yEnd
  dsimp only
  split
  · next beyond => exact (Nat.min_eq_left (BitVec.lt_def.mp beyond).le).symm
  · next within => exact (Nat.min_eq_right (Nat.not_lt.mp within)).symm

theorem scanPage_lines (info : FbInfo) (scan : DirtyArea × BitVec 32) (offset : BitVec 64)
    : (scanPage info scan offset).1.lines = scan.1.lines.join (pageLines info offset) := by
  unfold scanPage
  dsimp only
  split <;> split <;>
    simp_all only [DirtyArea.lines, Span.join, pageLines, BitVec.lt_def] <;>
    congr 1 <;> omega

theorem scan_lines (info : FbInfo) (scan : DirtyArea × BitVec 32) (pages : List (BitVec 64))
    : (pages.foldl (scanPage info) scan).1.lines
      = hull scan.1.lines (pages.map (pageLines info)) := by
  induction pages generalizing scan with
  | nil => rfl
  | cons page pages ih =>
      rw [List.foldl_cons, ih, scanPage_lines]
      rfl

@[simp] theorem scanPage_columns (info : FbInfo) (scan : DirtyArea × BitVec 32)
    (offset : BitVec 64)
    : (scanPage info scan offset).1.x1 = scan.1.x1
      ∧ (scanPage info scan offset).1.x2 = scan.1.x2 := by
  unfold scanPage
  dsimp only
  split <;> split <;> exact ⟨rfl, rfl⟩

theorem scan_columns (info : FbInfo) (scan : DirtyArea × BitVec 32) (pages : List (BitVec 64))
    : (pages.foldl (scanPage info) scan).1.x1 = scan.1.x1
      ∧ (pages.foldl (scanPage info) scan).1.x2 = scan.1.x2 := by
  induction pages generalizing scan with
  | nil => exact ⟨rfl, rfl⟩
  | cons page pages ih => simpa using ih (scanPage info scan page)

/-- After the loop `y_end` belongs to a listed page, unless there was none. -/
theorem scan_yEnd (info : FbInfo) (scan : DirtyArea × BitVec 32) {pages : List (BitVec 64)}
    (listed : pages ≠ [])
    : ∃ page ∈ pages, (pages.foldl (scanPage info) scan).2 = yEnd info page := by
  induction pages generalizing scan with
  | nil => contradiction
  | cons page pages ih =>
      by_cases last : pages = []
      · subst last
        exact ⟨page, by simp, rfl⟩
      · obtain ⟨other, member, same⟩ := ih (scanPage info scan page) last
        exact ⟨other, List.mem_cons_of_mem _ member, same⟩

/-- The lines of the reported area: the hull of the page spans, from the last line and line
zero on. Whatever `y_end` started as has no part in it.
-/
theorem dummyFbDeferredIo_lines (uninit : BitVec 32) (info : FbInfo) (pages : List (BitVec 64))
    : (dummyFbDeferredIo uninit info pages).lines
      = hull { low := (info.var.yres - 1).toNat, high := 0 } (pages.map (pageLines info)) := by
  have lines := scan_lines info
    ({ x1 := 0, y1 := info.var.yres - 1, x2 := 0, y2 := 0 }, uninit) pages
  unfold dummyFbDeferredIo
  dsimp only
  split <;> exact lines

/-- A listed page sets the columns: they reach over the whole screen once some line after
the first two belongs to the last page of the list.
-/
theorem dummyFbDeferredIo_columns (uninit : BitVec 32) {info : FbInfo}
    {pages : List (BitVec 64)} (listed : pages ≠ [])
    (late : ∀ page ∈ pages, 1 < yEnd info page)
    : (dummyFbDeferredIo uninit info pages).x1 = 0
      ∧ (dummyFbDeferredIo uninit info pages).x2 = info.var.xres - 1 := by
  let start : DirtyArea × BitVec 32 :=
    ({ x1 := 0, y1 := info.var.yres - 1, x2 := 0, y2 := 0 }, uninit)
  obtain ⟨page, member, last⟩ := scan_yEnd info start listed
  have reached : 1 < (pages.foldl (scanPage info) start).2 := last ▸ late page member
  unfold dummyFbDeferredIo
  dsimp only
  rw [if_pos reached]
  exact ⟨(scan_columns info start pages).1, rfl⟩

theorem DirtyArea.ext_lines {area other : DirtyArea} (x1 : area.x1 = other.x1)
    (x2 : area.x2 = other.x2) (lines : area.lines = other.lines)
    : area = other := by
  obtain ⟨low, high⟩ := Span.mk.inj lines
  cases area
  cases other
  simp_all [BitVec.toNat_inj]

-----------------------------------------------------------------------------------------
-- Histories
-----------------------------------------------------------------------------------------

/-- The size of the video memory. -/
def smemLen : Nat := dummyFbInfo.fix.smemLen.toNat

/-- The line and the column of the pixel that a byte of the video memory belongs to. -/
def byteLine (byte : Nat) : Nat := byte / dummyFbInfo.fix.lineLength.toNat

def byteColumn (byte : Nat) : Nat :=
  byte % dummyFbInfo.fix.lineLength.toNat * 8 / dummyFbInfo.var.bitsPerPixel.toNat

/-- The offset of the n-th page of the mapping. -/
def pageOffset (page : Nat) : BitVec 64 := BitVec.ofNat 64 page * pageSize

/-- The page list, and the bytes modified since the last run of the work by each path. -/
structure FbState where
  pagereflist : List (BitVec 64)
  written : List Nat
  touched : List Nat

def FbState.initial : FbState := { pagereflist := [], written := [], touched := [] }

/-- `dummy_fb_write` of `count` bytes at `ppos`: `fb_sys_write` copies them, and scheduling
the work changes neither list.
-/
def dummyFbWrite (s : FbState) (ppos count : Nat) : FbState :=
  { s with written := s.written ++ List.range' ppos count }

/-- What happens to the framebuffer. A run of the work shows the lists it starts from and
the area that it reports.
-/
inductive FbActivity where
  | write (ppos count : Nat)
  | touch (page : Nat) (bytes : List Nat)
  | work (pages : List (BitVec 64)) (written touched : List Nat) (area : DirtyArea)

/-- A touch modifies bytes of one page, which is put on the list unless it is there already;
the work may run at any moment, scheduled by a write or by a touch.
-/
inductive FbStep : FbState → FbActivity → FbState → Prop where
  | write {s} (ppos count : Nat) (inside : ppos + count ≤ smemLen)
    : FbStep s (.write ppos count) (dummyFbWrite s ppos count)
  | touchFresh {s} (before after : List (BitVec 64)) (page : Nat) (bytes : List Nat)
    (inside : page * pageSize.toNat < smemLen)
    (within : ∀ byte ∈ bytes, byte / pageSize.toNat = page)
    (split : s.pagereflist = before ++ after) (fresh : pageOffset page ∉ s.pagereflist)
    : FbStep s (.touch page bytes)
        { s with
          pagereflist := before ++ pageOffset page :: after
          touched := s.touched ++ bytes }
  | touchAgain {s} (page : Nat) (bytes : List Nat)
    (inside : page * pageSize.toNat < smemLen)
    (within : ∀ byte ∈ bytes, byte / pageSize.toNat = page)
    (listed : pageOffset page ∈ s.pagereflist)
    : FbStep s (.touch page bytes) { s with touched := s.touched ++ bytes }
  | work {s} (uninit : BitVec 32)
    : FbStep s
        (.work s.pagereflist s.written s.touched
          (dummyFbDeferredIo uninit dummyFbInfo s.pagereflist))
        FbState.initial

abbrev FbRun (history : List FbActivity) (s : FbState) : Prop :=
  Run FbStep FbState.initial history s

/-- What holds of the lists: only pages of the mapping are listed, every touched byte lies
in a listed page, and all modified bytes lie in the video memory.
-/
structure Tracked (s : FbState) : Prop where
  pages : ∀ offset ∈ s.pagereflist, offset.toNat < smemLen
  written : ∀ byte ∈ s.written, byte < smemLen
  touched
    : ∀ byte ∈ s.touched,
        byte < smemLen
        ∧ ∃ offset ∈ s.pagereflist,
            offset.toNat ≤ byte ∧ byte < offset.toNat + pageSize.toNat

theorem smemLen_eq : smemLen = 307200 := rfl

theorem byteLine_eq (byte : Nat) : byteLine byte = byte / 960 := rfl

theorem pageOffset_toNat {page : Nat} (inside : page * pageSize.toNat < smemLen)
    : (pageOffset page).toNat = page * 4096 := by
  rw [smemLen_eq, pageSize_toNat] at inside
  rw [pageOffset, BitVec.toNat_mul, BitVec.toNat_ofNat, pageSize_toNat]
  omega

/-- The bytes of a page of the mapping. -/
theorem touched_within {page byte : Nat} (inside : page * pageSize.toNat < smemLen)
    (within : byte / pageSize.toNat = page)
    : byte < smemLen
      ∧ (pageOffset page).toNat ≤ byte
      ∧ byte < (pageOffset page).toNat + pageSize.toNat := by
  rw [pageOffset_toNat inside]
  simp only [smemLen_eq, pageSize_toNat] at *
  omega

theorem Tracked.step {s t : FbState} {label : FbActivity} (tracked : Tracked s)
    (next : FbStep s label t)
    : Tracked t := by
  cases next with
  | write ppos count inside =>
      refine ⟨tracked.pages, ?_, tracked.touched⟩
      intro byte member
      rcases List.mem_append.mp member with earlier | new
      · exact tracked.written byte earlier
      · obtain ⟨_, _, rfl⟩ := List.mem_range'.mp new
        omega
  | touchFresh before after page bytes inside within split fresh =>
      have listed : ∀ offset ∈ s.pagereflist, offset ∈ before ++ pageOffset page :: after := by
        intro offset member
        rw [split] at member
        rcases List.mem_append.mp member with early | late
        · exact List.mem_append_left _ early
        · exact List.mem_append_right _ (List.mem_cons_of_mem _ late)
      refine ⟨?_, tracked.written, ?_⟩
      · intro offset member
        rcases List.mem_append.mp member with early | late
        · exact tracked.pages offset (split ▸ List.mem_append_left _ early)
        rcases List.mem_cons.mp late with rfl | late
        · rw [pageOffset_toNat inside]
          exact inside
        · exact tracked.pages offset (split ▸ List.mem_append_right _ late)
      · intro byte member
        rcases List.mem_append.mp member with earlier | new
        · obtain ⟨bound, offset, member, around⟩ := tracked.touched byte earlier
          exact ⟨bound, offset, listed offset member, around⟩
        · obtain ⟨bound, around⟩ := touched_within inside (within byte new)
          exact ⟨bound, pageOffset page, by simp, around⟩
  | touchAgain page bytes inside within listed =>
      refine ⟨tracked.pages, tracked.written, ?_⟩
      intro byte member
      rcases List.mem_append.mp member with earlier | new
      · exact tracked.touched byte earlier
      · obtain ⟨bound, around⟩ := touched_within inside (within byte new)
        exact ⟨bound, pageOffset page, listed, around⟩
  | work uninit => constructor <;> simp [FbState.initial]

theorem FbRun.tracked {history : List FbActivity} {s : FbState} (run : FbRun history s)
    : Tracked s :=
  Run.invariant (fun _ s => Tracked s) run (by constructor <;> simp [FbState.initial])
    (fun _ tracked next => tracked.step next)

-----------------------------------------------------------------------------------------
-- What one run of the work reports
-----------------------------------------------------------------------------------------

/-- A byte's pixel lies on the screen. -/
def Visible (byte : Nat) : Prop :=
  byteLine byte < dummyFbInfo.var.yres.toNat ∧ byteColumn byte < dummyFbInfo.var.xres.toNat

/-- An area contains a byte's pixel. -/
def DirtyArea.Contains (area : DirtyArea) (byte : Nat) : Prop :=
  (area.x1.toNat ≤ byteColumn byte ∧ byteColumn byte ≤ area.x2.toNat)
  ∧ (area.y1.toNat ≤ byteLine byte ∧ byteLine byte ≤ area.y2.toNat)

/-- A report that is determined by the page list, lies on the screen and contains every
visible byte modified.
-/
structure ReportRight (pages : List (BitVec 64)) (written touched : List Nat)
    (area : DirtyArea) : Prop where
  determined : ∀ uninit, dummyFbDeferredIo uninit dummyFbInfo pages = area
  columns : area.x1 ≤ area.x2 ∧ area.x2 < dummyFbInfo.var.xres
  lines : area.y1 ≤ area.y2 ∧ area.y2 < dummyFbInfo.var.yres
  contains : ∀ byte, byte ∈ written ∨ byte ∈ touched → Visible byte → area.Contains byte

/-- Some page is listed, and every byte written lies on a line between the one where some
listed page starts and the one that the byte after some listed page is on.
-/
def PagesReach (pages : List (BitVec 64)) (written : List Nat) : Prop :=
  pages ≠ []
  ∧ ∀ byte ∈ written,
      (∃ offset ∈ pages, byteLine offset.toNat ≤ byteLine byte)
      ∧ ∃ offset ∈ pages, byteLine byte ≤ byteLine (offset.toNat + pageSize.toNat)

theorem yCur_toNat {offset : BitVec 64} (inside : offset.toNat < smemLen)
    : (yCur dummyFbInfo offset).toNat = byteLine offset.toNat :=
  yCur_toNat_of_inside inside

theorem yEnd_toNat {offset : BitVec 64} (inside : offset.toNat < smemLen)
    : (yEnd dummyFbInfo offset).toNat
      = min 319 (byteLine (offset.toNat + pageSize.toNat)) := by
  have lastLine : dummyFbInfo.var.yres.toNat - 1 = 319 := rfl
  have fits : byteLine (offset.toNat + pageSize.toNat) < 2 ^ 32 := by
    rw [smemLen_eq] at inside
    rw [byteLine_eq, pageSize_toNat]
    omega
  rw [yEnd_toNat_of_inside inside, lastLine, ← byteLine, Nat.mod_eq_of_lt fits]

/-- The span that the callback takes a page of the mapping to cover. -/
def mappedLines (offset : BitVec 64) : Span Nat :=
  {
    low := byteLine offset.toNat
    high := min 319 (byteLine (offset.toNat + pageSize.toNat))
  }

theorem report_lines {pages : List (BitVec 64)} (uninit : BitVec 32)
    (inside : ∀ offset ∈ pages, offset.toNat < smemLen)
    : (dummyFbDeferredIo uninit dummyFbInfo pages).lines
      = hull { low := 319, high := 0 } (pages.map mappedLines) := by
  have spans : pages.map (pageLines dummyFbInfo) = pages.map mappedLines := by
    apply List.map_congr_left
    intro offset member
    simp only [pageLines, mappedLines, yCur_toNat (inside offset member),
      yEnd_toNat (inside offset member)]
  rw [dummyFbDeferredIo_lines, spans]
  rfl

/-- The first line of the report, by the offsets of the listed pages. -/
theorem report_y1_le {pages : List (BitVec 64)} (uninit : BitVec 32)
    (inside : ∀ offset ∈ pages, offset.toNat < smemLen) {line : Nat}
    : (dummyFbDeferredIo uninit dummyFbInfo pages).y1.toNat ≤ line
      ↔ 319 ≤ line ∨ ∃ offset ∈ pages, byteLine offset.toNat ≤ line := by
  change (dummyFbDeferredIo uninit dummyFbInfo pages).lines.low ≤ line ↔ _
  rw [report_lines uninit inside, hull_low_le]
  simp [mappedLines]

/-- The last line of the report, by the offsets of the listed pages. -/
theorem le_report_y2 {pages : List (BitVec 64)} (uninit : BitVec 32)
    (inside : ∀ offset ∈ pages, offset.toNat < smemLen) {line : Nat}
    : line ≤ (dummyFbDeferredIo uninit dummyFbInfo pages).y2.toNat
      ↔ line = 0
        ∨ ∃ offset ∈ pages, line ≤ min 319 (byteLine (offset.toNat + pageSize.toNat)) := by
  change line ≤ (dummyFbDeferredIo uninit dummyFbInfo pages).lines.high ↔ _
  rw [report_lines uninit inside, le_hull_high]
  simp [mappedLines]

theorem report_y2_lt {pages : List (BitVec 64)} (uninit : BitVec 32)
    (inside : ∀ offset ∈ pages, offset.toNat < smemLen)
    : (dummyFbDeferredIo uninit dummyFbInfo pages).y2.toNat < 320 := by
  change (dummyFbDeferredIo uninit dummyFbInfo pages).lines.high < 320
  apply Nat.lt_succ_of_le
  rw [report_lines uninit inside, hull_high_le]
  simp [mappedLines]

/-- A page of the mapping reaches past the first two lines. -/
theorem yEnd_late {offset : BitVec 64} (inside : offset.toNat < smemLen)
    : 1 < yEnd dummyFbInfo offset := by
  have line := yEnd_toNat inside
  rw [byteLine_eq, pageSize_toNat] at line
  rw [BitVec.lt_def, line]
  change 1 < _
  omega

/-- A non-empty list gives columns over the whole screen. -/
theorem report_columns {pages : List (BitVec 64)} (uninit : BitVec 32)
    (inside : ∀ offset ∈ pages, offset.toNat < smemLen) (listed : pages ≠ [])
    : (dummyFbDeferredIo uninit dummyFbInfo pages).x1 = 0
      ∧ (dummyFbDeferredIo uninit dummyFbInfo pages).x2 = dummyFbInfo.var.xres - 1 :=
  dummyFbDeferredIo_columns uninit listed
    (fun offset member => yEnd_late (inside offset member))

theorem byte_onPanel {byte : Nat} (bound : byte < smemLen)
    : byteLine byte < 320 ∧ byteColumn byte < 480 := by
  have columns : byteColumn byte = byte % 960 * 8 / 16 := rfl
  rw [smemLen_eq] at bound
  rw [byteLine_eq, columns]
  omega

/-- Only a list of pages that reach the bytes written is reported right. -/
theorem ReportRight.pagesReach {s : FbState} (tracked : Tracked s) {uninit : BitVec 32}
    (right
      : ReportRight s.pagereflist s.written s.touched
          (dummyFbDeferredIo uninit dummyFbInfo s.pagereflist))
    : PagesReach s.pagereflist s.written := by
  have inside := tracked.pages
  have listed : s.pagereflist ≠ [] := by
    intro empty
    have first := right.determined 0
    have second := right.determined 2
    rw [empty] at first second
    exact absurd (first.trans second.symm) (by decide)
  refine ⟨listed, ?_⟩
  intro byte member
  have bound := tracked.written byte member
  obtain ⟨_, first, last⟩ := right.contains byte (.inl member) (byte_onPanel bound)
  rw [report_y1_le uninit inside] at first
  rw [le_report_y2 uninit inside] at last
  obtain ⟨page, pageListed⟩ := List.exists_mem_of_ne_nil _ listed
  have pageInside := inside page pageListed
  rw [smemLen_eq] at pageInside
  constructor
  · rcases first with bottom | reached
    · refine ⟨page, pageListed, ?_⟩
      rw [byteLine_eq page.toNat]
      omega
    · exact reached
  · rcases last with top | ⟨offset, member, reached⟩
    · exact ⟨page, pageListed, by omega⟩
    · exact ⟨offset, member, by omega⟩

/-- The pages reach every modified byte: a touched one lies in a listed page. -/
theorem PagesReach.around {s : FbState} (reach : PagesReach s.pagereflist s.written)
    (tracked : Tracked s) {byte : Nat} (modified : byte ∈ s.written ∨ byte ∈ s.touched)
    : byte < smemLen
      ∧ (∃ offset ∈ s.pagereflist, byteLine offset.toNat ≤ byteLine byte)
      ∧ ∃ offset ∈ s.pagereflist,
          byteLine byte ≤ byteLine (offset.toNat + pageSize.toNat) := by
  rcases modified with written | touched
  · exact ⟨tracked.written byte written, reach.2 byte written⟩
  · obtain ⟨bound, offset, member, first, last⟩ := tracked.touched byte touched
    refine ⟨bound, ⟨offset, member, ?_⟩, ⟨offset, member, ?_⟩⟩
    · exact Nat.div_le_div_right first
    · exact Nat.div_le_div_right last.le

/-- Pages that reach the bytes written are reported right: a non-empty list settles
everything else.
-/
theorem PagesReach.reportRight {s : FbState} (reach : PagesReach s.pagereflist s.written)
    (tracked : Tracked s) (uninit : BitVec 32)
    : ReportRight s.pagereflist s.written s.touched
        (dummyFbDeferredIo uninit dummyFbInfo s.pagereflist) := by
  have inside := tracked.pages
  have listed := reach.1
  obtain ⟨x1, x2⟩ := report_columns uninit inside listed
  constructor
  case determined =>
    intro other
    obtain ⟨otherX1, otherX2⟩ := report_columns other inside listed
    apply DirtyArea.ext_lines (otherX1.trans x1.symm) (otherX2.trans x2.symm)
    rw [report_lines other inside, report_lines uninit inside]
  case columns =>
    rw [x1, x2]
    decide
  case lines =>
    obtain ⟨page, pageListed⟩ := List.exists_mem_of_ne_nil _ listed
    have first := (report_y1_le uninit inside).mpr (.inr ⟨page, pageListed, le_rfl⟩)
    have last := (le_report_y2 uninit inside).mpr (.inr ⟨page, pageListed, le_rfl⟩)
    have pageInside := inside page pageListed
    rw [smemLen_eq] at pageInside
    simp only [byteLine_eq, pageSize_toNat] at first last
    exact ⟨by rw [BitVec.le_def]; omega, report_y2_lt uninit inside⟩
  case contains =>
    intro byte modified _
    obtain ⟨bound, first, offset, member, last⟩ := reach.around tracked modified
    obtain ⟨line, column⟩ := byte_onPanel bound
    refine ⟨?_, ?_, ?_⟩
    · rw [x1, x2]
      exact ⟨Nat.zero_le _, Nat.le_of_lt_succ column⟩
    · exact (report_y1_le uninit inside).mpr (.inr first)
    · exact (le_report_y2 uninit inside).mpr (.inr ⟨offset, member, by omega⟩)

/-- A run of the work reports right exactly when the listed pages reach the bytes written. -/
theorem reportRight_iff {s : FbState} (tracked : Tracked s) (uninit : BitVec 32)
    : ReportRight s.pagereflist s.written s.touched
        (dummyFbDeferredIo uninit dummyFbInfo s.pagereflist)
      ↔ PagesReach s.pagereflist s.written := by
  constructor
  · exact fun right => right.pagesReach tracked
  · exact fun reach => reach.reportRight tracked uninit

/-- Every report of a history is right. -/
def ReportsRight (history : List FbActivity) : Prop :=
  ∀ pages written touched area,
    .work pages written touched area ∈ history → ReportRight pages written touched area

/-- At every run of the work in a history, the listed pages reach the bytes written. -/
def WorkReaches (history : List FbActivity) : Prop :=
  ∀ pages written touched area,
    .work pages written touched area ∈ history → PagesReach pages written

/-- In every history the reports are right exactly when at each run of the work some page
is listed and the listed pages reach every line that write(2) has modified.
-/
theorem dummyFb_reports_iff {history : List FbActivity} {s : FbState} (run : FbRun history s)
    : ReportsRight history ↔ WorkReaches history := by
  have each
      : ∀ pages written touched area,
          .work pages written touched area ∈ history
          → (ReportRight pages written touched area ↔ PagesReach pages written) := by
    intro pages written touched area member
    obtain ⟨past, rest, rfl⟩ := List.append_of_mem member
    obtain ⟨before, after, reached, next⟩ := run.step_at
    cases next with
    | work uninit => exact reportRight_iff (FbRun.tracked reached) uninit
  constructor
  · intro right pages written touched area member
    exact (each pages written touched area member).mp (right pages written touched area member)
  · intro reaches pages written touched area member
    exact (each pages written touched area member).mpr
      (reaches pages written touched area member)

/-- The history of one touch of the first page, a write into it and a run of the work. -/
def touchedHistory : List FbActivity :=
  [
    .touch 0 [100],
    .write 0 10,
    .work [pageOffset 0] (List.range' 0 10) [100]
      (dummyFbDeferredIo 0 dummyFbInfo [pageOffset 0])
  ]

/-- Witness: a write into a page that is also touched is reported right. -/
theorem dummyFb_reports_touched : touchedHistory ≠ [] ∧ ReportsRight touchedHistory := by
  have run : FbRun touchedHistory FbState.initial := by
    have touch : FbStep FbState.initial (.touch 0 [100])
        { pagereflist := [pageOffset 0], written := [], touched := [100] } :=
      .touchFresh [] [] 0 [100] (by decide) (by decide) rfl List.not_mem_nil
    exact .snoc (.snoc (.snoc .nil touch) (.write 0 10 (by decide))) (.work 0)
  refine ⟨by simp [touchedHistory], (dummyFb_reports_iff run).mpr ?_⟩
  intro pages written touched area member
  simp only [touchedHistory, List.mem_cons, reduceCtorEq, false_or, List.not_mem_nil, or_false,
    FbActivity.work.injEq] at member
  obtain ⟨rfl, rfl, rfl, rfl⟩ := member
  refine ⟨by simp, ?_⟩
  intro byte member
  have short := (List.mem_range'_1.mp member).2
  have start : (pageOffset 0).toNat = 0 := rfl
  refine ⟨⟨pageOffset 0, List.mem_singleton_self _, ?_⟩,
    ⟨pageOffset 0, List.mem_singleton_self _, ?_⟩⟩ <;>
    rw [start, byteLine_eq, byteLine_eq]
  · exact Nat.div_le_div_right (Nat.zero_le _)
  · rw [pageSize_toNat]
    omega

/-- A write alone leaves the page list empty: the area is then upside down, and its columns
are whatever the stack held.
-/
theorem dummyFb_reports_unlisted
    : ¬ ∀ history s, FbRun history s → ReportsRight history := by
  intro right
  have run : FbRun [.write 0 1, .work [] [0] [] (dummyFbDeferredIo 0 dummyFbInfo [])]
      FbState.initial :=
    .snoc (.snoc .nil (.write 0 1 (by decide))) (.work 0)
  have report := right _ _ run [] [0] [] _ (List.mem_cons_of_mem _ (List.mem_singleton_self _))
  exact absurd report.lines.1 (by decide)

end DummyDrivers.Fbdev
