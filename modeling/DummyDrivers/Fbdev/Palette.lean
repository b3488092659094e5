import DummyDrivers.Fbdev.Device
import DummyDrivers.Library.Registers

/-! The pseudo palette of the driver: which colours its entries hold after any sequence of
`dummy_fb_setcolreg` calls.
-/

namespace DummyDrivers.Fbdev

open DummyDrivers.Fb
open DummyDrivers.Registers

/-- `u32 pseudo_palette[16]`. -/
abbrev PseudoPalette := Vector (BitVec 32) 16

/-- The arguments of `dummy_fb_setcolreg`. -/
structure SetcolregCall where
  regno : BitVec 32
  red : BitVec 32
  green : BitVec 32
  blue : BitVec 32
  transp : BitVec 32
  deriving DecidableEq, Repr

def chanToField (chan : BitVec 32) (bf : FbBitfield) : BitVec 32 :=
  let chan := chan &&& 0xFFFF
  let chan := chan >>> (16 - bf.length)
  chan <<< bf.offset

def dummyFbSetcolreg (info : FbInfo) (call : SetcolregCall) (palette : PseudoPalette)
    : Int × PseudoPalette :=
  if 256 ≤ call.regno then
    (1, palette)
  else if info.fix.visual = fbVisualTruecolor then
    if inside : call.regno < 16 then
      let val := chanToField call.red info.var.red
      let val := val ||| chanToField call.green info.var.green
      let val := val ||| chanToField call.blue info.var.blue
      (0, palette.set call.regno.toNat val (BitVec.lt_def.mp inside))
    else
      (1, palette)
  else
    (1, palette)

/-- The palette after some calls, one after the other. -/
def dummyFbSetcolregs (info : FbInfo) (calls : List SetcolregCall) (palette : PseudoPalette)
    : PseudoPalette :=
  calls.foldl (fun palette call => (dummyFbSetcolreg info call palette).2) palette

/-- The place of a channel in a pixel. -/
def fieldOf (bf : FbBitfield) : BitField :=
  { offset := bf.offset.toNat, length := bf.length.toNat }

def colourFields (var : FbVarScreeninfo) : List BitField :=
  [fieldOf var.red, fieldOf var.green, fieldOf var.blue]

/-- A truecolor layout whose fields are disjoint, of at most 16 bits and inside 32 bits. -/
structure TruecolorLayout (info : FbInfo) : Prop where
  visual : info.fix.visual = fbVisualTruecolor
  short : ∀ field ∈ colourFields info.var, field.length ≤ 16
  inside : ∀ field ∈ colourFields info.var, field.offset + field.length ≤ 32
  disjoint : (colourFields info.var).Pairwise BitField.Disjoint

/-- The top bits of the low 16 bits of a channel. -/
def topBits (chan : BitVec 32) (length : Nat) : BitVec length :=
  (chan.setWidth 16).extractLsb' (16 - length) length

/-- An entry holds the colours of a call, and nothing besides them. -/
structure HoldsColours (var : FbVarScreeninfo) (entry : BitVec 32) (call : SetcolregCall) : Prop
    where
  red : (fieldOf var.red).get entry = topBits call.red _
  green : (fieldOf var.green).get entry = topBits call.green _
  blue : (fieldOf var.blue).get entry = topBits call.blue _
  rest : ∀ bit, (∀ field ∈ colourFields var, ¬ field.Covers bit) → entry.getLsbD bit = false

/-- The palette entry that a call addresses. -/
def SetcolregCall.entry (call : SetcolregCall) : Option (Fin 16) :=
  if inside : call.regno < 16 then some ⟨call.regno.toNat, BitVec.lt_def.mp inside⟩ else none

/-- What the calls owe their callers: a call succeeds exactly on an entry of the palette and
changes nothing otherwise, and after all of them each entry holds the colours of the last
call to it.
-/
structure SetsColours (info : FbInfo) (calls : List SetcolregCall) (palette : PseudoPalette)
    : Prop where
  accepted
    : ∀ call before, (dummyFbSetcolreg info call before).1 = 0 ↔ call.regno.toNat < 16
  rejected
    : ∀ call before,
        (dummyFbSetcolreg info call before).1 ≠ 0
        → (dummyFbSetcolreg info call before).2 = before
  last
    : ∀ (entry : Fin 16) call,
        lastCall SetcolregCall.entry calls entry = some call
        → HoldsColours info.var (dummyFbSetcolregs info calls palette)[entry] call
  kept
    : ∀ entry : Fin 16,
        lastCall SetcolregCall.entry calls entry = none
        → (dummyFbSetcolregs info calls palette)[entry] = palette[entry]

/-- A channel in its field. -/
def colourPart (chan : BitVec 32) (bf : FbBitfield) : Part :=
  { field := fieldOf bf, value := topBits chan _ }

/-- The mask and the two shifts put the top bits of a channel into its field. (The count of
the second shift is 32 only for an empty field, where the value is zero.)
-/
theorem chanToField_eq_place (chan : BitVec 32) {bf : FbBitfield} (short : bf.length.toNat ≤ 16)
    : chanToField chan bf = (fieldOf bf).place 32 (topBits chan _) := by
  have count : (16 - bf.length).toNat = 16 - bf.length.toNat := by
    rw [BitVec.toNat_sub]
    change (2 ^ 32 - bf.length.toNat + 16) % 2 ^ 32 = _
    omega
  have mask (bit : Nat) : (0xFFFF : BitVec 32).getLsbD bit = decide (bit < 16) := by
    change (2 ^ 16 - 1).testBit bit = _
    exact Nat.testBit_two_pow_sub_one 16 bit
  apply BitVec.eq_of_getLsbD_eq
  intro bit inside
  rw [(fieldOf bf).getLsbD_place _ inside, topBits, BitVec.getLsbD_extractLsb',
    BitVec.getLsbD_setWidth]
  simp only [chanToField, BitVec.shiftLeft_eq', BitVec.ushiftRight_eq', BitVec.getLsbD_shiftLeft,
    BitVec.getLsbD_ushiftRight, BitVec.getLsbD_and, count, mask, fieldOf]
  rcases Nat.lt_or_ge bit bf.offset.toNat with below | above
  · simp [below, Nat.not_le_of_lt below]
  · by_cases low : bit - bf.offset.toNat < bf.length.toNat
    · have top : 16 - bf.length.toNat + (bit - bf.offset.toNat) < 16 := by omega
      simp [inside, above, low, top]
    · have top : ¬ 16 - bf.length.toNat + (bit - bf.offset.toNat) < 16 := by omega
      simp [low, top]

variable {info : FbInfo}

/-- The channels of a call, each in its field. -/
def colourParts (var : FbVarScreeninfo) (call : SetcolregCall) : List Part :=
  [
    colourPart call.red var.red,
    colourPart call.green var.green,
    colourPart call.blue var.blue
  ]

/-- The word that a call stores for its colours. -/
theorem TruecolorLayout.colourWord_holds (layout : TruecolorLayout info) (call : SetcolregCall)
    : HoldsColours info.var (assemble 32 (colourParts info.var call)) call := by
  have fields : (colourParts info.var call).map Part.field = colourFields info.var := rfl
  have disjoint := layout.disjoint
  rw [← fields, List.pairwise_map] at disjoint
  have member {part : Part} (listed : part ∈ colourParts info.var call)
      : part.field ∈ colourFields info.var :=
    fields ▸ List.mem_map_of_mem listed
  have holds (part : Part) (listed : part ∈ colourParts info.var call)
      : part.field.get (assemble 32 (colourParts info.var call)) = part.value :=
    get_assemble disjoint listed (layout.inside _ (member listed))
  constructor
  case red => exact holds (colourPart call.red info.var.red) (by simp [colourParts])
  case green => exact holds (colourPart call.green info.var.green) (by simp [colourParts])
  case blue => exact holds (colourPart call.blue info.var.blue) (by simp [colourParts])
  case rest =>
    intro bit outside
    exact assemble_outside fun part listed => outside _ (member listed)

theorem TruecolorLayout.chanToField_eq (layout : TruecolorLayout info) (chan : BitVec 32)
    {bf : FbBitfield} (listed : fieldOf bf ∈ colourFields info.var)
    : chanToField chan bf = (colourPart chan bf).field.place 32 (colourPart chan bf).value :=
  chanToField_eq_place chan (layout.short _ listed)

/-- What a call does to the entry it addresses, and to the palette if it addresses none. -/
theorem TruecolorLayout.setcolreg_eq (layout : TruecolorLayout info) (call : SetcolregCall)
    (palette : PseudoPalette)
    : dummyFbSetcolreg info call palette
      = (
          if call.regno < 16 then 0 else 1,
          write SetcolregCall.entry (fun call => assemble 32 (colourParts info.var call)) palette
            call
        ) := by
  unfold dummyFbSetcolreg write SetcolregCall.entry
  by_cases inside : call.regno < 16
  · have hardware : ¬ 256 ≤ call.regno := by
      rw [BitVec.lt_def] at inside
      rw [BitVec.le_def]
      change call.regno.toNat < 16 at inside
      change ¬ 256 ≤ call.regno.toNat
      omega
    rw [if_neg hardware, if_pos layout.visual]
    simp only [dif_pos inside, if_pos inside]
    rw [layout.chanToField_eq call.red (by simp [colourFields]),
      layout.chanToField_eq call.green (by simp [colourFields]),
      layout.chanToField_eq call.blue (by simp [colourFields])]
    simp only [colourParts, assemble_cons, assemble_nil, BitVec.or_zero, BitVec.or_assoc]
  · simp only [dif_neg inside, if_neg inside]
    split <;> simp

/-- The range checks and the colours of the palette, for every sequence of calls. -/
theorem dummyFbSetcolregs_last (layout : TruecolorLayout info) (calls : List SetcolregCall)
    (palette : PseudoPalette)
    : SetsColours info calls palette := by
  have small (call : SetcolregCall) : call.regno < 16 ↔ call.regno.toNat < 16 := BitVec.lt_def
  have run : dummyFbSetcolregs info calls palette
      = calls.foldl
          (write SetcolregCall.entry fun call => assemble 32 (colourParts info.var call))
          palette := by
    unfold dummyFbSetcolregs
    congr 1
    funext palette call
    rw [layout.setcolreg_eq]
  constructor
  case accepted =>
    intro call before
    rw [layout.setcolreg_eq, ← small]
    simp
  case rejected =>
    intro call before failed
    rw [layout.setcolreg_eq] at failed ⊢
    have outside : ¬ call.regno < 16 := fun inside => failed (if_pos inside)
    have none : call.entry = none := dif_neg outside
    simp only [write, none]
  case last =>
    intro entry call found
    rw [run, foldl_write, found]
    exact layout.colourWord_holds call
  case kept =>
    intro entry none
    rw [run, foldl_write, none]

/-- The layout of the driver. -/
theorem dummyFbInfo_layout : TruecolorLayout dummyFbInfo := by
  have fields : colourFields dummyFbInfo.var
      = [
          { offset := 11, length := 5 },
          { offset := 5, length := 6 },
          { offset := 0, length := 5 }
        ] :=
    rfl
  constructor
  case visual => rfl
  case short => rw [fields]; decide
  case inside => rw [fields]; decide
  case disjoint =>
    have descending
        : [(⟨11, 5⟩ : BitField), ⟨5, 6⟩, ⟨0, 5⟩].Pairwise
            fun field other => other.offset + other.length ≤ field.offset := by
      decide
    exact descending.imp BitField.disjoint_of_le

/-- Witness: two calls to one entry, with bits above the channels' sixteen, and one call
behind the palette.
-/
theorem dummyFbSetcolregs_last_twice
    : SetsColours dummyFbInfo
        [
          { regno := 3, red := 0xFFFF, green := 0, blue := 0, transp := 0 },
          { regno := 3, red := 0x1_0000, green := 0x1_FFFF, blue := 0x8000, transp := 0 },
          { regno := 16, red := 0xFFFF, green := 0xFFFF, blue := 0xFFFF, transp := 0 }
        ]
        (Vector.replicate 16 0) :=
  dummyFbSetcolregs_last dummyFbInfo_layout _ _

end DummyDrivers.Fbdev
