import DummyDrivers.I2c.Messages

/-! Which slaves the latched values of the device determine. The low byte of a message's
address goes to both registers, so that bits 8 and 9 of a 10-bit address are lost.
-/

namespace DummyDrivers.I2c

/-- What the device holds of the slave of its current message. -/
@[ext] structure Latched where
  addr : BitVec 32
  xaddr : BitVec 32
  dir : BitVec 32
  deriving DecidableEq

def DummyI2c.latched (i2c : DummyI2c) : Latched :=
  { addr := i2c.addr, xaddr := i2c.xaddr, dir := i2c.dir }

def I2cMsg.isTen (msg : I2cMsg) : Bool := msg.flags &&& i2cMTen ≠ 0

/-- The slave that a message is for: its addressing mode, its address and the direction. -/
structure Slave where
  tenBit : Bool
  addr : BitVec 16
  read : Bool
  deriving DecidableEq

def I2cMsg.slave (msg : I2cMsg) : Slave :=
  { tenBit := msg.isTen, addr := msg.addr, read := msg.isRead }

def I2cMsg.ValidAddr (msg : I2cMsg) : Prop :=
  msg.addr.toNat < if msg.isTen then 0x400 else 0x80

/-- What the start of a message latches, whatever the device held before. -/
def I2cMsg.latch (msg : I2cMsg) : Latched := (latchMsg .zero 0 msg).latched

section

variable (random : Nat → UInt8)

/-- The device's values after each round of the message loop. -/
def latchedValues (w : World) (msgs : List I2cMsg) : List Latched :=
  (List.range msgs.length).map fun count =>
    ((List.range (count + 1)).foldl (doMsg random) (w.given msgs)).i2c.latched

/-- The parts of a message that the latching reads, which no transfer changes. -/
def I2cMsg.header (msg : I2cMsg) : BitVec 16 × BitVec 16 := (msg.addr, msg.flags)

def DummyI2c.headers (i2c : DummyI2c) : List (BitVec 16 × BitVec 16) :=
  i2c.msgs.map I2cMsg.header

theorem headers_modify (msgs : List I2cMsg) (index pos : Nat) (byte : UInt8)
    : (msgs.modify index (·.store pos byte)).map I2cMsg.header = msgs.map I2cMsg.header := by
  apply List.ext_getElem?
  intro other
  rw [List.getElem?_map, List.getElem?_map, List.getElem?_modify]
  cases msgs[other]? with
  | none => rfl
  | some msg => simp only [Option.map_some]; split <;> rfl

/-- The byte loop leaves the latched values and the headers alone, by induction on its
rounds.
-/
theorem isrLoop_latched (left : Nat) (w : World)
    : (isrLoop random left w).i2c.latched = w.i2c.latched
      ∧ (isrLoop random left w).i2c.headers = w.i2c.headers := by
  induction left generalizing w with
  | zero => exact ⟨rfl, rfl⟩
  | succ left ih =>
      by_cases dir : w.i2c.dir = dummyI2cBusDirWr
      · rw [isrLoop_succ_write random left dir]
        exact ih w.sent
      · rw [isrLoop_succ_read random left dir]
        obtain ⟨latched, headers⟩ := ih (w.received random)
        exact ⟨latched, headers.trans (headers_modify _ _ _ _)⟩

/-- The last steps of the handler touch other parts of the device. -/
theorem dummyI2cIsr_latched (w : World)
    : (dummyI2cIsr random w).i2c.latched = w.i2c.latched
      ∧ (dummyI2cIsr random w).i2c.headers = w.i2c.headers := by
  obtain ⟨latched, headers⟩ := isrLoop_latched random w.i2c.byteLeft.toNat w
  rw [← latched, ← headers]
  exact ⟨rfl, rfl⟩

/-- So does the initialisation of the hardware after a timeout. -/
theorem dummyI2cHwInit_latched (w : World)
    : (dummyI2cHwInit w).i2c.latched = w.i2c.latched
      ∧ (dummyI2cHwInit w).i2c.headers = w.i2c.headers := by
  rw [dummyI2cHwInit_i2c]
  exact ⟨rfl, rfl⟩

theorem dummyI2cSendStart_latched (w : World) (index : Nat) (msg : I2cMsg)
    : (dummyI2cSendStart random w index msg).i2c.latched = msg.latch
      ∧ (dummyI2cSendStart random w index msg).i2c.headers = w.i2c.headers := by
  obtain ⟨latched, headers⟩ := dummyI2cIsr_latched random (w.started index msg)
  rw [dummyI2cSendStart_eq, latched, headers]
  exact ⟨rfl, rfl⟩

/-- A round of the message loop, a timed out one included, leaves the values of its message
in the device and every header alone.
-/
theorem doMsg_latched {w : World} {index : Nat} {msg : I2cMsg}
    (current : w.i2c.msgs[index]? = some msg)
    : (doMsg random w index).i2c.latched = msg.latch
      ∧ (doMsg random w index).i2c.headers = w.i2c.headers := by
  obtain ⟨latched, headers⟩ :=
    dummyI2cSendStart_latched random { w with i2c := { w.i2c with complete := 0 } } index msg
  rw [doMsg, current]
  dsimp only
  split
  · obtain ⟨sameLatched, sameHeaders⟩ := dummyI2cHwInit_latched _
    rw [sameLatched, sameHeaders]
    exact ⟨latched, headers⟩
  · exact ⟨latched, headers⟩

/-- The latched values come from the header of a message alone. -/
theorem latch_congr {msg other : I2cMsg} (same : msg.header = other.header)
    : msg.latch = other.latch := by
  obtain ⟨addr, flags⟩ := Prod.mk.inj same
  simp [I2cMsg.latch, latchMsg, DummyI2c.latched, addr, flags]

/-- A device with these headers has a message at each of their positions. -/
theorem exists_current {i2c : DummyI2c} {msgs : List I2cMsg} {index : Nat}
    (headers : i2c.headers = msgs.map I2cMsg.header) (inside : index < msgs.length)
    : ∃ msg, i2c.msgs[index]? = some msg ∧ msg.header = msgs[index].header := by
  have same := congrArg (·[index]?) headers
  simp only [DummyI2c.headers, List.getElem?_map, List.getElem?_eq_getElem inside,
    Option.map_some, Option.map_eq_some_iff] at same
  exact same

/-- The rounds of a transfer keep the headers, by induction on their number. -/
theorem rounds_headers (w : World) {msgs : List I2cMsg} {count : Nat}
    (inside : count ≤ msgs.length)
    : ((List.range count).foldl (doMsg random) (w.given msgs)).i2c.headers
      = msgs.map I2cMsg.header := by
  induction count with
  | zero => rfl
  | succ count ih =>
      have headers := ih (Nat.le_of_succ_le inside)
      obtain ⟨msg, current, _⟩ := exists_current headers inside
      rw [List.range_succ, List.foldl_append, List.foldl_cons, List.foldl_nil,
        (doMsg_latched random current).2]
      exact headers

/-- One value is latched for each message, and it is the message's own. -/
theorem latchedValues_eq (w : World) (msgs : List I2cMsg)
    : latchedValues random w msgs = msgs.map I2cMsg.latch := by
  apply List.ext_getElem
  · simp [latchedValues]
  · intro count short long
    have inside : count < msgs.length := by simpa using long
    have headers := rounds_headers random w inside.le
    obtain ⟨msg, current, same⟩ := exists_current headers inside
    simp only [latchedValues, List.getElem_map, List.getElem_range]
    rw [List.range_succ, List.foldl_append, List.foldl_cons, List.foldl_nil,
      (doMsg_latched random current).1]
    exact latch_congr same

end

/-- The direction as a number: the lowest bit of the latched address. -/
def I2cMsg.dirBit (msg : I2cMsg) : Nat := if msg.isRead then 1 else 0

theorem lowByte_toNat (addr : BitVec 16)
    : (0xff &&& addr.setWidth 32 : BitVec 32).toNat = addr.toNat % 256 := by
  have mask : (0xff : BitVec 32).toNat = 2 ^ 8 - 1 := rfl
  rw [BitVec.toNat_and, mask, Nat.and_comm, Nat.and_two_pow_sub_one_eq_mod,
    BitVec.toNat_setWidth_of_le (by decide)]

theorem latch_dir_toNat (msg : I2cMsg) : msg.latch.dir.toNat = msg.dirBit := by
  have dir : msg.latch.dir = if msg.isRead then dummyI2cBusDirRd else dummyI2cBusDirWr :=
    latchMsg_dir .zero 0 msg
  rw [dir, I2cMsg.dirBit]
  split <;> rfl

/-- The low byte of the address, shifted past the direction. -/
theorem latch_addr_toNat (msg : I2cMsg)
    : msg.latch.addr.toNat = msg.addr.toNat % 256 * 2 + msg.dirBit := by
  have latched : msg.latch.addr = dummyI2cAddr msg.addr ||| msg.latch.dir := rfl
  have small : msg.dirBit < 2 ^ 1 := by
    rw [I2cMsg.dirBit]
    split <;> decide
  have low : msg.addr.toNat % 256 < 256 := Nat.mod_lt _ (by decide)
  rw [latched, BitVec.toNat_or, latch_dir_toNat, dummyI2cAddr, BitVec.toNat_shiftLeft,
    lowByte_toNat, Nat.shiftLeft_eq, Nat.mod_eq_of_lt (by omega), ← Nat.shiftLeft_eq,
    ← Nat.shiftLeft_add_eq_or_of_lt small, Nat.shiftLeft_eq]

theorem latch_xaddr_toNat (msg : I2cMsg)
    : msg.latch.xaddr.toNat = if msg.isTen then msg.addr.toNat % 256 else 0 := by
  have latched : msg.latch.xaddr
      = if msg.isTen then msg.addr.setWidth 32 &&& 0xff else 0 := by
    simp [I2cMsg.latch, latchMsg, DummyI2c.latched, I2cMsg.isTen]
  rw [latched]
  split
  · rw [BitVec.and_comm, lowByte_toNat]
  · rfl

/-- Messages with one header field alike latch alike when the numbers do. -/
theorem latch_ext {msg other : I2cMsg} (addr : msg.addr.toNat % 256 = other.addr.toNat % 256)
    (read : msg.isRead = other.isRead)
    (xaddr
      : (if msg.isTen then msg.addr.toNat % 256 else 0)
        = if other.isTen then other.addr.toNat % 256 else 0)
    : msg.latch = other.latch := by
  have dirBit : msg.dirBit = other.dirBit := by simp only [I2cMsg.dirBit, read]
  have sameAddr : msg.latch.addr = other.latch.addr :=
    BitVec.eq_of_toNat_eq (by rw [latch_addr_toNat, latch_addr_toNat, addr, dirBit])
  have sameXaddr : msg.latch.xaddr = other.latch.xaddr :=
    BitVec.eq_of_toNat_eq (by rw [latch_xaddr_toNat, latch_xaddr_toNat, xaddr])
  have sameDir : msg.latch.dir = other.latch.dir :=
    BitVec.eq_of_toNat_eq (by rw [latch_dir_toNat, latch_dir_toNat, dirBit])
  exact Latched.ext sameAddr sameXaddr sameDir

/-- A 7-bit message for an address other than zero. -/
def I2cMsg.Plain (msg : I2cMsg) : Prop := msg.isTen = false ∧ msg.addr ≠ 0

/-- A plain message shares its latched values with messages for the same slave only. -/
theorem I2cMsg.Plain.slave_eq {msg other : I2cMsg} (plain : msg.Plain)
    (valid : msg.ValidAddr) (otherValid : other.ValidAddr) (same : other.latch = msg.latch)
    : other.slave = msg.slave := by
  obtain ⟨seven, nonzero⟩ := plain
  have dir := congrArg (BitVec.toNat ∘ Latched.dir) same
  have addr := congrArg (BitVec.toNat ∘ Latched.addr) same
  have xaddr := congrArg (BitVec.toNat ∘ Latched.xaddr) same
  simp only [Function.comp_apply, latch_dir_toNat, latch_addr_toNat, latch_xaddr_toNat, seven]
    at dir addr xaddr
  simp only [I2cMsg.ValidAddr, seven] at valid otherValid
  have positive : msg.addr.toNat ≠ 0 := fun zero => nonzero (BitVec.eq_of_toNat_eq zero)
  have otherSeven : other.isTen = false := by
    by_contra ten
    rw [Bool.not_eq_false] at ten
    simp only [ten] at xaddr
    simp at valid xaddr
    omega
  have sameAddr : other.addr = msg.addr := by
    apply BitVec.eq_of_toNat_eq
    simp only [otherSeven] at otherValid
    simp at valid otherValid
    omega
  have sameRead : other.isRead = msg.isRead := by
    simp only [I2cMsg.dirBit] at dir
    cases read : other.isRead <;> cases otherRead : msg.isRead <;> simp_all
  simp only [I2cMsg.slave, otherSeven, seven, sameAddr, sameRead]

/-- Every other message has a twin: a valid message for another slave that latches the same
values.
-/
theorem exists_twin {msg : I2cMsg} (notPlain : ¬ msg.Plain)
    : ∃ twin : I2cMsg, twin.ValidAddr ∧ twin.latch = msg.latch ∧ twin.slave ≠ msg.slave := by
  by_cases ten : msg.isTen
  · -- The two high bits of a 10-bit address go to neither register.
    have twinAddr : (BitVec.ofNat 16 ((msg.addr.toNat + 256) % 1024)).toNat
        = (msg.addr.toNat + 256) % 1024 := by
      rw [BitVec.toNat_ofNat]
      omega
    refine ⟨{ msg with addr := BitVec.ofNat 16 ((msg.addr.toNat + 256) % 1024) }, ?_, ?_, ?_⟩
    · have bound : (BitVec.ofNat 16 ((msg.addr.toNat + 256) % 1024)).toNat < 0x400 := by omega
      exact (if_pos ten : (if msg.isTen then 0x400 else 0x80) = 0x400) ▸ bound
    · have low : (BitVec.ofNat 16 ((msg.addr.toNat + 256) % 1024)).toNat % 256
          = msg.addr.toNat % 256 := by
        omega
      exact latch_ext low rfl (by simp only [low]; rfl)
    · intro same
      have addr := congrArg (BitVec.toNat ∘ Slave.addr) same
      simp only [Function.comp_apply, I2cMsg.slave, twinAddr] at addr
      omega
  · -- Address zero latches the same values in both modes.
    have zero : msg.addr = 0 := not_not.mp fun nonzero => notPlain ⟨by simpa using ten, nonzero⟩
    have twinTen : ({ msg with flags := msg.flags ||| i2cMTen } : I2cMsg).isTen = true := by
      have bit : i2cMTen &&& i2cMTen ≠ 0#16 := by decide
      simp only [I2cMsg.isTen, BitVec.and_or_distrib_right]
      exact decide_eq_true fun none => bit (BitVec.or_eq_zero_iff.mp none).2
    have twinRead : ({ msg with flags := msg.flags ||| i2cMTen } : I2cMsg).isRead
        = msg.isRead := by
      have apart : i2cMTen &&& i2cMRd = 0#16 := by decide
      simp only [I2cMsg.isRead, BitVec.and_or_distrib_right, apart, BitVec.or_zero]
    refine ⟨{ msg with flags := msg.flags ||| i2cMTen }, ?_, ?_, ?_⟩
    · unfold I2cMsg.ValidAddr
      split <;> simp [zero]
    · refine latch_ext rfl twinRead ?_
      simp [zero]
    · intro same
      have mode := congrArg Slave.tenBit same
      simp only [I2cMsg.slave, twinTen] at mode
      exact ten mode.symm

/-- No other list of valid messages for other slaves latches the same values. -/
def LatchDetermines (random : Nat → UInt8) (w : World) (msgs : List I2cMsg) : Prop :=
  ∀ random' w' other,
    (∀ msg ∈ other, msg.ValidAddr)
    → latchedValues random' w' other = latchedValues random w msgs
    → other.map I2cMsg.slave = msgs.map I2cMsg.slave

/-- Lists of plain messages are determined message by message, by induction. -/
theorem slaves_eq {msgs other : List I2cMsg} (valid : ∀ msg ∈ msgs, msg.ValidAddr)
    (plain : ∀ msg ∈ msgs, msg.Plain) (otherValid : ∀ msg ∈ other, msg.ValidAddr)
    (same : other.map I2cMsg.latch = msgs.map I2cMsg.latch)
    : other.map I2cMsg.slave = msgs.map I2cMsg.slave := by
  induction msgs generalizing other with
  | nil => rw [List.map_eq_nil_iff.mp same]
  | cons msg msgs ih =>
      cases other with
      | nil => contradiction
      | cons first rest =>
          obtain ⟨head, tail⟩ := List.cons.inj same
          have slave := I2cMsg.Plain.slave_eq (plain msg List.mem_cons_self)
            (valid msg List.mem_cons_self) (otherValid first List.mem_cons_self) head
          have slaves := ih
            (fun msg member => valid msg (List.mem_cons_of_mem _ member))
            (fun msg member => plain msg (List.mem_cons_of_mem _ member))
            (fun msg member => otherValid msg (List.mem_cons_of_mem _ member)) tail
          rw [List.map_cons, List.map_cons, slave, slaves]

/-- For every list of valid messages, the latched values determine the slaves exactly when
all messages are plain.
-/
theorem dummyI2c_latch_determines_iff (random : Nat → UInt8) (w : World) {msgs : List I2cMsg}
    (valid : ∀ msg ∈ msgs, msg.ValidAddr)
    : LatchDetermines random w msgs ↔ ∀ msg ∈ msgs, msg.Plain := by
  constructor
  · intro determines msg member
    by_contra notPlain
    obtain ⟨twin, twinValid, latch, slave⟩ := exists_twin notPlain
    obtain ⟨before, after, rfl⟩ := List.append_of_mem member
    have swapped := determines random w (before ++ twin :: after) ?_ ?_
    · simp only [List.map_append, List.map_cons, List.append_cancel_left_eq, List.cons.injEq,
        and_true] at swapped
      exact slave swapped
    · intro other listed
      rcases List.mem_append.mp listed with early | late
      · exact valid other (List.mem_append_left _ early)
      rcases List.mem_cons.mp late with rfl | late
      · exact twinValid
      · exact valid other (List.mem_append_right _ (List.mem_cons_of_mem _ late))
    · simp [latchedValues_eq, latch]
  · intro plain random' w' other otherValid same
    rw [latchedValues_eq, latchedValues_eq] at same
    exact slaves_eq valid plain otherValid same

/-- A read from a plain address. -/
def plainRead : I2cMsg := { addr := 0x50, flags := 1, len := 0, buf := [], fits := by decide }

/-- Witness: two reads from one plain address. -/
theorem dummyI2c_latch_determines_plain
    : LatchDetermines (fun _ => 0) .zero [plainRead, plainRead] := by
  have valid : ∀ msg ∈ [plainRead, plainRead], msg.ValidAddr := by
    intro msg member
    rcases List.mem_pair.mp member with rfl | rfl
    · simp only [I2cMsg.ValidAddr]
      decide
    · simp only [I2cMsg.ValidAddr]
      decide
  refine (dummyI2c_latch_determines_iff _ _ valid).mpr ?_
  intro msg member
  rcases List.mem_pair.mp member with rfl | rfl
  · exact ⟨by decide, by decide⟩
  · exact ⟨by decide, by decide⟩

/-- A write to a 10-bit address. -/
def tenWrite (addr : BitVec 16) : I2cMsg :=
  { addr, flags := 0x10, len := 0, buf := [], fits := Nat.zero_le _ }

/-- The 10-bit addresses 0x050 and 0x150 latch the same values. -/
theorem dummyI2c_latch_ambiguous
    : ¬ ∀ random w msgs,
          (∀ msg ∈ msgs, I2cMsg.ValidAddr msg) → LatchDetermines random w msgs := by
  intro determines
  have valid : ∀ msg ∈ [tenWrite 0x050], msg.ValidAddr := by
    intro msg member
    obtain rfl := List.mem_singleton.mp member
    simp only [I2cMsg.ValidAddr]
    decide
  have otherValid : ∀ msg ∈ [tenWrite 0x150], msg.ValidAddr := by
    intro msg member
    obtain rfl := List.mem_singleton.mp member
    simp only [I2cMsg.ValidAddr]
    decide
  have same := determines (fun _ => 0) .zero [tenWrite 0x050] valid (fun _ => 0) .zero
    [tenWrite 0x150] otherValid (by rw [latchedValues_eq, latchedValues_eq]; decide)
  exact absurd same (by decide)

end DummyDrivers.I2c
