import DummyDrivers.Library.Pointers

/-! The transfers of a message on the SPI bus: which messages the driver's controller
carries out without a fault.
-/

namespace DummyDrivers.Spi

open DummyDrivers.Loops
open DummyDrivers.Pointers

/-- What the driver sets of a `struct spi_controller`, and its flags. -/
structure SpiController where
  busNum : BitVec 16
  modeBits : BitVec 32
  bitsPerWordMask : BitVec 32
  minSpeedHz : BitVec 32
  maxSpeedHz : BitVec 32
  flags : BitVec 16
  numChipselect : BitVec 16
  autoRuntimePm : Bool
  deriving DecidableEq, Repr

def spiCpha : BitVec 32 := 1 <<< 0

def spiCpol : BitVec 32 := 1 <<< 1

def spiBpwMask (bits : Nat) : BitVec 32 := 1 <<< (bits - 1)

/-- `SPI_CONTROLLER_MUST_TX`: the controller requires a buffer to send from. -/
def spiControllerMustTx : BitVec 16 := 1 <<< 4

/-- The controller as `dummy_spi_register` registers it, on memory zeroed by
`devm_spi_alloc_host`.
-/
def dummySpiHost : SpiController :=
  {
    busNum := -1
    modeBits := spiCpol ||| spiCpha
    bitsPerWordMask := spiBpwMask 8
    minSpeedHz := 1000
    maxSpeedHz := 10000000
    flags := 0
    numChipselect := 1
    autoRuntimePm := false
  }

/-- A `struct spi_transfer`, as far as the driver and the choice of its buffers go. -/
structure SpiTransfer where
  txBuf : Pointer
  rxBuf : Pointer
  len : Nat
  deriving DecidableEq, Repr

/-- Some buffer is supplied, and the supplied ones have the transfer's length. -/
structure SpiTransfer.Supplied (xfer : SpiTransfer) : Prop where
  either : xfer.txBuf.isSome ∨ xfer.rxBuf.isSome
  tx : ∀ bytes, xfer.txBuf = some bytes → bytes.length = xfer.len
  rx : ∀ bytes, xfer.rxBuf = some bytes → bytes.length = xfer.len

/-- `print_hex_dump`, which reads all bytes from the pointer on. -/
def printHexDump (buf : Pointer) (len : Nat) : Except Fault Unit := do
  let _ ← readBytes buf len
  return

def dummySpiTransferOne (_host : SpiController) (xfer : SpiTransfer) : Except Fault Int := do
  printHexDump xfer.txBuf xfer.len
  return 0

/-- What a transfer sends. -/
def SpiTransfer.sent (xfer : SpiTransfer) : Pointer × Nat := (xfer.txBuf, xfer.len)

/-- The SPI core: which messages it accepts for a controller, and the transfers that it
passes on. It puts buffers to send from in place of missing ones only for a controller whose
flags ask for them.
-/
structure SpiCore where
  Accepts : SpiController → List SpiTransfer → Prop
  prepare : SpiController → List SpiTransfer → List SpiTransfer
  prepare_sent
    : ∀ host message,
        host.flags &&& spiControllerMustTx = 0
        → (prepare host message).map SpiTransfer.sent = message.map SpiTransfer.sent

/-- The transfers of a message, one by one. -/
def SpiCore.transfer (core : SpiCore) (host : SpiController) (message : List SpiTransfer)
    : Except Fault (List Int) :=
  (core.prepare host message).mapM (dummySpiTransferOne host)

/-- No transfer of the message faults, and each completes with zero. -/
def SpiCore.Completes (core : SpiCore) (message : List SpiTransfer) : Prop :=
  core.transfer dummySpiHost message = .ok (List.replicate message.length 0)

/-- The driver's part in a transfer depends on what it sends only. -/
def sendOne (sent : Pointer × Nat) : Except Fault Int := do
  printHexDump sent.1 sent.2
  return 0

theorem dummySpiTransferOne_eq (host : SpiController)
    : dummySpiTransferOne host = sendOne ∘ SpiTransfer.sent := rfl

/-- A transfer completes if it is empty or its bytes can be read. -/
theorem sendOne_ok_iff (sent : Pointer × Nat)
    : sendOne sent = .ok 0
      ↔ sent.2 = 0 ∨ ∃ bytes, sent.1 = some bytes ∧ sent.2 ≤ bytes.length := by
  rw [← readBytes_ok_iff]
  constructor
  · intro completes
    obtain ⟨_, dumped, _⟩ := bind_eq_ok.mp completes
    obtain ⟨bytes, read, _⟩ := bind_eq_ok.mp dumped
    exact ⟨bytes, read⟩
  · intro readable
    obtain ⟨bytes, read⟩ := readable
    rw [sendOne, printHexDump, read]
    rfl

/-- The controller's flags ask for nothing, so the core passes on what the message sends. -/
theorem SpiCore.transfer_eq (core : SpiCore) (message : List SpiTransfer)
    : core.transfer dummySpiHost message = (message.map SpiTransfer.sent).mapM sendOne := by
  have sent := core.prepare_sent dummySpiHost message (by decide)
  rw [transfer, dummySpiTransferOne_eq, ← sent, List.mapM_map]

theorem SpiCore.completes_iff (core : SpiCore) (message : List SpiTransfer)
    : core.Completes message ↔ ∀ xfer ∈ message, sendOne xfer.sent = .ok 0 := by
  unfold Completes
  rw [core.transfer_eq, List.mapM_map]
  constructor
  · intro completes xfer member
    obtain ⟨ret, ok⟩ := exists_ok_of_mapM_ok completes member
    obtain ⟨_, _, last⟩ := bind_eq_ok.mp ok
    exact ok.trans last.symm
  · intro each
    have all : message.mapM (sendOne ∘ SpiTransfer.sent) = .ok (message.map fun _ => 0) :=
      mapM_ok each
    rwa [List.map_const'] at all

/-- A message completes exactly if each of its transfers that is not empty has a buffer to
send from.
-/
theorem dummySpi_completes_iff (core : SpiCore) {message : List SpiTransfer}
    (supplied : ∀ xfer ∈ message, xfer.Supplied)
    : core.Completes message ↔ ∀ xfer ∈ message, 0 < xfer.len → xfer.txBuf.isSome := by
  rw [core.completes_iff]
  apply forall₂_congr
  intro xfer member
  rw [sendOne_ok_iff]
  constructor
  · intro readable positive
    rcases readable with empty | ⟨bytes, buffer, _⟩
    · exact absurd empty positive.ne'
    · exact Option.isSome_of_eq_some buffer
  · intro sends
    rcases Nat.eq_zero_or_pos xfer.len with empty | positive
    · exact .inl empty
    · obtain ⟨bytes, buffer⟩ := Option.isSome_iff_exists.mp (sends positive)
      exact .inr ⟨bytes, buffer, ((supplied xfer member).tx bytes buffer).ge⟩

/-- A core that checks the directions of a transfer against the flags, and sends zeros where
a required buffer is missing.
-/
def flagsCore : SpiCore where
  Accepts host message :=
    message ≠ []
    ∧ ∀ xfer ∈ message,
        (host.flags.getLsbD 0 → ¬ (xfer.txBuf.isSome ∧ xfer.rxBuf.isSome))
        ∧ (host.flags.getLsbD 1 → xfer.rxBuf.isNone)
        ∧ (host.flags.getLsbD 2 → xfer.txBuf.isNone)
  prepare host message :=
    if host.flags &&& spiControllerMustTx = 0 then
      message
    else
      message.map fun xfer =>
        { xfer with txBuf := xfer.txBuf.or (some (List.replicate xfer.len 0)) }
  prepare_sent host message plain := by rw [if_pos plain]

/-- Witness: a message that writes one byte and reads another, with zeros sent for it. -/
theorem dummySpi_completes_write
    : flagsCore.Completes
        [
          { txBuf := some [0x9F], rxBuf := none, len := 1 },
          { txBuf := some [0], rxBuf := some [0], len := 1 }
        ] := by
  refine (dummySpi_completes_iff flagsCore ?_).mpr (by decide)
  intro xfer member
  rcases List.mem_pair.mp member with rfl | rfl <;> constructor <;> simp

/-- A transfer that only reads makes the driver read through a null pointer. -/
theorem dummySpi_read_faults
    : ¬ ∀ (core : SpiCore) (message : List SpiTransfer),
          core.Accepts dummySpiHost message
          → (∀ xfer ∈ message, xfer.Supplied)
          → core.Completes message := by
  intro completes
  have supplied (xfer : SpiTransfer)
      (member : xfer ∈ [{ txBuf := none, rxBuf := some [0], len := 1 }])
      : xfer.Supplied := by
    obtain rfl := List.mem_singleton.mp member
    constructor <;> simp
  have fault : (Except.error .nullPointer : Except Fault (List Int)) = .ok [0] :=
    completes flagsCore _ ⟨by decide, by decide⟩ supplied
  contradiction

end DummyDrivers.Spi
