import DummyDrivers.Library.KernelCall
import DummyDrivers.Library.Ledger
import Mathlib.Algebra.BigOperators.Group.Finset.Basic
import Mathlib.Data.BitVec

/-! The dummy network device. The networking core is not part of the repository: its functions
are given, and what the module relies on is stated as laws of a core. A device is known by the
number of its allocation, which no other device ever has.
-/

namespace DummyDrivers.Net

open DummyDrivers.Ledger

def eaddrnotavail : Int := 99

inductive Resource where
  | linkOps
  | netdev (index : Nat)
  | registration (index : Nat)
  deriving DecidableEq, Repr

/-- The counters that a CPU keeps of a device. -/
structure Lstats where
  packets : BitVec 64
  bytes : BitVec 64
  deriving DecidableEq, Repr

/-- What the core counts for a device on each CPU. -/
inductive PcpuStatType where
  | none
  | lstats
  | tstats
  | dstats
  deriving DecidableEq, Repr

/-- The tables of operations of this module, as far as a device can point to them. -/
inductive NetdevOps where
  | dummyNetdevOps
  deriving DecidableEq, Repr

inductive LinkOps where
  | dummyLinkOps
  deriving DecidableEq, Repr

structure NetDevice (cpus : Nat) where
  index : Nat
  netdevOps : Option NetdevOps
  rtnlLinkOps : Option LinkOps
  needsFreeNetdev : Bool
  liveAddrChange : Bool
  pcpuStatType : PcpuStatType
  address : List UInt8
  carrier : Bool
  lstats : Fin cpus → Lstats

/-- The devices that are registered, and what the module has taken of the core. -/
structure World (cpus : Nat) where
  next : Nat
  devices : List (NetDevice cpus)
  account : Account Resource

def World.initial (cpus : Nat) : World cpus := { next := 0, devices := [], account := .empty }

/-- The calls for one device: the allocation, the random address and the registration. -/
structure OneCalls where
  allocNetdev : KernelCall
  ethHwAddrRandom : List UInt8
  registerNetdevice : KernelCall

/-- The functions of the core that the module calls, and those that call the module. -/
structure NetCore (cpus : Nat) where
  isValidEtherAddr : List UInt8 → Bool
  ethMacAddr : NetDevice cpus → List UInt8 → Int × NetDevice cpus
  devLstatsAdd : NetDevice cpus → Fin cpus → BitVec 32 → NetDevice cpus
  devLstatsRead : NetDevice cpus → Lstats
  registerNetdevice : KernelCall → NetDevice cpus → World cpus → Int × World cpus
  unregisterNetdevice : NetDevice cpus → World cpus → World cpus
  rtnlLinkUnregister : LinkOps → World cpus → World cpus
  rtnlNewlink
    : LinkOps → OneCalls → Option (List UInt8) → World cpus → Int × World cpus

variable {cpus : Nat} (core : NetCore cpus)

-----------------------------------------------------------------------------------------
-- The operations of a device
-----------------------------------------------------------------------------------------

def dummyDevInit (dev : NetDevice cpus) : Int × NetDevice cpus :=
  (0, { dev with pcpuStatType := .lstats })

/-- The packet is counted and dropped. -/
def dummyXmit (cpu : Fin cpus) (len : BitVec 32) (dev : NetDevice cpus) : NetDevice cpus :=
  core.devLstatsAdd dev cpu len

def dummyGetStats64 (dev : NetDevice cpus) : Lstats := core.devLstatsRead dev

def dummyChangeCarrier (newCarrier : Bool) (dev : NetDevice cpus) : NetDevice cpus :=
  if newCarrier then { dev with carrier := true } else { dev with carrier := false }

/-- `ndo_init` of a table. -/
def NetdevOps.ndoInit : NetdevOps → NetDevice cpus → Int × NetDevice cpus
  | .dummyNetdevOps => dummyDevInit

/-- `ndo_set_mac_address` of a table. -/
def NetdevOps.ndoSetMacAddress : NetdevOps → NetDevice cpus → List UInt8 → Int × NetDevice cpus
  | .dummyNetdevOps => core.ethMacAddr

-----------------------------------------------------------------------------------------
-- The operations of a link
-----------------------------------------------------------------------------------------

/-- The part of `dummy_setup` that the core's functions below look at. -/
def dummySetup (ethHwAddrRandom : List UInt8) (dev : NetDevice cpus) : NetDevice cpus :=
  {
    dev with
    netdevOps := some .dummyNetdevOps
    needsFreeNetdev := true
    liveAddrChange := true
    address := ethHwAddrRandom
  }

def ethAlen : Nat := 6

/-- The attribute `IFLA_ADDRESS` may be absent. -/
def dummyValidate (tbAddress : Option (List UInt8)) : Int :=
  match tbAddress with
  | some address =>
      if address.length ≠ ethAlen then -einval
      else if ¬core.isValidEtherAddr address then -eaddrnotavail
      else 0
  | none => 0

def LinkOps.setup : LinkOps → List UInt8 → NetDevice cpus → NetDevice cpus
  | .dummyLinkOps => dummySetup

def LinkOps.validate : LinkOps → Option (List UInt8) → Int
  | .dummyLinkOps => dummyValidate core

-----------------------------------------------------------------------------------------
-- What the core keeps
-----------------------------------------------------------------------------------------

/-- A device as it is allocated: its memory is zeroed, which leaves the carrier on. -/
def NetDevice.zero (index : Nat) : NetDevice cpus :=
  {
    index
    netdevOps := none
    rtnlLinkOps := none
    needsFreeNetdev := false
    liveAddrChange := false
    pcpuStatType := .none
    address := List.replicate ethAlen 0
    carrier := true
    lstats := fun _ => { packets := 0, bytes := 0 }
  }

def World.post (w : World cpus) (entry : Entry Resource) : World cpus :=
  { w with account := w.account.post entry }

def World.allocNetdev (w : World cpus) : World cpus :=
  { w.post (.acquire (.netdev w.next)) with next := w.next + 1 }

def World.freeNetdev (w : World cpus) (index : Nat) : World cpus :=
  w.post (.release (.netdev index))

/-- A device is added to those that are registered. -/
def World.enlist (w : World cpus) (dev : NetDevice cpus) : World cpus :=
  { w.post (.acquire (.registration dev.index)) with devices := w.devices ++ [dev] }

/-- A device is taken from those that are registered. -/
def World.delist (w : World cpus) (dev : NetDevice cpus) : World cpus :=
  {
    w.post (.release (.registration dev.index)) with
    devices := w.devices.filter fun other => other.index ≠ dev.index
  }

/-- What a call changes in one device. -/
def World.update (w : World cpus) (index : Nat) (change : NetDevice cpus → NetDevice cpus)
    : World cpus :=
  { w with devices := w.devices.map fun dev => if dev.index = index then change dev else dev }

/-- A device is registered, or freed where that fails. -/
def NetCore.registerOrFree (registerNetdevice : KernelCall) (dev : NetDevice cpus)
    (w : World cpus)
    : Int × World cpus :=
  let (err, w) := core.registerNetdevice registerNetdevice dev w
  if err < 0 then (err, w.freeNetdev dev.index) else (0, w)

-----------------------------------------------------------------------------------------
-- The laws of a core
-----------------------------------------------------------------------------------------

def IsMulticast (address : List UInt8) : Prop := address.getD 0 0 &&& 1 = 1

instance (address : List UInt8) : Decidable (IsMulticast address) :=
  inferInstanceAs (Decidable (_ = _))

def IsZero (address : List UInt8) : Prop := ∀ byte ∈ address, byte = 0

instance (address : List UInt8) : Decidable (IsZero address) :=
  inferInstanceAs (Decidable (∀ byte ∈ address, _))

/-- The counters after one more packet. -/
def Lstats.add (lstats : Lstats) (len : BitVec 32) : Lstats :=
  { packets := lstats.packets + 1, bytes := lstats.bytes + len.setWidth 64 }

/-- What a user's request for a link asks the core to make, if nothing fails. -/
def LinkOps.requested (ops : LinkOps) (calls : OneCalls) (tbAddress : Option (List UInt8))
    (index : Nat)
    : NetDevice cpus :=
  let dev := ops.setup calls.ethHwAddrRandom (.zero index)
  { dev with rtnlLinkOps := some ops, address := tbAddress.getD dev.address }

/-- What the module relies on of the core, as the kernel documents it:
`is_valid_ether_addr` tells the addresses that are neither a group's nor zero;
`eth_mac_addr` refuses any other address, and sets a valid one on a device that allows the
change while it runs; on a device with counters of the kind `lstats`, `dev_lstats_add` counts a
packet on one CPU and `dev_lstats_read` takes the sum over all CPUs; `register_netdevice` runs
`ndo_init` and adds the device, or fails; `unregister_netdevice` takes the device out and frees
it exactly if it says so; `rtnl_link_unregister` does this with all devices that have the
operations before it drops the operations; and a request for a link is validated first, and
then made from the operations with the address of the request.
-/
structure NetCore.Lawful : Prop where
  valid
    : ∀ address,
        core.isValidEtherAddr address = true ↔ ¬IsMulticast address ∧ ¬IsZero address
  mac_refused
    : ∀ dev address,
        core.isValidEtherAddr address = false → (core.ethMacAddr dev address).2 = dev
  mac_changed
    : ∀ dev address,
        core.isValidEtherAddr address = true
        → dev.liveAddrChange = true
        → core.ethMacAddr dev address = (0, { dev with address })
  lstats_add
    : ∀ dev cpu len,
        dev.pcpuStatType = .lstats
        → core.devLstatsAdd dev cpu len
          = { dev with lstats := Function.update dev.lstats cpu ((dev.lstats cpu).add len) }
  lstats_read
    : ∀ dev,
        dev.pcpuStatType = .lstats
        → core.devLstatsRead dev
          = { packets := ∑ cpu, (dev.lstats cpu).packets, bytes := ∑ cpu, (dev.lstats cpu).bytes }
  registered
    : ∀ dev ops ready w,
        dev.netdevOps = some ops
        → ops.ndoInit dev = (0, ready)
        → core.registerNetdevice none dev w = (0, w.enlist ready)
  refused
    : ∀ error dev w,
        core.registerNetdevice (some error) dev w = (KernelCall.ret (some error), w)
  unregistered
    : ∀ dev w,
        dev ∈ w.devices
        → core.unregisterNetdevice dev w
          = if dev.needsFreeNetdev then (w.delist dev).freeNetdev dev.index else w.delist dev
  link_unregistered
    : ∀ ops w,
        core.rtnlLinkUnregister ops w
        = ((w.devices.filter fun dev => dev.rtnlLinkOps = some ops).foldl
            (fun w dev => core.unregisterNetdevice dev w) w).post (.release .linkOps)
  newlink
    : ∀ ops calls tbAddress w,
        core.rtnlNewlink ops calls tbAddress w
        = if ops.validate core tbAddress ≠ 0 then
            (ops.validate core tbAddress, w)
          else if calls.allocNetdev.failed then
            (-enomem, w)
          else
            core.registerOrFree calls.registerNetdevice (ops.requested calls tbAddress w.next)
              w.allocNetdev

-----------------------------------------------------------------------------------------
-- The module
-----------------------------------------------------------------------------------------

def dummyInitOne (calls : OneCalls) (w : World cpus) : Int × World cpus :=
  if calls.allocNetdev.failed then
    (-enomem, w)
  else
    let dev := dummySetup calls.ethHwAddrRandom (.zero w.next)
    let dev := { dev with rtnlLinkOps := some .dummyLinkOps }
    core.registerOrFree calls.registerNetdevice dev w.allocNetdev

structure InitCalls where
  rtnlLinkRegister : KernelCall
  numdummies : BitVec 32
  one : Nat → OneCalls

/-- The number of rounds of the loop, whose bound is signed. -/
def InitCalls.rounds (calls : InitCalls) : Nat := calls.numdummies.toInt.toNat

/-- The loop of `dummy_init_module`. -/
def dummyInitDevices (calls : InitCalls) (w : World cpus) : Int × World cpus :=
  (List.range calls.rounds).foldl
    (fun (err, w) i => if err = 0 then dummyInitOne core (calls.one i) w else (err, w)) (0, w)

def dummyInitModule (calls : InitCalls) (w : World cpus) : Int × World cpus :=
  let err := calls.rtnlLinkRegister.ret
  if err < 0 then
    (err, w)
  else
    let (err, w) := dummyInitDevices core calls (w.post (.acquire .linkOps))
    let w := if err < 0 then core.rtnlLinkUnregister .dummyLinkOps w else w
    (err, w)

def dummyCleanupModule (w : World cpus) : World cpus := core.rtnlLinkUnregister .dummyLinkOps w

end DummyDrivers.Net
