import DummyDrivers.Library.Transition
import DummyDrivers.Net.Ownership

/-! Runs of the network module over any lawful core: load attempts, unloads, links that users
create and delete, and packets on any of the CPUs, in any order.
-/

namespace DummyDrivers.Net

open DummyDrivers.Transition

variable {cpus : Nat}

inductive Label (cpus : Nat) where
  | load (calls : InitCalls)
  | unload
  | newlink (calls : OneCalls) (tbAddress : Option (List UInt8))
  | dellink (index : Nat)
  | xmit (index : Nat) (cpu : Fin cpus) (len : BitVec 32)
  | setAddress (index : Nat) (address : List UInt8)
  | changeCarrier (index : Nat) (newCarrier : Bool)

structure State (cpus : Nat) where
  loaded : Bool
  world : World cpus

def State.initial (cpus : Nat) : State cpus := { loaded := false, world := .initial cpus }

/-- What the module's `ndo_set_mac_address` leaves of a device. -/
def changeAddress (core : NetCore cpus) (address : List UInt8) (dev : NetDevice cpus)
    : NetDevice cpus :=
  (NetdevOps.dummyNetdevOps.ndoSetMacAddress core dev address).2

/-- The module stays loaded when its initialization returns zero. The core passes only
registered devices on, and addresses of the length of a device's own; a random address is one
that a device may have.
-/
inductive Step (core : NetCore cpus) : State cpus → Label cpus → State cpus → Prop where
  | load {w} (calls : InitCalls) (random : ∀ i, IsAddress (calls.one i).ethHwAddrRandom)
    : Step core ⟨false, w⟩ (.load calls)
        ⟨(dummyInitModule core calls w).1 = 0, (dummyInitModule core calls w).2⟩
  | unload {w} : Step core ⟨true, w⟩ .unload ⟨false, dummyCleanupModule core w⟩
  | newlink {w} (calls : OneCalls) (tbAddress : Option (List UInt8))
    (random : IsAddress calls.ethHwAddrRandom)
    : Step core ⟨true, w⟩ (.newlink calls tbAddress)
        ⟨true, (core.rtnlNewlink .dummyLinkOps calls tbAddress w).2⟩
  | dellink {loaded w} (dev : NetDevice cpus) (member : dev ∈ w.devices)
    : Step core ⟨loaded, w⟩ (.dellink dev.index) ⟨loaded, core.unregisterNetdevice dev w⟩
  | xmit {loaded w} (index : Nat) (cpu : Fin cpus) (len : BitVec 32)
    (member : index ∈ w.indices)
    : Step core ⟨loaded, w⟩ (.xmit index cpu len)
        ⟨loaded, w.update index (dummyXmit core cpu len)⟩
  | setAddress {loaded w} (index : Nat) (address : List UInt8)
    (length : address.length = ethAlen) (member : index ∈ w.indices)
    : Step core ⟨loaded, w⟩ (.setAddress index address)
        ⟨loaded, w.update index (changeAddress core address)⟩
  | changeCarrier {loaded w} (index : Nat) (newCarrier : Bool) (member : index ∈ w.indices)
    : Step core ⟨loaded, w⟩ (.changeCarrier index newCarrier)
        ⟨loaded, w.update index (dummyChangeCarrier newCarrier)⟩

abbrev NetRun (core : NetCore cpus) (history : List (Label cpus)) (s : State cpus) : Prop :=
  Run (Step core) (State.initial cpus) history s

/-- What a label changes in a device that stays. -/
def Label.change (core : NetCore cpus) : Label cpus → NetDevice cpus → NetDevice cpus
  | .xmit index cpu len, dev => if dev.index = index then dummyXmit core cpu len dev else dev
  | .setAddress index address, dev =>
      if dev.index = index then changeAddress core address dev else dev
  | .changeCarrier index newCarrier, dev =>
      if dev.index = index then dummyChangeCarrier newCarrier dev else dev
  | _, dev => dev

/-- The lengths of the packets that a history sends through a device. -/
def sent (index : Nat) (history : List (Label cpus)) : List (BitVec 32) :=
  history.filterMap fun
    | .xmit other _ len => if other = index then some len else none
    | _ => none

variable {core : NetCore cpus}

-----------------------------------------------------------------------------------------
-- Changes of a device
-----------------------------------------------------------------------------------------

/-- A packet changes the counters of one CPU. -/
theorem dummyXmit_eq (lawful : core.Lawful) {dev : NetDevice cpus} (prepared : dev.Prepared)
    (cpu : Fin cpus) (len : BitVec 32)
    : dummyXmit core cpu len dev
      = { dev with lstats := Function.update dev.lstats cpu ((dev.lstats cpu).add len) } :=
  lawful.lstats_add dev cpu len prepared.pcpuStatType

/-- A valid address is taken, and any other refused. -/
theorem changeAddress_eq (lawful : core.Lawful) {dev : NetDevice cpus}
    (prepared : dev.Prepared) (address : List UInt8)
    : changeAddress core address dev
      = if core.isValidEtherAddr address = true then { dev with address } else dev := by
  change (core.ethMacAddr dev address).2 = _
  by_cases valid : core.isValidEtherAddr address = true
  · rw [if_pos valid, lawful.mac_changed dev address valid prepared.liveAddrChange]
  · rw [if_neg valid, lawful.mac_refused dev address (Bool.eq_false_iff.mpr valid)]

theorem dummyXmit_preserves (lawful : core.Lawful) (cpu : Fin cpus) (len : BitVec 32)
    : Preserves (dummyXmit core cpu len) := by
  intro dev prepared
  obtain ⟨ops, link, frees, live, counts⟩ := prepared
  rw [dummyXmit_eq lawful ⟨ops, link, frees, live, counts⟩]
  exact ⟨rfl, ops, link, frees, live, counts⟩

theorem changeAddress_preserves (lawful : core.Lawful) (address : List UInt8)
    : Preserves (changeAddress core address) := by
  intro dev prepared
  obtain ⟨ops, link, frees, live, counts⟩ := prepared
  rw [changeAddress_eq lawful ⟨ops, link, frees, live, counts⟩]
  split <;> exact ⟨rfl, ops, link, frees, live, counts⟩

theorem dummyChangeCarrier_preserves (newCarrier : Bool)
    : Preserves (dummyChangeCarrier newCarrier : NetDevice cpus → NetDevice cpus) := by
  intro dev prepared
  obtain ⟨ops, link, frees, live, counts⟩ := prepared
  cases newCarrier <;> exact ⟨rfl, ops, link, frees, live, counts⟩

/-- A property of a device holds whether it is changed or not. -/
theorem ite_holds {applies : Prop} [Decidable applies] (property : NetDevice cpus → Prop)
    {changed dev : NetDevice cpus} (after : property changed) (before : property dev)
    : property (if applies then changed else dev) := by
  split
  · exact after
  · exact before

/-- Devices keep their number and what the module has filled in. -/
theorem Label.change_preserves (lawful : core.Lawful) (label : Label cpus)
    : Preserves (label.change core) := by
  intro dev prepared
  have same : dev.index = dev.index ∧ dev.Prepared := ⟨rfl, prepared⟩
  cases label with
  | xmit index cpu len =>
      exact ite_holds (fun after => after.index = dev.index ∧ after.Prepared)
        (dummyXmit_preserves lawful cpu len dev prepared) same
  | setAddress index address =>
      exact ite_holds (fun after => after.index = dev.index ∧ after.Prepared)
        (changeAddress_preserves lawful address dev prepared) same
  | changeCarrier index newCarrier =>
      exact ite_holds (fun after => after.index = dev.index ∧ after.Prepared)
        (dummyChangeCarrier_preserves newCarrier dev prepared) same
  | load | unload | newlink | dellink => exact same

-----------------------------------------------------------------------------------------
-- Steps
-----------------------------------------------------------------------------------------

/-- The account is in order, and there are devices only while the module is loaded. -/
structure Sound (s : State cpus) : Prop where
  owned : Owned (s.loaded = true) s.world
  unloaded : s.loaded = false → s.world.devices = []

/-- Only a loaded module has devices. -/
theorem Sound.loaded {loaded : Bool} {w : World cpus} (sound : Sound ⟨loaded, w⟩) {index : Nat}
    (member : index ∈ w.indices)
    : loaded = true := by
  cases loaded with
  | true => rfl
  | false =>
      have none : w.devices = [] := sound.unloaded rfl
      rw [World.indices, none] at member
      exact absurd member List.not_mem_nil

/-- What a load attempt leaves. -/
structure Loaded (calls : InitCalls) (s : State cpus) : Prop where
  returns : s.loaded = true ↔ calls.AllSucceed
  devices : s.loaded = true → s.world.devices.length = calls.rounds

theorem Sound.load (lawful : core.Lawful) {w : World cpus} (sound : Sound ⟨false, w⟩)
    {calls : InitCalls} (random : ∀ i, IsAddress (calls.one i).ethHwAddrRandom)
    : Sound ⟨(dummyInitModule core calls w).1 = 0, (dummyInitModule core calls w).2⟩
      ∧ Loaded calls ⟨(dummyInitModule core calls w).1 = 0, (dummyInitModule core calls w).2⟩
      ∧ Grows IsAddress w (dummyInitModule core calls w).2 := by
  have outside : Owned False w := by simpa using sound.owned
  obtain ⟨err, after, ran, grown, ends⟩ :=
    outside.initModule lawful (sound.unloaded rfl) random
  rw [ran]
  rcases ends with ⟨all, rfl, owned, many⟩ | ⟨fails, negative, owned, none⟩
  · refine ⟨⟨by simpa using owned, ?_⟩, ⟨by simpa using all, fun _ => many⟩, grown⟩
    intro unloaded
    simp at unloaded
  · have error : err ≠ 0 := negative.ne
    refine ⟨⟨by simpa [error] using owned, fun _ => none⟩, ⟨by simp [error, fails], ?_⟩, grown⟩
    intro loaded
    simp [error] at loaded

theorem Sound.update {loaded : Bool} {w : World cpus} (sound : Sound ⟨loaded, w⟩) {index : Nat}
    (member : index ∈ w.indices) {change : NetDevice cpus → NetDevice cpus}
    (preserves : Preserves change)
    : Sound ⟨loaded, w.update index change⟩ := by
  obtain rfl := sound.loaded member
  exact ⟨sound.owned.update index preserves, fun unloaded => by contradiction⟩

theorem Step.sound (lawful : core.Lawful) {s t : State cpus} {label : Label cpus}
    (step : Step core s label t) (sound : Sound s)
    : Sound t := by
  cases step with
  | load calls random => exact (sound.load lawful random).1
  | @unload w =>
      have owned : Owned True w := by simpa using sound.owned
      obtain ⟨released, none, _⟩ := owned.linkUnregistered lawful
      exact ⟨by simpa [dummyCleanupModule] using released, fun _ => none⟩
  | @newlink w calls tbAddress random =>
      obtain ⟨err, after, ran, owned, _⟩ := sound.owned.newlink lawful random tbAddress
      rw [ran]
      exact ⟨owned, fun unloaded => by contradiction⟩
  | dellink dev member =>
      obtain rfl := sound.loaded (List.mem_map_of_mem member)
      exact ⟨sound.owned.unregistered lawful member, fun unloaded => by contradiction⟩
  | xmit index cpu len member => exact sound.update member (dummyXmit_preserves lawful cpu len)
  | setAddress index address length member =>
      exact sound.update member (changeAddress_preserves lawful address)
  | changeCarrier index newCarrier member =>
      exact sound.update member (dummyChangeCarrier_preserves newCarrier)

theorem NetRun.sound (lawful : core.Lawful) {history : List (Label cpus)} {s : State cpus}
    (run : NetRun core history s)
    : Sound s :=
  run.invariant (fun _ s => Sound s) ⟨by simpa [State.initial] using Owned.initial, fun _ => rfl⟩
    fun _ sound step => step.sound lawful sound

/-- A device after a step was set up by it or stayed, with what the step changes in it. -/
theorem Step.device (lawful : core.Lawful) {s t : State cpus} {label : Label cpus}
    (step : Step core s label t) (sound : Sound s) {dev : NetDevice cpus}
    (member : dev ∈ t.world.devices)
    : (∃ index address,
        s.world.next ≤ index ∧ IsAddress address ∧ dev = .created index address)
      ∨ ∃ old ∈ s.world.devices, dev = label.change core old := by
  have grows {before after : World cpus} (grown : Grows IsAddress before after)
      (member : dev ∈ after.devices)
      : (∃ index address,
          before.next ≤ index ∧ IsAddress address ∧ dev = .created index address)
        ∨ ∃ old ∈ before.devices, dev = old := by
    rcases grown.devices dev member with old | new
    · exact .inr ⟨dev, old, rfl⟩
    · exact .inl new
  have updates {w : World cpus} {index : Nat} {change : NetDevice cpus → NetDevice cpus}
      (member : dev ∈ (w.update index change).devices)
      : ∃ old ∈ w.devices, dev = if old.index = index then change old else old := by
    obtain ⟨old, inside, rfl⟩ := List.mem_map.mp member
    exact ⟨old, inside, rfl⟩
  cases step with
  | load calls random => exact grows (sound.load lawful random).2.2 member
  | @unload w =>
      have owned : Owned True w := by simpa using sound.owned
      have none : (dummyCleanupModule core w).devices = [] := (owned.linkUnregistered lawful).2.1
      rw [none] at member
      exact absurd member List.not_mem_nil
  | newlink calls tbAddress random =>
      obtain ⟨err, after, ran, _, grown, _⟩ := sound.owned.newlink lawful random tbAddress
      rw [ran] at member
      exact grows grown member
  | @dellink loaded w gone listed =>
      rw [sound.owned.unregister_eq lawful listed] at member
      exact .inr ⟨dev, List.mem_of_mem_filter member, rfl⟩
  | xmit index cpu len => exact .inr (updates member)
  | setAddress index address => exact .inr (updates member)
  | changeCarrier index newCarrier => exact .inr (updates member)

-----------------------------------------------------------------------------------------
-- What runs keep
-----------------------------------------------------------------------------------------

/-- A sum over all CPUs in which one of the summands has grown. -/
theorem sum_update (lstats : Fin cpus → Lstats) (cpu : Fin cpus) {added : Lstats}
    (read : Lstats → BitVec 64) {amount : BitVec 64}
    (grown : read added = read (lstats cpu) + amount)
    : ∑ other, read (Function.update lstats cpu added other)
      = (∑ other, read (lstats other)) + amount := by
  have rest : ∑ other ∈ Finset.univ.erase cpu, read (Function.update lstats cpu added other)
      = ∑ other ∈ Finset.univ.erase cpu, read (lstats other) := by
    apply Finset.sum_congr rfl
    intro other member
    rw [Function.update_of_ne (Finset.ne_of_mem_erase member)]
  rw [← Finset.add_sum_erase _ _ (Finset.mem_univ cpu),
    ← Finset.add_sum_erase _ (fun other => read (lstats other)) (Finset.mem_univ cpu), rest,
    Function.update_self, grown, add_right_comm]

/-- The counters for some lengths of packets, which have 64 bits. -/
def counted (lengths : List (BitVec 32)) : Lstats :=
  {
    packets := BitVec.ofNat 64 lengths.length
    bytes := BitVec.ofNat 64 (lengths.map BitVec.toNat).sum
  }

/-- The sums over all CPUs. -/
def NetDevice.total (dev : NetDevice cpus) : Lstats :=
  { packets := ∑ cpu, (dev.lstats cpu).packets, bytes := ∑ cpu, (dev.lstats cpu).bytes }

theorem dummyGetStats64_eq (lawful : core.Lawful) {dev : NetDevice cpus}
    (prepared : dev.Prepared)
    : dummyGetStats64 core dev = dev.total :=
  lawful.lstats_read dev prepared.pcpuStatType

theorem total_xmit (lawful : core.Lawful) {dev : NetDevice cpus} (prepared : dev.Prepared)
    {lengths : List (BitVec 32)} (before : dev.total = counted lengths) (cpu : Fin cpus)
    (len : BitVec 32)
    : (dummyXmit core cpu len dev).total = counted (lengths ++ [len]) := by
  have packets : ∑ cpu, (dev.lstats cpu).packets = BitVec.ofNat 64 lengths.length :=
    congrArg Lstats.packets before
  have bytes : ∑ cpu, (dev.lstats cpu).bytes
      = BitVec.ofNat 64 (lengths.map BitVec.toNat).sum :=
    congrArg Lstats.bytes before
  have wide : len.setWidth 64 = BitVec.ofNat 64 len.toNat := (BitVec.ofNat_toNat 64 len).symm
  rw [dummyXmit_eq lawful prepared]
  simp only [NetDevice.total, Lstats.add, counted]
  rw [sum_update dev.lstats cpu Lstats.packets rfl, sum_update dev.lstats cpu Lstats.bytes rfl,
    packets, bytes, wide, List.length_append, List.map_append, List.sum_append,
    BitVec.ofNat_add, BitVec.ofNat_add]
  rfl

theorem total_created (index : Nat) (address : List UInt8)
    : (NetDevice.created index address : NetDevice cpus).total = counted [] := by
  simp [NetDevice.total, NetDevice.created, NetDevice.uninitialized, dummyDevInit, dummySetup,
    NetDevice.zero, counted]

theorem sent_append (index : Nat) (history : List (Label cpus)) (label : Label cpus)
    : sent index (history ++ [label]) = sent index history ++ sent index [label] :=
  List.filterMap_append

/-- A step sends packets through registered devices only. -/
theorem Step.sent_fresh {s t : State cpus} {label : Label cpus} (step : Step core s label t)
    (sound : Sound s) {index : Nat} (unused : s.world.next ≤ index)
    : sent index [label] = [] := by
  cases step with
  | xmit other cpu len member =>
      have used := sound.owned.fresh other member
      have different : other ≠ index := by
        intro same
        change other < _ at used
        omega
      simp [sent, different]
  | load | unload | newlink | dellink | setAddress | changeCarrier => rfl

theorem total_changeAddress (lawful : core.Lawful) {dev : NetDevice cpus}
    (prepared : dev.Prepared) (address : List UInt8)
    : (changeAddress core address dev).total = dev.total := by
  rw [changeAddress_eq lawful prepared]
  split <;> rfl

theorem total_changeCarrier (newCarrier : Bool) (dev : NetDevice cpus)
    : (dummyChangeCarrier newCarrier dev).total = dev.total := by
  cases newCarrier <;> rfl

/-- A label counts the packet that it sends through a device, if it sends one. -/
theorem Label.change_total (lawful : core.Lawful) (label : Label cpus) {dev : NetDevice cpus}
    (prepared : dev.Prepared) {history : List (Label cpus)}
    (before : dev.total = counted (sent dev.index history))
    : (label.change core dev).total = counted (sent dev.index (history ++ [label])) := by
  rw [sent_append]
  have silent : dev.total = counted (sent dev.index history ++ []) :=
    before.trans (congrArg counted (List.append_nil _).symm)
  cases label with
  | xmit index cpu len =>
      by_cases same : dev.index = index
      · have one : sent dev.index [Label.xmit index cpu len] = [len] := by simp [sent, same]
        rw [one, Label.change, if_pos same]
        exact total_xmit lawful prepared before cpu len
      · have none : sent dev.index [Label.xmit index cpu len] = [] := by
          simp [sent, Ne.symm same]
        rw [none, List.append_nil, Label.change, if_neg same]
        exact before
  | setAddress index address =>
      have same := total_changeAddress lawful prepared address
      exact ite_holds (·.total = _) (same.trans silent) silent
  | changeCarrier index newCarrier =>
      have same := total_changeCarrier newCarrier dev
      exact ite_holds (·.total = _) (same.trans silent) silent
  | load | unload | newlink | dellink => exact silent

theorem Step.next (lawful : core.Lawful) {s t : State cpus} {label : Label cpus}
    (step : Step core s label t) (sound : Sound s)
    : s.world.next ≤ t.world.next := by
  cases step with
  | load calls random => exact (sound.load lawful random).2.2.next
  | @unload w =>
      have owned : Owned True w := by simpa using sound.owned
      exact (owned.linkUnregistered lawful).2.2.ge
  | newlink calls tbAddress random =>
      obtain ⟨err, after, ran, _, grown, _⟩ := sound.owned.newlink lawful random tbAddress
      rw [ran]
      exact grown.next
  | dellink dev member =>
      rw [sound.owned.unregister_eq lawful member]
      exact Nat.le_refl _
  | xmit | setAddress | changeCarrier => exact Nat.le_refl _

/-- Numbers that are not used yet have sent nothing. -/
theorem NetRun.sent_unused (lawful : core.Lawful) {history : List (Label cpus)}
    {s : State cpus} (run : NetRun core history s) {index : Nat}
    (unused : s.world.next ≤ index)
    : sent index history = [] := by
  refine Run.invariant (fun history s => ∀ index, s.world.next ≤ index → sent index history = [])
    run (fun _ _ => rfl) ?_ index unused
  intro past before label after earlier kept step index unused
  have sound := NetRun.sound lawful earlier
  have below := (step.next lawful sound).trans unused
  rw [sent_append, kept index below, step.sent_fresh sound below, List.append_nil]

theorem changeAddress_isAddress (lawful : core.Lawful) {address : List UInt8}
    {dev : NetDevice cpus} (prepared : dev.Prepared) (length : address.length = ethAlen)
    (before : IsAddress dev.address)
    : IsAddress (changeAddress core address dev).address := by
  rw [changeAddress_eq lawful prepared]
  by_cases valid : core.isValidEtherAddr address = true
  · obtain ⟨unicast, nonzero⟩ := (lawful.valid address).mp valid
    rw [if_pos valid]
    exact ⟨length, unicast, nonzero⟩
  · rw [if_neg valid]
    exact before

theorem dummyChangeCarrier_address (newCarrier : Bool) (dev : NetDevice cpus)
    : (dummyChangeCarrier newCarrier dev).address = dev.address := by
  cases newCarrier <;> rfl

theorem Step.change_isAddress (lawful : core.Lawful) {s t : State cpus} {label : Label cpus}
    (step : Step core s label t) {dev : NetDevice cpus} (prepared : dev.Prepared)
    (valid : IsAddress dev.address)
    : IsAddress (label.change core dev).address := by
  cases step with
  | xmit index cpu len =>
      have sent : IsAddress (dummyXmit core cpu len dev).address := by
        rw [dummyXmit_eq lawful prepared]
        exact valid
      exact ite_holds (fun dev => IsAddress dev.address) sent valid
  | setAddress index address length =>
      exact ite_holds (fun dev => IsAddress dev.address)
        (changeAddress_isAddress lawful prepared length valid) valid
  | changeCarrier index newCarrier =>
      have same := dummyChangeCarrier_address newCarrier dev
      exact ite_holds (fun dev => IsAddress dev.address) (same.symm ▸ valid) valid
  | load | unload | newlink | dellink => exact valid

-----------------------------------------------------------------------------------------
-- A core
-----------------------------------------------------------------------------------------

def plainRegister (call : KernelCall) (dev : NetDevice cpus) (w : World cpus)
    : Int × World cpus :=
  match call with
  | some error => (KernelCall.ret (some error), w)
  | none =>
      match dev.netdevOps with
      | none => (0, w.enlist dev)
      | some ops =>
          let (err, ready) := ops.ndoInit dev
          if err = 0 then (0, w.enlist ready) else (err, w)

def plainUnregister (dev : NetDevice cpus) (w : World cpus) : World cpus :=
  if dev.needsFreeNetdev then (w.delist dev).freeNetdev dev.index else w.delist dev

/-- A core without links on request. -/
def linklessCore (cpus : Nat) : NetCore cpus :=
  let isValidEtherAddr (address : List UInt8) : Bool := ¬IsMulticast address ∧ ¬IsZero address
  {
    isValidEtherAddr
    ethMacAddr := fun dev address =>
      if isValidEtherAddr address then (0, { dev with address }) else (-eaddrnotavail, dev)
    devLstatsAdd := fun dev cpu len =>
      { dev with lstats := Function.update dev.lstats cpu ((dev.lstats cpu).add len) }
    devLstatsRead := NetDevice.total
    registerNetdevice := plainRegister
    unregisterNetdevice := plainUnregister
    rtnlLinkUnregister := fun ops w =>
      ((w.devices.filter fun dev => dev.rtnlLinkOps = some ops).foldl
        (fun w dev => plainUnregister dev w) w).post (.release .linkOps)
    rtnlNewlink := fun _ _ _ w => (-einval, w)
  }

/-- A core that does what the laws say and nothing else. -/
def plainCore (cpus : Nat) : NetCore cpus :=
  let core := linklessCore cpus
  {
    core with
    rtnlNewlink := fun ops calls tbAddress w =>
      if ops.validate core tbAddress ≠ 0 then
        (ops.validate core tbAddress, w)
      else if calls.allocNetdev.failed then
        (-enomem, w)
      else
        core.registerOrFree calls.registerNetdevice (ops.requested calls tbAddress w.next)
          w.allocNetdev
  }

theorem plainCore_lawful (cpus : Nat) : (plainCore cpus).Lawful where
  valid _ := decide_eq_true_iff
  mac_refused _ _ invalid := by
    change (ite ((plainCore cpus).isValidEtherAddr _ = true) _ _ : Int × NetDevice cpus).2 = _
    rw [invalid]
    rfl
  mac_changed _ _ valid _ := if_pos valid
  lstats_add _ _ _ _ := rfl
  lstats_read _ _ := rfl
  registered _ _ _ _ given initialized := by
    change plainRegister none _ _ = _
    simp only [plainRegister, given, initialized, if_true]
  refused _ _ _ := rfl
  unregistered _ _ _ := rfl
  link_unregistered _ _ := rfl
  newlink _ _ _ _ := rfl

/-- Calls that succeed, with a local address. -/
def localCalls : OneCalls :=
  {
    allocNetdev := none
    ethHwAddrRandom := [0x02, 0, 0, 0, 0, 0x01]
    registerNetdevice := none
  }

/-- A load of two devices. -/
def pairCalls : InitCalls :=
  { rtnlLinkRegister := none, numdummies := 2, one := fun _ => localCalls }

theorem localCalls_isAddress : IsAddress localCalls.ethHwAddrRandom := by
  constructor <;> decide

/-- Two devices on two CPUs. -/
def pairWorld : World 2 := (dummyInitModule (plainCore 2) pairCalls (.initial 2)).2

theorem pairWorld_run
    : NetRun (plainCore 2) [.load pairCalls] { loaded := true, world := pairWorld } :=
  .single (.load pairCalls fun _ => localCalls_isAddress)

theorem pairWorld_indices : pairWorld.indices = [0, 1] := rfl

theorem pairWorld_first : 0 ∈ pairWorld.indices := pairWorld_indices ▸ List.mem_cons_self

-----------------------------------------------------------------------------------------
-- The results
-----------------------------------------------------------------------------------------

/-- In every run, over any lawful core, the counters that a device reports are those of the
packets that were sent through it since its creation, whatever happened in between.
-/
theorem dummyGetStats64_run (lawful : core.Lawful) {history : List (Label cpus)}
    {s : State cpus} (run : NetRun core history s) {dev : NetDevice cpus}
    (registered : dev ∈ s.world.devices)
    : dummyGetStats64 core dev = counted (sent dev.index history) := by
  have prepared := (NetRun.sound lawful run).owned.prepared dev registered
  rw [dummyGetStats64_eq lawful prepared]
  refine Run.invariant
    (fun history s => ∀ dev ∈ s.world.devices, dev.total = counted (sent dev.index history))
    run (fun _ none => absurd none List.not_mem_nil) ?_ dev registered
  intro past before label after earlier kept step dev member
  have sound := NetRun.sound lawful earlier
  rcases step.device lawful sound member
    with ⟨index, address, unused, _, rfl⟩ | ⟨old, inside, rfl⟩
  · have none : sent index past = [] := NetRun.sent_unused lawful earlier unused
    rw [total_created]
    change _ = counted (sent index (past ++ [label]))
    rw [sent_append, none, step.sent_fresh sound unused]
    rfl
  · have prepared := sound.owned.prepared old inside
    rw [(label.change_preserves lawful old prepared).1]
    exact label.change_total lawful prepared (kept old inside)

/-- Witness: packets on two CPUs are counted together. -/
theorem dummyGetStats64_run_pair
    : ∃ s : State 2,
        NetRun (plainCore 2) [.load pairCalls, .xmit 0 0 60, .xmit 0 1 1500] s
        ∧ ∃ dev ∈ s.world.devices,
            dev.index = 0
            ∧ dummyGetStats64 (plainCore 2) dev = { packets := 2, bytes := 1560 } := by
  let core := plainCore 2
  have first : Step core ⟨true, pairWorld⟩ (.xmit 0 0 60) _ := .xmit 0 0 60 pairWorld_first
  have second : Step core ⟨true, pairWorld.update 0 (dummyXmit core 0 60)⟩ (.xmit 0 1 1500) _ :=
    .xmit 0 1 1500 pairWorld_first
  have run : NetRun core [.load pairCalls, .xmit 0 0 60, .xmit 0 1 1500] _ :=
    .snoc (.snoc pairWorld_run first) second
  have counts := dummyGetStats64_run (plainCore_lawful 2) run List.mem_cons_self
  exact ⟨_, run, _, List.mem_cons_self, rfl, counts⟩

/-- In every run, over any lawful core, each device has an address that is neither zero nor a
group's.
-/
theorem address_run (lawful : core.Lawful) {history : List (Label cpus)} {s : State cpus}
    (run : NetRun core history s) {dev : NetDevice cpus} (registered : dev ∈ s.world.devices)
    : IsAddress dev.address := by
  refine Run.invariant (fun _ s => ∀ dev ∈ s.world.devices, IsAddress dev.address) run
    (fun _ none => absurd none List.not_mem_nil) ?_ dev registered
  intro past before label after earlier kept step dev member
  have sound := NetRun.sound lawful earlier
  rcases step.device lawful sound member
    with ⟨index, address, _, valid, rfl⟩ | ⟨old, inside, rfl⟩
  · exact valid
  · exact step.change_isAddress lawful (sound.owned.prepared old inside) (kept old inside)

/-- Witness: a request for a group's address fails, and an address of zeros is refused. -/
theorem address_run_zero
    : ∃ s : State 2,
        NetRun (plainCore 2)
            [
              .load pairCalls,
              .newlink localCalls (some [1, 0, 0, 0, 0, 0]),
              .setAddress 0 [0, 0, 0, 0, 0, 0]
            ]
            s
        ∧ s.world.indices = [0, 1]
        ∧ ∀ dev ∈ s.world.devices, IsAddress dev.address := by
  let core := plainCore 2
  have lawful := plainCore_lawful 2
  have requested : Step core ⟨true, pairWorld⟩ (.newlink localCalls (some [1, 0, 0, 0, 0, 0]))
      ⟨true, pairWorld⟩ :=
    .newlink localCalls _ localCalls_isAddress
  have refused : Step core ⟨true, pairWorld⟩ (.setAddress 0 [0, 0, 0, 0, 0, 0]) _ :=
    .setAddress 0 [0, 0, 0, 0, 0, 0] rfl pairWorld_first
  have run : NetRun core [.load pairCalls, .newlink localCalls (some [1, 0, 0, 0, 0, 0]),
      .setAddress 0 [0, 0, 0, 0, 0, 0]] _ :=
    (pairWorld_run.snoc requested).snoc refused
  have same := (NetRun.sound lawful pairWorld_run).owned.update_indices 0
    (changeAddress_preserves lawful [0, 0, 0, 0, 0, 0])
  exact ⟨_, run, same.trans pairWorld_indices,
    fun dev registered => address_run lawful run registered⟩

/-- In every run, over any lawful core, the module holds its operations exactly while it is
loaded and the memory and the registration of exactly its devices, releases nothing that it
does not hold, and has no device while it is not loaded.
-/
theorem account_run (lawful : core.Lawful) {history : List (Label cpus)} {s : State cpus}
    (run : NetRun core history s)
    : s.world.account.faults = []
      ∧ s.world.indices.Nodup
      ∧ (.linkOps ∈ s.world.account.held ↔ s.loaded = true)
      ∧ (∀ index, .netdev index ∈ s.world.account.held ↔ index ∈ s.world.indices)
      ∧ (∀ index, .registration index ∈ s.world.account.held ↔ index ∈ s.world.indices)
      ∧ (s.loaded = false → s.world.account.held = ∅) := by
  have sound := run.sound lawful
  refine ⟨sound.owned.faultless, sound.owned.distinct, sound.owned.linkOps, sound.owned.netdev,
    sound.owned.registration, ?_⟩
  intro unloaded
  have owned : Owned False s.world := by simpa [unloaded] using sound.owned
  exact owned.held_empty (sound.unloaded unloaded)

/-- Witness: a device that a user deletes is not given back again by the unload. -/
theorem account_run_deleted
    : ∃ s : State 2,
        NetRun (plainCore 2) [.load pairCalls, .dellink 0, .unload] s
        ∧ s.world.account.faults = []
        ∧ s.world.account.held = ∅ := by
  let core := plainCore 2
  have listed : .created 0 localCalls.ethHwAddrRandom ∈ pairWorld.devices := List.mem_cons_self
  have deleted : Step core ⟨true, pairWorld⟩ (.dellink 0) _ := .dellink _ listed
  have run : NetRun core [.load pairCalls, .dellink 0, .unload] _ :=
    (pairWorld_run.snoc deleted).snoc .unload
  obtain ⟨faultless, _, _, _, _, released⟩ := account_run (plainCore_lawful 2) run
  exact ⟨_, run, faultless, released rfl⟩

/-- A load attempt in any run over any lawful core, with any number of devices and whichever
calls fail: the module is loaded exactly when all calls succeed, and then it has all its
devices; otherwise nothing is left of the attempt.
-/
theorem load_run (lawful : core.Lawful) {history : List (Label cpus)} {calls : InitCalls}
    {s : State cpus} (run : NetRun core (history ++ [.load calls]) s)
    : (s.loaded = true ↔ calls.AllSucceed)
      ∧ (calls.AllSucceed → s.world.devices.length = calls.rounds)
      ∧ (¬calls.AllSucceed → s.world.devices = [] ∧ s.world.account.held = ∅) := by
  have sound := run.sound lawful
  obtain ⟨before, earlier, step⟩ := run.last
  have loaded : Loaded calls s := by
    cases step with
    | load _ random => exact ((NetRun.sound lawful earlier).load lawful random).2.1
  refine ⟨loaded.returns, fun all => loaded.devices (loaded.returns.mpr all), ?_⟩
  intro fails
  have unloaded : s.loaded = false := Bool.eq_false_iff.mpr (loaded.returns.not.mpr fails)
  have owned : Owned False s.world := by simpa [unloaded] using sound.owned
  exact ⟨sound.unloaded unloaded, owned.held_empty (sound.unloaded unloaded)⟩

/-- A load of two devices whose second registration fails. -/
def brokenCalls : InitCalls :=
  {
    pairCalls with
    one := fun i =>
      {
        localCalls with
        registerNetdevice :=
          if i = 1 then some { code := 12, positive := enomem_code_pos } else none
      }
  }

/-- Witness: the device before the refused one goes again. -/
theorem load_run_broken
    : ∃ s : State 2,
        NetRun (plainCore 2) [.load brokenCalls] s
        ∧ ¬s.loaded = true
        ∧ s.world.devices = []
        ∧ s.world.account.held = ∅ := by
  have run : NetRun (plainCore 2) ([] ++ [(.load brokenCalls : Label 2)]) _ :=
    .snoc .nil (.load brokenCalls fun _ => localCalls_isAddress)
  have fails : ¬brokenCalls.AllSucceed := by
    intro all
    have refused := (all.2 1 (by decide)).2
    contradiction
  obtain ⟨returns, _, nothing⟩ := load_run (plainCore_lawful 2) run
  exact ⟨_, run, returns.not.mpr fails, nothing fails⟩

end DummyDrivers.Net
