import DummyDrivers.Net.Device

/-! What the module holds of the networking core: the operations of its links while it is
loaded, and the memory and the registration of each of its devices. The fields that the module
fills in decide what the core gives back.
-/

namespace DummyDrivers.Net

open DummyDrivers.Ledger

variable {cpus : Nat}

def World.indices (w : World cpus) : List Nat := w.devices.map NetDevice.index

@[simp] theorem post_indices (w : World cpus) (entry : Entry Resource)
    : (w.post entry).indices = w.indices := rfl

/-- What the module has filled in before its devices are registered. -/
structure NetDevice.Prepared (dev : NetDevice cpus) : Prop where
  netdevOps : dev.netdevOps = some .dummyNetdevOps
  rtnlLinkOps : dev.rtnlLinkOps = some .dummyLinkOps
  needsFreeNetdev : dev.needsFreeNetdev = true
  liveAddrChange : dev.liveAddrChange = true
  pcpuStatType : dev.pcpuStatType = .lstats

/-- The account fits the devices and the operations, and nothing was released wrongly. -/
structure Owned (loaded : Prop) (w : World cpus) : Prop where
  distinct : w.indices.Nodup
  fresh : ∀ index ∈ w.indices, index < w.next
  prepared : ∀ dev ∈ w.devices, dev.Prepared
  linkOps : .linkOps ∈ w.account.held ↔ loaded
  netdev : ∀ index, .netdev index ∈ w.account.held ↔ index ∈ w.indices
  registration : ∀ index, .registration index ∈ w.account.held ↔ index ∈ w.indices
  faultless : w.account.faults = []

theorem Owned.initial : Owned False (World.initial cpus) := by
  constructor <;> simp [World.initial, World.indices, Account.empty]

theorem Owned.index_fresh {loaded : Prop} {w : World cpus} (owned : Owned loaded w)
    : w.next ∉ w.indices :=
  fun member => Nat.lt_irrefl _ (owned.fresh _ member)

/-- Without a device and without the operations nothing is held. -/
theorem Owned.held_empty {w : World cpus} (owned : Owned False w) (none : w.devices = [])
    : w.account.held = ∅ := by
  have indices : w.indices = [] := by rw [World.indices, none, List.map_nil]
  apply Finset.eq_empty_of_forall_notMem
  intro resource
  cases resource with
  | linkOps => exact owned.linkOps.not.mpr not_false
  | netdev index =>
      rw [owned.netdev, indices]
      exact List.not_mem_nil
  | registration index =>
      rw [owned.registration, indices]
      exact List.not_mem_nil

-----------------------------------------------------------------------------------------
-- One device
-----------------------------------------------------------------------------------------

variable {loaded : Prop} {w : World cpus}

/-- A prepared device that is registered right after its allocation. -/
theorem Owned.enlisted (owned : Owned loaded w) {dev : NetDevice cpus}
    (index : dev.index = w.next) (prepared : dev.Prepared)
    : Owned loaded (w.allocNetdev.enlist dev) := by
  have unknown := owned.index_fresh
  have free : Resource.netdev w.next ∉ w.account.held := (owned.netdev _).not.mpr unknown
  have unregistered
      : Resource.registration w.next ∉ insert (.netdev w.next) w.account.held := by
    simpa using (owned.registration _).not.mpr unknown
  have account : (w.allocNetdev.enlist dev).account
      = {
          w.account with
          held := insert (.registration w.next) (insert (.netdev w.next) w.account.held)
        } := by
    simp only [World.enlist, World.allocNetdev, World.post, index]
    rw [Account.post_acquire free, Account.post_acquire unregistered]
  have indices : (w.allocNetdev.enlist dev).indices = w.indices ++ [w.next] := by
    simp [World.indices, World.enlist, World.allocNetdev, World.post, index]
  refine
    {
      distinct := ?_
      fresh := ?_
      prepared := ?_
      linkOps := ?_
      netdev := ?_
      registration := ?_
      faultless := ?_
    }
  · rw [indices]
    exact List.nodup_append'.mpr ⟨owned.distinct, List.nodup_singleton _, by simpa using unknown⟩
  · intro other member
    rw [indices, List.mem_append, List.mem_singleton] at member
    change other < w.next + 1
    rcases member with earlier | rfl
    · exact (owned.fresh other earlier).trans (Nat.lt_succ_self _)
    · exact Nat.lt_succ_self _
  · intro other member
    rcases List.mem_append.mp member with earlier | last
    · exact owned.prepared other earlier
    · obtain rfl := List.mem_singleton.mp last
      exact prepared
  · rw [account]
    simpa using owned.linkOps
  · intro other
    rw [account, indices]
    simp [owned.netdev, or_comm]
  · intro other
    rw [account, indices]
    simp [owned.registration, or_comm]
  · rw [account]
    exact owned.faultless

/-- A device that is freed right after its allocation. -/
theorem Owned.freed (owned : Owned loaded w)
    : Owned loaded (w.allocNetdev.freeNetdev w.next) := by
  have free : Resource.netdev w.next ∉ w.account.held :=
    (owned.netdev _).not.mpr owned.index_fresh
  have account : (w.allocNetdev.freeNetdev w.next).account = w.account := by
    simp only [World.freeNetdev, World.allocNetdev, World.post]
    rw [Account.post_acquire free, Account.post_release (Finset.mem_insert_self _ _),
      Finset.erase_insert free]
  exact {
    distinct := owned.distinct
    fresh := fun index member => (owned.fresh index member).trans (Nat.lt_succ_self _)
    prepared := owned.prepared
    linkOps := account ▸ owned.linkOps
    netdev := account ▸ owned.netdev
    registration := account ▸ owned.registration
    faultless := account ▸ owned.faultless
  }

theorem delist_indices (w : World cpus) (dev : NetDevice cpus)
    : (w.delist dev).indices = w.indices.filter (· ≠ dev.index) := by
  change (w.devices.filter _).map NetDevice.index = _
  rw [World.indices, List.filter_map]
  rfl

variable {core : NetCore cpus}

/-- A prepared device is freed with its registration. -/
theorem Owned.unregister_eq (lawful : core.Lawful) (owned : Owned loaded w)
    {dev : NetDevice cpus} (member : dev ∈ w.devices)
    : core.unregisterNetdevice dev w = (w.delist dev).freeNetdev dev.index := by
  rw [lawful.unregistered dev w member, if_pos (owned.prepared dev member).needsFreeNetdev]

/-- The end of a registration. -/
theorem Owned.unregistered (lawful : core.Lawful) (owned : Owned loaded w)
    {dev : NetDevice cpus} (member : dev ∈ w.devices)
    : Owned loaded (core.unregisterNetdevice dev w) := by
  have known : dev.index ∈ w.indices := List.mem_map_of_mem member
  have registration := (owned.registration dev.index).mpr known
  have netdev : Resource.netdev dev.index ∈ w.account.held.erase (.registration dev.index) :=
    Finset.mem_erase_of_ne_of_mem (by simp) ((owned.netdev dev.index).mpr known)
  rw [owned.unregister_eq lawful member]
  have account : ((w.delist dev).freeNetdev dev.index).account
      = {
          w.account with
          held := (w.account.held.erase (.registration dev.index)).erase (.netdev dev.index)
        } := by
    simp only [World.delist, World.freeNetdev, World.post]
    rw [Account.post_release registration, Account.post_release netdev]
  have indices : ((w.delist dev).freeNetdev dev.index).indices
      = w.indices.filter (· ≠ dev.index) :=
    delist_indices w dev
  refine
    {
      distinct := ?_
      fresh := ?_
      prepared := ?_
      linkOps := ?_
      netdev := ?_
      registration := ?_
      faultless := ?_
    }
  · rw [indices]
    exact owned.distinct.filter _
  · intro other member
    rw [indices] at member
    exact owned.fresh other (List.mem_of_mem_filter member)
  · intro other member
    exact owned.prepared other (List.mem_of_mem_filter member)
  · rw [account]
    simpa using owned.linkOps
  · intro other
    rw [account, indices]
    simp [owned.netdev, and_comm]
  · intro other
    rw [account, indices]
    simp [owned.registration, and_comm]
  · rw [account]
    exact owned.faultless

/-- All devices go, by induction on the list of those that are left. -/
theorem Owned.unregistered_all (lawful : core.Lawful) (owned : Owned loaded w)
    {left : List (NetDevice cpus)} (all : w.devices = left)
    : Owned loaded (left.foldl (fun w dev => core.unregisterNetdevice dev w) w)
      ∧ (left.foldl (fun w dev => core.unregisterNetdevice dev w) w).devices = []
      ∧ (left.foldl (fun w dev => core.unregisterNetdevice dev w) w).next = w.next := by
  induction left generalizing w with
  | nil => exact ⟨owned, all, rfl⟩
  | cons dev left ih =>
      have member : dev ∈ w.devices := all ▸ List.mem_cons_self
      have indices : w.indices = dev.index :: left.map NetDevice.index := by
        rw [World.indices, all, List.map_cons]
      have distinct := List.nodup_cons.mp (indices ▸ owned.distinct)
      have others : (core.unregisterNetdevice dev w).devices = left := by
        rw [owned.unregister_eq lawful member]
        change w.devices.filter _ = left
        rw [all, List.filter_cons_of_neg (by simp)]
        refine List.filter_eq_self.mpr fun other listed => ?_
        simpa using ne_of_mem_of_not_mem (List.mem_map_of_mem listed) distinct.1
      have same : (core.unregisterNetdevice dev w).next = w.next := by
        rw [owned.unregister_eq lawful member]
        rfl
      obtain ⟨kept, none, next⟩ := ih (owned.unregistered lawful member) others
      exact ⟨kept, none, next.trans same⟩

theorem Owned.linkOps_released (owned : Owned True w)
    : Owned False (w.post (.release .linkOps)) := by
  have account : (w.post (.release .linkOps)).account
      = { w.account with held := w.account.held.erase .linkOps } := by
    rw [World.post, Account.post_release (owned.linkOps.mpr trivial)]
  exact {
    distinct := owned.distinct
    fresh := owned.fresh
    prepared := owned.prepared
    linkOps := by simp [account]
    netdev := fun index => by simpa [account] using owned.netdev index
    registration := fun index => by simpa [account] using owned.registration index
    faultless := account ▸ owned.faultless
  }

theorem Owned.linkOps_acquired (owned : Owned False w)
    : Owned True (w.post (.acquire .linkOps)) := by
  have account : (w.post (.acquire .linkOps)).account
      = { w.account with held := insert .linkOps w.account.held } := by
    rw [World.post, Account.post_acquire (owned.linkOps.not.mpr not_false)]
  exact {
    distinct := owned.distinct
    fresh := owned.fresh
    prepared := owned.prepared
    linkOps := by simp [account]
    netdev := fun index => by simpa [account] using owned.netdev index
    registration := fun index => by simpa [account] using owned.registration index
    faultless := account ▸ owned.faultless
  }

/-- With the operations all devices are given back: each of them has these operations. -/
theorem Owned.linkUnregistered (lawful : core.Lawful) (owned : Owned True w)
    : Owned False (core.rtnlLinkUnregister .dummyLinkOps w)
      ∧ (core.rtnlLinkUnregister .dummyLinkOps w).devices = []
      ∧ (core.rtnlLinkUnregister .dummyLinkOps w).next = w.next := by
  have ours : w.devices.filter (fun dev => dev.rtnlLinkOps = some .dummyLinkOps) = w.devices :=
    List.filter_eq_self.mpr fun dev member =>
      decide_eq_true (owned.prepared dev member).rtnlLinkOps
  obtain ⟨emptied, none, next⟩ := owned.unregistered_all lawful rfl
  rw [lawful.link_unregistered, ours]
  exact ⟨emptied.linkOps_released, none, next⟩

-----------------------------------------------------------------------------------------
-- Creations
-----------------------------------------------------------------------------------------

/-- An address that a device may have, as `eth_hw_addr_random` makes them. -/
structure IsAddress (address : List UInt8) : Prop where
  length : address.length = ethAlen
  unicast : ¬IsMulticast address
  nonzero : ¬IsZero address

/-- A device as the core is asked to register it. -/
def NetDevice.uninitialized (index : Nat) (address : List UInt8) : NetDevice cpus :=
  let dev := dummySetup address (.zero index)
  { dev with rtnlLinkOps := some .dummyLinkOps }

/-- The device after its `ndo_init`. -/
def NetDevice.created (index : Nat) (address : List UInt8) : NetDevice cpus :=
  (dummyDevInit (.uninitialized index address)).2

theorem NetDevice.created_prepared (index : Nat) (address : List UInt8)
    : (NetDevice.created index address : NetDevice cpus).Prepared :=
  ⟨rfl, rfl, rfl, rfl, rfl⟩

/-- The new devices of some world are as they were set up, with addresses of a kind. -/
structure Grows (addresses : List UInt8 → Prop) (before after : World cpus) : Prop where
  next : before.next ≤ after.next
  devices
    : ∀ dev ∈ after.devices,
        dev ∈ before.devices
        ∨ ∃ index address,
            before.next ≤ index ∧ addresses address ∧ dev = .created index address

theorem Grows.refl (addresses : List UInt8 → Prop) (w : World cpus) : Grows addresses w w :=
  ⟨Nat.le_refl _, fun _ member => .inl member⟩

theorem Grows.trans {addresses : List UInt8 → Prop} {first middle last : World cpus}
    (left : Grows addresses first middle) (right : Grows addresses middle last)
    : Grows addresses first last := by
  refine ⟨left.next.trans right.next, ?_⟩
  intro dev member
  rcases right.devices dev member with old | ⟨index, address, later, kind, rfl⟩
  · exact left.devices dev old
  · exact .inr ⟨index, address, left.next.trans later, kind, rfl⟩

/-- A creation ends with one more device or with the same ones. -/
theorem Owned.register_cases (lawful : core.Lawful) (owned : Owned loaded w)
    (call : KernelCall) (address : List UInt8)
    : ∃ err after,
        core.registerOrFree call (.uninitialized w.next address) w.allocNetdev = (err, after)
        ∧ Owned loaded after
        ∧ Grows (· = address) w after
        ∧ (call = none ∧ err = 0 ∧ after.devices.length = w.devices.length + 1
          ∨ call ≠ none ∧ err < 0 ∧ after.devices = w.devices) := by
  cases call with
  | none =>
      have ran : core.registerNetdevice none (.uninitialized w.next address) w.allocNetdev
          = (0, w.allocNetdev.enlist (.created w.next address)) :=
        lawful.registered _ .dummyNetdevOps _ _ rfl rfl
      refine ⟨0, w.allocNetdev.enlist (.created w.next address), ?_,
        owned.enlisted rfl (NetDevice.created_prepared _ _), ⟨Nat.le_succ _, ?_⟩,
        .inl ⟨rfl, rfl, ?_⟩⟩
      · rw [NetCore.registerOrFree, ran]
        rfl
      · intro dev member
        rcases List.mem_append.mp member with old | new
        · exact .inl old
        · exact .inr ⟨w.next, address, Nat.le_refl _, rfl, List.mem_singleton.mp new⟩
      · exact List.length_append
  | some error =>
      have negative := KernelCall.ret_some_neg error
      refine ⟨KernelCall.ret (some error), w.allocNetdev.freeNetdev w.next, ?_, owned.freed,
        ⟨Nat.le_succ _, fun dev member => .inl member⟩, .inr ⟨?_, negative, rfl⟩⟩
      · rw [NetCore.registerOrFree, lawful.refused]
        exact if_pos negative
      · intro same
        contradiction

/-- The two calls for a device succeed. -/
def OneCalls.Succeed (calls : OneCalls) : Prop :=
  calls.allocNetdev = none ∧ calls.registerNetdevice = none

theorem Owned.initOne (lawful : core.Lawful) (owned : Owned loaded w) (calls : OneCalls)
    : ∃ err after,
        dummyInitOne core calls w = (err, after)
        ∧ Owned loaded after
        ∧ Grows (· = calls.ethHwAddrRandom) w after
        ∧ (calls.Succeed ∧ err = 0 ∧ after.devices.length = w.devices.length + 1
          ∨ ¬calls.Succeed ∧ err < 0 ∧ after.devices = w.devices) := by
  rcases alloc : calls.allocNetdev with _ | error
  · obtain ⟨err, after, ran, kept, grown, ends⟩ :=
      owned.register_cases lawful calls.registerNetdevice calls.ethHwAddrRandom
    refine ⟨err, after, ?_, kept, grown, ?_⟩
    · rw [dummyInitOne, alloc]
      exact ran
    · rw [OneCalls.Succeed, alloc]
      simpa using ends
  · refine ⟨-enomem, w, ?_, owned, .refl _ w, .inr ⟨?_, by decide, rfl⟩⟩
    · rw [dummyInitOne, alloc]
      rfl
    · rw [OneCalls.Succeed, alloc]
      simp

/-- The state of the loop after some rounds. -/
structure Created (calls : InitCalls) (rounds : Nat) (w : World cpus) (err : Int)
    (after : World cpus) : Prop where
  owned : Owned True after
  grown : Grows IsAddress w after
  result : err = 0 ∧ after.devices.length = w.devices.length + rounds ∨ err < 0
  succeed : err = 0 ↔ ∀ i < rounds, (calls.one i).Succeed

theorem Owned.initDevices (lawful : core.Lawful) (owned : Owned True w) {calls : InitCalls}
    (random : ∀ i, IsAddress (calls.one i).ethHwAddrRandom) (rounds : Nat)
    : ∃ err after,
        (List.range rounds).foldl
            (fun (err, w) i => if err = 0 then dummyInitOne core (calls.one i) w else (err, w))
            (0, w)
          = (err, after)
        ∧ Created calls rounds w err after := by
  induction rounds with
  | zero =>
      exact ⟨0, w, rfl, owned, .refl _ w, .inl ⟨rfl, rfl⟩, by simp⟩
  | succ rounds ih =>
      obtain ⟨err, reached, ran, created⟩ := ih
      rw [List.range_succ, List.foldl_append, ran, List.foldl_cons, List.foldl_nil]
      dsimp only
      rcases created.result with ⟨rfl, many⟩ | failed
      · have earlier := created.succeed.mp rfl
        obtain ⟨err, after, one, kept, grown, ends⟩ :=
          created.owned.initOne lawful (calls.one rounds)
        refine ⟨err, after, by rw [if_pos rfl, one], kept, created.grown.trans ?_, ?_, ?_⟩
        · refine ⟨grown.next, fun dev member => ?_⟩
          rcases grown.devices dev member with old | ⟨index, address, later, rfl, same⟩
          · exact .inl old
          · exact .inr ⟨index, _, later, random rounds, same⟩
        · rcases ends with ⟨_, zero, more⟩ | ⟨_, negative, _⟩
          · exact .inl ⟨zero, by omega⟩
          · exact .inr negative
        · rw [Nat.forall_lt_succ_right]
          rcases ends with ⟨succeeds, zero, _⟩ | ⟨fails, negative, _⟩
          · exact iff_of_true zero ⟨earlier, succeeds⟩
          · exact iff_of_false negative.ne fun all => fails all.2
      · have broken : ¬∀ i < rounds, (calls.one i).Succeed :=
          created.succeed.not.mp failed.ne
        refine ⟨err, reached, by rw [if_neg failed.ne], created.owned, created.grown,
          .inr failed, iff_of_false failed.ne fun all => broken ?_⟩
        exact fun i before => all i (before.trans (Nat.lt_succ_self _))

def InitCalls.AllSucceed (calls : InitCalls) : Prop :=
  calls.rtnlLinkRegister = none ∧ ∀ i < calls.rounds, (calls.one i).Succeed

/-- A load attempt ends with all its devices or with nothing. -/
theorem Owned.initModule (lawful : core.Lawful) (owned : Owned False w)
    (none : w.devices = []) {calls : InitCalls}
    (random : ∀ i, IsAddress (calls.one i).ethHwAddrRandom)
    : ∃ err after,
        dummyInitModule core calls w = (err, after)
        ∧ Grows IsAddress w after
        ∧ (calls.AllSucceed
            ∧ err = 0
            ∧ Owned True after
            ∧ after.devices.length = calls.rounds
          ∨ ¬calls.AllSucceed ∧ err < 0 ∧ Owned False after ∧ after.devices = []) := by
  rcases registered : calls.rtnlLinkRegister with _ | error
  · obtain ⟨err, after, ran, created⟩ :=
      owned.linkOps_acquired.initDevices lawful random calls.rounds
    have loop : dummyInitDevices core calls (w.post (.acquire .linkOps)) = (err, after) := ran
    have grown : Grows IsAddress w after :=
      ⟨created.grown.next, created.grown.devices⟩
    rw [dummyInitModule, registered]
    simp only [KernelCall.ret_none, lt_irrefl, if_false, loop]
    rcases created.result with ⟨rfl, many⟩ | failed
    · refine ⟨0, after, by simp, grown, .inl ⟨⟨registered, created.succeed.mp rfl⟩, rfl,
        created.owned, many.trans ?_⟩⟩
      rw [World.post, none, List.length_nil, Nat.zero_add]
    · obtain ⟨released, empty, next⟩ := created.owned.linkUnregistered lawful
      refine ⟨err, _, by rw [if_pos failed], ⟨?_, ?_⟩, .inr ⟨?_, failed, released, empty⟩⟩
      · exact created.grown.next.trans next.ge
      · rw [empty]
        exact fun dev member => absurd member List.not_mem_nil
      · exact fun all => failed.ne (created.succeed.mpr all.2)
  · have negative := KernelCall.ret_some_neg error
    refine ⟨KernelCall.ret (some error), w, ?_, .refl _ w, .inr ⟨?_, negative, owned, none⟩⟩
    · rw [dummyInitModule, registered, if_pos negative]
    · rw [InitCalls.AllSucceed, registered]
      simp

/-- A request with an address that a device may have, or without one, passes. -/
theorem dummyValidate_eq_zero (lawful : core.Lawful) {tbAddress : Option (List UInt8)}
    : dummyValidate core tbAddress = 0
      ↔ ∀ address, tbAddress = some address → IsAddress address := by
  cases tbAddress with
  | none => simp [dummyValidate]
  | some address =>
      have known : IsAddress address
          ↔ address.length = ethAlen ∧ core.isValidEtherAddr address = true := by
        rw [lawful.valid]
        exact ⟨fun valid => ⟨valid.length, valid.unicast, valid.nonzero⟩,
          fun valid => ⟨valid.1, valid.2.1, valid.2.2⟩⟩
      by_cases length : address.length = ethAlen
      · by_cases valid : core.isValidEtherAddr address = true
        · simp [dummyValidate, known, length, valid]
        · simp [dummyValidate, known, length, valid, eaddrnotavail]
      · simp [dummyValidate, known, length, einval]

/-- A request for a link ends with one more device or with the same ones. -/
theorem Owned.newlink (lawful : core.Lawful) (owned : Owned loaded w) {calls : OneCalls}
    (random : IsAddress calls.ethHwAddrRandom) (tbAddress : Option (List UInt8))
    : ∃ err after,
        core.rtnlNewlink .dummyLinkOps calls tbAddress w = (err, after)
        ∧ Owned loaded after
        ∧ Grows IsAddress w after
        ∧ (dummyValidate core tbAddress = 0
            ∧ calls.Succeed
            ∧ err = 0
            ∧ after.devices.length = w.devices.length + 1
          ∨ err ≠ 0 ∧ after.devices = w.devices) := by
  rw [lawful.newlink]
  change ∃ err after, (if dummyValidate core tbAddress ≠ 0 then _ else _) = _ ∧ _
  by_cases valid : dummyValidate core tbAddress = 0
  · rw [if_neg (not_not.mpr valid)]
    rcases alloc : calls.allocNetdev with _ | error
    · obtain ⟨err, after, ran, kept, grown, ends⟩ := owned.register_cases lawful
        calls.registerNetdevice (tbAddress.getD calls.ethHwAddrRandom)
      refine ⟨err, after, ran, kept, ⟨grown.next, fun dev member => ?_⟩, ?_⟩
      · rcases grown.devices dev member with old | ⟨index, address, later, rfl, same⟩
        · exact .inl old
        · refine .inr ⟨index, _, later, ?_, same⟩
          cases tbAddress with
          | none => exact random
          | some address => exact (dummyValidate_eq_zero lawful).mp valid address rfl
      · rcases ends with ⟨registered, zero, more⟩ | ⟨_, negative, same⟩
        · exact .inl ⟨valid, ⟨alloc, registered⟩, zero, more⟩
        · exact .inr ⟨negative.ne, same⟩
    · exact ⟨-enomem, w, rfl, owned, .refl _ w, .inr ⟨by decide, rfl⟩⟩
  · rw [if_pos valid]
    exact ⟨dummyValidate core tbAddress, w, rfl, owned, .refl _ w, .inr ⟨valid, rfl⟩⟩

-----------------------------------------------------------------------------------------
-- Changes in place
-----------------------------------------------------------------------------------------

/-- A change of a prepared device keeps its number and what the module has filled in. -/
def Preserves (change : NetDevice cpus → NetDevice cpus) : Prop :=
  ∀ dev, dev.Prepared → (change dev).index = dev.index ∧ (change dev).Prepared

theorem Owned.update_indices (owned : Owned loaded w) (index : Nat)
    {change : NetDevice cpus → NetDevice cpus} (preserves : Preserves change)
    : (w.update index change).indices = w.indices := by
  rw [World.indices, World.update, List.map_map]
  apply List.map_congr_left
  intro dev member
  dsimp only [Function.comp]
  split
  · exact (preserves dev (owned.prepared dev member)).1
  · rfl

theorem Owned.update (owned : Owned loaded w) (index : Nat)
    {change : NetDevice cpus → NetDevice cpus} (preserves : Preserves change)
    : Owned loaded (w.update index change) := by
  have indices := owned.update_indices index preserves
  have prepared : ∀ dev ∈ (w.update index change).devices, dev.Prepared := by
    intro dev member
    obtain ⟨old, listed, rfl⟩ := List.mem_map.mp member
    split
    · exact (preserves old (owned.prepared old listed)).2
    · exact owned.prepared old listed
  exact {
    distinct := indices ▸ owned.distinct
    fresh := indices ▸ owned.fresh
    prepared
    linkOps := owned.linkOps
    netdev := indices ▸ owned.netdev
    registration := indices ▸ owned.registration
    faultless := owned.faultless
  }

end DummyDrivers.Net
