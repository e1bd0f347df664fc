/-
The list of bonded devices in the application and how a device leaves it: by an unpair
request, by an authentication failure or by a reset of the whole list.
-/

import Hfirmware.Bluetooth.BondPersistence

namespace Hfirmware.Bluetooth

open List Option GuardedRun NorFlash ByteImage Config

abbrev BdAddr := Fin 6 → UInt8

structure DeviceNode where
  address : Nat
  device : AppDevInst

structure NodeMemory where
  allocated : Nat → Bool
  staleReads : Nat

def NodeMemory.read (memory : NodeMemory) (address : Nat) : NodeMemory :=
  if memory.allocated address then memory
  else { memory with staleReads := memory.staleReads + 1 }

def NodeMemory.alloc (memory : NodeMemory) (address : Nat) : NodeMemory :=
  { memory with allocated := fun other => other = address || memory.allocated other }

def NodeMemory.free (memory : NodeMemory) (address : Nat) : NodeMemory :=
  { memory with allocated := fun other => other ≠ address && memory.allocated other }

structure Bonding where
  store : Store
  devices : List DeviceNode
  memory : NodeMemory
  forgotten : BdAddr → Bool

def Bonding.list (bonding : Bonding) : List AppDevInst := bonding.devices.map DeviceNode.device

def hasAddress (bd : BdAddr) (node : DeviceNode) : Bool := node.device.bd = bd

def appFindBondedDevice (bonding : Bonding) (bd : BdAddr) : Option DeviceNode :=
  bonding.devices.find? (hasAddress bd)

def Bonding.storeBonded (board : BondBoard) (bonding : Bonding) : Bonding :=
  { bonding with
    store := (appStoreBondedDevice board.para board.index bonding.store bonding.list).getD
      bonding.store }

/-- `App_DeleteBondedDevice`: the address is read from the node, which is then
taken out of the list and freed. -/
def appDeleteBondedDevice (bonding : Bonding) (inst : DeviceNode) : Bonding :=
  { bonding with
    devices := bonding.devices.eraseP fun node => node.address = inst.address
    memory := (bonding.memory.read inst.address).free inst.address }

/-- The loop of `APP_PairResetList` over the chain of nodes. The link to the next node is read from
the node that has just been deleted; `keepsLink` says whether `List_RemoveAt` and `FREE`, of which
there are only the prototypes, leave it there or clear it. -/
def pairResetLoop (keepsLink : Nat → Bool) : List DeviceNode → Bonding → Bonding
  | [], bonding => bonding
  | inst :: rest, bonding =>
    let deleted := appDeleteBondedDevice bonding inst
    let read := { deleted with memory := deleted.memory.read inst.address }
    if keepsLink inst.address then pairResetLoop keepsLink rest read else read

def appPairResetList (board : BondBoard) (keepsLink : Nat → Bool) (bonding : Bonding) : Bonding :=
  let cleared := pairResetLoop keepsLink bonding.devices bonding
  { cleared with
    store := (appCfgClearPairInfo board.para board.index cleared.store).getD cleared.store
    forgotten := fun _ => true }

def forgetDevice (board : BondBoard) (bonding : Bonding) (device : DeviceNode) : Bonding :=
  { (appDeleteBondedDevice bonding device).storeBonded board with
    forgotten := fun bd => bd = device.device.bd || bonding.forgotten bd }

def appGapFsmUnpairDevice (board : BondBoard) (bonding : Bonding) (bd : BdAddr) : Bonding :=
  match appFindBondedDevice bonding bd with
  | some device => forgetDevice board bonding device
  | none => bonding

def hciStatusAuthenticationFailure : Nat := 0x05

def hciStatusPinOrKeyMissing : Nat := 0x06

def appGapFsmAuthenFailure (board : BondBoard) (bonding : Bonding) (bd : BdAddr) (error : Nat) :
    Bonding :=
  match appFindBondedDevice bonding bd with
  | some device =>
    if error = hciStatusPinOrKeyMissing ∨ error = hciStatusAuthenticationFailure then
      forgetDevice board bonding device
    else bonding
  | none => bonding

/-- The reply of `App_Gap_FsmLinkKeyReqInd` outside test mode; `none` stands for
`accept = 0`. -/
def appGapFsmLinkKeyReqInd (bonding : Bonding) (bd : BdAddr) : Option ((Fin 16 → UInt8) × UInt8) :=
  (appFindBondedDevice bonding bd).map fun node => (node.device.link_key, node.device.key_type)

def renewKey (bd : BdAddr) (link_key : Fin 16 → UInt8) (key_type : UInt8) :
    List DeviceNode → List DeviceNode
  | [] => []
  | node :: rest =>
    if hasAddress bd node then
      { node with device := { node.device with link_key, key_type } } ::
        rest
    else node :: renewKey bd link_key key_type rest

/-- `App_Gap_FsmLinkKeyCreated`; `address` is the node that `List_NodeNew`
returns for a new device. -/
def appGapFsmLinkKeyCreated (board : BondBoard) (bonding : Bonding) (bd : BdAddr)
    (link_key : Fin 16 → UInt8) (key_type : UInt8) (address : Nat) : Bonding :=
  let paired : BdAddr → Bool := fun other => other ≠ bd && bonding.forgotten other
  match appFindBondedDevice bonding bd with
  | some _ =>
    { bonding with
      devices := renewKey bd link_key key_type bonding.devices
      forgotten := paired }.storeBonded board
  | none =>
    { bonding with
      devices := ⟨address, ⟨bd, link_key, key_type⟩⟩ :: bonding.devices
      memory := bonding.memory.alloc address
      forgotten := paired }.storeBonded board

def hscMoveBondeDevice (board : BondBoard) (bonding : Bonding) (bd : BdAddr) : Bonding :=
  match bonding.devices with
  | [] => bonding
  | head :: _ =>
    if hasAddress bd head then bonding
    else
      match appFindBondedDevice bonding bd with
      | some node =>
        { bonding with
          devices := node :: bonding.devices.eraseP fun other =>
            other.address = node.address }.storeBonded board
      | none => bonding

inductive BondingEvent where
  | linkKeyCreated (bd : BdAddr) (link_key : Fin 16 → UInt8) (key_type : UInt8) (address : Nat)
  | connected (bd : BdAddr)
  | unpair (bd : BdAddr)
  | authenFailure (bd : BdAddr) (error : Nat)
  | pairReset (keepsLink : Nat → Bool)
  | linkKeyReq (bd : BdAddr)
  | disconnect
  | flush (type : FlushType)
  | boot (addresses : Nat → Nat)

def loadedNodes (addresses : Nat → Nat) : Nat → List AppDevInst → List DeviceNode
  | _, [] => []
  | index, device :: rest => ⟨addresses index, device⟩ :: loadedNodes addresses (index + 1) rest

def Bonding.step (board : BondBoard) (bonding : Bonding) : BondingEvent → Bonding
  | .linkKeyCreated bd link_key key_type address =>
    appGapFsmLinkKeyCreated board bonding bd link_key key_type address
  | .connected bd => hscMoveBondeDevice board bonding bd
  | .unpair bd => appGapFsmUnpairDevice board bonding bd
  | .authenFailure bd error => appGapFsmAuthenFailure board bonding bd error
  | .pairReset keepsLink => appPairResetList board keepsLink bonding
  | .linkKeyReq _ => bonding
  | .disconnect =>
    { bonding with
      store := (hscHandleBackUpLinkKey board.para board.index bonding.store).getD bonding.store }
  | .flush type => { bonding with store := (hsCfgFlush board.para type bonding.store).2 }
  | .boot addresses =>
    match appFsmInitPairInfo board.para board.index (hsCfgInit board.para bonding.store) with
    | some (after, loaded) =>
      { bonding with
        store := after
        devices := loadedNodes addresses 0 loaded
        memory := { bonding.memory with
          allocated := fun address =>
            (loadedNodes addresses 0 loaded).any fun node => node.address = address } }
    | none => bonding

/-- What forgetting promises: no link key for a forgotten device, and a reset that empties
the list. -/
def Forgets (board : BondBoard) (bonding : Bonding) : BondingEvent → Prop
  | .linkKeyReq bd => bonding.forgotten bd = true → appGapFsmLinkKeyReqInd bonding bd = none
  | .pairReset keepsLink =>
    (appPairResetList board keepsLink bonding).devices = [] ∧
      ((appPairResetList board keepsLink bonding).memory.staleReads = bonding.memory.staleReads ↔
        bonding.devices = [])
  | _ => True

def BackUpErased (bonding : Bonding) : Prop :=
  ∀ k : Fin 139, bonding.store.flash (backUpFlash + k) = blank

/-- The link of a node survives its deletion. -/
def KeepsLinks (bonding : Bonding) (keepsLink : Nat → Bool) : Prop :=
  ∀ node ∈ bonding.devices, keepsLink node.address = true

/-- The list is stored over an erased backup and reset while none is pending, and when
power is lost a backup is pending or the item has reached the flash. -/
def Lasting (board : BondBoard) (bonding : Bonding) : BondingEvent → Prop
  | .linkKeyCreated bd link_key key_type address =>
    BackUpErased bonding ∧ AppDevInst.valid ⟨bd, link_key, key_type⟩ = true ∧
      bonding.memory.allocated address = false
  | .connected bd =>
    -- The device at the head of the list stays there, and nothing is stored.
    bonding.devices.head?.any (hasAddress bd) = false →
      (appFindBondedDevice bonding bd).isSome → BackUpErased bonding
  | .unpair bd => (appFindBondedDevice bonding bd).isSome → BackUpErased bonding
  | .authenFailure bd error =>
    error = hciStatusPinOrKeyMissing ∨ error = hciStatusAuthenticationFailure →
      (appFindBondedDevice bonding bd).isSome → BackUpErased bonding
  | .pairReset keepsLink =>
    bonding.store.flash backUpFlash ≠ 0x01 ∧ KeepsLinks bonding keepsLink
  | .linkKeyReq _ => True
  | .disconnect => True
  | .flush _ => True
  | .boot addresses =>
    (bonding.store.flash backUpFlash = 0x01 ∨
      board.savedPart bonding.store 1 138 = board.livePart bonding.store 1 138) ∧
      Function.Injective addresses

/-- The list in order: addresses distinct and accepted by the loader, no
forgotten device in it, and every node in a block of its own. -/
structure Listed (bonding : Bonding) : Prop where
  valid : ∀ node ∈ bonding.devices, node.device.valid = true
  distinct : (bonding.devices.map fun node => node.device.bd).Nodup
  absent : ∀ node ∈ bonding.devices, bonding.forgotten node.device.bd = false
  owned : ∀ node ∈ bonding.devices, bonding.memory.allocated node.address = true
  apart : (bonding.devices.map DeviceNode.address).Nodup

theorem AppDevInst.valid_of_bd {left right : AppDevInst} (same : left.bd = right.bd) :
    left.valid = right.valid := by
  have sums : byteSum left.bytes 0 6 = byteSum right.bytes 0 6 := by
    apply byteSum_congr
    intro _ below
    simp only [bytes, zero_add, dif_pos below, same]
  simp only [valid, sums]

variable {bonding : Bonding} {bd : BdAddr} {device : DeviceNode} {addresses : Nat → Nat}

section

theorem Listed.found (found : appFindBondedDevice bonding bd = some device) :
    device ∈ bonding.devices ∧ device.device.bd = bd := by
  refine ⟨List.mem_of_find?_eq_some found, ?_⟩
  have has := find?_some found
  simpa [hasAddress] using has

theorem Listed.of_empty (empty : bonding.devices = []) : Listed bonding := by
  constructor <;> simp [empty]

theorem Listed.not_answered (listed : Listed bonding)
    (forgotten : bonding.forgotten bd) : appGapFsmLinkKeyReqInd bonding bd = none := by
  unfold appGapFsmLinkKeyReqInd
  cases found : appFindBondedDevice bonding bd with
  | none => rfl
  | some device =>
    obtain ⟨member, same⟩ := Listed.found found
    have absent := listed.absent device member
    rw [same, forgotten] at absent
    cases absent

variable {devices : List DeviceNode}

section

variable (listed : Listed bonding)
include listed

theorem Listed.perm (perm : devices.Perm bonding.devices) : Listed { bonding with devices } := by
  refine ⟨?_, ?_, ?_, ?_, ?_⟩
  · intro node member
    exact listed.valid node (perm.subset member)
  · exact (perm.map _).nodup_iff.mpr listed.distinct
  · intro node member
    exact listed.absent node (perm.subset member)
  · intro node member
    exact listed.owned node (perm.subset member)
  · exact (perm.map _).nodup_iff.mpr listed.apart

theorem Listed.move_perm {node : DeviceNode} (member : node ∈ bonding.devices) :
    (node :: bonding.devices.eraseP fun other => other.address = node.address).Perm
      bonding.devices := by
  obtain ⟨first, _, _, _, same, whole, erased⟩ :=
    @exists_of_eraseP _ (fun other : DeviceNode => other.address = node.address) _ node member
      (by simp)
  have inside : first ∈ bonding.devices := by
    rw [whole]
    exact mem_append_right _ (.head _)
  obtain rfl : first = node :=
    inj_on_of_nodup_map listed.apart inside member (by simpa using same)
  rw [erased, whole]
  exact perm_middle.symm

theorem Listed.delete (member : device ∈ bonding.devices) :
    Listed { appDeleteBondedDevice bonding device with
      forgotten := fun bd => bd = device.device.bd || bonding.forgotten bd } := by
  have front := listed.perm (listed.move_perm member)
  obtain ⟨newBd, distinct⟩ := nodup_cons.mp front.distinct
  obtain ⟨newAddress, apart⟩ := nodup_cons.mp front.apart
  refine ⟨fun node inside => ?_, distinct, fun node inside => ?_, fun node inside => ?_, apart⟩
  · exact front.valid node (.tail _ inside)
  · have other : node.device.bd ≠ device.device.bd := fun same =>
      newBd (List.mem_map.mpr ⟨node, inside, same⟩)
    simp only [other, decide_false, Bool.false_or]
    exact front.absent node (.tail _ inside)
  · have other : node.address ≠ device.address := fun same =>
      newAddress (List.mem_map.mpr ⟨node, inside, same⟩)
    simp only [appDeleteBondedDevice, NodeMemory.read, listed.owned device member, if_true,
      NodeMemory.free, ne_eq, other, not_false_eq_true, decide_true, Bool.true_and]
    exact front.owned node (.tail _ inside)

end

theorem renewKey_keeps (bd : BdAddr) (link_key : Fin 16 → UInt8) (key_type : UInt8)
    (devices : List DeviceNode) :
    (renewKey bd link_key key_type devices).map (fun node => (node.address, node.device.bd)) =
      devices.map fun node => (node.address, node.device.bd) := by
  induction devices with
  | nil => rfl
  | cons _ _ ih =>
    rw [renewKey]
    split
    · rfl
    · rw [map_cons, map_cons, ih]

theorem Listed.of_same_addresses (listed : Listed bonding)
    {forgotten : BdAddr → Bool} (same : devices.map (fun node => (node.address, node.device.bd)) =
      bonding.devices.map fun node => (node.address, node.device.bd))
    (fewer : ∀ bd, bonding.forgotten bd = false → forgotten bd = false) :
    Listed { bonding with devices, forgotten } := by
  have addresses := congrArg (List.map Prod.fst) same
  have bds := congrArg (List.map Prod.snd) same
  simp only [List.map_map, Function.comp_def] at addresses bds
  have before {node : DeviceNode} (member : node ∈ devices) :
      ∃ old ∈ bonding.devices, old.address = node.address ∧ old.device.bd = node.device.bd := by
    have pair := List.mem_map_of_mem (f := fun node : DeviceNode =>
      (node.address, node.device.bd)) member
    rw [same] at pair
    obtain ⟨old, inside, equal⟩ := List.mem_map.mp pair
    exact ⟨old, inside, (Prod.mk.inj equal).1, (Prod.mk.inj equal).2⟩
  refine ⟨?_, ?_, ?_, ?_, ?_⟩
  · intro node member
    obtain ⟨old, inside, _, bd⟩ := before member
    rw [← AppDevInst.valid_of_bd bd]
    exact listed.valid old inside
  · exact bds ▸ listed.distinct
  · intro node member
    obtain ⟨old, inside, _, bd⟩ := before member
    rw [← bd]
    exact fewer _ (listed.absent old inside)
  · intro node member
    obtain ⟨old, inside, address, _⟩ := before member
    rw [← address]
    exact listed.owned old inside
  · exact addresses ▸ listed.apart

theorem Listed.add (listed : Listed bonding) {device : AppDevInst} {address : Nat}
    (valid : device.valid) (new : appFindBondedDevice bonding device.bd = none)
    (free : bonding.memory.allocated address = false) :
    Listed { bonding with
      devices := ⟨address, device⟩ :: bonding.devices
      memory := bonding.memory.alloc address
      forgotten := fun other => other ≠ device.bd && bonding.forgotten other } := by
  have others {node : DeviceNode} (member : node ∈ bonding.devices) :
      node.device.bd ≠ device.bd := by
    have differs := find?_eq_none.mp new node member
    simpa [hasAddress] using differs
  refine ⟨?_, ?_, ?_, ?_, ?_⟩
  · exact forall_mem_cons.mpr ⟨valid, listed.valid⟩
  · refine nodup_cons.mpr ⟨?_, listed.distinct⟩
    intro member
    obtain ⟨node, inside, same⟩ := List.mem_map.mp member
    exact others inside same
  · intro node member
    rcases mem_cons.mp member with rfl | old
    · simp
    · simp [listed.absent node old]
  · intro node member
    rcases mem_cons.mp member with rfl | old
    · simp [NodeMemory.alloc]
    · simp [NodeMemory.alloc, listed.owned node old]
  · refine nodup_cons.mpr ⟨?_, listed.apart⟩
    intro member
    obtain ⟨node, inside, same⟩ := List.mem_map.mp member
    have allocated := listed.owned node inside
    rw [same, free] at allocated
    cases allocated

theorem pairResetLoop_spec (nodes : List DeviceNode) (bonding : Bonding)
    (all : bonding.devices = nodes) (apart : (nodes.map DeviceNode.address).Nodup)
    (owned : ∀ node ∈ nodes, bonding.memory.allocated node.address) {keepsLink : Nat → Bool}
    (keeps : ∀ node ∈ nodes, keepsLink node.address = true) :
    let reset := pairResetLoop keepsLink nodes bonding
    reset.devices = [] ∧ reset.memory.staleReads = bonding.memory.staleReads + nodes.length ∧
      reset.store = bonding.store := by
  induction nodes generalizing bonding with
  | nil => exact ⟨all, rfl, rfl⟩
  | cons inst rest ih =>
    obtain ⟨fresh, restApart⟩ := nodup_cons.mp apart
    have allocated := owned inst (.head _)
    have memory : (appDeleteBondedDevice bonding inst).memory.read inst.address =
        { (bonding.memory.free inst.address) with
          staleReads := bonding.memory.staleReads + 1 } := by
      simp [appDeleteBondedDevice, NodeMemory.read, allocated, NodeMemory.free]
    have alive : ∀ node ∈ rest, (bonding.memory.free inst.address).allocated node.address := by
      intro node member
      have other : node.address ≠ inst.address := fun same =>
        fresh (same ▸ List.mem_map_of_mem member)
      simp [NodeMemory.free, other, owned node (mem_cons_of_mem inst member)]
    dsimp only at ih ⊢
    rw [pairResetLoop, if_pos (keeps inst (.head _)), memory]
    obtain ⟨empty, stale, store⟩ := ih { appDeleteBondedDevice bonding inst with
        memory := { (bonding.memory.free inst.address) with
          staleReads := bonding.memory.staleReads + 1 } }
      (by simp [appDeleteBondedDevice, all]) restApart alive
      fun node member => keeps node (.tail _ member)
    rw [stale, length_cons, add_assoc, add_comm 1]
    exact ⟨empty, rfl, store⟩

theorem loadedNodes_device (addresses : Nat → Nat) (index : Nat) (loaded : List AppDevInst) :
    (loadedNodes addresses index loaded).map DeviceNode.device = loaded := by
  induction loaded generalizing index with
  | nil => rfl
  | cons _ _ ih => rw [loadedNodes, map_cons, ih]

theorem loadedNodes_addresses (injective : Function.Injective addresses)
    (index : Nat) (loaded : List AppDevInst) :
    ((loadedNodes addresses index loaded).map DeviceNode.address).Nodup ∧
      ∀ node ∈ loadedNodes addresses index loaded, ∃ place, index ≤ place ∧
        node.address = addresses place := by
  induction loaded generalizing index with
  | nil => exact ⟨.nil, fun node member => by cases member⟩
  | cons _ _ ih =>
    obtain ⟨nodup, placed⟩ := ih (index + 1)
    refine ⟨nodup_cons.mpr ⟨?_, nodup⟩, ?_⟩
    · intro member
      obtain ⟨node, inside, same⟩ := List.mem_map.mp member
      obtain ⟨place, later, at_⟩ := placed node inside
      have equal := injective (same.symm.trans at_)
      omega
    · intro node member
      rcases mem_cons.mp member with rfl | old
      · exact ⟨index, .refl, rfl⟩
      · obtain ⟨place, later, at_⟩ := placed node old
        exact ⟨place, by omega, at_⟩

end

structure Remembering (board : BondBoard) (bonding : Bonding) : Prop where
  listed : Listed bonding
  copies : ∃ copies, Represents board bonding.store copies ∧ Holding copies bonding.list

section

variable {board : BondBoard} {copies : Copies}

theorem Listed.first_six (listed : Listed bonding) :
    ∀ inst ∈ bonding.list.take bondedDeviceMaxCount, inst.valid := by
  intro inst member
  obtain ⟨node, inside, rfl⟩ := List.mem_map.mp (mem_of_mem_take member)
  exact listed.valid node inside

theorem Listed.stored (listed : Listed bonding) (represents : Represents board bonding.store copies)
    (erased : BackUpErased bonding) : Remembering board (bonding.storeBonded board) := by
  obtain ⟨_, ran, holds⟩ := represents.put bonding.list
  have blankBackup : copies.backup = erasedBackup := by
    funext k
    rw [← represents.backup k]
    exact erased k
  refine ⟨{ listed with }, copies.put bonding.list, ?_, Holding.put blankBackup listed.first_six⟩
  simp only [Bonding.storeBonded, ran]
  exact holds

section

variable (remembering : Remembering board bonding)
include remembering

theorem Remembering.forget (member : device ∈ bonding.devices)
    (erased : BackUpErased bonding) : Remembering board (forgetDevice board bonding device) := by
  obtain ⟨_, represents, _⟩ := remembering.copies
  have deleted := remembering.listed.delete member
  exact deleted.stored represents erased

theorem Remembering.unpair
    (erased : (appFindBondedDevice bonding bd).isSome → BackUpErased bonding) :
    Remembering board (appGapFsmUnpairDevice board bonding bd) := by
  unfold appGapFsmUnpairDevice
  cases found : appFindBondedDevice bonding bd with
  | none => exact remembering
  | some =>
    exact remembering.forget (Listed.found found).1 (erased (by rw [found]; rfl))

theorem Remembering.authenFailure {error : Nat}
    (erased : error = hciStatusPinOrKeyMissing ∨ error = hciStatusAuthenticationFailure →
      (appFindBondedDevice bonding bd).isSome → BackUpErased bonding) :
    Remembering board (appGapFsmAuthenFailure board bonding bd error) := by
  unfold appGapFsmAuthenFailure
  cases found : appFindBondedDevice bonding bd with
  | none => exact remembering
  | some =>
    dsimp only
    split
    · rename_i refused
      exact remembering.forget (Listed.found found).1 (erased refused (by rw [found]; rfl))
    · exact remembering

theorem Remembering.move (erased : bonding.devices.head?.any (hasAddress bd) = false →
      (appFindBondedDevice bonding bd).isSome → BackUpErased bonding) :
    Remembering board (hscMoveBondeDevice board bonding bd) := by
  unfold hscMoveBondeDevice
  split
  · exact remembering
  · rename_i head _ devices
    split
    · exact remembering
    · rename_i behind
      cases found : appFindBondedDevice bonding bd with
      | none => exact remembering
      | some =>
        obtain ⟨_, represents, _⟩ := remembering.copies
        have moved := remembering.listed.perm (remembering.listed.move_perm (Listed.found found).1)
        have other : bonding.devices.head?.any (hasAddress bd) = false := by
          rw [devices]
          exact Bool.eq_false_iff.mpr behind
        exact moved.stored represents (erased other (by rw [found]; rfl))

theorem Remembering.linkKeyCreated {link_key : Fin 16 → UInt8} {key_type : UInt8}
    {address : Nat} (erased : BackUpErased bonding)
    (valid : AppDevInst.valid ⟨bd, link_key, key_type⟩ = true)
    (free : bonding.memory.allocated address = false) :
    Remembering board (appGapFsmLinkKeyCreated board bonding bd link_key key_type address) := by
  obtain ⟨_, represents, _⟩ := remembering.copies
  unfold appGapFsmLinkKeyCreated
  cases found : appFindBondedDevice bonding bd with
  | none =>
    have added := remembering.listed.add valid found free
    exact added.stored represents erased
  | some =>
    have renewed := remembering.listed.of_same_addresses
      (renewKey_keeps bd link_key key_type bonding.devices)
      (fun other absent => show (other ≠ bd && bonding.forgotten other) = false by simp [absent])
    exact renewed.stored represents erased

theorem Remembering.reset (plain : bonding.store.flash backUpFlash ≠ 0x01)
    {keepsLink : Nat → Bool} (keeps : KeepsLinks bonding keepsLink) :
    Remembering board (appPairResetList board keepsLink bonding) := by
  obtain ⟨copies, represents, _⟩ := remembering.copies
  obtain ⟨empty, _, store⟩ := pairResetLoop_spec bonding.devices bonding rfl
    remembering.listed.apart remembering.listed.owned keeps
  obtain ⟨_, ran, holds⟩ := represents.clear
  have devices : (appPairResetList board keepsLink bonding).devices = [] := empty
  refine ⟨Listed.of_empty devices, copies.clear, ?_, ?_⟩
  · simp only [appPairResetList, store, ran, getD_some]
    exact holds
  · unfold Bonding.list
    rw [devices, map_nil]
    refine ⟨rfl, fun pending => ?_, nofun⟩
    exact absurd ((represents.backup 0).trans pending) plain

theorem Remembering.boot (secured : bonding.store.flash backUpFlash = 0x01 ∨
      board.savedPart bonding.store 1 138 = board.livePart bonding.store 1 138)
    (injective : Function.Injective addresses) :
    Remembering board (bonding.step board (.boot addresses)) := by
  obtain ⟨copies, represents, holding⟩ := remembering.copies
  obtain ⟨_, ran, holds⟩ := represents.boot
  have booted := holding.boot (represents.secured secured)
  rw [booted.load] at ran
  have listed := remembering.listed
  obtain ⟨nodup, _⟩ := loadedNodes_addresses injective 0 (bonding.list.take bondedDeviceMaxCount)
  have devices := loadedNodes_device addresses 0 (bonding.list.take bondedDeviceMaxCount)
  have bds : (loadedNodes addresses 0 (bonding.list.take bondedDeviceMaxCount)).map
      (fun node => node.device.bd) =
        (bonding.list.take bondedDeviceMaxCount).map AppDevInst.bd := by
    rw [← devices, List.map_map, devices]
    rfl
  have before {node : DeviceNode}
      (member : node ∈ loadedNodes addresses 0 (bonding.list.take bondedDeviceMaxCount)) :
      ∃ old ∈ bonding.devices, old.device = node.device := by
    have inside := List.mem_map_of_mem (f := DeviceNode.device) member
    rw [devices] at inside
    exact List.mem_map.mp (mem_of_mem_take inside)
  simp only [Bonding.step, ran]
  refine ⟨⟨?_, ?_, ?_, ?_, nodup⟩, copies.powerLoss.handle, holds, ?_⟩
  · intro node member
    obtain ⟨old, inside, same⟩ := before member
    rw [← same]
    exact listed.valid old inside
  · rw [bds, map_take]
    have whole : bonding.list.map AppDevInst.bd =
        bonding.devices.map fun node => node.device.bd := List.map_map
    rw [whole]
    exact listed.distinct.sublist (take_sublist _ _)
  · intro node member
    obtain ⟨old, inside, same⟩ := before member
    rw [← same]
    exact listed.absent old inside
  · intro node member
    exact List.any_eq_true.mpr ⟨node, member, by simp⟩
  · have six := booted.take_six
    rwa [← devices] at six

end

end

theorem Remembering.step (board : BondBoard) (bonding : Bonding) (event : BondingEvent)
    (remembering : Remembering board bonding) (lasting : Lasting board bonding event) :
    Remembering board (bonding.step board event) := by
  cases event with
  | linkKeyCreated =>
    obtain ⟨erased, valid, free⟩ := lasting
    exact remembering.linkKeyCreated erased valid free
  | connected => exact remembering.move lasting
  | unpair => exact remembering.unpair lasting
  | authenFailure => exact remembering.authenFailure lasting
  | pairReset => exact remembering.reset lasting.1 lasting.2
  | linkKeyReq => exact remembering
  | disconnect =>
    obtain ⟨listed, copies, represents, holding⟩ := remembering
    obtain ⟨_, ran, holds⟩ := represents.handle
    refine ⟨{ listed with }, copies.handle, ?_, holding.handle⟩
    simp only [Bonding.step, ran]
    exact holds
  | flush type =>
    obtain ⟨listed, copies, represents, holding⟩ := remembering
    exact ⟨{ listed with }, copies.flush, represents.flush type, holding.flush⟩
  | boot => exact remembering.boot lasting.1 lasting.2

theorem Remembering.forgets (board : BondBoard) (bonding : Bonding) (event : BondingEvent)
    (remembering : Remembering board bonding) (lasting : Lasting board bonding event) :
    Forgets board bonding event := by
  cases event with
  | linkKeyReq => exact remembering.listed.not_answered
  | pairReset keepsLink =>
    obtain ⟨empty, stale, _⟩ := pairResetLoop_spec bonding.devices bonding rfl
      remembering.listed.apart remembering.listed.owned lasting.2
    refine ⟨empty, ?_⟩
    have counted : (appPairResetList board keepsLink bonding).memory.staleReads =
        bonding.memory.staleReads + bonding.devices.length := stale
    rw [counted, ← length_eq_zero_iff]
    omega
  | _ => trivial

def Bonding.start (board : BondBoard) (heap : List Bool) (devices : List DeviceNode) : Bonding :=
  { store := poweredOn board.image heap
    devices := devices
    memory :=
      { allocated := fun address => devices.any fun node => node.address = address
        staleReads := 0 }
    forgotten := fun _ => false }

structure Bonded (board : BondBoard) (heap : List Bool) (devices : List DeviceNode) : Prop where
  item : board.livePart (poweredOn board.image heap) 1 138 =
    some (pairInfoOf (devices.map DeviceNode.device))
  valid : ∀ node ∈ devices, node.device.valid = true
  distinct : (devices.map fun node => node.device.bd).Nodup
  apart : (devices.map DeviceNode.address).Nodup

/-- In every lasting run a forgotten device gets no link key before it is paired
again, every reset empties the list, and a reset reads no freed node exactly if
the list was empty. -/
theorem forgetting_lasts (board : BondBoard) (heap : List Bool) (devices : List DeviceNode)
    (events : List BondingEvent) (succeed : ∀ outcome ∈ heap, outcome = true)
    (erased : ∀ k : Fin 139, board.image (backUpFlash + k) = blank)
    (bonded : Bonded board heap devices)
    (lasting : Along (Bonding.step board) (Lasting board) (Bonding.start board heap devices)
      events) :
    Along (Bonding.step board) (Forgets board) (Bonding.start board heap devices) events := by
  have initial : Remembering board (Bonding.start board heap devices) := by
    have listed : Listed (Bonding.start board heap devices) :=
      { valid := bonded.valid
        distinct := bonded.distinct
        absent := fun _ _ => rfl
        owned := fun node member => List.any_eq_true.mpr ⟨node, member, by simp⟩
        apart := bonded.apart }
    exact ⟨listed, board.startCopies heap, board.represents_start succeed erased,
      Holding.of_erased bonded.item rfl listed.first_six⟩
  exact along_of_invariant (Remembering.step board)
    (Remembering.forgets board) initial lasting

theorem bondBoard_bonded : Bonded bondBoard [] [] := by
  refine ⟨?_, (fun node member => by cases member), .nil, .nil⟩
  unfold Config.ItemBoard.livePart
  rw [itemPart_of_sum (by decide +kernel)]
  congr 1
  funext k
  revert k
  decide +kernel

def onePaired : Bonding :=
  Bonding.start bondBoard [] [] |>.step bondBoard (.linkKeyCreated (fun _ => 3) (fun _ => 3) 4 0)

theorem onePaired_represents :
    Represents bondBoard onePaired.store ((bondBoard.startCopies []).put [uniformDevice 3]) := by
  have start := @BondBoard.represents_start _ [] (by decide) bondBoard_erased
  obtain ⟨_, ran, holds⟩ := start.put [uniformDevice 3]
  have list (memory : NodeMemory) (forgotten : BdAddr → Bool) :
      Bonding.list ⟨poweredOn bondBoard.image [],
        ⟨0, ⟨fun _ => 3, fun _ => 3, 4⟩⟩ :: (Bonding.start bondBoard [] []).devices, memory,
        forgotten⟩ = [uniformDevice 3] := rfl
  simp only [BondRun.start] at ran
  simp only [onePaired, Bonding.step, appGapFsmLinkKeyCreated, Bonding.storeBonded, Bonding.start]
  simp only [Bonding.start] at list
  rwa [list, ran]

theorem onePaired_holding :
    Holding ((bondBoard.startCopies []).put [uniformDevice 3]) [uniformDevice 3] :=
  Holding.put rfl (by decide)

/-- A pairing, a connect, a disconnect and an unpair request that finds the backup erased. -/
theorem forgetting_lasts_unpair :
    Along (Bonding.step bondBoard) (Forgets bondBoard) (Bonding.start bondBoard [] [])
      [.linkKeyCreated (fun _ => 3) (fun _ => 3) 4 0, .connected (fun _ => 3), .disconnect,
        .unpair (fun _ => 3), .linkKeyReq (fun _ => 3)] := by
  apply forgetting_lasts bondBoard [] [] _ (by decide) bondBoard_erased bondBoard_bonded
  refine ⟨⟨bondBoard_erased, by decide, rfl⟩, nofun, trivial, ?_, trivial, trivial⟩
  intro _ k
  obtain ⟨handled, ran, holds⟩ := onePaired_represents.handle
  have store : (onePaired.step bondBoard .disconnect).store = handled := by
    simp only [Bonding.step, ran, getD_some]
  have same : ((bondBoard.startCopies []).put [uniformDevice 3]).live =
      some ((bondBoard.startCopies []).put [uniformDevice 3]).backedUp := by
    rw [onePaired_holding.live, onePaired_holding.pending rfl]
  have erased := holds.backup k
  rw [Copies.handle_of_same rfl same] at erased
  exact (congrArg (fun store : Store => store.flash (backUpFlash + k)) store).trans erased

/-- A pairing leaves its backup pending; the reset does not touch it, and the
next boot restores the device from it. -/
theorem forgetting_not_lasts_reset :
    ¬Along (Bonding.step bondBoard) (Forgets bondBoard) (Bonding.start bondBoard [] [])
      [.linkKeyCreated (fun _ => 3) (fun _ => 3) 4 0, .pairReset fun _ => true, .boot id,
        .linkKeyReq (fun _ => 3)] := by
  rintro ⟨_, _, _, silent, _⟩
  obtain ⟨cleared, clearedRan, clearedHolds⟩ := onePaired_represents.clear
  obtain ⟨_, lastRan, _⟩ := clearedHolds.boot
  have restored : ((bondBoard.startCopies []).put [uniformDevice 3]).clear.powerLoss.handle.live =
      some (pairInfoOf [uniformDevice 3]) := by
    have pending (copies : Copies) : copies.clear.powerLoss.backedUp = copies.backedUp := rfl
    rw [Copies.handle_live rfl, pending, onePaired_holding.pending rfl]
  rw [Copies.load_of_live restored (by decide)] at lastRan
  have store : (onePaired.step bondBoard (.pairReset fun _ => true)).store = cleared := by
    have reset : (onePaired.step bondBoard (.pairReset fun _ => true)).store =
        (appCfgClearPairInfo bondBoard.para bondBoard.index onePaired.store).getD
          onePaired.store := by
      have kept := (@pairResetLoop_spec onePaired.devices onePaired rfl (by decide) (by decide)
        (fun _ => true) fun _ _ => rfl).2.2
      simp only [Bonding.step, appPairResetList, kept]
    rw [reset, clearedRan, getD_some]
  rw [← store] at lastRan
  let booted := (onePaired.step bondBoard (.pairReset fun _ => true)).step bondBoard (.boot id)
  have devices : booted.devices = [⟨0, uniformDevice 3⟩] := by
    simp only [booted, Bonding.step] at lastRan ⊢
    rw [lastRan]
    rfl
  have forgotten : booted.forgotten (fun _ => 3) = true := by
    simp only [booted, Bonding.step] at lastRan ⊢
    rw [lastRan]
    rfl
  have answer := silent forgotten
  change Option.map _ (find? _ booted.devices) = none at answer
  rw [devices] at answer
  revert answer
  decide

end Hfirmware.Bluetooth
