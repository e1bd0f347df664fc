/-
A USB host reads the descriptors of a device that is not trusted; the walk goes by the
lengths that the parts announce.
-/

import Hfirmware.ByteImage

namespace Hfirmware.Usb.Host

open List Nat ByteImage

/-! ### Reading a descriptor -/

def usbCtrlEpPktSiz : Nat := 64

/-- `stored` with the number of bytes that the device has sent. -/
inductive Packet where
  | stored (count : Nat)
  | error | gone

/-- `bytes` is what the FIFO gives; `usb_packet_read_to_buffer` reads as many as are asked for,
whatever has been sent. -/
structure Transfer where
  setup : Bool
  packets : List Packet
  status : Bool
  bytes : Nat → UInt8

/-- The loop of `usb_h_lld_send_usb_getcmd` over `byteleft`: whether it gets to the
end, the buffer, and the start and the length of every store. -/
def getLoop (bytes : Nat → UInt8) (len : Nat) :
    List Packet → Nat → (Nat → UInt8) → Bool × (Nat → UInt8) × List (Nat × Nat)
  | packets, byteleft, buf =>
    if byteleft = 0 then (true, buf, [])
    else
      let pktsize := if byteleft > usbCtrlEpPktSiz then usbCtrlEpPktSiz else byteleft
      let start := len - byteleft
      let read := patch buf start pktsize fun k => bytes (start + k)
      match packets with
      | [] | .gone :: _ => (false, buf, [])
      | .error :: _ => (false, read, [(start, pktsize)])
      | .stored _ :: rest =>
        let (ok, after, stores) := getLoop bytes len rest (byteleft - pktsize) read
        (ok, after, (start, pktsize) :: stores)

def getCmd (transfer : Transfer) (buf : Nat → UInt8) (len : Nat) :
    Bool × (Nat → UInt8) × List (Nat × Nat) :=
  if transfer.setup then
    let (ok, after, stores) := getLoop transfer.bytes len transfer.packets len buf
    (ok && transfer.status, after, stores)
  else (false, buf, [])

structure Endpoints where
  (inEpNum inEpPktSiz outEpNum outEpPktSiz : Nat)

def Endpoints.init : Endpoints := ⟨0, 0, 0, 0⟩

abbrev Bytes : Type := Nat → UInt8

def descriptorInterface : UInt8 := 4

def descriptorEndpoint : UInt8 := 5

def massStorage : List (Nat × UInt8) :=
  [(1, descriptorInterface), (4, 2), (5, 0x08), (6, 0x06), (7, 0x50)]

def checkAll (desc : Bytes) (pos : Nat) : List (Nat × UInt8) → Bool × List Nat
  | [] => (true, [])
  | (offset, value) :: rest =>
    if desc (pos + offset) = value then
      let (ok, seen) := checkAll desc pos rest
      (ok, (pos + offset) :: seen)
    else (false, [pos + offset])

def pktSiz (desc : Bytes) (pos : Nat) : Nat := (desc (pos + 4)).toNat + (desc (pos + 5)).toNat * 256

def isIn (desc : Bytes) (pos : Nat) : Bool := desc (pos + 2) &&& 0x80 ≠ 0

def Endpoints.take (eps : Endpoints) (desc : Bytes) (pos : Nat) : Endpoints :=
  let epNum := (desc (pos + 2) &&& 0x0f).toNat
  if isIn desc pos then { eps with inEpNum := epNum, inEpPktSiz := pktSiz desc pos }
  else { eps with outEpNum := epNum, outEpPktSiz := pktSiz desc pos }

def endpoint (desc : Bytes) (pos : Nat) (eps : Endpoints) : Option Endpoints × List Nat :=
  if desc (pos + 1) ≠ descriptorEndpoint then (none, [pos + 1])
  else (some (eps.take desc pos), [pos + 1, pos + 2, pos + 4, pos + 5, pos])

def follow (desc : Bytes) (pos : Nat) : Nat := pos + (desc pos).toNat

def endpoints (desc : Bytes) (pos : Nat) (eps : Endpoints) : Bool × Endpoints × List Nat :=
  match endpoint desc (follow desc pos) eps with
  | (none, seen) => (false, eps, seen)
  | (some one, seen) =>
    match endpoint desc (follow desc (follow desc pos)) one with
    | (none, more) => (false, one, seen ++ more)
    | (some two, more) => (two.inEpPktSiz = 64 && two.outEpPktSiz = 64, two, seen ++ more)

structure Walk where
  result : Option Bool
  eps : Endpoints
  examined : List Nat

/-- `get_bulk_eps_info` from `pos` on, for as many rounds as there is fuel. -/
def getBulkEpsInfo (desc : Bytes) (len : Nat) : Nat → Nat → Endpoints → Walk
  | 0, _, eps => ⟨none, eps, []⟩
  | fuel + 1, pos, eps =>
    if pos < len then
      let (found, seen) := checkAll desc pos massStorage
      if found then
        let (ok, taken, more) := endpoints desc pos eps
        ⟨some ok, taken, pos :: seen ++ more⟩
      else
        let rest := getBulkEpsInfo desc len fuel (follow desc pos) eps
        ⟨rest.result, rest.eps, pos :: seen ++ rest.examined⟩
    else ⟨some false, eps, []⟩

/-- The device: its answers to the requests of `hs66xx_usb_host_handle_connect`, and
the buffer as the stack has left it. -/
structure Device where
  devDesc : Transfer
  addressed : Bool
  (devDescAgain cfgHead cfg : Transfer)
  stack : Bytes

/-- `hs66xx_usb_host_handle_connect` up to the walk: all stores into `databuf`, and
the buffer and the length that the walk gets, if it gets there. -/
def handleConnect (device : Device) : List (Nat × Nat) × Option (Bytes × Nat) :=
  let (ok, databuf, stores) := getCmd device.devDesc device.stack 18
  if !ok || !device.addressed then (stores, none)
  else
    let (ok, databuf, more) := getCmd device.devDescAgain databuf 18
    let stores := stores ++ more
    if !ok then (stores, none)
    else
      let (ok, databuf, more) := getCmd device.cfgHead databuf 8
      let stores := stores ++ more
      if !ok then (stores, none)
      else
        let datalen := (databuf 2).toNat + (databuf 3).toNat * 256
        let (ok, databuf, more) := getCmd device.cfg databuf datalen
        let stores := stores ++ more
        if !ok then (stores, none) else (stores, some (databuf, datalen))

def place (desc : Bytes) : Nat → Nat
  | 0 => 0
  | k + 1 => follow desc (place desc k)

def IsMassStorage (desc : Bytes) (pos : Nat) : Prop :=
  ∀ check ∈ massStorage, desc (pos + check.1) = check.2

structure Reaches (desc : Bytes) (len k : Nat) : Prop where
  before : ∀ j < k, ¬IsMassStorage desc (place desc j)
  inside : place desc k < len

/-- Behind the interface at `pos` there are two endpoints with packets of 64 bytes,
one for each direction. -/
structure HasPair (desc : Bytes) (pos : Nat) : Prop where
  first : desc (follow desc pos + 1) = descriptorEndpoint
  second : desc (follow desc (follow desc pos) + 1) = descriptorEndpoint
  directions : isIn desc (follow desc pos) ≠ isIn desc (follow desc (follow desc pos))
  firstSize : pktSiz desc (follow desc pos) = 64
  secondSize : pktSiz desc (follow desc (follow desc pos)) = 64

def IsBulk (desc : Bytes) (pos : Nat) : Prop :=
  desc (follow desc pos + 3) &&& 3 = 2 ∧ desc (follow desc (follow desc pos) + 3) &&& 3 = 2

/-- The bytes that the device sends of `byteleft`, up to the first packet that is short. -/
def received : List Packet → Nat → Nat
  | .stored sent :: rest, byteleft =>
    let pktsize := if byteleft > usbCtrlEpPktSiz then usbCtrlEpPktSiz else byteleft
    if sent < pktsize then sent else pktsize + received rest (byteleft - pktsize)
  | _, _ => 0

/-- The walk looks at the first `limit` bytes only, ends, and succeeds only with a pair of
bulk endpoints in the interface of mass storage. -/
structure WalkSafe (desc : Bytes) (len limit : Nat) : Prop where
  examined : ∀ fuel, ∀ i ∈ (getBulkEpsInfo desc len fuel 0 .init).examined, i < limit
  ends : ∃ fuel, (getBulkEpsInfo desc len fuel 0 .init).result ≠ none
  success : ∀ fuel, (getBulkEpsInfo desc len fuel 0 .init).result = some true →
    ∃ k, Reaches desc len k ∧ IsMassStorage desc (place desc k) ∧
      HasPair desc (place desc k) ∧ IsBulk desc (place desc k)

structure Safe (device : Device) : Prop where
  stores : ∀ store ∈ (handleConnect device).1, store.1 + store.2 ≤ 256
  walk : ∀ desc len, (handleConnect device).2 = some (desc, len) →
    WalkSafe desc len (received device.cfg.packets len)

def LookFits (desc : Bytes) (limit pos : Nat) : List (Nat × UInt8) → Prop
  | [] => True
  | (offset, value) :: rest =>
    pos + offset < limit ∧ (desc (pos + offset) = value → LookFits desc limit pos rest)

def EndpointFits (desc : Bytes) (limit pos : Nat) : Prop :=
  pos + 1 < limit ∧ (desc (pos + 1) = descriptorEndpoint → pos + 5 < limit)

/-- A part is long enough for what is looked at in it, has a length, and an interface of
mass storage is followed by bulk endpoints. -/
structure PartFits (desc : Bytes) (limit pos : Nat) : Prop where
  here : pos < limit
  header : LookFits desc limit pos massStorage
  moves : ¬IsMassStorage desc pos → desc pos ≠ 0
  first : IsMassStorage desc pos → EndpointFits desc limit (follow desc pos)
  second : IsMassStorage desc pos → desc (follow desc pos + 1) = descriptorEndpoint →
    EndpointFits desc limit (follow desc (follow desc pos))
  bulk : IsMassStorage desc pos → HasPair desc pos → IsBulk desc pos

def WellFormed (desc : Bytes) (len limit : Nat) : Prop :=
  ∀ k, Reaches desc len k → PartFits desc limit (place desc k)

def arrived : List Packet → Nat
  | [] | .gone :: _ => 0
  | .error :: _ => 1
  | .stored _ :: rest => arrived rest + 1

def AllStored (packets : List Packet) (len : Nat) : Prop :=
  ∀ k < (len + 63) / 64, ∃ count, packets[k]? = some (.stored count)

def Transfer.Answers (transfer : Transfer) (len : Nat) : Prop :=
  transfer.setup = true ∧ AllStored transfer.packets len ∧ transfer.status = true

structure Device.Asked (device : Device) : Prop where
  devDesc : device.devDesc.Answers 18
  addressed : device.addressed = true
  devDescAgain : device.devDescAgain.Answers 18
  cfgHead : device.cfgHead.Answers 8

def Device.total (device : Device) : Nat :=
  (device.cfgHead.bytes 2).toNat + (device.cfgHead.bytes 3).toNat * 256

def Device.databuf (device : Device) : Bytes :=
  patch (patch (patch (patch device.stack 0 18 device.devDesc.bytes) 0 18
    device.devDescAgain.bytes) 0 8 device.cfgHead.bytes) 0 device.total device.cfg.bytes

structure Fits (device : Device) : Prop where
  short : device.Asked → device.total ≤ 256 ∨ device.cfg.setup = false ∨
    arrived device.cfg.packets ≤ 4
  formed : device.Asked → device.cfg.Answers device.total →
    WellFormed device.databuf device.total (received device.cfg.packets device.total)

/-! ### One round of the walk -/

section

variable {desc : Bytes} {len pos : Nat}

theorem checkAll_iff (checks : List (Nat × UInt8)) :
    (checkAll desc pos checks).1 ↔ ∀ check ∈ checks, desc (pos + check.1) = check.2 := by
  induction checks with
  | nil => exact ⟨fun _ => nofun, fun _ => rfl⟩
  | cons check _ ih =>
    obtain ⟨offset, value⟩ := check
    unfold checkAll
    rw [forall_mem_cons, ← ih]
    split
    · next same =>
      exact ⟨fun ok => ⟨same, ok⟩, fun both => both.2⟩
    · next same =>
      exact ⟨nofun, fun both => absurd both.1 same⟩

theorem checkAll_seen (checks : List (Nat × UInt8)) :
    (∀ i ∈ (checkAll desc pos checks).2, i < len) ↔ LookFits desc len pos checks := by
  induction checks with
  | nil => exact ⟨fun _ => trivial, fun _ => nofun⟩
  | cons check _ ih =>
    obtain ⟨offset, value⟩ := check
    unfold checkAll LookFits
    split
    · next same =>
      rw [forall_mem_cons, ih]
      exact and_congr_right fun _ => ⟨fun fits _ => fits, fun fits => fits same⟩
    · next same =>
      rw [forall_mem_singleton]
      exact ⟨fun inside => ⟨inside, fun equal => absurd equal same⟩, fun both => both.1⟩

section

variable (eps : Endpoints)

theorem endpoint_seen : (∀ i ∈ (endpoint desc pos eps).2, i < len) ↔ EndpointFits desc len pos := by
  unfold endpoint EndpointFits
  by_cases same : desc (pos + 1) = descriptorEndpoint
  · rw [if_neg (not_not.mpr same)]
    simp only [forall_mem_cons, not_mem_nil, false_implies, implies_true, and_true]
    constructor
    · rintro ⟨one, _, _, five, _⟩
      exact ⟨one, fun _ => five⟩
    · rintro ⟨one, five⟩
      have last := five same
      omega
  · rw [if_pos same, forall_mem_singleton]
    exact ⟨fun inside => ⟨inside, fun equal => absurd equal same⟩, fun both => both.1⟩

theorem endpoint_some (same : desc (pos + 1) = descriptorEndpoint) :
    endpoint desc pos eps = (some (eps.take desc pos), [pos + 1, pos + 2, pos + 4, pos + 5, pos]) :=
  if_neg (not_not.mpr same)

theorem endpoint_none (other : desc (pos + 1) ≠ descriptorEndpoint) :
    endpoint desc pos eps = (none, [pos + 1]) := if_pos other

theorem endpoints_seen : (∀ i ∈ (endpoints desc pos eps).2.2, i < len) ↔
    EndpointFits desc len (follow desc pos) ∧ (desc (follow desc pos + 1) = descriptorEndpoint →
        EndpointFits desc len (follow desc (follow desc pos))) := by
  rw [← endpoint_seen eps, ← endpoint_seen (eps.take desc (follow desc pos))]
  unfold endpoints
  by_cases one : desc (follow desc pos + 1) = descriptorEndpoint
  · rw [endpoint_some eps one, forall_prop_of_true one, ← forall_mem_append]
    dsimp only
    by_cases two : desc (follow desc (follow desc pos) + 1) = descriptorEndpoint
    · rw [endpoint_some _ two]
    · rw [endpoint_none _ two]
  · rw [endpoint_none eps one]
    exact ⟨fun inside => ⟨inside, fun equal => absurd equal one⟩, fun both => both.1⟩

end

theorem take_take (first second : Nat) :
    ((Endpoints.init.take desc first).take desc second).inEpPktSiz = 64 ∧
      ((Endpoints.init.take desc first).take desc second).outEpPktSiz = 64 ↔
    isIn desc first ≠ isIn desc second ∧ pktSiz desc first = 64 ∧ pktSiz desc second = 64 := by
  unfold Endpoints.take Endpoints.init
  cases isIn desc first <;> cases isIn desc second <;> simp [and_comm]

theorem endpoints_ok : (endpoints desc pos .init).1 ↔ HasPair desc pos := by
  unfold endpoints
  by_cases one : desc (follow desc pos + 1) = descriptorEndpoint
  · rw [endpoint_some _ one]
    dsimp only
    by_cases two : desc (follow desc (follow desc pos) + 1) = descriptorEndpoint
    · rw [endpoint_some _ two]
      dsimp only
      rw [Bool.and_eq_true, decide_eq_true_eq, decide_eq_true_eq, take_take]
      constructor
      · rintro ⟨directions, firstSize, secondSize⟩
        exact ⟨one, two, directions, firstSize, secondSize⟩
      · intro pair
        exact ⟨pair.directions, pair.firstSize, pair.secondSize⟩
    · rw [endpoint_none _ two]
      exact ⟨nofun, fun pair => absurd pair.second two⟩
  · rw [endpoint_none _ one]
    exact ⟨nofun, fun pair => absurd pair.first one⟩

theorem walk_beyond (eps : Endpoints) (fuel : Nat) (beyond : ¬pos < len) :
    getBulkEpsInfo desc len (fuel + 1) pos eps = ⟨some false, eps, []⟩ := if_neg beyond

theorem walk_found (eps : Endpoints) (fuel : Nat) (inside : pos < len)
    (found : IsMassStorage desc pos) :
    let after := endpoints desc pos eps
    getBulkEpsInfo desc len (fuel + 1) pos eps = ⟨some after.1, after.2.1,
        pos :: (checkAll desc pos massStorage).2 ++ after.2.2⟩ := by
  rw [getBulkEpsInfo, if_pos inside]
  exact if_pos ((checkAll_iff massStorage).mpr found)

theorem walk_other (eps : Endpoints) (fuel : Nat) (inside : pos < len)
    (other : ¬IsMassStorage desc pos) :
    let after := getBulkEpsInfo desc len fuel (follow desc pos) eps
    getBulkEpsInfo desc len (fuel + 1) pos eps = ⟨after.result, after.eps,
        pos :: (checkAll desc pos massStorage).2 ++ after.examined⟩ := by
  rw [getBulkEpsInfo, if_pos inside]
  exact if_neg (mt (checkAll_iff massStorage).mp other)

end

/-! ### The whole walk -/

section

variable {desc : Bytes} {len limit k fuel : Nat}

theorem WellFormed.examined (formed : WellFormed desc len limit)
    (before : ∀ j < k, ¬IsMassStorage desc (place desc j)) (eps : Endpoints) :
    ∀ i ∈ (getBulkEpsInfo desc len fuel (place desc k) eps).examined, i < limit := by
  induction fuel generalizing k with
  | zero => nofun
  | succ fuel ih =>
    by_cases inside : place desc k < len
    · have fits := formed k ⟨before, inside⟩
      have header := (checkAll_seen massStorage).mpr fits.header
      by_cases found : IsMassStorage desc (place desc k)
      · rw [walk_found eps fuel inside found]
        rw [forall_mem_append, forall_mem_cons]
        exact ⟨⟨fits.here, header⟩, (endpoints_seen eps).mpr ⟨fits.first found, fits.second found⟩⟩
      · rw [walk_other eps fuel inside found]
        rw [forall_mem_append, forall_mem_cons]
        exact ⟨⟨fits.here, header⟩, @ih (k + 1) (forall_lt_succ_right.mpr ⟨before, found⟩)⟩
    · rw [walk_beyond eps fuel inside]
      nofun

theorem WellFormed.ends (formed : WellFormed desc len limit) {room : Nat}
    (before : ∀ j < k, ¬IsMassStorage desc (place desc j)) (left : len ≤ place desc k + room)
    (eps : Endpoints) :
    (getBulkEpsInfo desc len (room + 1) (place desc k) eps).result ≠ none := by
  induction room generalizing k with
  | zero =>
    have beyond : ¬place desc k < len := not_lt.mpr left
    rw [walk_beyond eps 0 beyond]
    nofun
  | succ room ih =>
    by_cases inside : place desc k < len
    · by_cases found : IsMassStorage desc (place desc k)
      · rw [walk_found eps _ inside found]
        nofun
      · have moves := (formed k ⟨before, inside⟩).moves found
        have positive : 0 < (desc (place desc k)).toNat := by
          apply Nat.pos_of_ne_zero
          intro zero
          exact moves (UInt8.toNat_inj.mp zero)
        rw [walk_other eps _ inside found]
        apply @ih (k + 1) (forall_lt_succ_right.mpr ⟨before, found⟩)
        change len ≤ place desc k + (desc (place desc k)).toNat + room
        omega
    · rw [walk_beyond eps _ inside]
      nofun

theorem walk_success (before : ∀ j < k, ¬IsMassStorage desc (place desc j))
    (success : (getBulkEpsInfo desc len fuel (place desc k) .init).result = some true) :
    ∃ k, Reaches desc len k ∧ IsMassStorage desc (place desc k) ∧ HasPair desc (place desc k) := by
  induction fuel generalizing k with
  | zero => cases success
  | succ fuel ih =>
    by_cases inside : place desc k < len
    · by_cases found : IsMassStorage desc (place desc k)
      · rw [walk_found _ fuel inside found] at success
        exact ⟨k, ⟨before, inside⟩, found, endpoints_ok.mp (Option.some.inj success)⟩
      · rw [walk_other _ fuel inside found] at success
        exact @ih (k + 1) (forall_lt_succ_right.mpr ⟨before, found⟩) success
    · rw [walk_beyond _ fuel inside] at success
      cases success

theorem WellFormed.walkSafe (formed : WellFormed desc len limit) : WalkSafe desc len limit := by
  have start : ∀ j < 0, ¬IsMassStorage desc (place desc j) := nofun
  refine ⟨fun fuel => formed.examined start .init, ⟨len + 1, ?_⟩, fun fuel success => ?_⟩
  · exact formed.ends start (Nat.le_add_left len (place desc 0)) .init
  · obtain ⟨k, reaches, found, pair⟩ := walk_success start success
    exact ⟨k, reaches, found, pair, (formed k reaches).bulk found pair⟩

/-! The converse: what the walk meets is what the condition asks for. -/

theorem Reaches.pred (reaches : Reaches desc len (k + 1)) : Reaches desc len k := by
  refine ⟨fun j earlier => reaches.before j (lt_succ_of_lt earlier), ?_⟩
  exact lt_of_le_of_lt (Nat.le_add_right _ _) reaches.inside

theorem Reaches.walk (reaches : Reaches desc len k) (fuel : Nat) (eps : Endpoints) :
    let after := getBulkEpsInfo desc len fuel (place desc k) eps
    (getBulkEpsInfo desc len (k + fuel) 0 eps).result = after.result ∧ ∀ i ∈ after.examined,
        i ∈ (getBulkEpsInfo desc len (k + fuel) 0 eps).examined := by
  induction k generalizing fuel with
  | zero =>
    rw [zero_add]
    exact ⟨rfl, fun _ member => member⟩
  | succ k ih =>
    have earlier := reaches.pred
    obtain ⟨result, examined⟩ := ih earlier (fuel + 1)
    rw [walk_other eps fuel earlier.inside (reaches.before k (lt_succ_self k))] at result examined
    rw [show k + 1 + fuel = k + (fuel + 1) by omega]
    exact ⟨result, fun i member => examined i (mem_append_right _ member)⟩

theorem walk_more {pos : Nat} {eps : Endpoints}
    (ended : (getBulkEpsInfo desc len fuel pos eps).result ≠ none) (extra : Nat) :
    (getBulkEpsInfo desc len (fuel + extra) pos eps).result ≠ none := by
  induction fuel generalizing pos with
  | zero => exact absurd rfl ended
  | succ fuel ih =>
    rw [succ_add]
    by_cases inside : pos < len
    · by_cases found : IsMassStorage desc pos
      · rw [walk_found eps _ inside found]
        nofun
      · rw [walk_other eps fuel inside found] at ended
        rw [walk_other eps _ inside found]
        exact ih ended
    · rw [walk_beyond eps _ inside]
      nofun

theorem walk_stuck {pos : Nat} (inside : pos < len) (other : ¬IsMassStorage desc pos)
    (zero : desc pos = 0) (fuel : Nat) (eps : Endpoints) :
    (getBulkEpsInfo desc len fuel pos eps).result = none := by
  induction fuel with
  | zero => rfl
  | succ fuel ih =>
    have stays : follow desc pos = pos := by
      unfold follow
      rw [zero]
      rfl
    rwa [walk_other eps fuel inside other, stays]

theorem WalkSafe.partFits (safe : WalkSafe desc len limit) (reaches : Reaches desc len k) :
    PartFits desc limit (place desc k) := by
  obtain ⟨result, examined⟩ := reaches.walk 1 .init
  have inside := fun i member => safe.examined (k + 1) i (examined i member)
  by_cases found : IsMassStorage desc (place desc k)
  · rw [walk_found _ 0 reaches.inside found] at inside result
    rw [forall_mem_append, forall_mem_cons] at inside
    obtain ⟨⟨here, header⟩, rest⟩ := inside
    obtain ⟨first, second⟩ := (endpoints_seen _).mp rest
    refine ⟨here, (checkAll_seen massStorage).mp header, fun other => absurd found other,
      fun _ => first, fun _ => second, fun _ pair => ?_⟩
    rw [endpoints_ok.mpr pair] at result
    obtain ⟨other, reached, isFound, _, bulk⟩ := safe.success _ result
    -- The walk stops at the first interface of mass storage, so it is this one.
    rcases lt_trichotomy other k with lower | rfl | higher
    · exact absurd isFound (reaches.before other lower)
    · exact bulk
    · exact absurd found (reached.before k higher)
  · rw [walk_other _ 0 reaches.inside found] at inside
    rw [forall_mem_append, forall_mem_cons] at inside
    obtain ⟨⟨here, header⟩, _⟩ := inside
    refine ⟨here, (checkAll_seen massStorage).mp header, fun _ zero => ?_,
      fun now => absurd now found,
      fun now => absurd now found, fun now => absurd now found⟩
    obtain ⟨fuel, ended⟩ := safe.ends
    have still := walk_more ended k
    rw [add_comm fuel k, (reaches.walk fuel .init).1, walk_stuck reaches.inside found zero] at still
    exact still rfl

theorem walkSafe_iff : WalkSafe desc len limit ↔ WellFormed desc len limit :=
  ⟨fun safe _ reaches => safe.partFits reaches, fun formed => formed.walkSafe⟩

end

/-! ### The stores -/

section

variable {bytes : Bytes} {len limit : Nat} {packets : List Packet} {byteleft : Nat}

theorem getLoop_stores (left : byteleft ≤ len) (start : len - byteleft ≤ limit) (buf : Bytes) :
    (∀ store ∈ (getLoop bytes len packets byteleft buf).2.2, store.1 + store.2 ≤ limit) ↔
      len - byteleft + min byteleft (64 * arrived packets) ≤ limit := by
  induction packets generalizing byteleft buf with
  | nil =>
    unfold getLoop arrived
    split <;> exact ⟨fun _ => by omega, fun _ => nofun⟩
  | cons packet _ ih =>
    unfold getLoop
    split
    · exact ⟨fun _ => by omega, fun _ => nofun⟩
    · unfold usbCtrlEpPktSiz
      cases packet with
      | gone => exact ⟨fun _ => by unfold arrived; omega, fun _ => nofun⟩
      | error =>
        dsimp only [arrived]
        rw [forall_mem_singleton]
        split <;> omega
      | stored =>
        dsimp only [arrived]
        rw [forall_mem_cons]
        generalize size : (if byteleft > 64 then 64 else byteleft) = pktsize
        have least : pktsize = min byteleft 64 := by
          rw [← size]
          split <;> omega
        by_cases fits : len - byteleft + pktsize ≤ limit
        · rw [ih (by omega) (by omega)]
          omega
        · exact ⟨fun both => absurd both.1 fits, fun all => by omega⟩

theorem allStored_cons (packet : Packet) (rest : List Packet) (positive : ¬byteleft = 0) :
    AllStored (packet :: rest) byteleft ↔
      (∃ count, packet = .stored count) ∧
        AllStored rest (byteleft - if byteleft > 64 then 64 else byteleft) := by
  constructor
  · intro all
    obtain ⟨count, first⟩ := all 0 (by omega)
    refine ⟨⟨count, Option.some.inj first⟩, fun k below => ?_⟩
    refine all (k + 1) ?_
    split at below <;> omega
  · rintro ⟨⟨count, rfl⟩, later⟩ k below
    cases k with
    | zero => exact ⟨count, rfl⟩
    | succ k =>
      refine later k ?_
      split <;> omega

theorem allStored_zero (packets : List Packet) : AllStored packets 0 :=
  fun k below => absurd below (Nat.not_lt_zero k)

theorem getLoop_ok (left : byteleft ≤ len) (buf : Bytes) :
    let last := getLoop bytes len packets byteleft buf
    (last.1 ↔ AllStored packets byteleft) ∧ (last.1 → last.2.1 =
          patch buf (len - byteleft) byteleft fun k => bytes (len - byteleft + k)) := by
  induction packets generalizing byteleft buf with
  | nil =>
    unfold getLoop
    split
    · next zero =>
      rw [zero, patch_zero]
      exact ⟨⟨fun _ => allStored_zero _, fun _ => rfl⟩, fun _ => rfl⟩
    · refine ⟨⟨nofun, fun all => ?_⟩, nofun⟩
      obtain ⟨_, first⟩ := all 0 (by omega)
      cases first
  | cons packet rest ih =>
    unfold getLoop
    split
    · next zero =>
      rw [zero, patch_zero]
      exact ⟨⟨fun _ => allStored_zero _, fun _ => rfl⟩, fun _ => rfl⟩
    · next zero =>
      rw [allStored_cons packet rest zero]
      unfold usbCtrlEpPktSiz
      cases packet with
      | gone | error => exact ⟨⟨nofun, fun both => nomatch both.1⟩, nofun⟩
      | stored count =>
        generalize size : (if byteleft > 64 then 64 else byteleft) = pktsize
        have most : pktsize ≤ byteleft := by
          rw [← size]
          split <;> omega
        obtain ⟨ok, after⟩ := @ih (byteleft - pktsize) (by omega) _
        refine ⟨ok.trans ⟨fun all => ⟨⟨count, rfl⟩, all⟩, fun both => both.2⟩, fun done => ?_⟩
        rw [after done, show len - (byteleft - pktsize) = len - byteleft + pktsize by omega]
        have whole := patch_append buf (fun k => bytes (len - byteleft + k))
          (len - byteleft) pktsize (byteleft - pktsize)
        rw [show pktsize + (byteleft - pktsize) = byteleft by omega] at whole
        rw [← whole]
        simp only [add_assoc]

variable {transfer : Transfer}

theorem getCmd_stores (buf : Bytes) :
    (∀ store ∈ (getCmd transfer buf len).2.2, store.1 + store.2 ≤ limit) ↔
      transfer.setup = false ∨ min len (64 * arrived transfer.packets) ≤ limit := by
  unfold getCmd
  cases transfer.setup with
  | false => exact ⟨fun _ => .inl rfl, fun _ => nofun⟩
  | true =>
    have stores := @getLoop_stores transfer.bytes len limit transfer.packets len (.refl)
      (by omega) buf
    rw [Nat.sub_self, zero_add] at stores
    rw [if_pos rfl]
    rw [stores]
    exact ⟨Or.inr, fun cases => cases.resolve_left nofun⟩

theorem getCmd_ok (buf : Bytes) :
    ((getCmd transfer buf len).1 ↔ transfer.Answers len) ∧ (transfer.Answers len →
        (getCmd transfer buf len).2.1 = patch buf 0 len transfer.bytes) := by
  obtain ⟨ok, after⟩ := @getLoop_ok _ len _ len (.refl) buf
  unfold getCmd Transfer.Answers
  cases transfer.setup with
  | false => exact ⟨⟨nofun, fun answers => nomatch answers.1⟩, fun answers => nomatch answers.1⟩
  | true =>
    rw [if_pos rfl]
    rw [Bool.and_eq_true, ok]
    refine ⟨⟨fun both => ⟨rfl, both⟩, fun all => all.2⟩, fun answers => ?_⟩
    rw [after (ok.mpr answers.2.1)]
    simp only [Nat.sub_self, zero_add]

end

section

variable {device : Device}

theorem getCmd_short (transfer : Transfer) (buf : Bytes) {len : Nat} (few : len ≤ 256) :
    ∀ store ∈ (getCmd transfer buf len).2.2, store.1 + store.2 ≤ 256 :=
  (getCmd_stores buf).mpr (.inr (by omega))

def Device.heads (device : Device) : Bytes :=
  patch (patch (patch device.stack 0 18 device.devDesc.bytes) 0 18
    device.devDescAgain.bytes) 0 8 device.cfgHead.bytes

theorem handleConnect_asked (asked : device.Asked) :
    ∃ stores, (∀ store ∈ stores, store.1 + store.2 ≤ 256) ∧ handleConnect device =
        let cfg := getCmd device.cfg device.heads device.total
        (stores ++ cfg.2.2, if cfg.1 then some (cfg.2.1, device.total) else none) := by
  obtain ⟨devDesc, addressed, devDescAgain, cfgHead⟩ := asked
  have one := @getCmd_ok 18 device.devDesc device.stack
  have two := @getCmd_ok 18 device.devDescAgain (patch device.stack 0 18 device.devDesc.bytes)
  have three := @getCmd_ok 8 device.cfgHead
    (patch (patch device.stack 0 18 device.devDesc.bytes) 0 18 device.devDescAgain.bytes)
  have total : (device.heads 2).toNat + (device.heads 3).toNat * 256 = device.total := rfl
  have shortOne := @getCmd_short device.devDesc device.stack 18 (by omega)
  have shortTwo := @getCmd_short device.devDescAgain
    (patch device.stack 0 18 device.devDesc.bytes) 18 (by omega)
  have shortThree := @getCmd_short device.cfgHead
    (patch (patch device.stack 0 18 device.devDesc.bytes) 0 18 device.devDescAgain.bytes) 8
    (by omega)
  refine ⟨_, forall_mem_append.mpr ⟨forall_mem_append.mpr ⟨shortOne, shortTwo⟩, shortThree⟩, ?_⟩
  unfold handleConnect
  dsimp only
  rw [one.1.mpr devDesc, one.2 devDesc, addressed, if_neg (by decide), two.1.mpr devDescAgain,
    two.2 devDescAgain, if_neg (by decide), three.1.mpr cfgHead, three.2 cfgHead,
    if_neg (by decide)]
  unfold Device.heads at total ⊢
  rw [total]
  cases (getCmd device.cfg _ device.total).1 <;> rfl

theorem handleConnect_other (other : ¬device.Asked) :
    (∀ store ∈ (handleConnect device).1, store.1 + store.2 ≤ 256) ∧
      (handleConnect device).2 = none := by
  have shortOne := @getCmd_short device.devDesc device.stack 18 (by omega)
  unfold handleConnect
  dsimp only
  by_cases one : device.devDesc.Answers 18 ∧ device.addressed
  · obtain ⟨devDesc, addressed⟩ := one
    have ok := @getCmd_ok 18 device.devDesc device.stack
    rw [ok.1.mpr devDesc, addressed, if_neg (by decide)]
    have shortTwo := @getCmd_short device.devDescAgain
      (getCmd device.devDesc device.stack 18).2.1 18 (by omega)
    have again := @getCmd_ok 18 device.devDescAgain (getCmd device.devDesc device.stack 18).2.1
    generalize getCmd device.devDescAgain _ 18 = two at again shortTwo ⊢
    obtain ⟨ok, databuf, _⟩ := two
    have shortBoth := forall_mem_append.mpr ⟨shortOne, shortTwo⟩
    cases ok with
    | false => exact ⟨shortBoth, rfl⟩
    | true =>
      have shortThree := @getCmd_short device.cfgHead databuf 8 (by omega)
      have head := @getCmd_ok 8 device.cfgHead databuf
      have failed := Bool.eq_false_iff.mpr fun done =>
          other ⟨devDesc, addressed, again.1.mp rfl, head.1.mp done⟩
      dsimp only
      rw [if_neg (by decide), failed, if_pos (by decide)]
      exact ⟨forall_mem_append.mpr ⟨shortBoth, shortThree⟩, rfl⟩
  · have ends : (!(getCmd device.devDesc device.stack 18).1 || !device.addressed) := by
      by_contra going
      rw [Bool.not_eq_true, Bool.or_eq_false_iff, Bool.not_eq_false', Bool.not_eq_false'] at going
      exact one ⟨(getCmd_ok _).1.mp going.1, going.2⟩
    rw [if_pos ends]
    exact ⟨shortOne, rfl⟩

theorem handleConnect_received (asked : device.Asked) (answers : device.cfg.Answers device.total) :
    (handleConnect device).2 = some (device.databuf, device.total) := by
  obtain ⟨_, _, run⟩ := handleConnect_asked asked
  have ok := @getCmd_ok device.total device.cfg device.heads
  rw [run]
  dsimp only
  rw [if_pos (ok.1.mpr answers), ok.2 answers]
  rfl

theorem cfg_stores (device : Device) :
    (∀ store ∈ (getCmd device.cfg device.heads device.total).2.2, store.1 + store.2 ≤ 256) ↔
      device.total ≤ 256 ∨ device.cfg.setup = false ∨ arrived device.cfg.packets ≤ 4 := by
  rw [getCmd_stores]
  constructor
  · rintro (never | _)
    · exact .inr (.inl never)
    · by_cases few : device.total ≤ 256
      · exact .inl few
      · exact .inr (.inr (by omega))
  · rintro (few | never | _)
    · exact .inr (by omega)
    · exact .inl never
    · exact .inr (by omega)

/-- The enumeration of a device is safe exactly if its configuration descriptor fits
the buffer and the parts of it fit the descriptor. -/
theorem host_enumeration (device : Device) : Safe device ↔ Fits device := by
  by_cases asked : device.Asked
  · obtain ⟨_, short, run⟩ := handleConnect_asked asked
    have ok := @getCmd_ok device.total device.cfg device.heads
    constructor
    · rintro ⟨inside, walk⟩
      rw [run] at inside
      exact ⟨fun _ => (cfg_stores device).mp (forall_mem_append.mp inside).2,
        fun _ answers => walkSafe_iff.mp (walk _ _ (handleConnect_received asked answers))⟩
    · rintro ⟨fits, formed⟩
      refine ⟨?_, fun desc len reached => ?_⟩
      · rw [run]
        exact forall_mem_append.mpr ⟨short, (cfg_stores device).mpr (fits asked)⟩
      · rw [run] at reached
        dsimp only at reached
        split at reached
        next done =>
          have answers := ok.1.mp done
          rw [ok.2 answers] at reached
          cases reached
          exact walkSafe_iff.mpr (formed asked answers)
        next => cases reached
  · obtain ⟨inside, never⟩ := handleConnect_other asked
    exact ⟨fun _ => ⟨fun now => absurd now asked, fun now => absurd now asked⟩,
      fun _ => ⟨inside, fun _ _ reached => nomatch never.symm.trans reached⟩⟩

end

def deviceOf (descriptor : List UInt8) (packets : List Packet) : Device :=
  let one : Transfer := ⟨true, [.stored 18], true, fun k => descriptor.getD k 0⟩
  ⟨one, true, one, one, { one with packets }, fun _ => 0⟩

theorem deviceOf_received (descriptor : List UInt8) (count : Nat)
    (few : (deviceOf descriptor [.stored count]).total ≤ 64) :
    let after := deviceOf descriptor [.stored count]
    (handleConnect after).2 = some (after.databuf, after.total) := by
  have single (count len : Nat) (few : len ≤ 64) : AllStored [.stored count] len := by
    intro k below
    obtain rfl : k = 0 := by omega
    exact ⟨count, rfl⟩
  exact handleConnect_received ⟨⟨rfl, single 18 18 (by omega), rfl⟩, rfl,
    ⟨rfl, single 18 18 (by omega), rfl⟩, ⟨rfl, single 18 8 (by omega), rfl⟩⟩
    ⟨rfl, single count _ few, rfl⟩

def longDevice : Device := deviceOf [9, 2, 0, 2] (List.replicate 8 (.stored 64))

def zeroDevice : Device := deviceOf [0, 2, 9, 0, 0, 0, 0, 0, 0] [.stored 9]

def shortDevice : Device := deviceOf [9, 2, 10, 0, 0, 0, 0, 0, 0, 7] [.stored 10]

/-- 32 bytes are announced and `count` sent. -/
def interruptDevice (count : Nat) : Device :=
  deviceOf [9, 2, 32, 0, 1, 1, 0, 0x80, 50, 9, 4, 0, 0, 2, 0x08, 0x06, 0x50, 0,
    7, 5, 0x81, 3, 64, 0, 1, 7, 5, 0x02, 3, 64, 0, 1] [.stored count]

/-- A descriptor of 512 bytes leaves the buffer, a part without a length is never left, a last part
of one byte is looked behind, what the device has not sent is looked at, and interrupt endpoints
pass for bulk endpoints. -/
theorem host_enumeration_unsafe : ¬Safe longDevice ∧ ¬Safe zeroDevice ∧ ¬Safe shortDevice ∧
    ¬Safe (interruptDevice 9) ∧ ¬Safe (interruptDevice 32) := by
  have first (desc : Bytes) (len : Nat) (positive : 0 < len) : Reaches desc len 0 :=
    ⟨nofun, positive⟩
  have second (desc : Bytes) (len : Nat) (other : ¬IsMassStorage desc 0)
      (inside : place desc 1 < len) : Reaches desc len 1 :=
    ⟨fun j below => lt_one_iff.mp below ▸ other, inside⟩
  refine ⟨fun safe => ?_, fun safe => ?_, fun safe => ?_, fun safe => ?_, fun safe => ?_⟩
  · have inside := safe.stores (256, 64) (by decide +kernel)
    omega
  · have walk := safe.walk _ _ (deviceOf_received _ _ (by decide))
    have part := walk.partFits (first _ _ (by decide))
    exact part.moves (by unfold IsMassStorage; decide) (by decide)
  · have walk := safe.walk _ _ (deviceOf_received _ _ (by decide))
    have part := walk.partFits (second _ _ (by unfold IsMassStorage; decide) (by decide))
    exact absurd part.header.1 (by decide)
  · have walk := safe.walk _ _ (deviceOf_received _ _ (by decide))
    have part := walk.partFits (second _ _ (by unfold IsMassStorage; decide) (by decide))
    exact absurd part.here (by decide)
  · have walk := safe.walk _ _ (deviceOf_received _ _ (by decide))
    have part := walk.partFits (second _ _ (by unfold IsMassStorage; decide) (by decide))
    have bulk := part.bulk (by unfold IsMassStorage; decide)
      ⟨by decide, by decide, by decide, by decide, by decide⟩
    exact absurd bulk.1 (by decide)

end Hfirmware.Usb.Host
