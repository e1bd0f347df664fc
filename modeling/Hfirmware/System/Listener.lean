/-
The list of registered listeners and its traversal by `_cfg_sysDoEvent`.
-/

import Hfirmware.LinkedChain
import Hfirmware.System.Message

namespace Hfirmware.System

open List Nat Option Function Config GuardedRun LinkedChain

/-- The nodes `hs_cfg_sys_reg_t`, field by field, and the head of the list. A
place that is not allocated keeps what was last written to it. -/
structure Registry where
  g_pstEventOper : Option Nat
  stMessOper : Nat → MessOper
  pstNextOper : Nat → Option Nat
  allocated : Nat → Bool

variable {slots : Nat} {registry : Registry} {nodes : List Nat}

/-- `_cfg_sysChkMsg` from a node on. The bound is the number of places in the store. -/
def cfgSysChkMsg (registry : Registry) (oper : MessOper) : Nat → Option Nat → Option Nat
  | 0, _ => none
  | _, none => none
  | bound + 1, some pstEvent =>
    if registry.stMessOper pstEvent = oper then some pstEvent
    else cfgSysChkMsg registry oper bound (registry.pstNextOper pstEvent)

def cfgSysNewEvent (registry : Registry) (pstTemp : Nat) (oper : MessOper) : Registry :=
  { registry with
    stMessOper := update registry.stMessOper pstTemp oper
    pstNextOper := update registry.pstNextOper pstTemp none
    allocated := update registry.allocated pstTemp true }

def lastOper (pstNextOper : Nat → Option Nat) : Nat → Nat → Nat
  | 0, pstEvent => pstEvent
  | bound + 1, pstEvent =>
    match pstNextOper pstEvent with
    | none => pstEvent
    | some pstNext => lastOper pstNextOper bound pstNext

def hsCfgSysListenMsg (slots : Nat) (registry : Registry) (message : BitVec 16)
    (fnOper : Option Nat) (place : Option Nat) : CfgRes × Registry :=
  let oper : MessOper := { u16MessType := message, pfnOper := fnOper }
  if fnOper = none then (.errRegister, registry)
  else if (cfgSysChkMsg registry oper slots registry.g_pstEventOper).isSome then (.ok, registry)
  else
    match place with
    | none => (.errRegister, registry)
    | some pstTemp =>
      let created := cfgSysNewEvent registry pstTemp oper
      match registry.g_pstEventOper with
      | none => (.ok, { created with g_pstEventOper := some pstTemp })
      | some pstEvent =>
        let last := lastOper created.pstNextOper slots pstEvent
        (.ok, { created with
          pstNextOper := update created.pstNextOper last (some pstTemp) })

def cancelSearch (registry : Registry) (oper : MessOper) :
    Nat → Option Nat → Option Nat → Option (Option Nat × Nat)
  | 0, _, _ => none
  | _, _, none => none
  | bound + 1, pstLast, some pstEvent =>
    if registry.stMessOper pstEvent = oper then some (pstLast, pstEvent)
    else cancelSearch registry oper bound (some pstEvent) (registry.pstNextOper pstEvent)

def hsCfgSysCancelListenMsg (slots : Nat) (registry : Registry) (message : BitVec 16)
    (fnOper : Option Nat) : Option Nat × Registry :=
  if fnOper = none then (none, registry)
  else
    match cancelSearch registry { u16MessType := message, pfnOper := fnOper } slots none
        registry.g_pstEventOper with
    | none => (none, registry)
    | some (pstLast, pstEvent) =>
      let unlinked :=
        match pstLast with
        | none => { registry with g_pstEventOper := registry.pstNextOper pstEvent }
        | some last =>
          { registry with
            pstNextOper :=
              update registry.pstNextOper last (registry.pstNextOper pstEvent) }
      (some pstEvent, { unlinked with allocated := update registry.allocated pstEvent false })

/-- The list is linked through `nodes`, which are allocated places of the store
with pairwise different listeners. -/
structure Listed (slots : Nat) (registry : Registry) (nodes : List Nat) : Prop where
  linked : Segment registry.pstNextOper registry.g_pstEventOper nodes none
  nodup : nodes.Nodup
  allocated : ∀ node ∈ nodes, registry.allocated node = true
  inside : ∀ node ∈ nodes, node < slots
  distinct : (nodes.map registry.stMessOper).Nodup
  named : ∀ node ∈ nodes, (registry.stMessOper node).pfnOper ≠ none

variable {node : Nat} {front : List Nat} {fnOper : Option Nat}
  {after : Registry} {place : Option Nat} {message : BitVec 16}

section

variable {oper : MessOper}

theorem Listed.length_le (listed : Listed slots registry nodes) : nodes.length ≤ slots := by
  have below : nodes ⊆ List.range slots := fun node member =>
    mem_range.mpr (listed.inside node member)
  have fits := (subperm_of_subset listed.nodup below).length_le
  rwa [length_range] at fits

theorem Listed.not_mem (listed : Listed slots registry nodes)
    (free : registry.allocated node = false) : node ∉ nodes := by
  intro member
  rw [listed.allocated node member] at free
  cases free

theorem cfgSysChkMsg_eq (bound : Nat) (head : Option Nat) : cfgSysChkMsg registry oper bound head =
    (walk registry.pstNextOper bound head).find? (registry.stMessOper · = oper) := by
  induction bound generalizing head with
  | zero => rfl
  | succ bound ih =>
    cases head with
    | none => rfl
    | some node =>
      rw [cfgSysChkMsg, walk, find?_cons, ih]
      split <;> simp_all

theorem Listed.cfgSysChkMsg_isSome (listed : Listed slots registry nodes) :
    (cfgSysChkMsg registry oper slots registry.g_pstEventOper).isSome ↔
      oper ∈ nodes.map registry.stMessOper := by
  rw [cfgSysChkMsg_eq, listed.linked.walk_eq listed.length_le, find?_isSome, List.mem_map]
  simp only [decide_eq_true_eq]

variable {bound : Nat}

theorem lastOper_eq {pstNextOper : Nat → Option Nat} {head last : Nat}
    (linked : Segment pstNextOper (some head) (front ++ [last]) none)
    (enough : front.length ≤ bound) : lastOper pstNextOper bound head = last := by
  induction front generalizing bound head with
  | nil =>
    obtain ⟨here, stop⟩ := linked
    obtain rfl := Option.some.inj here
    cases bound with
    | zero => rfl
    | succ => rw [lastOper, stop]
  | cons _ rest ih =>
    obtain ⟨here, linked⟩ := linked
    obtain rfl := Option.some.inj here
    cases bound with
    | zero => simp at enough
    | succ =>
      have following := linked.head_eq
      rw [lastOper]
      cases onward : pstNextOper head with
      | none =>
        rw [onward] at following
        cases rest <;> cases following
      | some =>
        rw [onward] at linked
        exact ih linked (le_of_succ_le_succ enough)

theorem cancelSearch_none {pstLast head : Option Nat}
    (linked : Segment registry.pstNextOper head nodes none)
    (absent : oper ∉ nodes.map registry.stMessOper) :
    cancelSearch registry oper bound pstLast head = none := by
  induction nodes generalizing bound pstLast head with
  | nil =>
    obtain rfl : head = none := linked
    cases bound <;> rfl
  | cons _ _ ih =>
    obtain ⟨rfl, linked⟩ := linked
    rw [map_cons, mem_cons, not_or] at absent
    cases bound with
    | zero => rfl
    | succ =>
      rw [cancelSearch, if_neg (Ne.symm absent.1)]
      exact ih linked absent.2

variable {back : List Nat}

theorem cancelSearch_found {pstLast head : Option Nat}
    (linked : Segment registry.pstNextOper head (front ++ node :: back) none)
    (absent : oper ∉ front.map registry.stMessOper) (found : registry.stMessOper node = oper)
    (enough : front.length < bound) :
    cancelSearch registry oper bound pstLast head = some (front.getLast?.or pstLast, node) := by
  induction front generalizing bound pstLast head with
  | nil =>
    obtain ⟨rfl, -⟩ := linked
    cases bound with
    | zero => cases enough
    | succ =>
      rw [cancelSearch, if_pos found]
      rfl
  | cons _ rest ih =>
    obtain ⟨rfl, linked⟩ := linked
    rw [map_cons, mem_cons, not_or] at absent
    cases bound with
    | zero => cases enough
    | succ =>
      rw [cancelSearch, if_neg (Ne.symm absent.1), ih linked absent.2 (lt_of_succ_lt_succ enough)]
      cases rest with
      | nil => rfl
      | cons => rfl

structure Registered (slots : Nat) (before after : Registry) (nodes : List Nat) (oper : MessOper)
    (node : Nat) : Prop where
  absent : oper ∉ nodes.map before.stMessOper
  fresh : node ∉ nodes
  listed : Listed slots after (nodes ++ [node])
  operAt : after.stMessOper node = oper
  operElse : ∀ other ∈ nodes, after.stMessOper other = before.stMessOper other

theorem registered_of_linked (listed : Listed slots registry nodes)
    (absent : oper ∉ nodes.map registry.stMessOper) (named : oper.pfnOper ≠ none)
    (free : registry.allocated node = false) (inside : node < slots)
    (linked : Segment after.pstNextOper after.g_pstEventOper (nodes ++ [node]) none)
    (opers : after.stMessOper = update registry.stMessOper node oper)
    (allocated : after.allocated = update registry.allocated node true) :
    Registered slots registry after nodes oper node := by
  have fresh := listed.not_mem free
  have operElse : ∀ other ∈ nodes, after.stMessOper other = registry.stMessOper other := by
    intro other member
    rw [opers, update_of_ne (ne_of_mem_of_not_mem member fresh)]
  have operAt : after.stMessOper node = oper := by rw [opers, update_self]
  refine ⟨absent, fresh, ⟨linked, ?_, ?_, ?_, ?_, ?_⟩, operAt, operElse⟩
  · rw [← concat_eq_append]
    exact listed.nodup.concat fresh
  · rw [allocated, forall_mem_append, forall_mem_singleton, update_self]
    refine ⟨fun other member => ?_, rfl⟩
    rw [update_of_ne (ne_of_mem_of_not_mem member fresh)]
    exact listed.allocated other member
  · rw [forall_mem_append, forall_mem_singleton]
    exact ⟨listed.inside, inside⟩
  · rw [map_append, map_congr_left operElse, map_singleton, operAt,
      ← concat_eq_append]
    exact listed.distinct.concat absent
  · rw [forall_mem_append, forall_mem_singleton, operAt]
    exact ⟨fun other member => operElse other member ▸ listed.named other member, named⟩

theorem hsCfgSysListenMsg_spec (listed : Listed slots registry nodes)
    (free : ∀ node, place = some node → registry.allocated node = false ∧ node < slots) :
    let after := hsCfgSysListenMsg slots registry message fnOper place
    after.2 = registry ∨ ∃ node, Registered slots registry after.2
        nodes { u16MessType := message, pfnOper := fnOper } node := by
  unfold hsCfgSysListenMsg
  by_cases null : fnOper = none
  · rw [if_pos null]
    exact .inl rfl
  rw [if_neg null]
  by_cases present : (cfgSysChkMsg registry { u16MessType := message, pfnOper := fnOper } slots
      registry.g_pstEventOper).isSome
  · rw [if_pos present]
    exact .inl rfl
  rw [if_neg present]
  have absent := mt listed.cfgSysChkMsg_isSome.mpr present
  cases place with
  | none => exact .inl rfl
  | some node =>
    obtain ⟨unused, inside⟩ := free node rfl
    refine .inr ⟨node, ?_⟩
    have fresh := listed.not_mem unused
    -- The new node becomes the head of an empty list or follows the last node.
    rcases eq_nil_or_concat' nodes with rfl | ⟨front, last, rfl⟩
    · have empty : registry.g_pstEventOper = none := listed.linked
      simp only [empty]
      refine registered_of_linked listed absent null unused inside ⟨rfl, ?_⟩ rfl rfl
      exact update_self node none registry.pstNextOper
    · cases start : registry.g_pstEventOper with
      | none =>
        have impossible := listed.linked.head_eq
        rw [start] at impossible
        cases front <;> cases impossible
      | some head =>
        have linked : Segment (update registry.pstNextOper node none) (some head)
            (front ++ [last]) none := by
          rw [← start]
          exact listed.linked.congr fun other member =>
            update_of_ne (ne_of_mem_of_not_mem member fresh) _ _
        have enough : front.length ≤ slots := by
          have fits := listed.length_le
          rw [length_append] at fits
          exact le_of_add_right_le fits
        refine registered_of_linked listed absent null unused inside ?_ rfl rfl
        dsimp only [cfgSysNewEvent]
        rw [lastOper_eq linked enough, start, ← start]
        exact listed.linked.link_last listed.nodup fresh

theorem Listed.filter (listed : Listed slots registry (front ++ node :: back))
    (linked : Segment after.pstNextOper after.g_pstEventOper (front ++ back) none)
    (opers : after.stMessOper = registry.stMessOper)
    (allocated : after.allocated = update registry.allocated node false) :
    Listed slots after (front ++ back) := by
  have fewer := List.Sublist.append_left (sublist_cons_self node back) front
  have gone := (nodup_middle.mp listed.nodup).notMem
  refine ⟨linked, listed.nodup.sublist fewer, ?_, ?_, ?_, ?_⟩
  · intro other member
    rw [allocated, update_of_ne (ne_of_mem_of_not_mem member gone)]
    exact listed.allocated other (fewer.subset member)
  · exact fun other member => listed.inside other (fewer.subset member)
  · rw [opers]
    exact listed.distinct.sublist (fewer.map _)
  · rw [opers]
    exact fun other member => listed.named other (fewer.subset member)

def without (registry : Registry) (oper : MessOper) (nodes : List Nat) : List Nat :=
  nodes.filter fun node => registry.stMessOper node ≠ oper

theorem without_append (registry : Registry) (oper : MessOper) (front back : List Nat) :
    without registry oper (front ++ back) =
      without registry oper front ++ without registry oper back :=
  filter_append front back

theorem without_cons_of_ne (rest : List Nat) (other : registry.stMessOper node ≠ oper) :
    without registry oper (node :: rest) = node :: without registry oper rest :=
  filter_cons_of_pos (decide_eq_true other)

theorem without_cons_of_eq (rest : List Nat) (same : registry.stMessOper node = oper) :
    without registry oper (node :: rest) = without registry oper rest :=
  filter_cons_of_neg fun other => of_decide_eq_true other same

theorem without_of_absent (absent : oper ∉ nodes.map registry.stMessOper) :
    without registry oper nodes = nodes := by
  refine filter_eq_self.mpr fun node member => decide_eq_true fun same => ?_
  exact absent (same ▸ List.mem_map_of_mem member)

theorem without_middle (distinct : ((front ++ node :: back).map registry.stMessOper).Nodup) :
    without registry (registry.stMessOper node) (front ++ node :: back) = front ++ back := by
  rw [map_append, map_cons, nodup_middle, ← map_append] at distinct
  rw [without_append, without_cons_of_eq back rfl, ← without_append]
  exact without_of_absent distinct.notMem

theorem hsCfgSysCancelListenMsg_spec (listed : Listed slots registry nodes)
    (target : oper = { u16MessType := message, pfnOper := fnOper }) :
    let after := hsCfgSysCancelListenMsg slots registry message fnOper
    Listed slots after.2 (without registry oper nodes) ∧ after.2.stMessOper = registry.stMessOper ∧
      ∀ node, after.1 = some node → registry.stMessOper node = oper := by
  subst target
  unfold hsCfgSysCancelListenMsg
  by_cases present : { u16MessType := message, pfnOper := fnOper } ∈ nodes.map registry.stMessOper
  · obtain ⟨node, member, found⟩ := List.mem_map.mp present
    have notNull : fnOper ≠ none := by
      have named := listed.named node member
      rwa [found] at named
    obtain ⟨front, _, rfl⟩ := append_of_mem member
    have shorter : front.length < slots := by
      have fits := listed.length_le
      rw [length_append, length_cons] at fits
      omega
    have absent : { u16MessType := message, pfnOper := fnOper } ∉
        front.map registry.stMessOper := by
      have distinct := listed.distinct
      rw [map_append, map_cons, found] at distinct
      exact fun earlier => disjoint_of_nodup_append distinct earlier (.head _)
    rw [if_neg notNull, cancelSearch_found listed.linked absent found shorter, ← found,
      without_middle listed.distinct]
    rcases eq_nil_or_concat' front with rfl | ⟨before, last, rfl⟩
    · refine ⟨listed.filter ?_ rfl rfl, rfl, fun freed same => ?_⟩
      · exact listed.linked.2
      · rw [Option.some.inj same]
    · rw [getLast?_concat]
      refine ⟨listed.filter ?_ rfl rfl, rfl, fun freed same => ?_⟩
      · exact listed.linked.unlink listed.nodup
      · rw [Option.some.inj same]
  · rw [without_of_absent present, cancelSearch_none listed.linked present, ite_self]
    exact ⟨listed, rfl, nofun⟩

end

/-! ### Dispatch -/

def listenerOf (registry : Registry) (message : BitVec 16) (node : Nat) : Option Nat :=
  if (registry.stMessOper node).u16MessType = message then (registry.stMessOper node).pfnOper
  else none

/-- The registry with the pointer of a dispatch and the function it is calling. The
other fields are its history since its start: a freed node, the listeners that stay, the
calls made, the nodes reached. -/
structure EventSystem where
  registry : Registry
  message : BitVec 16
  (pstTemp running : Option Nat)
  freed : Bool
  (staying called : List Nat)
  (reached atStart : Nat)

def EventSystem.start : EventSystem :=
  { registry :=
      { g_pstEventOper := none
        stMessOper := fun _ => { u16MessType := 0, pfnOper := none }
        pstNextOper := fun _ => none
        allocated := fun _ => false }
    message := 0
    pstTemp := none
    running := none
    freed := false
    staying := []
    called := []
    reached := 0
    atStart := 0 }

/-- The head of the loop of `_cfg_sysDoEvent`: at a node with the message the
mutex is released and the listener called. -/
def EventSystem.arrive (system : EventSystem) : Option Nat → EventSystem
  | none => { system with pstTemp := none, running := none, freed := false }
  | some node =>
    let running := listenerOf system.registry system.message node
    { system with
      pstTemp := some node
      running := running
      freed := false
      called := system.called ++ running.toList
      reached := system.reached + 1 }

def EventSystem.doEvent (slots : Nat) (system : EventSystem) (message : BitVec 16) :
    EventSystem :=
  let nodes := LinkedChain.walk system.registry.pstNextOper slots system.registry.g_pstEventOper
  { system with
    message := message
    staying := nodes.filterMap (listenerOf system.registry message)
    called := []
    reached := 0
    atStart := nodes.length : EventSystem }.arrive system.registry.g_pstEventOper

def stillStaying (message cancelled : BitVec 16) (fnOper : Option Nat) (staying : List Nat) :
    List Nat :=
  if cancelled = message then staying.filter fun listener => some listener ≠ fnOper else staying

def EventSystem.cancel (slots : Nat) (system : EventSystem) (message : BitVec 16)
    (fnOper : Option Nat) : EventSystem :=
  let result := hsCfgSysCancelListenMsg slots system.registry message fnOper
  { system with
    registry := result.2
    freed := system.freed || (result.1.isSome && result.1 == system.pstTemp)
    staying :=
      if system.pstTemp = none then system.staying
      else stillStaying system.message message fnOper system.staying }

inductive EventAction where
  | listen (message : BitVec 16) (fnOper : Option Nat) (place : Option Nat)
  | cancel (message : BitVec 16) (fnOper : Option Nat)
  | doEvent (message : BitVec 16)
  | next

def EventSystem.Unlocked (system : EventSystem) : Prop :=
  system.pstTemp = none ∨ system.running ≠ none

instance (system : EventSystem) : Decidable system.Unlocked :=
  inferInstanceAs (Decidable (_ ∨ _))

/-- Whoever runs while the mutex is free registers and cancels listeners; `next`
is the end of the loop body, where the pointer moves on. -/
def EventSystem.step (slots : Nat) (system : EventSystem) : EventAction → EventSystem
  | .listen message fnOper place =>
    if system.Unlocked then
      { system with
        registry := (hsCfgSysListenMsg slots system.registry message fnOper place).2 }
    else system
  | .cancel message fnOper =>
    if system.Unlocked then system.cancel slots message fnOper else system
  | .doEvent message =>
    if system.pstTemp = none then system.doEvent slots message else system
  | .next =>
    match system.pstTemp with
    | none => system
    | some node => system.arrive (system.registry.pstNextOper node)

def EventSystem.run (slots : Nat) (system : EventSystem) (actions : List EventAction) :
    EventSystem :=
  actions.foldl (EventSystem.step slots) system

def EventAllowed (slots : Nat) (system : EventSystem) : EventAction → Prop
  | .listen _ _ place =>
    ∀ node, place = some node → system.registry.allocated node = false ∧ node < slots
  | .cancel message fnOper =>
    ¬(system.running ≠ none ∧ message = system.message ∧ fnOper = system.running)
  | .doEvent _ => True
  | .next => True

def PointerGood (system : EventSystem) : EventAction → Prop
  | .next => ∀ node, system.pstTemp = some node →
      system.freed = false ∧ system.registry.allocated node = true
  | _ => True

/-- Once the dispatch is over the listeners that stayed have been called once each, in
order. -/
structure CalledInOrder (system : EventSystem) : Prop where
  once : system.staying.Nodup
  inOrder : system.pstTemp = none ∨ system.atStart ≤ system.reached →
    (system.called.filter fun listener => listener ∈ system.staying) = system.staying

section

variable {system : EventSystem} {behind old new : List Nat} {current : Nat}

/-- A dispatch at `current`: `old` are the nodes ahead that were registered at
its start, `new` those registered since. -/
structure Dispatching (slots : Nat) (system : EventSystem) (behind : List Nat) (current : Nat)
    (old new : List Nat) : Prop where
  listed : Listed slots system.registry (behind ++ current :: (old ++ new))
  here : system.pstTemp = some current
  kept : system.freed = false
  running : system.running = listenerOf system.registry system.message current
  order : system.staying = (system.called.filter fun listener => listener ∈ system.staying) ++
    old.filterMap (listenerOf system.registry system.message)
  known : ∀ listener ∈ system.staying, ∃ node ∈ behind ++ current :: old,
    listenerOf system.registry system.message node = some listener
  bound : old = [] ∨ system.reached + old.length ≤ system.atStart
  nodup : system.staying.Nodup

structure Resting (slots : Nat) (system : EventSystem) (nodes : List Nat) : Prop where
  listed : Listed slots system.registry nodes
  idle : system.pstTemp = none
  stopped : system.running = none
  served : (system.called.filter fun listener => listener ∈ system.staying) = system.staying
  nodup : system.staying.Nodup

def EventInvariant (slots : Nat) (system : EventSystem) : Prop :=
  (∃ nodes, Resting slots system nodes) ∨
    ∃ behind current old new, Dispatching slots system behind current old new

theorem EventInvariant.calledInOrder (invariant : EventInvariant slots system) :
    CalledInOrder system := by
  rcases invariant with ⟨nodes, resting⟩ | ⟨behind, current, old, new, dispatching⟩
  · exact ⟨resting.nodup, fun _ => resting.served⟩
  · refine ⟨dispatching.nodup, ?_⟩
    rintro (ended | _)
    · rw [dispatching.here] at ended
      cases ended
    · have none : old = [] := by
        rcases dispatching.bound with none | bound
        · exact none
        · exact eq_nil_of_length_eq_zero (by omega)
      have order := dispatching.order
      rw [none, filterMap_nil, append_nil] at order
      exact order.symm

theorem EventInvariant.pointerGood (invariant : EventInvariant slots system)
    (action : EventAction) :
    PointerGood system action := by
  cases action with
  | next =>
    intro _ standing
    rcases invariant with ⟨nodes, resting⟩ | ⟨behind, current, old, new, dispatching⟩
    · rw [resting.idle] at standing
      cases standing
    · rw [dispatching.here] at standing
      obtain rfl := Option.some.inj standing
      exact ⟨dispatching.kept, dispatching.listed.allocated current
        (mem_append_right behind (.head _))⟩
  | listen => trivial
  | cancel => trivial
  | doEvent => trivial

theorem listenerOf_congr (same : after.stMessOper node = registry.stMessOper node) :
    listenerOf after message node = listenerOf registry message node := by
  unfold listenerOf
  rw [same]

variable {listener : Nat}

theorem stMessOper_of_listenerOf (found : listenerOf registry message node = some listener) :
    registry.stMessOper node = { u16MessType := message, pfnOper := some listener } := by
  unfold listenerOf at found
  split at found
  · next same =>
    rw [← same, ← found]
  · cases found

theorem Dispatching.listen (dispatching : Dispatching slots system behind current old new)
    {fnOper : Option Nat}
    (free : ∀ node, place = some node → system.registry.allocated node = false ∧ node < slots) :
    ∃ new, Dispatching slots { system with
      registry := (hsCfgSysListenMsg slots system.registry message fnOper place).2 }
      behind current old new := by
  rcases hsCfgSysListenMsg_spec dispatching.listed free with same | ⟨node, registered⟩
  · rw [same]
    exact ⟨new, dispatching⟩
  · have listed := registered.listed
    rw [append_assoc, cons_append, append_assoc] at listed
    have unchanged : ∀ other ∈ behind ++ current :: old,
        listenerOf (hsCfgSysListenMsg slots system.registry message fnOper place).2
          system.message other = listenerOf system.registry system.message other := by
      intro other member
      refine listenerOf_congr (registered.operElse other ?_)
      rw [← cons_append, ← append_assoc]
      exact mem_append_left new member
    refine ⟨new ++ [node], listed, dispatching.here, dispatching.kept, ?_, ?_, ?_,
      dispatching.bound, dispatching.nodup⟩
    · refine dispatching.running.trans (unchanged current ?_).symm
      exact mem_append_right behind (.head _)
    · refine dispatching.order.trans (congrArg _ (filterMap_congr fun other member => ?_))
      exact (unchanged other (mem_append_right behind (.tail _ member))).symm
    · intro listener member
      obtain ⟨other, inList, found⟩ := dispatching.known listener member
      exact ⟨other, inList, (unchanged other inList).trans found⟩

/-! #### Cancelling -/

theorem stillStaying_eq_filter (message cancelled : BitVec 16) (fnOper : Option Nat)
    (staying : List Nat) :
    stillStaying message cancelled fnOper staying =
      staying.filter fun listener => ¬(cancelled = message ∧ some listener = fnOper) := by
  unfold stillStaying
  by_cases same : cancelled = message <;> simp [same]

theorem filterMap_without (registry : Registry) (message cancelled : BitVec 16)
    (fnOper : Option Nat) (nodes : List Nat) :
    (without registry { u16MessType := cancelled, pfnOper := fnOper } nodes).filterMap
        (listenerOf registry message) =
      stillStaying message cancelled fnOper (nodes.filterMap (listenerOf registry message)) := by
  rw [stillStaying_eq_filter]
  induction nodes with
  | nil => rfl
  | cons node rest ih =>
    by_cases gone : registry.stMessOper node = { u16MessType := cancelled, pfnOper := fnOper }
    · rw [without_cons_of_eq rest gone, ih]
      cases found : listenerOf registry message node with
      | none => rw [filterMap_cons_none found]
      | some =>
        obtain ⟨rfl, rfl⟩ := MessOper.mk.inj (gone.symm.trans (stMessOper_of_listenerOf found))
        rw [filterMap_cons_some found, filter_cons_of_neg (by simp)]
    · rw [without_cons_of_ne rest gone]
      cases found : listenerOf registry message node with
      | none => rw [filterMap_cons_none found, filterMap_cons_none found, ih]
      | some =>
        rw [filterMap_cons_some found, filterMap_cons_some found, ih, filter_cons_of_pos]
        refine decide_eq_true ?_
        rintro ⟨rfl, rfl⟩
        exact gone (stMessOper_of_listenerOf found)

theorem order_stillStaying {staying called ahead : List Nat} (message cancelled : BitVec 16)
    (fnOper : Option Nat)
    (order : staying = (called.filter fun listener => listener ∈ staying) ++ ahead) :
    stillStaying message cancelled fnOper staying =
      (called.filter fun listener => listener ∈ stillStaying message cancelled fnOper staying) ++
        stillStaying message cancelled fnOper ahead := by
  simp only [stillStaying_eq_filter, mem_filter, decide_eq_true_eq, Bool.decide_and]
  conv_lhs => rw [order, filter_append, List.filter_filter]
  exact congrArg (· ++ _) (filter_congr fun _ _ => Bool.and_comm _ _)

theorem Dispatching.cancel (dispatching : Dispatching slots system behind current old new)
    {oper : MessOper} (unlocked : system.Unlocked)
    (isOper : oper = { u16MessType := message, pfnOper := fnOper })
    (allowed : ¬(system.running ≠ none ∧ message = system.message ∧ fnOper = system.running)) :
    Dispatching slots (system.cancel slots message fnOper)
      (without system.registry oper behind) current
      (without system.registry oper old) (without system.registry oper new) := by
  have inCallback : system.running ≠ none := by
    rcases unlocked with idle | inCallback
    · rw [dispatching.here] at idle
      cases idle
    · exact inCallback
  -- The node under call belongs to the message and to the running function.
  have currentStays : system.registry.stMessOper current ≠ oper := by
    intro same
    obtain ⟨listener, calls⟩ := ne_none_iff_exists'.mp inCallback
    have here := stMessOper_of_listenerOf (dispatching.running.symm.trans calls)
    obtain ⟨rfl, rfl⟩ := MessOper.mk.inj ((same.trans isOper).symm.trans here)
    exact allowed ⟨inCallback, rfl, calls.symm⟩
  obtain ⟨listed, opers, target⟩ := hsCfgSysCancelListenMsg_spec dispatching.listed isOper
  have listeners : listenerOf (system.cancel slots message fnOper).registry system.message =
      listenerOf system.registry system.message :=
    funext fun node => listenerOf_congr (congrFun opers node)
  have stays : (system.cancel slots message fnOper).staying =
      stillStaying system.message message fnOper system.staying := by
    unfold EventSystem.cancel
    rw [dispatching.here]
    rfl
  have parts : without system.registry oper (behind ++ current :: (old ++ new)) =
      without system.registry oper behind ++ current ::
        (without system.registry oper old ++ without system.registry oper new) := by
    rw [without_append, without_cons_of_ne _ currentStays, without_append]
  refine ⟨parts ▸ listed, dispatching.here, ?_, ?_, ?_, ?_, ?_, ?_⟩
  · have another : (hsCfgSysCancelListenMsg slots system.registry message fnOper).1 ≠
        some current := fun freed => currentStays (target current freed)
    change (system.freed || (_ && _ == system.pstTemp)) = false
    rw [dispatching.kept, dispatching.here, beq_eq_false_iff_ne.mpr another, Bool.and_false]
    rfl
  · exact dispatching.running.trans (congrFun listeners current).symm
  · rw [stays]
    refine (order_stillStaying _ message fnOper dispatching.order).trans (congrArg _ ?_)
    rw [← filterMap_without, ← isOper]
    exact congrArg (filterMap · _) listeners.symm
  · rw [stays, stillStaying_eq_filter]
    intro listener member
    obtain ⟨staying, other⟩ := mem_filter.mp member
    obtain ⟨node, inList, found⟩ := dispatching.known listener staying
    refine ⟨node, ?_, (congrFun listeners node).trans found⟩
    have kept : system.registry.stMessOper node ≠ oper := by
      intro same
      rw [stMessOper_of_listenerOf found, isOper] at same
      obtain ⟨rfl, rfl⟩ := MessOper.mk.inj same
      exact of_decide_eq_true other ⟨rfl, rfl⟩
    have inFiltered : node ∈ without system.registry oper (behind ++ current :: old) :=
      mem_filter.mpr ⟨inList, decide_eq_true kept⟩
    rwa [without_append, without_cons_of_ne _ currentStays] at inFiltered
  · rcases dispatching.bound with none | bound
    · left
      rw [none]
      rfl
    · right
      exact le_trans (Nat.add_le_add_left (length_filter_le _ old) _) bound
  · rw [stays, stillStaying_eq_filter]
    exact dispatching.nodup.filter _

theorem order_arrive {staying called rest : List Nat} {listener : Nat → Option Nat}
    (order : staying = (called.filter fun fn => fn ∈ staying) ++
      (node :: rest).filterMap listener) :
    staying = ((called ++ (listener node).toList).filter fun fn => fn ∈ staying) ++
      rest.filterMap listener := by
  cases found : listener node with
  | none =>
    rw [filterMap_cons_none found] at order
    rwa [toList_none, append_nil]
  | some fn =>
    rw [filterMap_cons_some found] at order
    have stays : fn ∈ staying := by
      rw [order]
      exact mem_append_right _ (.head _)
    have kept : ([fn].filter fun fn => fn ∈ staying) = [fn] :=
      filter_cons_of_pos (decide_eq_true stays)
    rwa [toList_some, filter_append, kept, append_assoc]

theorem Dispatching.new_not_staying {rest : List Nat}
    (dispatching : Dispatching slots system behind current [] (node :: rest))
    (found : listenerOf system.registry system.message node = some listener) :
    listener ∉ system.staying := by
  intro stays
  obtain ⟨_, inList, same⟩ := dispatching.known listener stays
  have distinct := dispatching.listed.distinct
  rw [nil_append, ← singleton_append, ← append_assoc, map_append] at distinct
  refine disjoint_of_nodup_append distinct (List.mem_map_of_mem inList) ?_
  rw [map_cons, stMessOper_of_listenerOf same, ← stMessOper_of_listenerOf found]
  exact .head _

theorem Dispatching.next (dispatching : Dispatching slots system behind current old new) :
    EventInvariant slots (system.arrive (system.registry.pstNextOper current)) := by
  have pointer := dispatching.listed.linked.next_eq
  have listed := dispatching.listed
  rw [pointer]
  cases old with
  | cons node rest =>
    rw [← singleton_append, ← append_assoc] at listed
    refine .inr ⟨behind ++ [current], node, rest, new, listed, rfl, rfl, rfl,
      order_arrive dispatching.order, ?_, ?_, dispatching.nodup⟩
    · intro listener member
      obtain ⟨other, inList, found⟩ := dispatching.known listener member
      rw [← singleton_append, ← append_assoc] at inList
      exact ⟨other, inList, found⟩
    · right
      have bound := dispatching.bound.resolve_left (cons_ne_nil node rest)
      change system.reached + 1 + rest.length ≤ system.atStart
      rw [length_cons] at bound
      omega
  | nil =>
    have order := dispatching.order
    rw [filterMap_nil, append_nil] at order
    cases new with
    | nil => exact .inl ⟨_, listed, rfl, rfl, order.symm, dispatching.nodup⟩
    | cons node rest =>
      rw [nil_append, ← singleton_append, ← append_assoc] at listed
      refine .inr ⟨behind ++ [current], node, [], rest, listed, rfl, rfl, rfl, ?_, ?_,
        .inl rfl, dispatching.nodup⟩
      · have skipped : ((listenerOf system.registry system.message node).toList.filter
            fun listener => listener ∈ system.staying) = [] := by
          cases found : listenerOf system.registry system.message node with
          | none => rfl
          | some =>
            exact filter_cons_of_neg fun stays =>
              dispatching.new_not_staying found (of_decide_eq_true stays)
        change system.staying = ((system.called ++ _).filter fun listener =>
          listener ∈ system.staying) ++ []
        rwa [filter_append, skipped, append_nil, append_nil]
      · intro listener member
        obtain ⟨other, inList, found⟩ := dispatching.known listener member
        exact ⟨other, mem_append_left [node] inList, found⟩

theorem Listed.nodup_listeners (listed : Listed slots registry nodes) (message : BitVec 16) :
    (nodes.filterMap (listenerOf registry message)).Nodup := by
  have injective : ∀ (first second : MessOper) (listener : Nat),
      listener ∈ (if first.u16MessType = message then first.pfnOper else none) →
      listener ∈ (if second.u16MessType = message then second.pfnOper else none) →
      first = second := by
    rintro ⟨_, _⟩ ⟨_, _⟩ listener one two
    split at one <;> split at two
    · simp_all
    · cases two
    · cases one
    · cases one
  have nodup := listed.distinct.filterMap injective
  rwa [filterMap_map] at nodup

section

variable (resting : Resting slots system nodes)
include resting

theorem Resting.doEvent (message : BitVec 16) :
    EventInvariant slots (system.doEvent slots message) := by
  have listed := resting.listed
  have whole := listed.linked.walk_eq listed.length_le
  have distinct := listed.nodup_listeners message
  unfold EventSystem.doEvent
  rw [whole, listed.linked.head_eq]
  cases nodes with
  | nil => exact .inl ⟨[], listed, rfl, rfl, rfl, .nil⟩
  | cons node rest =>
    refine .inr ⟨[], node, rest, [], ?_, rfl, rfl, rfl, order_arrive rfl, ?_, ?_, distinct⟩
    · rwa [append_nil]
    · intro _ member
      exact mem_filterMap.mp member
    · right
      exact le_of_eq (add_comm 1 rest.length)

theorem Resting.listen {fnOper : Option Nat}
    (free : ∀ node, place = some node → system.registry.allocated node = false ∧ node < slots) :
    ∃ nodes, Resting slots { system with
      registry := (hsCfgSysListenMsg slots system.registry message fnOper place).2 } nodes := by
  rcases hsCfgSysListenMsg_spec resting.listed free with same | ⟨node, registered⟩
  · rw [same]
    exact ⟨nodes, resting⟩
  · exact ⟨nodes ++ [node], registered.listed, resting.idle, resting.stopped, resting.served,
      resting.nodup⟩

theorem Resting.cancel (message : BitVec 16)
    (fnOper : Option Nat) : ∃ nodes, Resting slots (system.cancel slots message fnOper) nodes := by
  have stays : (system.cancel slots message fnOper).staying = system.staying :=
    if_pos resting.idle
  refine ⟨_, (hsCfgSysCancelListenMsg_spec resting.listed rfl).1, resting.idle, resting.stopped,
    ?_, ?_⟩
  · rw [stays]
    exact resting.served
  · rw [stays]
    exact resting.nodup

end

theorem EventInvariant.step (invariant : EventInvariant slots system) {action : EventAction}
    (allowed : EventAllowed slots system action) :
    EventInvariant slots (system.step slots action) := by
  cases action with
  | listen =>
    rw [EventSystem.step]
    split
    · rcases invariant with ⟨nodes, resting⟩ | ⟨behind, current, old, new, dispatching⟩
      · exact .inl (resting.listen allowed)
      · exact .inr ⟨behind, current, old, dispatching.listen allowed⟩
    · exact invariant
  | cancel message fnOper =>
    rw [EventSystem.step]
    split
    · next unlocked =>
      rcases invariant with ⟨nodes, resting⟩ | ⟨behind, current, old, new, dispatching⟩
      · exact .inl (resting.cancel message fnOper)
      · exact .inr ⟨_, _, _, _, dispatching.cancel unlocked rfl allowed⟩
    · exact invariant
  | doEvent message =>
    rw [EventSystem.step]
    rcases invariant with ⟨nodes, resting⟩ | ⟨behind, current, old, new, dispatching⟩
    · rw [if_pos resting.idle]
      exact resting.doEvent message
    · rw [if_neg fun idle => some_ne_none current (dispatching.here.symm.trans idle)]
      exact .inr ⟨behind, current, old, new, dispatching⟩
  | next =>
    rw [EventSystem.step]
    rcases invariant with ⟨nodes, resting⟩ | ⟨behind, current, old, new, dispatching⟩
    · rw [resting.idle]
      exact .inl ⟨nodes, resting⟩
    · rw [dispatching.here]
      exact dispatching.next

theorem EventInvariant.start (slots : Nat) : EventInvariant slots .start := by
  have empty : Listed slots EventSystem.start.registry [] :=
    ⟨rfl, .nil, nofun, nofun, .nil, nofun⟩
  exact .inl ⟨[], empty, rfl, rfl, rfl, .nil⟩

end

theorem dispatchSafe_of_allowed (slots : Nat) (actions : List EventAction)
    (allowed : Along (EventSystem.step slots) (EventAllowed slots) .start actions) :
    Along (EventSystem.step slots) PointerGood .start actions ∧
      CalledInOrder (EventSystem.start.run slots actions) := by
  have preserved : ∀ system action, EventInvariant slots system →
      EventAllowed slots system action → EventInvariant slots (system.step slots action) :=
    fun _ _ invariant permitted => invariant.step permitted
  constructor
  · exact along_of_invariant preserved
      (fun _ action invariant _ => invariant.pointerGood action) (.start slots) allowed
  · have invariant := invariant_of_along preserved (.start slots) allowed
    exact invariant.calledInOrder

/-- Listeners 10, 20 and 30 for message 5; the first cancels the second and
registers a fourth in its place. -/
theorem dispatchSafe_of_allowed_cancel_other : Along (EventSystem.step 4) PointerGood .start
      [.listen 5 (some 10) (some 0), .listen 5 (some 20) (some 1), .listen 5 (some 30) (some 2),
        .doEvent 5, .cancel 5 (some 20), .listen 5 (some 40) (some 1), .next, .next, .next] ∧
    CalledInOrder (EventSystem.start.run 4
      [.listen 5 (some 10) (some 0), .listen 5 (some 20) (some 1), .listen 5 (some 30) (some 2),
        .doEvent 5, .cancel 5 (some 20), .listen 5 (some 40) (some 1), .next, .next, .next]) := by
  refine dispatchSafe_of_allowed 4 _ ⟨?_, ?_, ?_, trivial, ?_, ?_, trivial, trivial, trivial,
    trivial⟩
  · rintro node ⟨⟩
    exact ⟨rfl, by decide⟩
  · rintro node ⟨⟩
    exact ⟨by decide, by decide⟩
  · rintro node ⟨⟩
    exact ⟨by decide, by decide⟩
  · rintro ⟨-, -, same⟩
    exact absurd same (by decide)
  · rintro node ⟨⟩
    exact ⟨by decide, by decide⟩

/-- The first listener cancels itself and registers another one at the same place: the
dispatch follows the pointer of the freed node, and the second listener is not called.
-/
theorem not_dispatchSafe_cancel_self : ¬(Along (EventSystem.step 4) PointerGood .start
      [.listen 5 (some 10) (some 0), .listen 5 (some 20) (some 1), .doEvent 5,
        .cancel 5 (some 10), .listen 6 (some 30) (some 0), .next] ∧
    CalledInOrder (EventSystem.start.run 4
      [.listen 5 (some 10) (some 0), .listen 5 (some 20) (some 1), .doEvent 5,
        .cancel 5 (some 10), .listen 6 (some 30) (some 0), .next])) := by
  rintro ⟨⟨-, -, -, -, -, good, -⟩, -⟩
  exact absurd (good 0 (by decide)).1 (by decide)

end Hfirmware.System
