/-
Detection of the USB plug. What is on the host line is decided by the charger line when
it is plugged in.
-/

import Hfirmware.Debounce
import Hfirmware.LoggedRun

namespace Hfirmware.Usb

open List Debounce

inductive PlugAction where
  | clrBatStatus | chargerEn | batteryCharging | batteryChargeout | padDevice | padNone
  | enableData | hostOpen | hostClose
  | enSleep (on : Bool)
  | usbhostPlugin (fast : Bool)
  | usbhostPlugout | usbdevicePlugin | usbdevicePlugout

/-- `hs_usbpara_t`, with the `u8D` and the `u8H` fields as the two debouncers, and
`g_u8UsbFirstPos`, which has no value at first. -/
structure HsUsbpara where
  (device host : Debouncer)
  u8IsDevice : Bool
  g_u8UsbFirstPos : Option Bool

def HsUsbpara.init : HsUsbpara :=
  { device := .init
    host := .init
    u8IsDevice := false
    g_u8UsbFirstPos := none }

def usbScanDevicePlug (u8UsbAudioEn : Bool) (para : HsUsbpara) (usbStatus : Bool) :
    HsUsbpara × List PlugAction :=
  let (device, fired) := para.device.sample 3 usbStatus
  ({ para with device },
    if fired then
      .clrBatStatus ::
        if usbStatus then
          [.chargerEn, .batteryCharging] ++ if u8UsbAudioEn then [.padDevice, .enableData] else []
        else [.batteryChargeout] ++ if u8UsbAudioEn then [.padNone] else []
    else [])

def hostChanged (u8UsbAudioEn : Bool) (para : HsUsbpara) (firstPos usbStatus : Bool) :
    HsUsbpara × List PlugAction :=
  if u8UsbAudioEn then
    if usbStatus then
      if para.device.last = false then
        ({ para with u8IsDevice := false },
          [.hostOpen, .enSleep false, .usbhostPlugin (firstPos == false)])
      else ({ para with u8IsDevice := true }, [.usbdevicePlugin])
    else if para.u8IsDevice = false then (para, [.hostClose, .enSleep true, .usbhostPlugout])
    else (para, [.usbdevicePlugout])
  else if usbStatus then
    ({ para with u8IsDevice := false }, [.hostOpen, .enSleep false, .usbhostPlugin false])
  else (para, [.hostClose, .enSleep true, .usbhostPlugout])

def usbScanHostPlug (u8UsbAudioEn : Bool) (para : HsUsbpara) (usbStatus : Bool) :
    HsUsbpara × List PlugAction :=
  let firstPos := para.g_u8UsbFirstPos.getD usbStatus
  let (host, fired) := para.host.sample 10 usbStatus
  let sampled := { para with host, g_u8UsbFirstPos := some firstPos }
  if fired then hostChanged u8UsbAudioEn sampled firstPos usbStatus else (sampled, [])

structure PlugSample where
  (charger host : Bool)

def hsUsbScanPlug (u8UsbAudioEn : Bool) (para : HsUsbpara) (sample : PlugSample) :
    HsUsbpara × List PlugAction :=
  let (scanned, first) := usbScanDevicePlug u8UsbAudioEn para sample.charger
  let (after, second) := usbScanHostPlug u8UsbAudioEn scanned sample.host
  (after, first ++ second)

def plugRun (u8UsbAudioEn : Bool) (samples : List PlugSample) : HsUsbpara × List PlugAction :=
  LoggedRun.run (hsUsbScanPlug u8UsbAudioEn) .init samples

inductive PlugKind where
  | host | device
deriving DecidableEq

def PlugAction.charging : PlugAction → Option Bool
  | .batteryCharging => some true
  | .batteryChargeout => some false
  | _ => none

def PlugAction.plug : PlugAction → Option (Bool × PlugKind)
  | .usbhostPlugin _ => some (true, .host)
  | .usbhostPlugout => some (false, .host)
  | .usbdevicePlugin => some (true, .device)
  | .usbdevicePlugout => some (false, .device)
  | _ => none

def PlugAction.power : PlugAction → Option Bool
  | .hostOpen => some true
  | .hostClose => some false
  | _ => none

def PlugAction.hostPlug : PlugAction → Option Bool
  | .usbhostPlugin _ => some true
  | .usbhostPlugout => some false
  | _ => none

def alternate (last event : Bool) : Option Bool := if event = !last then some event else none

def pairUp : Option PlugKind → Bool × PlugKind → Option (Option PlugKind)
  | none, (true, kind) => some (some kind)
  | some kind, (false, other) => if other = kind then some none else none
  | _, _ => none

structure PlugProtocol (log : List PlugAction) : Prop where
  charging : ((log.filterMap PlugAction.charging).foldlM alternate false).isSome
  plugs : ((log.filterMap PlugAction.plug).foldlM pairUp none).isSome
  power : ((log.filterMap PlugAction.power).foldlM alternate false).isSome

/-- What one scan may do after the samples `before`: its events end runs of equal samples, and
its calls of the host driver go with its host plug events. -/
structure ScanProtocol (before : List PlugSample) (sample : PlugSample)
    (actions : List PlugAction) : Prop where
  charging : ∀ value ∈ actions.filterMap PlugAction.charging,
    RunOf value 4 ((before ++ [sample]).map PlugSample.charger)
  plugs : ∀ event ∈ actions.filterMap PlugAction.plug,
    RunOf event.1 11 ((before ++ [sample]).map PlugSample.host)
  power : actions.filterMap PlugAction.power = actions.filterMap PlugAction.hostPlug

def HsUsbpara.kind (para : HsUsbpara) : PlugKind := if para.u8IsDevice then .device else .host

structure Events (actions : List PlugAction) (charges : List Bool)
    (events : List (Bool × PlugKind)) (calls : List Bool) : Prop where
  charging : actions.filterMap PlugAction.charging = charges
  plugs : actions.filterMap PlugAction.plug = events
  power : actions.filterMap PlugAction.power = calls
  together : actions.filterMap PlugAction.hostPlug = calls

theorem Events.append {first second : List PlugAction} {charging charging' : List Bool}
    {plugs plugs' : List (Bool × PlugKind)} {power power' : List Bool}
    (one : Events first charging plugs power) (two : Events second charging' plugs' power') :
    Events (first ++ second) (charging ++ charging') (plugs ++ plugs') (power ++ power') := by
  constructor
  · rw [filterMap_append, one.charging, two.charging]
  · rw [filterMap_append, one.plugs, two.plugs]
  · rw [filterMap_append, one.power, two.power]
  · rw [filterMap_append, one.together, two.together]

theorem Events.none : Events [] [] [] [] := ⟨rfl, rfl, rfl, rfl⟩

section

variable {u8UsbAudioEn : Bool} {para : HsUsbpara} {usbStatus : Bool} {samples : List Bool}

theorem usbScanDevicePlug_events (settling : para.device.Settling 3 samples) :
    let after := usbScanDevicePlug u8UsbAudioEn para usbStatus
    Events after.2 [] [] [] ∧ (para.device.sample 3 usbStatus).1.last = para.device.last ∨
      Events after.2 [usbStatus] [] [] ∧
        (para.device.sample 3 usbStatus).1.last = usbStatus ∧ usbStatus = !para.device.last ∧
        RunOf usbStatus 4 (samples ++ [usbStatus]) := by
  unfold usbScanDevicePlug
  dsimp only
  cases fires : (para.device.sample 3 usbStatus).2 with
  | false => exact .inl ⟨.none, settling.quiet (by decide) fires⟩
  | true =>
    obtain ⟨change, last, run⟩ := settling.fired (by decide) fires
    refine .inr ⟨?_, last, Bool.eq_not.mpr change, run⟩
    cases usbStatus <;> cases u8UsbAudioEn <;> exact ⟨rfl, rfl, rfl, rfl⟩

theorem hostChanged_events (noDevice : u8UsbAudioEn = false → para.u8IsDevice = false)
    (firstPos : Bool) :
    ∃ after actions, hostChanged u8UsbAudioEn para firstPos usbStatus = (after, actions) ∧
      after = { para with u8IsDevice := after.u8IsDevice } ∧
      (u8UsbAudioEn = false → after.u8IsDevice = false) ∧
      (usbStatus = false → after.u8IsDevice = para.u8IsDevice) ∧
      Events actions [] [(usbStatus, after.kind)]
        (if after.u8IsDevice then [] else [usbStatus]) := by
  unfold hostChanged
  cases u8UsbAudioEn with
  | false =>
    cases usbStatus with
    | false =>
      have isHost := noDevice rfl
      refine ⟨_, _, rfl, rfl, noDevice, fun _ => rfl, ?_⟩
      rw [HsUsbpara.kind, isHost]
      exact ⟨rfl, rfl, rfl, rfl⟩
    | true => exact ⟨_, _, rfl, rfl, fun _ => rfl, nofun, rfl, rfl, rfl, rfl⟩
  | true =>
    cases usbStatus with
    | false =>
      cases isDevice : para.u8IsDevice with
      | false | true =>
        refine ⟨_, _, rfl, rfl, nofun, fun _ => isDevice, ?_⟩
        rw [HsUsbpara.kind, isDevice]
        exact ⟨rfl, rfl, rfl, rfl⟩
    | true =>
      cases charged : para.device.last with
      | false | true => exact ⟨_, _, rfl, rfl, nofun, nofun, rfl, rfl, rfl, rfl⟩

structure HostScanned (u8UsbAudioEn : Bool) (para : HsUsbpara) (usbStatus : Bool)
    (after : HsUsbpara) : Prop where
  device : after.device = para.device
  host : after.host = (para.host.sample 10 usbStatus).1
  noDevice : u8UsbAudioEn = false → after.u8IsDevice = false

theorem usbScanHostPlug_events (settling : para.host.Settling 10 samples)
    (noDevice : u8UsbAudioEn = false → para.u8IsDevice = false) :
    ∃ after actions, usbScanHostPlug u8UsbAudioEn para usbStatus = (after, actions) ∧
      HostScanned u8UsbAudioEn para usbStatus after ∧
      (Events actions [] [] [] ∧ after.host.last = para.host.last ∧
          after.u8IsDevice = para.u8IsDevice ∨
        Events actions [] [(usbStatus, after.kind)] (if after.u8IsDevice then [] else [usbStatus]) ∧
          after.host.last = usbStatus ∧ usbStatus = !para.host.last ∧
          (usbStatus = false → after.u8IsDevice = para.u8IsDevice) ∧
          RunOf usbStatus 11 (samples ++ [usbStatus])) := by
  unfold usbScanHostPlug
  dsimp only
  cases fires : (para.host.sample 10 usbStatus).2 with
  | false =>
    exact ⟨_, _, rfl, ⟨rfl, rfl, noDevice⟩, .inl ⟨.none, settling.quiet (by decide) fires, rfl⟩⟩
  | true =>
    obtain ⟨change, last, run⟩ := settling.fired (by decide) fires
    obtain ⟨after, actions, same, rest, kept, out, events⟩ :=
      @hostChanged_events _ { para with
        host := (para.host.sample 10 usbStatus).1
        g_u8UsbFirstPos := some (para.g_u8UsbFirstPos.getD usbStatus) } _ noDevice
        _
    refine ⟨after, actions, same, ⟨?_, ?_, kept⟩,
      .inr ⟨events, ?_, Bool.eq_not.mpr change, out, run⟩⟩
    · rw [rest]
    · rw [rest]
    · rwa [rest]

end

def HsUsbpara.plugged (para : HsUsbpara) : Option PlugKind :=
  if para.host.last then some para.kind else none

structure Tracks (u8UsbAudioEn : Bool) (samples : List PlugSample) (para : HsUsbpara)
    (log : List PlugAction) : Prop where
  device : para.device.Settling 3 (samples.map PlugSample.charger)
  host : para.host.Settling 10 (samples.map PlugSample.host)
  noDevice : u8UsbAudioEn = false → para.u8IsDevice = false
  charging : (log.filterMap PlugAction.charging).foldlM alternate false = some para.device.last
  plugs : (log.filterMap PlugAction.plug).foldlM pairUp none = some para.plugged
  power : (log.filterMap PlugAction.power).foldlM alternate false =
    some (para.host.last && !para.u8IsDevice)

theorem foldlM_append_some {State Event : Type} {step : State → Event → Option State}
    {start between final : State} {first second : List Event}
    (before : first.foldlM step start = some between)
    (after : second.foldlM step between = some final) :
    (first ++ second).foldlM step start = some final := by
  rwa [foldlM_append, before]

section

variable {u8UsbAudioEn : Bool} {samples : List PlugSample} {para : HsUsbpara}
  {log : List PlugAction}

theorem Tracks.init : Tracks u8UsbAudioEn [] .init [] :=
  ⟨Debouncer.settling_init _ _, Debouncer.settling_init _ _, fun _ => rfl, rfl, rfl, rfl⟩

variable {after : HsUsbpara}

theorem pairUp_change {usbStatus : Bool} (last : after.host.last = usbStatus)
    (change : usbStatus = !para.host.last)
    (out : usbStatus = false → after.u8IsDevice = para.u8IsDevice) :
    [(usbStatus, after.kind)].foldlM pairUp para.plugged = some after.plugged := by
  unfold HsUsbpara.plugged
  cases usbStatus with
  | true =>
    rw [Bool.not_eq_eq_eq_not.mp change.symm, last]
    rfl
  | false =>
    have kind : after.kind = para.kind := by
      unfold HsUsbpara.kind
      rw [out rfl]
    rw [Bool.not_eq_eq_eq_not.mp change.symm, last, kind]
    change (pairUp (some para.kind) (false, para.kind)).bind _ = _
    rw [pairUp, if_pos rfl]
    rfl

theorem power_change {usbStatus : Bool} (last : after.host.last = usbStatus)
    (change : usbStatus = !para.host.last)
    (out : usbStatus = false → after.u8IsDevice = para.u8IsDevice) :
    (if after.u8IsDevice then [] else [usbStatus]).foldlM alternate
        (para.host.last && !para.u8IsDevice) = some (after.host.last && !after.u8IsDevice) := by
  rw [last]
  cases usbStatus with
  | true =>
    rw [Bool.not_eq_eq_eq_not.mp change.symm]
    cases after.u8IsDevice <;> rfl
  | false =>
    rw [Bool.not_eq_eq_eq_not.mp change.symm, out rfl]
    cases para.u8IsDevice <;> rfl

theorem device_step (settling : para.device.Settling 3 (samples.map PlugSample.charger))
    (sample : PlugSample) :
    ∃ charges, Events (usbScanDevicePlug u8UsbAudioEn para sample.charger).2 charges [] [] ∧
      charges.foldlM alternate para.device.last =
        some (para.device.sample 3 sample.charger).1.last ∧
      ∀ value ∈ charges, RunOf value 4 ((samples ++ [sample]).map PlugSample.charger) := by
  rw [map_append]
  rcases usbScanDevicePlug_events settling with
    ⟨events, same⟩ | ⟨events, last, change, run⟩
  · exact ⟨[], events, congrArg some same.symm, nofun⟩
  · refine ⟨[sample.charger], events, ?_, ?_⟩
    · rw [last, change]
      cases para.device.last <;> rfl
    · intro value member
      rwa [mem_singleton.mp member]

theorem host_step (settling : para.host.Settling 10 (samples.map PlugSample.host))
    (noDevice : u8UsbAudioEn = false → para.u8IsDevice = false) (sample : PlugSample) :
    ∃ after actions events calls, usbScanHostPlug u8UsbAudioEn para sample.host = (after, actions) ∧
      HostScanned u8UsbAudioEn para sample.host after ∧ Events actions [] events calls ∧
      events.foldlM pairUp para.plugged = some after.plugged ∧
      calls.foldlM alternate (para.host.last && !para.u8IsDevice) =
        some (after.host.last && !after.u8IsDevice) ∧
      ∀ event ∈ events, RunOf event.1 11 ((samples ++ [sample]).map PlugSample.host) := by
  rw [map_append]
  obtain ⟨after, actions, same, scanned, ⟨events, last, isDevice⟩ |
    ⟨events, last, change, out, run⟩⟩ :=
    @usbScanHostPlug_events _ para _ _ settling noDevice
  · refine ⟨after, actions, [], [], same, scanned, events, congrArg some ?_,
      congrArg some ?_, nofun⟩
    · unfold HsUsbpara.plugged HsUsbpara.kind
      rw [last, isDevice]
    · rw [last, isDevice]
  · refine ⟨after, actions, _, _, same, scanned, events, pairUp_change last change out,
      power_change last change out, ?_⟩
    intro event member
    rwa [mem_singleton.mp member]

theorem Tracks.step (tracks : Tracks u8UsbAudioEn samples para log) (sample : PlugSample) :
    let last := hsUsbScanPlug u8UsbAudioEn para sample
    Tracks u8UsbAudioEn (samples ++ [sample]) last.1 (log ++ last.2) ∧
      ScanProtocol samples sample last.2 := by
  obtain ⟨_, first, charged, chargeRuns⟩ :=
    @device_step _ samples para tracks.device sample
  -- The host scan sees the charger line as the first scan has left it.
  obtain ⟨after, actions, _, _, same, scanned, second, plugged, powered, plugRuns⟩ :=
    @host_step _ samples
      (usbScanDevicePlug u8UsbAudioEn para sample.charger).1 tracks.host tracks.noDevice sample
  have outcome : hsUsbScanPlug u8UsbAudioEn para sample =
      (after, (usbScanDevicePlug u8UsbAudioEn para sample.charger).2 ++ actions) := by
    unfold hsUsbScanPlug
    dsimp only
    rw [same]
  have events := first.append second
  rw [append_nil, nil_append, nil_append] at events
  rw [outcome]
  constructor
  · constructor
    · rw [scanned.device, map_append]
      exact tracks.device.next (by decide) (by decide)
    · rw [scanned.host, map_append]
      exact tracks.host.next (by decide) (by decide)
    · exact scanned.noDevice
    · rw [filterMap_append, events.charging, scanned.device]
      exact foldlM_append_some tracks.charging charged
    · rw [filterMap_append, events.plugs]
      exact foldlM_append_some tracks.plugs plugged
    · rw [filterMap_append, events.power]
      exact foldlM_append_some tracks.power powered
  · constructor
    · rwa [events.charging]
    · rwa [events.plugs]
    · exact events.power.trans events.together.symm

end

/-- Whatever the samples of the two lines, the events and the calls of the host driver come
in pairs, and each event ends a run of equal samples. -/
theorem usb_plug_protocol (u8UsbAudioEn : Bool) (samples : List PlugSample) (sample : PlugSample) :
    PlugProtocol (plugRun u8UsbAudioEn samples).2 ∧ ScanProtocol samples sample
        (hsUsbScanPlug u8UsbAudioEn (plugRun u8UsbAudioEn samples).1 sample).2 := by
  have tracks : Tracks u8UsbAudioEn samples (plugRun u8UsbAudioEn samples).1
      (plugRun u8UsbAudioEn samples).2 := LoggedRun.run_invariant (Tracks u8UsbAudioEn) .init
    (fun _ _ _ sample tracks => (tracks.step sample).1) samples
  refine ⟨⟨?_, ?_, ?_⟩, (tracks.step sample).2⟩
  · rw [tracks.charging]
    rfl
  · rw [tracks.plugs]
    rfl
  · rw [tracks.power]
    rfl

end Hfirmware.Usb
