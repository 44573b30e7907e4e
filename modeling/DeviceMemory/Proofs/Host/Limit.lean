import DeviceMemory.Proofs.Engine.Course
import DeviceMemory.Proofs.Host.Once

/-!
# What the limit of memory covers

The limit of memory is fixed by whoever reads it first, be it for a device of its own or because an engine is
made. Every engine is told that limit (`Host.Fresh.limits_engines`), so it covers the devices that are no
larger than the first one, or than the memory of the host then, and no others: an engine that is made later on
a larger device is told less than its device has (`Host.largerDevice_exceeds`). The first engine is always
covered, unless the limit was read before there was any.
-/

namespace DeviceMemory

variable {β ρ : Type}

namespace Host

/-! ### The devices of the engines -/

/-- The devices of the engines, in the order of their ids. -/
def devices (h : Host β) : List Device := h.engines.map Engine.device

/-- The device on which an act makes an engine, if it makes one. -/
def Act.madeOn? : Act β ρ → Option Device
  | .make device _ _ => some device
  | .makeAmong _ devices selector _ _ | .makeUnderSettings _ devices selector _ => devices.select selector
  | _ => none

theorem getElem?_devices (h : Host β) (id : EngineId) :
    h.devices[id.number]? = (h.engine? id).map Engine.device := List.getElem?_map

/-- Who makes an engine reads the limit for its device. -/
theorem deviceMemoryOf?_of_madeOn? (h : Host β) {a : Act β ρ} {d : Device} (ha : a.madeOn? = some d) :
    h.deviceMemoryOf? a = some d.totalMemory := by
  cases a <;> simp_all [Act.madeOn?, deviceMemoryOf?]

theorem devices_readLimit (h : Host β) (n : Nat) : (h.readLimit n).2.1.devices = h.devices := by
  unfold readLimit
  split <;> rfl

theorem devices_readSettings (h : Host β) : h.readSettings.2.1.devices = h.devices := by
  unfold readSettings
  split <;> rfl

theorem devices_makeEngine (h : Host β) (device : Device) (backend : β) (s : Settings) :
    (h.makeEngine device backend s).2.1.devices = h.devices ++ [device] := by
  rw [← h.devices_readLimit device.totalMemory]
  simp [makeEngine, devices, Engine.new]

theorem devices_makeEngineAmong (h : Host β) (target : Target) (devices : Devices) (selector : Selector)
    (backend : β) (s : Settings) :
    (h.makeEngineAmong target devices selector backend s).2.1.devices =
      h.devices ++ (devices.select selector).toList := by
  unfold makeEngineAmong
  split
  case h_1 device hd => rw [hd]; exact h.devices_makeEngine device backend s
  case h_2 hd => rw [hd]; exact (List.append_nil _).symm

variable [Backend β ρ]

theorem devices_advance (thread : ThreadId) (id : EngineId) (h : Host β) (s : Stage ρ) :
    (h.advance thread id s).1.devices = h.devices := by
  unfold advance
  split
  case h_1 => rfl
  case h_2 e he =>
    have hsame : (e.advance thread h.commons s).engine.device = e.device :=
      congrArg Nature.device (e.nature_advance thread h.commons s)
    obtain ⟨hlt, heq⟩ := List.getElem?_eq_some_iff.mp ((h.getElem?_devices id).trans (by rw [he]; rfl))
    calc (h.setEngine id (e.advance thread h.commons s).engine).devices
        = h.devices.set id.number e.device := by simp [setEngine, devices, List.map_set, hsame]
      _ = h.devices := by rw [← heq, List.set_getElem_self hlt]

/-- An act adds the device on which it makes an engine, and engines keep theirs. -/
theorem devices_perform (h : Host β) (a : Act β ρ) :
    (h.perform a).1.devices = h.devices ++ a.madeOn?.toList := by
  cases a with
  | make device backend s => exact h.devices_makeEngine device backend s
  | makeAmong target devices selector backend s =>
    exact h.devices_makeEngineAmong target devices selector backend s
  | makeUnderSettings target devices selector backend =>
    exact (h.readSettings.2.1.devices_makeEngineAmong ..).trans (by rw [devices_readSettings]; rfl)
  | advance thread id stage => exact (h.devices_advance thread id stage).trans (List.append_nil _).symm
  | readSettings | readSelector => exact h.devices_readSettings.trans (List.append_nil _).symm
  | readLimit n => exact (h.devices_readLimit n).trans (List.append_nil _).symm
  | giveSettings s =>
    simp only [perform, giveSettings]
    cases h.settings <;> exact (List.append_nil _).symm
  | engineLimit id =>
    simp only [perform]
    split
    · exact (List.append_nil _).symm
    · exact (h.devices_readLimit _).trans (List.append_nil _).symm
  | surround | askLimit => exact (List.append_nil _).symm

/-- The devices of the engines are those on which acts made engines. -/
theorem devices_afterAll (h : Host β) (acts : List (Act β ρ)) :
    (h.afterAll acts).devices = h.devices ++ acts.filterMap Act.madeOn? := by
  induction acts generalizing h with
  | nil => exact (List.append_nil _).symm
  | cons a acts ih =>
    rw [show h.afterAll (a :: acts) = (h.perform a).1.afterAll acts from rfl, ih, devices_perform,
      List.append_assoc]
    cases ha : a.madeOn? <;> simp [ha]

/-! ### The first device -/

/-- The limit was first read by an act, for a device with `n` bytes on a host with `m`. -/
def FirstRead (h : Host β) (acts before : List (Act β ρ)) (a : Act β ρ) (n m : Nat) : Prop :=
  before ++ [a] <+: acts ∧ firstIn deviceMemoryOf? h before = none ∧
    (h.afterAll before).deviceMemoryOf? a = some n ∧ (h.afterAll before).hostMemory = m

theorem firstIn_limitBy?_eq_none_iff (h : Host β) (acts : List (Act β ρ)) :
    firstIn limitBy? h acts = none ↔ firstIn deviceMemoryOf? h acts = none := by
  simp [firstIn_eq_none_iff, limitBy?]

/-- The limit of a run is that of the first device for which it was read. -/
theorem firstIn_limitBy?_eq_some_iff (h : Host β) (acts : List (Act β ρ)) (limit : Nat) :
    firstIn limitBy? h acts = some limit ↔
      ∃ before a n m, h.FirstRead acts before a n m ∧ limit = max n m := by
  rw [firstIn_eq_some_iff]
  constructor
  · rintro ⟨before, a, rest, rfl, hnone, ha⟩
    obtain ⟨n, hn, rfl⟩ := Option.map_eq_some_iff.mp ha
    exact ⟨before, a, n, _, ⟨⟨rest, by simp⟩, (h.firstIn_limitBy?_eq_none_iff before).mp hnone, hn, rfl⟩, rfl⟩
  · rintro ⟨before, a, n, m, ⟨⟨rest, rfl⟩, hnone, hn, rfl⟩, rfl⟩
    refine ⟨before, a, rest, by simp, (h.firstIn_limitBy?_eq_none_iff before).mpr hnone, ?_⟩
    rw [limitBy?, hn, Option.map_some]

/-! ### What engines are told -/

/-- The limit of memory that engines are told in a run, and what it covers. -/
structure Limits (h : Host β) (acts : List (Act β ρ)) : Prop where
  /-- Every engine is told the same: the memory of the first device for which the limit was read, or of the
  host then, whichever is more. -/
  told {past id e r} : (h.afterAll past).engine? id = some e → h.Answers acts past (.engineLimit id) r →
    ∃ before a n m, h.FirstRead acts before a n m ∧ r = .limit (some (max n m))
  /-- It covers the device of an engine just if that has no more than one of both. -/
  covers_iff {past id e limit before a n m} : (h.afterAll past).engine? id = some e →
    h.Answers acts past (.engineLimit id) (.limit (some limit)) → h.FirstRead acts before a n m →
    (e.device.totalMemory ≤ limit ↔ e.device.totalMemory ≤ n ∨ e.device.totalMemory ≤ m)
  /-- So it covers the first engine, if nobody read the limit before that was made, -/
  covers_first {past e limit before a d} : (h.afterAll past).engine? ⟨0⟩ = some e →
    h.Answers acts past (.engineLimit ⟨0⟩) (.limit (some limit)) → before ++ [a] <+: acts →
    firstIn deviceMemoryOf? h before = none → a.madeOn? = some d → e.device.totalMemory ≤ limit
  /-- and every engine, if none is made on a device with more memory than the first one. -/
  covers_all {past id e limit before a n m} : (h.afterAll past).engine? id = some e →
    h.Answers acts past (.engineLimit id) (.limit (some limit)) → h.FirstRead acts before a n m →
    (∀ b ∈ acts, ∀ d, b.madeOn? = some d → d.totalMemory ≤ n) → e.device.totalMemory ≤ limit

section Told

variable {h : Host β} {acts past : List (Act β ρ)} {id : EngineId} {e : Engine β}

/-- An engine has the device on which it was made. -/
theorem device_of_engine? (hempty : h.engines = []) (hpast : past <+: acts)
    (he : (h.afterAll past).engine? id = some e) :
    (acts.filterMap Act.madeOn?)[id.number]? = some e.device := by
  have hdevices : (h.afterAll past).devices = past.filterMap Act.madeOn? := by
    rw [devices_afterAll, devices, hempty, List.map_nil, List.nil_append]
  have hdevice := getElem?_devices (h.afterAll past) id
  rw [he, hdevices] at hdevice
  obtain ⟨rest, rfl⟩ := hpast
  rw [List.filterMap_append, List.getElem?_append_left (List.getElem?_eq_some_iff.mp hdevice).1, hdevice]
  rfl

/-- No engine is made before the limit is first read. -/
theorem madeOn?_of_firstIn {before : List (Act β ρ)} (hnone : firstIn deviceMemoryOf? h before = none) :
    before.filterMap Act.madeOn? = [] := by
  rw [List.filterMap_eq_nil_iff]
  intro a ha
  obtain ⟨past, rest, rfl⟩ := List.append_of_mem ha
  have hread := (firstIn_eq_none_iff deviceMemoryOf? h _).mp hnone past a rest rfl
  cases hmade : a.madeOn? with
  | none => rfl
  | some d => simp [deviceMemoryOf?_of_madeOn? _ hmade] at hread

/-- An engine is told the limit of the run. -/
theorem Fresh.limit_eq_max (hf : h.Fresh) {limit : Nat} (he : (h.afterAll past).engine? id = some e)
    (hr : h.Answers acts past (.engineLimit id) (.limit (some limit))) {before : List (Act β ρ)}
    {a : Act β ρ} {n m : Nat} (hfirst : h.FirstRead acts before a n m) : limit = max n m := by
  obtain ⟨limit', hlimit, hr'⟩ := hf.limit_of_engineLimit he hr.1
  obtain rfl : limit' = limit := by simpa [hr'] using hr.2
  have hmax := (h.firstIn_limitBy?_eq_some_iff acts (max n m)).mpr ⟨before, a, n, m, hfirst, rfl⟩
  exact Option.some.inj (hlimit.symm.trans hmax)

end Told

/-- **Every engine is told the limit that was fixed first**, whatever its device is. -/
theorem Fresh.limits_engines {h : Host β} (hf : h.Fresh) (hempty : h.engines = []) (acts : List (Act β ρ)) :
    h.Limits acts where
  told {past id e r} he hr := by
    obtain ⟨limit, hlimit, hr'⟩ := hf.limit_of_engineLimit he hr.1
    obtain ⟨before, a, n, m, hfirst, rfl⟩ := (h.firstIn_limitBy?_eq_some_iff acts limit).mp hlimit
    exact ⟨before, a, n, m, hfirst, hr.2.symm.trans hr'⟩
  covers_iff {past id e limit before a n m} he hr hfirst := by
    rw [hf.limit_eq_max he hr hfirst]
    omega
  covers_first {past e limit before a d} he hr hbefore hnone hd := by
    have hfirst : h.FirstRead acts before a d.totalMemory (h.afterAll before).hostMemory :=
      ⟨hbefore, hnone, deviceMemoryOf?_of_madeOn? _ hd, rfl⟩
    have hdevice := device_of_engine? hempty ((List.prefix_append past _).trans hr.1) he
    obtain ⟨rest, rfl⟩ := hbefore
    have hed : d = e.device := by
      simpa [List.filterMap_append, madeOn?_of_firstIn hnone, hd] using hdevice
    rw [hf.limit_eq_max he hr hfirst, hed]
    exact Nat.le_max_left _ _
  covers_all {past id e limit before a n m} he hr hfirst hall := by
    have hdevice := device_of_engine? hempty ((List.prefix_append past _).trans hr.1) he
    obtain ⟨b, hb, hmade⟩ := List.mem_filterMap.mp (List.mem_of_getElem? hdevice)
    rw [hf.limit_eq_max he hr hfirst]
    exact Nat.le_trans (hall b hb _ hmade) (Nat.le_max_left _ _)

/-- Two engines, the second on a device with twice the memory of the first. -/
def largerDevice : List (Act ScriptedBackend ScriptedResource) :=
  [.make ⟨"0", "small", 1024, .plainBuffer, .ofList [.plainBuffer]⟩ {} {},
    .make ⟨"1", "large", 2048, .plainBuffer, .ofList [.plainBuffer]⟩ {} {}, .engineLimit ⟨0⟩, .engineLimit ⟨1⟩]

/-- The first engine is covered. -/
theorem largerDevice_limits :
    ∃ e, littleHost.Fresh ∧ littleHost.engines = [] ∧
      (littleHost.afterAll (largerDevice.take 2)).engine? ⟨0⟩ = some e ∧
      littleHost.Answers largerDevice (largerDevice.take 2) (.engineLimit ⟨0⟩) (.limit (some 1024)) ∧
      firstIn deviceMemoryOf? littleHost ([] : List (Act ScriptedBackend ScriptedResource)) = none ∧
      e.device.totalMemory ≤ 1024 := by
  have hf : littleHost.Fresh := ⟨rfl, rfl⟩
  have hr : littleHost.Answers largerDevice (largerDevice.take 2) (.engineLimit ⟨0⟩) (.limit (some 1024)) :=
    ⟨⟨_, rfl⟩, rfl⟩
  have hfirst : firstIn deviceMemoryOf? littleHost ([] : List (Act ScriptedBackend ScriptedResource)) = none :=
    rfl
  exact ⟨_, hf, rfl, rfl, hr, hfirst,
    (hf.limits_engines rfl largerDevice).covers_first rfl hr ⟨_, rfl⟩ hfirst rfl⟩

/-- **The limit does not cover a device that is larger than the first.** -/
theorem largerDevice_exceeds :
    ∃ e, littleHost.Fresh ∧ littleHost.engines = [] ∧
      (littleHost.afterAll (largerDevice.take 3)).engine? ⟨1⟩ = some e ∧
      littleHost.Answers largerDevice (largerDevice.take 3) (.engineLimit ⟨1⟩) (.limit (some 1024)) ∧
      ¬ e.device.totalMemory ≤ 1024 :=
  ⟨_, ⟨rfl, rfl⟩, rfl, rfl, ⟨⟨_, rfl⟩, rfl⟩, by decide⟩

end Host

end DeviceMemory
