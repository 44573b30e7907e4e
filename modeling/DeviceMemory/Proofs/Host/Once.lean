import DeviceMemory.Backend.Scripted
import DeviceMemory.Host

/-!
# What a process fixes once

The settings of a process and its limit of memory are found when somebody first needs them, and many
things need them: whoever asks for them, and engines that are made. Whatever is asked in whatever order,
and whatever becomes of the environment and of the files meanwhile, everybody is told the same
(`Host.Fresh.fixesOnce`): the settings that were given before anybody read them, or else those that were
found when they were first read; and the limit that the first device gave. How the process understands the
settings that it finds does not matter for this, nor where its user keeps them: `Host.finder` is any.

## The model

An `Act` is what may be asked of a process, or may happen around it. Each is one step. To make an engine
under the settings of the process takes two locks one after the other, so others may come between; then
it is two acts, to read the settings and to make an engine under what was read.

`Host.firstIn` runs through acts up to the first that has something to fix. It is told what an act would
fix if nothing were fixed yet, and never looks at what is.
-/

namespace DeviceMemory

variable {β ρ : Type}

namespace Host

/-! ### Acts and answers -/

/-- What may be asked of a process, and what may happen around it. -/
inductive Act (β ρ : Type)
  /-- The environment, the files and all else that engines share become something else, and so does the
  memory of the host. -/
  | surround (commons : Commons) (hostMemory : Nat)
  /-- A call on an engine goes on by one step. -/
  | advance (thread : ThreadId) (id : EngineId) (stage : Stage ρ)
  /-- The settings are read. -/
  | readSettings
  /-- Settings are given. -/
  | giveSettings (s : Settings)
  /-- The selector that the settings ask for is read. -/
  | readSelector
  /-- An engine is made on a device. -/
  | make (device : Device) (backend : β) (s : Settings)
  /-- An engine is made on one of the devices that were enumerated, if there is any. -/
  | makeAmong (target : Target) (devices : Devices) (selector : Selector) (backend : β) (s : Settings)
  /-- The same under the settings of the process. -/
  | makeUnderSettings (target : Target) (devices : Devices) (selector : Selector) (backend : β)
  /-- The limit of memory is read, for a device of some size. -/
  | readLimit (deviceMemory : Nat)
  /-- The limit of memory is read, for the device of an engine. -/
  | engineLimit (id : EngineId)
  /-- Whether there is a limit yet is asked. -/
  | askLimit

/-- What an act is answered with. -/
inductive Answer
  /-- There is nothing to say. -/
  | done
  /-- The settings. -/
  | settings (s : Settings)
  /-- The settings that were given are fixed. -/
  | given
  /-- Others were fixed before. -/
  | refused
  /-- A selector. -/
  | selector (s : Selector)
  /-- An engine was made, or none could be. -/
  | engine (result : Except Failure EngineId)
  /-- The limit of memory, if there is one. -/
  | limit (n : Option Nat)

/-! ### What acts fix -/

/-- What a process finds for its settings. -/
def found (h : Host β) : Settings :=
  (Settings.discover h.finder h.commons.files h.commons.directory h.commons.environment).1

/-- Whether an act reads the settings of the process. -/
def Act.readsSettings : Act β ρ → Bool
  | .readSettings | .readSelector | .makeUnderSettings _ _ _ _ => true
  | _ => false

/-- The settings that an act fixes if none are fixed: those that it gives, or what is found when it reads. -/
def settingsBy? (h : Host β) : Act β ρ → Option Settings
  | .giveSettings s => some s
  | a => if a.readsSettings then some h.found else none

/-- An act that would fix settings reads them or gives them. -/
theorem readsSettings_or_eq_giveSettings {h : Host β} {a : Act β ρ} {v : Settings}
    (ha : h.settingsBy? a = some v) : a.readsSettings = true ∨ a = .giveSettings v := by
  cases a <;> simp_all [settingsBy?, Act.readsSettings]

theorem settingsBy?_of_readsSettings (h : Host β) {a : Act β ρ} (ha : a.readsSettings = true) :
    h.settingsBy? a = some h.found := by
  cases a <;> simp_all [settingsBy?, Act.readsSettings]

/-- The size of the device for which an act reads the limit of memory, if it reads it. -/
def deviceMemoryOf? (h : Host β) : Act β ρ → Option Nat
  | .readLimit n => some n
  | .engineLimit id => (h.engine? id).map fun e => e.device.totalMemory
  | .make device _ _ => some device.totalMemory
  | .makeAmong _ devices selector _ _ | .makeUnderSettings _ devices selector _ =>
    (devices.select selector).map Device.totalMemory
  | _ => none

/-- The limit that an act fixes if none is fixed: the memory of the device or of the host, whichever is
more. -/
def limitBy? (h : Host β) (a : Act β ρ) : Option Nat := (h.deviceMemoryOf? a).map (max · h.hostMemory)

/-! ### Runs of acts -/

variable [Backend β ρ]

/-- What an act does to a process. -/
def perform (h : Host β) : Act β ρ → Host β × Answer
  | .surround commons hostMemory => ({ h with commons, hostMemory }, .done)
  | .advance thread id stage => ((h.advance thread id stage).1, .done)
  | .readSettings => (h.readSettings.2.1, .settings h.readSettings.1)
  | .giveSettings s =>
    match h.giveSettings s with
    | some h => (h, .given)
    | none => (h, .refused)
  | .readSelector => (h.readSettings.2.1, .selector (selectorOf h.readSettings.1))
  | .make device backend s =>
    ((h.makeEngine device backend s).2.1, .engine (.ok (h.makeEngine device backend s).1))
  | .makeAmong target devices selector backend s =>
    ((h.makeEngineAmong target devices selector backend s).2.1,
      .engine (h.makeEngineAmong target devices selector backend s).1)
  | .makeUnderSettings target devices selector backend =>
    ((h.makeEngineUnderSettings target devices selector backend).2.1,
      .engine (h.makeEngineUnderSettings target devices selector backend).1)
  | .readLimit deviceMemory => ((h.readLimit deviceMemory).2.1, .limit (some (h.readLimit deviceMemory).1))
  | .engineLimit id =>
    match h.engine? id with
    | none => (h, .done)
    | some e => ((h.readLimit e.device.totalMemory).2.1, .limit (some (h.readLimit e.device.totalMemory).1))
  | .askLimit => (h, .limit h.limit)

/-- The process after acts. -/
def afterAll (h : Host β) (acts : List (Act β ρ)) : Host β := acts.foldl (fun h a => (h.perform a).1) h

/-- What the first act fixes that fixes anything. -/
def firstIn {α : Type} (fixes : Host β → Act β ρ → Option α) (h : Host β) : List (Act β ρ) → Option α
  | [] => none
  | a :: rest => (fixes h a).or (firstIn fixes (h.perform a).1 rest)

/-! ### Steps -/

theorem settings_readSettings (h : Host β) : h.readSettings.2.1.settings = h.settings.or (some h.found) := by
  unfold readSettings
  split <;> simp_all [found]

/-- Who reads the settings is told what is fixed from then on. -/
theorem settings_of_readSettings (h : Host β) : h.readSettings.2.1.settings = some h.readSettings.1 := by
  unfold readSettings
  split <;> simp_all

theorem limit_readSettings (h : Host β) : h.readSettings.2.1.limit = h.limit := by
  unfold readSettings
  split <;> rfl

theorem hostMemory_readSettings (h : Host β) : h.readSettings.2.1.hostMemory = h.hostMemory := by
  unfold readSettings
  split <;> rfl

theorem settings_readLimit (h : Host β) (n : Nat) : (h.readLimit n).2.1.settings = h.settings := by
  unfold readLimit
  split <;> rfl

theorem limit_readLimit (h : Host β) (n : Nat) :
    (h.readLimit n).2.1.limit = h.limit.or (some (max n h.hostMemory)) := by
  unfold readLimit
  split <;> simp_all

/-- Who reads the limit is told what is fixed from then on. -/
theorem limit_of_readLimit (h : Host β) (n : Nat) : (h.readLimit n).2.1.limit = some (h.readLimit n).1 := by
  unfold readLimit
  split <;> simp_all

theorem settings_makeEngine (h : Host β) (device : Device) (backend : β) (s : Settings) :
    (h.makeEngine device backend s).2.1.settings = h.settings :=
  h.settings_readLimit device.totalMemory

theorem limit_makeEngine (h : Host β) (device : Device) (backend : β) (s : Settings) :
    (h.makeEngine device backend s).2.1.limit = h.limit.or (some (max device.totalMemory h.hostMemory)) :=
  h.limit_readLimit device.totalMemory

theorem settings_makeEngineAmong (h : Host β) (target : Target) (devices : Devices) (selector : Selector)
    (backend : β) (s : Settings) :
    (h.makeEngineAmong target devices selector backend s).2.1.settings = h.settings := by
  unfold makeEngineAmong
  split
  · exact h.settings_makeEngine _ backend s
  · rfl

/-- The limit is fixed if there is a device, and only then. -/
theorem limit_makeEngineAmong (h : Host β) (target : Target) (devices : Devices) (selector : Selector)
    (backend : β) (s : Settings) :
    (h.makeEngineAmong target devices selector backend s).2.1.limit =
      h.limit.or (((devices.select selector).map Device.totalMemory).map (max · h.hostMemory)) := by
  unfold makeEngineAmong
  split
  case h_1 device hd => rw [hd]; exact h.limit_makeEngine device backend s
  case h_2 hd => rw [hd]; exact Option.or_none.symm

/-- Only for want of a device no engine is made. -/
theorem makeEngineAmong_error_iff (h : Host β) (target : Target) (devices : Devices) (selector : Selector)
    (backend : β) (s : Settings) (f : Failure) :
    (h.makeEngineAmong target devices selector backend s).1 = .error f ↔
      devices.select selector = none ∧
        f = ⟨.noDevices target.backend target.runtime, h.commons.capture.1⟩ := by
  unfold makeEngineAmong
  split
  case h_1 device hd => simp [hd]
  case h_2 hd => simp [hd, eq_comm]

/-- What an act finds fixed stays, and else it fixes the settings that it would. -/
theorem settings_perform (h : Host β) (a : Act β ρ) :
    (h.perform a).1.settings = h.settings.or (h.settingsBy? a) := by
  cases a with
  | giveSettings s =>
    simp only [perform, giveSettings]
    cases hs : h.settings <;> simp [settingsBy?, hs]
  | readSettings | readSelector => exact h.settings_readSettings
  | makeUnderSettings target devices selector backend =>
    exact (h.readSettings.2.1.settings_makeEngineAmong ..).trans h.settings_readSettings
  | make device backend s =>
    exact (h.settings_makeEngine device backend s).trans Option.or_none.symm
  | makeAmong target devices selector backend s =>
    exact (h.settings_makeEngineAmong ..).trans Option.or_none.symm
  | readLimit n => exact (h.settings_readLimit n).trans Option.or_none.symm
  | engineLimit id =>
    simp only [perform]
    split <;> simp [settingsBy?, Act.readsSettings, settings_readLimit]
  | advance thread id stage =>
    simp only [perform, advance]
    split <;> simp [settingsBy?, Act.readsSettings, setEngine]
  | surround | askLimit => exact Option.or_none.symm

/-- What an act finds fixed stays, and else it fixes the limit that it would. -/
theorem limit_perform (h : Host β) (a : Act β ρ) : (h.perform a).1.limit = h.limit.or (h.limitBy? a) := by
  cases a with
  | make device backend s => exact h.limit_makeEngine device backend s
  | makeAmong target devices selector backend s =>
    exact h.limit_makeEngineAmong target devices selector backend s
  | makeUnderSettings target devices selector backend =>
    have hl := h.readSettings.2.1.limit_makeEngineAmong target devices selector backend h.readSettings.1
    rwa [limit_readSettings, hostMemory_readSettings] at hl
  | readLimit n => exact h.limit_readLimit n
  | engineLimit id =>
    simp only [perform, limitBy?, deviceMemoryOf?]
    split
    case h_1 he => simp [he]
    case h_2 e he => rw [he]; exact h.limit_readLimit e.device.totalMemory
  | readSettings | readSelector => exact h.limit_readSettings.trans Option.or_none.symm
  | giveSettings s =>
    simp only [perform, giveSettings]
    cases h.settings <;> exact Option.or_none.symm
  | advance thread id stage =>
    simp only [perform, advance]
    split <;> exact Option.or_none.symm
  | surround | askLimit => exact Option.or_none.symm

/-! ### One act and another -/

theorem readSettings_eq (h : Host β) :
    h.readSettings.2.1 = { h with settings := some h.readSettings.1 } := by
  unfold readSettings
  split
  case h_1 s hs => rw [← hs]
  case h_2 => rfl

/-- To make an engine under the settings of the process is to fix them and to make it under those. -/
theorem perform_makeUnderSettings (h : Host β) (target : Target) (devices : Devices) (selector : Selector)
    (backend : β) : h.perform (.makeUnderSettings target devices selector backend : Act β ρ) =
      { h with settings := some h.readSettings.1 }.perform
        (.makeAmong target devices selector backend h.readSettings.1 : Act β ρ) := by
  rw [← readSettings_eq]
  rfl

/-- To read the limit for an engine is to read it for its device. -/
theorem perform_engineLimit {h : Host β} {id : EngineId} {e : Engine β} (he : h.engine? id = some e) :
    h.perform (.engineLimit id : Act β ρ) = h.perform (.readLimit e.device.totalMemory) := by
  simp only [perform, he]

/-- Settings are refused just if some are fixed. -/
theorem answer_giveSettings (h : Host β) (s : Settings) :
    (h.perform (.giveSettings s : Act β ρ)).2 = if h.settings = none then .given else .refused := by
  simp only [perform, giveSettings]
  cases h.settings <;> rfl

/-- Settings that are refused change nothing. -/
theorem perform_giveSettings_of_ne_none {h : Host β} (hs : h.settings ≠ none) (s : Settings) :
    (h.perform (.giveSettings s : Act β ρ)).1 = h := by
  obtain ⟨t, ht⟩ := Option.ne_none_iff_exists'.mp hs
  simp only [perform, giveSettings, ht]

/-- An act that makes no engine wanted a device, and has no device whose memory it could read. -/
theorem noDevices_of_error {h : Host β} {a : Act β ρ} {f : Failure}
    (hr : (h.perform a).2 = .engine (.error f)) :
    (∃ backend runtime, f.cause = .noDevices backend runtime) ∧ h.limitBy? a = none := by
  cases a with
  | makeAmong target devices selector backend s =>
    obtain ⟨hd, rfl⟩ := (h.makeEngineAmong_error_iff target devices selector backend s f).mp
      (Answer.engine.inj hr)
    exact ⟨⟨_, _, rfl⟩, by simp [limitBy?, deviceMemoryOf?, hd]⟩
  | makeUnderSettings target devices selector backend =>
    obtain ⟨hd, rfl⟩ := (h.readSettings.2.1.makeEngineAmong_error_iff target devices selector backend _ f).mp
      (Answer.engine.inj hr)
    exact ⟨⟨_, _, rfl⟩, by simp [limitBy?, deviceMemoryOf?, hd]⟩
  | giveSettings s => rw [answer_giveSettings] at hr; split at hr <;> cases hr
  | engineLimit id => simp only [perform] at hr; split at hr <;> cases hr
  | _ => cases hr

/-- An act that makes no engine fixes settings only by reading them. -/
theorem settings_of_error {h : Host β} {a : Act β ρ} {f : Failure}
    (hr : (h.perform a).2 = .engine (.error f)) (hreads : a.readsSettings ≠ true) :
    (h.perform a).1.settings = h.settings := by
  rw [settings_perform]
  cases hby : h.settingsBy? a with
  | none => rw [Option.or_none]
  | some v =>
    obtain hreads' | rfl := readsSettings_or_eq_giveSettings hby
    · exact absurd hreads' hreads
    · rw [answer_giveSettings] at hr
      split at hr <;> cases hr

/-! ### What runs fix -/

theorem afterAll_append (h : Host β) (past rest : List (Act β ρ)) :
    h.afterAll (past ++ rest) = (h.afterAll past).afterAll rest :=
  List.foldl_append

section FirstIn

variable {α : Type} (fixes : Host β → Act β ρ → Option α)

theorem firstIn_append (h : Host β) (past rest : List (Act β ρ)) :
    firstIn fixes h (past ++ rest) = (firstIn fixes h past).or (firstIn fixes (h.afterAll past) rest) := by
  induction past generalizing h with
  | nil => simp [firstIn, afterAll]
  | cons a past ih => simp only [List.cons_append, firstIn, ih, Option.or_assoc]; rfl

/-- Something is fixed in a run by an act that would fix it, and that none comes before that would. -/
theorem firstIn_eq_some_iff (h : Host β) (acts : List (Act β ρ)) (v : α) :
    firstIn fixes h acts = some v ↔ ∃ past a rest, acts = past ++ a :: rest ∧ firstIn fixes h past = none ∧
      fixes (h.afterAll past) a = some v := by
  constructor
  · intro hv
    induction acts generalizing h with
    | nil => simp [firstIn] at hv
    | cons a acts ih =>
      cases ha : fixes h a with
      | some w =>
        rw [firstIn, ha, Option.some_or] at hv
        exact ⟨[], a, acts, rfl, rfl, ha.trans hv⟩
      | none =>
        rw [firstIn, ha, Option.none_or] at hv
        obtain ⟨past, b, rest, rfl, hnone, hb⟩ := ih _ hv
        exact ⟨a :: past, b, rest, rfl, by rw [firstIn, ha, hnone, Option.none_or], hb⟩
  · rintro ⟨past, a, rest, rfl, hnone, ha⟩
    rw [firstIn_append, hnone, Option.none_or, firstIn, ha, Option.some_or]

/-- A run fixes nothing just if none of its acts would. -/
theorem firstIn_eq_none_iff (h : Host β) (acts : List (Act β ρ)) :
    firstIn fixes h acts = none ↔
      ∀ past a rest, acts = past ++ a :: rest → fixes (h.afterAll past) a = none := by
  constructor
  · rintro hnone past a rest rfl
    rw [firstIn_append, firstIn, Option.or_eq_none_iff, Option.or_eq_none_iff] at hnone
    exact hnone.2.1
  · intro hall
    cases hv : firstIn fixes h acts with
    | none => rfl
    | some v =>
      obtain ⟨past, a, rest, rfl, -, ha⟩ := (firstIn_eq_some_iff fixes h acts v).mp hv
      simp [hall past a rest rfl] at ha

/-- A cell of the process into which every act puts what it would fix, if nothing is there, holds what the
first act put there. -/
theorem cell_afterAll {cell : Host β → Option α}
    (hstep : ∀ (h : Host β) (a : Act β ρ), cell (h.perform a).1 = (cell h).or (fixes h a))
    (h : Host β) (acts : List (Act β ρ)) : cell (h.afterAll acts) = (cell h).or (firstIn fixes h acts) := by
  induction acts generalizing h with
  | nil => simp [firstIn, afterAll]
  | cons a acts ih =>
    calc cell (h.afterAll (a :: acts))
        = (cell (h.perform a).1).or (firstIn fixes (h.perform a).1 acts) := ih _
      _ = (cell h).or (firstIn fixes h (a :: acts)) := by rw [hstep, Option.or_assoc]; rfl

/-- What the cell holds after an act is what the run fixes, if there was nothing in it at the start. -/
theorem firstIn_of_cell {cell : Host β → Option α}
    (hstep : ∀ (h : Host β) (a : Act β ρ), cell (h.perform a).1 = (cell h).or (fixes h a))
    {h : Host β} {acts past : List (Act β ρ)} {a : Act β ρ} {v : α} (hempty : cell h = none)
    (hpast : past ++ [a] <+: acts) (hv : cell ((h.afterAll past).perform a).1 = some v) :
    firstIn fixes h acts = some v := by
  obtain ⟨rest, rfl⟩ := hpast
  have hfirst : firstIn fixes h (past ++ [a]) = some v := by
    have := cell_afterAll fixes hstep h (past ++ [a])
    rw [hempty, Option.none_or, afterAll_append] at this
    exact this.symm.trans hv
  rw [firstIn_append, hfirst, Option.some_or]

end FirstIn

/-! ### What everybody is told -/

/-- Nothing is fixed yet. -/
structure Fresh (h : Host β) : Prop where
  /-- No settings are. -/
  settings : h.settings = none
  /-- No limit is. -/
  limit : h.limit = none

/-- In a run, an act comes after others and is answered with something. -/
def Answers (h : Host β) (acts past : List (Act β ρ)) (a : Act β ρ) (r : Answer) : Prop :=
  past ++ [a] <+: acts ∧ ((h.afterAll past).perform a).2 = r

/-- In a run, the settings were read or were given. -/
def Settles (h : Host β) (acts : List (Act β ρ)) : Prop :=
  (∃ a ∈ acts, a.readsSettings = true) ∨ ∃ past s, h.Answers acts past (.giveSettings s) .given

/-- What everybody is told in a run. Its settings are `firstIn settingsBy?` and its limit is
`firstIn limitBy?`. -/
structure FixesOnce (h : Host β) (acts : List (Act β ρ)) : Prop where
  /-- Whoever reads the settings is told those of the run. -/
  reads {past r} : h.Answers acts past .readSettings r →
    ∃ s, firstIn settingsBy? h acts = some s ∧ r = .settings s
  /-- The selector is the one that they ask for. -/
  selects {past r} : h.Answers acts past .readSelector r →
    ∃ s, firstIn settingsBy? h acts = some s ∧ r = .selector (selectorOf s)
  /-- Engines that are made under the settings of the process are made under those. -/
  makes {past target devices selector backend r} :
    h.Answers acts past (.makeUnderSettings target devices selector backend) r →
      ∃ s, firstIn settingsBy? h acts = some s ∧
        (h.afterAll past).perform (.makeUnderSettings target devices selector backend) =
          { h.afterAll past with settings := some s }.perform
            (.makeAmong target devices selector backend s : Act β ρ)
  /-- Settings that are given are refused just if others were read or given before, -/
  refuses {past s r} : h.Answers acts past (.giveSettings s) r → (r = .refused ↔ h.Settles past)
  /-- which changes nothing, -/
  keeps {past s} : h.Answers acts past (.giveSettings s) .refused →
    ((h.afterAll past).perform (.giveSettings s : Act β ρ)).1 = h.afterAll past
  /-- and otherwise they are those of the run. -/
  gives {past s r} : h.Answers acts past (.giveSettings s) r → r ≠ .refused →
    r = .given ∧ firstIn settingsBy? h acts = some s
  /-- Whoever reads the limit is told that of the run, -/
  limits {past n r} : h.Answers acts past (.readLimit n) r →
    ∃ m, firstIn limitBy? h acts = some m ∧ r = .limit (some m)
  /-- whichever engine's device it is read for. -/
  engineLimits {past id e r} : (h.afterAll past).engine? id = some e →
    h.Answers acts past (.engineLimit id) r → ∃ m, firstIn limitBy? h acts = some m ∧ r = .limit (some m)
  /-- Whoever asks whether there is a limit is told what was fixed by then: nothing, or the limit of the
  run. -/
  asks {past r} : h.Answers acts past .askLimit r → r = .limit (firstIn limitBy? h past) ∧
    ∀ m, firstIn limitBy? h past = some m → firstIn limitBy? h acts = some m
  /-- An act that makes no engine wanted a device. It fixes no limit, but it has read the settings if it is
  under those of the process. -/
  fails {past a f} : h.Answers acts past a (.engine (.error f)) →
    (∃ backend runtime, f.cause = .noDevices backend runtime) ∧
      ((h.afterAll past).perform a).1.limit = (h.afterAll past).limit ∧
      if a.readsSettings = true then
        ∃ s, firstIn settingsBy? h acts = some s ∧ ((h.afterAll past).perform a).1.settings = some s
      else ((h.afterAll past).perform a).1.settings = (h.afterAll past).settings

section Fresh

variable {h : Host β} {acts past : List (Act β ρ)} {a : Act β ρ}

theorem Fresh.settings_afterAll (hf : h.Fresh) (acts : List (Act β ρ)) :
    (h.afterAll acts).settings = firstIn settingsBy? h acts := by
  rw [cell_afterAll settingsBy? settings_perform, hf.settings, Option.none_or]

theorem Fresh.limit_afterAll (hf : h.Fresh) (acts : List (Act β ρ)) :
    (h.afterAll acts).limit = firstIn limitBy? h acts := by
  rw [cell_afterAll limitBy? limit_perform, hf.limit, Option.none_or]

/-- The settings after an act are those of the run. -/
theorem Fresh.settings_eq (hf : h.Fresh) {s : Settings} (hpast : past ++ [a] <+: acts)
    (hs : ((h.afterAll past).perform a).1.settings = some s) : firstIn settingsBy? h acts = some s :=
  firstIn_of_cell settingsBy? settings_perform hf.settings hpast hs

/-- The limit after an act is that of the run. -/
theorem Fresh.limit_eq (hf : h.Fresh) {n : Nat} (hpast : past ++ [a] <+: acts)
    (hn : ((h.afterAll past).perform a).1.limit = some n) : firstIn limitBy? h acts = some n :=
  firstIn_of_cell limitBy? limit_perform hf.limit hpast hn

/-- Who reads the limit for an engine is told that of the run. -/
theorem Fresh.limit_of_engineLimit (hf : h.Fresh) {id : EngineId} {e : Engine β}
    (he : (h.afterAll past).engine? id = some e) (hpast : past ++ [.engineLimit id] <+: acts) :
    ∃ m, firstIn limitBy? h acts = some m ∧
      ((h.afterAll past).perform (.engineLimit id : Act β ρ)).2 = .limit (some m) := by
  have hstep := perform_engineLimit (ρ := ρ) he
  rw [hstep]
  exact ⟨_, hf.limit_eq hpast (hstep ▸ limit_of_readLimit _ e.device.totalMemory), rfl⟩

/-- Settings are fixed just if they were read or given. -/
theorem Fresh.settles_iff (hf : h.Fresh) (acts : List (Act β ρ)) :
    h.Settles acts ↔ firstIn settingsBy? h acts ≠ none := by
  constructor
  · rintro (⟨a, ha, hreads⟩ | ⟨past, s, ⟨rest, rfl⟩, -⟩) hnone
    · obtain ⟨past, rest, rfl⟩ := List.append_of_mem ha
      have := (firstIn_eq_none_iff settingsBy? h _).mp hnone past a rest rfl
      simp [settingsBy?_of_readsSettings _ hreads] at this
    · have := (firstIn_eq_none_iff settingsBy? h _).mp hnone past (.giveSettings s) rest (by simp)
      simp [settingsBy?] at this
  · intro hsome
    obtain ⟨v, hv⟩ := Option.ne_none_iff_exists'.mp hsome
    obtain ⟨past, a, rest, rfl, hnone, ha⟩ := (firstIn_eq_some_iff settingsBy? h acts v).mp hv
    obtain hreads | rfl := readsSettings_or_eq_giveSettings ha
    · exact .inl ⟨a, by simp, hreads⟩
    · refine .inr ⟨past, v, ⟨rest, by simp⟩, ?_⟩
      rw [answer_giveSettings, hf.settings_afterAll, hnone, if_pos rfl]

/-- **Whatever is asked of a process in whatever order, everybody is told the same**, whatever becomes of the
environment and of the files meanwhile, and however the process understands them. -/
theorem Fresh.fixesOnce (hf : h.Fresh) (acts : List (Act β ρ)) : h.FixesOnce acts where
  reads := by
    rintro past r ⟨hpast, rfl⟩
    exact ⟨_, hf.settings_eq hpast (settings_of_readSettings _), rfl⟩
  selects := by
    rintro past r ⟨hpast, rfl⟩
    exact ⟨_, hf.settings_eq hpast (settings_of_readSettings _), rfl⟩
  makes := by
    rintro past target devices selector backend r ⟨hpast, -⟩
    refine ⟨_, hf.settings_eq hpast ?_, perform_makeUnderSettings ..⟩
    exact (settings_makeEngineAmong ..).trans (settings_of_readSettings _)
  refuses := by
    rintro past s r ⟨-, rfl⟩
    rw [hf.settles_iff, ← hf.settings_afterAll, answer_giveSettings]
    split <;> simp_all
  keeps := by
    rintro past s ⟨-, hr⟩
    apply perform_giveSettings_of_ne_none
    intro hs
    rw [answer_giveSettings, if_pos hs] at hr
    cases hr
  gives := by
    rintro past s r ⟨hpast, rfl⟩ hr
    rw [answer_giveSettings] at hr ⊢
    cases hs : (h.afterAll past).settings with
    | none =>
      refine ⟨if_pos rfl, hf.settings_eq hpast ?_⟩
      rw [settings_perform, hs]
      rfl
    | some t => simp [hs] at hr
  limits := by
    rintro past n r ⟨hpast, rfl⟩
    exact ⟨_, hf.limit_eq hpast (limit_of_readLimit _ n), rfl⟩
  engineLimits := by
    rintro past id e r he ⟨hpast, rfl⟩
    exact hf.limit_of_engineLimit he hpast
  asks := by
    rintro past r ⟨⟨rest, rfl⟩, rfl⟩
    refine ⟨congrArg Answer.limit (hf.limit_afterAll past), fun m hm => ?_⟩
    rw [List.append_assoc, firstIn_append, hm, Option.some_or]
  fails := by
    rintro past a f ⟨hpast, hr⟩
    obtain ⟨hcause, hnone⟩ := noDevices_of_error hr
    refine ⟨hcause, by rw [limit_perform, hnone, Option.or_none], ?_⟩
    split
    case isTrue hreads =>
      have hs : ((h.afterAll past).perform a).1.settings ≠ none := by
        rw [settings_perform, settingsBy?_of_readsSettings _ hreads]
        simp
      obtain ⟨s, hs⟩ := Option.ne_none_iff_exists'.mp hs
      exact ⟨s, hf.settings_eq hpast hs, hs⟩
    case isFalse hreads => exact settings_of_error hr hreads

end Fresh

/-- Settings are given, then an engine is wanted where there is no device. Other settings come too late. A
device turns up, the memory of the host grows, and both facts stay what they are. -/
def lateDevice : List (Act ScriptedBackend ScriptedResource) :=
  let device : Device := ⟨"0", "device", 1024, .plainBuffer, .ofList [.plainBuffer]⟩
  [.giveSettings { device := { id := some "0" } }, .makeUnderSettings ⟨"backend", "runtime"⟩ {} .first {},
    .askLimit, .giveSettings {}, .make device {} {}, .surround {} 4096, .readLimit 512, .readSelector]

/-- A process at its start, on a host with a little memory. -/
def littleHost : Host ScriptedBackend := { hostMemory := 256 }

theorem lateDevice_fixesOnce :
    littleHost.Fresh ∧ littleHost.Answers lateDevice (lateDevice.take 3) (.giveSettings {}) .refused ∧
      littleHost.Settles (lateDevice.take 3) ∧
      littleHost.Answers lateDevice (lateDevice.take 6) (.readLimit 512) (.limit (some 1024)) ∧
      firstIn limitBy? littleHost lateDevice = some 1024 ∧
      ∃ s, firstIn settingsBy? littleHost lateDevice = some s ∧ selectorOf s = .key "0" ∧
        littleHost.Answers lateDevice (lateDevice.take 7) .readSelector (.selector (.key "0")) := by
  have hf : littleHost.Fresh := ⟨rfl, rfl⟩
  have hgive : littleHost.Answers lateDevice (lateDevice.take 3) (.giveSettings {}) .refused :=
    ⟨⟨_, rfl⟩, rfl⟩
  have hlimit : littleHost.Answers lateDevice (lateDevice.take 6) (.readLimit 512) (.limit (some 1024)) :=
    ⟨⟨_, rfl⟩, rfl⟩
  have hselect : littleHost.Answers lateDevice (lateDevice.take 7) .readSelector (.selector (.key "0")) :=
    ⟨⟨_, rfl⟩, rfl⟩
  obtain ⟨m, hm, hlimit'⟩ := (hf.fixesOnce lateDevice).limits hlimit
  obtain ⟨s, hs, hselect'⟩ := (hf.fixesOnce lateDevice).selects hselect
  cases hlimit'
  exact ⟨hf, hgive, ((hf.fixesOnce lateDevice).refuses hgive).mp rfl, hlimit, hm, s, hs,
    (Answer.selector.inj hselect').symm, hselect⟩

end Host

end DeviceMemory
