import DeviceMemory.Proofs.Host.Limit
import DeviceMemory.Proofs.Text.ByteOrder
import Mathlib.Data.List.Induction

/-!
# The device that an engine is made on

Enumeration gives devices one by one, each under a key. An engine is made on the device with the key that is
asked for, if there is one, and else on the one whose key comes first; that takes a device, and nothing else
(`Host.selects`). Keys are texts and come in the order of their bytes, so "10" comes before "9".

## The model

`Devices.Means` says which device a selector means. It is about what is found under which key and not about
any list, so it does not depend on the order in which devices were enumerated.
-/

namespace DeviceMemory

namespace Devices

variable {d d' : Devices}

/-! ### Devices under keys -/

/-- No key occurs twice. -/
def Distinct (d : Devices) : Prop := (d.entries.map Prod.fst).Nodup

theorem find?_insert (d : Devices) (k k' : String) (device : Device) :
    (d.insert k device).find? k' = if k' = k then some device else d.find? k' :=
  Association.lookup_insert k k' device d.entries

theorem Distinct.insert (h : d.Distinct) (k : String) (device : Device) : (d.insert k device).Distinct := by
  refine List.nodup_cons.mpr ⟨fun hm => ?_, h.sublist (List.filter_sublist.map Prod.fst)⟩
  obtain ⟨e, he, hk⟩ := List.mem_map.mp hm
  exact of_decide_eq_true (List.mem_filter.mp he).2 hk

theorem ofList_append_singleton (l : List (String × Device)) (e : String × Device) :
    ofList (l ++ [e]) = (ofList l).insert e.1 e.2 := by
  simp [ofList]

theorem distinct_ofList (l : List (String × Device)) : (ofList l).Distinct := by
  induction l using List.reverseRecOn with
  | nil => exact List.nodup_nil
  | append_singleton l e ih =>
    rw [ofList_append_singleton]
    exact ih.insert e.1 e.2

/-- Of the devices that were enumerated under one key the last one counts. -/
theorem find?_ofList (l : List (String × Device)) (k : String) : (ofList l).find? k = l.reverse.lookup k := by
  induction l using List.reverseRecOn with
  | nil => rfl
  | append_singleton l e ih =>
    rw [ofList_append_singleton, find?_insert, List.reverse_append, List.reverse_singleton,
      List.singleton_append, Association.lookup_cons, ih]

/-- Under different keys, devices can be enumerated in any order. -/
theorem find?_ofList_perm {l l' : List (String × Device)} (h : l.Perm l') (hn : (l.map Prod.fst).Nodup)
    (k : String) : (ofList l').find? k = (ofList l).find? k := by
  have hp : l.reverse.Perm l'.reverse := (l.reverse_perm.trans h).trans l'.reverse_perm.symm
  have hn' : (l.reverse.map Prod.fst).Nodup := (l.reverse_perm.map Prod.fst).nodup_iff.mpr hn
  rw [find?_ofList, find?_ofList, Association.lookup_perm hp hn']

theorem entries_eq_nil_iff : d.entries = [] ↔ ∀ k, d.find? k = none := Association.eq_nil_iff

theorem entries_ofList_eq_nil_iff {l : List (String × Device)} : (ofList l).entries = [] ↔ l = [] := by
  rw [entries_eq_nil_iff, ← List.reverse_eq_nil_iff, Association.eq_nil_iff]
  simp only [find?_ofList]

/-! ### The key that comes first -/

/-- No key comes before `k` in the order of their bytes. -/
def Leads (d : Devices) (k : String) : Prop :=
  ∀ k', (d.find? k').isSome → k' = k ∨ Text.bytes k < Text.bytes k'

theorem lesser_eq_or (a b : String × Device) : lesser a b = a ∨ lesser a b = b := by
  rw [lesser]
  split
  · exact .inr rfl
  · exact .inl rfl

theorem lesser_le (a b : String × Device) : (lesser a b).1 ≤ a.1 ∧ (lesser a b).1 ≤ b.1 := by
  rw [lesser]
  split
  case isTrue h => exact ⟨le_of_lt h, le_rfl⟩
  case isFalse h => exact ⟨le_rfl, not_lt.mp h⟩

theorem foldl_lesser_mem (e : String × Device) (l : List (String × Device)) : l.foldl lesser e ∈ e :: l := by
  induction l generalizing e with
  | nil => exact List.mem_cons_self
  | cons x l ih =>
    rcases List.mem_cons.mp (ih (lesser e x)) with h | h
    · rw [List.foldl_cons, h]
      rcases lesser_eq_or e x with he | he <;> simp [he]
    · exact List.mem_cons_of_mem e (List.mem_cons_of_mem x h)

theorem foldl_lesser_le (e : String × Device) (l : List (String × Device)) :
    ∀ x ∈ e :: l, (l.foldl lesser e).1 ≤ x.1 := by
  induction l generalizing e with
  | nil => simp
  | cons y l ih =>
    intro x hx
    have hfirst := ih (lesser e y) (lesser e y) List.mem_cons_self
    rcases List.mem_cons.mp hx with rfl | hx
    · exact hfirst.trans (lesser_le x y).1
    rcases List.mem_cons.mp hx with rfl | hx
    · exact hfirst.trans (lesser_le e x).2
    · exact ih (lesser e y) x (List.mem_cons_of_mem _ hx)

/-- Only one key comes first. -/
theorem Leads.unique {k k' : String} (h : d.Leads k) (h' : d.Leads k') (hk : (d.find? k).isSome)
    (hk' : (d.find? k').isSome) : k = k' := by
  rcases h' k hk with heq | hlt'
  · exact heq
  rcases h k' hk' with heq | hlt
  · exact heq.symm
  exact absurd hlt (List.lt_asymm hlt')

theorem leads_of_least? (hd : d.Distinct) {k : String} {device : Device} (h : d.least? = some (k, device)) :
    d.find? k = some device ∧ d.Leads k := by
  rw [least?] at h
  split at h
  case h_1 => cases h
  case h_2 e rest he =>
    have hleast : rest.foldl lesser e = (k, device) := Option.some.inj h
    refine ⟨(Association.lookup_eq_some_iff_mem hd).mpr (he ▸ hleast ▸ foldl_lesser_mem e rest), ?_⟩
    intro k' hk'
    obtain ⟨device', hdevice⟩ := Option.isSome_iff_exists.mp hk'
    have hle := foldl_lesser_le e rest (k', device') (he ▸ Association.mem_of_lookup hdevice)
    rw [hleast] at hle
    rcases eq_or_lt_of_le hle with heq | hlt
    · exact .inl heq.symm
    · exact .inr (Text.bytes_lt_iff.mpr hlt)

theorem least?_eq_none_iff : d.least? = none ↔ d.entries = [] := by
  rw [least?]
  split
  case h_1 he => simp [he]
  case h_2 he => simp [he]

/-- The least entry is the one whose key comes first. -/
theorem least?_eq_some_iff (hd : d.Distinct) {k : String} {device : Device} :
    d.least? = some (k, device) ↔ d.find? k = some device ∧ d.Leads k := by
  refine ⟨leads_of_least? hd, fun ⟨hk, hfirst⟩ => ?_⟩
  cases hl : d.least? with
  | none =>
    rw [entries_eq_nil_iff.mp (least?_eq_none_iff.mp hl) k] at hk
    cases hk
  | some e =>
    obtain ⟨k', device'⟩ := e
    obtain ⟨hk', hfirst'⟩ := leads_of_least? hd hl
    obtain rfl := hfirst.unique hfirst' (by rw [hk]; rfl) (by rw [hk']; rfl)
    rw [hk] at hk'
    rw [Option.some.inj hk']

/-! ### What a selector means -/

/-- The device that a selector means. -/
inductive Means (d : Devices) : Selector → Device → Prop
  /-- The one with the key that is asked for. -/
  | asked {k : String} {device : Device} (h : d.find? k = some device) : Means d (.key k) device
  /-- The one whose key comes first, if none is asked for or if there is no such key. -/
  | first {s : Selector} {k : String} {device : Device} (hs : ∀ k, s = .key k → d.find? k = none)
    (hk : d.find? k = some device) (hfirst : d.Leads k) : Means d s device

theorem select_eq_some_iff (hd : d.Distinct) {s : Selector} {device : Device} :
    d.select s = some device ↔ d.Means s device := by
  have least : d.least?.map Prod.snd = some device ↔ ∃ k, d.find? k = some device ∧ d.Leads k := by
    rw [Option.map_eq_some_iff]
    constructor
    · rintro ⟨⟨k, _⟩, hl, rfl⟩
      exact ⟨k, (least?_eq_some_iff hd).mp hl⟩
    · rintro ⟨k, hk⟩
      exact ⟨(k, device), (least?_eq_some_iff hd).mpr hk, rfl⟩
  constructor
  · intro h
    cases s with
    | first =>
      obtain ⟨k, hk, hfirst⟩ := least.mp h
      exact .first (fun _ hs => by cases hs) hk hfirst
    | key k =>
      rw [select] at h
      split at h
      case h_1 hk => exact .asked (hk.trans h)
      case h_2 hk =>
        obtain ⟨k', hk', hfirst⟩ := least.mp h
        exact .first (fun _ hs => by cases hs; exact hk) hk' hfirst
  · intro h
    cases h with
    | asked hk => simp [select, hk]
    | first hs hk hfirst =>
      have hl := least.mpr ⟨_, hk, hfirst⟩
      cases s with
      | first => exact hl
      | key k => simpa [select, hs k rfl] using hl

/-- Keys are texts, not numbers. -/
example (nine ten : Device) : (ofList [("9", nine), ("10", ten)]).select .first = some ten := by cbv

theorem select_eq_none_iff {s : Selector} : d.select s = none ↔ d.entries = [] := by
  have least : d.least?.map Prod.snd = none ↔ d.entries = [] :=
    Option.map_eq_none_iff.trans least?_eq_none_iff
  cases s with
  | first => exact least
  | key k =>
    rw [select]
    split
    case h_1 device hk =>
      simp only [reduceCtorEq, false_iff]
      intro he
      simp [entries_eq_nil_iff.mp he k] at hk
    case h_2 => exact least

theorem misses_eq_some_iff {s : Selector} {k : String} :
    d.misses s = some k ↔ s = .key k ∧ d.find? k = none := by
  cases s with
  | first => simp [misses]
  | key k' =>
    rw [misses]
    split
    case isTrue hk =>
      simp only [reduceCtorEq, Selector.key.injEq, false_iff, not_and]
      rintro rfl hnone
      simp [hnone] at hk
    case isFalse hk =>
      simp only [Option.some.injEq, Selector.key.injEq]
      refine ⟨?_, And.left⟩
      rintro rfl
      exact ⟨rfl, Option.not_isSome_iff_eq_none.mp hk⟩

/-- What a selector means is decided by what is found under each key. -/
theorem Means.of_find? (h : ∀ k, d'.find? k = d.find? k) {s : Selector} {device : Device}
    (hm : d.Means s device) : d'.Means s device := by
  cases hm with
  | asked hk => exact .asked ((h _).trans hk)
  | first hs hk hfirst =>
    refine .first (fun k hk => (h k).trans (hs k hk)) ((h _).trans hk) fun k' hk' => ?_
    rw [h] at hk'
    exact hfirst k' hk'

theorem select_congr (hd : d.Distinct) (hd' : d'.Distinct) (h : ∀ k, d'.find? k = d.find? k) (s : Selector) :
    d'.select s = d.select s := by
  ext device
  rw [select_eq_some_iff hd, select_eq_some_iff hd']
  exact ⟨.of_find? fun k => (h k).symm, .of_find? h⟩

theorem misses_congr (h : ∀ k, d'.find? k = d.find? k) (s : Selector) : d'.misses s = d.misses s := by
  ext k
  rw [misses_eq_some_iff, misses_eq_some_iff, h]

end Devices

namespace Host

variable {β : Type} (h : Host β) (target : Target) (selector : Selector) (backend : β) (s : Settings)

/-! ### What is said -/

theorem missingDevice_inj {k k' : String} : missingDevice k = missingDevice k' ↔ k = k' := by
  simp [missingDevice, Output.warning, String.append_left_inj, String.append_right_inj]

theorem unopened_ne_missingDevice (path k : String) (e : FileError) :
    Output.unopened path e ≠ missingDevice k := by
  intro heq
  simp only [Output.unopened, missingDevice, Output.warning, Output.record.injEq, Record.mk.injEq, true_and] at heq
  have htext := congrArg String.toList heq
  simp at htext

/-- A logger that is made may say that its file cannot be opened, and nothing else. -/
theorem unopened_of_mem_ofSettings {f : Files} {directory : Location} {t : LogSettings} {o : Output}
    (ho : o ∈ (Logger.ofSettings f directory t).2.2) : ∃ path e, o = .unopened path e := by
  simp only [Logger.ofSettings, Logger.openTarget] at ho
  split at ho
  · cases ho
  split at ho
  · cases ho
  split at ho
  · cases ho
  · exact ⟨_, _, List.mem_singleton.mp ho⟩

/-- When an engine is made on a device, nothing is said about a device that is missing. -/
theorem missingDevice_not_mem_makeEngine (k : String) (device : Device) :
    missingDevice k ∉ (h.makeEngine device backend s).2.2 := by
  have hlimit : missingDevice k ∉ (h.readLimit device.totalMemory).2.2 := by
    unfold readLimit
    split <;> simp [missingDevice, Output.warning]
  intro hm
  rcases List.mem_cons.mp hm with hm | hm
  · cases hm
  rcases List.mem_append.mp hm with hm | hm
  · exact hlimit hm
  · obtain ⟨path, e, heq⟩ := unopened_of_mem_ofSettings hm
    exact unopened_ne_missingDevice path k e heq.symm

/-- A device that is asked for and not there is named once, and no other. -/
theorem count_missingDevice (devices : Devices) (k : String) :
    (h.makeEngineAmong target devices selector backend s).2.2.count (missingDevice k) =
      if devices.misses selector = some k then 1 else 0 := by
  have hwarnings : ((devices.misses selector).map missingDevice).toList.count (missingDevice k) =
      if devices.misses selector = some k then 1 else 0 := by
    cases devices.misses selector with
    | none => simp
    | some k' => simp [List.count_singleton, missingDevice_inj]
  unfold makeEngineAmong
  split
  · rw [List.count_append, hwarnings,
      List.count_eq_zero_of_not_mem (h.missingDevice_not_mem_makeEngine backend s k _), Nat.add_zero]
  · exact hwarnings

/-! ### Engines on devices that were enumerated -/

/-- Who makes an engine finds it under its id, on the device that was chosen. -/
theorem makeEngineAmong_ok_iff (devices : Devices) (device : Device) :
    (∃ id e, (h.makeEngineAmong target devices selector backend s).1 = .ok id ∧
        (h.makeEngineAmong target devices selector backend s).2.1.engine? id = some e ∧ e.device = device) ↔
      devices.select selector = some device := by
  have hnew (d : Device) : (h.makeEngine d backend s).2.1.devices[(h.makeEngine d backend s).1.number]? =
      some d := by
    have hid : (h.makeEngine d backend s).1.number = h.devices.length := by
      rw [← h.devices_readLimit d.totalMemory]
      simp [makeEngine, Host.devices]
    rw [devices_makeEngine, hid, List.getElem?_concat_length]
  unfold makeEngineAmong
  split
  case h_1 d hd =>
    rw [hd, Option.some.injEq]
    have hfound := hnew d
    rw [getElem?_devices, Option.map_eq_some_iff] at hfound
    obtain ⟨e, he, rfl⟩ := hfound
    constructor
    · rintro ⟨id, e', hid, he', rfl⟩
      cases hid
      cases he.symm.trans he'
      rfl
    · rintro rfl
      exact ⟨_, e, rfl, he, rfl⟩
  case h_2 hd => simp [hd]

/-- What comes of wanting an engine on one of the devices that were enumerated, in the order of the list. -/
structure Selects (l : List (String × Device)) (r : Except Failure EngineId × Host β × List Output) : Prop where
  /-- Of the devices that were enumerated under one key the last one counts. -/
  stored (k : String) : (Devices.ofList l).find? k = l.reverse.lookup k
  /-- It fails just if there is no device at all, and names what they were enumerated for. -/
  fails_iff (f : Failure) : r.1 = .error f ↔
    l = [] ∧ f = ⟨.noDevices target.backend target.runtime, h.commons.capture.1⟩
  /-- Otherwise the engine has the device that is asked for, or else the one whose key comes first. -/
  has_iff (device : Device) : (∃ id e, r.1 = .ok id ∧ r.2.1.engine? id = some e ∧ e.device = device) ↔
    (Devices.ofList l).Means selector device
  /-- A device that is asked for and not there gives one warning, and no other device gives any. -/
  warns (k : String) : r.2.2.count (missingDevice k) =
    if selector = .key k ∧ (Devices.ofList l).find? k = none then 1 else 0
  /-- Under different keys, it does not matter in which order the devices were enumerated. -/
  any_order {l' : List (String × Device)} : l.Perm l' → (l.map Prod.fst).Nodup →
    h.makeEngineAmong target (.ofList l') selector backend s = r
  /-- A failure takes no id for an engine and does not fix the limit of memory. -/
  leaves (f : Failure) : r.1 = .error f →
    r.2.1.engines = h.engines ∧ r.2.1.limit = h.limit ∧ r.2.1.settings = h.settings

/-- **An engine is made on the device that is asked for, or else on the one whose key comes first.** -/
theorem selects (l : List (String × Device)) :
    h.Selects target selector backend s l (h.makeEngineAmong target (.ofList l) selector backend s) where
  stored := Devices.find?_ofList l
  fails_iff f := by
    rw [makeEngineAmong_error_iff, Devices.select_eq_none_iff, Devices.entries_ofList_eq_nil_iff]
  has_iff device := by
    rw [makeEngineAmong_ok_iff, Devices.select_eq_some_iff (Devices.distinct_ofList l)]
  warns k := by
    rw [count_missingDevice]
    simp only [Devices.misses_eq_some_iff]
  any_order {l'} hp hn := by
    have hfind := Devices.find?_ofList_perm hp hn
    simp only [makeEngineAmong, Devices.misses_congr hfind,
      Devices.select_congr (Devices.distinct_ofList l) (Devices.distinct_ofList l') hfind]
  leaves f hf := by
    obtain ⟨hnone, -⟩ := (h.makeEngineAmong_error_iff target _ selector backend s f).mp hf
    simp [makeEngineAmong, hnone, Commons.capture]

end Host

end DeviceMemory
