import DeviceMemory.Association
import DeviceMemory.Settings.Override
import Mathlib.Data.List.Induction

/-!
# Each variable has a part of its own

Three variables of the environment override settings. Each has some fields of its own and sets them, or
leaves them, whatever is in the others (`Settings.override_eq`). So it does not matter in which order or how
often the variables are heard, and what one of them says stays in its fields (`Settings.overrides`). A variable
that says nothing that can be understood is as good as none.

## The model

The three parts are functions of the text of one variable and of the value of its fields. `none` is the text of
a variable that is unset or is no text.
-/

namespace DeviceMemory

namespace Environment

/-- The environment with some of the variables only. -/
def among (names : List String) (e : Environment) : Environment :=
  ⟨e.entries.filter fun v => v.1 ∈ names⟩

theorem text?_among (names : List String) (e : Environment) (name : String) :
    (e.among names).text? name = if name ∈ names then e.text? name else none := by
  have hl : (e.among names).bytes? name = if decide (name ∈ names) then e.bytes? name else none :=
    Association.lookup_filter (fun v => decide (v ∈ names)) name e.entries
  rw [text?, hl]
  by_cases h : name ∈ names <;> simp [h, text?]

theorem text?_unset (e : Environment) (name other : String) :
    (e.unset name).text? other = if other = name then none else e.text? other := by
  have hl : (e.unset name).bytes? other = if other = name then none else e.bytes? other :=
    Association.lookup_erase name other e.entries
  rw [text?, hl]
  by_cases h : other = name <;> simp [h, text?]

/-- To unset a variable that is no text makes no difference. -/
theorem text?_unset_of_none {e : Environment} {name : String} (h : e.text? name = none) (other : String) :
    (e.unset name).text? other = e.text? other := by
  rw [text?_unset]
  split
  case isTrue heq => rw [heq, h]
  case isFalse => rfl

end Environment

namespace Settings

/-! ### The three parts -/

/-- The variables that override settings. -/
def variableNames : List String := [logVariable, unifiedVariable, deviceVariable]

/-- The texts that switch unified memory off or on. -/
def switches : List String := ["1", "true", "0", "false"]

/-- Logging, as a variable asks for it. -/
def loggedBy (text : Option String) (s : LogSettings) : LogSettings := text.elim s fun t => logFor t s

/-- Whether unified memory must not be used, as a variable wants it. -/
def disabledBy (text : Option String) (disabled : Bool) : Bool := (text.bind switch?).getD disabled

/-- The device that a variable prefers. -/
def preferredBy (text : Option String) (id : Option String) : Option String :=
  (text.filter fun t => !t.isEmpty).or id

/-- **Each variable sets the fields that are its own.** -/
theorem override_eq (e : Environment) (s : Settings) : override e s =
    { memory :=
        { logger := loggedBy (e.text? logVariable) s.memory.logger
          disableUnified := disabledBy (e.text? unifiedVariable) s.memory.disableUnified }
      device := { id := preferredBy (e.text? deviceVariable) s.device.id } } := by
  have hlog : overrideLog e s =
      { s with memory.logger := loggedBy (e.text? logVariable) s.memory.logger } := by
    unfold overrideLog loggedBy
    cases e.text? logVariable <;> rfl
  have hunified (s : Settings) : overrideUnified e s =
      { s with memory.disableUnified := disabledBy (e.text? unifiedVariable) s.memory.disableUnified } := by
    unfold overrideUnified disabledBy
    cases (e.text? unifiedVariable).bind switch? <;> rfl
  have hdevice (s : Settings) : overrideDevice e s =
      { s with device.id := preferredBy (e.text? deviceVariable) s.device.id } := by
    unfold overrideDevice preferredBy
    cases e.text? deviceVariable with
    | none => rfl
    | some id =>
      cases h : id.isEmpty <;> simp [h, Option.filter]
  rw [override, hdevice, hunified, hlog]

/-- Without the variables settings stay as they are. -/
theorem override_of_none {e : Environment} (h : ∀ v ∈ variableNames, e.text? v = none) (s : Settings) :
    override e s = s := by
  rw [override_eq, h logVariable (by simp [variableNames]), h unifiedVariable (by simp [variableNames]),
    h deviceVariable (by simp [variableNames])]
  rfl

/-- Only the texts of the three variables count. -/
theorem override_congr {e e' : Environment} (h : ∀ v ∈ variableNames, e'.text? v = e.text? v) (s : Settings) :
    override e' s = override e s := by
  rw [override_eq, override_eq, h logVariable (by simp [variableNames]), h unifiedVariable (by simp [variableNames]),
    h deviceVariable (by simp [variableNames])]

theorem warnings_congr {e e' : Environment} (h : e'.text? unifiedVariable = e.text? unifiedVariable) :
    overrideWarnings e' = overrideWarnings e := by
  rw [overrideWarnings, h, overrideWarnings]

/-! ### Once more -/

theorem logFor_logFor (text : String) (s : LogSettings) : logFor text (logFor text s) = logFor text s := by
  unfold logFor
  split_ifs <;> rfl

theorem loggedBy_loggedBy (text : Option String) (s : LogSettings) :
    loggedBy text (loggedBy text s) = loggedBy text s := by
  cases text with
  | none => rfl
  | some t => exact logFor_logFor t s

theorem disabledBy_disabledBy (text : Option String) (b : Bool) :
    disabledBy text (disabledBy text b) = disabledBy text b := by
  unfold disabledBy
  cases text.bind switch? <;> rfl

theorem preferredBy_preferredBy (text id : Option String) :
    preferredBy text (preferredBy text id) = preferredBy text id := by
  unfold preferredBy
  cases text.filter fun t => !t.isEmpty <;> rfl

/-! ### One variable at a time -/

/-- A part that leaves its fields without a text, and is done once it has been heard, may be heard any number
of times. -/
theorem heard_again {α : Type} (part : Option String → α → α) (hnone : ∀ a, part none a = a)
    (hagain : ∀ text a, part text (part text a) = part text a) (p q : Prop) [Decidable p] [Decidable q]
    (text : Option String) (a : α) :
    part (if p then text else none) (part (if q then text else none) a) =
      part (if q ∨ p then text else none) a := by
  by_cases hp : p
  · by_cases hq : q
    · simp only [hp, hq, true_or, if_true, hagain]
    · simp only [hp, hq, or_true, if_true, if_false, hnone]
  · simp only [hp, or_false, if_false, hnone]

/-- A variable that is heard after others might as well be heard together with them. -/
theorem override_among_append (e : Environment) (names : List String) (name : String) (s : Settings) :
    override (e.among [name]) (override (e.among names) s) = override (e.among (names ++ [name])) s := by
  simp only [override_eq, Environment.text?_among, List.mem_append,
    heard_again loggedBy (fun _ => rfl) loggedBy_loggedBy,
    heard_again disabledBy (fun _ => rfl) disabledBy_disabledBy,
    heard_again preferredBy (fun _ => rfl) preferredBy_preferredBy]

/-- Variables that are heard one after the other might as well be heard together. -/
theorem foldl_override_among (e : Environment) (order : List String) (s : Settings) :
    order.foldl (fun s name => override (e.among [name]) s) s = override (e.among order) s := by
  induction order using List.reverseRecOn with
  | nil =>
    rw [List.foldl_nil, override_of_none]
    intro v _
    rw [Environment.text?_among, if_neg List.not_mem_nil]
  | append_singleton order name ih =>
    rw [List.foldl_append, ih, List.foldl_cons, List.foldl_nil, override_among_append]

/-! ### What one variable changes -/

theorem text?_eq_of_bytes? {e e' : Environment} {name v : String} (h : ∀ v ≠ name, e'.bytes? v = e.bytes? v)
    (hv : v ≠ name) : e'.text? v = e.text? v := by
  rw [Environment.text?, h v hv, Environment.text?]

theorem loggedBy_eq (text : Option String) (l : LogSettings) : ∃ detail file stdout stderr,
    loggedBy text l = { l with detail, file, stdout, stderr } := by
  cases text with
  | none => exact ⟨_, _, _, _, rfl⟩
  | some t =>
    simp only [loggedBy, Option.elim_some, logFor]
    split_ifs <;> exact ⟨_, _, _, _, rfl⟩

/-- No text switches an output off. -/
theorem loggedBy_outputs (text : Option String) (l : LogSettings) :
    (l.stdout = true → (loggedBy text l).stdout = true) ∧ (l.stderr = true → (loggedBy text l).stderr = true) := by
  cases text with
  | none => exact ⟨id, id⟩
  | some t =>
    simp only [loggedBy, Option.elim_some, logFor]
    split_ifs <;> simp

/-! ### What says nothing -/

theorem switch?_eq_none_iff {text : String} : switch? text = none ↔ text ∉ switches := by
  unfold switch?
  split_ifs with h h'
  · simp only [false_iff, not_not, switches, List.mem_cons]
    tauto
  · simp only [false_iff, not_not, switches, List.mem_cons]
    tauto
  · simp only [true_iff, switches, List.mem_cons, List.not_mem_nil]
    tauto

theorem override_unset_of_no_switch {e : Environment} {text : String} (h : e.text? unifiedVariable = some text)
    (hs : switch? text = none) (s : Settings) : override (e.unset unifiedVariable) s = override e s := by
  have hsame (b : Bool) : disabledBy (some text) b = disabledBy none b := by
    rw [disabledBy, Option.bind_some, hs, disabledBy, Option.bind_none]
  have hlog : logVariable ≠ unifiedVariable := by decide
  have hdevice : deviceVariable ≠ unifiedVariable := by decide
  rw [override_eq e, override_eq (e.unset unifiedVariable)]
  simp only [Environment.text?_unset, if_neg hlog, if_neg hdevice, if_true, h, hsame]

theorem override_unset_of_no_device {e : Environment} (h : e.text? deviceVariable = some "") (s : Settings) :
    override (e.unset deviceVariable) s = override e s := by
  have hsame (id : Option String) : preferredBy (some "") id = preferredBy none id := rfl
  have hlog : logVariable ≠ deviceVariable := by decide
  have hunified : unifiedVariable ≠ deviceVariable := by decide
  rw [override_eq e, override_eq (e.unset deviceVariable)]
  simp only [Environment.text?_unset, if_neg hlog, if_neg hunified, if_true, h, hsame]

theorem warnings_of_none {e : Environment} (h : e.text? unifiedVariable = none) : overrideWarnings e = [] := by
  rw [overrideWarnings, h]

theorem warnings_of_some {e : Environment} {text : String} (h : e.text? unifiedVariable = some text) :
    overrideWarnings e = if text ∈ switches then [] else
      [⟨.warn, "Ignoring invalid DEVMEM_DISABLE_USM value " ++ Text.quoted text⟩] := by
  simp only [overrideWarnings, h]
  by_cases hs : text ∈ switches
  · have hsome : switch? text ≠ none := fun hnone => switch?_eq_none_iff.mp hnone hs
    rw [if_pos hs, if_pos (Option.isSome_iff_ne_none.mpr hsome)]
  · rw [if_neg hs, switch?_eq_none_iff.mpr hs]
    rfl

/-! ### All together -/

/-- What the environment makes of settings. -/
structure Overrides (e : Environment) (s : Settings) : Prop where
  /-- Twice is as good as once. -/
  again : override e (override e s) = override e s
  /-- The variables may be heard one at a time and in any order. -/
  one_by_one (order : List String) : order.Perm variableNames →
    order.foldl (fun s name => override (e.among [name]) s) s = override e s
  /-- Without the variables settings stay as they are. -/
  unheard : (∀ v ∈ variableNames, e.text? v = none) → override e s = s
  /-- The variable about logging changes the detail, the file and the outputs, -/
  logs (e' : Environment) : (∀ v ≠ logVariable, e'.bytes? v = e.bytes? v) → ∃ detail file stdout stderr,
    override e' s = { override e s with
      memory.logger := { (override e s).memory.logger with detail, file, stdout, stderr } }
  /-- the one about unified memory whether that must not be used, -/
  disables (e' : Environment) : (∀ v ≠ unifiedVariable, e'.bytes? v = e.bytes? v) → ∃ b,
    override e' s = { override e s with memory.disableUnified := b }
  /-- and the one about the device which is preferred. -/
  prefers (e' : Environment) : (∀ v ≠ deviceVariable, e'.bytes? v = e.bytes? v) → ∃ id,
    override e' s = { override e s with device.id := id }
  /-- Whether a file is kept and whether events are passed on as records is never changed, -/
  keeps : (override e s).memory.logger.append = s.memory.logger.append ∧
    (override e s).memory.logger.records = s.memory.logger.records
  /-- and no output is switched off. -/
  outputs : (s.memory.logger.stdout = true → (override e s).memory.logger.stdout = true) ∧
    (s.memory.logger.stderr = true → (override e s).memory.logger.stderr = true)
  /-- A variable that is no text is as good as none. -/
  no_text (v : String) (b : ByteArray) : e.bytes? v = some b → String.fromUTF8? b = none →
    override e s = override (e.unset v) s ∧ overrideWarnings e = overrideWarnings (e.unset v)
  /-- So is one about unified memory that is no truth value, but for one warning, -/
  no_switch (text : String) : e.text? unifiedVariable = some text → text ∉ switches →
    override e s = override (e.unset unifiedVariable) s ∧
      overrideWarnings e = [⟨.warn, "Ignoring invalid DEVMEM_DISABLE_USM value " ++ Text.quoted text⟩] ∧
      overrideWarnings (e.unset unifiedVariable) = []
  /-- the only one that there ever is, -/
  silent : (∀ text, e.text? unifiedVariable = some text → text ∈ switches) → overrideWarnings e = []
  /-- and one about the device that is empty. -/
  no_device : e.text? deviceVariable = some "" → override e s = override (e.unset deviceVariable) s

/-- **Each variable of the environment overrides fields of its own**, and those only. -/
theorem overrides (e : Environment) (s : Settings) : Overrides e s where
  again := by
    rw [override_eq e (override e s), override_eq e s]
    simp only [loggedBy_loggedBy, disabledBy_disabledBy, preferredBy_preferredBy]
  one_by_one order h := by
    rw [foldl_override_among]
    apply override_congr
    intro v hv
    rw [Environment.text?_among, if_pos (h.mem_iff.mpr hv)]
  unheard h := override_of_none h s
  logs e' h := by
    have hu := text?_eq_of_bytes? h (v := unifiedVariable) (by decide)
    have hd := text?_eq_of_bytes? h (v := deviceVariable) (by decide)
    obtain ⟨detail, file, stdout, stderr, hl'⟩ := loggedBy_eq (e'.text? logVariable) s.memory.logger
    obtain ⟨_, _, _, _, hl⟩ := loggedBy_eq (e.text? logVariable) s.memory.logger
    exact ⟨detail, file, stdout, stderr, by rw [override_eq e', override_eq e, hu, hd, hl', hl]⟩
  disables e' h := by
    have hl := text?_eq_of_bytes? h (v := logVariable) (by decide)
    have hd := text?_eq_of_bytes? h (v := deviceVariable) (by decide)
    exact ⟨_, by rw [override_eq e', override_eq e, hl, hd]⟩
  prefers e' h := by
    have hl := text?_eq_of_bytes? h (v := logVariable) (by decide)
    have hu := text?_eq_of_bytes? h (v := unifiedVariable) (by decide)
    exact ⟨_, by rw [override_eq e', override_eq e, hl, hu]⟩
  keeps := by
    obtain ⟨_, _, _, _, hl⟩ := loggedBy_eq (e.text? logVariable) s.memory.logger
    rw [override_eq, hl]
    exact ⟨rfl, rfl⟩
  outputs := by
    rw [override_eq]
    exact loggedBy_outputs _ _
  no_text v b hb hn := by
    have hnone : e.text? v = none := by rw [Environment.text?, hb]; exact hn
    have hsame := Environment.text?_unset_of_none hnone
    exact ⟨(override_congr (fun name _ => hsame name) s).symm, (warnings_congr (hsame _)).symm⟩
  no_switch text ht hs := by
    refine ⟨(override_unset_of_no_switch ht (switch?_eq_none_iff.mpr hs) s).symm, ?_, ?_⟩
    · rw [warnings_of_some ht, if_neg hs]
    · exact warnings_of_none (by rw [Environment.text?_unset, if_pos rfl])
  silent h := by
    cases ht : e.text? unifiedVariable with
    | none => exact warnings_of_none ht
    | some text => rw [warnings_of_some ht, if_pos (h text ht)]
  no_device h := (override_unset_of_no_device h s).symm

end Settings

end DeviceMemory
