import DeviceMemory.Association
import DeviceMemory.Settings.Reading
import Mathlib.Data.Option.Basic
import Mathlib.Logic.Relation
import Mathlib.Tactic.ByContra

/-!
# Settings are read field by field

A document lays what it gives over the default settings. There are two sources of defaults: a section that is
missing as a whole, and a section that is there and leaves a field out. They agree: whatever is given for a
field counts, and what is not given is as in the default settings, wherever it is that it is missing
(`Settings.decodes`). A document cannot be read just if it gives something of a wrong form for a field.

## The model

A `Field` is told by its name, or by its place among the fields of its `Section`. `Field.givenBy` looks a field
up in a document. `Form.Says` tells which values are of a form, and what they say. Neither knows how a document
is read.

Documents that say the same can be written in many ways. `Restates` is one change of such a kind, at any depth:
names in another order, one more name that is no field, fields by their places and not by their names.
-/

namespace DeviceMemory.Settings

open Toml (Value)

/-! ### Fields and forms -/

/-- A part of a document that has fields. -/
inductive Section
  /-- The document as a whole. -/
  | whole
  /-- The section on engines. -/
  | memory
  /-- The section on logging. -/
  | logger
  /-- The section on devices. -/
  | device

/-- What a document can give. -/
inductive Field
  /-- The section on engines. -/
  | memory
  /-- The section on devices. -/
  | device
  /-- The section on logging. -/
  | logger
  /-- Whether unified memory must not be used. -/
  | disableUnified
  /-- The log file. -/
  | file
  /-- Whether the log file is kept. -/
  | append
  /-- Whether to write to standard output. -/
  | stdout
  /-- Whether to write to standard error. -/
  | stderr
  /-- The level at which events are passed on as records. -/
  | records
  /-- How much is logged. -/
  | detail
  /-- The device to use. -/
  | id
  deriving DecidableEq

/-- The fields of a section, in the order of their places. -/
def Section.fields : Section → List Field
  | whole => [.memory, .device]
  | memory => [.logger, .disableUnified]
  | logger => [.file, .append, .stdout, .stderr, .records, .detail]
  | device => [.id]

/-- What is expected for a field. -/
inductive Form
  /-- A section. -/
  | parts (s : Section)
  /-- A text. -/
  | text
  /-- A truth value. -/
  | truth
  /-- One of some names. -/
  | choice (names : List String)

/-- What a value says. -/
inductive Word
  /-- Nothing by itself; it has fields. -/
  | parts
  /-- A text, or a name. -/
  | text (s : String)
  /-- A truth value. -/
  | truth (b : Bool)

/-- A value is of a form, and says something. -/
inductive Form.Says : Form → Value → Word → Prop
  /-- A section may be a table, -/
  | table {s : Section} (entries : List (String × Value)) : Says (.parts s) (.table entries) .parts
  /-- or an array of its fields by their places, -/
  | array {s : Section} (items : List Value) : Says (.parts s) (.array items) .parts
  /-- and a date is taken for a section without fields. -/
  | date {s : Section} (written : String) : Says (.parts s) (.dateTime written) .parts
  /-- A text. -/
  | text (s : String) : Says .text (.string s) (.text s)
  /-- A truth value. -/
  | truth (b : Bool) : Says .truth (.boolean b) (.truth b)
  /-- A name may be a text, -/
  | named {names : List String} {name : String} (h : name ∈ names) :
    Says (.choice names) (.string name) (.text name)
  /-- or a table with that name alone and nothing in it. -/
  | tagged {names : List String} {name : String} {inner : Value} (h : name ∈ names)
    (hi : inner = .table [] ∨ inner = .array []) : Says (.choice names) (.table [(name, inner)]) (.text name)

namespace Field

/-- The name in a document. -/
def name : Field → String
  | memory => "memory"
  | device => "device"
  | logger => "logger"
  | disableUnified => "disable_usm"
  | file => "file"
  | append => "append"
  | stdout => "stdout"
  | stderr => "stderr"
  | records => "log"
  | detail => "level"
  | id => "id"

/-- The section that a field belongs to. -/
def home : Field → Section
  | memory | device => .whole
  | logger | disableUnified => .memory
  | file | append | stdout | stderr | records | detail => .logger
  | id => .device

/-- The place among the fields of the section. -/
def place (f : Field) : Nat := f.home.fields.idxOf f

/-- The form of what is given for a field. -/
def form : Field → Form
  | memory => .parts .memory
  | device => .parts .device
  | logger => .parts .logger
  | disableUnified | append | stdout | stderr => .truth
  | file | id => .text
  | records => .choice ["info", "debug", "trace"]
  | detail => .choice ["disabled", "basic", "full"]

/-- What a section gives for one of its fields. -/
def givenIn (f : Field) : Value → Option Value
  | .table entries => entries.lookup f.name
  | .array items => items[f.place]?
  | _ => none

end Field

/-- The section of a document, if it is there. -/
def Section.find? (doc : Value) : Section → Option Value
  | whole => some doc
  | memory => Field.memory.givenIn doc
  | logger => (Field.memory.givenIn doc).bind Field.logger.givenIn
  | device => Field.device.givenIn doc

/-- What a document gives for a field. -/
def Field.givenBy (doc : Value) (f : Field) : Option Value := (f.home.find? doc).bind f.givenIn

/-- What settings say in a field, if anything. -/
def Field.word? (s : Settings) : Field → Option Word
  | memory | device | logger => some .parts
  | disableUnified => some (.truth s.memory.disableUnified)
  | file => s.memory.logger.file.map .text
  | append => some (.truth s.memory.logger.append)
  | stdout => some (.truth s.memory.logger.stdout)
  | stderr => some (.truth s.memory.logger.stderr)
  | records => s.memory.logger.records.map fun level => .text level.name
  | detail => some (.text s.memory.logger.detail.name)
  | id => s.device.id.map .text

/-- What is given counts, and else the default. -/
structure Overlaid (form : Form) (given : Option Value) (dflt word : Option Word) : Prop where
  /-- What is given is of the right form, and says what the settings say. -/
  of_given {v : Value} : given = some v → ∃ w, form.Says v w ∧ word = some w
  /-- Where nothing is given, they say what they say by default. -/
  of_missing : given = none → word = dflt

/-! ### Looking fields up -/

theorem Section.nodup_names (s : Section) : (s.fields.map Field.name).Nodup := by
  cases s <;> decide

theorem Section.mem_fields_iff {s : Section} {f : Field} : f ∈ s.fields ↔ f.home = s := by
  cases f <;> cases s <;> simp [Section.fields, Field.home]

theorem Field.getElem?_place (f : Field) : f.home.fields[f.place]? = some f := by
  cases f <;> rfl

/-- Whatever has the form of a section gives something for fields, and nothing else does. -/
theorem givenBy_isSome_iff (fields : List String) {s : Section} {v : Value} :
    (givenBy fields v).isSome ↔ (Form.parts s).Says v .parts := by
  constructor
  · intro h
    cases v with
    | table entries => exact .table entries
    | array items => exact .array items
    | dateTime written => exact .date written
    | _ => simp [givenBy] at h
  · rintro (_ | _ | _) <;> simp [givenBy]

/-- What a section gives is found under the names of its fields, or at their places. -/
theorem given_eq {v : Value} {given : Given} (f : Field)
    (h : givenBy (f.home.fields.map Field.name) v = some given) : given f.name = f.givenIn v := by
  cases v with
  | table entries =>
    cases h
    rfl
  | array items =>
    cases h
    refine Association.lookup_zip f.home.nodup_names ?_ items
    rw [List.getElem?_map, f.getElem?_place, Option.map_some]
  | dateTime written =>
    cases h
    rfl
  | _ => simp [givenBy] at h

/-- What is read for a field of a section. -/
def Field.readIn {α : Type} (f : Field) (v : Value) (read : Value → Option α) (dflt : α) : Option α :=
  (f.givenIn v).elim (some dflt) read

theorem field_eq_readIn {α : Type} {v : Value} {given : Given} (f : Field)
    (h : givenBy (f.home.fields.map Field.name) v = some given) (read : Value → Option α) (dflt : α) :
    field given f.name read dflt = f.readIn v read dflt := by
  rw [field, Field.readIn, given_eq f h]
  cases f.givenIn v <;> rfl

theorem Field.readIn_eq_some_iff {α : Type} {f : Field} {v : Value} {read : Value → Option α} {dflt a : α} :
    f.readIn v read dflt = some a ↔
      f.givenIn v = none ∧ dflt = a ∨ ∃ v', f.givenIn v = some v' ∧ read v' = some a := by
  unfold Field.readIn
  cases f.givenIn v <;> simp

theorem readLog_eq_some_iff {v : Value} {l : LogSettings} : readLog v = some l ↔
    (Form.parts .logger).Says v .parts ∧ Field.file.readIn v (readSome readText) none = some l.file ∧
      Field.append.readIn v readTruth true = some l.append ∧
      Field.stdout.readIn v readTruth false = some l.stdout ∧
      Field.stderr.readIn v readTruth false = some l.stderr ∧
      Field.records.readIn v (readSome (readChoice RecordLevel.ofName?)) none = some l.records ∧
      Field.detail.readIn v (readChoice LogDetail.ofName?) .disabled = some l.detail := by
  rw [← givenBy_isSome_iff logFields]
  unfold readLog
  cases hg : givenBy logFields v with
  | none => simp
  | some given =>
    rw [← field_eq_readIn .file hg, ← field_eq_readIn .append hg, ← field_eq_readIn .stdout hg,
      ← field_eq_readIn .stderr hg, ← field_eq_readIn .records hg, ← field_eq_readIn .detail hg]
    cases l
    simp only [Field.name, Option.bind_eq_bind, Option.bind_eq_some_iff, Option.pure_def, Option.bind_some,
      Option.some.injEq, LogSettings.mk.injEq, Option.isSome_some, true_and]
    constructor
    · rintro ⟨_, hfile, _, happend, _, hstdout, _, hstderr, _, hrecords, _, hdetail,
        rfl, rfl, rfl, rfl, rfl, rfl⟩
      exact ⟨hfile, happend, hstdout, hstderr, hrecords, hdetail⟩
    · rintro ⟨hfile, happend, hstdout, hstderr, hrecords, hdetail⟩
      exact ⟨_, hfile, _, happend, _, hstdout, _, hstderr, _, hrecords, _, hdetail, rfl, rfl, rfl, rfl, rfl, rfl⟩

theorem readMemory_eq_some_iff {v : Value} {m : MemorySettings} : readMemory v = some m ↔
    (Form.parts .memory).Says v .parts ∧ Field.logger.readIn v readLog {} = some m.logger ∧
      Field.disableUnified.readIn v readTruth false = some m.disableUnified := by
  rw [← givenBy_isSome_iff memoryFields]
  unfold readMemory
  cases hg : givenBy memoryFields v with
  | none => simp
  | some given =>
    rw [← field_eq_readIn .logger hg, ← field_eq_readIn .disableUnified hg]
    cases m
    simp [Field.name, Option.bind_eq_some_iff]

theorem readDevice_eq_some_iff {v : Value} {d : DeviceSettings} : readDevice v = some d ↔
    (Form.parts .device).Says v .parts ∧ Field.id.readIn v (readSome readText) none = some d.id := by
  rw [← givenBy_isSome_iff deviceFields]
  unfold readDevice
  cases hg : givenBy deviceFields v with
  | none => simp
  | some given =>
    rw [← field_eq_readIn .id hg]
    cases d
    simp [Field.name, Option.bind_eq_some_iff]

theorem read_eq_some_iff {v : Value} {s : Settings} : read v = some s ↔
    (Form.parts .whole).Says v .parts ∧ Field.memory.readIn v readMemory {} = some s.memory ∧
      Field.device.readIn v readDevice {} = some s.device := by
  rw [← givenBy_isSome_iff sections]
  unfold read
  cases hg : givenBy sections v with
  | none => simp
  | some given =>
    rw [← field_eq_readIn .memory hg, ← field_eq_readIn .device hg]
    cases s
    simp [Field.name, Option.bind_eq_some_iff]

/-! ### Readers of forms -/

/-- A reader understands the values of a form, and reads what they say. -/
structure Reads {α : Type} (form : Form) (read : Value → Option α) (word : α → Option Word) : Prop where
  /-- What is read has been said. -/
  sound {v : Value} {a : α} : read v = some a → ∃ w, form.Says v w ∧ word a = some w
  /-- What has been said can be read. -/
  complete {v : Value} {w : Word} : form.Says v w → ∃ a, read v = some a

theorem reads_text : Reads .text readText fun s => some (.text s) where
  sound {v s} h := by
    cases v with
    | string t =>
      obtain rfl : t = s := by simpa [readText] using h
      exact ⟨_, .text t, rfl⟩
    | _ => simp [readText] at h
  complete := by
    rintro _ _ ⟨⟩
    exact ⟨_, rfl⟩

theorem reads_truth : Reads .truth readTruth fun b => some (.truth b) where
  sound {v b} h := by
    cases v with
    | boolean t =>
      obtain rfl : t = b := by simpa [readTruth] using h
      exact ⟨_, .truth t, rfl⟩
    | _ => simp [readTruth] at h
  complete := by
    rintro _ _ ⟨⟩
    exact ⟨_, rfl⟩

theorem holdsNothing_iff {v : Value} : holdsNothing v ↔ v = .table [] ∨ v = .array [] := by
  unfold holdsNothing
  split <;> simp_all

theorem reads_choice {α : Type} (all : List α) (name : α → String) :
    Reads (.choice (all.map name)) (readChoice fun s => all.find? (name · == s)) fun a => some (.text (name a)) where
  sound {v a} h := by
    unfold readChoice at h
    split at h
    case h_1 s =>
      have hname : name a = s := by simpa using List.find?_some h
      have hs : name a ∈ all.map name := List.mem_map_of_mem (List.mem_of_find?_eq_some h)
      exact ⟨_, .named (hname ▸ hs), by rw [hname]⟩
    case h_2 s inner =>
      obtain ⟨hi, h⟩ := Option.ite_none_right_eq_some.mp h
      have hname : name a = s := by simpa using List.find?_some h
      have hs : name a ∈ all.map name := List.mem_map_of_mem (List.mem_of_find?_eq_some h)
      exact ⟨_, .tagged (hname ▸ hs) (holdsNothing_iff.mp hi), by rw [hname]⟩
    case h_3 => simp at h
  complete {v w} h := by
    have hfind {s : String} (hs : s ∈ all.map name) : ∃ a, all.find? (name · == s) = some a := by
      obtain ⟨a, ha, rfl⟩ := List.mem_map.mp hs
      exact Option.isSome_iff_exists.mp (List.find?_isSome.mpr ⟨a, ha, beq_self_eq_true _⟩)
    cases h with
    | named hs => exact hfind hs
    | tagged hs hi =>
      rw [readChoice, if_pos (holdsNothing_iff.mpr hi)]
      exact hfind hs

/-- A field that may be without a value is read like one that has to have one. -/
theorem Reads.optional {α : Type} {form : Form} {read : Value → Option α} {word : α → Word}
    (h : Reads form read fun a => some (word a)) : Reads form (readSome read) fun o => o.map word where
  sound hv := by
    obtain ⟨a, ha, rfl⟩ := Option.map_eq_some_iff.mp hv
    exact h.sound ha
  complete hs := by
    obtain ⟨a, ha⟩ := h.complete hs
    exact ⟨_, by rw [readSome, ha, Option.map_some]⟩

theorem Reads.overlaid {α : Type} {form : Form} {read : Value → Option α} {word : α → Option Word}
    (h : Reads form read word) {f : Field} {v : Value} {dflt a : α} (hf : f.readIn v read dflt = some a) :
    Overlaid form (f.givenIn v) (word dflt) (word a) := by
  obtain ⟨hnone, rfl⟩ | ⟨v', hv', ha⟩ := Field.readIn_eq_some_iff.mp hf
  · exact ⟨fun hv => by simp [hnone] at hv, fun _ => rfl⟩
  · refine ⟨fun hv => ?_, fun hnone => by simp [hnone] at hv'⟩
    obtain rfl : v' = _ := Option.some.inj (hv'.symm.trans hv)
    exact h.sound ha

/-- Something is read for a field if what is given for it, if anything, can be read. -/
theorem Field.exists_readIn {α : Type} {f : Field} {v : Value} {read : Value → Option α} (dflt : α)
    (h : ∀ v', f.givenIn v = some v' → ∃ a, read v' = some a) : ∃ a, f.readIn v read dflt = some a := by
  cases hg : f.givenIn v with
  | none => exact ⟨dflt, readIn_eq_some_iff.mpr (.inl ⟨hg, rfl⟩)⟩
  | some v' =>
    obtain ⟨a, ha⟩ := h v' hg
    exact ⟨a, readIn_eq_some_iff.mpr (.inr ⟨v', hg, ha⟩)⟩

/-! ### What a document gives -/

/-- What settings say in a section has been read from that section. -/
def Section.Read (v : Value) (s : Settings) : Section → Prop
  | whole => read v = some s
  | memory => readMemory v = some s.memory
  | logger => readLog v = some s.memory.logger
  | device => readDevice v = some s.device

theorem Section.Read.form {σ : Section} {v : Value} {s : Settings} (h : σ.Read v s) :
    (Form.parts σ).Says v .parts := by
  cases σ with
  | whole => exact (read_eq_some_iff.mp h).1
  | memory => exact (readMemory_eq_some_iff.mp h).1
  | logger => exact (readLog_eq_some_iff.mp h).1
  | device => exact (readDevice_eq_some_iff.mp h).1

/-- Settings say in a section what it does, or what they say by default if it is missing. -/
def Section.Holds (σ : Section) (s : Settings) : Option Value → Prop
  | none => ∀ f : Field, f.home = σ → f.word? s = f.word? .default
  | some v => σ.Read v s

theorem Section.holds_find? {doc : Value} {s : Settings} (h : read doc = some s) (σ : Section) :
    σ.Holds s (σ.find? doc) := by
  obtain ⟨-, hmemory, hdevice⟩ := read_eq_some_iff.mp h
  cases σ with
  | whole => exact h
  | memory =>
    rw [find?]
    obtain ⟨hnone, hm⟩ | ⟨v, hv, hm⟩ := Field.readIn_eq_some_iff.mp hmemory
    · rw [hnone]
      rintro (_ | _) ⟨⟩ <;> simp [Field.word?, ← hm, Settings.default]
    · rwa [hv]
  | logger =>
    rw [find?]
    obtain ⟨hnone, hm⟩ | ⟨v, hv, hm⟩ := Field.readIn_eq_some_iff.mp hmemory
    · rw [hnone]
      rintro (_ | _) ⟨⟩ <;> simp [Field.word?, ← hm, Settings.default]
    · obtain ⟨-, hlogger, -⟩ := readMemory_eq_some_iff.mp hm
      rw [hv, Option.bind_some]
      obtain ⟨hnone, hl⟩ | ⟨v', hv', hl⟩ := Field.readIn_eq_some_iff.mp hlogger
      · rw [hnone]
        rintro (_ | _) ⟨⟩ <;> simp [Field.word?, ← hl, Settings.default]
      · rwa [hv']
  | device =>
    rw [find?]
    obtain ⟨hnone, hd⟩ | ⟨v, hv, hd⟩ := Field.readIn_eq_some_iff.mp hdevice
    · rw [hnone]
      rintro (_ | _) ⟨⟩
      simp [Field.word?, ← hd, Settings.default]
    · rwa [hv]

/-- A field whose value is a section. -/
theorem overlaid_parts {α : Type} {f : Field} {v : Value} {read : Value → Option α} {dflt a : α}
    {σ : Section} (hread : ∀ {v' a'}, read v' = some a' → (Form.parts σ).Says v' .parts)
    (hf : f.readIn v read dflt = some a) : Overlaid (.parts σ) (f.givenIn v) (some .parts) (some .parts) where
  of_given hv := by
    obtain ⟨hnone, -⟩ | ⟨v', hv', ha⟩ := Field.readIn_eq_some_iff.mp hf
    · simp [hnone] at hv
    · obtain rfl := Option.some.inj (hv'.symm.trans hv)
      exact ⟨_, hread ha, rfl⟩
  of_missing _ := rfl

theorem Section.Read.overlaid {σ : Section} {v : Value} {s : Settings} (h : σ.Read v s) {f : Field}
    (hf : f.home = σ) : Overlaid f.form (f.givenIn v) (f.word? .default) (f.word? s) := by
  subst hf
  cases f with
  | memory => exact overlaid_parts (fun h => (readMemory_eq_some_iff.mp h).1) (read_eq_some_iff.mp h).2.1
  | device => exact overlaid_parts (fun h => (readDevice_eq_some_iff.mp h).1) (read_eq_some_iff.mp h).2.2
  | logger => exact overlaid_parts (fun h => (readLog_eq_some_iff.mp h).1) (readMemory_eq_some_iff.mp h).2.1
  | disableUnified => exact reads_truth.overlaid (readMemory_eq_some_iff.mp h).2.2
  | id => exact reads_text.optional.overlaid (readDevice_eq_some_iff.mp h).2
  | file => exact reads_text.optional.overlaid (readLog_eq_some_iff.mp h).2.1
  | append => exact reads_truth.overlaid (readLog_eq_some_iff.mp h).2.2.1
  | stdout => exact reads_truth.overlaid (readLog_eq_some_iff.mp h).2.2.2.1
  | stderr => exact reads_truth.overlaid (readLog_eq_some_iff.mp h).2.2.2.2.1
  | records =>
    exact (reads_choice RecordLevel.all RecordLevel.name).optional.overlaid (readLog_eq_some_iff.mp h).2.2.2.2.2.1
  | detail => exact (reads_choice LogDetail.all LogDetail.name).overlaid (readLog_eq_some_iff.mp h).2.2.2.2.2.2

/-- Settings say in each field what the document gives for it, or else what they say by default. -/
theorem overlaid {doc : Value} {s : Settings} (h : read doc = some s) (f : Field) :
    Overlaid f.form (f.givenBy doc) (f.word? .default) (f.word? s) := by
  have hs := Section.holds_find? h f.home
  rw [Field.givenBy]
  cases hv : f.home.find? doc with
  | none =>
    rw [hv] at hs
    exact ⟨nofun, fun _ => hs f rfl⟩
  | some v =>
    rw [hv] at hs
    exact hs.overlaid rfl

/-! ### What cannot be read -/

/-- What a section gives for its fields is of the right form. -/
def Section.WellFormed (v : Value) (σ : Section) : Prop :=
  (Form.parts σ).Says v .parts ∧ ∀ f : Field, f.home = σ → ∀ v', f.givenIn v = some v' → ∃ w, f.form.Says v' w

theorem Reads.exists_readIn {α : Type} {read : Value → Option α} {word : α → Option Word} {f : Field}
    (h : Reads f.form read word) {v : Value} (hv : f.home.WellFormed v) {dflt : α} :
    ∃ a, f.readIn v read dflt = some a :=
  Field.exists_readIn dflt fun v' hv' => by
    obtain ⟨w, hw⟩ := hv.2 f rfl v' hv'
    exact h.complete hw

theorem exists_readLog {v : Value} (h : Section.logger.WellFormed v) : ∃ l, readLog v = some l := by
  obtain ⟨file, hfile⟩ := reads_text.optional.exists_readIn (f := .file) h
  obtain ⟨append, happend⟩ := reads_truth.exists_readIn (f := .append) h
  obtain ⟨stdout, hstdout⟩ := reads_truth.exists_readIn (f := .stdout) h
  obtain ⟨stderr, hstderr⟩ := reads_truth.exists_readIn (f := .stderr) h
  obtain ⟨records, hrecords⟩ :=
    (reads_choice RecordLevel.all RecordLevel.name).optional.exists_readIn (f := .records) h
  obtain ⟨detail, hdetail⟩ := (reads_choice LogDetail.all LogDetail.name).exists_readIn (f := .detail) h
  exact ⟨⟨file, append, stdout, stderr, records, detail⟩,
    readLog_eq_some_iff.mpr ⟨h.1, hfile, happend, hstdout, hstderr, hrecords, hdetail⟩⟩

theorem exists_readMemory {v : Value} (h : Section.memory.WellFormed v)
    (hlogger : ∀ v', Field.logger.givenIn v = some v' → Section.logger.WellFormed v') :
    ∃ m, readMemory v = some m := by
  obtain ⟨logger, hl⟩ := Field.exists_readIn {} fun v' hv' => exists_readLog (hlogger v' hv')
  obtain ⟨disabled, hd⟩ := reads_truth.exists_readIn (f := .disableUnified) h
  exact ⟨⟨logger, disabled⟩, readMemory_eq_some_iff.mpr ⟨h.1, hl, hd⟩⟩

theorem exists_readDevice {v : Value} (h : Section.device.WellFormed v) : ∃ d, readDevice v = some d := by
  obtain ⟨id, hid⟩ := reads_text.optional.exists_readIn (f := .id) h
  exact ⟨⟨id⟩, readDevice_eq_some_iff.mpr ⟨h.1, hid⟩⟩

/-- A document whose sections are well formed can be read. -/
theorem exists_read {doc : Value} (h : ∀ σ v, Section.find? doc σ = some v → σ.WellFormed v) :
    ∃ s, read doc = some s := by
  obtain ⟨memory, hm⟩ := Field.exists_readIn (f := .memory) (v := doc) {} fun v hv =>
    exists_readMemory (h .memory v hv) fun v' hv' => h .logger v' (by rw [Section.find?, hv]; exact hv')
  obtain ⟨device, hd⟩ := Field.exists_readIn (f := .device) (v := doc) {} fun v hv =>
    exists_readDevice (h .device v hv)
  exact ⟨⟨memory, device⟩, read_eq_some_iff.mpr ⟨(h .whole doc rfl).1, hm, hd⟩⟩

theorem Form.Says.unique {form : Form} {v : Value} {w w' : Word} (h : form.Says v w) (h' : form.Says v w') :
    w = w' := by
  cases h <;> cases h' <;> rfl

/-- What a section has is what a field gives. -/
theorem Section.exists_field {σ : Section} (hσ : σ ≠ .whole) (doc : Value) :
    ∃ f : Field, f.form = .parts σ ∧ f.givenBy doc = σ.find? doc := by
  cases σ with
  | whole => exact absurd rfl hσ
  | memory => exact ⟨.memory, rfl, rfl⟩
  | logger => exact ⟨.logger, rfl, rfl⟩
  | device => exact ⟨.device, rfl, rfl⟩

theorem Section.wellFormed {entries : List (String × Value)}
    (h : ∀ (f : Field) v, f.givenBy (.table entries) = some v → ∃ w, f.form.Says v w) {σ : Section} {v : Value}
    (hv : σ.find? (.table entries) = some v) : σ.WellFormed v := by
  refine ⟨?_, fun f hf v' hv' => h f v' ?_⟩
  · by_cases hσ : σ = .whole
    · subst hσ
      cases hv
      exact .table entries
    · obtain ⟨f, hform, hf⟩ := Section.exists_field hσ (.table entries)
      obtain ⟨w, hw⟩ := h f v (hf.trans hv)
      rw [hform] at hw
      cases hw <;> constructor
  · rw [Field.givenBy, hf, hv]
    exact hv'

/-- Settings are told by what they say in their fields. -/
theorem eq_of_words {s s' : Settings} (h : ∀ f : Field, f.word? s = f.word? s') : s = s' := by
  have htext : Function.Injective (Option.map Word.text) := Option.map_injective fun _ _ => Word.text.inj
  have hrecord : Function.Injective (Option.map fun level : RecordLevel => Word.text level.name) :=
    Option.map_injective fun a b hab => by cases a <;> cases b <;> simp [RecordLevel.name] at hab ⊢
  have hdetail : s.memory.logger.detail = s'.memory.logger.detail := by
    have hname := h .detail
    cases hd : s.memory.logger.detail <;> cases hd' : s'.memory.logger.detail <;>
      simp [Field.word?, LogDetail.name, hd, hd'] at hname ⊢
  have hfile : s.memory.logger.file = s'.memory.logger.file := htext (h .file)
  have happend : s.memory.logger.append = s'.memory.logger.append := by simpa [Field.word?] using h .append
  have hstdout : s.memory.logger.stdout = s'.memory.logger.stdout := by simpa [Field.word?] using h .stdout
  have hstderr : s.memory.logger.stderr = s'.memory.logger.stderr := by simpa [Field.word?] using h .stderr
  have hrecords : s.memory.logger.records = s'.memory.logger.records := hrecord (h .records)
  have hdisabled : s.memory.disableUnified = s'.memory.disableUnified := by simpa [Field.word?] using h .disableUnified
  have hid : s.device.id = s'.device.id := htext (h .id)
  obtain ⟨⟨⟨_, _, _, _, _, _⟩, _⟩, ⟨_⟩⟩ := s
  obtain ⟨⟨⟨_, _, _, _, _, _⟩, _⟩, ⟨_⟩⟩ := s'
  simp_all

theorem Overlaid.unique {form : Form} {given : Option Value} {dflt word word' : Option Word}
    (h : Overlaid form given dflt word) (h' : Overlaid form given dflt word') : word = word' := by
  cases hg : given with
  | none => rw [h.of_missing hg, h'.of_missing hg]
  | some v =>
    obtain ⟨w, hw, rfl⟩ := h.of_given hg
    obtain ⟨w', hw', rfl⟩ := h'.of_given hg
    rw [hw.unique hw']

theorem Overlaid.form_of_given {form : Form} {given : Option Value} {dflt word : Option Word}
    (h : Overlaid form given dflt word) {v : Value} (hv : given = some v) : ∃ w, form.Says v w := by
  obtain ⟨w, hw, -⟩ := h.of_given hv
  exact ⟨w, hw⟩

/-- The settings of a document are those that it lays over the default ones. -/
theorem read_eq_some_iff_overlaid {entries : List (String × Value)} {s : Settings} :
    read (.table entries) = some s ↔
      ∀ f : Field, Overlaid f.form (f.givenBy (.table entries)) (f.word? .default) (f.word? s) := by
  refine ⟨overlaid, fun h => ?_⟩
  obtain ⟨s', hs'⟩ := exists_read fun _ _ => Section.wellFormed fun f v hv => (h f).form_of_given hv
  rw [hs', eq_of_words fun f => (overlaid hs' f).unique (h f)]

/-- A document cannot be read just if something that it gives has a wrong form. -/
theorem read_eq_none_iff {entries : List (String × Value)} : read (.table entries) = none ↔
    ∃ (f : Field) (v : Value), f.givenBy (.table entries) = some v ∧ ∀ w, ¬ f.form.Says v w := by
  constructor
  · intro hnone
    by_contra! h
    obtain ⟨s, hs⟩ := exists_read fun _ _ => Section.wellFormed h
    simp [hs] at hnone
  · rintro ⟨f, v, hv, hw⟩
    by_contra hsome
    obtain ⟨s, hs⟩ := Option.ne_none_iff_exists'.mp hsome
    obtain ⟨w, hgiven⟩ := (overlaid hs f).form_of_given hv
    exact hw w hgiven

/-! ### The same in other words -/

/-- One change of a section that leaves what it says. -/
inductive Restates : Section → Value → Value → Prop
  /-- The names of a table may be in any order. -/
  | reorder {σ : Section} {entries entries' : List (String × Value)} (hn : (entries.map Prod.fst).Nodup)
    (h : entries.Perm entries') : Restates σ (.table entries) (.table entries')
  /-- A name that is no field may be there or not. -/
  | ignore {σ : Section} {name : String} (h : name ∉ σ.fields.map Field.name) (before after : List (String × Value))
    (v : Value) : Restates σ (.table (before ++ after)) (.table (before ++ (name, v) :: after))
  /-- The first fields may be given by their places or by their names. -/
  | unname {σ : Section} (items : List Value) :
    Restates σ (.array items) (.table ((σ.fields.map Field.name).zip items))
  /-- So may the fields of a section in a table, -/
  | inTable {σ : Section} {f : Field} (hf : f.home = σ) {τ : Section} (hform : f.form = .parts τ) {v v' : Value}
    (h : Restates τ v v') (before after : List (String × Value)) :
    Restates σ (.table (before ++ (f.name, v) :: after)) (.table (before ++ (f.name, v') :: after))
  /-- and those of one in an array. -/
  | inArray {σ : Section} {f : Field} (hf : f.home = σ) {τ : Section} (hform : f.form = .parts τ) {v v' : Value}
    (h : Restates τ v v') {items : List Value} (hv : items[f.place]? = some v) :
    Restates σ (.array items) (.array (items.set f.place v'))

/-- The same is read from two sections. -/
def Section.Alike (σ : Section) (v v' : Value) : Prop := ∀ s, σ.Read v s ↔ σ.Read v' s

/-- The same is read from what is given for a field. -/
inductive Field.Alike (f : Field) : Option Value → Option Value → Prop
  /-- It is the same, -/
  | same {given : Option Value} : Alike f given given
  /-- or the same is read from two sections. -/
  | parts {σ : Section} {v v' : Value} (hform : f.form = .parts σ) (h : σ.Alike v v') : Alike f (some v) (some v')

/-- For a field that is no section the same is given. -/
theorem Field.Alike.readIn_eq {f : Field} {v v' : Value} (h : f.Alike (f.givenIn v) (f.givenIn v'))
    (hf : ∀ σ, f.form ≠ .parts σ) {α : Type} (read : Value → Option α) (dflt : α) :
    f.readIn v read dflt = f.readIn v' read dflt := by
  unfold Field.readIn
  generalize f.givenIn v = given, f.givenIn v' = given' at h
  cases h with
  | same => rfl
  | parts hform _ => exact absurd hform (hf _)

/-- For a field that is a section the same is read. -/
theorem Field.Alike.readIn_iff {f : Field} {σ : Section} (hf : f.form = .parts σ) {v v' : Value}
    (h : f.Alike (f.givenIn v) (f.givenIn v')) {α : Type} (read : Value → Option α) (dflt a : α)
    (hread : ∀ {u u' : Value}, σ.Alike u u' → (read u = some a ↔ read u' = some a)) :
    f.readIn v read dflt = some a ↔ f.readIn v' read dflt = some a := by
  unfold Field.readIn
  generalize f.givenIn v = given, f.givenIn v' = given' at h
  cases h with
  | same => rfl
  | parts hform h =>
    obtain rfl : σ = _ := Form.parts.inj (hf.symm.trans hform)
    exact hread h

/-- Sections that give the same for each of their fields are read alike. -/
theorem Section.alike {σ : Section} {v v' : Value}
    (hparts : (Form.parts σ).Says v .parts ↔ (Form.parts σ).Says v' .parts)
    (hfields : ∀ f : Field, f.home = σ → f.Alike (f.givenIn v) (f.givenIn v')) : σ.Alike v v' := by
  intro s
  have hleaf (f : Field) (hf : f.home = σ) (hform : ∀ τ, f.form ≠ .parts τ) {α : Type} (read : Value → Option α)
      (dflt : α) : f.readIn v read dflt = f.readIn v' read dflt := (hfields f hf).readIn_eq hform read dflt
  cases σ with
  | whole =>
    have hmemory := (hfields .memory rfl).readIn_iff (σ := .memory) rfl readMemory {} s.memory fun h => h s
    have hdevice := (hfields .device rfl).readIn_iff (σ := .device) rfl readDevice {} s.device fun h => h s
    simp only [Read, read_eq_some_iff, hparts, hmemory, hdevice]
  | memory =>
    have hlogger := (hfields .logger rfl).readIn_iff (σ := .logger) rfl readLog {} s.memory.logger fun h => h s
    simp only [Read, readMemory_eq_some_iff, hparts, hlogger, hleaf .disableUnified rfl nofun]
  | logger =>
    simp only [Read, readLog_eq_some_iff, hparts, hleaf .file rfl nofun, hleaf .append rfl nofun,
      hleaf .stdout rfl nofun, hleaf .stderr rfl nofun, hleaf .records rfl nofun, hleaf .detail rfl nofun]
  | device => simp only [Read, readDevice_eq_some_iff, hparts, hleaf .id rfl nofun]

theorem Field.name_injective : Function.Injective Field.name := by
  intro f g h
  cases f <;> cases g <;> first | rfl | simp [Field.name] at h

theorem Field.place_injective {f g : Field} (h : f.home = g.home) (hp : f.place = g.place) : f = g := by
  have hf := f.getElem?_place
  rw [h, hp, g.getElem?_place] at hf
  exact (Option.some.inj hf).symm

theorem Restates.alike {σ : Section} {v v' : Value} (h : Restates σ v v') : σ.Alike v v' := by
  induction h with
  | reorder hn h =>
    refine Section.alike ⟨fun _ => .table _, fun _ => .table _⟩ fun f _ => ?_
    rw [Field.givenIn, Association.lookup_perm h hn]
    exact .same
  | @ignore σ name h before after v =>
    refine Section.alike ⟨fun _ => .table _, fun _ => .table _⟩ fun f hf => ?_
    have hne : f.name ≠ name := by
      rintro rfl
      exact h (List.mem_map_of_mem (Section.mem_fields_iff.mpr hf))
    rw [Field.givenIn, Field.givenIn, List.lookup_append, List.lookup_append, Association.lookup_cons, if_neg hne]
    exact .same
  | unname items =>
    refine Section.alike ⟨fun _ => .table _, fun _ => .array _⟩ fun f hf => ?_
    subst hf
    have hlookup : ((f.home.fields.map Field.name).zip items).lookup f.name = items[f.place]? := by
      refine Association.lookup_zip f.home.nodup_names ?_ items
      rw [List.getElem?_map, f.getElem?_place, Option.map_some]
    rw [Field.givenIn, Field.givenIn, hlookup]
    exact .same
  | @inTable σ f hf τ hform v v' _ before after ih =>
    refine Section.alike ⟨fun _ => .table _, fun _ => .table _⟩ fun g _ => ?_
    rw [Field.givenIn, Field.givenIn, List.lookup_append, List.lookup_append, Association.lookup_cons,
      Association.lookup_cons]
    by_cases hg : g.name = f.name
    · obtain rfl := Field.name_injective hg
      rw [if_pos rfl, if_pos rfl]
      cases before.lookup g.name with
      | none => exact .parts hform ih
      | some u => exact .same
    · rw [if_neg hg, if_neg hg]
      exact .same
  | @inArray σ f hf τ hform v v' _ items hv ih =>
    refine Section.alike ⟨fun _ => .array _, fun _ => .array _⟩ fun g hg => ?_
    rw [Field.givenIn, Field.givenIn]
    by_cases hp : f.place = g.place
    · obtain rfl := Field.place_injective (hf.trans hg.symm) hp
      rw [List.getElem?_set_self (List.getElem?_eq_some_iff.mp hv).1, hv]
      exact .parts hform ih
    · rw [List.getElem?_set_ne hp]
      exact .same

/-- Documents that say the same give the same settings. -/
theorem read_eq_of_restates {doc doc' : Value} (h : Relation.EqvGen (Restates .whole) doc doc') :
    read doc = read doc' := by
  induction h with
  | rel doc doc' h => exact Option.ext h.alike
  | refl doc => rfl
  | symm _ _ _ ih => exact ih.symm
  | trans _ _ _ _ _ ih ih' => exact ih.trans ih'

/-! ### All together -/

/-- What becomes of a document. -/
structure Decodes (entries : List (String × Value)) : Prop where
  /-- It cannot be read just if something that it gives for a field has a wrong form, -/
  fails_iff : read (.table entries) = none ↔
    ∃ (f : Field) (v : Value), f.givenBy (.table entries) = some v ∧ ∀ w, ¬ f.form.Says v w
  /-- and else it gives the settings that say in each field what it gives, or what they say by default. -/
  overlays (s : Settings) : read (.table entries) = some s ↔
    ∀ f : Field, Overlaid f.form (f.givenBy (.table entries)) (f.word? .default) (f.word? s)
  /-- The log file is kept where the document does not say, in whatever way. -/
  keeps_file (s : Settings) : read (.table entries) = some s → Field.append.givenBy (.table entries) = none →
    s.memory.logger.append = true
  /-- However the same is said, it gives the same settings. -/
  restates (doc : Value) : Relation.EqvGen (Restates .whole) (.table entries) doc →
    read (.table entries) = read doc

/-- **A document is laid over the default settings, field by field.** -/
theorem decodes (entries : List (String × Value)) : Decodes entries where
  fails_iff := read_eq_none_iff
  overlays _ := read_eq_some_iff_overlaid
  keeps_file s hs hmissing := by
    have happend := (overlaid hs .append).of_missing hmissing
    simpa [Field.word?, Settings.default] using happend
  restates _ := read_eq_of_restates

example :
    read (.table [("memory", .array [.array [.string "memory.log", .boolean false]])]) =
      read (.table [("colour", .integer 1), ("memory", .table [("disable_usm", .boolean false),
        ("logger", .table [("append", .boolean false), ("file", .string "memory.log")])])]) := rfl

end DeviceMemory.Settings
