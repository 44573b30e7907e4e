import DeviceMemory.Host
import DeviceMemory.Proofs.Engine.Printing
import DeviceMemory.Proofs.Logger.Delivery

/-!
# Loggers that share a log file

Each engine has a logger of its own, and each logger opens the log file that its settings name, so one file
may be open several times. If the loggers append, no message is lost, whoever logs when and whenever another
logger is made (`Loggers.keeps_lines`). If they overwrite, to make a logger empties the file, so what was logged
before is gone (`Loggers.overwrites_earlier`); and each goes on from where it stopped, so a message is sure to
stay only while no other logger writes.

## The model

`Loggers` are the loggers of a process with the files, in the order in which they were made. What happens to
them is a list of acts: a logger is made, a logger gets a message, or something else is done to the files.
`Host.loggers` shows the engines of a process as such: to make an engine is to make a logger, and a step of a
call gives at most one message to one of them.
-/

namespace DeviceMemory

/-! ### Acts -/

/-- The loggers of a process, and the files. -/
structure Loggers where
  /-- The files. -/
  files : Files
  /-- The loggers, in the order in which they were made. -/
  all : List Logger := []

/-- What happens to loggers. -/
inductive LogAct
  /-- A logger is made under some settings, seen from a directory. -/
  | make (directory : Location) (settings : LogSettings)
  /-- A logger gets a message. -/
  | log (n : Nat) (message : String)
  /-- Something else is done to the files. -/
  | around (files : Files)

namespace LogAct

/-- The message of an act. -/
def message? : LogAct → Option String
  | log _ message => some message
  | _ => none

/-- The logger that gets the message of an act. -/
def logger? : LogAct → Option Nat
  | log n _ => some n
  | _ => none

/-- Whether an act makes a logger. -/
def isMake : LogAct → Bool
  | make _ _ => true
  | _ => false

end LogAct

/-- The messages of acts, in order. -/
def messagesOf (acts : List LogAct) : List String := acts.filterMap LogAct.message?

section Messages

variable (acts : List LogAct)

@[simp] theorem messagesOf_nil : messagesOf [] = [] := rfl

@[simp] theorem messagesOf_make (directory : Location) (s : LogSettings) :
    messagesOf (.make directory s :: acts) = messagesOf acts := rfl

@[simp] theorem messagesOf_log (n : Nat) (message : String) :
    messagesOf (.log n message :: acts) = message :: messagesOf acts := rfl

@[simp] theorem messagesOf_around (files : Files) :
    messagesOf (.around files :: acts) = messagesOf acts := rfl

theorem linesOf_messagesOf_cons (a : LogAct) :
    linesOf (messagesOf (a :: acts)) = linesOf (messagesOf [a]) ++ linesOf (messagesOf acts) := by
  cases a <;> simp

end Messages

namespace Loggers

/-- What an act does. -/
def act (g : Loggers) : LogAct → Loggers
  | .make directory s =>
    let (files, logger, _) := Logger.ofSettings g.files directory s
    { files, all := g.all ++ [logger] }
  | .log n message =>
    match g.all[n]? with
    | none => g
    | some k =>
      let (files, k, _) := k.write g.files message
      { files, all := g.all.set n k }
  | .around files => { g with files }

/-- The loggers after acts. -/
def run (g : Loggers) (acts : List LogAct) : Loggers := acts.foldl act g

/-- An act has to do with one log file only: a logger is made that is not switched off and opens that file, a
regular one, to append or not; a logger that there is gets a message; or the file is left alone. -/
def Shares (l : Location) (append : Bool) (g : Loggers) : LogAct → Prop
  | .make directory s => s.detail ≠ .disabled ∧ s.append = append ∧ ∃ path left o, s.file = some path ∧
      g.files.openFile directory path append = .ok (left, o) ∧ o.location = l ∧ (left.contents? l).isSome
  | .log n _ => n < g.all.length
  | .around files => files.get? l = g.files.get? l

/-- All acts, one after the other, have to do with one log file only. -/
def SharesAll (l : Location) (append : Bool) : Loggers → List LogAct → Prop
  | _, [] => True
  | g, a :: acts => Shares l append g a ∧ SharesAll l append (g.act a) acts

variable {l : Location} {append : Bool} {g : Loggers}

theorem run_append (g : Loggers) (past rest : List LogAct) : g.run (past ++ rest) = (g.run past).run rest :=
  List.foldl_append

theorem sharesAll_append {past rest : List LogAct} :
    SharesAll l append g (past ++ rest) ↔ SharesAll l append g past ∧ SharesAll l append (g.run past) rest := by
  induction past generalizing g with
  | nil => simp [SharesAll, run]
  | cons a past ih =>
    rw [List.cons_append, SharesAll, SharesAll, ih, and_assoc]
    rfl

end Loggers

/-! ### One logger -/

namespace Logger

/-- A logger has the file at a place open, where it writes next, and nothing that it has not written yet. -/
def OpenAt (k : Logger) (l : Location) (position : Option Nat) : Prop :=
  ∃ s, k = under s (some { target := ⟨l, position⟩ })

/-- A logger that is made opens the file at its start, or at its end. -/
theorem ofSettings_of_shares {l : Location} {append : Bool} {g : Loggers} {directory : Location}
    {s : LogSettings} (h : g.Shares l append (.make directory s)) :
    (ofSettings g.files directory s).1.get? l = some (.regular (kept g.files l append)) ∧
      (ofSettings g.files directory s).2.1.OpenAt l (if append then none else some 0) := by
  obtain ⟨hd, rfl, path, left, o, hfile, ho, rfl, hregular⟩ := h
  rw [ofSettings_of_ok hd hfile ho]
  refine ⟨(get?_of_openFile ho hregular).1, s, ?_⟩
  rw [← (openFile_cases ho).1]

/-- A logger that writes behind the contents of its file adds a line and is behind it. -/
theorem write_of_openAt {k : Logger} {f : Files} {l : Location} {position : Option Nat} {bytes : ByteArray}
    (hk : k.OpenAt l position) (hf : f.get? l = some (.regular bytes))
    (hend : (⟨l, position⟩ : OpenFile).AtEnd bytes) (message : String) :
    (k.write f message).1.get? l = some (.regular (bytes ++ (message ++ "\n").toUTF8)) ∧
      (k.write f message).2.1.OpenAt l (position.map fun _ => (bytes ++ (message ++ "\n").toUTF8).size) := by
  obtain ⟨s, rfl⟩ := hk
  let w : Writer := { target := ⟨l, position⟩ }
  obtain ⟨⟨-, hloc, hnone, c, hc, hcend, hbytes⟩, hempty⟩ :=
    w.takes_writeLine ⟨bytes, hf, hend, ByteArray.append_empty⟩ message
  rw [hempty, ByteArray.append_empty] at hbytes
  subst hbytes
  rw [write_under_some]
  change (w.writeLine f message).files.get? l = _ ∧ OpenAt (under s (some (w.writeLine f message).writer)) l _
  generalize w.writeLine f message = a at *
  obtain ⟨files, ⟨⟨location, p⟩, pending⟩, error?⟩ := a
  obtain rfl : location = l := hloc
  refine ⟨hc, s, ?_⟩
  obtain rfl : pending = .empty := hempty
  -- a position there is only if there was one, and then it is at the end
  cases position <;> cases p <;> simp_all [OpenFile.AtEnd, w]

end Logger

/-! ### Loggers that append -/

namespace Loggers

variable {l : Location} {append : Bool} {g : Loggers} {bytes : ByteArray}

/-- Loggers that append to a file which holds `bytes`. -/
structure Appending (l : Location) (bytes : ByteArray) (g : Loggers) : Prop where
  /-- The file holds them. -/
  get?_eq : g.files.get? l = some (.regular bytes)
  /-- Every logger writes at the end. -/
  openAt : ∀ k ∈ g.all, k.OpenAt l none

theorem appending_make {directory : Location} {s : LogSettings} (h : ∀ k ∈ g.all, k.OpenAt l none)
    (ha : Shares l true g (.make directory s)) :
    Appending l (Logger.kept g.files l true) (g.act (.make directory s)) := by
  obtain ⟨hget, hopen⟩ := Logger.ofSettings_of_shares ha
  refine ⟨hget, fun k hk => ?_⟩
  rcases List.mem_append.mp hk with hk | hk
  · exact h k hk
  · rw [List.mem_singleton.mp hk]
    exact hopen

/-- An act adds its message, if it has one. -/
theorem Appending.act (h : Appending l bytes g) {a : LogAct} (ha : Shares l true g a) :
    Appending l (bytes ++ linesOf (messagesOf [a])) (g.act a) := by
  cases a with
  | make directory s =>
    have hkept : Logger.kept g.files l true = bytes ++ linesOf [] := by
      simp [Logger.kept, Files.contents?, h.get?_eq]
    exact hkept ▸ appending_make h.openAt ha
  | log n message =>
    obtain ⟨hget, hopen⟩ :=
      Logger.write_of_openAt (h.openAt _ (List.getElem_mem ha)) h.get?_eq (.inl rfl) message
    rw [Loggers.act, List.getElem?_eq_getElem ha]
    refine ⟨by simpa using hget, fun k hk => ?_⟩
    rcases List.mem_or_eq_of_mem_set hk with hk | rfl
    · exact h.openAt k hk
    · exact hopen
  | around files =>
    have hget : files.get? l = some (.regular bytes) := Eq.trans ha h.get?_eq
    exact ⟨by simpa [Loggers.act] using hget, h.openAt⟩

theorem Appending.run {acts : List LogAct} (h : Appending l bytes g) (ha : SharesAll l true g acts) :
    Appending l (bytes ++ linesOf (messagesOf acts)) (g.run acts) := by
  induction acts generalizing g bytes with
  | nil => simpa [Loggers.run] using h
  | cons a acts ih =>
    rw [linesOf_messagesOf_cons, ← ByteArray.append_assoc]
    exact ih (h.act ha.1) ha.2

/-- From the first logger that is made on, the file has all messages behind what it held. -/
theorem appending_run {acts : List LogAct} (hg : g.all = []) (ha : SharesAll l true g acts)
    (hmade : ∃ a ∈ acts, a.isMake) :
    Appending l (Logger.kept g.files l true ++ linesOf (messagesOf acts)) (g.run acts) := by
  induction acts generalizing g with
  | nil => simp at hmade
  | cons a acts ih =>
    cases a with
    | make directory s => exact (appending_make (by simp [hg]) ha.1).run ha.2
    | log n message =>
      -- there is no logger yet
      have hn : n < g.all.length := ha.1
      simp [hg] at hn
    | around files =>
      have hkept : Logger.kept files l true = Logger.kept g.files l true := by
        have hget : files.get? l = g.files.get? l := ha.1
        simp only [Logger.kept, Files.contents?, hget]
      have hrest := ih (g := { g with files }) hg ha.2 (by simpa [LogAct.isMake] using hmade)
      rwa [hkept] at hrest

/-! ### Loggers that overwrite -/

/-- One logger of those which overwrite a file has written all `bytes` in it. -/
structure Overwriting (l : Location) (n : Nat) (bytes : ByteArray) (g : Loggers) : Prop where
  /-- The file holds them. -/
  get?_eq : g.files.get? l = some (.regular bytes)
  /-- The logger is behind them. -/
  openAt : ∀ k, g.all[n]? = some k → k.OpenAt l (some bytes.size)

theorem overwriting_make {n : Nat} {directory : Location} {s : LogSettings}
    (h : ∀ k, g.all[n]? = some k → k.OpenAt l (some 0)) (ha : Shares l false g (.make directory s)) :
    Overwriting l n .empty (g.act (.make directory s)) := by
  obtain ⟨hget, hopen⟩ := Logger.ofSettings_of_shares ha
  refine ⟨hget, fun k hk => ?_⟩
  rcases List.getElem?_eq_some_iff.mp hk with ⟨hn, rfl⟩
  simp only [Loggers.act, List.getElem_append]
  split
  case isTrue hlt => exact h _ (List.getElem?_eq_getElem hlt)
  case isFalse => simpa using hopen

theorem Overwriting.act {n : Nat} (h : Overwriting l n bytes g) {a : LogAct} (ha : Shares l append g a)
    (hmake : ¬ a.isMake) (hn : ∀ m, a.logger? = some m → m = n) :
    Overwriting l n (bytes ++ linesOf (messagesOf [a])) (g.act a) := by
  cases a with
  | make => exact absurd rfl hmake
  | log m message =>
    obtain rfl : m = n := hn m rfl
    obtain ⟨hget, hopen⟩ :=
      Logger.write_of_openAt (h.openAt _ (List.getElem?_eq_getElem ha)) h.get?_eq (.inr rfl) message
    rw [Loggers.act, List.getElem?_eq_getElem ha]
    refine ⟨by simpa using hget, fun k hk => ?_⟩
    obtain rfl : _ = k := by simpa [List.getElem?_set_self ha] using hk
    simpa using hopen
  | around files =>
    have hget : files.get? l = some (.regular bytes) := Eq.trans ha h.get?_eq
    exact ⟨by simpa [Loggers.act] using hget, by simpa [Loggers.act] using h.openAt⟩

theorem Overwriting.run {n : Nat} {acts : List LogAct} (h : Overwriting l n bytes g)
    (ha : SharesAll l append g acts) (hmake : ∀ a ∈ acts, ¬ a.isMake)
    (hn : ∀ a ∈ acts, ∀ m, a.logger? = some m → m = n) :
    Overwriting l n (bytes ++ linesOf (messagesOf acts)) (g.run acts) := by
  induction acts generalizing g bytes with
  | nil => simpa [Loggers.run] using h
  | cons a acts ih =>
    rw [List.forall_mem_cons] at hmake hn
    rw [linesOf_messagesOf_cons, ← ByteArray.append_assoc]
    exact ih (h.act ha.1 hmake.1 hn.1) ha.2 hmake.2 hn.2

/-- A logger that has not logged anything writes at the start. -/
theorem openAt_run {n : Nat} {acts : List LogAct} (h : ∀ k, g.all[n]? = some k → k.OpenAt l (some 0))
    (ha : SharesAll l false g acts) (hn : ∀ a ∈ acts, a.logger? ≠ some n) :
    ∀ k, (g.run acts).all[n]? = some k → k.OpenAt l (some 0) := by
  induction acts generalizing g with
  | nil => exact h
  | cons a acts ih =>
    rw [List.forall_mem_cons] at hn
    refine ih (g := g.act a) (fun k hk => ?_) ha.2 hn.2
    cases a with
    | make directory s => exact (overwriting_make h ha.1).openAt k hk
    | log m message =>
      have hm : m ≠ n := fun hm => hn.1 (congrArg some hm)
      simp only [Loggers.act] at hk
      split at hk
      · exact h k hk
      · exact h k (by simpa [List.getElem?_set_ne hm] using hk)
    | around files => exact h k hk

/-! ### Any run -/

/-- What a log file holds that loggers share. -/
structure Keeps (l : Location) (append : Bool) (f : Files) (acts : List LogAct) : Prop where
  /-- If they append, it holds what it held before the first of them was made, and then all messages. -/
  appended : append = true → (∃ a ∈ acts, a.isMake) →
    (run { files := f } acts).files.contents? l = some (Logger.kept f l true ++ linesOf (messagesOf acts))
  /-- If they overwrite, it holds the messages since the last of them was made, as long as it is one logger
  that gets them, and it got none before. -/
  overwritten {past made rest n} : append = false → acts = past ++ made :: rest → made.isMake →
    (∀ a ∈ rest, ¬ a.isMake) → (∀ a ∈ rest, ∀ m, a.logger? = some m → m = n) →
    (∀ a ∈ past, a.logger? ≠ some n) →
    (run { files := f } acts).files.contents? l = some (linesOf (messagesOf rest))

/-- **Loggers that append lose no message**, and those that overwrite none as long as one of them writes. -/
theorem keeps_lines {f : Files} {acts : List LogAct} (h : SharesAll l append { files := f } acts) :
    Keeps l append f acts where
  appended happend hmade := by
    subst happend
    rw [Files.contents?, (appending_run rfl h hmade).get?_eq]
  overwritten {past made rest n} happend hacts hmade hmake hn hpast := by
    subst happend hacts
    obtain ⟨hbefore, hmadeShares, hrest⟩ := sharesAll_append.mp h
    have hunused := openAt_run (n := n) (by simp) hbefore hpast
    cases made with
    | make directory s =>
      have hover := (overwriting_make hunused hmadeShares).run hrest hmake hn
      rw [ByteArray.empty_append] at hover
      rw [run_append, Files.contents?, show (run _ (_ :: rest)).files.get? l = _ from hover.get?_eq]
    | log | around => cases hmade

/-- Two loggers of one file, the second made when the first has logged already. -/
def secondComes (append : Bool) : List LogAct :=
  let s : LogSettings := { file := some "/log", append, detail := .basic }
  [.make [] s, .log 0 "first", .make [] s, .log 1 "second"]

theorem sharesAll_secondComes (append : Bool) :
    SharesAll ["log"] append { files := .initial } (secondComes append) := by
  cases append <;>
    exact ⟨⟨by decide, rfl, _, _, _, rfl, rfl, rfl, rfl⟩, (by decide : 0 < 1),
      ⟨by decide, rfl, _, _, _, rfl, rfl, rfl, rfl⟩, (by decide : 1 < 2), trivial⟩

/-- Loggers that append keep both messages, and those that overwrite the second. -/
theorem secondComes_keeps :
    (SharesAll ["log"] true { files := .initial } (secondComes true) ∧
      (∃ a ∈ secondComes true, a.isMake) ∧
      (run { files := .initial } (secondComes true)).files.contents? ["log"] =
        some (.empty ++ linesOf ["first", "second"])) ∧
      SharesAll ["log"] false { files := .initial } (secondComes false) ∧
      (run { files := .initial } (secondComes false)).files.contents? ["log"] = some (linesOf ["second"]) := by
  have hmade : ∃ a ∈ secondComes true, a.isMake := ⟨_, List.mem_cons_self, rfl⟩
  have hsecond : ∀ a ∈ [LogAct.log 1 "second"], ¬ a.isMake ∧ ∀ m, a.logger? = some m → m = 1 := by
    simp [LogAct.isMake, LogAct.logger?]
  have hfirst : ∀ a ∈ (secondComes false).take 2, a.logger? ≠ some 1 := by decide
  have happended := (keeps_lines (sharesAll_secondComes true)).appended rfl hmade
  have hoverwritten := (keeps_lines (sharesAll_secondComes false)).overwritten rfl rfl rfl
    (fun a ha => (hsecond a ha).1) (fun a ha => (hsecond a ha).2) hfirst
  exact ⟨⟨sharesAll_secondComes true, hmade, happended⟩, sharesAll_secondComes false, hoverwritten⟩

/-- Loggers that overwrite lose the first message when the second of them is made. -/
theorem overwrites_earlier :
    SharesAll ["log"] false { files := .initial } (secondComes false) ∧
      messagesOf (secondComes false) = ["first", "second"] ∧
      (run { files := .initial } (secondComes false)).files.contents? ["log"] = some (linesOf ["second"]) ∧
      (run { files := .initial } (secondComes false)).files.contents? ["log"] ≠
        some (linesOf ["first", "second"]) :=
  ⟨sharesAll_secondComes false, rfl, by decide +kernel, by decide +kernel⟩

end Loggers

/-! ### Engines and their loggers -/

namespace Host

variable {β ρ : Type}

/-- The loggers of the engines of a process. -/
def loggers (h : Host β) : Loggers := ⟨h.commons.files, h.engines.map Engine.logger⟩

/-- To make an engine is to make a logger. -/
theorem loggers_makeEngine (h : Host β) (device : Device) (backend : β) (s : Settings) :
    (h.makeEngine device backend s).2.1.loggers =
      h.loggers.act (.make h.commons.directory s.memory.logger) := by
  have hlimit : (h.readLimit device.totalMemory).2.1.engines = h.engines ∧
      (h.readLimit device.totalMemory).2.1.commons = h.commons := by
    unfold readLimit
    split <;> exact ⟨rfl, rfl⟩
  simp [loggers, makeEngine, Loggers.act, hlimit.1, hlimit.2, Engine.new]

/-- A step of a call gives the entry that its stage has ready to the logger of its engine, and nothing to any
other. -/
theorem loggers_advance [Backend β ρ] (thread : ThreadId) (id : EngineId) (h : Host β) (s : Stage ρ) :
    (h.advance thread id s).1.loggers =
      match s.ready? with
      | some entry => h.loggers.act (.log id.number entry.text)
      | none => h.loggers := by
  cases he : h.engine? id with
  | none =>
    have hnone : (h.engines.map Engine.logger)[id.number]? = none := by
      rw [List.getElem?_map, show h.engines[id.number]? = none from he, Option.map_none]
    cases hs : s.ready? <;> simp [advance, he, loggers, Loggers.act, hnone]
  | some e =>
    have hsome : (h.engines.map Engine.logger)[id.number]? = some e.logger := by
      rw [List.getElem?_map, show h.engines[id.number]? = some e from he, Option.map_some]
    cases hs : s.ready? with
    | none =>
      have hlogger := (e.does_advance thread h.commons s).logger_eq hs
      have hsame : (h.engines.map Engine.logger).set id.number e.logger = h.engines.map Engine.logger := by
        obtain ⟨hlt, heq⟩ := List.getElem?_eq_some_iff.mp hsome
        rw [← heq, List.set_getElem_self hlt]
      simp [advance, he, loggers, setEngine, List.map_set, hlogger, hsame,
        (e.silent_advance thread h.commons hs).files_eq]
    | some entry =>
      cases s with
      | writing entry' release reply =>
        cases hs
        simp [advance, he, loggers, Loggers.act, hsome, setEngine, Engine.advance]
      | _ => cases hs

end Host

end DeviceMemory
