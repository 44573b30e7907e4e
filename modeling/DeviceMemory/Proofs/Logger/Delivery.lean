import DeviceMemory.Proofs.Logger.Buffer

/-!
# Every output gets every message

A logger passes messages to the outputs that its settings switch on. Each of them gets every message once
and in order, whatever becomes of the files meanwhile (`Logger.delivers`). A log file that is left alone
holds what it held, or nothing, and then the messages; one that cannot be opened is warned of once, when the
logger is made; and one that refuses whatever is written is warned of once a message, however long the
messages are and however much has been refused before.

## The model

A `Passage` is one message that passes through a logger, with the files as it found and as it left them.
Between two passages anything may happen to the files, so each message comes with the files that it finds.
Whether somebody else wrote to the log file can be told from the passages (`Undisturbed`).
-/

namespace DeviceMemory

/-! ### What leaves the process -/

namespace Output

/-- Whether an output is a warning. -/
def isWarning : Output → Bool
  | record r => r.severity = .warn
  | _ => false

/-- The text on standard output. -/
def stdout? : Output → Option String
  | stdout text => some text
  | _ => none

/-- The text on standard error. -/
def stderr? : Output → Option String
  | stderr text => some text
  | _ => none

/-- The record, unless it is a warning. -/
def notice? : Output → Option Record
  | record r => if r.severity = .warn then none else some r
  | _ => none

theorem stdout?_of_isWarning {o : Output} (h : o.isWarning) : o.stdout? = none := by
  cases o with
  | stdout text => cases h
  | _ => rfl

theorem stderr?_of_isWarning {o : Output} (h : o.isWarning) : o.stderr? = none := by
  cases o with
  | stderr text => cases h
  | _ => rfl

theorem notice?_of_isWarning {o : Output} (h : o.isWarning) : o.notice? = none := by
  cases o with
  | record r => exact if_pos (of_decide_eq_true h)
  | _ => rfl

end Output

/-- What a logger passes on of a message, apart from what it writes to the log file. -/
def LogSettings.passes (s : LogSettings) (message : String) : List Output :=
  (if s.stdout then [.stdout (message ++ "\n")] else []) ++
    (if s.stderr then [.stderr (message ++ "\n")] else []) ++
    (s.records.map fun level => .record ⟨level.severity, message⟩).toList

theorem RecordLevel.severity_ne_warn (level : RecordLevel) : level.severity ≠ .warn := by
  cases level <;> decide

namespace LogSettings

variable (s : LogSettings) (message : String)

theorem filter_passes : (s.passes message).filter Output.isWarning = [] := by
  unfold passes
  cases s.stdout <;> cases s.stderr <;> cases s.records <;>
    simp [Output.isWarning, RecordLevel.severity_ne_warn]

theorem stdout_passes : (s.passes message).filterMap Output.stdout? =
    if s.stdout then [message ++ "\n"] else [] := by
  unfold passes
  cases s.stdout <;> cases s.stderr <;> cases s.records <;> rfl

theorem stderr_passes : (s.passes message).filterMap Output.stderr? =
    if s.stderr then [message ++ "\n"] else [] := by
  unfold passes
  cases s.stdout <;> cases s.stderr <;> cases s.records <;> rfl

theorem notice_passes : (s.passes message).filterMap Output.notice? =
    (s.records.map fun level => (⟨level.severity, message⟩ : Record)).toList := by
  unfold passes
  cases s.stdout <;> cases s.stderr <;> cases s.records <;>
    simp [List.filterMap_cons, Output.notice?, RecordLevel.severity_ne_warn]

end LogSettings

/-! ### One message -/

/-- The warnings about an attempt to write. -/
def Attempt.warnings (a : Attempt) : List Output := (a.error?.map Output.unwritten).toList

theorem Attempt.isWarning_of_mem {a : Attempt} {x : Output} (hx : x ∈ a.warnings) : x.isWarning := by
  unfold warnings at hx
  cases he : a.error? with
  | none => simp [he] at hx
  | some e =>
    rw [he] at hx
    cases List.mem_singleton.mp hx
    rfl

namespace Logger

/-- The logger under some settings, with a log file or without. -/
def under (s : LogSettings) (log : Option Writer) : Logger := ⟨(log.map Sink.file).toList ++ otherSinks s⟩

theorem writeAll_otherSinks (f : Files) (message : String) (s : LogSettings) :
    writeAll f message (otherSinks s) = (f, otherSinks s, s.passes message) := by
  unfold otherSinks LogSettings.passes
  cases s.stdout <;> cases s.stderr <;> cases s.records <;> rfl

theorem write_under_none (f : Files) (message : String) (s : LogSettings) :
    (under s none).write f message = (f, under s none, s.passes message) := by
  unfold write under
  exact congrArg (fun r => (r.1, Logger.mk r.2.1, r.2.2)) (writeAll_otherSinks f message s)

/-- The log file gets a message first, and the other outputs get it whatever that comes to. -/
theorem write_under_some (f : Files) (message : String) (s : LogSettings) (w : Writer) :
    (under s (some w)).write f message =
      ((w.writeLine f message).files, under s (some (w.writeLine f message).writer),
        (w.writeLine f message).warnings ++ s.passes message) := by
  have hrest := writeAll_otherSinks (w.writeLine f message).files message s
  unfold write under
  simp only [Option.map_some, Option.toList_some, List.singleton_append, writeAll, Sink.write, hrest]
  rfl

section Opening

variable (f : Files) (directory : Location) {s : LogSettings} (hd : s.detail ≠ .disabled)

include hd

theorem ofSettings_of_none (hs : s.file = none) : ofSettings f directory s = (f, under s none, []) := by
  simp only [ofSettings, if_neg hd, openTarget, hs]
  rfl

variable {f directory}

theorem ofSettings_of_ok {path : String} {left : Files} {o : OpenFile} (hs : s.file = some path)
    (ho : f.openFile directory path s.append = .ok (left, o)) :
    ofSettings f directory s = (left, under s (some { target := o }), []) := by
  simp only [ofSettings, if_neg hd, openTarget, hs, ho]
  rfl

theorem ofSettings_of_error {path : String} {e : FileError} (hs : s.file = some path)
    (ho : f.openFile directory path s.append = .error e) :
    ofSettings f directory s = (f, under s none, [.unopened path e]) := by
  simp only [ofSettings, if_neg hd, openTarget, hs, ho]
  rfl

variable (f directory)

/-- A logger that is not switched off begins without a log file, with one that was opened, or with a
warning. -/
theorem exists_under : ∃ log, (ofSettings f directory s).2.1 = under s log ∧
    ∀ o ∈ (ofSettings f directory s).2.2, o.isWarning := by
  cases hs : s.file with
  | none => exact ⟨none, by simp [ofSettings_of_none f directory hd hs]⟩
  | some path =>
    cases ho : f.openFile directory path s.append with
    | ok opened => exact ⟨some { target := opened.2 }, by simp [ofSettings_of_ok hd hs ho]⟩
    | error e =>
      refine ⟨none, by simp [ofSettings_of_error hd hs ho], ?_⟩
      simp [ofSettings_of_error hd hs ho, Output.unopened, Output.warning, Output.isWarning]

end Opening

end Logger

/-! ### Messages one after the other -/

/-- A message that passed through a logger. -/
structure Passage where
  /-- The message. -/
  message : String
  /-- The files as the logger found them. -/
  found : Files
  /-- The files as it left them. -/
  left : Files
  /-- What left the process. -/
  out : List Output

/-- The passages of messages through a logger, each with the files that it finds. -/
def Logger.passages (k : Logger) : List (Files × String) → List Passage
  | [] => []
  | (f, message) :: rest =>
    ⟨message, f, (k.write f message).1, (k.write f message).2.2⟩ :: (k.write f message).2.1.passages rest

/-- Messages for a logger, each of which finds the files as the one before left them. -/
def Logger.inTurn (k : Logger) (f : Files) : List String → List (Files × String)
  | [] => []
  | message :: rest => (f, message) :: (k.write f message).2.1.inTurn (k.write f message).1 rest

/-- Between passages nobody else changes the file at a place, which was left in the files `left`. -/
def Undisturbed (l : Location) : Files → List Passage → Prop
  | _, [] => True
  | left, p :: rest => p.found.get? l = left.get? l ∧ Undisturbed l p.left rest

/-- No file is changed between messages if the logger is all there is. -/
theorem undisturbed_inTurn (l : Location) (k : Logger) (f : Files) (messages : List String) :
    Undisturbed l f (k.passages (k.inTurn f messages)) := by
  induction messages generalizing k f with
  | nil => trivial
  | cons message rest ih => exact ⟨rfl, ih _ _⟩

/-- Messages as the lines of a file. -/
def linesOf (messages : List String) : ByteArray := (String.join (messages.map (· ++ "\n"))).toUTF8

@[simp] theorem linesOf_nil : linesOf [] = .empty := rfl

@[simp] theorem linesOf_cons (message : String) (messages : List String) :
    linesOf (message :: messages) = (message ++ "\n").toUTF8 ++ linesOf messages := by
  rw [linesOf, List.map_cons, String.join_cons]
  exact String.toByteArray_append

namespace Logger

variable {s : LogSettings} {l : Location}

theorem map_message_passages (k : Logger) (steps : List (Files × String)) :
    (k.passages steps).map Passage.message = steps.map Prod.snd := by
  induction steps generalizing k with
  | nil => rfl
  | cons x steps ih => exact congrArg (x.2 :: ·) (ih _)

theorem map_found_passages (k : Logger) (steps : List (Files × String)) :
    (k.passages steps).map Passage.found = steps.map Prod.fst := by
  induction steps generalizing k with
  | nil => rfl
  | cons x steps ih => exact congrArg (x.1 :: ·) (ih _)

/-- A full device refuses every message that finds it. -/
theorem refuses_of_mem_passages (k : Logger) {steps : List (Files × String)} (h : ∀ x ∈ steps, x.1.get? l = some .full) :
    ∀ p ∈ k.passages steps, ∃ e, p.found.Refuses l e := by
  intro p hp
  have hfound : p.found ∈ steps.map Prod.fst := by
    rw [← k.map_found_passages]
    exact List.mem_map_of_mem hp
  obtain ⟨x, hx, hf⟩ := List.mem_map.mp hfound
  exact ⟨.noSpace, Files.refuses_of_full (hf ▸ h x hx)⟩

/-- **Whatever becomes of the log file, the other outputs get every message.** -/
theorem exists_out_eq (steps : List (Files × String)) (log : Option Writer) :
    ∀ p ∈ (under s log).passages steps, ∃ warned : List Output, (∀ o ∈ warned, o.isWarning) ∧
      p.out = warned ++ s.passes p.message := by
  induction steps generalizing log with
  | nil => simp [passages]
  | cons x steps ih =>
    obtain ⟨f, message⟩ := x
    intro p hp
    cases log with
    | none =>
      rw [passages, write_under_none] at hp
      rcases List.mem_cons.mp hp with rfl | hp
      · exact ⟨[], by simp, rfl⟩
      · exact ih none p hp
    | some w =>
      rw [passages, write_under_some] at hp
      rcases List.mem_cons.mp hp with rfl | hp
      · exact ⟨_, fun o => Attempt.isWarning_of_mem, rfl⟩
      · exact ih _ p hp

/-- Without a log file nothing else is said. -/
theorem out_of_under_none (steps : List (Files × String)) :
    ∀ p ∈ (under s none).passages steps, p.out = s.passes p.message := by
  induction steps with
  | nil => simp [passages]
  | cons x steps ih =>
    obtain ⟨f, message⟩ := x
    rw [passages, write_under_none, List.forall_mem_cons]
    exact ⟨rfl, ih⟩

/-- A log file that takes every line and is left alone holds them all after each, and nothing is said
about it. -/
theorem passages_of_holds {w : Writer} {left : Files} {bytes : ByteArray} (hl : w.target.location = l)
    (hw : w.Holds left bytes) (hp : w.pending = .empty) {steps : List (Files × String)}
    (hu : Undisturbed l left ((under s (some w)).passages steps)) :
    (∀ p ∈ (under s (some w)).passages steps, p.out = s.passes p.message) ∧
      ∀ past p, past ++ [p] <+: (under s (some w)).passages steps →
        p.left.contents? l = some (bytes ++ linesOf ((past ++ [p]).map Passage.message)) := by
  induction steps generalizing w left bytes with
  | nil => simp [passages]
  | cons x steps ih =>
    obtain ⟨f, message⟩ := x
    rw [passages, write_under_some] at hu ⊢
    obtain ⟨hf, hu⟩ := hu
    have hfound : w.Holds f bytes := by
      obtain ⟨c, hc, hrest⟩ := hw
      exact ⟨c, by rw [hl, hf, ← hl, hc], hrest⟩
    obtain ⟨ht, hempty⟩ := w.takes_writeLine hfound message
    generalize w.writeLine f message = a at *
    have hloc : a.writer.target.location = l := ht.location_eq.trans hl
    have hcontents : a.files.contents? l = some (bytes ++ (message ++ "\n").toUTF8) := by
      obtain ⟨c, hc, -, hb⟩ := ht.holds
      rw [hempty, ByteArray.append_empty] at hb
      rw [Files.contents?, ← hloc, hc, ← hb]
    obtain ⟨hout, hleft⟩ := ih hloc ht.holds hempty hu
    refine ⟨List.forall_mem_cons.mpr ⟨?_, hout⟩, ?_⟩
    · simp [Attempt.warnings, ht.error?_eq]
    · intro past p hpast
      cases past with
      | nil =>
        obtain rfl : p = _ := (List.cons_prefix_cons.mp hpast).1
        simpa using hcontents
      | cons q past =>
        rw [List.cons_append, List.cons_prefix_cons] at hpast
        obtain ⟨rfl, hpast⟩ := hpast
        rw [hleft past p hpast]
        simp [ByteArray.append_assoc]

/-- A log file that refuses everything is warned of with every message. -/
theorem passages_of_refuses {w : Writer} (hl : w.target.location = l) {steps : List (Files × String)}
    (hr : ∀ p ∈ (under s (some w)).passages steps, ∃ e, p.found.Refuses l e) :
    ∀ p ∈ (under s (some w)).passages steps, ∃ e, p.found.Refuses l e ∧
      p.out = .unwritten e :: s.passes p.message := by
  induction steps generalizing w with
  | nil => simp [passages]
  | cons x steps ih =>
    obtain ⟨f, message⟩ := x
    rw [passages, write_under_some, List.forall_mem_cons] at hr ⊢
    obtain ⟨⟨e, he⟩, hr⟩ := hr
    obtain ⟨pending, hline⟩ := w.writeLine_of_refuses (hl ▸ he) message
    rw [hline] at hr ⊢
    exact ⟨⟨e, he, rfl⟩, ih hl hr⟩

/-! ### All messages -/

/-- The passages of messages through a logger that is made under some settings. -/
def passagesUnder (f : Files) (directory : Location) (s : LogSettings) (steps : List (Files × String)) :
    List Passage :=
  (ofSettings f directory s).2.1.passages steps

/-- All that leaves the process, from when the logger is made. -/
def said (f : Files) (directory : Location) (s : LogSettings) (steps : List (Files × String)) : List Output :=
  (ofSettings f directory s).2.2 ++ (passagesUnder f directory s steps).flatMap Passage.out

/-- What a file holds when a logger is made: what it held before, or nothing. -/
def kept (f : Files) (l : Location) (append : Bool) : ByteArray :=
  if append then (f.contents? l).getD .empty else .empty

/-- What becomes of messages that are given to a logger. -/
structure Delivers (f : Files) (directory : Location) (s : LogSettings) (steps : List (Files × String)) :
    Prop where
  /-- Standard output gets each of them once, in order, if it is switched on, -/
  stdout_eq : (said f directory s steps).filterMap Output.stdout? =
    if s.stdout then steps.map fun x => x.2 ++ "\n" else []
  /-- and so does standard error. -/
  stderr_eq : (said f directory s steps).filterMap Output.stderr? =
    if s.stderr then steps.map fun x => x.2 ++ "\n" else []
  /-- They are recorded once, in order, at the level that is set, and nothing else is but warnings. -/
  notices_eq : (said f directory s steps).filterMap Output.notice? =
    match s.records with
    | some level => steps.map fun x => ⟨level.severity, x.2⟩
    | none => []
  /-- A log file that opens as a regular file and is left alone by others holds what was kept of it, and after
  each message all messages so far, and nothing is said about it. -/
  holds {path left o} : s.file = some path → f.openFile directory path s.append = .ok (left, o) →
    (left.contents? o.location).isSome → Undisturbed o.location left (passagesUnder f directory s steps) →
    (ofSettings f directory s).1.contents? o.location = some (kept f o.location s.append) ∧
      (∀ past p, past ++ [p] <+: passagesUnder f directory s steps → p.left.contents? o.location =
        some (kept f o.location s.append ++ linesOf ((past ++ [p]).map Passage.message))) ∧
      (said f directory s steps).filter Output.isWarning = []
  /-- A log file that cannot be opened is warned of once, when the logger is made. -/
  unopened {path e} : s.file = some path → f.openFile directory path s.append = .error e →
    (ofSettings f directory s).2.2 = [.unopened path e] ∧
      (said f directory s steps).filter Output.isWarning = [.unopened path e]
  /-- A log file that opens and then refuses all that is written is warned of once with every message. -/
  unwritten {path left o} : s.file = some path → f.openFile directory path s.append = .ok (left, o) →
    (∀ p ∈ passagesUnder f directory s steps, ∃ e, p.found.Refuses o.location e) →
    (ofSettings f directory s).2.2 = [] ∧ ∀ p ∈ passagesUnder f directory s steps,
      ∃ e, p.found.Refuses o.location e ∧ p.out.filter Output.isWarning = [.unwritten e]
  /-- Without a log file there is nothing to warn of. -/
  unconfigured : s.file = none → (said f directory s steps).filter Output.isWarning = []

/-- What opens is a regular file, with what is kept of it, or it is left as it is. -/
theorem openFile_cases {f left : Files} {directory : Location} {path : String} {append : Bool}
    {o : OpenFile} (h : f.openFile directory path append = .ok (left, o)) :
    o.position = (if append then none else some 0) ∧
      (left = f.set o.location (.regular (kept f o.location append)) ∨
        left = f ∧ f.contents? o.location = none) := by
  unfold Files.openFile at h
  split at h
  · split at h <;> cases h
  unfold Files.openNamed at h
  cases hl : f.resolve directory path with
  | error e => simp [hl] at h
  | ok l =>
    cases hn : f.get? l with
    | none =>
      simp only [hl, hn, Except.ok.injEq, Prod.mk.injEq] at h
      obtain ⟨rfl, rfl⟩ := h
      refine ⟨rfl, .inl ?_⟩
      cases append <;> simp [kept, Files.contents?, hn]
    | some node =>
      cases node <;> simp only [hl, hn, reduceCtorEq, Except.ok.injEq, Prod.mk.injEq] at h <;>
        obtain ⟨rfl, rfl⟩ := h
      case regular c => exact ⟨rfl, .inl (by simp [kept, Files.contents?, hn])⟩
      all_goals exact ⟨rfl, .inr ⟨rfl, by simp [Files.contents?, hn]⟩⟩

/-- A regular file that was opened is written from the end of what was kept on. -/
theorem get?_of_openFile {f left : Files} {directory : Location} {path : String} {append : Bool}
    {o : OpenFile} (h : f.openFile directory path append = .ok (left, o))
    (hr : (left.contents? o.location).isSome) :
    left.get? o.location = some (.regular (kept f o.location append)) ∧
      o.AtEnd (kept f o.location append) := by
  obtain ⟨hposition, rfl | ⟨rfl, hnone⟩⟩ := openFile_cases h
  · refine ⟨by simp, ?_⟩
    cases append
    · exact .inr hposition
    · exact .inl hposition
  · simp [hnone] at hr

/-- What is read of the outputs and is not read of warnings is read of what is passed on. -/
theorem filterMap_said {α : Type} (read : Output → Option α)
    (hread : ∀ o : Output, o.isWarning → read o = none) (f : Files) (directory : Location)
    {s : LogSettings} (hd : s.detail ≠ .disabled) (steps : List (Files × String)) :
    (said f directory s steps).filterMap read = steps.flatMap fun x => (s.passes x.2).filterMap read := by
  have hwarned : ∀ warned : List Output, (∀ o ∈ warned, o.isWarning) → warned.filterMap read = [] :=
    fun warned h => List.filterMap_eq_nil_iff.mpr fun o ho => hread o (h o ho)
  obtain ⟨log, hlog, hfirst⟩ := exists_under f directory hd
  have hpassage : ∀ p ∈ (under s log).passages steps,
      p.out.filterMap read = (s.passes p.message).filterMap read := by
    intro p hp
    obtain ⟨warned, hw, hout⟩ := exists_out_eq steps log p hp
    rw [hout, List.filterMap_append, hwarned warned hw, List.nil_append]
  calc (said f directory s steps).filterMap read
      = ((under s log).passages steps).flatMap fun p => p.out.filterMap read := by
        rw [said, passagesUnder, hlog, List.filterMap_append, hwarned _ hfirst, List.nil_append,
          List.filterMap_flatMap]
    _ = (((under s log).passages steps).map Passage.message).flatMap fun m => (s.passes m).filterMap read := by
        rw [List.flatMap_map, List.flatMap_def, List.map_congr_left hpassage, ← List.flatMap_def]
    _ = steps.flatMap fun x => (s.passes x.2).filterMap read := by
        rw [map_message_passages, List.flatMap_map]

/-- What is passed on of messages is no warning. -/
theorem filter_flatMap_out {passages : List Passage} (h : ∀ p ∈ passages, p.out = s.passes p.message) :
    (passages.flatMap Passage.out).filter Output.isWarning = [] := by
  rw [List.filter_flatMap, List.flatMap_eq_nil_iff]
  intro p hp
  rw [h p hp, s.filter_passes]

/-- **Every output gets every message once and in order**, whatever becomes of the log file. -/
theorem delivers (f : Files) (directory : Location) {s : LogSettings} (hd : s.detail ≠ .disabled)
    (steps : List (Files × String)) : Delivers f directory s steps where
  stdout_eq := by
    rw [filterMap_said Output.stdout? (fun _ => Output.stdout?_of_isWarning) f directory hd]
    simp only [s.stdout_passes]
    cases s.stdout <;> simp [← List.map_eq_flatMap]
  stderr_eq := by
    rw [filterMap_said Output.stderr? (fun _ => Output.stderr?_of_isWarning) f directory hd]
    simp only [s.stderr_passes]
    cases s.stderr <;> simp [← List.map_eq_flatMap]
  notices_eq := by
    rw [filterMap_said Output.notice? (fun _ => Output.notice?_of_isWarning) f directory hd]
    simp only [s.notice_passes]
    cases s.records <;> simp [← List.map_eq_flatMap]
  holds {path left o} hfile ho hregular hu := by
    obtain ⟨hget, hend⟩ := get?_of_openFile ho hregular
    rw [passagesUnder, ofSettings_of_ok hd hfile ho] at hu
    rw [said, passagesUnder, ofSettings_of_ok hd hfile ho]
    obtain ⟨hout, hleft⟩ :=
      passages_of_holds (w := { target := o }) rfl ⟨_, hget, hend, ByteArray.append_empty⟩ rfl hu
    exact ⟨by simp [Files.contents?, hget], hleft, filter_flatMap_out hout⟩
  unopened {path e} hfile ho := by
    rw [said, passagesUnder, ofSettings_of_error hd hfile ho]
    refine ⟨rfl, ?_⟩
    rw [List.filter_append, filter_flatMap_out (out_of_under_none steps)]
    rfl
  unwritten {path left o} hfile ho hr := by
    rw [passagesUnder, ofSettings_of_ok hd hfile ho] at hr ⊢
    refine ⟨rfl, fun p hp => ?_⟩
    obtain ⟨e, he, hout⟩ := passages_of_refuses (w := { target := o }) rfl hr p hp
    refine ⟨e, he, ?_⟩
    rw [hout, List.filter_cons_of_pos rfl, s.filter_passes]
  unconfigured hfile := by
    rw [said, passagesUnder, ofSettings_of_none f directory hd hfile]
    exact filter_flatMap_out (out_of_under_none steps)

/-- Two messages for a full device are on standard output and recorded, with a warning each. Two for a log file
that nobody else writes to are in it. -/
theorem delivers_pair :
    let full : LogSettings :=
      { file := some "/dev/full", stdout := true, records := some .info, detail := .basic }
    let pair : List (Files × String) := [(.initial, "first"), (.initial, "second")]
    let plain : LogSettings := { file := some "/log", detail := .basic }
    let left := (ofSettings .initial [] plain).1
    let steps := (ofSettings .initial [] plain).2.1.inTurn left ["first", "second"]
    (full.detail ≠ .disabled ∧ Delivers .initial [] full pair ∧
      (∀ p ∈ passagesUnder .initial [] full pair, ∃ e, p.found.Refuses ["dev", "full"] e ∧
        p.out.filter Output.isWarning = [.unwritten e]) ∧
      said .initial [] full pair =
        [.unwritten .noSpace, .stdout "first\n", .record ⟨.info, "first"⟩,
          .unwritten .noSpace, .stdout "second\n", .record ⟨.info, "second"⟩]) ∧
      plain.detail ≠ .disabled ∧ Undisturbed ["log"] left (passagesUnder .initial [] plain steps) ∧
      ∀ past p, past ++ [p] <+: passagesUnder .initial [] plain steps →
        p.left.contents? ["log"] = some (.empty ++ linesOf ((past ++ [p]).map Passage.message)) := by
  intro full pair plain left steps
  have hfull : full.detail ≠ .disabled := by decide
  have hdelivers : Delivers .initial [] full pair := delivers .initial [] hfull pair
  have hrefuses : ∀ p ∈ passagesUnder .initial [] full pair, ∃ e, p.found.Refuses ["dev", "full"] e :=
    refuses_of_mem_passages _ (List.forall_mem_cons.mpr ⟨rfl, List.forall_mem_singleton.mpr rfl⟩)
  have hu : Undisturbed ["log"] left (passagesUnder .initial [] plain steps) := undisturbed_inTurn ..
  have hplain : plain.detail ≠ .disabled := by decide
  refine ⟨⟨hfull, hdelivers, (hdelivers.unwritten rfl rfl hrefuses).2, by decide +kernel⟩, hplain, hu, ?_⟩
  exact ((delivers .initial [] hplain steps).holds rfl rfl rfl hu).2.1

end Logger

end DeviceMemory
