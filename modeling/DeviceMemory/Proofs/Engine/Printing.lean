import DeviceMemory.Proofs.Engine.Entries

/-!
# What a step prints

An engine that writes an entry to its log passes the text on to its outputs. Standard output and standard
error get exactly that text (`Engine.printed_advance`), and no step that writes no entry prints anything or
does anything to files (`Engine.silent_advance`). So an engine that does not log does neither
(`Course.silent_advance`).
-/

namespace DeviceMemory

variable {β ρ : Type} {n : Nature} {call : Call ρ} {s : Stage ρ} {ds : List (Deed ρ)}

open Deed

/-! ### What is printed -/

/-- Whether an output is printed; records go elsewhere. -/
def Output.isPrinted : Output → Bool
  | stdout _ | stderr _ => true
  | record _ => false

/-- What deeds printed, in order. -/
def Deed.printed (ds : List (Deed ρ)) : List Output := (ds.filterMap output?).filter Output.isPrinted

@[simp] theorem Deed.printed_nil : printed ([] : List (Deed ρ)) = [] := rfl

@[simp] theorem Deed.printed_append (ds ds' : List (Deed ρ)) :
    printed (ds ++ ds') = printed ds ++ printed ds' := by
  simp [printed, List.filterMap_append]

theorem Deed.printed_said (out : List Output) :
    printed (out.map (said (ρ := ρ))) = out.filter Output.isPrinted := by
  simp [printed, List.filterMap_map, Function.comp_def]

@[simp] theorem Deed.printed_records (rs : List Record) : printed (records (ρ := ρ) rs) = [] := by
  simp [printed, records, List.filterMap_map, Function.comp_def, Output.isPrinted]

/-- What a message comes to that is passed to an output, if that prints. -/
def Sink.print? (message : String) : Sink → Option Output
  | stdout => some (.stdout (message ++ "\n"))
  | stderr => some (.stderr (message ++ "\n"))
  | file _ | records _ => none

/-- What a logger prints of a message. -/
def Logger.prints (l : Logger) (message : String) : List Output := l.sinks.filterMap (Sink.print? message)

/-- An output prints the message that it is passed, and goes on to print as before. -/
theorem Sink.write_eq (f : Files) (message : String) (k : Sink) :
    (k.write f message).2.2.filter Output.isPrinted = (k.print? message).toList ∧
      ∀ later, (k.write f message).2.1.print? later = k.print? later := by
  cases k with
  | file w =>
    refine ⟨?_, fun _ => rfl⟩
    simp only [write]
    cases (w.writeLine f message).error? <;> rfl
  | stdout => exact ⟨rfl, fun _ => rfl⟩
  | stderr => exact ⟨rfl, fun _ => rfl⟩
  | records level => exact ⟨rfl, fun _ => rfl⟩

/-- A logger prints the message that it is passed, and goes on to print as before. -/
theorem Logger.write_eq (f : Files) (message : String) (l : Logger) :
    (l.write f message).2.2.filter Output.isPrinted = l.prints message ∧
      ∀ later, (l.write f message).2.1.prints later = l.prints later := by
  have all (f : Files) (ks : List Sink) :
      (writeAll f message ks).2.2.filter Output.isPrinted = ks.filterMap (Sink.print? message) ∧
        ∀ later, (writeAll f message ks).2.1.filterMap (Sink.print? later) =
          ks.filterMap (Sink.print? later) := by
    induction ks generalizing f with
    | nil => exact ⟨rfl, fun _ => rfl⟩
    | cons k ks ih =>
      obtain ⟨hout, hlater⟩ := k.write_eq f message
      obtain ⟨hrest, hlaterRest⟩ := ih (k.write f message).1
      refine ⟨?_, fun later => ?_⟩
      · simp only [writeAll, List.filter_append, hout, hrest, List.filterMap_cons]
        cases k.print? message <;> rfl
      · simp only [writeAll, List.filterMap_cons, hlater, hlaterRest]
  exact all f l.sinks

/-! ### Steps -/

/-- A step did nothing to files and printed nothing. -/
structure Progress.Silent (p : Progress β ρ) (c : Commons) : Prop where
  /-- The files are as before. -/
  files_eq : p.commons.files = c.files
  /-- Nothing was printed. -/
  printed_eq : printed p.deeds = []

namespace Engine

variable [Backend β ρ]

theorem Advances.silent {thread : ThreadId} {e : Engine β} {c : Commons} {s : Stage ρ} {p : Progress β ρ}
    (h : e.Advances thread c s p) (hs : s.ready? = none) : p.Silent c := by
  have streams : (c.streamOf thread).2.files = c.files := by
    unfold Commons.streamOf
    split <;> rfl
  cases h with
  | refused => exact ⟨c.files_traced _, by simp⟩
  | ordered | imported | attached | owned => exact ⟨rfl, by simp⟩
  | placed | placedShared | placedOutside | traced => exact ⟨streams, rfl⟩
  | logged => cases hs
  | _ => exact ⟨rfl, rfl⟩

/-- **Only the step that writes an entry prints anything or does anything to files.** -/
theorem silent_advance (thread : ThreadId) (e : Engine β) (c : Commons) {s : Stage ρ} (hs : s.ready? = none) :
    (e.advance thread c s).Silent c :=
  (e.advances thread c s).silent hs

/-- A step prints the entry that its stage has ready, as far as the engine prints, and nothing else. -/
theorem printed_advance (thread : ThreadId) (e : Engine β) (c : Commons) (s : Stage ρ) :
    printed (e.advance thread c s).deeds = s.ready?.toList.flatMap fun entry => e.logger.prints entry.text := by
  cases hw : s.ready? with
  | none => exact (e.silent_advance thread c hw).printed_eq
  | some entry =>
    cases s with
    | writing entry' release reply =>
      cases hw
      calc printed (e.advance thread c (.writing entry release reply)).deeds
          = printed ((e.logger.write c.files entry.text).2.2.map said) := rfl
        _ = e.logger.prints entry.text :=
          (printed_said _).trans (e.logger.write_eq c.files entry.text).1
        _ = _ := (List.append_nil _).symm
    | _ => cases hw

/-- Only the step that writes an entry does anything to the logger. -/
theorem Does.logger_eq {e e' : Engine β} {ds : List (Deed ρ)} (h : e.Does s e' ds) (hs : s.ready? = none) :
    e'.logger = e.logger := by
  cases h with
  | logged => cases hs
  | _ => rfl

/-- An engine goes on to print as before. -/
theorem prints_advance (thread : ThreadId) (e : Engine β) (c : Commons) (s : Stage ρ) (later : String) :
    (e.advance thread c s).engine.logger.prints later = e.logger.prints later := by
  cases hw : s.ready? with
  | none => rw [(e.does_advance thread c s).logger_eq hw]
  | some entry =>
    cases s with
    | writing entry' release reply => exact (e.logger.write_eq c.files entry'.text).2 later
    | _ => cases hw

end Engine

/-- **A step on an engine that does not log prints nothing and leaves the files alone.** -/
theorem Course.silent_advance [Backend β ρ] (thread : ThreadId) {e : Engine β} (c : Commons)
    (h : Course e.nature call s ds) (hd : e.detail = .disabled) : (e.advance thread c s).Silent c := by
  apply e.silent_advance
  cases hw : s.ready? with
  | none => rfl
  | some entry =>
    obtain ⟨event, b, release, reply, -, hn, -⟩ := h.achieves_of_ready? hw
    exact absurd hd hn

end DeviceMemory
