import DeviceMemory.Proofs.Engine.Messages
import DeviceMemory.Proofs.Traffic.Streams

/-!
# A message determines its event

Every message in the log of an engine is that of a `Notice`: of an event and its block, of the thread at work, and of
the bytes in use (`Traffic.Reachable.exists_notice`). Two such messages are the same only if their events are,
with all that is shown of them, so nobody who reads a log takes one event for another
(`Traffic.Reachable.tells_events`).

What a message is made of is in `DeviceMemory.Proofs.Engine.Messages`. Here it is shown that calls which take turns
in any order write no other messages: `Stage.Lists` is what holds of a call on its way to an entry, and
`Marked` what it knows of the threads.
-/

namespace DeviceMemory

variable {β ρ : Type}

/-! ### The accounts of an entry -/

/-- The accounts under an entry are those that an engine tells: of one of its ledgers if it logs with statistics, and
none if it logs without. -/
def Nature.Lists (n : Nature) (entry : Entry) : Prop :=
  n.detail = .basic ∧ entry.statistics = [] ∨ n.detail = .full ∧ ∃ l : Ledger, entry.statistics = l.snapshot

/-- A call reads the statistics only if its engine logs with them, and what it is going to write lists the accounts that
it has to. -/
def Stage.Lists (n : Nature) : Stage ρ → Prop
  | surveying _ _ _ => n.detail = .full
  | writing entry _ _ => n.Lists entry
  | _ => True

namespace Stage

variable {n : Nature} {s : Stage ρ}

theorem Lists.of_none (h : s.entry? = none) : s.Lists n := by
  cases s with
  | surveying | writing => cases h
  | _ => trivial

theorem lists_announce (e : Engine β) (event : Event) (b : Block ρ) (freedFrom : Option Stream)
    (release : Option (Holding ρ)) (reply : Reply ρ) :
    (e.announce (Engine.entryOf event b freedFrom) release reply).Lists e.nature := by
  unfold Engine.announce
  split
  · trivial
  · rename_i hd
    exact .inl ⟨hd, rfl⟩
  · rename_i hd
    exact hd

variable [Backend β ρ]

theorem Lists.of_advances {thread : ThreadId} {e : Engine β} {c : Commons} {p : Progress β ρ}
    (h : e.Advances thread c s p) (hs : s.Lists e.nature) : p.stage.Lists e.nature := by
  cases h with
  | placed | placedOutside | traced => exact lists_announce e _ _ _ _ _
  | @enrolled _ _ ledger => exact lists_announce { e with ledger } _ _ _ _ _
  | uncounted | undebited | debited => exact .of_none e.entry_takeBack
  | surveyed => exact .inr ⟨hs, e.ledger, rfl⟩
  | _ => trivial

theorem Lists.advance (thread : ThreadId) (e : Engine β) (c : Commons) (h : s.Lists e.nature) :
    (e.advance thread c s).stage.Lists e.nature :=
  .of_advances (e.advances thread c s) h

end Stage

/-- An entry that a call has written is about an event of a block of the engine. -/
theorem Course.exists_tells {n : Nature} {call : Call ρ} {s : Stage ρ} {ds : List (Deed ρ)} (h : Course n call s ds)
    {entry : Entry} (hm : entry ∈ Deed.entries ds) :
    ∃ (event : Event) (b : Block ρ), entry.Tells event b ∧ b.engine = n.id := by
  rcases h.entries_cases with hnil | ⟨⟨event, b⟩, hevent, hreports⟩
  · rw [hnil] at hm
    cases hm
  · obtain ⟨entry', heq, htells⟩ := hreports.of_some
    rw [heq, List.mem_singleton] at hm
    exact ⟨event, b, hm ▸ htells, h.engine_of_event? hevent⟩

/-- Who gives a block back is told just if the block was made from another stream. -/
theorem Entry.Names.freedFrom_eq {trace : List (Happening ρ)} {c : Commons} {thread maker : ThreadId}
    {engine : EngineId} {entry : Entry} (h : entry.Names trace c thread engine maker) : ∃ stream,
      (entry.event = .freed → c.stream? thread = some stream) ∧
        entry.freedFrom = if entry.event = .freed ∧ stream ≠ entry.maker then some stream else none := by
  by_cases hf : entry.event = .freed
  · obtain ⟨stream, hs⟩ := Option.isSome_iff_exists.mp (h.isSome hf)
    have hsame : stream = entry.maker ↔ thread = maker := Commons.stream?_eq_iff hs h.maker_eq
    refine ⟨stream, fun _ => hs, Option.ext fun s => ?_⟩
    rw [h.freedFrom_iff, hs, Option.ite_none_right_eq_some, ne_eq, ne_eq, hsame, and_assoc]
  · refine ⟨entry.maker, fun hf' => absurd hf' hf, Option.ext fun s => ?_⟩
    rw [h.freedFrom_iff]
    simp [hf]

/-- What is right about a notice that a thread gives to the log of an engine. -/
structure Notice.Given (n : Notice ρ) (t : Traffic β ρ) (thread : ThreadId) (e : Engine β) : Prop where
  /-- The engine logs, -/
  detail_ne : e.detail ≠ .disabled
  /-- the block is one of its own, -/
  engine_eq : n.block.engine = e.id
  /-- the stream of a thread that gives it back is the thread's own, -/
  stream_eq : n.event = .freed → t.host.commons.stream? thread = some n.stream
  /-- and the bytes in use are those of a ledger. -/
  statistics_eq : ∃ l : Ledger, n.statistics = l.snapshot

namespace Traffic

variable [Backend β ρ] {t : Traffic β ρ}

/-- Every entry that a call has written lists the accounts that its engine tells. -/
theorem Reachable.lists (h : t.Reachable) {j : Job ρ} (hj : j ∈ t.jobs) {e : Engine β}
    (he : t.host.engine? j.engine = some e) {entry : Entry} (hm : entry ∈ Deed.entries j.deeds) :
    e.nature.Lists entry := by
  refine (h.forall_deeds (P := fun n _ s ds => s.Lists n ∧ ∀ entry ∈ Deed.entries ds, n.Lists entry)
    ?_ ?_ j hj e he).2 entry hm
  · exact fun n call => ⟨trivial, by simp⟩
  · rintro thread e c call s ds ⟨hs, hwritten⟩
    refine ⟨hs.advance thread e c, fun entry hentry => ?_⟩
    rw [Deed.entries_append, e.entries_advance, List.mem_append, Option.mem_toList] at hentry
    rcases hentry with hentry | hready
    · exact hwritten entry hentry
    · cases s <;> cases hready
      exact hs

/-- **Every entry in a log is that of a notice.** -/
theorem Reachable.exists_notice (h : t.Reachable) {thread : ThreadId} {id : EngineId} {entry : Entry}
    (hm : .did thread id (.logged entry) ∈ t.trace) : ∃ e, t.host.engine? id = some e ∧
      ∃ n : Notice ρ, n.Given t thread e ∧ entry = n.entry e.detail := by
  obtain ⟨maker, hnames⟩ := h.marks.logged thread id entry hm
  obtain ⟨stream, hstream, hfreed⟩ := hnames.freedFrom_eq
  obtain ⟨j, hj, rfl, hdeed⟩ := h.sound.mem_deeds.mp (mem_deedsOn.mpr ⟨thread, hm⟩)
  obtain ⟨e, he, hc⟩ := h.sound.course j hj
  have hentry : entry ∈ Deed.entries j.deeds := List.mem_filterMap.mpr ⟨_, hdeed, rfl⟩
  have hlists := h.lists hj he hentry
  obtain ⟨event, b, ⟨freedFrom, statistics, rfl⟩, hb⟩ := hc.exists_tells ((Deed.entries_effects _).symm ▸ hentry)
  obtain rfl : freedFrom = if event = .freed ∧ stream ≠ b.stream then some stream else none := hfreed
  refine ⟨e, he, ?_⟩
  rcases hlists with ⟨hd, hs⟩ | ⟨hd, l, hs⟩
  · change e.detail = .basic at hd
    obtain rfl : statistics = [] := hs
    exact ⟨⟨event, b, stream, e.ledger.snapshot⟩, ⟨by simp [hd], hb, hstream, e.ledger, rfl⟩, by rw [hd]; rfl⟩
  · change e.detail = .full at hd
    exact ⟨⟨event, b, stream, statistics⟩, ⟨by simp [hd], hb, hstream, l, hs⟩, by rw [hd]; rfl⟩

/-! ### All together -/

/-- What the messages of a process tell. -/
structure TellsEvents (t : Traffic β ρ) : Prop where
  /-- Messages are the same just if they show the same: the event, the stream that the block was made from, the block,
  its placement, its shape, the stream that gave it back if that is another, and the names and the quantities that
  are listed. This is so for messages of any two details and about blocks of any backends. -/
  message_eq_iff {ρ₁ ρ₂ : Type} (n : Notice ρ₁) (n' : Notice ρ₂) (detail detail' : LogDetail) :
    n.message detail = n'.message detail' ↔ (n.entry detail).ShowsSame (n'.entry detail')
  /-- They tell which stream gave a block back, also where they do not name it. -/
  stream_eq {ρ₁ ρ₂ : Type} {n : Notice ρ₁} {n' : Notice ρ₂} {detail detail' : LogDetail} :
    n.message detail = n'.message detail' → n.event = .freed → n.stream = n'.stream
  /-- Without statistics, a message is one line. -/
  one_line {ρ₁ : Type} (n : Notice ρ₁) : '\n' ∉ (n.message .basic).toList
  /-- With statistics, it begins with this line, -/
  first_line {ρ₁ : Type} (n : Notice ρ₁) :
    (n.message .full).toList.takeWhile (· ≠ '\n') = (n.message .basic).toList
  /-- and has one more for each account, which shows its name and the bytes in use; -/
  lines {ρ₁ : Type} (n : Notice ρ₁) : (n.message .full).toList.splitOn '\n' =
    (n.message .basic).toList :: n.statistics.map fun s => (Entry.accountField s).toList
  /-- there are no other lines. -/
  line_ends {ρ₁ : Type} (n : Notice ρ₁) : (n.message .full).toList.count '\n' = n.statistics.length
  /-- Whatever an engine has written to its log is such a message, about a block of its own and the thread at work. -/
  logged (thread : ThreadId) (id : EngineId) (entry : Entry) : .did thread id (.logged entry) ∈ t.trace →
    ∃ e, t.host.engine? id = some e ∧ ∃ n : Notice ρ, n.Given t thread e ∧ entry.text = n.message e.detail

/-- **A message determines its event**, and every message in a log is one of these, in whatever order threads take
turns. -/
theorem Reachable.tells_events (h : t.Reachable) : t.TellsEvents where
  message_eq_iff n n' detail detail' := Entry.text_eq_iff
  stream_eq hm := Notice.stream_eq (Entry.text_eq_iff.mp hm)
  one_line n := by
    rw [n.message_basic .basic]
    exact Entry.newline_not_mem_line _
  first_line n := by
    rw [n.message_basic .full]
    exact Entry.takeWhile_text _
  lines n := by
    rw [n.message_basic .full]
    exact Entry.splitOn_text _
  line_ends n := Entry.count_newline_text _
  logged thread id entry hm := by
    obtain ⟨e, he, n, hn, rfl⟩ := h.exists_notice hm
    exact ⟨e, he, n, hn, rfl⟩

/-- Two threads on an engine that logs with statistics: one makes two blocks, and the other gives one of them back. -/
def spelledOut : List (Move ScriptedBackend ScriptedResource) :=
  let device : Device := ⟨"0", "device", 1024, .plainBuffer, .ofList [.plainBuffer]⟩
  [.make device ({} : ScriptedBackend) { memory := { logger := { detail := .full, stderr := true } } },
      .call (.numbered 7) ⟨0⟩ "a" (.allocate ⟨[16, 16], .f32, false⟩ false)] ++ Move.toEnd (.numbered 7) ++
    [.call (.numbered 7) ⟨0⟩ "b" (.attach ⟨[], .f64, false⟩ 4096)] ++ Move.toEnd (.numbered 7) ++
    [.giveBack (.numbered 3) ⟨0⟩ "a"] ++ Move.toEnd (.numbered 3)

theorem spelledOut_tells_events :
    let start : Traffic ScriptedBackend ScriptedResource := { host := {} }
    (Deed.entries ((start.run spelledOut).deeds ⟨0⟩)).map Entry.text =
        ["[stream#1] allocate MemoryId(0) plain_buffer 1.00 KiB ([16, 16])\n  - plain_buffer     1.00 KiB",
          "[stream#1] import   MemoryId(1) external 8 B ([])\n  - plain_buffer     1.00 KiB",
          "[stream#1] free     MemoryId(0) plain_buffer 1.00 KiB ([16, 16]) from stream#2\n  - plain_buffer     0 B"] ∧
      (start.run spelledOut).TellsEvents :=
  ⟨by decide +kernel, Reachable.tells_events ((Reachable.start _ rfl).run _)⟩

end Traffic

end DeviceMemory
