import DeviceMemory.Proofs.Engine.Draws
import DeviceMemory.Proofs.Interleaving
import DeviceMemory.Proofs.Traffic.Lookup
import DeviceMemory.Proofs.Traffic.Since

/-!
# Threads that work through programs

Several threads each have a program of moves on one engine, and a run interleaves the programs. Every
program leaves enough steps for each of its calls to end before the next one begins (`Paced`), so in the
run no move is lost: each does one of the things that `Traffic.Turn` lists.

`Traffic.Shift` is what threads that work on nothing else have made of the calls of the process, and of
what the engines share; a turn adds to it (`Traffic.Shift.turn`).
-/

namespace DeviceMemory

variable {β ρ : Type}

/-! ### Programs that leave time for their calls -/

/-- Moves of one thread on one engine that leave time for every call, if the call in progress needs no
more than `k` steps, its end counted in. -/
def Paced (thread : ThreadId) (id : EngineId) : Nat → List (Move β ρ) → Prop
  | k, [] => k = 0
  | k, .step other :: ms => other = thread ∧ Paced thread id (k - 1) ms
  | k, .call other engine _ request :: ms =>
    k = 0 ∧ other = thread ∧ engine = id ∧ request.isFree = false ∧ Paced thread id (Stage.most + 1) ms
  | k, .giveBack other engine _ :: ms =>
    k = 0 ∧ other = thread ∧ engine = id ∧ Paced thread id (Stage.most + 1) ms
  | _, .make .. :: _ | _, .makeAmong .. :: _ | _, .stream _ :: _ | _, .drop _ :: _ => False

variable {thread : ThreadId} {id : EngineId}

theorem Paced.mono {k k' : Nat} {ms : List (Move β ρ)} (h : Paced thread id k ms) (hk : k' ≤ k) :
    Paced thread id k' ms := by
  induction ms generalizing k k' with
  | nil =>
    have h0 : k = 0 := h
    exact Nat.le_zero.mp (h0 ▸ hk)
  | cons m ms ih =>
    cases m with
    | step other => exact ⟨h.1, ih h.2 (by omega)⟩
    | call other engine name request => exact ⟨by have := h.1; omega, h.2⟩
    | giveBack other engine name => exact ⟨by have := h.1; omega, h.2⟩
    | _ => exact h.elim

/-- The steps to the end of a call leave time for it. -/
theorem paced_toEnd {k : Nat} {ms : List (Move β ρ)} (hk : k ≤ Stage.most + 1) (h : Paced thread id 0 ms) :
    Paced thread id k (Move.toEnd thread ++ ms) := by
  rw [Move.toEnd]
  generalize Stage.most + 1 = n at hk
  induction n generalizing k with
  | zero =>
    rw [Nat.le_zero.mp hk]
    exact h
  | succ n ih =>
    rw [List.replicate_succ, List.cons_append]
    exact ⟨rfl, ih (by omega)⟩

theorem paced_call {name : String} {request : Call ρ} {ms : List (Move β ρ)} (hf : request.isFree = false)
    (h : Paced thread id 0 ms) :
    Paced thread id 0 (.call thread id name request :: Move.toEnd thread ++ ms) :=
  ⟨rfl, rfl, rfl, hf, paced_toEnd le_rfl h⟩

theorem paced_giveBack {name : String} {ms : List (Move β ρ)} (h : Paced thread id 0 ms) :
    Paced thread id 0 (.giveBack thread id name :: Move.toEnd thread ++ ms) :=
  ⟨rfl, rfl, rfl, paced_toEnd le_rfl h⟩

/-- Who asked for what. -/
def Job.demand (j : Job ρ) : ThreadId × Call ρ := (j.thread, j.request)

namespace Traffic

/-- How many steps the call of a thread may still need, its end counted in. -/
def busy (t : Traffic β ρ) (thread : ThreadId) : Nat :=
  match t.errandOf thread with
  | some x => x.stage.remaining + 1
  | none => 0

theorem busy_eq_zero {t : Traffic β ρ} : t.busy thread = 0 ↔ t.errandOf thread = none := by
  unfold busy
  cases t.errandOf thread <;> simp

/-! ### What a shift makes of the calls -/

variable {ι : Type} {who : ι → ThreadId}

/-- The ids that calls have drawn. -/
def drawn (js : Multiset (Job ρ)) : Nat := (js.map fun j => Deed.names j.deeds).sum

@[simp] theorem drawn_cons (j : Job ρ) (js : Multiset (Job ρ)) :
    drawn (j ::ₘ js) = Deed.names j.deeds + drawn js := by
  simp [drawn]

/-- What threads that work on one engine have made of the calls of a process, and of what the engines
share: the calls that they are in the middle of, those that they have ended, and what they asked for. -/
structure Shift (t₀ t : Traffic β ρ) (id : EngineId) (who : ι → ThreadId) (own past : Multiset (Job ρ))
    (demands : Multiset (ThreadId × Call ρ)) : Prop where
  /-- The calls of others are as they were. -/
  running_eq : t.running = own + t₀.running
  /-- So are the calls that had ended. -/
  past_eq : t.past = past + t₀.past
  /-- All calls are on the engine, by one of the threads. -/
  mem : ∀ j ∈ own + past, j.engine = id ∧ ∃ i, who i = j.thread
  /-- This is what they asked for. -/
  demands_eq : (own + past).map Job.demand = demands
  /-- Ids were drawn by their deeds only. -/
  blocks_eq : t.host.commons.blocks = t₀.host.commons.blocks + drawn (own + past)
  /-- Threads that made calls have got numbers if they had none. -/
  streams_eq : ∃ new, t.host.commons.streams = t₀.host.commons.streams ++ new ∧ new.Nodup ∧
    ∀ w ∈ new, w ∉ t₀.host.commons.streams ∧ ∃ j ∈ own + past, j.thread = w
  /-- Every thread that has made a block has a number. -/
  placed : ∀ j ∈ own + past, j.stage.block?.isSome → j.thread ∈ t.host.commons.streams

variable {t t₀ : Traffic β ρ} {own past : Multiset (Job ρ)} {demands : Multiset (ThreadId × Call ρ)}

theorem Shift.start (t : Traffic β ρ) : t.Shift t id who 0 0 0 where
  running_eq := (zero_add _).symm
  past_eq := (zero_add _).symm
  mem j hj := by simp at hj
  demands_eq := rfl
  blocks_eq := rfl
  streams_eq := ⟨[], by simp⟩
  placed j hj := by simp at hj

/-- A call that begins is one more of the calls in progress. -/
theorem Shift.began (h : t₀.Shift t id who own past demands) (hi : t.errandOf thread = none) {i : ι}
    (hw : who i = thread) (name : String) (request : Call ρ) (held : List (String × Block ρ)) :
    t₀.Shift { t.begin thread id name request with held } id who
      (⟨thread, id, request, .opening request, []⟩ ::ₘ own) past ((thread, request) ::ₘ demands) where
  running_eq := by
    have hjobs := jobs_begin id name request held hi
    have hpast : ({ t.begin thread id name request with held } : Traffic β ρ).past = t.past := rfl
    rw [jobs, jobs, hpast, ← Multiset.cons_add] at hjobs
    rw [add_right_cancel hjobs, h.running_eq, Multiset.cons_add]
  past_eq := h.past_eq
  mem := by
    intro j hj
    rw [Multiset.cons_add] at hj
    rcases Multiset.mem_cons.mp hj with rfl | hj
    · exact ⟨rfl, i, hw⟩
    · exact h.mem j hj
  demands_eq := by rw [Multiset.cons_add, Multiset.map_cons, h.demands_eq, Job.demand]
  blocks_eq := by
    rw [Multiset.cons_add, drawn_cons]
    exact h.blocks_eq.trans (by simp)
  streams_eq := by
    obtain ⟨new, hnew, hnodup, hw⟩ := h.streams_eq
    refine ⟨new, hnew, hnodup, fun w hm => ?_⟩
    obtain ⟨hn, j, hj, ht⟩ := hw w hm
    refine ⟨hn, j, ?_, ht⟩
    rw [Multiset.cons_add]
    exact Multiset.mem_cons_of_mem hj
  placed := by
    intro j hj hb
    rw [Multiset.cons_add] at hj
    rcases Multiset.mem_cons.mp hj with rfl | hj
    · simp [Stage.block?] at hb
    · exact h.placed j hj hb

/-- The call of a thread that others do not know is one of the calls in progress. -/
theorem Shift.exists_own (h : t₀.Shift t id who own past demands) (hothers : ∀ i, t₀.errandOf (who i) = none)
    {i : ι} {x : Errand ρ} (hx : t.errandOf (who i) = some x) :
    ∃ rest, own = x.job t.trace ::ₘ rest := by
  obtain ⟨hm, ht⟩ := mem_of_errandOf hx
  have hj := job_mem_running hm
  rw [h.running_eq, Multiset.mem_add] at hj
  refine Multiset.exists_cons_of_mem (hj.resolve_right ?_)
  intro hold
  obtain ⟨y, hy, hyx⟩ := List.mem_map.mp (Multiset.mem_coe.mp hold)
  have hthread : y.thread = x.thread := congrArg Job.thread hyx
  exact errandOf_eq_none.mp (hothers i) y hy (hthread.trans ht)

/-- When the threads are idle, all their calls have ended. -/
theorem Shift.own_eq_zero (h : t₀.Shift t id who own past demands) (hidle : ∀ i, t.errandOf (who i) = none) :
    own = 0 := by
  apply Multiset.eq_zero_of_forall_notMem
  intro j hj
  obtain ⟨-, i, hi⟩ := h.mem j (Multiset.mem_add.mpr (.inl hj))
  have hrunning : j ∈ t.running := by
    rw [h.running_eq]
    exact Multiset.mem_add.mpr (.inl hj)
  obtain ⟨x, hx, rfl⟩ := List.mem_map.mp (Multiset.mem_coe.mp hrunning)
  exact errandOf_eq_none.mp (hidle i) x hx hi.symm

/-- When all their calls have ended, the threads are idle. -/
theorem Shift.idle (h : t₀.Shift t id who 0 past demands) (hothers : ∀ i, t₀.errandOf (who i) = none) (i : ι) :
    t.errandOf (who i) = none := by
  cases hx : t.errandOf (who i) with
  | none => rfl
  | some x =>
    obtain ⟨rest, hown⟩ := h.exists_own hothers hx
    exact absurd hown (Multiset.zero_ne_cons)

/-! ### Turns -/

variable [Backend β ρ]

/-- **What the turn of a thread does** in such a program. -/
inductive Turn (t : Traffic β ρ) (thread : ThreadId) (id : EngineId) : Move β ρ → Traffic β ρ → Prop
  /-- It waits, as its call has ended already. -/
  | waited (h : t.errandOf thread = none) : Turn t thread id (.step thread) t
  /-- It has no block to give back under a name. -/
  | missed {name : String} (h : t.held.lookup name = none) : Turn t thread id (.giveBack thread id name) t
  /-- It begins a call that may make a block. -/
  | called {name : String} {request : Call ρ} (h : t.errandOf thread = none) :
    Turn t thread id (.call thread id name request) (t.begin thread id name request)
  /-- It begins to give a block back. -/
  | gave {name : String} {b : Block ρ} (h : t.errandOf thread = none) (hb : t.held.lookup name = some b) :
    Turn t thread id (.giveBack thread id name)
      { t.begin thread id name (.free b) with held := without name t.held }
  /-- Its call goes on. -/
  | wentOn {x : Errand ρ} (hx : t.errandOf thread = some x) : Turn t thread id (.step thread) (t.goOn x)
  /-- Its call ends. -/
  | ended {x : Errand ρ} {reply : Reply ρ} (hx : t.errandOf thread = some x)
    (hs : x.stage = .closing none reply) : Turn t thread id (.step thread) (t.finish x reply)

variable {t' : Traffic β ρ} {m : Move β ρ} {ms : List (Move β ρ)}

/-- A step that is not the end of a call leaves it less time to need. -/
theorem busy_goOn_le (hs : t.Sound) {x : Errand ρ} (hx : t.errandOf thread = some x)
    (hr : x.stage.reply? = none) : (t.goOn x).busy thread ≤ t.busy thread - 1 := by
  obtain ⟨hm, ht⟩ := mem_of_errandOf hx
  obtain ⟨e, he, -⟩ := hs.course_of_errand hm
  have hmore : x.stage.remaining ≠ 0 := by
    intro h0
    have := Stage.reply?_isSome h0
    simp [hr] at this
  have hless := e.remaining_advance x.thread t.host.commons x.stage
  subst ht
  rw [busy, busy, errandOf_goOn hx he, if_pos rfl, hx]
  simp only
  omega

/-- Every move of such a program does one of these things, and the rest of it leaves time again. -/
theorem turn_move (hs : t.Sound) (he : (t.host.engine? id).isSome)
    (hp : Paced thread id (t.busy thread) (m :: ms)) :
    t.Turn thread id m (t.move m) ∧ Paced thread id ((t.move m).busy thread) ms := by
  cases m with
  | call other engine name request =>
    obtain ⟨h0, rfl, rfl, hf, hrest⟩ := hp
    have hidle := busy_eq_zero.mp h0
    rw [move_call (canBegin_iff.mpr ⟨hidle, he⟩) hf]
    refine ⟨.called hidle, ?_⟩
    rw [busy, errandOf_begin, if_pos rfl]
    exact hrest
  | giveBack other engine name =>
    obtain ⟨h0, rfl, rfl, hrest⟩ := hp
    have hidle := busy_eq_zero.mp h0
    cases hb : t.held.lookup name with
    | none =>
      have hmove : t.move (.giveBack other engine name) = t := by simp [move, hb]
      rw [hmove]
      exact ⟨.missed hb, hrest.mono (by omega)⟩
    | some b =>
      rw [move_giveBack (canBegin_iff.mpr ⟨hidle, he⟩) hb]
      refine ⟨.gave hidle hb, ?_⟩
      rw [busy, errandOf_begin_with, if_pos rfl]
      exact hrest
  | step other =>
    obtain ⟨rfl, hrest⟩ := hp
    cases hx : t.errandOf other with
    | none =>
      rw [move_step_idle hx]
      exact ⟨.waited hx, hrest.mono ((busy_eq_zero.mpr hx).le.trans (Nat.zero_le _))⟩
    | some x =>
      cases hr : x.stage.reply? with
      | none =>
        rw [move_step_goOn hx hr]
        exact ⟨.wentOn hx, hrest.mono (busy_goOn_le hs hx hr)⟩
      | some reply =>
        have hdone : (t.finish x reply).errandOf other = none := by
          rw [errandOf_finish, if_pos (mem_of_errandOf hx).2.symm]
        rw [move_step_finish hx hr]
        refine ⟨.ended hx (Stage.eq_closing_of_reply? hr), hrest.mono ?_⟩
        rw [busy_eq_zero.mpr hdone]
        omega
  | _ => exact hp.elim

/-- The turn of one thread leaves the calls of all others alone. -/
theorem Turn.errandOf_other (h : t.Turn thread id m t') (hs : t.Sound) {other : ThreadId}
    (ho : other ≠ thread) : t'.errandOf other = t.errandOf other := by
  cases h with
  | waited h => rfl
  | missed h => rfl
  | called h => rw [errandOf_begin, if_neg ho]
  | @gave name b h hb =>
    rw [errandOf_begin_with, if_neg ho]
  | wentOn hx =>
    obtain ⟨hm, ht⟩ := mem_of_errandOf hx
    obtain ⟨e, he, -⟩ := hs.course_of_errand hm
    subst ht
    rw [errandOf_goOn hx he, if_neg ho]
  | ended hx hr => rw [errandOf_finish, if_neg ((mem_of_errandOf hx).2 ▸ ho)]

/-! ### Turns in a shift -/

/-- A step of a call changes that call only. -/
theorem Shift.wentOn (h : t₀.Shift t id who own past demands) (hs : t.Sound)
    (hothers : ∀ i, t₀.errandOf (who i) = none) {i : ι} {x : Errand ρ}
    (hx : t.errandOf (who i) = some x) :
    ∃ own', t₀.Shift (t.goOn x) id who own' past demands := by
  obtain ⟨hm, ht⟩ := mem_of_errandOf hx
  obtain ⟨e, he, -⟩ := hs.course_of_errand hm
  obtain ⟨others, rfl⟩ := h.exists_own hothers hx
  obtain ⟨rest, hrunning, hrunning', hpast⟩ := jobs_goOn hs.threads hm he
  have hcommons : (t.goOn x).host.commons = (e.advance x.thread t.host.commons x.stage).commons := by
    rw [goOn_eq he]
  have hdraws := e.draws_advance x.thread t.host.commons x.stage
  generalize e.advance x.thread t.host.commons x.stage = p at *
  have hrest : rest = others + t₀.running := by
    have heq := h.running_eq
    rw [hrunning, Multiset.cons_add] at heq
    exact (Multiset.cons_inj_right _).mp heq
  refine ⟨{ x.job t.trace with stage := p.stage, deeds := (x.job t.trace).deeds ++ p.deeds } ::ₘ others, ?_⟩
  have hmem : ∀ j ∈ { x.job t.trace with stage := p.stage, deeds := (x.job t.trace).deeds ++ p.deeds } ::ₘ
      (others + past), j = { x.job t.trace with stage := p.stage, deeds := (x.job t.trace).deeds ++ p.deeds } ∨
        j ∈ x.job t.trace ::ₘ others + past := by
    intro j hj
    rcases Multiset.mem_cons.mp hj with hj | hj
    · exact .inl hj
    · rw [Multiset.cons_add]
      exact .inr (Multiset.mem_cons_of_mem hj)
  have hx₀ : x.job t.trace ∈ x.job t.trace ::ₘ others + past := by
    rw [Multiset.cons_add]
    exact Multiset.mem_cons_self _ _
  exact {
    running_eq := by rw [hrunning', hrest, Multiset.cons_add]
    past_eq := hpast.trans h.past_eq
    mem := by
      rw [Multiset.cons_add]
      intro j hj
      rcases hmem j hj with rfl | hj
      · exact h.mem (x.job t.trace) hx₀
      · exact h.mem j hj
    demands_eq := by
      rw [← h.demands_eq, Multiset.cons_add, Multiset.cons_add, Multiset.map_cons, Multiset.map_cons]
      rfl
    blocks_eq := by
      have hold := h.blocks_eq
      rw [Multiset.cons_add, drawn_cons] at hold ⊢
      rw [hcommons, hdraws.blocks_eq, hold, Deed.names_append]
      omega
    streams_eq := by
      obtain ⟨new, hnew, hnodup, hw⟩ := h.streams_eq
      rw [hcommons, Multiset.cons_add]
      refine hdraws.exists_new hnew hnodup ?_ ⟨_, Multiset.mem_cons_self _ _, rfl⟩
      intro w hm
      obtain ⟨hn, j, hj, htj⟩ := hw w hm
      rw [Multiset.cons_add] at hj
      rcases Multiset.mem_cons.mp hj with rfl | hj
      · exact ⟨hn, _, Multiset.mem_cons_self _ _, htj⟩
      · exact ⟨hn, j, Multiset.mem_cons_of_mem hj, htj⟩
    placed := by
      rw [Multiset.cons_add, hcommons]
      intro j hj hb
      rcases hmem j hj with rfl | hj
      · rcases hdraws.placed hb with hb | hm'
        · exact hdraws.mem_streams (h.placed (x.job t.trace) hx₀ hb)
        · exact hm'
      · exact hdraws.mem_streams (h.placed j hj hb) }

/-- A call that ends is one of those that have ended. -/
theorem Shift.ended (h : t₀.Shift t id who own past demands) (hs : t.Sound)
    (hothers : ∀ i, t₀.errandOf (who i) = none) {i : ι} {x : Errand ρ} {reply : Reply ρ}
    (hx : t.errandOf (who i) = some x) (hr : x.stage = .closing none reply) :
    ∃ own', t₀.Shift (t.finish x reply) id who own' (x.job t.trace ::ₘ past) demands := by
  obtain ⟨hm, -⟩ := mem_of_errandOf hx
  obtain ⟨others, rfl⟩ := h.exists_own hothers hx
  obtain ⟨hpast, hjobs⟩ := jobs_finish hs.threads hm hr
  have hsum : others + x.job t.trace ::ₘ past = x.job t.trace ::ₘ others + past := by
    rw [Multiset.add_cons, Multiset.cons_add]
  refine ⟨others, ?_⟩
  exact {
    running_eq := by
      rw [jobs, jobs, hpast, h.running_eq, Multiset.add_cons, ← Multiset.cons_add] at hjobs
      have hcancel := add_right_cancel hjobs
      rw [Multiset.cons_add] at hcancel
      exact (Multiset.cons_inj_right _).mp hcancel
    past_eq := by rw [hpast, h.past_eq, Multiset.cons_add]
    mem := hsum ▸ h.mem
    demands_eq := hsum ▸ h.demands_eq
    blocks_eq := hsum ▸ h.blocks_eq
    streams_eq := hsum ▸ h.streams_eq
    placed := hsum ▸ h.placed }

/-! ### Runs of turns -/

variable [DecidableEq ι]

/-- Threads have the rest of a run before them, and it leaves each of them time for its calls. -/
structure Pace (t : Traffic β ρ) (id : EngineId) (who : ι → ThreadId) (rest : List (ι × Move β ρ)) : Prop where
  /-- The process came here by moves. -/
  reachable : t.Reachable
  /-- There is an engine to call. -/
  engine : (t.host.engine? id).isSome
  /-- What is left for a thread leaves it time. -/
  paced (i : ι) : Paced (who i) id (t.busy (who i)) (turnsOf i rest)

@[simp] theorem turnsOf_cons {α : Type} (i j : ι) (x : α) (rest : List (ι × α)) :
    turnsOf i ((j, x) :: rest) = if j = i then x :: turnsOf i rest else turnsOf i rest := by
  by_cases h : j = i <;> simp [turnsOf, h]

/-- A turn does what its move can do, and leaves the rest of the run. -/
theorem Pace.turn (hinj : Function.Injective who) {i : ι} {rest : List (ι × Move β ρ)}
    (h : t.Pace id who ((i, m) :: rest)) :
    t.Turn (who i) id m (t.move m) ∧ (t.move m).Pace id who rest := by
  have hs := h.reachable.sound
  have hp := h.paced i
  rw [turnsOf_cons, if_pos rfl] at hp
  obtain ⟨hturn, hrest⟩ := turn_move hs h.engine hp
  obtain ⟨e, he⟩ := Option.isSome_iff_exists.mp h.engine
  obtain ⟨e', new, hsince⟩ := (Since.refl he).change hs (change_move t m)
  refine ⟨hturn, .move m h.reachable, by rw [hsince.engine?_eq]; rfl, ?_⟩
  intro j
  by_cases hij : i = j
  · exact hij ▸ hrest
  · have hother := h.paced j
    rw [turnsOf_cons, if_neg hij] at hother
    have hne : who j ≠ who i := fun hw => hij (hinj hw).symm
    rw [busy, hturn.errandOf_other hs hne]
    exact hother

/-- At the end of a run no thread is in the middle of a call. -/
theorem Pace.idle (h : t.Pace id who ([] : List (ι × Move β ρ))) (i : ι) : t.errandOf (who i) = none :=
  busy_eq_zero.mp (h.paced i)

end Traffic

end DeviceMemory
