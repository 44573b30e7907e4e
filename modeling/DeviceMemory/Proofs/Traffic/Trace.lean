import DeviceMemory.Proofs.Engine.Books
import DeviceMemory.Proofs.Engine.Service
import DeviceMemory.Traffic
import Mathlib.Data.Multiset.Bind
import Mathlib.Data.List.Induction

/-!
# Reading the trace

The trace of a `Traffic` holds every deed of every call. It is read by engine, as all the deeds there
in order (`Traffic.deeds`), and by call, as the deeds of one thread since it began (`callDeeds`).

## The model

A `Job` is a call with all it has done, be it in progress or at its end. The jobs of a state are the
calls that threads are in the middle of, and the calls of which the trace tells the end. When a call
ends it goes from the one to the other and stays the same job. Jobs come in bags: which one began
first is not told.
-/

namespace DeviceMemory

variable {β ρ : Type}

/-! ### By engine -/

/-- The deed of a happening, if it is one on an engine. -/
def Happening.deedOn? (id : EngineId) : Happening ρ → Option (Deed ρ)
  | did _ engine deed => if engine = id then some deed else none
  | _ => none

/-- Whether a happening is about no call. -/
def Happening.isAside : Happening ρ → Bool
  | told _ _ | made _ => true
  | _ => false

/-- The deeds on an engine, in order. -/
def deedsOn (id : EngineId) (trace : List (Happening ρ)) : List (Deed ρ) :=
  trace.reverse.filterMap (·.deedOn? id)

/-! ### By call -/

/-- A call with all it has done. -/
structure Job (ρ : Type) where
  /-- The thread. -/
  thread : ThreadId
  /-- The engine that is called. -/
  engine : EngineId
  /-- What was asked for. -/
  request : Call ρ
  /-- What remains to be done. -/
  stage : Stage ρ
  /-- What was done, in order. -/
  deeds : List (Deed ρ)

/-- The deeds of the call that a thread began last, in order. -/
def callDeeds (thread : ThreadId) : List (Happening ρ) → List (Deed ρ)
  | [] => []
  | .began other _ _ :: rest => if other = thread then [] else callDeeds thread rest
  | .did other _ deed :: rest =>
    if other = thread then callDeeds thread rest ++ [deed] else callDeeds thread rest
  | .ended .. :: rest | .told .. :: rest | .made _ :: rest => callDeeds thread rest

/-- The calls that have ended. -/
def pastJobs : List (Happening ρ) → List (Job ρ)
  | [] => []
  | .ended thread engine request reply :: rest =>
    ⟨thread, engine, request, .closing none reply, callDeeds thread rest⟩ :: pastJobs rest
  | .began .. :: rest | .did .. :: rest | .told .. :: rest | .made _ :: rest => pastJobs rest

/-- A call in progress as a job. -/
def Errand.job (x : Errand ρ) (trace : List (Happening ρ)) : Job ρ :=
  ⟨x.thread, x.engine, x.request, x.stage, callDeeds x.thread trace⟩

namespace Traffic

/-- The deeds on an engine, in order. -/
def deeds (t : Traffic β ρ) (id : EngineId) : List (Deed ρ) := deedsOn id t.trace

/-- The calls in progress. -/
def running (t : Traffic β ρ) : Multiset (Job ρ) := ↑(t.errands.map (·.job t.trace))

/-- The calls that have ended. -/
def past (t : Traffic β ρ) : Multiset (Job ρ) := ↑(pastJobs t.trace)

/-- All calls that have begun. -/
def jobs (t : Traffic β ρ) : Multiset (Job ρ) := t.running + t.past

theorem job_mem_running {t : Traffic β ρ} {x : Errand ρ} (hx : x ∈ t.errands) : x.job t.trace ∈ t.running :=
  Multiset.mem_coe.mpr (List.mem_map_of_mem hx)

theorem job_mem_jobs {t : Traffic β ρ} {x : Errand ρ} (hx : x ∈ t.errands) : x.job t.trace ∈ t.jobs :=
  Multiset.mem_add.mpr (.inl (job_mem_running hx))

theorem mem_jobs_of_past {t : Traffic β ρ} {j : Job ρ} (hj : j ∈ t.past) : j ∈ t.jobs :=
  Multiset.mem_add.mpr (.inr hj)

/-- The blocks whose bytes an engine credited. -/
def credited (t : Traffic β ρ) (id : EngineId) : Multiset (Plan ρ) := (Deed.gain (t.deeds id)).1

/-- The blocks whose bytes an engine debited. -/
def debited (t : Traffic β ρ) (id : EngineId) : Multiset (Plan ρ) := (Deed.loss (t.deeds id)).1

/-- The memory that an engine got from its backend. -/
def obtained (t : Traffic β ρ) (id : EngineId) : Multiset (Holding ρ) := (Deed.gain (t.deeds id)).2

/-- The memory that an engine gave back to its backend. -/
def released (t : Traffic β ρ) (id : EngineId) : Multiset (Holding ρ) := (Deed.loss (t.deeds id)).2

/-- No call is in progress on an engine. -/
def Quiet (t : Traffic β ρ) (id : EngineId) : Prop := ∀ x ∈ t.errands, x.engine ≠ id

/-- A call on an engine has ended if none is in progress there. -/
theorem Quiet.mem_past {t : Traffic β ρ} {id : EngineId} (h : t.Quiet id) {j : Job ρ} (hj : j ∈ t.jobs)
    (hid : j.engine = id) : j ∈ t.past := by
  rcases Multiset.mem_add.mp hj with hj | hj
  · obtain ⟨x, hx, rfl⟩ := List.mem_map.mp (Multiset.mem_coe.mp hj)
    exact absurd hid (h x hx)
  · exact hj

/-- Then no job in progress is one on it. -/
theorem Quiet.running_eq {t : Traffic β ρ} {id : EngineId} (h : t.Quiet id) :
    (t.running.filter fun j => j.engine = id) = 0 := by
  apply Multiset.filter_eq_nil.mpr
  intro j hj
  obtain ⟨x, hx, rfl⟩ := List.mem_map.mp (Multiset.mem_coe.mp hj)
  exact h x hx

/-- A state that a process comes to by some moves, in any order, from one without engines. -/
inductive Reachable [Backend β ρ] : Traffic β ρ → Prop where
  /-- No engine has been made. -/
  | start (host : Host β) (h : host.engines = []) : Reachable { host := host }
  /-- One more move. -/
  | move {t : Traffic β ρ} (m : Move β ρ) : Reachable t → Reachable (t.move m)

end Traffic

theorem mem_deedsOn {id : EngineId} {trace : List (Happening ρ)} {d : Deed ρ} :
    d ∈ deedsOn id trace ↔ ∃ thread, .did thread id d ∈ trace := by
  simp only [deedsOn, List.mem_filterMap, List.mem_reverse]
  constructor
  · rintro ⟨x, hx, hd⟩
    cases x with
    | did thread engine deed =>
      simp only [Happening.deedOn?] at hd
      split at hd
      · rename_i he
        cases hd
        exact ⟨thread, he ▸ hx⟩
      · cases hd
    | _ => cases hd
  · rintro ⟨thread, hx⟩
    exact ⟨_, hx, by simp [Happening.deedOn?]⟩

/-- A job among those that have ended is at its end, and the trace tells it. -/
theorem ended_of_mem_pastJobs {trace : List (Happening ρ)} {j : Job ρ} (h : j ∈ pastJobs trace) :
    ∃ reply, j.stage = .closing none reply ∧ .ended j.thread j.engine j.request reply ∈ trace := by
  induction trace with
  | nil => cases h
  | cons x trace ih =>
    have later (hj : j ∈ pastJobs trace) :
        ∃ reply, j.stage = .closing none reply ∧ .ended j.thread j.engine j.request reply ∈ x :: trace := by
      obtain ⟨reply, hs, hm⟩ := ih hj
      exact ⟨reply, hs, List.mem_cons_of_mem x hm⟩
    cases x with
    | ended thread engine request reply =>
      rcases List.mem_cons.mp h with rfl | hj
      · exact ⟨reply, rfl, List.mem_cons_self⟩
      · exact later hj
    | _ => exact later h

theorem stage_of_mem_pastJobs {trace : List (Happening ρ)} {j : Job ρ} (h : j ∈ pastJobs trace) :
    ∃ reply, j.stage = .closing none reply := by
  obtain ⟨reply, hs, -⟩ := ended_of_mem_pastJobs h
  exact ⟨reply, hs⟩

/-- Every end of a call in the trace is that of a job. -/
theorem exists_mem_pastJobs {trace : List (Happening ρ)} {thread : ThreadId} {engine : EngineId}
    {request : Call ρ} {reply : Reply ρ} (h : .ended thread engine request reply ∈ trace) :
    ∃ ds, ⟨thread, engine, request, .closing none reply, ds⟩ ∈ pastJobs trace := by
  induction trace with
  | nil => cases h
  | cons x trace ih =>
    rcases List.mem_cons.mp h with rfl | hm
    · exact ⟨callDeeds thread trace, List.mem_cons_self⟩
    · obtain ⟨ds, hds⟩ := ih hm
      cases x with
      | ended => exact ⟨ds, List.mem_cons_of_mem _ hds⟩
      | _ => exact ⟨ds, hds⟩

/-! ### One more happening -/

theorem deedsOn_append (id : EngineId) (new old : List (Happening ρ)) :
    deedsOn id (new ++ old) = deedsOn id old ++ deedsOn id new := by
  simp [deedsOn]

@[simp] theorem deedsOn_began (id : EngineId) (thread : ThreadId) (engine : EngineId) (request : Call ρ)
    (trace : List (Happening ρ)) : deedsOn id (.began thread engine request :: trace) = deedsOn id trace := by
  simp [deedsOn, Happening.deedOn?]

@[simp] theorem deedsOn_ended (id : EngineId) (thread : ThreadId) (engine : EngineId) (request : Call ρ)
    (reply : Reply ρ) (trace : List (Happening ρ)) :
    deedsOn id (.ended thread engine request reply :: trace) = deedsOn id trace := by
  simp [deedsOn, Happening.deedOn?]

theorem deedsOn_aside {x : Happening ρ} (hx : x.isAside) (id : EngineId) (trace : List (Happening ρ)) :
    deedsOn id (x :: trace) = deedsOn id trace := by
  cases x with
  | told thread stream => simp [deedsOn, Happening.deedOn?]
  | made result => simp [deedsOn, Happening.deedOn?]
  | _ => cases hx

theorem callDeeds_aside {x : Happening ρ} (hx : x.isAside) (thread : ThreadId) (trace : List (Happening ρ)) :
    callDeeds thread (x :: trace) = callDeeds thread trace := by
  cases x with
  | told thread stream => rfl
  | made result => rfl
  | _ => cases hx

theorem pastJobs_aside {x : Happening ρ} (hx : x.isAside) (trace : List (Happening ρ)) :
    pastJobs (x :: trace) = pastJobs trace := by
  cases x with
  | told thread stream => rfl
  | made result => rfl
  | _ => cases hx

/-! ### One more step of a call -/

/-- What a step of a call adds to the trace. -/
def didAll (thread : ThreadId) (engine : EngineId) (ds : List (Deed ρ)) : List (Happening ρ) :=
  (ds.map (Happening.did thread engine)).reverse

theorem didAll_append_singleton (thread : ThreadId) (engine : EngineId) (ds : List (Deed ρ)) (d : Deed ρ) :
    didAll thread engine (ds ++ [d]) = .did thread engine d :: didAll thread engine ds := by
  simp [didAll]

theorem deedsOn_didAll (id : EngineId) (thread : ThreadId) (engine : EngineId) (ds : List (Deed ρ)) :
    deedsOn id (didAll thread engine ds) = if engine = id then ds else [] := by
  induction ds with
  | nil => simp [didAll, deedsOn]
  | cons d ds ih =>
    by_cases h : engine = id
    · simp_all [didAll, deedsOn, Happening.deedOn?]
    · simp_all [didAll, deedsOn, Happening.deedOn?]

theorem callDeeds_didAll (thread engineThread : ThreadId) (engine : EngineId) (ds : List (Deed ρ))
    (trace : List (Happening ρ)) :
    callDeeds thread (didAll engineThread engine ds ++ trace) =
      callDeeds thread trace ++ if engineThread = thread then ds else [] := by
  induction ds using List.reverseRecOn with
  | nil => simp [didAll]
  | append_singleton ds d ih =>
    rw [didAll_append_singleton, List.cons_append, callDeeds, ih]
    by_cases h : engineThread = thread <;> simp [h]

theorem pastJobs_didAll (thread : ThreadId) (engine : EngineId) (ds : List (Deed ρ))
    (trace : List (Happening ρ)) : pastJobs (didAll thread engine ds ++ trace) = pastJobs trace := by
  induction ds using List.reverseRecOn with
  | nil => rfl
  | append_singleton ds d ih =>
    rw [didAll_append_singleton, List.cons_append, pastJobs]
    exact ih

/-- A moment in or before a step is one before it, or one after some of its deeds. -/
theorem suffix_didAll_append {thread : ThreadId} {engine : EngineId} {ds : List (Deed ρ)}
    {before trace : List (Happening ρ)} (h : before <:+ didAll thread engine ds ++ trace) :
    before <:+ trace ∨ ∃ ds', ds' <+: ds ∧ before = didAll thread engine ds' ++ trace := by
  induction ds using List.reverseRecOn with
  | nil => exact .inl h
  | append_singleton ds d ih =>
    rw [didAll_append_singleton, List.cons_append] at h
    rcases List.suffix_cons_iff.mp h with rfl | h
    · exact .inr ⟨ds ++ [d], List.prefix_rfl, by rw [didAll_append_singleton, List.cons_append]⟩
    · rcases ih h with hb | ⟨ds', hp, hb⟩
      · exact .inl hb
      · exact .inr ⟨ds', hp.trans (List.prefix_append ds [d]), hb⟩

end DeviceMemory
