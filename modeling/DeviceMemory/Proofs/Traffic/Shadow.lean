import DeviceMemory.Proofs.Engine.Alike
import DeviceMemory.Proofs.Traffic.Foreign

/-!
# What a run is for one engine

`Traffic.shadows` takes from a run all that is not meant for one engine: calls of other engines, and calls
that give the engine a block of another. Where the run gives a block of the engine to another one, its shadow
only drops the block. Engines that are not kept are not made either, so in the shadow an engine may have another
id (`EngineId.among`), and with fewer engines and fewer threads that ask, blocks and streams get other
numbers.

`seenOn` is what there is to see of one engine, apart from such numbers: the calls on it, what they come to, and
what they ask its backend for and give back to it.
-/

namespace DeviceMemory

variable {β ρ : Type}

/-! ### Engines that are kept -/

/-- The id of an engine when, of all that were made before it, only those are made that are kept. -/
def EngineId.among (kept : EngineId → Bool) (id : EngineId) : EngineId :=
  ⟨(List.range id.number).countP fun n => kept ⟨n⟩⟩

variable {kept : EngineId → Bool}

theorem EngineId.among_succ (kept : EngineId → Bool) (n : Nat) : ((⟨n + 1⟩ : EngineId).among kept).number =
    ((⟨n⟩ : EngineId).among kept).number + if kept ⟨n⟩ then 1 else 0 := by
  simp only [among, List.range_succ, List.countP_append, List.countP_singleton]

/-- Engines that are kept are numbered in the order in which they were. -/
theorem EngineId.among_lt {id : EngineId} (hk : kept id = true) {n : Nat} (h : id.number < n) :
    (id.among kept).number < ((⟨n⟩ : EngineId).among kept).number := by
  have hnext := among_succ kept id.number
  rw [if_pos hk] at hnext
  have hmono : ((⟨id.number + 1⟩ : EngineId).among kept).number ≤ ((⟨n⟩ : EngineId).among kept).number :=
    (List.range_sublist.mpr h).countP_le
  have hid : (⟨id.number⟩ : EngineId) = id := rfl
  rw [hid] at hnext
  omega

/-- No two of them get one number. -/
theorem EngineId.among_eq_iff {id : EngineId} (hid : kept id = true) {n : Nat} (hn : kept ⟨n⟩ = true) :
    (id.among kept).number = ((⟨n⟩ : EngineId).among kept).number ↔ id.number = n := by
  constructor
  · intro h
    by_contra hne
    rcases Nat.lt_or_gt_of_ne hne with hlt | hlt
    · exact absurd h (among_lt hid hlt).ne
    · exact absurd h.symm (among_lt hn hlt).ne
  · rintro rfl
    rfl

/-! ### What is left of a run -/

/-- Whether a call is one on an engine and does not give it a block of another. -/
def Errand.isFor (id : EngineId) (x : Errand ρ) : Bool := decide (x.engine = id) && !x.request.isForeign id

namespace Traffic

/-- What is left of a move for one engine. -/
def shadow (kept : EngineId → Bool) (id : EngineId) (t : Traffic β ρ) : Move β ρ → List (Move β ρ)
  | .make device backend settings =>
    if kept ⟨t.host.engines.length⟩ then [.make device backend settings] else []
  | .makeAmong target devices selector backend settings =>
    if kept ⟨t.host.engines.length⟩ then [.makeAmong target devices selector backend settings] else []
  | .stream thread => [.stream thread]
  | .call thread engine name request =>
    if engine = id && (t.canBegin thread engine && !request.isFree) then
      [.call thread (id.among kept) name request]
    else []
  | .giveBack thread engine name =>
    match t.held.lookup name with
    | none => []
    | some b =>
      if b.engine = id && t.canBegin thread engine then
        -- a block that the engine did not get back is lost to it all the same
        if engine = id then [.giveBack thread (id.among kept) name] else [.drop name]
      else []
  | .step thread =>
    match t.errandOf thread with
    | none => []
    | some x =>
      if x.isFor id then [.step thread]
      else
        match x.stage.reply? with
        -- a block of another engine takes the place of one that had the name
        | some (.made _) => [.drop x.name]
        | _ => []
  | .drop name => [.drop name]

/-- What is left of a run for one engine. -/
def shadows [Backend β ρ] (kept : EngineId → Bool) (id : EngineId) : Traffic β ρ → List (Move β ρ) → List (Move β ρ)
  | _, [] => []
  | t, m :: ms => t.shadow kept id m ++ shadows kept id (t.move m) ms

/-- What is left of a run is left of its parts. -/
theorem shadows_append [Backend β ρ] (kept : EngineId → Bool) (id : EngineId) (t : Traffic β ρ)
    (ms ms' : List (Move β ρ)) :
    t.shadows kept id (ms ++ ms') = t.shadows kept id ms ++ (t.run ms).shadows kept id ms' := by
  induction ms generalizing t with
  | nil => rfl
  | cons m ms ih => simp only [List.cons_append, shadows, ih (t.move m), List.append_assoc, run, List.foldl_cons]

end Traffic

/-! ### What is seen of an engine -/

/-- A block with its numbers left out. -/
def Block.unnumbered (b : Block ρ) : Block ρ := { b with id := ⟨0⟩, engine := ⟨0⟩, stream := .main }

/-- A call with the numbers of its block left out. -/
def Call.unnumbered : Call ρ → Call ρ
  | .free b => .free b.unnumbered
  | call => call

/-- A reply with the numbers of its block left out. -/
def Reply.unnumbered : Reply ρ → Reply ρ
  | .made b => .made b.unnumbered
  | reply => reply

/-- What there is to see of a happening on one engine, with all numbers left out. -/
def Happening.seenOn? (id : EngineId) : Happening ρ → Option (Happening ρ)
  | .began thread engine request =>
    if engine = id ∧ request.isForeign id = false then some (.began thread ⟨0⟩ request.unnumbered) else none
  | .did thread engine deed =>
    if engine = id ∧ deed.callsBackend = true then some (.did thread ⟨0⟩ deed) else none
  | .ended thread engine request reply =>
    if engine = id ∧ request.isForeign id = false then
      some (.ended thread ⟨0⟩ request.unnumbered reply.unnumbered)
    else none
  | .told _ _ | .made _ => none

/-- What there is to see on one engine, the earliest first. -/
def seenOn (id : EngineId) (trace : List (Happening ρ)) : List (Happening ρ) :=
  trace.reverse.filterMap (·.seenOn? id)

theorem seenOn_cons (id : EngineId) (x : Happening ρ) (trace : List (Happening ρ)) :
    seenOn id (x :: trace) = seenOn id trace ++ (x.seenOn? id).toList := by
  cases h : x.seenOn? id <;> simp [seenOn, h]

theorem seenOn_aside {x : Happening ρ} (hx : x.isAside) (id : EngineId) (trace : List (Happening ρ)) :
    seenOn id (x :: trace) = seenOn id trace := by
  cases x with
  | told thread stream => simp [seenOn, Happening.seenOn?]
  | made result => simp [seenOn, Happening.seenOn?]
  | _ => cases hx

theorem seenOn_didAll (id : EngineId) (thread : ThreadId) (engine : EngineId) (ds : List (Deed ρ))
    (trace : List (Happening ρ)) : seenOn id (didAll thread engine ds ++ trace) =
      seenOn id trace ++ if engine = id then (Deed.backendCalls ds).map (.did thread ⟨0⟩) else [] := by
  induction ds using List.reverseRecOn with
  | nil => simp [didAll, Deed.backendCalls]
  | append_singleton ds d ih =>
    rw [didAll_append_singleton, List.cons_append, seenOn_cons, ih]
    by_cases h : engine = id
    · by_cases hd : d.callsBackend = true <;> simp [Happening.seenOn?, Deed.backendCalls, h, hd]
    · simp [Happening.seenOn?, h]

theorem Block.Alike.unnumbered_eq {id id' : EngineId} {b b' : Block ρ} (h : b.Alike id id' b') :
    b.unnumbered = b'.unnumbered := by
  have hlayout : b.layout = b'.layout := congrArg Plan.layout h.plan_eq
  have hsize : b.size = b'.size := congrArg Plan.size h.plan_eq
  have horigin : b.origin = b'.origin := congrArg Plan.origin h.plan_eq
  rw [unnumbered, unnumbered, hlayout, hsize, horigin]

theorem Call.Alike.unnumbered_eq {id id' : EngineId} {call call' : Call ρ} (h : call.Alike id id' call') :
    call.unnumbered = call'.unnumbered := by
  cases h with
  | same h => rfl
  | free h => exact congrArg Call.free h.unnumbered_eq

theorem Reply.Alike.unnumbered_eq {id id' : EngineId} {reply reply' : Reply ρ} (h : reply.Alike id id' reply') :
    reply.unnumbered = reply'.unnumbered := by
  cases h with
  | made h => exact congrArg Reply.made h.unnumbered_eq
  | freed => rfl
  | failed f => rfl

/-- Calls that are alike give no engine a block of another. -/
theorem Call.Alike.isForeign_eq {id id' : EngineId} {call call' : Call ρ} (h : call.Alike id id' call') :
    call.isForeign id = false ∧ call'.isForeign id' = false := by
  cases h with
  | same h =>
    cases call with
    | free b => exact absurd rfl (h b)
    | _ => exact ⟨rfl, rfl⟩
  | free h => simp [isForeign, h.engine_eq, h.engine_eq']

end DeviceMemory
