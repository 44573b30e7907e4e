import DeviceMemory.Proofs.Traffic.Shadow

/-!
# A run and its shadow

`Traffic.Mirrors` relates a state of a run to the state that its shadow for one engine has reached by then:
what is meant for the engine is alike in both, and there is nothing else in the second. There are two lemmas for
everything that can happen, one where both states follow, and one where the run goes on alone because what
happens is not meant for the engine.
-/

namespace DeviceMemory

variable {β ρ : Type} {kept : EngineId → Bool} {id : EngineId}

/-! ### Options that are related -/

theorem rel_some_left {γ δ : Type} {r : γ → δ → Prop} {x : γ} {o : Option δ} (h : Option.Rel r (some x) o) :
    ∃ y, o = some y ∧ r x y := by
  cases h with
  | some h => exact ⟨_, rfl, h⟩

theorem rel_none_left {γ δ : Type} {r : γ → δ → Prop} {o : Option δ} (h : Option.Rel r none o) : o = none := by
  cases h
  rfl

/-! ### Hosts -/

/-- A host, and one with those of its engines that are kept: they have alike one engine. -/
structure Host.Mirrors (kept : EngineId → Bool) (id : EngineId) (h h' : Host β) : Prop where
  /-- The other has the engines that are kept. -/
  length_eq : h'.engines.length = ((⟨h.engines.length⟩ : EngineId).among kept).number
  /-- The engine is alike in both. -/
  engine : Option.Rel Engine.Alike (h.engine? id) (h'.engine? (id.among kept))
  /-- In both, stacks are recorded or not. -/
  wanted_eq : h.commons.wanted = h'.commons.wanted

theorem Host.wanted_makeEngine (h : Host β) (device : Device) (backend : β) (s : Settings) :
    (h.makeEngine device backend s).2.1.commons.wanted = h.commons.wanted := by
  simp only [makeEngine, readLimit]
  split <;> rfl

namespace Host.Mirrors

variable {h h' k k' : Host β} {e e' : Engine β}

/-- What the engines share may change. -/
theorem aside (hm : h.Mirrors kept id h') (he : k.engines = h.engines) (he' : k'.engines = h'.engines)
    (hw : k.commons.wanted = k'.commons.wanted) : k.Mirrors kept id k' where
  length_eq := by
    rw [he, he']
    exact hm.length_eq
  engine := by
    rw [engine?, engine?, he, he']
    exact hm.engine
  wanted_eq := hw

/-- An engine that is kept is made in both. -/
theorem made (hm : h.Mirrors kept id h') (hid : kept id = true)
    (hk : kept ⟨h.engines.length⟩ = true) (he : k.engines = h.engines ++ [e])
    (he' : k'.engines = h'.engines ++ [e']) (ha : e.Alike e') (hw : k.commons.wanted = k'.commons.wanted) :
    k.Mirrors kept id k' where
  length_eq := by
    have hnext := EngineId.among_succ kept h.engines.length
    rw [if_pos hk, ← hm.length_eq] at hnext
    rw [he, he', List.length_append, List.length_append, List.length_singleton, List.length_singleton, hnext]
  engine := by
    have hnumber : (id.among kept).number = h'.engines.length ↔ id.number = h.engines.length := by
      rw [hm.length_eq, EngineId.among_eq_iff hid hk]
    rw [engine?_append he, engine?_append he']
    by_cases hn : id.number = h.engines.length
    · rw [if_pos hn, if_pos (hnumber.mpr hn)]
      exact .some ha
    · rw [if_neg hn, if_neg (hnumber.not.mpr hn)]
      exact hm.engine
  wanted_eq := hw

/-- One that is not kept is made in the one only. -/
theorem made_left (hm : h.Mirrors kept id h') (hid : kept id = true)
    (hk : kept ⟨h.engines.length⟩ = false) (he : k.engines = h.engines ++ [e])
    (hw : k.commons.wanted = h.commons.wanted) : k.Mirrors kept id h' where
  length_eq := by
    have hnext := EngineId.among_succ kept h.engines.length
    rw [if_neg (by simp [hk]), ← hm.length_eq] at hnext
    rw [he, List.length_append, List.length_singleton, hnext, Nat.add_zero]
  engine := by
    have hne : id.number ≠ h.engines.length := by
      intro hn
      rw [← hn, hid] at hk
      cases hk
    rw [engine?_append he, if_neg hne]
    exact hm.engine
  wanted_eq := hw.trans hm.wanted_eq

/-- An engine is made in the one, and in the other if it is kept. -/
theorem makeEngine (hm : h.Mirrors kept id h') (hid : kept id = true) (device : Device) (backend : β)
    (s : Settings) :
    (kept ⟨h.engines.length⟩ = true →
      (h.makeEngine device backend s).2.1.Mirrors kept id (h'.makeEngine device backend s).2.1) ∧
    (kept ⟨h.engines.length⟩ = false → (h.makeEngine device backend s).2.1.Mirrors kept id h') := by
  obtain ⟨logger, he⟩ := Traffic.exists_new_makeEngine h device backend s
  obtain ⟨logger', he'⟩ := Traffic.exists_new_makeEngine h' device backend s
  constructor
  · intro hk
    refine hm.made hid hk he he' ⟨rfl, rfl, rfl, rfl, rfl⟩ ?_
    rw [wanted_makeEngine, wanted_makeEngine, hm.wanted_eq]
  · intro hk
    exact hm.made_left hid hk he (wanted_makeEngine ..)

/-- The same where devices are enumerated and there may be none. -/
theorem makeEngineAmong (hm : h.Mirrors kept id h') (hid : kept id = true) (target : Target)
    (devices : Devices) (selector : Selector) (backend : β) (s : Settings) :
    (kept ⟨h.engines.length⟩ = true →
      (h.makeEngineAmong target devices selector backend s).2.1.Mirrors kept id
        (h'.makeEngineAmong target devices selector backend s).2.1) ∧
    (kept ⟨h.engines.length⟩ = false →
      (h.makeEngineAmong target devices selector backend s).2.1.Mirrors kept id h') := by
  simp only [Host.makeEngineAmong]
  cases devices.select selector with
  | some device => exact hm.makeEngine hid device backend s
  | none => exact ⟨fun _ => hm.aside rfl rfl hm.wanted_eq, fun _ => hm.aside rfl rfl hm.wanted_eq⟩

end Host.Mirrors

/-! ### Calls and blocks -/

/-- Two calls that threads are in the middle of, of which the same remains to be done. -/
structure Errand.Alike (id id' : EngineId) (x x' : Errand ρ) : Prop where
  /-- One thread makes both. -/
  thread_eq : x.thread = x'.thread
  /-- They give a block one name. -/
  name_eq : x.name = x'.name
  /-- The one is on the one engine, -/
  engine_eq : x.engine = id
  /-- and the other on the other. -/
  engine_eq' : x'.engine = id'
  /-- They ask for the same. -/
  request : x.request.Alike id id' x'.request
  /-- The same remains to be done. -/
  stage : x.stage.Alike id id' x'.stage

theorem Errand.Alike.isFor_eq {id' : EngineId} {x x' : Errand ρ} (h : x.Alike id id' x') : x.isFor id = true := by
  simp [isFor, h.engine_eq, h.request.isForeign_eq.1]

theorem Stage.Alike.reply? {id' : EngineId} {s s' : Stage ρ} (h : s.Alike id id' s') :
    Option.Rel (Reply.Alike id id') s.reply? s'.reply? := by
  cases h with
  | @closing release reply reply' hr =>
    cases release with
    | none => exact .some hr
    | some holding => exact .none
  | _ => exact .none

namespace Traffic

/-- Blocks that are held, those of one engine alike in both; the other has none but these. -/
def HoldsAlike (id id' : EngineId) (held held' : List (String × Block ρ)) : Prop :=
  ∀ name, Option.Rel (Block.Alike id id') ((held.lookup name).filter fun b => b.engine = id) (held'.lookup name)

namespace HoldsAlike

variable {id' : EngineId} {held held' : List (String × Block ρ)}

theorem without (h : HoldsAlike id id' held held') (name : String) :
    HoldsAlike id id' (Traffic.without name held) (Traffic.without name held') := by
  intro other
  rw [lookup_without, lookup_without]
  split
  · exact .none
  · exact h other

/-- A name without a block of the engine is none in the other. -/
theorem without_left (h : HoldsAlike id id' held held') {name : String}
    (hn : ∀ b, held.lookup name = some b → b.engine ≠ id) :
    HoldsAlike id id' (Traffic.without name held) held' := by
  intro other
  rw [lookup_without]
  split
  · rename_i ho
    have hother := h other
    rw [ho] at hother ⊢
    cases hl : held.lookup name with
    | none =>
      rw [hl] at hother
      exact hother
    | some b =>
      rw [hl, Option.filter_some, if_neg (by simpa using hn b hl)] at hother
      exact hother
  · exact h other

theorem keep (h : HoldsAlike id id' held held') (name : String) {reply reply' : Reply ρ}
    (hr : reply.Alike id id' reply') :
    HoldsAlike id id' (Traffic.keep name held reply) (Traffic.keep name held' reply') := by
  cases hr with
  | @made b b' hb =>
    intro other
    rw [lookup_keep, lookup_keep]
    split
    · simp only [Reply.block?, Option.some_or, Option.filter_some, hb.engine_eq]
      exact .some hb
    · exact h other
  | freed => exact h
  | failed f => exact h

/-- A block of another engine takes the place of one that had the name. -/
theorem keep_left (h : HoldsAlike id id' held held') (name : String) {b : Block ρ} (hb : b.engine ≠ id) :
    HoldsAlike id id' (Traffic.keep name held (.made b)) (Traffic.without name held') := by
  intro other
  rw [lookup_keep, lookup_without]
  split
  · simp only [Reply.block?, Option.some_or, Option.filter_some, hb]
    exact .none
  · exact h other

end HoldsAlike

/-! ### States -/

theorem length_engines_goOn [Backend β ρ] (t : Traffic β ρ) (x : Errand ρ) :
    (t.goOn x).host.engines.length = t.host.engines.length := by
  simp only [goOn, Host.advance]
  split <;> simp [Host.setEngine]

/-- Going on does not change whether stacks are recorded. -/
theorem wanted_goOn [Backend β ρ] (t : Traffic β ρ) (x : Errand ρ) :
    (t.goOn x).host.commons.wanted = t.host.commons.wanted := by
  simp only [goOn, Host.advance]
  split
  · rfl
  · exact Engine.wanted_advance ..

/-- A call that is not meant for an engine brings no block of it. -/
theorem Sound.engine_ne_of_made [Backend β ρ] {t : Traffic β ρ} (hs : t.Sound) (hd : t.Disowning) {x : Errand ρ}
    (hx : x ∈ t.errands) (hfor : x.isFor id = false) {b : Block ρ} (hr : x.stage.reply? = some (.made b)) :
    b.engine ≠ id := by
  obtain ⟨e, he, hc⟩ := hs.course_of_errand hx
  rw [Stage.eq_closing_of_reply? hr] at hc
  have hb : b.engine = x.engine := hc.engine_of_made.trans (hs.ids _ e he)
  intro hid
  have hforeign : x.request.isForeign x.engine = true := by simpa [Errand.isFor, ← hb, hid] using hfor
  obtain ⟨c, hrequest, hne⟩ := Call.isForeign_iff.mp hforeign
  have hdisowned := hd.of_errand hx hrequest hne
  rw [Stage.eq_closing_of_reply? hr] at hdisowned
  cases hdisowned

/-- A state of a run, and one of its shadow for an engine: what is meant for the engine is alike in both, and
there is nothing else in the other. -/
structure Mirrors (kept : EngineId → Bool) (id : EngineId) (t t' : Traffic β ρ) : Prop where
  /-- The engine is. -/
  host : t.host.Mirrors kept id t'.host
  /-- The calls that threads are in the middle of are. -/
  errands (thread : ThreadId) : Option.Rel (Errand.Alike id (id.among kept))
    ((t.errandOf thread).filter (·.isFor id)) (t'.errandOf thread)
  /-- The blocks that are held are. -/
  held : HoldsAlike id (id.among kept) t.held t'.held
  /-- What there was to see is. -/
  seen_eq : seenOn id t.trace = seenOn (id.among kept) t'.trace
  /-- The other has seen no call on other engines, and none that gave this one a block of theirs. -/
  alone (thread : ThreadId) (engine : EngineId) (request : Call ρ) : .began thread engine request ∈ t'.trace →
    engine = id.among kept ∧ request.isForeign engine = false

namespace Mirrors

variable {t t' : Traffic β ρ}

theorem start (host : Host β) (hh : host.engines = []) : Mirrors kept id { host } ({ host } : Traffic β ρ) where
  host := ⟨by simp [hh, EngineId.among], by simp [Host.engine?, hh], rfl⟩
  errands _ := .none
  held _ := .none
  seen_eq := rfl
  alone _ _ _ h := by cases h

theorem errandOf_of_isFor (h : t.Mirrors kept id t') {x : Errand ρ} {thread : ThreadId}
    (hx : t.errandOf thread = some x) (hfor : x.isFor id = true) :
    ∃ x', t'.errandOf thread = some x' ∧ x.Alike id (id.among kept) x' := by
  have herrand := h.errands thread
  rw [hx, Option.filter_some, if_pos hfor] at herrand
  exact rel_some_left herrand

theorem errandOf_of_none (h : t.Mirrors kept id t') {thread : ThreadId} (hx : t.errandOf thread = none) :
    t'.errandOf thread = none := by
  have herrand := h.errands thread
  rw [hx] at herrand
  exact rel_none_left herrand

theorem errandOf_of_not_isFor (h : t.Mirrors kept id t') {x : Errand ρ} {thread : ThreadId}
    (hx : t.errandOf thread = some x) (hfor : x.isFor id = false) : t'.errandOf thread = none := by
  have herrand := h.errands thread
  rw [hx, Option.filter_some, if_neg (by simp [hfor])] at herrand
  exact rel_none_left herrand

/-- A call on the engine can begin in both. -/
theorem canBegin (h : t.Mirrors kept id t') {thread : ThreadId} (hc : t.canBegin thread id = true) :
    t'.canBegin thread (id.among kept) = true := by
  obtain ⟨hidle, he⟩ := canBegin_iff.mp hc
  obtain ⟨e, he⟩ := Option.isSome_iff_exists.mp he
  have hengine := h.host.engine
  rw [he] at hengine
  obtain ⟨e', he', -⟩ := rel_some_left hengine
  exact canBegin_iff.mpr ⟨h.errandOf_of_none hidle, by simp [he']⟩

/-! ### What happens beside calls -/

theorem aside (h : t.Mirrors kept id t') {host host' : Host β} {x x' : Happening ρ} (hx : x.isAside)
    (hx' : x'.isAside) (hm : host.Mirrors kept id host') :
    Mirrors kept id { t with host, trace := x :: t.trace }
      { t' with host := host', trace := x' :: t'.trace } where
  host := hm
  errands := h.errands
  held := h.held
  seen_eq := by rw [seenOn_aside hx, seenOn_aside hx', h.seen_eq]
  alone thread engine request hb := by
    rcases List.mem_cons.mp hb with rfl | hb
    · cases hx'
    · exact h.alone thread engine request hb

theorem aside_left (h : t.Mirrors kept id t') {host : Host β} {x : Happening ρ} (hx : x.isAside)
    (hm : host.Mirrors kept id t'.host) : Mirrors kept id { t with host, trace := x :: t.trace } t' where
  host := hm
  errands := h.errands
  held := h.held
  seen_eq := by rw [seenOn_aside hx, h.seen_eq]
  alone := h.alone

/-! ### Calls that begin -/

theorem began (h : t.Mirrors kept id t') {thread : ThreadId} {name : String} {request request' : Call ρ}
    (hr : request.Alike id (id.among kept) request') {held held' : List (String × Block ρ)}
    (hheld : HoldsAlike id (id.among kept) held held') :
    Mirrors kept id { t.begin thread id name request with held }
      { t'.begin thread (id.among kept) name request' with held := held' } where
  host := h.host
  errands other := by
    rw [errandOf_begin_with, errandOf_begin_with]
    split
    · have hx : Errand.Alike id (id.among kept) ⟨thread, id, name, request, .opening request⟩
          ⟨thread, id.among kept, name, request', .opening request'⟩ := ⟨rfl, rfl, rfl, rfl, hr, .opening hr⟩
      rw [Option.filter_some, if_pos hx.isFor_eq]
      exact .some hx
    · exact h.errands other
  held := hheld
  seen_eq := by
    simp only [begin, seenOn_cons, h.seen_eq, Happening.seenOn?, hr.isForeign_eq.1, hr.isForeign_eq.2,
      hr.unnumbered_eq]
  alone other engine call hb := by
    rcases List.mem_cons.mp hb with hb | hb
    · cases hb
      exact ⟨rfl, hr.isForeign_eq.2⟩
    · exact h.alone other engine call hb

theorem began_left (h : t.Mirrors kept id t') {thread : ThreadId} {engine : EngineId} {name : String}
    {request : Call ρ} (hi : t.errandOf thread = none) (hno : ¬(engine = id ∧ request.isForeign id = false))
    {held held' : List (String × Block ρ)} (hheld : HoldsAlike id (id.among kept) held held') :
    Mirrors kept id { t.begin thread engine name request with held } { t' with held := held' } where
  host := h.host
  errands other := by
    have hfor : Errand.isFor id (⟨thread, engine, name, request, .opening request⟩ : Errand ρ) = false := by
      simpa [Errand.isFor] using hno
    rw [errandOf_begin_with]
    split
    · rename_i ho
      rw [Option.filter_some, if_neg (by simp [hfor])]
      have hnone : ({ t' with held := held' } : Traffic β ρ).errandOf other = none := h.errandOf_of_none (ho ▸ hi)
      rw [hnone]
      exact .none
    · exact h.errands other
  held := hheld
  seen_eq := by
    have hseen : (Happening.began thread engine request).seenOn? id = none := if_neg hno
    simp only [begin, seenOn_cons, hseen, h.seen_eq, Option.toList_none, List.append_nil]
  alone := h.alone

/-! ### Calls that end -/

theorem ended (h : t.Mirrors kept id t') {x x' : Errand ρ} (hx : x.Alike id (id.among kept) x')
    {reply reply' : Reply ρ} (hr : reply.Alike id (id.among kept) reply') :
    Mirrors kept id (t.finish x reply) (t'.finish x' reply') where
  host := h.host
  errands thread := by
    rw [errandOf_finish, errandOf_finish, ← hx.thread_eq]
    split
    · exact .none
    · exact h.errands thread
  held := by
    rw [finish, finish, ← hx.name_eq]
    exact h.held.keep x.name hr
  seen_eq := by
    have hforeign := hx.request.isForeign_eq
    simp only [finish, seenOn_cons, h.seen_eq, Happening.seenOn?, hx.engine_eq, hx.engine_eq', hforeign.1,
      hforeign.2, hx.thread_eq, hx.request.unnumbered_eq, hr.unnumbered_eq]
  alone thread engine request hb := by
    rcases List.mem_cons.mp hb with hb | hb
    · cases hb
    · exact h.alone thread engine request hb

theorem ended_left (h : t.Mirrors kept id t') {x : Errand ρ} (hx : t.errandOf x.thread = some x)
    (hfor : x.isFor id = false) {reply : Reply ρ} {held' : List (String × Block ρ)}
    (hheld : HoldsAlike id (id.among kept) (keep x.name t.held reply) held') :
    Mirrors kept id (t.finish x reply) { t' with held := held' } where
  host := h.host
  errands thread := by
    rw [errandOf_finish]
    split
    · rename_i ht
      have hnone : ({ t' with held := held' } : Traffic β ρ).errandOf thread = none :=
        h.errandOf_of_not_isFor (ht ▸ hx) hfor
      rw [hnone]
      exact .none
    · exact h.errands thread
  held := hheld
  seen_eq := by
    have hseen : (Happening.ended x.thread x.engine x.request reply).seenOn? id = none :=
      if_neg (by simpa [Errand.isFor] using hfor)
    simp only [finish, seenOn_cons, hseen, h.seen_eq, Option.toList_none, List.append_nil]
  alone := h.alone

/-! ### Calls that go on -/

variable [Backend β ρ]

theorem wentOn (h : t.Mirrors kept id t') (hs : t.Sound) (hs' : t'.Sound) {x x' : Errand ρ}
    (hx : t.errandOf x.thread = some x) (hx' : t'.errandOf x'.thread = some x')
    (ha : x.Alike id (id.among kept) x') : Mirrors kept id (t.goOn x) (t'.goOn x') := by
  obtain ⟨e, he, -⟩ := hs.course_of_errand (mem_of_errandOf hx).1
  obtain ⟨e', he', -⟩ := hs'.course_of_errand (mem_of_errandOf hx').1
  have hengine := h.host.engine
  rw [← ha.engine_eq', he', ← ha.engine_eq, he] at hengine
  obtain ⟨_, ⟨⟩, hee⟩ := rel_some_left hengine
  have hp := Engine.alike_advance x.thread hee h.host.wanted_eq ((hs.ids _ e he).trans ha.engine_eq)
    ((hs'.ids _ e' he').trans ha.engine_eq') ha.stage
  exact {
    host := {
      length_eq := by
        rw [length_engines_goOn, length_engines_goOn]
        exact h.host.length_eq
      engine := by
        rw [engine?_goOn he, engine?_goOn he', if_pos ha.engine_eq.symm, if_pos ha.engine_eq'.symm,
          ← ha.thread_eq]
        exact .some hp.engine
      wanted_eq := by
        rw [wanted_goOn, wanted_goOn]
        exact h.host.wanted_eq }
    errands := fun thread => by
      rw [errandOf_goOn hx he, errandOf_goOn hx' he', ← ha.thread_eq]
      split
      · have hafter : Errand.Alike id (id.among kept)
            { x with stage := (e.advance x.thread t.host.commons x.stage).stage }
            { x' with
              thread := x.thread
              stage := (e'.advance x.thread t'.host.commons x'.stage).stage } :=
          { ha with
            thread_eq := rfl
            stage := hp.stage }
        rw [Option.filter_some, if_pos hafter.isFor_eq]
        exact .some hafter
      · exact h.errands thread
    held := by
      rw [goOn_eq he, goOn_eq he']
      exact h.held
    seen_eq := by
      rw [goOn_eq he, goOn_eq he', seenOn_didAll, seenOn_didAll, if_pos ha.engine_eq, if_pos ha.engine_eq',
        h.seen_eq, ← ha.thread_eq, hp.calls_eq]
    alone := fun thread engine request hb => by
      rw [goOn_eq he'] at hb
      refine h.alone thread engine request ?_
      simpa [didAll] using hb }

/-- A step of a call that is not meant for the engine does nothing to it, and there is nothing to see of it. -/
theorem wentOn_left (h : t.Mirrors kept id t') (hs : t.Sound) (hd : t.Disowning) {x : Errand ρ}
    (hx : t.errandOf x.thread = some x) (hfor : x.isFor id = false) : Mirrors kept id (t.goOn x) t' := by
  obtain ⟨e, he, -⟩ := hs.course_of_errand (mem_of_errandOf hx).1
  have hsame : (t.goOn x).host.engine? id = t.host.engine? id ∧ seenOn id (t.goOn x).trace = seenOn id t.trace := by
    by_cases hid : x.engine = id
    · -- the engine is given a block of another
      have hforeign : x.request.isForeign x.engine = true := by simpa [Errand.isFor, hid] using hfor
      obtain ⟨b, hr, hb⟩ := Call.isForeign_iff.mp hforeign
      obtain ⟨hengines, htrace, -⟩ := hd.goOn hs hx hr hb
      exact ⟨hengines id, by rw [htrace]⟩
    · rw [engine?_goOn he, if_neg (Ne.symm hid), goOn_eq he, seenOn_didAll, if_neg hid, List.append_nil]
      exact ⟨rfl, rfl⟩
  exact {
    host := {
      length_eq := by
        rw [length_engines_goOn]
        exact h.host.length_eq
      engine := by
        rw [hsame.1]
        exact h.host.engine
      wanted_eq := by
        rw [wanted_goOn]
        exact h.host.wanted_eq }
    errands := fun thread => by
      rw [errandOf_goOn hx he]
      split
      · rename_i ht
        have hstill : Errand.isFor id
            { x with stage := (e.advance x.thread t.host.commons x.stage).stage } = false := hfor
        rw [Option.filter_some, if_neg (by simp [hstill]), h.errandOf_of_not_isFor (ht ▸ hx) hfor]
        exact .none
      · exact h.errands thread
    held := by
      rw [goOn_eq he]
      exact h.held
    seen_eq := hsame.2.trans h.seen_eq
    alone := h.alone }

end Mirrors

end Traffic

end DeviceMemory
