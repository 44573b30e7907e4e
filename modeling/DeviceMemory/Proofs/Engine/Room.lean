import DeviceMemory.Proofs.Engine.Undone

/-!
# Room in the ledger and in the backend

A ledger refuses a credit only for want of room, and so does a backend whose one limit is its capacity
(`Backend.Capped`). If there is room for all that is ever tried, nothing is refused in any order
(`Ledger.not_refused`, `Backend.Capped.not_denied`); and if nothing was refused, there was room for all of it
(`Ledger.current_le`, `Backend.Capped.room_of_granted`). Deeds that only credit leave an account with a peak
that does not depend on their order either (`Ledger.peak_of_credits`).
-/

namespace DeviceMemory

variable {β ρ : Type}

/-! ### What is tried -/

namespace Deed

/-- The block whose bytes a deed tried to credit. -/
def tried? : Deed ρ → Option (Plan ρ)
  | credited p | refused p => some p
  | _ => none

/-- The blocks whose bytes deeds tried to credit. -/
def tried (ds : List (Deed ρ)) : Multiset (Plan ρ) := ↑(ds.filterMap tried?)

attribute [simp] tried?

@[simp] theorem tried_nil : tried ([] : List (Deed ρ)) = 0 := rfl

@[simp] theorem tried_cons (d : Deed ρ) (ds : List (Deed ρ)) :
    tried (d :: ds) = ↑d.tried?.toList + tried ds := by
  rw [tried, List.filterMap_cons, tried]
  cases d.tried? <;> rfl

@[simp] theorem tried_append (ds ds' : List (Deed ρ)) : tried (ds ++ ds') = tried ds + tried ds' := by
  simp [tried, ← Multiset.coe_add]

/-- The order of deeds does not matter to what they try. -/
theorem tried_congr {ds ds' : List (Deed ρ)} (h : (↑ds : Multiset (Deed ρ)) = ↑ds') : tried ds = tried ds' :=
  congrArg (Multiset.filterMap tried?) h

theorem tried_effects (ds : List (Deed ρ)) : tried (effects ds) = tried ds := by
  rw [tried, filterMap_effects fun _ => rfl, tried]

end Deed

/-- Bytes of requests. -/
def Request.total (rs : Multiset Request) : Nat := (rs.map Request.size).sum

@[simp] theorem Request.total_zero : Request.total 0 = 0 := rfl

@[simp] theorem Request.total_cons (r : Request) (rs : Multiset Request) :
    Request.total (r ::ₘ rs) = r.size + Request.total rs := by
  simp [total]

/-! ### Room in the ledger -/

namespace Ledger

/-- Whatever the ledger refused among some deeds, it had no room for. -/
def RefusesRightly (l : Ledger) : List (Deed ρ) → Prop
  | [] => True
  | d :: ds => (∀ p, d = .refused p → ∃ a, p.account? = some a ∧ maxWord < l.current a + p.size) ∧
      ∀ l', l.enter? d = some l' → RefusesRightly l' ds

theorem refusesRightly_append {l l' : Ledger} {ds ds' : List (Deed ρ)} (h : l.RefusesRightly ds)
    (hl : l.enterAll? ds = some l') (h' : l'.RefusesRightly ds') : l.RefusesRightly (ds ++ ds') := by
  induction ds generalizing l with
  | nil =>
    cases hl
    exact h'
  | cons d ds ih =>
    obtain ⟨m, hm, hl⟩ := Option.bind_eq_some_iff.mp hl
    refine ⟨h.1, ?_⟩
    intro k hk
    rw [hm] at hk
    cases hk
    exact ih (h.2 m hm) hl

theorem refusesRightly_effects {l : Ledger} {ds : List (Deed ρ)} :
    l.RefusesRightly (Deed.effects ds) ↔ l.RefusesRightly ds := by
  induction ds generalizing l with
  | nil => exact Iff.rfl
  | cons d ds ih =>
    cases d with
    | said out =>
      have htail : l.RefusesRightly (.said out :: ds) ↔ l.RefusesRightly ds := by
        simp [RefusesRightly, enter?]
      rw [htail]
      exact ih
    | _ => exact and_congr_right fun _ => forall₂_congr fun _ _ => ih

/-- A credit that was entered had room. -/
theorem room_of_credited {l l' : Ledger} {p : Plan ρ} (h : l.enter? (.credited p) = some l') {a : Account}
    (ha : p.account? = some a) : l.current a + p.size ≤ maxWord := by
  obtain ⟨a', ha', ho⟩ := Option.bind_eq_some_iff.mp h
  rw [ha] at ha'
  cases ha'
  by_contra hn
  have hb : ¬ (l.balance a).current + p.size ≤ maxWord := hn
  simp [credit, hb, outcome?] at ho

/-- No account holds more than a machine word. -/
theorem current_le {l l' : Ledger} {ds : List (Deed ρ)} (h : l.enterAll? ds = some l')
    (hl : ∀ a, l.current a ≤ maxWord) (a : Account) : l'.current a ≤ maxWord := by
  induction ds generalizing l with
  | nil =>
    cases h
    exact hl a
  | cons d ds ih =>
    obtain ⟨m, hm, hrest⟩ := Option.bind_eq_some_iff.mp h
    refine ih hrest fun k => ?_
    have hk := hl k
    rcases enter?_cases hm with ⟨p, k', rfl, hp, rfl⟩ | ⟨b, k', rfl, hb, hle, rfl⟩ | ⟨-, -, rfl⟩
    · have hroom := room_of_credited hm hp
      by_cases hkk : k = k'
      · simpa [hkk] using hroom
      · simpa [hkk] using hk
    · by_cases hkk : k = k'
      · subst hkk
        simpa using Nat.le_trans (Nat.sub_le ..) hk
      · simpa [hkk] using hk
    · exact hk

/-- **If there is room for all that is tried, nothing is refused.** -/
theorem not_refused {l l' : Ledger} {ds : List (Deed ρ)} (h : l.enterAll? ds = some l')
    (hr : l.RefusesRightly ds) {a : Account} (hroom : l.current a + bytesIn a (Deed.tried ds) ≤ maxWord)
    {p : Plan ρ} (hp : p.account? = some a) : .refused p ∉ ds := by
  induction ds generalizing l with
  | nil => simp
  | cons d ds ih =>
    obtain ⟨m, hm, hrest⟩ := Option.bind_eq_some_iff.mp h
    rw [Deed.tried_cons, bytesIn_add] at hroom
    -- the deed is not this refusal, and it leaves room for what is tried after it
    have hd : d ≠ .refused p := by
      rintro rfl
      obtain ⟨k, hk, hlt⟩ := hr.1 p rfl
      rw [hp] at hk
      cases hk
      simp [hp] at hroom
      omega
    have hleft : m.current a + bytesIn a (Deed.tried ds) ≤ maxWord := by
      rcases enter?_cases hm with ⟨q, k, rfl, hq, rfl⟩ | ⟨b, k, rfl, hb, hle, rfl⟩ | ⟨-, -, rfl⟩
      · by_cases hk : a = k
        · subst hk
          simp [hq] at hroom ⊢
          omega
        · simp [hk, hq, Ne.symm hk] at hroom ⊢
          exact hroom
      · by_cases hk : a = k
        · subst hk
          simp at hroom ⊢
          omega
        · simpa [hk] using hroom
      · omega
    simp only [List.mem_cons, not_or]
    exact ⟨Ne.symm hd, ih hrest (hr.2 m hm) hleft⟩

/-- After deeds that only credit, the peak of an account that they credit is what it was before or what is
in use now. -/
theorem peak_of_credits {l l' : Ledger} {ds : List (Deed ρ)} (h : l.enterAll? ds = some l')
    (hn : ∀ b, .debited b ∉ ds) {p : Plan ρ} (hp : .credited p ∈ ds) {a : Account}
    (ha : p.account? = some a) : l'.peak a = max (l.peak a) (l'.current a) := by
  suffices hall : l.peak a ≤ l'.peak a ∧ l'.peak a ≤ max (l.peak a) (l'.current a) ∧
      ((∃ q, .credited q ∈ ds ∧ q.account? = some a) → l'.current a ≤ l'.peak a) by
    obtain ⟨hmono, hle, hcur⟩ := hall
    exact le_antisymm hle (max_le hmono (hcur ⟨p, hp, ha⟩))
  clear hp ha p
  induction ds using List.reverseRecOn generalizing l' with
  | nil =>
    cases h
    simp
  | append_singleton ds d ih =>
    rw [enterAll?_append] at h
    obtain ⟨m, hm, hl⟩ := Option.bind_eq_some_iff.mp h
    obtain ⟨_, hd, ⟨⟩⟩ := Option.bind_eq_some_iff.mp hl
    simp only [List.mem_append, List.mem_singleton, not_or] at hn
    obtain ⟨hmono, hle, hcur⟩ := ih hm fun b => (hn b).1
    rcases enter?_cases hd with ⟨q, k, rfl, hq, rfl⟩ | ⟨b, k, rfl, -, -, rfl⟩ | ⟨hc, -, rfl⟩
    · by_cases hk : a = k
      · subst hk
        refine ⟨?_, ?_, ?_⟩ <;> simp <;> omega
      · refine ⟨by simpa [hk] using hmono, by simpa [hk] using hle, ?_⟩
        rintro ⟨q', hq', ha⟩
        have hne : q' ≠ q := by
          rintro rfl
          rw [hq] at ha
          cases ha
          exact hk rfl
        have hm : .credited q' ∈ ds := by simpa [hne] using hq'
        simpa [hk] using hcur ⟨q', hm, ha⟩
    · exact absurd rfl (hn b).2
    · refine ⟨hmono, hle, ?_⟩
      rintro ⟨q, hq, ha⟩
      have hne : d ≠ .credited q := by
        rintro rfl
        cases hc
      exact hcur ⟨q, by simpa [Ne.symm hne] using hq, ha⟩

/-- Deeds leave an account that they neither credit nor debit as it was. -/
theorem get?_of_untouched {l l' : Ledger} {ds : List (Deed ρ)} (h : l.enterAll? ds = some l') {a : Account}
    (hgain : ∀ p ∈ (Deed.gain ds).1, p.account? ≠ some a) (hloss : ∀ p ∈ (Deed.loss ds).1, p.account? ≠ some a) :
    l'.get? a = l.get? a := by
  induction ds generalizing l with
  | nil =>
    cases h
    rfl
  | cons d ds ih =>
    obtain ⟨m, hm, hrest⟩ := Option.bind_eq_some_iff.mp h
    rw [Deed.gain_cons, Prod.fst_add] at hgain
    rw [Deed.loss_cons, Prod.fst_add] at hloss
    rw [ih hrest (fun p hp => hgain p (Multiset.mem_add.mpr (.inr hp))) fun p hp =>
      hloss p (Multiset.mem_add.mpr (.inr hp))]
    rcases enter?_cases hm with ⟨p, k, rfl, hp, rfl⟩ | ⟨b, k, rfl, hb, -, rfl⟩ | ⟨-, -, rfl⟩
    · have hk : a ≠ k := by
        rintro rfl
        exact hgain p (by simp) hp
      simp [hk]
    · have hk : a ≠ k := by
        rintro rfl
        exact hloss b.plan (by simp) hb
      simp [hk]
    · rfl

/-- Deeds that credit nothing leave every peak as it was. -/
theorem peak_of_debits {l l' : Ledger} {ds : List (Deed ρ)} (h : l.enterAll? ds = some l')
    (hn : ∀ p, .credited p ∉ ds) (a : Account) : l'.peak a = l.peak a := by
  induction ds generalizing l with
  | nil =>
    cases h
    rfl
  | cons d ds ih =>
    obtain ⟨m, hm, hrest⟩ := Option.bind_eq_some_iff.mp h
    rw [ih hrest fun p hp => hn p (List.mem_cons_of_mem d hp)]
    rcases enter?_cases hm with ⟨p, k, rfl, -, rfl⟩ | ⟨b, k, rfl, -, -, rfl⟩ | ⟨-, -, rfl⟩
    · exact absurd List.mem_cons_self (hn p)
    · by_cases hk : a = k <;> simp [hk]
    · rfl

/-- **Bytes that come into use and go out again** leave what is in use as it was; what is left of them is the
peak of their accounts. -/
theorem get?_of_round_trip {l m l' : Ledger} {ds ds' : List (Deed ρ)} (h : l.enterAll? ds = some m)
    (h' : m.enterAll? ds' = some l') (hloss : (Deed.loss ds).1 = 0) (hgain : (Deed.gain ds').1 = 0)
    (hback : (Deed.loss ds').1 = (Deed.gain ds).1) (a : Account) :
    l'.get? a = if some a ∈ (Deed.gain ds).1.map Plan.account? then
      some ⟨l.current a, max (l.peak a) (l.current a + bytesIn a (Deed.gain ds).1)⟩ else l.get? a := by
  split
  · rename_i hm
    obtain ⟨p, hp, ha⟩ := Multiset.mem_map.mp hm
    obtain ⟨b, hb⟩ := Option.isSome_iff_exists.mp (isSome_of_enterAll? h' (isSome_of_mem_gain h hp ha))
    have hcurrent : l'.current a = b.current := current_of_get? hb
    have hpeak : l'.peak a = b.peak := peak_of_get? hb
    have hin := bytesIn_gain h a
    have hout := bytesIn_gain h' a
    rw [hloss, bytesIn_zero, zero_add] at hin
    rw [hgain, hback, bytesIn_zero, add_zero] at hout
    have hm : m.peak a = max (l.peak a) (m.current a) := by
      refine peak_of_credits h (fun b hb => ?_) (Deed.mem_gain_fst.mp hp) ha
      have hn := Deed.mem_loss_fst.mpr ⟨b, hb, rfl⟩
      rw [hloss] at hn
      exact absurd hn (Multiset.notMem_zero _)
    have hkept := peak_of_debits h' (fun p hp => by
      have hn := Deed.mem_gain_fst.mpr hp
      rw [hgain] at hn
      exact absurd hn (Multiset.notMem_zero _)) a
    have hback : b.current = l.current a := by omega
    rw [hb, hin, ← hback, ← hm, ← hkept, hpeak]
  · rename_i hm
    have huntouched : ∀ p ∈ (Deed.gain ds).1, p.account? ≠ some a :=
      fun p hp ha => hm (Multiset.mem_map.mpr ⟨p, hp, ha⟩)
    rw [get?_of_untouched h' (by simp [hgain]) (hback ▸ huntouched),
      get?_of_untouched h huntouched (by simp [hloss])]

end Ledger

/-! ### Room in the backend -/

variable [Backend β ρ]

/-- A backend whose one reason to refuse is that its capacity would be exceeded, as long as it is in one
of the states `ok`. It has no bound if there is no capacity. -/
structure Backend.Capped (ok : β → Prop) (capacity : Option Nat) (held : β → Nat) (bytes : ρ → Nat) : Prop
    extends Backend.Tallies held bytes where
  /-- Asking for memory leads to such a state again. -/
  allocate_ok {b : β} {r : Request} : ok b → ok (Backend.allocate b r).2
  /-- So does giving memory back, -/
  release_ok {b : β} {resource : ρ} : ok b → ok (Backend.release b resource)
  /-- which leaves no more bytes held than before. -/
  release_le {b : β} {resource : ρ} : ok b → held (Backend.release b resource) ≤ held b
  /-- A request that is refused does not fit into the capacity. -/
  not_fits {b : β} {r : Request} {err : BackendError} : ok b → (Backend.allocate b r).1 = .error err →
    ∃ c, capacity = some c ∧ c < held b + r.size
  /-- A request that is granted fits, -/
  fits {b : β} {r : Request} {resource : ρ} : ok b → (Backend.allocate b r).1 = .ok resource →
    ∀ c, capacity = some c → held b + r.size ≤ c
  /-- and the resource has the bytes that were asked for. -/
  bytes_eq {b : β} {r : Request} {resource : ρ} : ok b → (Backend.allocate b r).1 = .ok resource →
    bytes resource = r.size

namespace Backend.Capped

variable {ok : β → Prop} {capacity : Option Nat} {held : β → Nat} {bytes : ρ → Nat}

theorem held_of_granted (hc : Capped ok capacity held bytes) {b : β} {r : Request} {resource : ρ} (hb : ok b)
    (hr : (Backend.allocate b r).1 = .ok resource) : held (Backend.allocate b r).2 = held b + r.size := by
  rw [hc.granted hr, hc.bytes_eq hb hr]

/-- **If there is room for all requests, none is refused.** -/
theorem not_denied (hc : Capped ok capacity held bytes) {b b' : β} (hb : ok b) {ds : List (Deed ρ)}
    (hs : Backend.Serves b ds b')
    (hroom : ∀ c, capacity = some c → held b + Request.total ↑(Deed.requests ds) ≤ c) (r : Request)
    (err : BackendError) : .asked r (.error err) ∉ ds := by
  induction ds generalizing b with
  | nil => simp
  | cons d ds ih =>
    cases d with
    | asked q answer =>
      obtain ⟨ha, hs⟩ := hs
      have hsize (c : Nat) (h : capacity = some c) :
          held b + (q.size + Request.total ↑(Deed.requests ds)) ≤ c := by
        simpa [← Multiset.cons_coe] using hroom c h
      cases answer with
      | error e =>
        obtain ⟨c, h, hlt⟩ := hc.not_fits hb ha.symm
        have := hsize c h
        omega
      | ok resource =>
        have hheld := hc.held_of_granted hb ha.symm
        have hrest := ih (hc.allocate_ok hb) hs fun c h => by
          have := hsize c h
          omega
        simpa using hrest
    | released holding =>
      have hle : held (Backend.release b holding.resource) ≤ held b := hc.release_le hb
      have hrest := ih (hc.release_ok hb) hs fun c h => by
        have : held b + Request.total ↑(Deed.requests ds) ≤ c := hroom c h
        omega
      simpa using hrest
    | _ => simpa using ih hb hs hroom

/-- **If no request was refused and nothing given back, there was room for all of them.** -/
theorem room_of_granted (hc : Capped ok capacity held bytes) {b b' : β} (hb : ok b) {ds : List (Deed ρ)}
    (hs : Backend.Serves b ds b') (hg : ∀ r err, .asked r (.error err) ∉ ds) (hr : ∀ h, .released h ∉ ds)
    (hne : Deed.requests ds ≠ []) {c : Nat} (h : capacity = some c) :
    held b + Request.total ↑(Deed.requests ds) ≤ c := by
  induction ds generalizing b with
  | nil => exact absurd rfl hne
  | cons d ds ih =>
    have hg' (r : Request) (err : BackendError) : .asked r (.error err) ∉ ds :=
      fun hm => hg r err (List.mem_cons_of_mem d hm)
    have hr' (holding : Holding ρ) : .released holding ∉ ds :=
      fun hm => hr holding (List.mem_cons_of_mem d hm)
    cases d with
    | asked q answer =>
      obtain ⟨ha, hs⟩ := hs
      cases answer with
      | error e => exact absurd List.mem_cons_self (hg q e)
      | ok resource =>
        have hheld := hc.held_of_granted hb ha.symm
        have hfits := hc.fits hb ha.symm c h
        have hsplit : Request.total ↑(Deed.requests (.asked q (.ok resource) :: ds)) =
            q.size + Request.total ↑(Deed.requests ds) := by
          simp [← Multiset.cons_coe]
        rw [hsplit]
        by_cases hnil : Deed.requests ds = []
        · rw [hnil]
          exact hfits
        · have := ih (hc.allocate_ok hb) hs hg' hr' hnil
          omega
    | released holding => exact absurd List.mem_cons_self (hr holding)
    | _ => exact ih hb hs hg' hr' hne

end Backend.Capped

namespace Backend.Tallies

variable {held : β → Nat} {bytes : ρ → Nat}

/-- What is handed out adds up, as long as nothing is given back. -/
theorem held_of_gains (ht : Tallies held bytes) {b b' : β} {ds : List (Deed ρ)} (hs : Serves b ds b')
    (hr : ∀ h, .released h ∉ ds) :
    held b' = held b + ((Deed.gain ds).2.map fun h => bytes h.resource).sum := by
  induction ds generalizing b with
  | nil =>
    cases hs
    rfl
  | cons d ds ih =>
    have hr' (holding : Holding ρ) : .released holding ∉ ds :=
      fun hm => hr holding (List.mem_cons_of_mem d hm)
    cases d with
    | asked r answer =>
      obtain ⟨ha, hs⟩ := hs
      rw [ih hs hr']
      cases answer with
      | error err => simp [ht.denied ha.symm]
      | ok resource =>
        rw [ht.granted ha.symm]
        simp [Request.holding, add_assoc]
    | released holding => exact absurd List.mem_cons_self (hr holding)
    | _ => simpa using ih hs hr'

/-- What is given back is taken off, as long as nothing is handed out. -/
theorem held_of_losses (ht : Tallies held bytes) {b b' : β} {ds : List (Deed ρ)} (hs : Serves b ds b')
    (hr : Deed.requests ds = []) {rest : Nat}
    (hb : held b = rest + ((Deed.loss ds).2.map fun h => bytes h.resource).sum) : held b' = rest := by
  induction ds generalizing b with
  | nil =>
    cases hs
    simpa using hb
  | cons d ds ih =>
    rw [Deed.requests_cons, List.append_eq_nil_iff] at hr
    cases d with
    | asked r answer => simp at hr
    | released holding =>
      refine ih hs hr.2 (ht.returned ?_)
      rw [hb]
      simp [add_comm, add_left_comm]
    | _ => exact ih hs hr.2 (by simpa using hb)

end Backend.Tallies

/-- A scripted backend that refuses no placement and fails at no call is limited by its capacity only. -/
theorem ScriptedBackend.capped (capacity : Option Nat) :
    Backend.Capped (fun b => b.refused = [] ∧ b.failing = [] ∧ b.capacity = capacity) capacity
      ScriptedBackend.inUse ScriptedResource.bytes where
  toTallies := tallies_inUse
  allocate_ok {b r} hb := by
    simp only [Backend.allocate, allocate]
    split <;> exact hb
  release_ok hb := hb
  release_le _ := Nat.sub_le ..
  not_fits {b r err} hb h := by
    obtain ⟨hrefused, hfailing, hcapacity⟩ := hb
    simp only [Backend.allocate, allocate, refusal?, hrefused, hfailing, List.not_mem_nil, if_false,
      hcapacity] at h
    cases capacity with
    | none => simp at h
    | some c =>
      refine ⟨c, rfl, ?_⟩
      by_contra hn
      simp [hn] at h
  fits {b r resource} hb h c hc := by
    obtain ⟨hrefused, hfailing, hcapacity⟩ := hb
    simp only [Backend.allocate, allocate, refusal?, hrefused, hfailing, List.not_mem_nil, if_false,
      hcapacity, hc] at h
    by_contra hn
    simp [Nat.lt_of_not_le hn] at h
  bytes_eq {b r resource} hb h := by
    simp only [Backend.allocate, allocate] at h
    split at h
    · cases h
    · cases h
      rfl

/-! ### The steps of a call -/

theorem Ledger.lt_of_credit_error {l l' : Ledger} {a : Account} {bytes : Nat} {err : LedgerError}
    (h : l.credit a bytes = (.error err, l')) : maxWord < l.current a + bytes := by
  by_contra hn
  rw [credit_of_le (Nat.le_of_not_lt hn)] at h
  cases h

theorem Engine.Does.refusesRightly {e e' : Engine β} {call : Call ρ} {s : Stage ρ} {done ds : List (Deed ρ)}
    (h : e.Does s e' ds) (hs : Course e.nature call s done) : e.ledger.RefusesRightly ds := by
  cases h with
  | @overdrawn r resource err ledger hc =>
    refine ⟨?_, fun _ _ => trivial⟩
    rintro p ⟨⟩
    exact ⟨_, rfl, Ledger.lt_of_credit_error hc⟩
  | unenrolled hc =>
    refine ⟨?_, fun _ _ => trivial⟩
    rintro p ⟨⟩
    cases hs with
    | enrolling ha hp he => exact ⟨.imported, by rw [hp]; rfl, Ledger.lt_of_credit_error hc⟩
  | opened | placed | uncounted _ | undebited _ _ | traced | surveyed | closed => trivial
  | _ => exact ⟨fun _ hp => (by cases hp), fun _ _ => trivial⟩

/-- A step of a call is refused bytes only for want of room. -/
theorem Engine.refusesRightly_advance (thread : ThreadId) {e : Engine β} (c : Commons) {call : Call ρ}
    {s : Stage ρ} {done : List (Deed ρ)} (h : Course e.nature call s done) :
    e.ledger.RefusesRightly (e.advance thread c s).deeds := by
  rw [← Ledger.refusesRightly_effects]
  exact (e.does_advance thread c s).refusesRightly h

end DeviceMemory
