import DeviceMemory.Backtrace
import DeviceMemory.Layout
import DeviceMemory.Placement

/-!
# The usage ledger

A ledger counts bytes in use, in one account per placement and one more for
imported memory. An account comes into being with its first credit; from then on
it holds the bytes in use and the most that ever were. Both are machine words, so
a credit that would exceed the greatest word is refused, and so is a debit of more
than is in use or from an account that has never been credited. A refusal of a
machine word changes nothing (`Ledger.credit_of_lt`, `Ledger.debit_of_lt`).

Only accounts that exist are listed (`snapshot`), in the order of their names.
-/

namespace DeviceMemory

/-- What an account of the ledger counts. -/
inductive Account
  /-- Memory allocated with a placement. -/
  | allocated (placement : Placement)
  /-- Memory owned by others and imported. -/
  | imported
  deriving DecidableEq, Repr

namespace Account

/-- The name of the account in statistics. -/
def name : Account → String
  | allocated p => p.name
  | imported => "imported"

/-- Every account, in the order of the names. -/
def byName : List Account :=
  [.allocated .image, .imported, .allocated .plainBuffer, .allocated .unifiedDevice,
    .allocated .unifiedHost, .allocated .unifiedShared]

theorem mem_byName (a : Account) : a ∈ byName := by
  cases a with
  | allocated p => cases p <;> decide
  | imported => decide

/-- The account of a given name. -/
def ofName? (s : String) : Option Account := byName.find? (·.name == s)

end Account

/-- The contents of an account. -/
structure Balance where
  /-- Bytes in use. -/
  current : Nat
  /-- The most bytes that were ever in use at once. -/
  peak : Nat
  deriving DecidableEq, Repr, Inhabited

/-- Why the ledger refuses an operation. -/
inductive LedgerError
  /-- A debit from an account that was never credited. -/
  | untracked (account : Account)
  /-- A debit of more bytes than are in use. -/
  | underflow (account : Account) (requested current : Nat)
  /-- A credit beyond the greatest machine word. -/
  | overflow (account : Account) (requested current : Nat)
  deriving DecidableEq, Repr

namespace LedgerError

/-- The message for the caller. -/
def message (trace : Backtrace) : LedgerError → String
  | untracked account => "Attempt to free unallocated memory of kind " ++ account.name ++ trace.closing
  | underflow account requested current =>
    "Attempt to free " ++ toString requested ++ " bytes of kind " ++ account.name ++ " while only " ++
      toString current ++ " bytes are in use" ++ trace.closing
  | overflow account requested current =>
    "Attempt to account " ++ toString requested ++ " more bytes of kind " ++ account.name ++
      " on top of " ++ toString current ++ " bytes in use" ++ trace.closing

end LedgerError

/-- The accounts of a ledger; one that was never credited is absent. -/
structure Ledger where
  /-- Unified memory on the device. -/
  unifiedDevice : Option Balance := none
  /-- Unified memory on the host. -/
  unifiedHost : Option Balance := none
  /-- Coherent unified memory. -/
  unifiedShared : Option Balance := none
  /-- Plain device buffers. -/
  plainBuffer : Option Balance := none
  /-- Images. -/
  image : Option Balance := none
  /-- Imported memory. -/
  imported : Option Balance := none
  deriving DecidableEq, Repr

namespace Ledger

/-- A ledger without any account. -/
def empty : Ledger := {}

/-- The account `a`, if it exists. -/
def get? (l : Ledger) : Account → Option Balance
  | .allocated .unifiedDevice => l.unifiedDevice
  | .allocated .unifiedHost => l.unifiedHost
  | .allocated .unifiedShared => l.unifiedShared
  | .allocated .plainBuffer => l.plainBuffer
  | .allocated .image => l.image
  | .imported => l.imported

/-- The ledger with the contents of account `a` replaced. -/
def set (l : Ledger) (b : Balance) : Account → Ledger
  | .allocated .unifiedDevice => { l with unifiedDevice := some b }
  | .allocated .unifiedHost => { l with unifiedHost := some b }
  | .allocated .unifiedShared => { l with unifiedShared := some b }
  | .allocated .plainBuffer => { l with plainBuffer := some b }
  | .allocated .image => { l with image := some b }
  | .imported => { l with imported := some b }

@[simp] theorem get?_empty (a : Account) : empty.get? a = none := by
  cases a with
  | allocated p => cases p <;> rfl
  | imported => rfl

@[simp] theorem get?_set (l : Ledger) (b : Balance) (a k : Account) :
    (l.set b a).get? k = if k = a then some b else l.get? k := by
  cases a with
  | allocated p => cases p <;> cases k with
    | allocated q => cases q <;> simp [set, get?]
    | imported => simp [set, get?]
  | imported => cases k with
    | allocated q => cases q <;> simp [set, get?]
    | imported => simp [set, get?]

/-- Ledgers with the same accounts are the same. -/
theorem ext_get? {l m : Ledger} (h : ∀ a, l.get? a = m.get? a) : l = m := by
  have h1 := h (.allocated .unifiedDevice)
  have h2 := h (.allocated .unifiedHost)
  have h3 := h (.allocated .unifiedShared)
  have h4 := h (.allocated .plainBuffer)
  have h5 := h (.allocated .image)
  have h6 := h .imported
  cases l
  cases m
  simp_all [get?]

/-! ### Reading -/

/-- The contents of an account, zero if it does not exist. -/
def balance (l : Ledger) (a : Account) : Balance := (l.get? a).getD ⟨0, 0⟩

/-- Bytes in use in an account. -/
def current (l : Ledger) (a : Account) : Nat := (l.balance a).current

/-- The most bytes ever in use at once in an account. -/
def peak (l : Ledger) (a : Account) : Nat := (l.balance a).peak

theorem current_of_get? {l : Ledger} {a : Account} {b : Balance} (h : l.get? a = some b) :
    l.current a = b.current := by
  simp [current, balance, h]

theorem peak_of_get? {l : Ledger} {a : Account} {b : Balance} (h : l.get? a = some b) : l.peak a = b.peak := by
  simp [peak, balance, h]

@[simp] theorem current_set (l : Ledger) (b : Balance) (a k : Account) :
    (l.set b a).current k = if k = a then b.current else l.current k := by
  by_cases h : k = a <;> simp [current, balance, h]

@[simp] theorem peak_set (l : Ledger) (b : Balance) (a k : Account) :
    (l.set b a).peak k = if k = a then b.peak else l.peak k := by
  by_cases h : k = a <;> simp [peak, balance, h]

/-- A sum of machine words, held at the greatest word. -/
def addSaturating (a b : Nat) : Nat := min (a + b) maxWord

/-- The sum of the peaks of every placement, held at the greatest word. Imported memory is
not owned and is left out. -/
def peakTotal (l : Ledger) : Nat :=
  Placement.all.foldl (fun total p => addSaturating total (l.peak (.allocated p))) 0

/-- Bytes in use per existing account, in the order of the names. -/
def snapshot (l : Ledger) : List (Account × Nat) :=
  Account.byName.filterMap fun a => (l.get? a).map fun b => (a, b.current)

/-! ### Writing -/

/-- The ledger with account `a` in existence; it is empty if it did not exist before. -/
def ensure (l : Ledger) (a : Account) : Ledger := l.set (l.balance a) a

/-- Enters `bytes` more in use in account `a`, which comes into existence before the sum is
checked. -/
def credit (l : Ledger) (a : Account) (bytes : Nat) : Except LedgerError Unit × Ledger :=
  let l := l.ensure a
  let b := l.balance a
  if b.current + bytes ≤ maxWord then
    (.ok (), l.set ⟨b.current + bytes, max b.peak (b.current + bytes)⟩ a)
  else (.error (.overflow a bytes b.current), l)

/-- Enters `bytes` less in use in account `a`. -/
def debit (l : Ledger) (a : Account) (bytes : Nat) : Except LedgerError Unit × Ledger :=
  match l.get? a with
  | none => (.error (.untracked a), l)
  | some b =>
    if b.current < bytes then (.error (.underflow a bytes b.current), l)
    else (.ok (), l.set ⟨b.current - bytes, b.peak⟩ a)

theorem set_set (l : Ledger) (b b' : Balance) (a : Account) : (l.set b a).set b' a = l.set b' a := by
  apply ext_get?
  intro k
  by_cases h : k = a <;> simp [h]

/-- An account that exists is not changed by bringing it into existence. -/
theorem ensure_of_get? {l : Ledger} {a : Account} {b : Balance} (h : l.get? a = some b) : l.ensure a = l := by
  apply ext_get?
  intro k
  by_cases hk : k = a
  · simp [ensure, balance, hk, h]
  · simp [ensure, hk]

@[simp] theorem balance_ensure (l : Ledger) (a : Account) : (l.ensure a).balance a = l.balance a := by
  simp [ensure, balance]

/-- A credit that fits is entered. -/
theorem credit_of_le {l : Ledger} {a : Account} {bytes : Nat} (h : l.current a + bytes ≤ maxWord) :
    l.credit a bytes =
      (.ok (), l.set ⟨l.current a + bytes, max (l.peak a) (l.current a + bytes)⟩ a) := by
  simp only [current] at h
  simp only [credit, balance_ensure, h, if_true]
  rw [ensure, set_set]
  rfl

/-- A credit of a machine word that does not fit is refused and changes nothing: the sum can only
be too large in an account that exists. -/
theorem credit_of_lt {l : Ledger} {a : Account} {bytes : Nat} (hb : bytes ≤ maxWord)
    (h : maxWord < l.current a + bytes) :
    l.credit a bytes = (.error (.overflow a bytes (l.current a)), l) := by
  cases hg : l.get? a with
  | none =>
    simp only [current, balance, hg, Option.getD_none] at h
    omega
  | some b =>
    have hn : ¬ (l.balance a).current + bytes ≤ maxWord := by simpa [current] using h
    simp only [credit, balance_ensure, hn, if_false]
    rw [ensure_of_get? hg]
    rfl

/-- A debit from an account that does not exist is refused. -/
theorem debit_of_none {l : Ledger} {a : Account} (bytes : Nat) (h : l.get? a = none) :
    l.debit a bytes = (.error (.untracked a), l) := by
  simp [debit, h]

/-- A debit of more than is in use is refused. -/
theorem debit_of_lt {l : Ledger} {a : Account} {bytes : Nat} {b : Balance} (hg : l.get? a = some b)
    (h : l.current a < bytes) : l.debit a bytes = (.error (.underflow a bytes (l.current a)), l) := by
  have hc : l.current a = b.current := current_of_get? hg
  rw [hc] at h ⊢
  simp [debit, hg, h]

/-- A debit of what is in use is entered. -/
theorem debit_of_le {l : Ledger} {a : Account} {bytes : Nat} {b : Balance} (hg : l.get? a = some b)
    (h : bytes ≤ l.current a) :
    l.debit a bytes = (.ok (), l.set ⟨l.current a - bytes, l.peak a⟩ a) := by
  have hc : l.current a = b.current := current_of_get? hg
  have hp : l.peak a = b.peak := peak_of_get? hg
  rw [hc] at h
  rw [hc, hp]
  simp [debit, hg, Nat.not_lt.mpr h]

end Ledger

/-! ### Histories -/

/-- An operation on a ledger; the bytes are a machine word. -/
inductive Movement
  /-- Bytes come into use. -/
  | credit (account : Account) (bytes : UInt64)
  /-- Bytes go out of use. -/
  | debit (account : Account) (bytes : UInt64)
  deriving DecidableEq, Repr

namespace Ledger

/-- Performs an operation, which may be refused. -/
def perform (l : Ledger) : Movement → Except LedgerError Unit × Ledger
  | .credit a bytes => l.credit a bytes.toNat
  | .debit a bytes => l.debit a bytes.toNat

/-- The ledger after an operation. -/
def after (l : Ledger) (m : Movement) : Ledger := (l.perform m).2

/-- Why an operation is refused, if it is. -/
def refusal? (l : Ledger) (m : Movement) : Option LedgerError :=
  match (l.perform m).1 with
  | .ok _ => none
  | .error e => some e

/-- The ledger after operations of which some may be refused. -/
def replay (l : Ledger) (ms : List Movement) : Ledger := ms.foldl after l

/-- For each operation of a history, the refusal if there is one, and the ledger after it. -/
def statements (l : Ledger) : List Movement → List (Option LedgerError × Ledger)
  | [] => []
  | m :: rest => (l.refusal? m, l.after m) :: statements (l.after m) rest

end Ledger

end DeviceMemory
