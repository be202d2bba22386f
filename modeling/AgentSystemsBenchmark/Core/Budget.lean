import AgentSystemsBenchmark.Library.Accounts
import AgentSystemsBenchmark.Library.Effects
import AgentSystemsBenchmark.Library.Numerals
import AgentSystemsBenchmark.Library.Runs

/-!
# Execution budgets

A ledger holds a budget in seven dimensions. A call reserves its worst case
before it has effects and is settled afterwards with the usage it can prove;
what it provably did not use flows back. The operations are state-and-exception
steps: an early return keeps what the method had already written.

A closed map over the dimensions is a function on them; the map of active
reservations is a finite map, equal to another exactly when their entries are.
-/

namespace AgentSystemsBenchmark.Budget

open Accounts Effects Numerals List

def maxBudgetRevisionBytes : Nat := 4096

inductive BudgetDimension where
  | wallTime | actions | uncachedInputTokens | cachedInputTokens | outputTokens
  | reasoningTokens | cost
  deriving DecidableEq, Repr

def BudgetDimension.all : List BudgetDimension :=
  [wallTime, actions, uncachedInputTokens, cachedInputTokens, outputTokens, reasoningTokens, cost]

theorem BudgetDimension.mem_all (dimension : BudgetDimension) : dimension ∈ all := by
  cases dimension <;> decide

theorem BudgetDimension.nodup_all : all.Nodup := by decide

inductive Enforcement where
  | enforced | observedOnly | unavailable
  deriving DecidableEq, Repr

inductive BudgetError where
  | invalidBudget
  | incompleteCapabilities
  | notEnforceable (dimension : BudgetDimension)
  | exhausted
  | unknownReservation
  | reservationExceeded (dimension : BudgetDimension)
  | overflow
  | invalidEvidence
  deriving DecidableEq, Repr

section ClosedMaps
variable {α : Type}

/-- The map an iterator of pairs is collected into: a later pair replaces an earlier one. -/
def collect (values : List (BudgetDimension × α)) : Finmap fun _ : BudgetDimension => α :=
  values.foldl (fun m entry => m.insert entry.1 entry.2) ∅

/-- Some dimension is missing, or holds a value that is not accepted. -/
def incomplete (values : List (BudgetDimension × α)) (accepted : α → Bool) : Bool :=
  (collect values).keys.card != BudgetDimension.all.length ||
    BudgetDimension.all.any fun d => !((collect values).lookup d).any accepted

end ClosedMaps

structure BudgetCapabilities where
  get : BudgetDimension → Enforcement

def BudgetCapabilities.new (values : List (BudgetDimension × Enforcement)) :
    Except BudgetError BudgetCapabilities :=
  if incomplete values fun _ => true then .error .incompleteCapabilities
  else .ok ⟨fun d => ((collect values).lookup d).getD .unavailable⟩

/-- Conservative declaration for an adapter that proves nothing. -/
def BudgetCapabilities.opaqueAdapter : BudgetCapabilities := ⟨fun _ => .unavailable⟩

inductive UnavailableReason where
  | unsupported | missingTelemetry | invalidTelemetry
  deriving DecidableEq, Repr

inductive EvidenceKind where
  | measured | estimated
  deriving DecidableEq, Repr

def isAsciiAlphanumeric (byte : UInt8) : Bool :=
  48 ≤ byte && byte ≤ 57 || 65 ≤ byte && byte ≤ 90 || 97 ≤ byte && byte ≤ 122

def token (value : String) : Bool :=
  value.utf8ByteSize != 0 && value.utf8ByteSize ≤ maxBudgetRevisionBytes &&
    (bytes value).all fun byte => isAsciiAlphanumeric byte || byte == 45 || byte == 95 || byte == 46

def validCurrency (value : String) : Bool :=
  value.utf8ByteSize == 3 && (bytes value).all fun byte => 65 ≤ byte && byte ≤ 90

/-- An inclusive interval, with the revision of the estimator when it is an estimate. -/
structure QuantityEvidence where
  lower : UInt64
  upper : UInt64
  kind : EvidenceKind
  basisRevision : Option String
  ordered : lower ≤ upper
  revised : kind = .estimated ↔ basisRevision.isSome

def QuantityEvidence.measured (value : UInt64) : QuantityEvidence :=
  ⟨value, value, .measured, none, UInt64.le_refl value, by decide⟩

def QuantityEvidence.estimated (lower upper : UInt64) (revision : String) :
    Except BudgetError QuantityEvidence :=
  if ordered : lower ≤ upper then
    if token revision then .ok ⟨lower, upper, .estimated, some revision, ordered, by simp⟩
    else .error .invalidEvidence
  else .error .invalidEvidence

inductive UsageEvidence where
  | available (quantity : QuantityEvidence)
  | unavailable (reason : UnavailableReason)

def UsageEvidence.upper : UsageEvidence → Option UInt64
  | available quantity => some quantity.upper
  | unavailable _ => none

def UsageEvidence.isAvailable : UsageEvidence → Bool
  | available _ => true
  | unavailable _ => false

structure TokenUsage where
  uncachedInput : UsageEvidence
  cachedInput : UsageEvidence
  output : UsageEvidence
  reasoning : UsageEvidence

structure NormalizedUsage where
  tokens : TokenUsage
  actions : UsageEvidence
  wallTimeNs : UsageEvidence
  costMicros : UsageEvidence
  currency : Option String
  priceTableRevision : Option String

/-- A cost comes with its currency and price table, and neither comes without a cost. -/
def NormalizedUsage.validate (usage : NormalizedUsage) : Except BudgetError Unit :=
  let available := usage.costMicros.isAvailable
  if available != usage.currency.any validCurrency ||
      available != usage.priceTableRevision.any token then
    .error .invalidEvidence
  else .ok ()

def NormalizedUsage.upper (usage : NormalizedUsage) : BudgetDimension → Option UInt64
  | .wallTime => usage.wallTimeNs.upper
  | .actions => usage.actions.upper
  | .uncachedInputTokens => usage.tokens.uncachedInput.upper
  | .cachedInputTokens => usage.tokens.cachedInput.upper
  | .outputTokens => usage.tokens.output.upper
  | .reasoningTokens => usage.tokens.reasoning.upper
  | .cost => usage.costMicros.upper

structure BudgetAmounts where
  get : BudgetDimension → UInt64

def BudgetAmounts.new (values : List (BudgetDimension × UInt64)) :
    Except BudgetError BudgetAmounts :=
  if incomplete values (· != 0) then .error .invalidBudget
  else .ok ⟨fun d => ((collect values).lookup d).getD 0⟩

def BudgetAmounts.set (amounts : BudgetAmounts) (dimension : BudgetDimension) (value : UInt64) :
    BudgetAmounts :=
  ⟨fun d => if d = dimension then value else amounts.get d⟩

structure Reservation where
  id : UInt64
  deriving DecidableEq, Repr

structure BudgetLedger where
  remaining : BudgetAmounts
  capabilities : BudgetCapabilities
  active : Finmap fun _ : UInt64 => BudgetAmounts
  nextId : UInt64

def BudgetLedger.new (budget : BudgetAmounts) (capabilities : BudgetCapabilities) :
    Except BudgetError BudgetLedger :=
  match BudgetDimension.all.find? fun d => capabilities.get d != .enforced with
  | some dimension => .error (.notEnforceable dimension)
  | none => .ok ⟨budget, capabilities, ∅, 0⟩

/-- A step on the ledger; a failed one keeps what it had written. -/
abbrev LedgerM := EStateM BudgetError BudgetLedger

def okOr {α : Type} (value : Option α) (e : BudgetError) : LedgerM α :=
  match value with
  | some a => pure a
  | none => throw e

/-- Change the remaining amount of each dimension in turn, stopping at the first that does not
fit. -/
def adjustRemaining (change : UInt64 → UInt64 → Option UInt64) (by' : BudgetDimension → UInt64) :
    List BudgetDimension → LedgerM Unit
  | [] => pure ()
  | d :: rest => do
    let ledger ← get
    let value ← okOr (change (ledger.remaining.get d) (by' d)) .overflow
    set { ledger with remaining := ledger.remaining.set d value }
    adjustRemaining change by' rest

/-- Deduct a complete worst case before a provider call. -/
def reserve (requested : BudgetAmounts) : LedgerM Reservation := do
  let ledger ← get
  if BudgetDimension.all.any fun d => ledger.remaining.get d < requested.get d then
    throw .exhausted
  else
    let id := ledger.nextId
    let nextId ← okOr (checkedAdd ledger.nextId 1) .overflow
    set { ledger with nextId := nextId }
    adjustRemaining checkedSub requested.get BudgetDimension.all
    modify fun ledger => { ledger with active := ledger.active.insert id requested }
    pure ⟨id⟩

/-- What a settled call is charged: the proven upper bound, or all that was reserved. -/
def consumed (reserved : BudgetAmounts) (usage : NormalizedUsage) (d : BudgetDimension) : UInt64 :=
  (usage.upper d).getD (reserved.get d)

/-- Settle a reservation and refund what the usage proves unused. -/
def settle (reservation : Reservation) (usage : NormalizedUsage) : LedgerM Unit := do
  match usage.validate with
  | .error e => throw e
  | .ok () =>
    let ledger ← get
    let reserved ← okOr (ledger.active.lookup reservation.id) .unknownReservation
    set { ledger with active := ledger.active.erase reservation.id }
    match BudgetDimension.all.find? fun d => reserved.get d < consumed reserved usage d with
    | some dimension =>
      modify fun ledger => { ledger with active := ledger.active.insert reservation.id reserved }
      throw (.reservationExceeded dimension)
    | none =>
      adjustRemaining checkedAdd (fun d => reserved.get d - consumed reserved usage d)
        BudgetDimension.all

section Steps

@[simp] theorem wp_okOr {α : Type} (value : Option α) (e : BudgetError)
    (Q : α → BudgetLedger → Prop)
    (E : BudgetError → BudgetLedger → Prop) (ledger : BudgetLedger) :
    wp (okOr value e) Q E ledger ↔ (∀ a, value = some a → Q a ledger) ∧
      (value = none → E e ledger) := by
  cases value with
  | some | none => simp [okOr]

variable {ledger : BudgetLedger} {change : UInt64 → UInt64 → Option UInt64}

variable {E : BudgetError → BudgetLedger → Prop} {value : BudgetDimension → UInt64}

variable {Q : Unit → BudgetLedger → Prop} {by' : BudgetDimension → UInt64}

theorem adjustRemaining_wp (distinct : dims.Nodup)
    (fits : ∀ d ∈ dims, change (ledger.remaining.get d) (by' d) = some (value d))
    (after : Q () { ledger with
      remaining := ⟨fun d => if d ∈ dims then value d else ledger.remaining.get d⟩ }) :
    wp (adjustRemaining change by' dims) Q E ledger := by
  induction dims generalizing ledger with
  | nil => simpa [adjustRemaining] using after
  | cons d rest ih =>
    obtain ⟨fresh, distinct⟩ := nodup_cons.mp distinct
    obtain ⟨first, later⟩ := forall_mem_cons.mp fits
    simp only [adjustRemaining, wp_bind, wp_get, wp_okOr, wp_set, first, Option.some.injEq,
      reduceCtorEq, false_implies, and_true, forall_eq']
    apply ih distinct
    · -- The step at `d` leaves the amounts of the later dimensions as they were.
      intro d' among
      have other : d' ≠ d := fun same => fresh (same ▸ among)
      simpa [BudgetAmounts.set, other] using later d' among
    · convert after using 4 with d'
      by_cases same : d' = d
      · subst same
        simp [BudgetAmounts.set, fresh]
      · simp [BudgetAmounts.set, same]

/-- When every dimension fits, each of them is changed. -/
theorem adjustRemaining_all (fits : ∀ d, change (ledger.remaining.get d) (by' d) = some (value d))
    (after : Q () { ledger with remaining := ⟨value⟩ }) :
    wp (adjustRemaining change by' BudgetDimension.all) Q E ledger := by
  apply adjustRemaining_wp BudgetDimension.nodup_all fun d _ => fits d
  simpa [BudgetDimension.mem_all] using after

/-- The effect of an admitted reservation. -/
structure Reserved (requested : BudgetAmounts) (before after : BudgetLedger) : Prop where
  counted : after.nextId.toNat = before.nextId.toNat + 1
  entered : after.active = before.active.insert before.nextId requested
  deducted : ∀ d, (after.remaining.get d).toNat + (requested.get d).toNat =
    (before.remaining.get d).toNat

/-- A reservation is admitted as a whole or changes nothing. -/
theorem reserve_spec (requested : BudgetAmounts) (ledger : BudgetLedger) :
    wp (reserve requested)
      (fun reservation after => reservation.id = ledger.nextId ∧ Reserved requested ledger after)
      (fun _ after => after = ledger) ledger := by
  simp only [reserve, wp_bind, wp_get, wp_ite, wp_throw, wp_okOr, wp_set, wp_modify, wp_pure]
  refine ⟨fun _ => trivial, fun enough => ⟨?_, fun _ => trivial⟩⟩
  intro nextId next
  have within : ∀ d, requested.get d ≤ ledger.remaining.get d := by
    intro d
    by_contra exceeds
    apply enough
    rw [any_eq_true]
    exact ⟨d, d.mem_all, by simpa using exceeds⟩
  refine adjustRemaining_all (fun d => checkedSub_eq_some (within d)) ?_
  exact ⟨trivial, toNat_of_checkedAdd next, rfl, fun d => toNat_sub_add (within d)⟩

/-- The effect of an accepted settlement. -/
structure Settled (reservation : Reservation) (usage : NormalizedUsage)
    (before after : BudgetLedger) : Prop where
  counted : after.nextId = before.nextId
  released : after.active = before.active.erase reservation.id
  refunded : ∃ reserved, before.active.lookup reservation.id = some reserved ∧
    ∀ d, (after.remaining.get d).toNat + (consumed reserved usage d).toNat =
      (before.remaining.get d).toNat + (reserved.get d).toNat

/-- What is left and one active reservation fit a machine word together. -/
def Covered (ledger : BudgetLedger) : Prop :=
  ∀ id reserved, ledger.active.lookup id = some reserved →
    ∀ d, (ledger.remaining.get d).toNat + (reserved.get d).toNat < 2 ^ 64

/-- A settlement is accepted as a whole or changes nothing, and the refund never overflows. -/
theorem settle_spec (reservation : Reservation) (usage : NormalizedUsage)
    (covered : Covered ledger) :
    wp (settle reservation usage) (fun _ after => Settled reservation usage ledger after)
      (fun e after => after = ledger ∧ e ≠ .overflow) ledger := by
  rw [settle]
  cases valid : usage.validate with
  | error e =>
    refine ⟨rfl, ?_⟩
    rintro rfl
    simp only [NormalizedUsage.validate] at valid
    split at valid <;> cases valid
  | ok =>
    simp only [wp_bind, wp_get, wp_okOr, wp_set]
    refine ⟨?_, fun _ => ⟨trivial, by rintro ⟨⟩⟩⟩
    intro reserved found
    cases exceeds : BudgetDimension.all.find? fun d =>
      reserved.get d < consumed reserved usage d with
    | some dimension =>
      simp only [wp_bind, wp_modify, wp_throw]
      exact ⟨by rw [insert_erase found], by rintro ⟨⟩⟩
    | none =>
      have within : ∀ d, consumed reserved usage d ≤ reserved.get d := by
        intro d
        simpa using find?_eq_none.mp exceeds d d.mem_all
      have fits : ∀ d, (ledger.remaining.get d).toNat +
          (reserved.get d - consumed reserved usage d).toNat < 2 ^ 64 := by
        intro d
        have sum := covered reservation.id reserved found d
        have refund := toNat_sub_add (within d)
        omega
      refine adjustRemaining_all (fun d => checkedAdd_eq_some (fits d)) ?_
      refine ⟨rfl, rfl, reserved, found, fun d => ?_⟩
      have refund := toNat_sub_add (within d)
      have exact_sum := toNat_add_of_fits (fits d)
      simp only
      omega

end Steps

/-! ## The books of a whole run -/

/-- A call on the ledger. A reservation may be a copy, settled before, or of another ledger. -/
inductive LedgerCall where
  | reserve (requested : BudgetAmounts)
  | settle (reservation : Reservation) (usage : NormalizedUsage)

/-- A ledger with what its successful settlements have charged and which ids they named. -/
structure Books where
  ledger : BudgetLedger
  charged : BudgetDimension → Nat
  settled : List UInt64

def Books.opened (ledger : BudgetLedger) : Books := ⟨ledger, fun _ => 0, []⟩

/-- What a successful settlement charges. -/
def charge (ledger : BudgetLedger) (reservation : Reservation) (usage : NormalizedUsage)
    (d : BudgetDimension) : Nat :=
  match ledger.active.lookup reservation.id with
  | some reserved => (consumed reserved usage d).toNat
  | none => 0

def Books.step (books : Books) : LedgerCall → Books
  | .reserve requested =>
    match reserve requested books.ledger with
    | .ok _ after => { books with ledger := after }
    | .error _ after => { books with ledger := after }
  | .settle reservation usage =>
    match settle reservation usage books.ledger with
    | .ok _ after =>
      ⟨after, fun d => books.charged d + charge books.ledger reservation usage d,
        books.settled ++ [reservation.id]⟩
    | .error _ after => { books with ledger := after }

/-- Nothing is lost and nothing is made: what is left, what is reserved and what was charged make
up the budget, and an id that was settled stays behind the counter. -/
structure Balanced (budget : BudgetAmounts) (books : Books) : Prop where
  conserved : ∀ d, (books.ledger.remaining.get d).toNat +
    total (fun reserved => (reserved.get d).toNat) books.ledger.active + books.charged d =
      (budget.get d).toNat
  issued : ∀ id ∈ books.ledger.active, id.toNat < books.ledger.nextId.toNat
  spent : ∀ id ∈ books.settled, id.toNat < books.ledger.nextId.toNat ∧ id ∉ books.ledger.active
  once : books.settled.Nodup

theorem Balanced.opened (budget : BudgetAmounts) (capabilities : BudgetCapabilities) :
    Balanced budget (.opened ⟨budget, capabilities, ∅, 0⟩) where
  conserved d := by simp [Books.opened]
  issued id h := absurd h Finmap.notMem_empty
  spent id h := absurd h not_mem_nil
  once := nodup_nil

section Balance
variable {budget : BudgetAmounts} {books : Books}

section
variable (balanced : Balanced budget books)
include balanced

theorem Balanced.covered : Covered books.ledger := by
  intro id reserved found d
  have split := total_erase (fun reserved : BudgetAmounts => (reserved.get d).toNat) found
  have whole := balanced.conserved d
  have bound := (budget.get d).toNat_lt
  omega

theorem Balanced.reserved {after : BudgetLedger} (h : Reserved requested books.ledger after) :
    Balanced budget { books with ledger := after } := by
  have fresh : books.ledger.nextId ∉ books.ledger.active := fun held =>
    Nat.lt_irrefl _ (balanced.issued _ held)
  constructor
  · intro d
    have whole := balanced.conserved d
    have moved := h.deducted d
    rw [h.entered, total_insert _ requested fresh]
    simp only
    omega
  · intro id held
    rw [h.entered, Finmap.mem_insert] at held
    rw [h.counted]
    rcases held with rfl | held
    · omega
    · exact Nat.lt_succ_of_lt (balanced.issued id held)
  · intro id done
    obtain ⟨below, gone⟩ := balanced.spent id done
    rw [h.counted, h.entered, Finmap.mem_insert]
    refine ⟨Nat.lt_succ_of_lt below, ?_⟩
    rintro (rfl | held)
    · exact Nat.lt_irrefl _ below
    · exact gone held
  · exact balanced.once

theorem Balanced.settled {reservation : Reservation} {after : BudgetLedger}
    (h : Settled reservation usage books.ledger after) :
    Balanced budget ⟨after, fun d => books.charged d + charge books.ledger reservation usage d,
      books.settled ++ [reservation.id]⟩ := by
  obtain ⟨reserved, found, refunded⟩ := h.refunded
  have held : reservation.id ∈ books.ledger.active := Finmap.mem_of_lookup_eq_some found
  constructor
  · intro d
    have whole := balanced.conserved d
    have split := total_erase (fun reserved : BudgetAmounts => (reserved.get d).toNat) found
    have moved := refunded d
    simp only [charge, found, h.released]
    omega
  · intro id kept
    rw [h.released, Finmap.mem_erase] at kept
    rw [h.counted]
    exact balanced.issued id kept.2
  · intro id done
    rw [h.counted, h.released, Finmap.mem_erase]
    rcases mem_append.mp done with done | done
    · obtain ⟨below, gone⟩ := balanced.spent id done
      exact ⟨below, fun kept => gone kept.2⟩
    · obtain rfl := mem_singleton.mp done
      exact ⟨balanced.issued _ held, fun kept => kept.1 rfl⟩
  · rw [nodup_append]
    refine ⟨balanced.once, nodup_singleton _, ?_⟩
    intro id done other last same
    rw [same, mem_singleton.mp last] at done
    exact (balanced.spent reservation.id done).2 held

theorem Balanced.step (call : LedgerCall) :
    Balanced budget (books.step call) := by
  cases call with
  | reserve requested =>
    have spec := reserve_spec requested books.ledger
    rw [Books.step]
    cases result : reserve requested books.ledger with
    | ok reservation after => exact balanced.reserved (wp_ok spec result).2
    | error e after =>
      obtain rfl := wp_error spec result
      exact balanced
  | settle reservation usage =>
    have spec := settle_spec reservation usage balanced.covered
    rw [Books.step]
    cases result : settle reservation usage books.ledger with
    | ok _ after =>
      have effect := wp_ok spec result
      exact balanced.settled effect
    | error e after =>
      obtain ⟨rfl, -⟩ := wp_error spec result
      exact balanced

end

end Balance

theorem Balanced.run (created : BudgetLedger.new budget capabilities = .ok ledger)
    (calls : List LedgerCall) : Balanced budget (calls.foldl Books.step (.opened ledger)) := by
  have start : Balanced budget (.opened ledger) := by
    rw [BudgetLedger.new] at created
    split at created
    · cases created
    · cases created
      exact .opened budget capabilities
  exact (Runs.Run.foldl Books.step _ calls).invariant
    (fun books call after balanced moved => moved ▸ balanced.step call) start

/-- Along every sequence of calls the budget is conserved in each dimension, no settlement
overflows or succeeds twice for one reservation, and a refused call changes nothing. -/
theorem budget_conserved {budget : BudgetAmounts} {capabilities : BudgetCapabilities}
    {ledger : BudgetLedger} (created : BudgetLedger.new budget capabilities = .ok ledger)
    (calls : List LedgerCall) :
    let books := calls.foldl Books.step (.opened ledger)
    (∀ d, (books.ledger.remaining.get d).toNat +
        total (fun reserved => (reserved.get d).toNat) books.ledger.active + books.charged d =
          (budget.get d).toNat) ∧
      (∀ d, books.charged d ≤ (budget.get d).toNat) ∧
      (∀ reservation usage after,
        settle reservation usage books.ledger ≠ .error .overflow after) ∧
      books.settled.Nodup ∧
      (∀ requested e after, reserve requested books.ledger = .error e after →
        after = books.ledger) ∧
      ∀ reservation usage e after, settle reservation usage books.ledger = .error e after →
        after = books.ledger := by
  intro books
  have balanced : Balanced budget books := .run created calls
  have settling := fun reservation usage => settle_spec reservation usage balanced.covered
  refine ⟨balanced.conserved, ?_, ?_, balanced.once, ?_, ?_⟩
  · intro d
    have whole := balanced.conserved d
    omega
  · intro reservation usage after failed
    exact (wp_error (settling reservation usage) failed).2 rfl
  · intro requested e after failed
    have kept := wp_error (reserve_spec requested books.ledger) failed
    exact kept
  · intro reservation usage e after failed
    exact (wp_error (settling reservation usage) failed).1

section Sample

def sampleAmounts (value : UInt64) : BudgetAmounts := ⟨fun _ => value⟩

def sampleUsage (value : UInt64) : NormalizedUsage :=
  let evidence := .available (.measured value)
  ⟨⟨evidence, evidence, evidence, evidence⟩, evidence, evidence, evidence, some "USD",
    some "prices-2026-09-08"⟩

/-- Two reservations; one is settled twice, and an id of another ledger is refused. -/
def sampleCalls : List LedgerCall :=
  [.reserve (sampleAmounts 6), .reserve (sampleAmounts 3), .settle ⟨0⟩ (sampleUsage 2),
    .settle ⟨0⟩ (sampleUsage 1), .settle ⟨7⟩ (sampleUsage 1)]

theorem budget_conserved_sample :
    let books := sampleCalls.foldl Books.step
      (.opened ⟨sampleAmounts 10, ⟨fun _ => .enforced⟩, ∅, 0⟩)
    books.charged .cost = 2 ∧ books.settled = [0] ∧ (books.ledger.remaining.get .cost).toNat = 5 ∧
      total (fun reserved => (reserved.get .cost).toNat) books.ledger.active = 3 ∧
      books.charged .actions ≤ 10 :=
  ⟨by decide +kernel, by decide +kernel, by decide +kernel, by decide +kernel,
    (@budget_conserved (sampleAmounts 10) ⟨fun _ => .enforced⟩ _ rfl sampleCalls).2.1 .actions⟩

end Sample

end AgentSystemsBenchmark.Budget
