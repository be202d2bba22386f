import AgentSystemsBenchmark.Core.Budget

/-!
# Cost estimates from provider usage

A provider reports totals and a subset of each: cached input and reasoning output. They are split
into disjoint classes, and a price table turns the classes into a cost in micros. The sums are
checked in 128 bits and the ends of the estimate are narrowed to 64, so that a failure on the way
must mean that the end does not fit.
-/

namespace AgentSystemsBenchmark.Accounting

open Budget Effects List

inductive AccountingError where
  | contradictoryTokens | contradictoryCost | invalidPriceTable | overflow | invalidEvidence
  deriving DecidableEq, Repr

structure ProviderUsage where
  inputTotal : Option UInt64
  cachedInput : Option UInt64
  outputTotal : Option UInt64
  reasoningOutput : Option UInt64
  costMicros : Option UInt64
  currency : Option String
  costBasisRevision : Option String
  actions : Option UInt64
  wallTimeNs : Option UInt64

structure PriceTable where
  revision : String
  currency : String
  uncachedInputPerMillion : UInt64
  cachedInputPerMillion : UInt64
  outputPerMillion : UInt64
  reasoningPerMillion : UInt64
  valid : token revision = true ∧ validCurrency currency = true

def PriceTable.new (revision currency : String)
    (uncachedInput cachedInput output reasoning : UInt64) :
    Except AccountingError PriceTable :=
  if valid : token revision = true ∧ validCurrency currency = true then
    .ok ⟨revision, currency, uncachedInput, cachedInput, output, reasoning, valid⟩
  else .error .invalidPriceTable

def disjoint (missing : UnavailableReason) :
    Option UInt64 → Option UInt64 → Except AccountingError (UsageEvidence × UsageEvidence)
  | some total, some subset =>
    if subset ≤ total then
      .ok (.available (.measured (total - subset)), .available (.measured subset))
    else .error .contradictoryTokens
  | none, some _ => .error .contradictoryTokens
  | _, none => .ok (.unavailable missing, .unavailable missing)

def measuredOrMissing (value : Option UInt64) : UsageEvidence :=
  value.elim (.unavailable .missingTelemetry) fun value => .available (.measured value)

/-- An addition in 128 bits. -/
def checkedAdd (a b : Nat) : Except AccountingError Nat :=
  if a + b < 2 ^ 128 then .ok (a + b) else .error .overflow

def narrow (n : Nat) : Except AccountingError UInt64 :=
  if n < 2 ^ 64 then .ok (.ofNat n) else .error .overflow

/-- The sums of the loop, or nothing when a class has no evidence. -/
def numerators : List (UsageEvidence × UInt64) → Nat → Nat →
    Except AccountingError (Option (Nat × Nat))
  | [], lower, upper => .ok (some (lower, upper))
  | (.unavailable _, _) :: _, _, _ => .ok none
  | (.available quantity, rate) :: rest, lower, upper => do
    let lower ← checkedAdd lower (quantity.lower.toNat * rate.toNat)
    let upper ← checkedAdd upper (quantity.upper.toNat * rate.toNat)
    numerators rest lower upper

def estimate (prices : PriceTable) (lowerNumerator upperNumerator : Nat) :
    Except AccountingError QuantityEvidence := do
  let lower ← narrow (lowerNumerator / 1000000)
  let rounded ← checkedAdd upperNumerator 999999
  let upper ← narrow (rounded / 1000000)
  match QuantityEvidence.estimated lower upper prices.revision with
  | .ok evidence => .ok evidence
  | .error _ => .error .invalidEvidence

/-- The cost of the classes under a price table. -/
def price (prices : PriceTable) (tokens : TokenUsage) :
    Except AccountingError (Option QuantityEvidence) := do
  let sums ← numerators [(tokens.uncachedInput, prices.uncachedInputPerMillion),
    (tokens.cachedInput, prices.cachedInputPerMillion), (tokens.output, prices.outputPerMillion),
    (tokens.reasoning, prices.reasoningPerMillion)] 0 0
  match sums with
  | none => .ok none
  | some (lower, upper) => (estimate prices lower upper).map some

def normalizeCost (reported : Option UInt64) (reportedCurrency reportedRevision : Option String)
    (tokens : TokenUsage) (prices : Option PriceTable) :
    Except AccountingError (UsageEvidence × Option String × Option String) :=
  match reported, reportedCurrency, reportedRevision, prices with
  | some value, some currency, some revision, _ =>
    if validCurrency currency && token revision then
      .ok (.available (.measured value), some currency, some revision)
    else .error .contradictoryCost
  | none, none, none, none => .ok (.unavailable .unsupported, none, none)
  | none, none, none, some prices => (price prices tokens).map fun
    | none => (.unavailable .missingTelemetry, none, none)
    | some evidence => (.available evidence, some prices.currency, some prices.revision)
  | _, _, _, _ => .error .contradictoryCost

def normalizeUsage (raw : ProviderUsage) (prices : Option PriceTable) :
    Except AccountingError NormalizedUsage := do
  let (uncachedInput, cachedInput) ← disjoint .missingTelemetry raw.inputTotal raw.cachedInput
  let (output, reasoning) ← disjoint .missingTelemetry raw.outputTotal raw.reasoningOutput
  let tokens : TokenUsage := ⟨uncachedInput, cachedInput, output, reasoning⟩
  let (costMicros, currency, priceTableRevision) ←
    normalizeCost raw.costMicros raw.currency raw.costBasisRevision tokens prices
  let usage : NormalizedUsage := ⟨tokens, measuredOrMissing raw.actions,
    measuredOrMissing raw.wallTimeNs, costMicros, currency, priceTableRevision⟩
  match usage.validate with
  | .ok _ => .ok usage
  | .error _ => .error .invalidEvidence

/-! ## The exact cost -/

/-- A subset is reported with a total that it does not exceed. -/
def Consistent (total subset : Option UInt64) : Prop :=
  ∀ part ∈ subset, ∃ whole ∈ total, part ≤ whole

/-- The cost of the four classes in micros, when all of them are known. -/
def exactCost (raw : ProviderUsage) (prices : PriceTable) : Option ℚ := do
  let input ← raw.inputTotal
  let cached ← raw.cachedInput
  let output ← raw.outputTotal
  let reasoning ← raw.reasoningOutput
  let sum := (input.toNat - cached.toNat) * prices.uncachedInputPerMillion.toNat +
    cached.toNat * prices.cachedInputPerMillion.toNat +
    (output.toNat - reasoning.toNat) * prices.outputPerMillion.toNat +
    reasoning.toNat * prices.reasoningPerMillion.toNat
  return sum / 1000000

theorem ceil_micros (n : Nat) : ⌈(n : ℚ) / 1000000⌉₊ = (n + 999999) / 1000000 := by
  apply eq_of_forall_ge_iff
  intro k
  have scaled : (n : ℚ) ≤ k * 1000000 ↔ n ≤ k * 1000000 := by
    exact_mod_cast Iff.rfl
  rw [Nat.ceil_le, div_le_iff₀ (by norm_num), scaled]
  omega

section Estimates
variable {prices : PriceTable} {n : Nat}

/-- The sum of the products. A sum on the way is out of range only if the last one is. -/
theorem numerators_measured (classes : List (UInt64 × UInt64))
    (rest : List (UsageEvidence × UInt64))
    (fits : n < 2 ^ 128) :
    numerators (classes.map (fun c => (.available (.measured c.1), c.2)) ++ rest) n n =
      checkedAdd n (classes.map fun c => c.1.toNat * c.2.toNat).sum >>= fun m =>
        numerators rest m m := by
  induction classes generalizing n with
  | nil =>
    rw [map_nil, map_nil, sum_nil, checkedAdd, if_pos (by omega)]
    rfl
  | cons first others ih =>
    simp only [map_cons, sum_cons, cons_append, numerators, QuantityEvidence.measured]
    by_cases next : n + first.1.toNat * first.2.toNat < 2 ^ 128
    · have moved := ih next
      rw [checkedAdd, Nat.add_assoc] at moved
      simp only [checkedAdd, if_pos next]
      exact moved
    · rw [checkedAdd, if_neg next, checkedAdd, if_neg (by omega)]
      rfl

/-- The two classes of a total cost less than the range of the sums. -/
theorem products_lt {whole part rate rate' : UInt64} (within : part ≤ whole) :
    (whole - part).toNat * rate.toNat + part.toNat * rate'.toNat < 2 ^ 128 := by
  have first : (whole - part).toNat * rate.toNat ≤ (whole - part).toNat * 2 ^ 64 :=
    Nat.mul_le_mul_left _ (Nat.le_of_lt rate.toNat_lt)
  have second : part.toNat * rate'.toNat ≤ part.toNat * 2 ^ 64 :=
    Nat.mul_le_mul_left _ (Nat.le_of_lt rate'.toNat_lt)
  have parts := UInt64.toNat_sub_of_le _ _ within
  have order : part.toNat ≤ whole.toNat := within
  have bound := whole.toNat_lt
  omega

/-- The sums are narrowed, or the upper end does not fit; no other step fails. -/
theorem estimate_cases (sum : Nat) :
    (2 ^ 64 ≤ ⌈(sum : ℚ) / 1000000⌉₊ ∧
      (checkedAdd 0 sum >>= fun m => estimate prices m m) = .error .overflow) ∨
    ∃ evidence, (checkedAdd 0 sum >>= fun m => estimate prices m m) = .ok evidence ∧
      evidence.lower.toNat = ⌊(sum : ℚ) / 1000000⌋₊ ∧
      evidence.upper.toNat = ⌈(sum : ℚ) / 1000000⌉₊ := by
  have floor : ⌊(sum : ℚ) / 1000000⌋₊ = sum / 1000000 := by
    exact_mod_cast Nat.floor_div_eq_div (K := ℚ) sum 1000000
  rw [floor, ceil_micros]
  by_cases fits : (sum + 999999) / 1000000 < 2 ^ 64
  · right
    have lower : (UInt64.ofNat (sum / 1000000)).toNat = sum / 1000000 :=
      UInt64.toNat_ofNat_of_lt' (by change _ < 2 ^ 64; omega)
    have upper := UInt64.toNat_ofNat_of_lt' fits
    have ordered : UInt64.ofNat (sum / 1000000) ≤ UInt64.ofNat ((sum + 999999) / 1000000) := by
      rw [UInt64.le_iff_toNat_le, lower, upper]
      omega
    refine ⟨⟨_, _, .estimated, some prices.revision, ordered, by simp⟩, ?_, lower, upper⟩
    refine bind_eq_ok.mpr ⟨sum, ?_, bind_eq_ok.mpr ⟨_, if_pos (by omega),
      bind_eq_ok.mpr ⟨_, if_pos (by omega), bind_eq_ok.mpr ⟨_, if_pos fits, ?_⟩⟩⟩⟩
    · rw [checkedAdd, Nat.zero_add, if_pos (by omega)]
    · rw [QuantityEvidence.estimated, dif_pos ordered, if_pos prices.valid.1]
  · refine .inl ⟨Nat.not_lt.mp fits, ?_⟩
    rw [bind_eq_error, checkedAdd, Nat.zero_add]
    by_cases added : sum < 2 ^ 128
    · refine .inr ⟨sum, if_pos added, bind_eq_error.mpr ?_⟩
      by_cases narrowed : sum / 1000000 < 2 ^ 64
      · refine .inr ⟨_, if_pos narrowed, bind_eq_error.mpr ?_⟩
        by_cases rounded : sum + 999999 < 2 ^ 128
        · exact .inr ⟨_, if_pos rounded, bind_eq_error.mpr (.inl (if_neg fits))⟩
        · exact .inl (if_neg rounded)
      · exact .inl (if_neg narrowed)
    · exact .inl (if_neg added)

/-- Four known classes have a cost. -/
theorem price_known {u v x y : UInt64} :
    price prices ⟨.available (.measured u), .available (.measured v), .available (.measured x),
        .available (.measured y)⟩ =
      (checkedAdd 0 (u.toNat * prices.uncachedInputPerMillion.toNat +
        (v.toNat * prices.cachedInputPerMillion.toNat + (x.toNat * prices.outputPerMillion.toNat +
          (y.toNat * prices.reasoningPerMillion.toNat + 0)))) >>= fun m =>
            estimate prices m m).map some := by
  have summed := numerators_measured [(u, prices.uncachedInputPerMillion),
    (v, prices.cachedInputPerMillion), (x, prices.outputPerMillion),
    (y, prices.reasoningPerMillion)] [] (by decide : 0 < 2 ^ 128)
  rw [price]
  simp only [map_cons, map_nil, cons_append, nil_append, sum_cons, sum_nil] at summed
  rw [summed]
  cases checkedAdd 0 _ <;> rfl

/-- Two known classes of one total do not make up for two that are missing. -/
theorem price_unknown {whole part : UInt64} {reason : UnavailableReason} (within : part ≤ whole) :
    price prices ⟨.available (.measured (whole - part)), .available (.measured part),
      .unavailable reason, .unavailable reason⟩ = .ok none := by
  have summed := numerators_measured [(whole - part, prices.uncachedInputPerMillion),
    (part, prices.cachedInputPerMillion)] [(.unavailable reason, prices.outputPerMillion),
    (.unavailable reason, prices.reasoningPerMillion)] (by decide : 0 < 2 ^ 128)
  simp only [map_cons, map_nil, cons_append, nil_append, sum_cons, sum_nil] at summed
  rw [price, summed, checkedAdd, if_pos]
  · rfl
  · rw [Nat.zero_add, Nat.add_zero]
    exact products_lt within

theorem disjoint_cases {missing : UnavailableReason} {total subset : Option UInt64}
    (consistent : Consistent total subset) :
    (∃ whole part, part ≤ whole ∧ total = some whole ∧ subset = some part ∧
      disjoint missing total subset =
        .ok (.available (.measured (whole - part)), .available (.measured part))) ∨
    (total = none ∨ subset = none) ∧
      disjoint missing total subset = .ok (.unavailable missing, .unavailable missing) := by
  cases subset with
  | none => exact .inr ⟨.inr rfl, by cases total <;> rfl⟩
  | some part =>
    obtain ⟨whole, rfl, within⟩ := consistent part rfl
    exact .inl ⟨whole, part, within, rfl, rfl, if_pos within⟩

/-- Without a reported cost the record has the cost of its classes, and is valid as it stands. -/
theorem normalizeUsage_unreported {raw : ProviderUsage} {a b c d : UsageEvidence}
    (unreported : raw.costMicros = none ∧ raw.currency = none ∧ raw.costBasisRevision = none)
    (input : disjoint .missingTelemetry raw.inputTotal raw.cachedInput = .ok (a, b))
    (output : disjoint .missingTelemetry raw.outputTotal raw.reasoningOutput = .ok (c, d)) :
    normalizeUsage raw (some prices) = (price prices ⟨a, b, c, d⟩).map fun cost =>
      ⟨⟨a, b, c, d⟩, measuredOrMissing raw.actions, measuredOrMissing raw.wallTimeNs,
        cost.elim (.unavailable .missingTelemetry) .available, cost.map fun _ => prices.currency,
        cost.map fun _ => prices.revision⟩ := by
  obtain ⟨cost, currency, revision⟩ := unreported
  simp only [normalizeUsage, input, output, cost, currency, revision, normalizeCost, bind,
    Except.bind]
  cases price prices ⟨a, b, c, d⟩ with
  | error e => rfl
  | ok evidence =>
    cases evidence with
    | none => rfl
    | some evidence =>
      simp [Except.map, NormalizedUsage.validate, UsageEvidence.isAvailable, prices.valid]

end Estimates

/-- Without a reported cost the estimate is the floor and the ceiling of the exact cost, and an
overflow means that the ceiling has no 64-bit value. Where a class is unknown there is no cost. -/
theorem cost_interval_exact (raw : ProviderUsage) (prices : PriceTable)
    (input : Consistent raw.inputTotal raw.cachedInput)
    (output : Consistent raw.outputTotal raw.reasoningOutput)
    (unreported : raw.costMicros = none ∧ raw.currency = none ∧ raw.costBasisRevision = none) :
    (exactCost raw prices = none → ∃ usage, normalizeUsage raw (some prices) = .ok usage ∧
      usage.costMicros = .unavailable .missingTelemetry) ∧
    ∀ cost, exactCost raw prices = some cost →
      (normalizeUsage raw (some prices) = .error .overflow ↔ 2 ^ 64 ≤ ⌈cost⌉₊) ∧
      (⌈cost⌉₊ < 2 ^ 64 → ∃ usage evidence, normalizeUsage raw (some prices) = .ok usage ∧
        usage.costMicros = .available evidence ∧ evidence.lower.toNat = ⌊cost⌋₊ ∧
        evidence.upper.toNat = ⌈cost⌉₊) := by
  -- a class that is unknown leaves the record without a cost
  have unknown :
      ∀ {a b c d}, disjoint .missingTelemetry raw.inputTotal raw.cachedInput = .ok (a, b) →
      disjoint .missingTelemetry raw.outputTotal raw.reasoningOutput = .ok (c, d) →
      price prices ⟨a, b, c, d⟩ = .ok none → ∃ usage, normalizeUsage raw (some prices) = .ok usage ∧
        usage.costMicros = .unavailable .missingTelemetry := by
    intro a b c d split split' free
    rw [normalizeUsage_unreported unreported split split', free]
    exact ⟨_, rfl, rfl⟩
  rcases disjoint_cases input with ⟨whole, part, within, total, subset, split⟩ | ⟨absent, split⟩
  · rcases disjoint_cases output with
      ⟨whole', part', within', total', subset', split'⟩ | ⟨absent, split'⟩
    · rw [normalizeUsage_unreported unreported split split', price_known, Nat.add_zero,
        UInt64.toNat_sub_of_le _ _ within, UInt64.toNat_sub_of_le _ _ within', ← Nat.add_assoc,
        ← Nat.add_assoc]
      simp only [exactCost, total, subset, total', subset', Option.bind_eq_bind, Option.bind_some]
      refine ⟨nofun, ?_⟩
      rintro _ ⟨⟩
      rcases estimate_cases _ with ⟨beyond, failed⟩ | ⟨evidence, made, lower, upper⟩
      · rw [failed]
        exact ⟨⟨fun _ => beyond, fun _ => rfl⟩, fun fits => absurd beyond (Nat.not_le.mpr fits)⟩
      · rw [made]
        have fits := upper ▸ evidence.upper.toNat_lt
        exact ⟨⟨nofun, fun beyond => absurd beyond (Nat.not_le.mpr fits)⟩,
          fun _ => ⟨_, evidence, rfl, rfl, lower, upper⟩⟩
    · refine ⟨fun _ => unknown split split' (price_unknown within), fun cost known => ?_⟩
      rcases absent with absent | absent <;> simp [exactCost, absent] at known
  · obtain ⟨c, d, split'⟩ : ∃ c d,
        disjoint .missingTelemetry raw.outputTotal raw.reasoningOutput = .ok (c, d) := by
      rcases disjoint_cases output with ⟨_, _, _, _, _, split'⟩ | ⟨_, split'⟩ <;>
        exact ⟨_, _, split'⟩
    refine ⟨fun _ => unknown split split' rfl, fun cost known => ?_⟩
    rcases absent with absent | absent <;> simp [exactCost, absent] at known

def samplePrices : PriceTable := ⟨"r1", "USD", 2000000, 500000, 1000000, 3000000, by decide +kernel⟩

def sampleUsage : ProviderUsage := ⟨some 3, some 1, some 4, some 1, none, none, none, none, none⟩

/-- Two fresh tokens at 2, a cached one at a half, three of output at 1 and one of reasoning
at 3. -/
theorem cost_interval_exact_sample :
    ∃ usage evidence, normalizeUsage sampleUsage (some samplePrices) = .ok usage ∧
      usage.costMicros = .available evidence ∧ evidence.lower.toNat = ⌊(21 / 2 : ℚ)⌋₊ ∧
      evidence.upper.toNat = ⌈(21 / 2 : ℚ)⌉₊ := by
  have fits : ⌈(21 / 2 : ℚ)⌉₊ ≤ 11 := Nat.ceil_le.mpr (by norm_num)
  refine ((cost_interval_exact sampleUsage samplePrices ?_ ?_ ⟨rfl, rfl, rfl⟩).2 _ ?_).2 (by omega)
  · rintro _ ⟨⟩
    exact ⟨_, rfl, by decide⟩
  · rintro _ ⟨⟩
    exact ⟨_, rfl, by decide⟩
  · decide +kernel

end AgentSystemsBenchmark.Accounting
