import AgentSystemsBenchmark.Library.Effects
import AgentSystemsBenchmark.Library.Grouping

/-!
# Repeated-trial reliability

A trial is the attempts of one class, epoch and trial id, numbered from zero. The report
groups the observations into trials, checks that each is whole, flattens them again by class
and by epoch, and cuts every flattened list into trials to count those that passed. Here each
of its parts is shown to be a function of the set of observations it covers.
-/

namespace AgentSystemsBenchmark.Reliability

open Effects Grouping List

def maxAttemptsPerTrial : Nat := 64
def maxReliabilityObservations : Nat := 100000
def maxClassComponentBytes : Nat := 128

inductive ReliabilityError where
  | invalidClass | invalidAttempt | invalidPlanCount | invalidObservationCount
  | invalidTrialWidth | duplicateAttempt | duplicatePlannedAttempt | planObservationMismatch
  | incompleteTrial
  deriving DecidableEq, Repr

def validComponent (value : String) : Bool :=
  value ≠ "" ∧ value.utf8ByteSize ≤ maxClassComponentBytes ∧
    value.toList.all (fun c => c.isAlphanum || c == '.' || c == '_' || c == '-')

structure WorkloadClass where
  workload : String
  language : String
  difficulty : String
  valid : validComponent workload = true ∧ validComponent language = true ∧
    validComponent difficulty = true

def WorkloadClass.new (workload language difficulty : String) :
    Except ReliabilityError WorkloadClass :=
  if h : validComponent workload = true ∧ validComponent language = true ∧
      validComponent difficulty = true then .ok ⟨workload, language, difficulty, h⟩
  else .error .invalidClass

/-- Classes are ordered by workload, then language, then difficulty. -/
def WorkloadClass.rank (c : WorkloadClass) : String ×ₗ String ×ₗ String :=
  toLex (c.workload, toLex (c.language, c.difficulty))

theorem WorkloadClass.rank_injective : Function.Injective WorkloadClass.rank := by
  rintro ⟨w, l, d, _⟩ ⟨w', l', d', _⟩ same
  simp only [rank, EmbeddingLike.apply_eq_iff_eq, Prod.mk.injEq] at same
  obtain ⟨rfl, rfl, rfl⟩ := same
  rfl

instance : LinearOrder WorkloadClass :=
  LinearOrder.lift' WorkloadClass.rank WorkloadClass.rank_injective

inductive ReliabilityOutcome where
  | passed | failed | timedOut | cancelled | notStarted
  deriving DecidableEq, Repr

inductive AttemptSlo where
  | met | violated | unavailable
  deriving DecidableEq, Repr

structure AttemptIdentity where
  epochId : Nat
  trialId : Nat
  attemptIndex : Nat
  seed : Nat
  bounded : attemptIndex < maxAttemptsPerTrial
  deriving DecidableEq

def AttemptIdentity.new (epochId trialId attemptIndex seed : Nat) :
    Except ReliabilityError AttemptIdentity :=
  if h : attemptIndex < maxAttemptsPerTrial then .ok ⟨epochId, trialId, attemptIndex, seed, h⟩
  else .error .invalidAttempt

structure PlannedAttempt where
  class' : WorkloadClass
  identity : AttemptIdentity
  deriving DecidableEq

/-- The lifecycle an attempt must have had. -/
def lifecycle (outcome : ReliabilityOutcome) (queueDelayNs : Option Nat) (slo : AttemptSlo) :
    Bool :=
  (outcome = .notStarted ↔ queueDelayNs = none) ∧
    ¬ (outcome = .notStarted ∧ slo ≠ .unavailable) ∧ ¬ (slo = .met ∧ outcome ≠ .passed)

structure TrialAttempt where
  class' : WorkloadClass
  identity : AttemptIdentity
  outcome : ReliabilityOutcome
  queueDelayNs : Option Nat
  slo : AttemptSlo
  valid : lifecycle outcome queueDelayNs slo = true
  deriving DecidableEq

def TrialAttempt.new (class' : WorkloadClass) (identity : AttemptIdentity)
    (outcome : ReliabilityOutcome) (queueDelayNs : Option Nat) (slo : AttemptSlo) :
    Except ReliabilityError TrialAttempt :=
  if h : lifecycle outcome queueDelayNs slo = true then
    .ok ⟨class', identity, outcome, queueDelayNs, slo, h⟩
  else .error .invalidAttempt

def TrialAttempt.epochId (a : TrialAttempt) : Nat := a.identity.epochId
def TrialAttempt.attemptIndex (a : TrialAttempt) : Nat := a.identity.attemptIndex
def TrialAttempt.passed (a : TrialAttempt) : Bool := a.outcome = .passed

/-- The plan entry an observation answers. -/
def TrialAttempt.planned (a : TrialAttempt) : PlannedAttempt := ⟨a.class', a.identity⟩

/-- The identity of a trial. -/
structure TrialKey where
  class' : WorkloadClass
  epochId : Nat
  trialId : Nat

/-- Trials are ordered by class, then epoch, then trial id. -/
def TrialKey.rank (key : TrialKey) : WorkloadClass ×ₗ Nat ×ₗ Nat :=
  toLex (key.class', toLex (key.epochId, key.trialId))

theorem TrialKey.rank_injective : Function.Injective TrialKey.rank := by
  rintro ⟨c, e, t⟩ ⟨c', e', t'⟩ same
  simp only [rank, EmbeddingLike.apply_eq_iff_eq, Prod.mk.injEq] at same
  obtain ⟨rfl, rfl, rfl⟩ := same
  rfl

instance : LinearOrder TrialKey := LinearOrder.lift' TrialKey.rank TrialKey.rank_injective

def trialKey (c : WorkloadClass) (identity : AttemptIdentity) : TrialKey :=
  ⟨c, identity.epochId, identity.trialId⟩

def TrialAttempt.key (a : TrialAttempt) : TrialKey := trialKey a.class' a.identity

@[simp] theorem TrialAttempt.key_class (a : TrialAttempt) : a.key.class' = a.class' := rfl
@[simp] theorem TrialAttempt.key_epochId (a : TrialAttempt) : a.key.epochId = a.epochId := rfl

/-! ## The report -/

structure ExactRate where
  numerator : Nat
  denominator : Nat
  deriving DecidableEq, Repr

structure ReliabilityCounts where
  passed : Nat
  failed : Nat
  timedOut : Nat
  cancelled : Nat
  notStarted : Nat
  deriving DecidableEq, Repr

structure TrialReliability where
  trials : Nat
  attemptsPerTrial : Nat
  firstAttemptPass : ExactRate
  passAtK : ExactRate
  allKPass : ExactRate
  deriving DecidableEq, Repr

structure FairnessSummary where
  starvationThresholdNs : Nat
  planned : Nat
  started : Nat
  starved : Nat
  queueTotalNs : Nat
  queueMaxNs : Option Nat
  sloMet : Nat
  sloViolated : Nat
  sloUnavailable : Nat
  deriving DecidableEq, Repr

structure StratumReport where
  class' : WorkloadClass
  reliability : TrialReliability
  outcomes : ReliabilityCounts
  fairness : FairnessSummary
  deriving DecidableEq

structure EpochReport where
  epochId : Nat
  aggregate : StratumReport
  strata : List StratumReport
  deriving DecidableEq

structure ReliabilityReport where
  starvationThresholdNs : Nat
  aggregate : StratumReport
  strata : List StratumReport
  epochs : List EpochReport
  deriving DecidableEq

def ReliabilityCounts.record (counts : ReliabilityCounts) : ReliabilityOutcome → ReliabilityCounts
  | .passed => { counts with passed := counts.passed + 1 }
  | .failed => { counts with failed := counts.failed + 1 }
  | .timedOut => { counts with timedOut := counts.timedOut + 1 }
  | .cancelled => { counts with cancelled := counts.cancelled + 1 }
  | .notStarted => { counts with notStarted := counts.notStarted + 1 }

def FairnessSummary.recordQueue (summary : FairnessSummary) : Option Nat → FairnessSummary
  | some delay =>
    { summary with
      started := summary.started + 1
      queueTotalNs := summary.queueTotalNs + delay
      queueMaxNs := some (max (summary.queueMaxNs.getD 0) delay)
      starved := if delay > summary.starvationThresholdNs then summary.starved + 1
        else summary.starved }
  | none => { summary with starved := summary.starved + 1 }

def FairnessSummary.recordSlo (summary : FairnessSummary) : AttemptSlo → FairnessSummary
  | .met => { summary with sloMet := summary.sloMet + 1 }
  | .violated => { summary with sloViolated := summary.sloViolated + 1 }
  | .unavailable => { summary with sloUnavailable := summary.sloUnavailable + 1 }

/-- The loop over the attempts fills two records that do not read each other; it is written as
one fold for each. -/
def summarize (class' : WorkloadClass) (attempts : List TrialAttempt) (k threshold : Nat) :
    StratumReport :=
  let outcomes := attempts.foldl (fun counts a => counts.record a.outcome) ⟨0, 0, 0, 0, 0⟩
  let fairness := attempts.foldl
    (fun summary a => (summary.recordQueue a.queueDelayNs).recordSlo a.slo)
    ⟨threshold, attempts.length, 0, 0, 0, none, 0, 0, 0⟩
  let chunks := chunksExact k attempts
  let trials := attempts.length / k
  { class'
    reliability :=
      { trials
        attemptsPerTrial := k
        firstAttemptPass := ⟨chunks.countP fun chunk => chunk.head?.any (·.passed), trials⟩
        passAtK := ⟨chunks.countP fun chunk => chunk.any (·.passed), trials⟩
        allKPass := ⟨chunks.countP fun chunk => chunk.all (·.passed), trials⟩ }
    outcomes
    fairness }

def allClass : WorkloadClass := ⟨"all", "all", "all", by decide +kernel⟩

/-- Enter one planned attempt into the set of plan entries and the set of slots. -/
def enrol (k : Nat) (sets : Finset PlannedAttempt × Finset (TrialKey × Nat))
    (planned : PlannedAttempt) :
    Except ReliabilityError (Finset PlannedAttempt × Finset (TrialKey × Nat)) := do
  let slot := (trialKey planned.class' planned.identity, planned.identity.attemptIndex)
  refuse (planned.identity.attemptIndex ≥ k) .invalidAttempt
  refuse (planned ∈ sets.1 ∨ slot ∈ sets.2) .duplicatePlannedAttempt
  pure (insert planned sets.1, insert slot sets.2)

def observe (seen : Finset PlannedAttempt) (a : TrialAttempt) :
    Except ReliabilityError (Finset PlannedAttempt) := do
  refuse (a.planned ∈ seen) .duplicateAttempt
  pure (insert a.planned seen)

def sortByIndex (attempts : List TrialAttempt) : List TrialAttempt :=
  attempts.insertionSort fun a b => a.attemptIndex ≤ b.attemptIndex

/-- The sorted attempts are not exactly those numbered below `k`. -/
def incomplete (k : Nat) (attempts : List TrialAttempt) : Bool :=
  attempts.length ≠ k ∨ attempts.zipIdx.any fun entry => entry.1.attemptIndex ≠ entry.2

abbrev Trials := List (TrialKey × List TrialAttempt)

/-- The observations by trial, each trial sorted. -/
def trialsOf (observations : List TrialAttempt) : Trials :=
  (group TrialAttempt.key [] (fun attempts a => attempts ++ [a]) observations).map fun trial =>
    (trial.1, sortByIndex trial.2)

def strataOf (k threshold : Nat) (classes : List (WorkloadClass × List TrialAttempt)) :
    List StratumReport :=
  classes.map fun entry => summarize entry.1 entry.2 k threshold

def byClass (trials : Trials) : List (WorkloadClass × List TrialAttempt) :=
  group (fun trial => trial.1.class') [] (fun attempts trial => attempts ++ trial.2) trials

def byEpoch (trials : Trials) : List (Nat × List (WorkloadClass × List TrialAttempt)) :=
  group (fun trial => trial.1.epochId) []
    (fun classes trial => modifyAt trial.1.class' [] (fun attempts => attempts ++ trial.2) classes)
    trials

def analyzeReliability (expected : List PlannedAttempt) (observations : List TrialAttempt)
    (k threshold : Nat) : Except ReliabilityError ReliabilityReport := do
  refuse (expected = [] ∨ expected.length > maxReliabilityObservations) .invalidPlanCount
  refuse (observations = [] ∨ observations.length > maxReliabilityObservations)
    .invalidObservationCount
  refuse (k = 0 ∨ k > maxAttemptsPerTrial) .invalidTrialWidth
  let (expectedSet, _) ← expected.foldlM (enrol k) (∅, ∅)
  let observedSet ← observations.foldlM observe ∅
  refuse (expectedSet ≠ observedSet) .planObservationMismatch
  let trials := trialsOf observations
  checkAll (fun trial => refuse (incomplete k trial.2 = true) .incompleteTrial) trials
  pure
    { starvationThresholdNs := threshold
      aggregate := summarize allClass (trials.flatMap (·.2)) k threshold
      strata := strataOf k threshold (byClass trials)
      epochs := (byEpoch trials).map fun epoch =>
        ⟨epoch.1, summarize allClass (epoch.2.flatMap (·.2)) k threshold,
          strataOf k threshold epoch.2⟩ }

/-! ## What the report means -/

section Meaning
variable (k threshold : Nat)

/-- The trials of a set of attempts whose own attempts meet a condition. -/
def trialsWhere (scope : Finset TrialAttempt) (meets : Finset TrialAttempt → Prop)
    [DecidablePred meets] : Nat :=
  ((scope.image (·.key)).filter fun trial => meets (scope.filter fun a => a.key = trial)).card

/-- The largest delay of an attempt that started. -/
def maxDelay (scope : Finset TrialAttempt) : Option Nat :=
  if ∃ a ∈ scope, a.queueDelayNs.isSome then some (scope.sup fun a => a.queueDelayNs.getD 0)
  else none

/-- The report on a set of attempts. -/
def StratumReport.of (class' : WorkloadClass) (scope : Finset TrialAttempt) : StratumReport :=
  let trials := (scope.image (·.key)).card
  { class'
    reliability :=
      { trials
        attemptsPerTrial := k
        firstAttemptPass := ⟨trialsWhere scope fun trial =>
          ∃ a ∈ trial, a.attemptIndex = 0 ∧ a.outcome = .passed, trials⟩
        passAtK := ⟨trialsWhere scope fun trial => ∃ a ∈ trial, a.outcome = .passed, trials⟩
        allKPass := ⟨trialsWhere scope fun trial => ∀ a ∈ trial, a.outcome = .passed, trials⟩ }
    outcomes :=
      { passed := (scope.filter fun a => a.outcome = .passed).card
        failed := (scope.filter fun a => a.outcome = .failed).card
        timedOut := (scope.filter fun a => a.outcome = .timedOut).card
        cancelled := (scope.filter fun a => a.outcome = .cancelled).card
        notStarted := (scope.filter fun a => a.outcome = .notStarted).card }
    fairness :=
      { starvationThresholdNs := threshold
        planned := scope.card
        started := (scope.filter fun a => a.queueDelayNs.isSome).card
        starved := (scope.filter fun a => ∀ delay ∈ a.queueDelayNs, delay > threshold).card
        queueTotalNs := ∑ a ∈ scope, a.queueDelayNs.getD 0
        queueMaxNs := maxDelay scope
        sloMet := (scope.filter fun a => a.slo = .met).card
        sloViolated := (scope.filter fun a => a.slo = .violated).card
        sloUnavailable := (scope.filter fun a => a.slo = .unavailable).card } }

/-- One report for each class that occurs, ascending. -/
def strataOfScope (scope : Finset TrialAttempt) : List StratumReport :=
  ((scope.image (·.class')).sort (· ≤ ·)).map fun c =>
    .of k threshold c (scope.filter fun a => a.class' = c)

def EpochReport.of (epoch : Nat) (scope : Finset TrialAttempt) : EpochReport :=
  ⟨epoch, .of k threshold allClass scope, strataOfScope k threshold scope⟩

def ReliabilityReport.of (scope : Finset TrialAttempt) : ReliabilityReport :=
  { starvationThresholdNs := threshold
    aggregate := .of k threshold allClass scope
    strata := strataOfScope k threshold scope
    epochs := ((scope.image (·.epochId)).sort (· ≤ ·)).map fun epoch =>
      .of k threshold epoch (scope.filter fun a => a.epochId = epoch) }

end Meaning

/-! ## The loop over the attempts -/

section Tallies
variable {scope : Finset TrialAttempt} {a : TrialAttempt}

theorem toFinset_concat (attempts : List TrialAttempt) (a : TrialAttempt) :
    (attempts ++ [a]).toFinset = insert a attempts.toFinset := by
  ext b
  simp

theorem card_filter_insert (fresh : a ∉ scope) (p : TrialAttempt → Prop) [DecidablePred p] :
    ((insert a scope).filter p).card = (scope.filter p).card + if p a then 1 else 0 := by
  rw [Finset.filter_insert]
  split
  · apply Finset.card_insert_of_notMem
    exact fun member => fresh (Finset.mem_filter.mp member).1
  · rfl

theorem maxDelay_insert (scope : Finset TrialAttempt) (a : TrialAttempt) :
    maxDelay (insert a scope) =
      match a.queueDelayNs with
      | some delay => some (max ((maxDelay scope).getD 0) delay)
      | none => maxDelay scope := by
  have unstarted : (¬ ∃ b ∈ scope, b.queueDelayNs.isSome) →
      scope.sup (fun b => b.queueDelayNs.getD 0) = 0 := by
    intro none
    apply (Finset.sup_eq_bot_iff _ _).mpr
    intro b member
    cases delay : b.queueDelayNs with
    | none => rfl
    | some value => exact absurd ⟨b, member, by rw [delay]; rfl⟩ none
  unfold maxDelay
  rw [Finset.sup_insert]
  cases delay : a.queueDelayNs with
  | none => simp [delay]
  | some value =>
    by_cases started : ∃ b ∈ scope, b.queueDelayNs.isSome
    · simp [started, delay, max_comm]
    · simp [started, delay, unstarted started]

variable {attempts : List TrialAttempt} (k threshold : Nat) (c : WorkloadClass)

theorem outcomes_eq (distinct : attempts.Nodup) :
    attempts.foldl (fun counts a => counts.record a.outcome) ⟨0, 0, 0, 0, 0⟩ =
      (StratumReport.of k threshold c attempts.toFinset).outcomes := by
  induction attempts using reverseRecOn with
  | nil => rfl
  | append_singleton attempts a ih =>
    obtain ⟨distinct, -, fresh⟩ := nodup_append.mp distinct
    have fresh : a ∉ attempts.toFinset := fun member =>
      fresh a (mem_toFinset.mp member) a (mem_singleton_self a) rfl
    rw [foldl_append, ih distinct, toFinset_concat]
    simp only [foldl_cons, foldl_nil, StratumReport.of, card_filter_insert fresh]
    cases a.outcome <;> simp [ReliabilityCounts.record]

theorem fairness_eq (distinct : attempts.Nodup) (planned : Nat) :
    attempts.foldl (fun summary a => (summary.recordQueue a.queueDelayNs).recordSlo a.slo)
        ⟨threshold, planned, 0, 0, 0, none, 0, 0, 0⟩ =
      { (StratumReport.of k threshold c attempts.toFinset).fairness with planned } := by
  induction attempts using reverseRecOn with
  | nil => rfl
  | append_singleton attempts a ih =>
    obtain ⟨distinct, -, fresh⟩ := nodup_append.mp distinct
    have fresh : a ∉ attempts.toFinset := fun member =>
      fresh a (mem_toFinset.mp member) a (mem_singleton_self a) rfl
    rw [foldl_append, ih distinct, toFinset_concat]
    simp only [foldl_cons, foldl_nil, StratumReport.of, card_filter_insert fresh,
      maxDelay_insert, Finset.sum_insert fresh]
    cases a.queueDelayNs with
    | none => cases a.slo <;> simp [FairnessSummary.recordQueue, FairnessSummary.recordSlo]
    | some delay =>
      by_cases late : threshold < delay
      · cases a.slo <;>
          simp [FairnessSummary.recordQueue, FairnessSummary.recordSlo, late, Nat.add_comm]
      · cases a.slo <;>
          simp [FairnessSummary.recordQueue, FairnessSummary.recordSlo, late, Nat.add_comm]

end Tallies

/-! ## Whole trials -/

/-- Distinct trials, each listing its own attempts by index. -/
structure Whole (k : Nat) (trials : Trials) : Prop where
  distinct : (trials.map (·.1)).Nodup
  own : ∀ trial ∈ trials, ∀ a ∈ trial.2, a.key = trial.1
  numbered : ∀ trial ∈ trials, trial.2.map (·.attemptIndex) = List.range k

section Trials
variable {k : Nat} {trials : Trials}

section
variable (whole : Whole k trials)
include whole

theorem Whole.perm (same : others.Perm trials) : Whole k others where
  distinct := (same.map _).nodup_iff.mpr whole.distinct
  own trial member := whole.own trial (same.mem_iff.mp member)
  numbered trial member := whole.numbered trial (same.mem_iff.mp member)

theorem Whole.filter (p : TrialKey × List TrialAttempt → Bool) :
    Whole k (trials.filter p) where
  distinct := whole.distinct.sublist ((filter_sublist).map _)
  own trial member := whole.own trial (mem_of_mem_filter member)
  numbered trial member := whole.numbered trial (mem_of_mem_filter member)

theorem Whole.length : ∀ trial ∈ trials, trial.2.length = k := by
  intro trial member
  rw [← length_map (·.attemptIndex), whole.numbered trial member, length_range]

theorem Whole.nodup : (trials.flatMap (·.2)).Nodup := by
  rw [nodup_flatMap]
  constructor
  · intro trial member
    apply List.Nodup.of_map (·.attemptIndex)
    rw [whole.numbered trial member]
    exact nodup_range
  · have apart := pairwise_map.mp whole.distinct
    apply apart.imp_of_mem
    intro trial other member member' differ a here there
    exact differ ((whole.own trial member a here).symm.trans (whole.own other member' a there))

/-- The attempts of one trial within all of them. -/
theorem Whole.fibre (member : trial ∈ trials) :
    ((trials.flatMap (·.2)).toFinset.filter fun a => a.key = trial.1) = trial.2.toFinset := by
  ext a
  simp only [Finset.mem_filter, mem_toFinset, mem_flatMap]
  constructor
  · rintro ⟨⟨other, member', held⟩, named⟩
    have same : other = trial := by
      apply inj_on_of_nodup_map whole.distinct member' member
      rw [← named, whole.own other member' a held]
    rwa [← same]
  · intro held
    exact ⟨⟨trial, member, held⟩, whole.own trial member a held⟩

theorem Whole.image (positive : 0 < k) :
    (trials.flatMap (·.2)).toFinset.image (·.key) = (trials.map (·.1)).toFinset := by
  ext key
  simp only [Finset.mem_image, mem_toFinset, mem_flatMap, mem_map]
  constructor
  · rintro ⟨a, ⟨trial, member, held⟩, rfl⟩
    exact ⟨trial, member, (whole.own trial member a held).symm⟩
  · rintro ⟨trial, member, rfl⟩
    have some : 0 < trial.2.length := by
      rw [whole.length trial member]
      exact positive
    obtain ⟨a, held⟩ := exists_mem_of_length_pos some
    exact ⟨a, ⟨trial, member, held⟩, whole.own trial member a held⟩

/-- A count of trials is a count over the listed trials. -/
theorem Whole.trialsWhere (positive : 0 < k)
    {meets : Finset TrialAttempt → Prop} [DecidablePred meets] (p : List TrialAttempt → Bool)
    (same : ∀ trial ∈ trials, meets trial.2.toFinset ↔ p trial.2 = true) :
    trialsWhere (trials.flatMap (·.2)).toFinset meets = trials.countP fun trial => p trial.2 := by
  have selected : ((trials.map (·.1)).toFinset.filter fun key =>
      meets ((trials.flatMap (·.2)).toFinset.filter fun a => a.key = key)) =
        ((trials.filter fun trial => p trial.2).map (·.1)).toFinset := by
    ext key
    simp only [Finset.mem_filter, mem_toFinset, mem_map, mem_filter]
    constructor
    · rintro ⟨⟨trial, member, rfl⟩, meeting⟩
      rw [whole.fibre member] at meeting
      exact ⟨trial, ⟨member, (same trial member).mp meeting⟩, rfl⟩
    · rintro ⟨trial, ⟨member, meeting⟩, rfl⟩
      refine ⟨⟨trial, member, rfl⟩, ?_⟩
      rw [whole.fibre member]
      exact (same trial member).mpr meeting
  have distinct : ((trials.filter fun trial => p trial.2).map (·.1)).Nodup :=
    whole.distinct.sublist (filter_sublist.map _)
  rw [Reliability.trialsWhere, whole.image positive, selected,
    toFinset_card_of_nodup distinct, length_map, countP_eq_length_filter]

end

/-- The attempt numbered zero is the first one. -/
theorem first_passed {attempts : List TrialAttempt}
    (numbered : attempts.map (·.attemptIndex) = List.range k) :
    (∃ a ∈ attempts.toFinset, a.attemptIndex = 0 ∧ a.outcome = .passed) ↔
      attempts.head?.any (·.passed) = true := by
  cases attempts with
  | nil => simp
  | cons first rest =>
    have positive : 0 < k := by
      have counted := congrArg List.length numbered
      simp only [length_map, length_cons, length_range] at counted
      omega
    obtain ⟨n, rfl⟩ := Nat.exists_eq_succ_of_ne_zero (Nat.ne_of_gt positive)
    rw [List.range_succ_eq_map, map_cons, List.cons.injEq] at numbered
    have later : ∀ a ∈ rest, a.attemptIndex ≠ 0 := by
      intro a member zero
      have index : a.attemptIndex ∈ rest.map (·.attemptIndex) := mem_map_of_mem member
      rw [numbered.2, zero] at index
      simp at index
    simp only [mem_toFinset, mem_cons, head?_cons, Option.any_some,
      TrialAttempt.passed, decide_eq_true_eq]
    constructor
    · rintro ⟨a, rfl | member, zero, passed⟩
      · exact passed
      · exact absurd zero (later a member)
    · intro passed
      exact ⟨first, .inl rfl, numbered.1, passed⟩

/-- Over whole trials the summary is the report on the set of their attempts. -/
theorem Whole.summarize (whole : Whole k trials) (positive : 0 < k) (threshold : Nat)
    (c : WorkloadClass) :
    summarize c (trials.flatMap (·.2)) k threshold =
      .of k threshold c (trials.flatMap (·.2)).toFinset := by
  have listed : (trials.flatMap (·.2)).length = trials.length * k := by
    rw [length_flatMap, map_congr_left whole.length, map_const',
      sum_replicate_nat]
  have counted : (trials.flatMap (·.2)).length / k =
      ((trials.flatMap (·.2)).toFinset.image (·.key)).card := by
    rw [whole.image positive, toFinset_card_of_nodup whole.distinct, length_map, listed,
      Nat.mul_div_cancel _ positive]
  have planned : (trials.flatMap (·.2)).length = (trials.flatMap (·.2)).toFinset.card :=
    (toFinset_card_of_nodup whole.nodup).symm
  have chunks : chunksExact k (trials.flatMap (·.2)) = trials.map (·.2) :=
    chunksExact_flatMap positive whole.length
  rw [Reliability.summarize, outcomes_eq k threshold c whole.nodup,
    fairness_eq k threshold c whole.nodup, chunks, counted, planned]
  simp only [StratumReport.of, StratumReport.mk.injEq, TrialReliability.mk.injEq, true_and,
    and_true, ExactRate.mk.injEq, countP_map]
  refine ⟨?_, ?_, ?_⟩
  · symm
    apply whole.trialsWhere positive fun attempts => attempts.head?.any (·.passed)
    exact fun trial member => first_passed (whole.numbered trial member)
  · symm
    apply whole.trialsWhere positive fun attempts => attempts.any (·.passed)
    simp [TrialAttempt.passed]
  · symm
    apply whole.trialsWhere positive fun attempts => attempts.all (·.passed)
    simp [TrialAttempt.passed]

end Trials

/-! ## The trials of the observations -/

section Collected
variable {k : Nat} {observations : List TrialAttempt}

theorem trialsOf_eq (observations : List TrialAttempt) :
    trialsOf observations = (keys TrialAttempt.key observations).map fun key =>
      (key, sortByIndex (observations.filter fun a => a.key = key)) := by
  rw [trialsOf, flatMap_group, map_map]
  apply map_congr_left
  intro key _
  simp only [Function.comp, flatMap_singleton']

variable {attempts : List TrialAttempt}

theorem mem_sortByIndex :
    a ∈ sortByIndex attempts ↔ a ∈ attempts := (perm_insertionSort _ attempts).mem_iff

theorem complete_iff :
    incomplete k attempts = false ↔ attempts.map (·.attemptIndex) = List.range k := by
  have checked : incomplete k attempts = false ↔
      attempts.length = k ∧
        ∀ (i : Nat) (a : TrialAttempt), attempts[i]? = some a → a.attemptIndex = i := by
    simp only [incomplete, decide_eq_false_iff_not, not_or, not_not, Bool.not_eq_true,
      any_eq_false, decide_eq_true_eq, Prod.forall, mem_zipIdx_iff_getElem?]
    exact and_congr_right fun _ => forall_comm
  rw [checked]
  constructor
  · rintro ⟨counted, indexed⟩
    apply ext_getElem?
    intro i
    rw [getElem?_map]
    by_cases inside : i < k
    · rw [getElem?_range inside]
      have held := getElem?_eq_getElem (counted ▸ inside : i < attempts.length)
      rw [held, Option.map_some, indexed i _ held]
    · rw [getElem?_eq_none (by omega), getElem?_eq_none (by simpa using inside)]
      rfl
  · intro numbered
    have counted : attempts.length = k := by
      rw [← length_map (·.attemptIndex), numbered, length_range]
    refine ⟨counted, ?_⟩
    intro i a held
    have inside : i < k := counted ▸ (List.getElem?_eq_some_iff.mp held).1
    have index : (attempts.map (·.attemptIndex))[i]? = some a.attemptIndex := by
      rw [getElem?_map, held]
      rfl
    rw [numbered, getElem?_range inside] at index
    exact (Option.some.inj index).symm

/-- Sorting leaves the indices in order exactly when each occurs once. -/
theorem sorted_complete_iff :
    incomplete k (sortByIndex attempts) = false ↔
      (attempts.map (·.attemptIndex)).Perm (List.range k) := by
  have reordered : ((sortByIndex attempts).map (·.attemptIndex)).Perm
      (attempts.map (·.attemptIndex)) := (perm_insertionSort _ attempts).map _
  rw [complete_iff]
  constructor
  · intro sorted
    rw [← sorted]
    exact reordered.symm
  · intro permuted
    have total : Std.Total fun a b : TrialAttempt => a.attemptIndex ≤ b.attemptIndex :=
      ⟨fun a b => Nat.le_total _ _⟩
    have transitive : IsTrans TrialAttempt fun a b => a.attemptIndex ≤ b.attemptIndex :=
      ⟨fun a b c => Nat.le_trans⟩
    have ascending := pairwise_insertionSort
      (fun a b : TrialAttempt => a.attemptIndex ≤ b.attemptIndex) attempts
    refine @List.Perm.eq_of_pairwise _ (· ≤ ·) _ _ ?_ ?_ ?_ ?_
    · intro i j _ _ below above
      exact Nat.le_antisymm below above
    · exact pairwise_map.mpr ascending
    · exact pairwise_le_range
    · exact reordered.trans permuted

/-- Every trial holds each index once. -/
def Complete (k : Nat) (observations : List TrialAttempt) : Prop :=
  ∀ a ∈ observations,
    ((observations.filter fun b => b.key = a.key).map (·.attemptIndex)).Perm (List.range k)

theorem checked_iff :
    (∀ trial ∈ trialsOf observations, incomplete k trial.2 = false) ↔ Complete k observations := by
  rw [trialsOf_eq, forall_mem_map]
  constructor
  · intro checked a member
    exact sorted_complete_iff.mp (checked a.key (mem_keys.mpr ⟨a, member, rfl⟩))
  · intro complete key member
    obtain ⟨a, held, rfl⟩ := mem_keys.mp member
    exact sorted_complete_iff.mpr (complete a held)

theorem checkAll_complete :
    checkAll (fun trial => refuse (incomplete k trial.2 = true) ReliabilityError.incompleteTrial)
      (trialsOf observations) = .ok u ↔ Complete k observations := by
  cases u
  simp only [checkAll_eq_ok, refuse_eq_ok, Bool.not_eq_true]
  exact checked_iff

theorem Complete.whole (complete : Complete k observations) : Whole k (trialsOf observations) := by
  have checked := checked_iff.mpr complete
  constructor
  · rw [trialsOf_eq, map_map]
    simpa [Function.comp_def] using nodup_keys TrialAttempt.key observations
  · rw [trialsOf_eq, forall_mem_map]
    intro key _ a member
    exact of_decide_eq_true (mem_filter.mp (mem_sortByIndex.mp member)).2
  · intro trial member
    exact complete_iff.mp (checked trial member)

theorem trialsOf_attempts (observations : List TrialAttempt) :
    ((trialsOf observations).flatMap (·.2)).toFinset = observations.toFinset := by
  ext a
  simp only [trialsOf_eq, mem_toFinset, mem_flatMap, mem_map]
  constructor
  · rintro ⟨_, ⟨key, _, rfl⟩, member⟩
    exact (mem_filter.mp (mem_sortByIndex.mp member)).1
  · intro member
    refine ⟨_, ⟨a.key, mem_keys.mpr ⟨a, member, rfl⟩, rfl⟩, mem_sortByIndex.mpr ?_⟩
    exact mem_filter.mpr ⟨member, decide_eq_true rfl⟩

end Collected

section Parts
variable {k : Nat} {trials : Trials} {γ : Type} [LinearOrder γ]

/-- The attempts of the trials with one class or epoch. -/
theorem Whole.part (whole : Whole k trials) (f : TrialKey → γ) (x : γ) :
    ((trials.filter fun trial => f trial.1 = x).flatMap (·.2)).toFinset =
      (trials.flatMap (·.2)).toFinset.filter fun a => f a.key = x := by
  ext a
  simp only [mem_toFinset, mem_flatMap, mem_filter, Finset.mem_filter,
    decide_eq_true_eq]
  constructor
  · rintro ⟨trial, ⟨member, same⟩, held⟩
    exact ⟨⟨trial, member, held⟩, whole.own trial member a held ▸ same⟩
  · rintro ⟨⟨trial, member, held⟩, same⟩
    exact ⟨trial, ⟨member, (whole.own trial member a held) ▸ same⟩, held⟩

theorem Whole.parts (whole : Whole k trials) (positive : 0 < k) (f : TrialKey → γ) :
    keys (fun trial => f trial.1) trials =
      ((trials.flatMap (·.2)).toFinset.image fun a => f a.key).sort (· ≤ ·) := by
  apply keys_eq_sort
  intro x
  have image := whole.image positive
  constructor
  · intro member
    obtain ⟨a, held, rfl⟩ := Finset.mem_image.mp member
    have key : a.key ∈ (trials.map (·.1)).toFinset := image ▸ Finset.mem_image_of_mem _ held
    obtain ⟨trial, member, same⟩ := mem_map.mp (mem_toFinset.mp key)
    exact ⟨trial, member, congrArg f same⟩
  · rintro ⟨trial, member, rfl⟩
    have key : trial.1 ∈ (trials.flatMap (·.2)).toFinset.image (·.key) := by
      rw [image, mem_toFinset]
      exact mem_map_of_mem member
    obtain ⟨a, held, same⟩ := Finset.mem_image.mp key
    exact Finset.mem_image.mpr ⟨a, held, congrArg f same⟩

theorem byClass_eq (trials : Trials) :
    byClass trials = (keys (fun trial => trial.1.class') trials).map fun c =>
      (c, (trials.filter fun trial => trial.1.class' = c).flatMap (·.2)) := by
  rw [byClass, flatMap_group]

theorem Whole.strata (whole : Whole k trials) (positive : 0 < k) (threshold : Nat) :
    strataOf k threshold (byClass trials) =
      strataOfScope k threshold (trials.flatMap (·.2)).toFinset := by
  rw [strataOf, byClass_eq, map_map, whole.parts positive TrialKey.class', strataOfScope]
  apply map_congr_left
  intro c _
  rw [Function.comp_apply, (whole.filter _).summarize positive threshold c,
    whole.part TrialKey.class' c]
  rfl

/-- Listing the trials by class only reorders them. -/
theorem Whole.byClass_aggregate (whole : Whole k trials) (positive : 0 < k) (threshold : Nat) :
    Reliability.summarize allClass ((byClass trials).flatMap (·.2)) k threshold =
      .of k threshold allClass (trials.flatMap (·.2)).toFinset := by
  have reordered : ((keys (fun trial => trial.1.class') trials).flatMap fun c =>
      trials.filter fun trial => trial.1.class' = c).Perm trials :=
    flatMap_filter_perm (nodup_keys _ trials) fun trial member =>
      mem_keys.mpr ⟨trial, member, rfl⟩
  have listed : (byClass trials).flatMap (·.2) =
      ((keys (fun trial => trial.1.class') trials).flatMap fun c =>
        trials.filter fun trial => trial.1.class' = c).flatMap (·.2) := by
    rw [byClass_eq, flatMap_map, flatMap_assoc]
  rw [listed, (whole.perm reordered).summarize positive]
  congr 1
  exact toFinset_eq_of_perm _ _ (reordered.flatMap_right _)

theorem byEpoch_eq (trials : Trials) :
    byEpoch trials = (keys (fun trial => trial.1.epochId) trials).map fun epoch =>
      (epoch, byClass (trials.filter fun trial => trial.1.epochId = epoch)) :=
  group_eq _ _ _ trials

theorem Whole.epochs (whole : Whole k trials) (positive : 0 < k) (threshold : Nat) :
    ((byEpoch trials).map fun epoch => EpochReport.mk epoch.1
        (Reliability.summarize allClass (epoch.2.flatMap (·.2)) k threshold)
        (strataOf k threshold epoch.2)) =
      (ReliabilityReport.of k threshold (trials.flatMap (·.2)).toFinset).epochs := by
  rw [byEpoch_eq, map_map, whole.parts positive TrialKey.epochId, ReliabilityReport.of]
  apply map_congr_left
  intro epoch _
  have part := whole.filter fun trial => trial.1.epochId = epoch
  rw [Function.comp_apply, part.byClass_aggregate positive, part.strata positive,
    whole.part TrialKey.epochId epoch]
  rfl

end Parts

/-! ## Acceptance -/

section Acceptance
variable {expected : List PlannedAttempt} {observations : List TrialAttempt} {k threshold : Nat}

def PlannedAttempt.slot (planned : PlannedAttempt) : TrialKey × Nat :=
  (trialKey planned.class' planned.identity, planned.identity.attemptIndex)

/-- What the checks of the report come to, in terms that do not depend on the order of either
list. -/
structure Accepted (expected : List PlannedAttempt) (observations : List TrialAttempt) (k : Nat) :
    Prop where
  planned : expected ≠ [] ∧ expected.length ≤ maxReliabilityObservations
  observed : observations ≠ [] ∧ observations.length ≤ maxReliabilityObservations
  width : 0 < k ∧ k ≤ maxAttemptsPerTrial
  indices : ∀ p ∈ expected, p.identity.attemptIndex < k
  slots : (expected.map (·.slot)).Nodup
  distinct : (observations.map (·.planned)).Nodup
  answered : expected.toFinset = (observations.map (·.planned)).toFinset
  complete : Complete k observations

theorem enrol_eq_ok {sets next : Finset PlannedAttempt × Finset (TrialKey × Nat)}
    {p : PlannedAttempt} :
    enrol k sets p = .ok next ↔ p.identity.attemptIndex < k ∧ p ∉ sets.1 ∧ p.slot ∉ sets.2 ∧
      next = (insert p sets.1, insert p.slot sets.2) := by
  simp only [enrol, bind_eq_ok, refuse_eq_ok, pure_eq_ok, not_or, Nat.not_le, ge_iff_le,
    PlannedAttempt.slot]
  constructor
  · rintro ⟨_, within, _, ⟨new, free⟩, rfl⟩
    exact ⟨within, new, free, rfl⟩
  · rintro ⟨within, new, free, rfl⟩
    exact ⟨⟨⟩, within, ⟨⟩, ⟨new, free⟩, rfl⟩

/-- Keys are distinct and new to a set: the first is new, the rest are new to what it leaves. -/
theorem nodup_apart_cons {α β : Type*} [DecidableEq β] {key : α → β} {a : α} {rest : List α}
    {held : Finset β} :
    ((a :: rest).map key).Nodup ∧ (∀ b ∈ a :: rest, key b ∉ held) ↔
      key a ∉ held ∧ (rest.map key).Nodup ∧ ∀ b ∈ rest, key b ∉ insert (key a) held := by
  simp only [map_cons, nodup_cons, mem_map, forall_mem_cons, Finset.mem_insert,
    not_or]
  constructor
  · rintro ⟨⟨fresh, distinct⟩, new, apart⟩
    exact ⟨new, distinct, fun b member => ⟨fun same => fresh ⟨b, member, same⟩, apart b member⟩⟩
  · rintro ⟨new, distinct, apart⟩
    refine ⟨⟨?_, distinct⟩, new, fun b member => (apart b member).2⟩
    rintro ⟨b, member, same⟩
    exact (apart b member).1 same

/-- The sets of an enrolment that succeeds; a plan entry whose slot is new is new itself. -/
theorem enrolAll_eq_ok {planned : Finset PlannedAttempt} {slots : Finset (TrialKey × Nat)}
    {next : Finset PlannedAttempt × Finset (TrialKey × Nat)}
    (taken : ∀ p ∈ planned, p.slot ∈ slots) :
    expected.foldlM (enrol k) (planned, slots) = .ok next ↔
      (∀ p ∈ expected, p.identity.attemptIndex < k) ∧ (expected.map (·.slot)).Nodup ∧
        (∀ p ∈ expected, p.slot ∉ slots) ∧
        next = (planned ∪ expected.toFinset, slots ∪ (expected.map (·.slot)).toFinset) := by
  induction expected generalizing planned slots with
  | nil => simp [pure, Except.pure, eq_comm]
  | cons p rest ih =>
    have still : ∀ q ∈ insert p planned, q.slot ∈ insert p.slot slots := by
      intro q member
      rcases Finset.mem_insert.mp member with rfl | member
      · exact Finset.mem_insert_self _ _
      · exact Finset.mem_insert_of_mem (taken q member)
    rw [← and_assoc (a := (List.map _ _).Nodup), nodup_apart_cons, forall_mem_cons]
    simp only [foldlM_cons, bind_eq_ok, enrol_eq_ok]
    constructor
    · rintro ⟨_, ⟨within, new, free, rfl⟩, ended⟩
      obtain ⟨indices, distinct, apart, rfl⟩ := (ih still).mp ended
      refine ⟨⟨within, indices⟩, ⟨free, distinct, apart⟩, ?_⟩
      simp [Finset.insert_union, Finset.union_insert]
    · rintro ⟨⟨within, indices⟩, ⟨free, distinct, apart⟩, rfl⟩
      refine ⟨_, ⟨within, fun held => free (taken p held), free, rfl⟩, (ih still).mpr ?_⟩
      refine ⟨indices, distinct, apart, ?_⟩
      simp [Finset.insert_union, Finset.union_insert]

theorem observeAll_eq_ok {seen next : Finset PlannedAttempt} :
    observations.foldlM observe seen = .ok next ↔
      (observations.map (·.planned)).Nodup ∧ (∀ a ∈ observations, a.planned ∉ seen) ∧
        next = seen ∪ (observations.map (·.planned)).toFinset := by
  induction observations generalizing seen with
  | nil => simp [pure, Except.pure, eq_comm]
  | cons a rest ih =>
    rw [← and_assoc, nodup_apart_cons]
    simp only [foldlM_cons, bind_eq_ok, observe, refuse_eq_ok, pure_eq_ok, ih]
    constructor
    · rintro ⟨_, ⟨_, new, rfl⟩, distinct, apart, rfl⟩
      refine ⟨⟨new, distinct, apart⟩, ?_⟩
      simp [Finset.insert_union, Finset.union_insert]
    · rintro ⟨⟨new, distinct, apart⟩, rfl⟩
      refine ⟨_, ⟨⟨⟩, new, rfl⟩, distinct, apart, ?_⟩
      simp [Finset.insert_union, Finset.union_insert]

/-- The report over whole trials. -/
theorem Complete.report (complete : Complete k observations) (positive : 0 < k) (threshold : Nat) :
    ReliabilityReport.mk threshold
        (summarize allClass ((trialsOf observations).flatMap (·.2)) k threshold)
        (strataOf k threshold (byClass (trialsOf observations)))
        ((byEpoch (trialsOf observations)).map fun epoch =>
          ⟨epoch.1, summarize allClass (epoch.2.flatMap (·.2)) k threshold,
            strataOf k threshold epoch.2⟩) =
      .of k threshold observations.toFinset := by
  have whole := complete.whole
  rw [whole.summarize positive, whole.strata positive, whole.epochs positive,
    trialsOf_attempts]
  rfl

theorem analyzeReliability_eq_ok {report : ReliabilityReport} :
    analyzeReliability expected observations k threshold = .ok report ↔
      Accepted expected observations k ∧ report = .of k threshold observations.toFinset := by
  have enrolled := fun next => @enrolAll_eq_ok expected k ∅ ∅ next (fun _ member => nomatch member)
  simp only [analyzeReliability, bind_eq_ok, refuse_eq_ok, pure_eq_ok, enrolled, observeAll_eq_ok,
    checkAll_complete, not_or]
  constructor
  · rintro ⟨_, planned, _, observed, _, width, _, ⟨indices, slots, -, rfl⟩, _,
      ⟨distinct, -, rfl⟩, _, answered, _, complete, rfl⟩
    simp only [Finset.empty_union, not_not] at answered
    have positive : 0 < k := Nat.pos_of_ne_zero width.1
    refine ⟨⟨?_, ?_, ⟨positive, Nat.le_of_not_lt width.2⟩, indices, slots, distinct, answered,
      complete⟩, ?_⟩
    · exact ⟨planned.1, Nat.le_of_not_lt planned.2⟩
    · exact ⟨observed.1, Nat.le_of_not_lt observed.2⟩
    · exact (complete.report positive threshold)
  · rintro ⟨accepted, rfl⟩
    refine ⟨⟨⟩, ⟨accepted.planned.1, Nat.not_lt.mpr accepted.planned.2⟩, ⟨⟩,
      ⟨accepted.observed.1, Nat.not_lt.mpr accepted.observed.2⟩, ⟨⟩,
      ⟨Nat.ne_of_gt accepted.width.1, Nat.not_lt.mpr accepted.width.2⟩, _,
      ⟨accepted.indices, accepted.slots, by simp, rfl⟩, _, ⟨accepted.distinct, by simp, rfl⟩,
      ⟨⟩, ?_, ⟨⟩, accepted.complete, accepted.complete.report accepted.width.1 threshold⟩
    simpa using accepted.answered

theorem Complete.perm (complete : Complete k observations) (same : others.Perm observations) :
    Complete k others := by
  intro a member
  have reordered := (same.filter fun b => b.key = a.key).map (·.attemptIndex)
  exact reordered.trans (complete a (same.mem_iff.mp member))

theorem Accepted.perm (accepted : Accepted expected observations k) (plan : expected'.Perm expected)
    (seen : observations'.Perm observations) : Accepted expected' observations' k where
  planned := ⟨fun none => accepted.planned.1 (by simpa [none] using plan.symm),
    plan.length_eq ▸ accepted.planned.2⟩
  observed := ⟨fun none => accepted.observed.1 (by simpa [none] using seen.symm),
    seen.length_eq ▸ accepted.observed.2⟩
  width := accepted.width
  indices p member := accepted.indices p (plan.mem_iff.mp member)
  slots := (plan.map _).nodup_iff.mpr accepted.slots
  distinct := (seen.map _).nodup_iff.mpr accepted.distinct
  answered := by
    rw [toFinset_eq_of_perm _ _ plan, toFinset_eq_of_perm _ _ (seen.map _)]
    exact accepted.answered
  complete := accepted.complete.perm seen

end Acceptance

/-! ## Totals -/

/-- The counts of a report. -/
inductive Count where
  | trials | firstAttemptPass | passAtK | allKPass
  | passed | failed | timedOut | cancelled | notStarted
  | planned | started | starved | queueTotalNs | sloMet | sloViolated | sloUnavailable
  deriving DecidableEq, Repr

def StratumReport.count (report : StratumReport) : Count → Nat
  | .trials => report.reliability.trials
  | .firstAttemptPass => report.reliability.firstAttemptPass.numerator
  | .passAtK => report.reliability.passAtK.numerator
  | .allKPass => report.reliability.allKPass.numerator
  | .passed => report.outcomes.passed
  | .failed => report.outcomes.failed
  | .timedOut => report.outcomes.timedOut
  | .cancelled => report.outcomes.cancelled
  | .notStarted => report.outcomes.notStarted
  | .planned => report.fairness.planned
  | .started => report.fairness.started
  | .starved => report.fairness.starved
  | .queueTotalNs => report.fairness.queueTotalNs
  | .sloMet => report.fairness.sloMet
  | .sloViolated => report.fairness.sloViolated
  | .sloUnavailable => report.fairness.sloUnavailable

section Totals
variable {γ : Type} [LinearOrder γ] (scope : Finset TrialAttempt) (f : TrialKey → γ)

/-- A count of trials adds up over any split of the trials. -/
theorem trialsWhere_fiberwise (meets : Finset TrialAttempt → Prop) [DecidablePred meets] :
    trialsWhere scope meets = ∑ x ∈ scope.image (fun a => f a.key),
      trialsWhere (scope.filter fun a => f a.key = x) meets := by
  have covered : ∀ key ∈ (scope.image (·.key)).filter fun trial =>
      meets (scope.filter fun a => a.key = trial), f key ∈ scope.image fun a => f a.key := by
    intro key member
    obtain ⟨a, held, rfl⟩ := Finset.mem_image.mp (Finset.mem_filter.mp member).1
    exact Finset.mem_image.mpr ⟨a, held, rfl⟩
  rw [trialsWhere, Finset.card_eq_sum_card_fiberwise covered]
  apply Finset.sum_congr rfl
  intro x _
  rw [trialsWhere]
  congr 1
  ext key
  -- within the part of its own value a trial keeps all its attempts
  have own : f key = x → (scope.filter fun a => f a.key = x).filter (fun a => a.key = key) =
      scope.filter fun a => a.key = key := by
    intro same
    rw [Finset.filter_filter]
    apply Finset.filter_congr
    intro a _
    constructor
    · exact fun both => both.2
    · exact fun named => ⟨named ▸ same, named⟩
  simp only [Finset.mem_filter, Finset.mem_image]
  constructor
  · rintro ⟨⟨⟨a, held, rfl⟩, meeting⟩, same⟩
    exact ⟨⟨a, ⟨held, same⟩, rfl⟩, (own same).symm ▸ meeting⟩
  · rintro ⟨⟨a, ⟨held, same⟩, rfl⟩, meeting⟩
    exact ⟨⟨⟨a, held, rfl⟩, own same ▸ meeting⟩, same⟩

theorem sum_fiberwise (weight : TrialAttempt → Nat) :
    ∑ a ∈ scope, weight a = ∑ x ∈ scope.image (fun a => f a.key),
      ∑ a ∈ scope.filter (fun a => f a.key = x), weight a :=
  (Finset.sum_fiberwise_of_maps_to (fun _ held => Finset.mem_image_of_mem _ held) weight).symm

theorem card_filter_fiberwise (p : TrialAttempt → Prop) [DecidablePred p] :
    (scope.filter p).card = ∑ x ∈ scope.image (fun a => f a.key),
      ((scope.filter fun a => f a.key = x).filter p).card := by
  simp only [Finset.card_filter]
  exact sum_fiberwise scope f _

/-- Every count of the report on a set is the sum of those on its parts. -/
theorem count_fiberwise (k threshold : Nat) (c : WorkloadClass) (name : γ → WorkloadClass)
    (count : Count) :
    (StratumReport.of k threshold c scope).count count =
      ∑ x ∈ scope.image (fun a => f a.key),
        (StratumReport.of k threshold (name x) (scope.filter fun a => f a.key = x)).count
          count := by
  have trials := trialsWhere_fiberwise scope f fun _ => True
  simp only [trialsWhere, Finset.filter_true] at trials
  cases count <;> simp only [StratumReport.count, StratumReport.of]
  case trials => exact trials
  case firstAttemptPass => exact trialsWhere_fiberwise scope f _
  case passAtK => exact trialsWhere_fiberwise scope f _
  case allKPass => exact trialsWhere_fiberwise scope f _
  case planned => exact Finset.card_eq_sum_card_image _ scope
  case queueTotalNs => exact sum_fiberwise scope f _
  all_goals exact card_filter_fiberwise scope f _

/-- The sum over the ascending list of a set. -/
theorem sum_map_sort (values : Finset γ) (g : γ → Nat) :
    ((values.sort (· ≤ ·)).map g).sum = ∑ x ∈ values, g x := by
  rw [← sum_toFinset g (Finset.sort_nodup values _), Finset.sort_toFinset]

theorem strataOfScope_count (k threshold : Nat) (c : WorkloadClass) (count : Count) :
    (StratumReport.of k threshold c scope).count count =
      ((strataOfScope k threshold scope).map (·.count count)).sum := by
  rw [strataOfScope, map_map, sum_map_sort,
    count_fiberwise scope TrialKey.class' k threshold c id count]
  rfl

theorem epochs_count (k threshold : Nat) (count : Count) :
    (StratumReport.of k threshold allClass scope).count count =
      ((ReliabilityReport.of k threshold scope).epochs.map (·.aggregate.count count)).sum := by
  rw [ReliabilityReport.of, map_map, sum_map_sort,
    count_fiberwise scope TrialKey.epochId k threshold allClass (fun _ => allClass) count]
  rfl

end Totals

/-- An accepted report is the set-based report on its observations; its counts add up over the
classes, over the epochs, and within each epoch over its classes; and it does not depend on the
order of the plan or of the observations. -/
theorem reliability_report {expected : List PlannedAttempt} {observations : List TrialAttempt}
    {k threshold : Nat} {report : ReliabilityReport}
    (accepted : analyzeReliability expected observations k threshold = .ok report) :
    report = .of k threshold observations.toFinset ∧
      (∀ count, report.aggregate.count count = (report.strata.map (·.count count)).sum ∧
        report.aggregate.count count = (report.epochs.map (·.aggregate.count count)).sum ∧
        ∀ epoch ∈ report.epochs,
          epoch.aggregate.count count = (epoch.strata.map (·.count count)).sum) ∧
      ∀ expected' observations', expected'.Perm expected → observations'.Perm observations →
        analyzeReliability expected' observations' k threshold = .ok report := by
  obtain ⟨checked, rfl⟩ := analyzeReliability_eq_ok.mp accepted
  refine ⟨rfl, ?_, ?_⟩
  · intro count
    refine ⟨strataOfScope_count _ k threshold allClass count, epochs_count _ k threshold count, ?_⟩
    intro epoch member
    obtain ⟨id, -, rfl⟩ := mem_map.mp member
    exact strataOfScope_count _ k threshold allClass count
  · intro expected' observations' plan seen
    rw [analyzeReliability_eq_ok]
    refine ⟨checked.perm plan seen, ?_⟩
    rw [toFinset_eq_of_perm _ _ seen]

section Sample

def sampleClass (workload : String) (valid : validComponent workload = true) : WorkloadClass :=
  ⟨workload, "rust", "easy", valid, by decide +kernel, by decide +kernel⟩

def sampleIdentity (trial : Nat) (index : Fin 2) : AttemptIdentity :=
  ⟨7, trial, index, 0, by unfold maxAttemptsPerTrial; omega⟩

/-- Two classes with one trial of two attempts each, listed out of order. -/
def sampleObservations : List TrialAttempt :=
  let build := sampleClass "build" (by decide +kernel)
  let alpha := sampleClass "alpha" (by decide +kernel)
  [⟨build, sampleIdentity 1 1, .passed, some 9, .met, by decide⟩,
    ⟨alpha, sampleIdentity 1 0, .failed, some 2, .violated, by decide⟩,
    ⟨build, sampleIdentity 1 0, .notStarted, none, .unavailable, by decide⟩,
    ⟨alpha, sampleIdentity 1 1, .failed, some 4, .violated, by decide⟩]

theorem reliability_report_sample :
    ∃ report, analyzeReliability (sampleObservations.map (·.planned)) sampleObservations 2 5 =
        .ok report ∧
      (report.strata.map fun stratum => (stratum.class'.workload, stratum.count .passAtK)) =
        [("alpha", 0), ("build", 1)] ∧
      analyzeReliability (sampleObservations.map (·.planned)) sampleObservations.reverse 2 5 =
        .ok report := by
  have evaluated : (analyzeReliability (sampleObservations.map (·.planned)) sampleObservations 2
      5).toOption.map (fun report => report.strata.map fun stratum =>
        (stratum.class'.workload, stratum.count .passAtK)) =
        some [("alpha", 0), ("build", 1)] := by decide +kernel
  cases result : analyzeReliability (sampleObservations.map (·.planned)) sampleObservations 2 5 with
  | error e => simp [result, Except.toOption] at evaluated
  | ok report =>
    rw [result] at evaluated
    refine ⟨report, rfl, Option.some.inj evaluated, ?_⟩
    exact (reliability_report result).2.2 _ _ (.refl _) (reverse_perm _)

end Sample

end AgentSystemsBenchmark.Reliability
