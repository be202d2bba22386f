import AgentSystemsBenchmark.Replay.Cassette

/-!
# Recording campaigns

A campaign is the matrix of agents and workloads to record. Each tuple of the matrix is
attempted once, under an attempt identity made of the agent and the workload, and offline
execution asks for one complete coverage record for each tuple.
-/

namespace AgentSystemsBenchmark.Replay.Workflow

open Effects List

def recordingWorkflowSchemaVersion : Nat := 1
def maxWorkflowAgentBytes : Nat := 128
def maxRecordingCampaignTuples : Nat := 256

inductive RecordingWorkflowError where
  | campaignInvalid | campaignTooLarge | coverageTransition | coverageIncomplete
  deriving DecidableEq, Repr

def validIdentity (value : String) : Bool :=
  value ≠ "" && value.utf8ByteSize ≤ maxWorkflowAgentBytes &&
    value.toList.all fun c => asciiAlphanumeric c || c = '-' || c = '_' || c = '.' || c = '/'

structure RecordingTuple where
  providerProfileSha256 : String
  agentId : String
  workloadId : String
  scorerRevision : String
  /-- Stable attempt identity used to prevent duplicate paid work. -/
  attemptId : String
  estimatedCostMinor : Nat
  deriving DecidableEq, Repr

/-! ## Coverage -/

inductive RecordingCoverageState where
  | ready | inProgress | complete | failed | stale
  deriving DecidableEq, Repr

structure RecordingCoverage where
  tuple : RecordingTuple
  state : RecordingCoverageState
  deriving DecidableEq, Repr

def allowed : RecordingCoverageState → RecordingCoverageState → Bool
  | .ready, .inProgress => true
  | .inProgress, .complete | .inProgress, .failed | .inProgress, .stale => true
  | _, _ => false

def RecordingCoverage.transition (entry : RecordingCoverage) (next : RecordingCoverageState) :
    Except RecordingWorkflowError RecordingCoverage := do
  refuse (allowed entry.state next = false) .coverageTransition
  return { entry with state := next }

theorem RecordingCoverage.transition_ok {entry entry' : RecordingCoverage}
    {next : RecordingCoverageState} (h : entry.transition next = .ok entry') :
    entry'.tuple = entry.tuple := by
  rw [transition, seq_eq_ok] at h
  cases pure_eq_ok.mp h.2
  rfl

/-! ## Campaigns -/

structure RecordingCampaign where
  schemaVersion : Nat
  providerProfileSha256 : String
  agentIds : List String
  /-- Workloads with their scorer revisions. -/
  workloads : List (String × String)
  maxTuples : Nat
  costPerTupleMinor : Nat

open RecordingCampaign

namespace RecordingCampaign

def attemptId (agentId workloadId : String) : String := agentId ++ "-" ++ workloadId ++ "-attempt"

variable (campaign : RecordingCampaign)

def tuple (agentId : String) (workload : String × String) : RecordingTuple where
  providerProfileSha256 := campaign.providerProfileSha256
  agentId := agentId
  workloadId := workload.1
  scorerRevision := workload.2
  attemptId := attemptId agentId workload.1
  estimatedCostMinor := campaign.costPerTupleMinor

-- Every refusal inside the loops is the same, so the tuples are built after all the checks.
def expand : Except RecordingWorkflowError (List RecordingTuple) := do
  refuse (campaign.schemaVersion ≠ recordingWorkflowSchemaVersion ∨ campaign.maxTuples = 0 ∨
      campaign.maxTuples > maxRecordingCampaignTuples ∨ campaign.agentIds = [] ∨
      campaign.workloads = [] ∨ validDigest campaign.providerProfileSha256 = false)
    .campaignInvalid
  refuse (campaign.agentIds.length * campaign.workloads.length > campaign.maxTuples ∨
      campaign.agentIds.length * campaign.workloads.length > maxRecordingCampaignTuples)
    .campaignTooLarge
  checkAll (fun agentId => do
      refuse (validIdentity agentId = false) .campaignInvalid
      checkAll (fun workload => refuse (validIdentity workload.1 = false ∨
        validIdentity workload.2 = false) .campaignInvalid) campaign.workloads)
    campaign.agentIds
  return (campaign.agentIds.product campaign.workloads).map fun pair => campaign.tuple pair.1 pair.2

/-- What the capture of a tuple answers, by the number of the call. -/
abbrev Capture := Nat → RecordingTuple → Except RecordingWorkflowError RecordingCoverageState

/-- Each tuple in turn, by the number of the call: its capture, and whether the campaign was
cancelled before it. -/
def executeFrom (capture : Capture) (cancelled : Nat → Bool) :
    Nat → List RecordingTuple → Except RecordingWorkflowError (List RecordingCoverage)
  | _, [] => .ok []
  | n, tuple :: rest =>
    if cancelled n then .ok []
    else do
      let entry ← RecordingCoverage.transition ⟨tuple, .ready⟩ .inProgress
      let terminal ← capture n entry.tuple
      let entry ← entry.transition terminal
      let coverage ← executeFrom capture cancelled (n + 1) rest
      return entry :: coverage

def execute (capture : Capture) (cancelled : Nat → Bool) :
    Except RecordingWorkflowError (List RecordingCoverage) := do
  let tuples ← campaign.expand
  executeFrom capture cancelled 0 tuples

/-- Require exactly one complete coverage record for every requested tuple. -/
def requireCompleteCoverage (coverage : List RecordingCoverage) :
    Except RecordingWorkflowError Unit := do
  let tuples ← campaign.expand
  refuse (coverage.length ≠ tuples.length ∨
      (∃ tuple ∈ tuples, (coverage.filter fun entry => entry.tuple = tuple).length ≠ 1) ∨
      ∃ entry ∈ coverage, entry.state ≠ .complete)
    .coverageIncomplete

variable {campaign}

variable {tuples : List RecordingTuple}

theorem expand_ok (h : campaign.expand = .ok tuples) :
    campaign.agentIds ≠ [] ∧ campaign.workloads ≠ [] ∧
      tuples = (campaign.agentIds.product campaign.workloads).map fun pair =>
        campaign.tuple pair.1 pair.2 := by
  rw [expand, seq_eq_ok, seq_eq_ok, seq_eq_ok, refuse_eq_ok] at h
  obtain ⟨shape, -, -, built⟩ := h
  push Not at shape
  obtain ⟨-, -, -, agents, workloads, -⟩ := shape
  exact ⟨agents, workloads, (pure_eq_ok.mp built).symm⟩

variable {coverage : List RecordingCoverage}

/-- A run that is not cancelled covers the tuples in their order. -/
theorem executeFrom_tuples {capture : Capture} {cancelled : Nat → Bool}
    (runs : ∀ n, cancelled n = false) {n : Nat}
    (h : executeFrom capture cancelled n tuples = .ok coverage) :
    coverage.map (·.tuple) = tuples := by
  induction tuples generalizing n coverage with
  | nil =>
    cases h
    rfl
  | cons tuple rest ih =>
    rw [executeFrom, runs n, if_neg Bool.false_ne_true, bind_eq_ok] at h
    obtain ⟨started, begun, h⟩ := h
    obtain ⟨terminal, -, h⟩ := bind_eq_ok.mp h
    obtain ⟨entry, ended, h⟩ := bind_eq_ok.mp h
    obtain ⟨later, onward, h⟩ := bind_eq_ok.mp h
    cases pure_eq_ok.mp h
    rw [map_cons, ih onward, RecordingCoverage.transition_ok ended,
      RecordingCoverage.transition_ok begun]

/-- Two attempts share their name when agent and workload agree, or when the longer agent takes the
first part of the other's workload. -/
theorem attemptId_eq {a b v w : String} (h : attemptId a w = attemptId b v) :
    a = b ∧ w = v ∨ (∃ x, b = a ++ "-" ++ x ∧ w = x ++ "-" ++ v) ∨
      ∃ x, a = b ++ "-" ++ x ∧ v = x ++ "-" ++ w := by
  have texts : a.toList ++ '-' :: w.toList = b.toList ++ '-' :: v.toList := by
    have same := congrArg String.toList h
    simp only [attemptId, String.toList_append] at same
    simpa using append_cancel_right same
  -- What the longer agent has beyond the shorter one starts with the separator.
  have longer : ∀ {a b v w : String} {more : List Char}, b.toList = a.toList ++ more →
      '-' :: w.toList = more ++ '-' :: v.toList →
      a = b ∧ w = v ∨ ∃ x, b = a ++ "-" ++ x ∧ w = x ++ "-" ++ v := by
    intro a b v w more agent workload
    cases more with
    | nil =>
      rw [append_nil] at agent
      exact .inl ⟨(String.toList_injective agent).symm,
        String.toList_injective (List.cons.inj workload).2⟩
    | cons dash x =>
      obtain ⟨rfl, workload⟩ := List.cons.inj workload
      refine .inr ⟨String.ofList x, ?_, ?_⟩ <;> apply String.toList_injective
      · simpa using agent
      · simpa using workload
  rcases append_eq_append_iff.mp texts with ⟨more, agent, workload⟩ | ⟨more, agent, workload⟩
  · exact (longer agent workload).imp_right .inl
  · rcases longer agent workload with ⟨agents, workloads⟩ | tangled
    · exact .inl ⟨agents.symm, workloads.symm⟩
    · exact .inr (.inr tangled)

/-- Agents and workloads are listed once, and where one agent's name is another's with a part `x`
after a dash, no workload's name starts with `x` and continues with another one's. -/
structure Apart (campaign : RecordingCampaign) : Prop where
  agents : campaign.agentIds.Nodup
  workloads : (campaign.workloads.map Prod.fst).Nodup
  untangled : ∀ a ∈ campaign.agentIds, ∀ v ∈ campaign.workloads, ∀ x,
    a ++ "-" ++ x ∈ campaign.agentIds → x ++ "-" ++ v.1 ∉ campaign.workloads.map Prod.fst

theorem attempts_eq (h : campaign.expand = .ok tuples) :
    tuples.map (·.attemptId) = campaign.agentIds.flatMap fun a =>
      (campaign.workloads.map Prod.fst).map (attemptId a) := by
  rw [(expand_ok h).2.2, map_map, product, map_flatMap]
  simp only [map_map]
  rfl

theorem attempts_nodup_iff (h : campaign.expand = .ok tuples) :
    (tuples.map (·.attemptId)).Nodup ↔ campaign.Apart := by
  rw [attempts_eq h, nodup_flatMap]
  constructor
  · rintro ⟨rows, disjoint⟩
    obtain ⟨someAgent, someWorkload, -⟩ := expand_ok h
    obtain ⟨agent, listed⟩ := exists_mem_of_ne_nil _ someAgent
    obtain ⟨workload, offered⟩ := exists_mem_of_ne_nil _ someWorkload
    refine ⟨disjoint.imp ?_, (rows agent listed).of_map, ?_⟩
    · rintro a _ apart rfl
      have mem := mem_map_of_mem (f := attemptId a) (mem_map_of_mem (f := Prod.fst) offered)
      exact apart mem mem
    · intro a memA v memV x longer tangled
      have differ : a ≠ a ++ "-" ++ x := by
        intro same
        have lengths := congrArg (·.toList.length) same
        simp at lengths
      have both_ways : Std.Symm (Function.onFun List.Disjoint fun a =>
        (campaign.workloads.map Prod.fst).map (attemptId a)) := ⟨fun _ _ => List.Disjoint.symm⟩
      have same : attemptId (a ++ "-" ++ x) v.1 = attemptId a (x ++ "-" ++ v.1) := by
        simp only [attemptId, String.append_assoc]
      exact disjoint.forall memA longer differ (mem_map_of_mem tangled)
        (same ▸ mem_map_of_mem (mem_map_of_mem memV))
  · intro apart
    constructor
    · intro a memA
      refine apart.workloads.map fun w v same => ?_
      simpa [attemptId] using same
    · refine apart.agents.imp_of_mem fun {a b} memA memB differ attempt first second => ?_
      obtain ⟨w, memW, rfl⟩ := mem_map.mp first
      obtain ⟨v, memV, same⟩ := mem_map.mp second
      obtain ⟨workload, offered, rfl⟩ := mem_map.mp memV
      obtain ⟨other, offered', rfl⟩ := mem_map.mp memW
      rcases attemptId_eq same with ⟨agents, -⟩ | ⟨x, rfl, tangled⟩ | ⟨x, rfl, tangled⟩
      · exact differ agents.symm
      · exact apart.untangled _ memB _ offered' x memA (tangled ▸ memV)
      · exact apart.untangled _ memA _ offered x memB (tangled ▸ memW)

theorem requireCompleteCoverage_ok
    (expanded : campaign.expand = .ok tuples)
    (distinct : tuples.Nodup) (covered : coverage.map (·.tuple) = tuples)
    (complete : ∀ entry ∈ coverage, entry.state = .complete) :
    campaign.requireCompleteCoverage coverage = .ok () := by
  rw [requireCompleteCoverage, bind_eq_ok]
  refine ⟨tuples, expanded, refuse_eq_ok.mpr ?_⟩
  rintro (long | ⟨tuple, mem, other⟩ | ⟨entry, mem, other⟩)
  · rw [← covered, length_map] at long
    exact long rfl
  · refine other ?_
    rw [← countP_eq_length_filter, ← count_eq_one_of_mem distinct mem, ← covered,
      List.count, List.countP_map]
    rfl
  · exact other (complete entry mem)

/-- A campaign never aliases an attempt, with a complete run that is complete coverage, exactly
when its agents and workloads are told apart. -/
theorem campaign_attempts_apart {tuples : List RecordingTuple}
    (expanded : campaign.expand = .ok tuples) :
    (tuples.Nodup ∧ (tuples.map (·.attemptId)).Nodup ∧
      ∀ (capture : Capture) (cancelled : Nat → Bool) (coverage : List RecordingCoverage),
        (∀ n, cancelled n = false) → campaign.execute capture cancelled = .ok coverage →
        (∀ entry ∈ coverage, entry.state = .complete) →
        campaign.requireCompleteCoverage coverage = .ok ()) ↔ campaign.Apart := by
  rw [← attempts_nodup_iff expanded]
  refine ⟨fun held => held.2.1, fun attempts => ⟨attempts.of_map, attempts, ?_⟩⟩
  intro capture cancelled coverage runs executed complete
  rw [execute, bind_eq_ok] at executed
  obtain ⟨tuples', again, run⟩ := executed
  obtain rfl := Except.ok.inj (expanded.symm.trans again)
  exact requireCompleteCoverage_ok expanded attempts.of_map (executeFrom_tuples runs run) complete

end RecordingCampaign

/-- Sixty-four digits. -/
def profileDigest : String := String.ofList (List.replicate 64 '0')

/-- Two agents, one with a dash and the other's name before it, and a workload with a dash. -/
def dashedCampaign : RecordingCampaign :=
  ⟨1, profileDigest, ["mini-swe", "mini"], [("v", "s"), ("w-v", "s")], 4, 0⟩

def dashedTuples : List RecordingTuple :=
  [⟨profileDigest, "mini-swe", "v", "s", "mini-swe-v-attempt", 0⟩,
    ⟨profileDigest, "mini-swe", "w-v", "s", "mini-swe-w-v-attempt", 0⟩,
    ⟨profileDigest, "mini", "v", "s", "mini-v-attempt", 0⟩,
    ⟨profileDigest, "mini", "w-v", "s", "mini-w-v-attempt", 0⟩]

theorem campaign_attempts_apart_sample :
    dashedCampaign.expand = .ok dashedTuples ∧ dashedTuples.Nodup ∧
      dashedCampaign.requireCompleteCoverage (dashedTuples.map (⟨·, .complete⟩)) = .ok () := by
  have expanded : dashedCampaign.expand = .ok dashedTuples := by decide +kernel
  have apart : dashedCampaign.Apart := by
    refine ⟨by decide, by decide, ?_⟩
    -- The one part after a dash is swe, and no workload starts with it.
    intro a memA v memV x longer tangled
    have part : x = "swe" := by
      have texts : ∀ b ∈ dashedCampaign.agentIds, a ++ "-" ++ x = b → x = "swe" := by
        intro b memB same
        replace same := congrArg String.toList same
        apply String.toList_injective
        simp only [dashedCampaign, mem_cons, not_mem_nil, or_false] at memA memB
        rcases memA with rfl | rfl <;> rcases memB with rfl | rfl <;> simp at same
        simpa using same
      exact texts _ longer rfl
    subst part
    revert v
    decide
  obtain ⟨tuples, -, coverage⟩ := (campaign_attempts_apart expanded).mpr apart
  exact ⟨expanded, tuples, coverage (fun _ _ => .ok .complete) (fun _ => false) _ (fun _ => rfl)
    (by decide +kernel) (by simp)⟩

/-- The separator may stand in both identities: two tuples with one attempt. -/
theorem campaign_attempts_aliased :
    ¬ ∀ (campaign : RecordingCampaign) (tuples : List RecordingTuple),
      campaign.expand = .ok tuples → tuples.Nodup ∧ (tuples.map (·.attemptId)).Nodup := by
  intro claimed
  have expanded : expand
      ⟨1, profileDigest, ["a-b", "a"], [("c", "s"), ("b-c", "s")], 4, 0⟩ =
      .ok [⟨profileDigest, "a-b", "c", "s", "a-b-c-attempt", 0⟩,
        ⟨profileDigest, "a-b", "b-c", "s", "a-b-b-c-attempt", 0⟩,
        ⟨profileDigest, "a", "c", "s", "a-c-attempt", 0⟩,
        ⟨profileDigest, "a", "b-c", "s", "a-b-c-attempt", 0⟩] := by decide +kernel
  exact absurd (claimed _ _ expanded).2 (by decide)

end AgentSystemsBenchmark.Replay.Workflow
