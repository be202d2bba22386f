import AgentSystemsBenchmark.Library.Effects
import AgentSystemsBenchmark.Library.Runs

/-!
# Coordination of distributed workers

A coordinator leases attempts to registered workers. Each lease carries a fence, drawn from one
counter; a completion is accepted at most once for an attempt, and only under the fence, the
worker and the deadline of the lease on record. Times are given by the callers and need not
ascend. A map of the coordinator is its lookup function, its slots are a finite set.
-/

namespace AgentSystemsBenchmark.Distributed

open Effects List

def maxIdBytes : Nat := 128
def maxDurationNs : Nat := 86400000000000
def maxFence : Nat := 2 ^ 64 - 1

def validId (value : String) : Bool :=
  value ≠ "" ∧ value.utf8ByteSize ≤ maxIdBytes ∧
    value.toList.all (fun c => c.isAlphanum || c == '.' || c == '_' || c == '-')

def validDigest (value : String) : Bool :=
  value.utf8ByteSize = 64 ∧ value.toList.all (fun c => c.isDigit || ('a' ≤ c && c ≤ 'f'))

inductive CoordinationError where
  | invalidIdentity | invalidCapability | invalidCompletion | duplicateWorker | unknownWorker
  | capacityUnavailable | leaseActive | staleLease | duplicateCompletion
  deriving DecidableEq, Repr

structure WorkerId where
  value : String
  valid : validId value = true
  deriving DecidableEq

def WorkerId.new (value : String) : Except CoordinationError WorkerId :=
  if h : validId value = true then .ok ⟨value, h⟩ else .error .invalidIdentity

structure WorkerCapability where
  worker : WorkerId
  platform : String
  slots : UInt16
  valid : validId platform = true ∧ slots ≠ 0
  deriving DecidableEq

def WorkerCapability.new (worker : WorkerId) (platform : String) (slots : UInt16) :
    Except CoordinationError WorkerCapability :=
  if h : validId platform = true ∧ slots ≠ 0 then .ok ⟨worker, platform, slots, h⟩
  else .error .invalidCapability

structure AttemptLease where
  attempt : String
  worker : WorkerId
  fence : Nat
  expiresAtNs : Nat
  deriving DecidableEq

open AttemptLease

structure AttemptCompletion where
  attempt : String
  worker : WorkerId
  fence : Nat
  durationNs : Nat
  clockUncertaintyNs : Nat
  artifactSha256 : String
  valid : validId attempt = true ∧ fence ≠ 0 ∧ durationNs ≤ maxDurationNs ∧
    clockUncertaintyNs ≤ durationNs ∧ validDigest artifactSha256 = true
  deriving DecidableEq

def AttemptCompletion.new (attempt : String) (worker : WorkerId)
    (fence durationNs clockUncertaintyNs : Nat) (artifactSha256 : String) :
    Except CoordinationError AttemptCompletion :=
  if h : validId attempt = true ∧ fence ≠ 0 ∧ durationNs ≤ maxDurationNs ∧
      clockUncertaintyNs ≤ durationNs ∧ validDigest artifactSha256 = true then
    .ok ⟨attempt, worker, fence, durationNs, clockUncertaintyNs, artifactSha256, h⟩
  else .error .invalidCompletion

/-- The attempts held, each by a worker. -/
abbrev Slots := Finset (WorkerId × String)

structure Coordinator where
  workers : WorkerId → Option WorkerCapability
  leases : String → Option AttemptLease
  completions : String → Option AttemptCompletion
  activeAttempts : Slots
  nextFence : Nat

open Coordinator

def Coordinator.default : Coordinator := ⟨fun _ => none, fun _ => none, fun _ => none, ∅, 0⟩

/-! ## The operations -/

abbrev Op := EStateM CoordinationError Coordinator

/-- The capability is stored before the old one is looked at, so a refused registration has
replaced it. -/
def register (capability : WorkerCapability) : Op Unit := do
  let old := (← get).workers capability.worker
  modify fun c =>
    { c with workers := Function.update c.workers capability.worker (some capability) }
  if old.isSome then throw .duplicateWorker

def AttemptLease.lapse (lease : AttemptLease) (worker : WorkerId) : AttemptLease :=
  if lease.worker = worker then { lease with expiresAtNs := 0 } else lease

def remove (worker : WorkerId) : Op Unit :=
  modify fun c =>
    { c with
      workers := Function.update c.workers worker none
      leases := fun attempt => (c.leases attempt).map (·.lapse worker)
      activeAttempts := c.activeAttempts.filter fun slot => slot.1 ≠ worker }

/-- The first half of an acquisition: a current lease refuses it, the slot of an expired one is
given up. -/
def releaseExpired (attempt : String) (now : Nat) : Op Unit := do
  match (← get).leases attempt with
  | some old =>
    if old.expiresAtNs > now then throw .leaseActive
    modify fun c => { c with activeAttempts := c.activeAttempts.erase (old.worker, attempt) }
  | none => pure ()

def occupied (c : Coordinator) (worker : WorkerId) : Nat :=
  (c.activeAttempts.filter fun slot => slot.1 = worker).card

def saturatingAdd (a b : Nat) : Nat := min (a + b) (2 ^ 64 - 1)

def acquire (attempt : String) (worker : WorkerId) (now ttl : Nat) : Op AttemptLease := do
  if validId attempt = false ∨ ttl = 0 ∨ ttl > maxDurationNs then throw .invalidIdentity
  releaseExpired attempt now
  let c ← get
  match c.workers worker with
  | none => throw .unknownWorker
  | some capability =>
    if occupied c worker ≥ capability.slots.toNat then throw .capacityUnavailable
    if c.nextFence + 1 > maxFence then throw .staleLease
    let lease := ⟨attempt, worker, c.nextFence + 1, saturatingAdd now ttl⟩
    set { c with
      nextFence := c.nextFence + 1
      activeAttempts := insert (worker, attempt) c.activeAttempts
      leases := Function.update c.leases attempt (some lease) }
    pure lease

def complete (completion : AttemptCompletion) (now : Nat) : Op Unit := do
  let c ← get
  if (c.completions completion.attempt).isSome then throw .duplicateCompletion
  if (c.workers completion.worker).isNone then throw .staleLease
  match c.leases completion.attempt with
  | none => throw .staleLease
  | some lease =>
    if lease.worker ≠ completion.worker ∨ lease.fence ≠ completion.fence ∨
        lease.expiresAtNs ≤ now then
      throw .staleLease
    set { c with
      activeAttempts := c.activeAttempts.erase (lease.worker, lease.attempt)
      completions := Function.update c.completions completion.attempt (some completion) }

/-! ## Calls and replies -/

inductive Call where
  | register (capability : WorkerCapability)
  | remove (worker : WorkerId)
  | acquire (attempt : String) (worker : WorkerId) (now ttl : Nat)
  | complete (completion : AttemptCompletion) (now : Nat)

inductive Reply where
  | done
  | leased (lease : AttemptLease)
  | refused (error : CoordinationError)
  deriving DecidableEq

section Replies
variable {α : Type}

/-- The reply to an operation and the state it leaves, of a success and of a failure alike. -/
def replied (wrap : α → Reply) :
    EStateM.Result CoordinationError Coordinator α → Reply × Coordinator
  | .ok value after => (wrap value, after)
  | .error e after => (.refused e, after)

theorem wp_replied {P : Reply → Coordinator → Prop}
    (h : wp op (fun value after => P (wrap value) after) (fun e after => P (.refused e) after) c) :
    P (replied wrap (op c)).1 (replied wrap (op c)).2 := by
  unfold wp at h
  cases result : op c with
  | ok | error => rwa [result] at h

end Replies

def Coordinator.answer (c : Coordinator) : Call → Reply × Coordinator
  | .register capability => replied (fun _ => .done) (register capability c)
  | .remove worker => replied (fun _ => .done) (remove worker c)
  | .acquire attempt worker now ttl => replied .leased (acquire attempt worker now ttl c)
  | .complete completion now => replied (fun _ => .done) (complete completion now c)

def Coordinator.step (c : Coordinator) (call : Call) : Coordinator := (c.answer call).2

/-- The calls with their replies, in order. -/
def Coordinator.replies (c : Coordinator) : List Call → List (Call × Reply)
  | [] => []
  | call :: calls => (call, (c.answer call).1) :: (c.step call).replies calls

theorem Coordinator.replies_append (c : Coordinator) (first second : List Call) :
    c.replies (first ++ second) = c.replies first ++ (first.foldl step c).replies second := by
  induction first generalizing c with
  | nil => rfl
  | cons call first ih => simp only [cons_append, replies, ih, foldl_cons]

def leaseOf : Call × Reply → Option AttemptLease
  | (_, .leased lease) => some lease
  | _ => none

/-- The leases issued, in order. -/
def issued (history : List (Call × Reply)) : List AttemptLease := history.filterMap leaseOf

def completionOf : Call × Reply → Option AttemptCompletion
  | (.complete completion _, .done) => some completion
  | _ => none

/-- The completions accepted, in order. -/
def accepted (history : List (Call × Reply)) : List AttemptCompletion :=
  history.filterMap completionOf

theorem issued_concat (history : List (Call × Reply)) (entry : Call × Reply) :
    issued (history ++ [entry]) = issued history ++ (leaseOf entry).toList := by
  rw [issued, filterMap_append, ← issued]
  cases found : leaseOf entry <;> simp [found]

theorem accepted_concat (history : List (Call × Reply)) (entry : Call × Reply) :
    accepted (history ++ [entry]) = accepted history ++ (completionOf entry).toList := by
  rw [accepted, filterMap_append, ← accepted]
  cases found : completionOf entry <;> simp [found]

/-! ## What a call can do -/

/-- The slot an acquisition gives up: that of the expired lease on record. -/
inductive Vacated (c : Coordinator) (attempt : String) (now : Nat) : Slots → Prop where
  | unleased (free : c.leases attempt = none) : Vacated c attempt now c.activeAttempts
  | expired {old} (held : c.leases attempt = some old)
      (due : old.expiresAtNs ≤ now) :
      Vacated c attempt now (c.activeAttempts.erase (old.worker, attempt))

/-- The attempt can be named, and a lease can be this long. -/
def Formed (attempt : String) (ttl : Nat) : Prop :=
  validId attempt = true ∧ ttl ≠ 0 ∧ ttl ≤ maxDurationNs

/-- A well-formed acquisition finds an expired lease on record. -/
def Lapsed (c : Coordinator) (attempt : String) (now ttl : Nat) (lease : AttemptLease) : Prop :=
  Formed attempt ttl ∧ c.leases attempt = some lease ∧ lease.expiresAtNs ≤ now

inductive Answers (c : Coordinator) : Call → Reply → Coordinator → Prop where
  | register {capability} {reply}
      (short : leaseOf (.register capability, reply) = none) :
      Answers c (.register capability) reply
        { c with workers := Function.update c.workers capability.worker (some capability) }
  | remove {worker} :
      Answers c (.remove worker) .done
        { c with
          workers := Function.update c.workers worker none
          leases := fun attempt => (c.leases attempt).map (·.lapse worker)
          activeAttempts := c.activeAttempts.filter fun slot => slot.1 ≠ worker }
  | lease {attempt} {worker} {now ttl} {kept}
      (vacated : Vacated c attempt now kept) (expires : Nat) :
      Answers c (.acquire attempt worker now ttl)
        (.leased ⟨attempt, worker, c.nextFence + 1, expires⟩)
        { c with
          nextFence := c.nextFence + 1
          activeAttempts := insert (worker, attempt) kept
          leases := Function.update c.leases attempt
            (some ⟨attempt, worker, c.nextFence + 1, expires⟩) }
  | decline {attempt} {worker} {now ttl} {error}
      {kept} (vacated : (kept = c.activeAttempts ∧ ∀ lease, ¬ Lapsed c attempt now ttl lease) ∨
        Formed attempt ttl ∧ Vacated c attempt now kept) :
      Answers c (.acquire attempt worker now ttl) (.refused error) { c with activeAttempts := kept }
  | accept {completion} {now} {lease}
      (fresh : c.completions completion.attempt = none)
      (held : c.leases completion.attempt = some lease)
      (worker : lease.worker = completion.worker) (fence : lease.fence = completion.fence)
      (current : now < lease.expiresAtNs) :
      Answers c (.complete completion now) .done
        { c with
          activeAttempts := c.activeAttempts.erase (lease.worker, lease.attempt)
          completions := Function.update c.completions completion.attempt (some completion) }
  | reject {completion} {now} {error} :
      Answers c (.complete completion now) (.refused error) c

theorem releaseExpired_spec (attempt : String) (now : Nat) (c : Coordinator) :
    wp (releaseExpired attempt now)
      (fun _ after =>
        ∃ kept, Vacated c attempt now kept ∧ after = { c with activeAttempts := kept })
      (fun _ after => after = c ∧ ∃ old, c.leases attempt = some old ∧ now < old.expiresAtNs)
        c := by
  rw [releaseExpired, wp_bind, wp_get]
  cases held : c.leases attempt with
  | none => exact ⟨_, .unleased held, rfl⟩
  | some old =>
    simp only [wp_bind, wp_ite, wp_throw, wp_modify]
    constructor
    · intro current
      exact ⟨trivial, old, rfl, current⟩
    · intro due
      exact ⟨_, .expired held (Nat.le_of_not_lt due), rfl⟩

theorem acquire_answers (c : Coordinator) (attempt : String) (worker : WorkerId) (now ttl : Nat) :
    wp (acquire attempt worker now ttl)
      (fun lease after => Answers c (.acquire attempt worker now ttl) (.leased lease) after)
      (fun e after => Answers c (.acquire attempt worker now ttl) (.refused e) after) c := by
  rw [acquire, wp_ite, wp_bind, wp_throw, wp_bind]
  refine ⟨fun malformed => .decline (.inl ⟨rfl, ?_⟩), fun formed => ?_⟩
  · rintro lease ⟨⟨valid, positive, short⟩, -⟩
    rw [valid] at malformed
    exact absurd malformed (by simp [positive, short])
  replace formed : Formed attempt ttl := by
    simpa [not_or, Formed] using formed
  apply wp_mono (releaseExpired_spec attempt now c)
  · rintro - after ⟨kept, vacated, rfl⟩
    have declined : ∀ e, Answers c (.acquire attempt worker now ttl) (.refused e)
        { c with activeAttempts := kept } := fun e => .decline (.inr ⟨formed, vacated⟩)
    rw [wp_bind, wp_get]
    cases c.workers worker with
    | none => exact declined _
    | some capability =>
      simp only [wp_bind, wp_ite, wp_throw, wp_pure, wp_set]
      refine ⟨fun _ => declined _, fun _ => ⟨fun _ => declined _, fun _ => ?_⟩⟩
      exact .lease vacated _
  · rintro e after ⟨rfl, old, held, current⟩
    refine .decline (.inl ⟨rfl, ?_⟩)
    rintro lease ⟨-, same, due⟩
    cases held.symm.trans same
    exact absurd current (Nat.not_lt.mpr due)

theorem complete_answers (c : Coordinator) (completion : AttemptCompletion) (now : Nat) :
    wp (complete completion now)
      (fun _ after => Answers c (.complete completion now) .done after)
      (fun e after => Answers c (.complete completion now) (.refused e) after) c := by
  simp only [complete, wp_bind, wp_get, wp_ite, wp_throw]
  refine ⟨fun _ => .reject, fun fresh => ⟨fun _ => .reject, fun _ => ?_⟩⟩
  cases held : c.leases completion.attempt with
  | none => exact .reject
  | some lease =>
    simp only [wp_bind, wp_ite, wp_throw, wp_set]
    refine ⟨fun _ => .reject, fun matching => ?_⟩
    push Not at matching
    exact .accept (Option.not_isSome_iff_eq_none.mp fresh) held matching.1 matching.2.1 matching.2.2

theorem Coordinator.answers (c : Coordinator) (call : Call) :
    Answers c call (c.answer call).1 (c.step call) := by
  cases call with
  | register capability =>
    apply wp_replied
    simp only [register, wp_bind, wp_get, wp_modify, wp_ite, wp_throw, wp_pure]
    exact ⟨fun _ => .register rfl, fun _ => .register rfl⟩
  | remove worker =>
    apply wp_replied
    exact (wp_modify ..).mpr .remove
  | acquire attempt worker now ttl => exact wp_replied (acquire_answers c attempt worker now ttl)
  | complete completion now => exact wp_replied (complete_answers c completion now)

/-! ## Fences -/

/-- What the history of a coordinator says about its state. -/
structure Fenced (history : List (Call × Reply)) (c : Coordinator) : Prop where
  drawn : ∀ lease ∈ issued history, lease.fence ≤ c.nextFence
  ascending : (issued history).Pairwise fun earlier later => earlier.fence < later.fence
  origin : ∀ attempt lease, c.leases attempt = some lease →
    lease.attempt = attempt ∧ ∃ original ∈ issued history, original.attempt = attempt ∧
      original.worker = lease.worker ∧ original.fence = lease.fence
  latest : ∀ attempt lease, c.leases attempt = some lease →
    ∀ other ∈ issued history, other.attempt = attempt → other.fence ≤ lease.fence
  kept : ∀ completion ∈ accepted history, (c.completions completion.attempt).isSome
  once : ((accepted history).map (·.attempt)).Nodup

theorem Fenced.default : Fenced [] .default where
  drawn _ member := nomatch member
  ascending := .nil
  origin _ _ held := nomatch held
  latest _ _ held := nomatch held
  kept _ member := nomatch member
  once := .nil

section Invariant
variable {history : List (Call × Reply)} {c : Coordinator}

section
variable (fenced : Fenced history c)
include fenced

/-- A call that issues and accepts nothing, and only lets leases lapse. -/
theorem Fenced.quiet {after : Coordinator} {entry : Call × Reply}
    (unissued : leaseOf entry = none) (unaccepted : completionOf entry = none)
    (counter : after.nextFence = c.nextFence) (completions : after.completions = c.completions)
    (leases : ∀ attempt lease, after.leases attempt = some lease →
      ∃ old, c.leases attempt = some old ∧ old.attempt = lease.attempt ∧
        old.worker = lease.worker ∧ old.fence = lease.fence) :
    Fenced (history ++ [entry]) after := by
  have noLease : issued (history ++ [entry]) = issued history := by
    rw [issued_concat, unissued, Option.toList_none, append_nil]
  have noCompletion : accepted (history ++ [entry]) = accepted history := by
    rw [accepted_concat, unaccepted, Option.toList_none, append_nil]
  constructor
  · rw [noLease, counter]
    exact fenced.drawn
  · rw [noLease]
    exact fenced.ascending
  · intro attempt lease held
    obtain ⟨old, before, named, worker, fence⟩ := leases attempt lease held
    rw [noLease, ← named, ← worker, ← fence]
    exact fenced.origin attempt old before
  · intro attempt lease held
    obtain ⟨old, before, -, -, fence⟩ := leases attempt lease held
    rw [noLease, ← fence]
    exact fenced.latest attempt old before
  · rw [noCompletion, completions]
    exact fenced.kept
  · rw [noCompletion]
    exact fenced.once

theorem Fenced.leased (call : Call) (next : lease.fence = c.nextFence + 1) :
    Fenced (history ++ [(call, .leased lease)])
      { c with
        nextFence := c.nextFence + 1
        activeAttempts := active
        leases := Function.update c.leases lease.attempt (some lease) } := by
  have grown : issued (history ++ [(call, .leased lease)]) = issued history ++ [lease] :=
    issued_concat history _
  have noCompletion : accepted (history ++ [(call, .leased lease)]) = accepted history := by
    rw [accepted_concat]
    cases call <;> exact append_nil _
  constructor
  · intro other member
    rw [grown, mem_append, mem_singleton] at member
    rcases member with member | rfl
    · have bound := fenced.drawn other member
      exact Nat.le_succ_of_le bound
    · exact Nat.le_of_eq next
  · rw [grown, pairwise_append]
    refine ⟨fenced.ascending, pairwise_singleton _ _, ?_⟩
    intro other member last same
    have bound := fenced.drawn other member
    rw [mem_singleton.mp same]
    omega
  · intro attempt current held
    rw [grown]
    by_cases same : attempt = lease.attempt
    · subst same
      simp only [Function.update_self, Option.some.injEq] at held
      subst held
      exact ⟨rfl, lease, by simp, rfl, rfl, rfl⟩
    · simp only [Function.update_of_ne same] at held
      obtain ⟨named, original, member, origin⟩ := fenced.origin attempt current held
      exact ⟨named, original, mem_append_left _ member, origin⟩
  · intro attempt current held other member named
    rw [grown, mem_append, mem_singleton] at member
    by_cases same : attempt = lease.attempt
    · subst same
      simp only [Function.update_self, Option.some.injEq] at held
      subst held
      rcases member with member | rfl
      · have bound := fenced.drawn other member
        omega
      · exact Nat.le_refl _
    · simp only [Function.update_of_ne same] at held
      rcases member with member | rfl
      · exact fenced.latest attempt current held other member named
      · exact absurd named.symm same
  · rw [noCompletion]
    exact fenced.kept
  · rw [noCompletion]
    exact fenced.once

theorem Fenced.completed (now : Nat) (fresh : c.completions completion.attempt = none) :
    Fenced (history ++ [(.complete completion now, .done)])
      { c with
        activeAttempts := active
        completions := Function.update c.completions completion.attempt (some completion) } := by
  have noLease : issued (history ++ [(.complete completion now, .done)]) = issued history := by
    rw [issued_concat]
    exact append_nil _
  have grown : accepted (history ++ [(.complete completion now, .done)]) =
      accepted history ++ [completion] := accepted_concat history _
  constructor
  · rw [noLease]
    exact fenced.drawn
  · rw [noLease]
    exact fenced.ascending
  · rw [noLease]
    exact fenced.origin
  · rw [noLease]
    exact fenced.latest
  · intro other member
    rw [grown, mem_append, mem_singleton] at member
    by_cases same : other.attempt = completion.attempt
    · simp [same]
    · simp only [Function.update_of_ne same]
      rcases member with member | rfl
      · exact fenced.kept other member
      · exact absurd rfl same
  · rw [grown, map_append, nodup_append]
    refine ⟨fenced.once, nodup_singleton _, ?_⟩
    intro attempt member last one same
    obtain ⟨other, before, rfl⟩ := mem_map.mp member
    have stored := fenced.kept other before
    rw [same, mem_singleton.mp one, fresh] at stored
    cases stored

theorem Fenced.step (call : Call) :
    Fenced (history ++ [(call, (c.answer call).1)]) (c.step call) := by
  have same : ∀ attempt lease, c.leases attempt = some lease →
      ∃ old, c.leases attempt = some old ∧ old.attempt = lease.attempt ∧
        old.worker = lease.worker ∧ old.fence = lease.fence :=
    fun attempt lease held => ⟨lease, held, rfl, rfl, rfl⟩
  have answered := c.answers call
  generalize (c.answer call).1 = reply, c.step call = after at answered
  cases answered with
  | register short => exact fenced.quiet short rfl rfl rfl same
  | remove =>
    refine fenced.quiet rfl rfl rfl rfl ?_
    intro attempt lease held
    obtain ⟨old, before, rfl⟩ := Option.map_eq_some_iff.mp held
    refine ⟨old, before, ?_⟩
    unfold lapse
    split <;> exact ⟨rfl, rfl, rfl⟩
  | lease vacated expires => exact fenced.leased _ rfl
  | decline | reject => exact fenced.quiet rfl rfl rfl rfl same
  | accept fresh held worker fence current => exact fenced.completed _ fresh

end

end Invariant

theorem Fenced.run (calls : List Call) :
    Fenced (Coordinator.default.replies calls) (calls.foldl Coordinator.step .default) := by
  induction calls using reverseRecOn with
  | nil => exact .default
  | append_singleton calls call ih =>
    rw [Coordinator.replies_append, foldl_append]
    exact ih.step call

/-! ## Removed workers -/

/-- The leases under these fences have lapsed for good. -/
structure Revoked (fences : Set Nat) (c : Coordinator) : Prop where
  spent : ∀ fence ∈ fences, fence ≤ c.nextFence
  lapsed : ∀ attempt lease, c.leases attempt = some lease → lease.fence ∈ fences →
    lease.expiresAtNs = 0

theorem AttemptLease.lapse_fence (lease : AttemptLease) (worker : WorkerId) :
    (lease.lapse worker).fence = lease.fence := by
  unfold lapse
  split <;> rfl

/-- Removing a worker revokes every fence it was ever issued. -/
theorem Fenced.revoked (fenced : Fenced history c) (worker : WorkerId) :
    Revoked {fence | ∃ lease ∈ issued history, lease.worker = worker ∧ lease.fence = fence}
      (c.step (.remove worker)) where
  spent := by
    rintro fence ⟨lease, member, -, rfl⟩
    exact fenced.drawn lease member
  lapsed := by
    rintro attempt lease held ⟨mine, member, owned, fence⟩
    obtain ⟨old, before, rfl⟩ := Option.map_eq_some_iff.mp held
    obtain ⟨-, original, member', -, worker', fence'⟩ := fenced.origin attempt old before
    rw [lapse_fence, ← fence'] at fence
    -- fences ascend, so the lease under this fence is one
    have distinct : ((issued history).map (·.fence)).Nodup :=
      pairwise_map.mpr (fenced.ascending.imp fun less => Nat.ne_of_lt less)
    have unique : mine = original := inj_on_of_nodup_map distinct member member' fence
    rw [lapse, if_pos (by rw [← worker', ← unique, owned])]

theorem Revoked.step (revoked : Revoked fences c) (call : Call) :
    Revoked fences (c.step call) ∧
      ∀ completion ∈ completionOf (call, (c.answer call).1), completion.fence ∉ fences := by
  have answered := c.answers call
  generalize (c.answer call).1 = reply, c.step call = after at answered
  cases answered with
  | register | decline =>
    exact ⟨⟨revoked.spent, revoked.lapsed⟩, fun _ member => nomatch member⟩
  | remove =>
    refine ⟨⟨revoked.spent, ?_⟩, fun _ member => nomatch member⟩
    intro attempt lease held fence
    obtain ⟨old, before, rfl⟩ := Option.map_eq_some_iff.mp held
    rw [lapse_fence] at fence
    unfold lapse
    split
    · rfl
    · exact revoked.lapsed attempt old before fence
  | lease vacated expires =>
    refine ⟨⟨fun fence member => Nat.le_succ_of_le (revoked.spent fence member), ?_⟩,
      fun _ member => nomatch member⟩
    intro attempt current held fence
    simp only [Function.update_apply] at held
    split at held
    · cases held
      have bound := revoked.spent _ fence
      exact absurd bound (Nat.not_succ_le_self _)
    · exact revoked.lapsed attempt current held fence
  | accept fresh held worker fence current =>
    refine ⟨⟨revoked.spent, revoked.lapsed⟩, ?_⟩
    rintro completion ⟨⟩ member
    have lapsed := revoked.lapsed _ _ held (fence ▸ member)
    omega
  | reject => exact ⟨revoked, fun _ member => nomatch member⟩

theorem Revoked.run (revoked : Revoked fences c) (calls : List Call) :
    ∀ completion ∈ accepted (c.replies calls), completion.fence ∉ fences := by
  induction calls generalizing c with
  | nil => exact fun _ member => nomatch member
  | cons call calls ih =>
    intro completion member
    obtain ⟨still, refused⟩ := revoked.step call
    rw [replies, accepted, filterMap_cons] at member
    split at member
    · exact ih still completion member
    · rename_i first found
      rcases mem_cons.mp member with rfl | member
      · exact refused _ found
      · exact ih still completion member

/-- For every sequence of calls, whatever their times: at most one completion is accepted for an
attempt; a completion that is accepted carries the largest fence issued for its attempt, under
which the attempt was leased to its worker; fences ascend; and nothing is accepted under a fence
issued to a worker before its removal. -/
theorem coordinator_fenced (calls : List Call) :
    let c := calls.foldl step .default
    let history := default.replies calls
    ((accepted history).map (·.attempt)).Nodup ∧
      (∀ completion now, (c.answer (.complete completion now)).1 = .done →
        (∃ lease ∈ issued history, lease.attempt = completion.attempt ∧
          lease.worker = completion.worker ∧ lease.fence = completion.fence) ∧
        ∀ lease ∈ issued history, lease.attempt = completion.attempt →
          lease.fence ≤ completion.fence) ∧
      (issued history).Pairwise (fun earlier later => earlier.fence < later.fence) ∧
      ∀ worker later, ∀ lease ∈ issued history, lease.worker = worker →
        ∀ completion ∈ accepted ((c.step (.remove worker)).replies later),
          completion.fence ≠ lease.fence := by
  intro c history
  have fenced : Fenced history c := .run calls
  refine ⟨fenced.once, ?_, fenced.ascending, ?_⟩
  · intro completion now done
    have answered := c.answers (.complete completion now)
    rw [done] at answered
    generalize c.step (.complete completion now) = after at answered
    cases answered with
    | accept fresh held worker fence current =>
      obtain ⟨-, original, member, named, owner, number⟩ := fenced.origin _ _ held
      constructor
      · exact ⟨original, member, named, owner.trans worker, number.trans fence⟩
      · intro lease issued named
        rw [← fence]
        exact fenced.latest _ _ held lease issued named
  · intro worker later lease member owned completion accepted same
    exact (fenced.revoked worker).run later completion accepted ⟨lease, member, owned, same.symm⟩

section Sample

def sampleWorker : WorkerId := ⟨"worker-a", by decide +kernel⟩

def sampleCapability : WorkerCapability :=
  ⟨sampleWorker, "linux-amd64", 1, by decide +kernel⟩

def sampleCompletion (fence : Nat) (positive : fence ≠ 0) : AttemptCompletion :=
  ⟨"attempt-1", sampleWorker, fence, 2, 1,
    "0123456789abcdef0123456789abcdef0123456789abcdef0123456789abcdef",
    by decide +kernel, positive, by decide +kernel, by decide +kernel, by decide +kernel⟩

/-- A lease that expires, the lease that fences it off, and a removal with a new registration. -/
def sampleCalls : List Call :=
  [.register sampleCapability, .acquire "attempt-1" sampleWorker 10 5,
    .acquire "attempt-2" sampleWorker 11 5, .acquire "attempt-1" sampleWorker 20 5]

theorem coordinator_fenced_sample :
    let c := sampleCalls.foldl step .default
    (issued (default.replies sampleCalls)).map (·.fence) = [1, 2] ∧
      (c.answer (.complete (sampleCompletion 1 (by decide)) 21)).1 = .refused .staleLease ∧
      (c.answer (.complete (sampleCompletion 2 (by decide)) 21)).1 = .done ∧
      ∀ completion ∈ accepted ((c.step (.remove sampleWorker)).replies
          [.register sampleCapability, .complete (sampleCompletion 2 (by decide)) 21]),
        completion.fence ≠ 2 := by
  refine ⟨by decide +kernel, by decide +kernel, by decide +kernel, ?_⟩
  have held : ⟨"attempt-1", sampleWorker, 2, 25⟩ ∈
      issued (default.replies sampleCalls) := by decide +kernel
  exact (coordinator_fenced sampleCalls).2.2.2 sampleWorker _ _ held rfl

end Sample

/-! ## Refused calls -/

/-- The call replaces no capability of another content, and asks in good form for no attempt whose
expired lease still holds a slot. -/
def Coordinator.settled (c : Coordinator) : Call → Prop
  | .register capability => ∀ known, c.workers capability.worker = some known → known = capability
  | .acquire attempt _ now ttl =>
    ∀ lease, Lapsed c attempt now ttl lease → (lease.worker, attempt) ∉ c.activeAttempts
  | _ => True

theorem Vacated.unchanged_iff {c : Coordinator} {attempt : String} {now : Nat} {kept : Slots}
    (vacated : Vacated c attempt now kept) :
    kept = c.activeAttempts ↔ ∀ lease, c.leases attempt = some lease → lease.expiresAtNs ≤ now →
      (lease.worker, attempt) ∉ c.activeAttempts := by
  cases vacated with
  | unleased free => simp [free]
  | expired held due =>
    rw [Finset.erase_eq_self, held]
    exact ⟨fun free lease same _ => by cases same; exact free, fun free => free _ rfl due⟩

theorem register_new {c : Coordinator} {capability : WorkerCapability}
    (unknown : c.workers capability.worker = none) :
    (c.answer (.register capability)).1 = .done := by
  have done : wp (register capability) (fun _ _ => Reply.done = .done)
      (fun e _ => Reply.refused e = .done) c := by
    simp only [register, wp_bind, wp_get, wp_modify, wp_ite, wp_throw, wp_pure, unknown]
    exact ⟨by rintro ⟨⟩, fun _ => trivial⟩
  exact @wp_replied _ _ (fun _ => .done) _ (fun reply _ => reply = .done) done

/-- A refused call leaves the coordinator as it was exactly when it is of this kind. -/
theorem refused_unchanged (c : Coordinator) (call : Call) (error : CoordinationError)
    (refused : (c.answer call).1 = .refused error) : c.step call = c ↔ c.settled call := by
  have answered := c.answers call
  rw [refused] at answered
  generalize result : c.step call = after at answered
  cases answered with
  | register short =>
    rename_i capability
    cases known : c.workers capability.worker with
    | none =>
      rw [register_new known] at refused
      cases refused
    | some old =>
      have same : { c with
          workers := Function.update c.workers capability.worker (some capability) } = c ↔
          Function.update c.workers capability.worker (some capability) = c.workers :=
        ⟨congrArg Coordinator.workers, fun workers => by rw [workers]⟩
      rw [same, Function.update_eq_self_iff, settled, known]
      simp [eq_comm]
  | decline vacated =>
    have same (kept : Slots) : { c with activeAttempts := kept } = c ↔ kept = c.activeAttempts :=
      ⟨congrArg Coordinator.activeAttempts, fun slots => by rw [slots]⟩
    rw [same]
    rcases vacated with ⟨kept, unlapsed⟩ | ⟨formed, vacated⟩
    · exact ⟨fun _ lease lapsed => absurd lapsed (unlapsed lease), fun _ => kept⟩
    · rw [vacated.unchanged_iff]
      exact ⟨fun free lease lapsed => free lease lapsed.2.1 lapsed.2.2,
        fun free lease held due => free lease ⟨formed, held, due⟩⟩
  | reject => exact ⟨fun _ => trivial, fun _ => rfl⟩

section Sample

def otherWorker : WorkerId := ⟨"worker-b", by decide +kernel⟩

/-- A worker that registers again with the same slots, a lease asked for no time, and a lease asked
of an expired one by an unknown worker: all are refused, and only the last one leaves a trace. -/
theorem refused_unchanged_sample :
    let c := sampleCalls.foldl step .default
    c.step (.register sampleCapability) = c ∧
      c.step (.acquire "attempt-1" sampleWorker 30 0) = c ∧
      c.step (.acquire "attempt-1" otherWorker 30 5) ≠ c := by
  intro c
  refine ⟨?_, ?_, ?_⟩
  · refine (refused_unchanged c (.register sampleCapability) .duplicateWorker ?_).mpr ?_
    · decide +kernel
    · rintro known ⟨⟩
      rfl
  · refine (refused_unchanged c (.acquire "attempt-1" sampleWorker 30 0) .invalidIdentity ?_).mpr ?_
    · decide +kernel
    · rintro lease ⟨⟨-, positive, -⟩, -⟩
      exact absurd rfl positive
  · have lapsed : Lapsed c "attempt-1" 30 5 ⟨"attempt-1", sampleWorker, 2, 25⟩ :=
      ⟨⟨by decide +kernel, by decide, by decide⟩, rfl, by decide⟩
    have refused :
        (c.answer (.acquire "attempt-1" otherWorker 30 5)).1 = .refused .unknownWorker := by
      decide +kernel
    rw [Ne, refused_unchanged c _ _ refused]
    exact fun settled => settled _ lapsed (by decide +kernel)

/-- A registration that is refused has replaced the slots of the worker, and a refused acquisition
has freed the slot of the expired lease. -/
theorem refused_changes :
    let c := [Call.register sampleCapability, .acquire "attempt-1" sampleWorker 10 5].foldl
      step .default
    let wider : WorkerCapability := ⟨sampleWorker, "linux-amd64", 2, by decide +kernel⟩
    (c.answer (.register wider)).1 = .refused .duplicateWorker ∧
      ((c.step (.register wider)).workers sampleWorker).map (·.slots) = some 2 ∧
      (c.workers sampleWorker).map (·.slots) = some 1 ∧
      (c.answer (.acquire "attempt-1" otherWorker 20 5)).1 = .refused .unknownWorker ∧
      (c.step (.acquire "attempt-1" otherWorker 20 5)).activeAttempts = ∅ ∧
      c.activeAttempts = {(sampleWorker, "attempt-1")} := by
  refine ⟨?_, ?_, ?_, ?_, ?_, ?_⟩ <;> decide +kernel

end Sample

/-! ## Finished attempts -/

/-- The attempt is unfinished, or its recorded lease is still current. -/
def Coordinator.leasable (c : Coordinator) : Call → Bool
  | .acquire attempt _ now _ =>
    (c.completions attempt).isNone || (c.leases attempt).any fun lease => now < lease.expiresAtNs
  | _ => true

/-- Every slot is held by the worker of the lease on record, for an unfinished attempt. -/
structure Occupied (c : Coordinator) : Prop where
  keyed : ∀ attempt lease, c.leases attempt = some lease → lease.attempt = attempt
  holder : ∀ slot ∈ c.activeAttempts, ∃ lease, c.leases slot.2 = some lease ∧ lease.worker = slot.1
  unfinished : ∀ slot ∈ c.activeAttempts, c.completions slot.2 = none

section Slots
variable {c : Coordinator}

theorem Occupied.default : Occupied .default where
  keyed _ _ held := nomatch held
  holder _ member := nomatch member
  unfinished _ member := nomatch member

variable {kept : Slots} {attempt : String}

theorem Vacated.subset (vacated : Vacated c attempt now kept) : kept ⊆ c.activeAttempts := by
  cases vacated with
  | unleased free => exact Finset.Subset.refl _
  | expired held due => exact Finset.erase_subset _ _

section
variable (occupied : Occupied c)
include occupied

/-- After the old slot is given up no slot is held for the attempt. -/
theorem Occupied.vacated (vacated : Vacated c attempt now kept) :
    ∀ slot ∈ kept, slot.2 ≠ attempt := by
  intro slot member same
  obtain ⟨lease, recorded, worker⟩ := occupied.holder slot (vacated.subset member)
  rw [same] at recorded
  cases vacated with
  | unleased free =>
    rw [free] at recorded
    cases recorded
  | expired held due =>
    rw [held] at recorded
    cases recorded
    have other := Finset.ne_of_mem_erase member
    exact other (Prod.ext worker.symm same)

theorem Occupied.fewer
    (fewer : kept ⊆ c.activeAttempts) : Occupied { c with activeAttempts := kept } where
  keyed := occupied.keyed
  holder slot member := occupied.holder slot (fewer member)
  unfinished slot member := occupied.unfinished slot (fewer member)

theorem Occupied.leased {worker : WorkerId} {now : Nat}
    (vacated : Vacated c attempt now kept) (expires : Nat)
    (unfinished : c.completions attempt = none) :
    Occupied
      { c with
        nextFence := c.nextFence + 1
        activeAttempts := insert (worker, attempt) kept
        leases := Function.update c.leases attempt
          (some ⟨attempt, worker, c.nextFence + 1, expires⟩) } := by
  constructor
  · intro other lease held
    simp only [Function.update_apply] at held
    split at held
    · rename_i same
      cases held
      exact same.symm
    · exact occupied.keyed other lease held
  · intro slot member
    rcases Finset.mem_insert.mp member with rfl | member
    · exact ⟨_, Function.update_self .., rfl⟩
    · have apart := occupied.vacated vacated slot member
      simp only [Function.update_of_ne apart]
      exact occupied.holder slot (vacated.subset member)
  · intro slot member
    rcases Finset.mem_insert.mp member with rfl | member
    · exact unfinished
    · exact occupied.unfinished slot (vacated.subset member)

theorem Occupied.completed (held : c.leases completion.attempt = some lease) :
    Occupied
      { c with
        activeAttempts := c.activeAttempts.erase (lease.worker, lease.attempt)
        completions := Function.update c.completions completion.attempt (some completion) } := by
  constructor
  · exact occupied.keyed
  · intro slot member
    exact occupied.holder slot (Finset.mem_of_mem_erase member)
  · intro slot member
    have before := Finset.mem_of_mem_erase member
    -- the only slot that could be held for this attempt is the one given up
    have apart : slot.2 ≠ completion.attempt := by
      intro same
      obtain ⟨other, recorded, worker⟩ := occupied.holder slot before
      rw [same, held] at recorded
      cases recorded
      have named := occupied.keyed _ _ held
      exact Finset.ne_of_mem_erase member (Prod.ext worker.symm (same.trans named.symm))
    simp only [Function.update_of_ne apart]
    exact occupied.unfinished slot before

theorem Occupied.removed (worker : WorkerId) :
    Occupied (c.step (.remove worker)) := by
  constructor
  · intro attempt lease held
    obtain ⟨old, before, rfl⟩ := Option.map_eq_some_iff.mp held
    have named := occupied.keyed attempt old before
    unfold lapse
    split <;> exact named
  · intro slot member
    have before := (Finset.mem_filter.mp member).1
    obtain ⟨lease, held, owner⟩ := occupied.holder slot before
    refine ⟨lease.lapse worker, Option.map_eq_some_iff.mpr ⟨lease, held, rfl⟩, ?_⟩
    unfold lapse
    split <;> exact owner
  · intro slot member
    exact occupied.unfinished slot (Finset.mem_filter.mp member).1

end

theorem Vacated.unfinished {worker : WorkerId} {now ttl : Nat}
    (vacated : Vacated c attempt now kept)
    (permitted : c.leasable (.acquire attempt worker now ttl) = true) :
    c.completions attempt = none := by
  rw [leasable, Bool.or_eq_true, Option.isNone_iff_eq_none] at permitted
  rcases permitted with none | current
  · exact none
  · cases vacated with
    | unleased free =>
      rw [free] at current
      cases current
    | expired held due =>
      rw [held, Option.any_some, decide_eq_true_eq] at current
      omega

theorem Occupied.step (occupied : Occupied c) (call : Call) (permitted : c.leasable call = true) :
    Occupied (c.step call) := by
  cases call with
  | remove worker => exact occupied.removed worker
  | register capability =>
    have answered := c.answers (.register capability)
    generalize (c.answer (.register capability)).1 = reply,
      c.step (.register capability) = after at answered
    cases answered with
    | register short => exact ⟨occupied.keyed, occupied.holder, occupied.unfinished⟩
  | acquire attempt worker now ttl =>
    have answered := c.answers (.acquire attempt worker now ttl)
    generalize (c.answer (.acquire attempt worker now ttl)).1 = reply,
      c.step (.acquire attempt worker now ttl) = after at answered
    cases answered with
    | lease vacated expires => exact occupied.leased vacated expires (vacated.unfinished permitted)
    | decline vacated =>
      rcases vacated with ⟨rfl, -⟩ | ⟨-, vacated⟩
      · exact occupied
      · exact occupied.fewer vacated.subset
  | complete completion now =>
    have answered := c.answers (.complete completion now)
    generalize (c.answer (.complete completion now)).1 = reply,
      c.step (.complete completion now) = after at answered
    cases answered with
    | accept fresh held worker fence current => exact occupied.completed held
    | reject => exact occupied

end Slots

/-- In every run that acquires finished attempts only under a current lease, no slot is held for a
finished attempt, and such an acquisition is refused. -/
theorem finished_unleased (calls : List Call)
    (permitted : Runs.allows step leasable .default calls = true) :
    let c := calls.foldl step .default
    ∀ attempt, (c.completions attempt).isSome →
      (∀ worker now ttl, c.leasable (.acquire attempt worker now ttl) = true →
        ∃ e, (c.answer (.acquire attempt worker now ttl)).1 = .refused e) ∧
      ∀ worker, (worker, attempt) ∉ c.activeAttempts := by
  intro c attempt finished
  have occupied : Occupied c :=
    Runs.allows_invariant (fun _ call held ok => held.step call ok) permitted .default
  constructor
  · intro worker now ttl current
    have answered := c.answers (.acquire attempt worker now ttl)
    generalize (c.answer (.acquire attempt worker now ttl)).1 = reply,
      c.step (.acquire attempt worker now ttl) = after at answered
    cases answered with
    | lease vacated expires =>
      rw [vacated.unfinished current] at finished
      cases finished
    | decline vacated => exact ⟨_, rfl⟩
  · intro worker held
    rw [occupied.unfinished _ held] at finished
    cases finished

section FinishedSample

/-- A lease and its completion. -/
def finishedCalls : List Call :=
  [.register sampleCapability, .acquire "attempt-1" sampleWorker 0 10,
    .complete (sampleCompletion 1 (by decide)) 5]

theorem finished_unleased_sample :
    let c := finishedCalls.foldl step .default
    ((c.completions "attempt-1").isSome = true ∧
      c.leasable (.acquire "attempt-1" sampleWorker 9 10) = true) ∧
      (∃ e, (c.answer (.acquire "attempt-1" sampleWorker 9 10)).1 = .refused e) ∧
      (sampleWorker, "attempt-1") ∉ c.activeAttempts := by
  intro c
  have finished : (c.completions "attempt-1").isSome = true := by decide +kernel
  have current : c.leasable (.acquire "attempt-1" sampleWorker 9 10) = true := by decide +kernel
  have result := finished_unleased finishedCalls (by decide +kernel) "attempt-1" finished
  exact ⟨⟨finished, current⟩, result.1 _ _ _ current, result.2 _⟩

def Call.time : Call → Nat
  | .acquire _ _ now _ => now
  | .complete _ now => now
  | _ => 0

/-- Once the lease of a finished attempt has expired the attempt is leased again. -/
theorem not_finished_unleased :
    ¬ ∀ calls : List Call,
      let c := calls.foldl step .default
      ∀ attempt, (c.completions attempt).isSome →
        (∀ worker now ttl, (∀ call ∈ calls, call.time ≤ now) →
          ∃ e, (c.answer (.acquire attempt worker now ttl)).1 = .refused e) ∧
        ∀ worker, (worker, attempt) ∉ c.activeAttempts := by
  intro claimed
  have later : ∀ call ∈ finishedCalls, call.time ≤ 10 := by
    unfold finishedCalls
    simp [Call.time]
  have finished := claimed finishedCalls "attempt-1" (by decide +kernel)
  obtain ⟨e, refused⟩ := finished.1 sampleWorker 10 10 later
  have leased : ((finishedCalls.foldl step .default).answer
      (.acquire "attempt-1" sampleWorker 10 10)).1 =
        .leased ⟨"attempt-1", sampleWorker, 2, 20⟩ := by
    decide +kernel
  rw [leased] at refused
  cases refused

end FinishedSample

end AgentSystemsBenchmark.Distributed
