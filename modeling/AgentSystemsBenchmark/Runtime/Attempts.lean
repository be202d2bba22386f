import AgentSystemsBenchmark.Library.Runs
import AgentSystemsBenchmark.Runtime.Launch

/-!
# Live attempts

A provisioner hands out attempts, each with a launch context, a relay and three
flags: the fence, the fence of an enclosing authority, and the flag its handoff
shares with its relay. Spawning moves the context out of the attempt and starting
the relay moves the relay into a thread of its own; revoking an attempt reaches
what is still in it. The system interleaves these calls with the relay threads,
which check the handoff's flag once, between reading a request and opening the
provider.

An acquisition is one step. The clock, the peers, the sandbox and the network
outcome of each call are part of its event.
-/

namespace AgentSystemsBenchmark.Runtime

open Effects DebugText Runs List Host

structure LiveProviderProvisioner where
  generation : String
  routeSha256 : String
  credentialRefSha256 : String
  policy : ProviderEgressPolicy
  allowlist : List String
  target : String
  leaseRoot : OsPath
  cpus : List Nat
  backend : SandboxBackend
  relayRoot : Option OsPath
  /-- The flag of the provisioner itself. -/
  revoked : Nat

structure LiveLaunchContext where
  input : SandboxLaunchInput
  lease : ResourceLease
  handoff : LiveProviderNamespaceHandoff
  deriving DecidableEq

structure LiveProviderAttempt where
  context : Option LiveLaunchContext
  relay : Option LiveProviderRelay
  fence : Nat
  authorityFence : Option Nat
  deriving DecidableEq

inductive LiveProviderProvisionError where
  | invalidConfiguration | runtimeObservation | leaseUnavailable | relayUnavailable
  | backendUnavailable | authorityRejected
  deriving DecidableEq

/-- The arguments of one acquisition and what it meets on the machine. -/
structure AttemptRequest where
  attemptId : Nat
  input : SandboxLaunchInput
  limits : ProcessLimits
  adapterSha256 : String
  nowUnixMs : Nat
  ownNamespace : Option String
  probe : Bool
  nonce : Nat
  authorityFence : Option Nat

section Acquire

variable (host : Host) (provisioner : LiveProviderProvisioner)

def LiveProviderProvisioner.attemptGeneration (attemptId : Nat) : String :=
  provisioner.generation ++ "-" ++ attemptId.repr

def LiveProviderProvisioner.attemptSocket (attemptId : Nat) : Option OsPath :=
  provisioner.relayRoot.map fun root =>
    relaySocketPath root (provisioner.attemptGeneration attemptId)

def LiveProviderProvisioner.attemptLease : ResourceLease :=
  ⟨provisioner.leaseRoot, .benchmark, provisioner.cpus⟩

/-- The machine during an acquisition: its socket has just been bound, and the only flag
it reads is the one it has just created. -/
def AttemptRequest.around (request : AttemptRequest) : Surroundings where
  nowUnixMs := request.nowUnixMs
  flags _ := false
  socketAt path := if some path = provisioner.attemptSocket request.attemptId then some true
    else none
  netns _ := request.ownNamespace

/-- Bind the relay, attest the launch and issue its authority. The handoff's flag gets
its place in the heap when the attempt is stored. -/
def LiveProviderProvisioner.provision (request : AttemptRequest) :
    Except LiveProviderProvisionError (LiveLaunchContext × LiveProviderRelay) := do
  let around := request.around provisioner
  refuse (request.attemptId = 0 ∨ ¬ Control.isOk (checkDigest request.adapterSha256) ∨
    request.input.limits ≠ request.limits) .invalidConfiguration
  let netns ← liveError (fun _ => .runtimeObservation) (NamespaceIdentity.forPid around 1)
  let generation := provisioner.attemptGeneration request.attemptId
  refuse (generation.utf8ByteSize > 128) .invalidConfiguration
  refuse (request.nowUnixMs + 60000 ≥ 2 ^ 64) .invalidConfiguration
  let egress := ProviderEgressHandoff.issueBound host provisioner.policy generation
    provisioner.routeSha256 (request.nowUnixMs + 60000)
  let lease := provisioner.attemptLease
  let (relay, handoff) ← liveError (fun _ => .relayUnavailable)
    (LiveProviderRelay.bindRuntime host around true 0 {
      root := provisioner.relayRoot
      policy := provisioner.policy
      egress := egress
      netns := netns
      allowlist := provisioner.allowlist
      target := provisioner.target
      generation := generation
      routeSha256 := provisioner.routeSha256
      adapterSha256 := request.adapterSha256
      credentialRefSha256 := provisioner.credentialRefSha256
      childEndpoint := OsPath.ofText
        ("/tmp/asb-live-provider-" ++ request.attemptId.repr ++ ".sock")
      ioTimeoutMs := request.limits.timeoutNs / 1000000 })
  let input ← liveError (fun _ => .runtimeObservation)
    (request.input.withLiveProviderHandoff host around handoff netns)
  let token ← liveError (fun _ => .backendUnavailable)
    (provisioner.backend.attestLiveLaunch host request.probe request.nonce input lease
      request.nowUnixMs)
  let authority ← liveError (fun _ => .authorityRejected)
    (LiveLaunchFactory.issue host around token input lease provisioner.backend netns)
  pure (⟨authority.input, authority.lease, authority.handoff⟩, relay)

end Acquire

/-! ## Flags in the heap -/

def LiveProviderNamespaceHandoff.flagged (handoff : LiveProviderNamespaceHandoff) (flag : Nat) :
    LiveProviderNamespaceHandoff :=
  { handoff with revoked := flag }

def LiveProviderRelay.flagged (relay : LiveProviderRelay) (flag : Nat) : LiveProviderRelay :=
  { relay with handoff := relay.handoff.flagged flag }

def LiveLaunchContext.flagged (context : LiveLaunchContext) (flag : Nat) : LiveLaunchContext where
  input := { context.input with
    liveProvider := context.input.liveProvider.map fun (handoff, netns) =>
      (handoff.flagged flag, netns) }
  lease := context.lease
  handoff := context.handoff.flagged flag

inductive WorkerPhase where
  /-- Waiting for a peer, or reading from it. -/
  | waiting
  /-- The request was the expected one. -/
  | matched
  /-- The handoff was valid: the peer is authenticated. -/
  | authenticated
  | connected
  deriving DecidableEq

/-- A relay thread; `nowUnixMs` is the time its attempt passed to it. -/
structure RelayWorker where
  attempt : Nat
  relay : LiveProviderRelay
  nowUnixMs : Nat
  phase : WorkerPhase
  deriving DecidableEq

inductive ContactKind where
  | authenticated | connected
  deriving DecidableEq

/-- A peer let through, or a provider opened, for an attempt. -/
structure Contact where
  attempt : Nat
  kind : ContactKind
  afterRevocation : Bool
  deriving DecidableEq

/-- The place of an attempt, kept after it is dropped. -/
structure Slot where
  attempt : Option LiveProviderAttempt
  handoffFlag : Nat
  /-- A revocation of the attempt has returned. -/
  revoked : Bool
  deriving DecidableEq

structure LiveRuntime where
  flags : Nat → Bool
  nextFlag : Nat
  /-- Authorities that have ended. -/
  ended : List Nat
  leaseFiles : List OsPath
  sockets : List OsPath
  slots : List Slot
  workers : List RelayWorker
  /-- Running processes with the attempt each belongs to. -/
  processes : List (Nat × SandboxProcess)
  contacts : List Contact

open LiveRuntime

inductive AttemptEvent where
  | acquire (request : AttemptRequest)
  | spawn (attempt : Nat) (outcome : SpawnOutcome)
  | startRelay (attempt nowUnixMs : Nat)
  | revoke (attempt : Nat)
  | drop (attempt : Nat)
  /-- A process ends and gives its lease back. -/
  | finish (process : Nat)
  | endAuthority (authority : Nat)
  /-- A peer connects to a relay thread and sends this. -/
  | peer (worker : Nat) (sent : List UInt8)
  | check (worker : Nat) (socketAt : OsPath → Option Bool)
  | connect (worker nowUnixMs : Nat) (opens : Bool)
  /-- A relay thread ends. -/
  | retire (worker : Nat)

namespace LiveRuntime

/-- A provisioner that has handed out nothing, with its flag at this reference. -/
def fresh (provisioner : LiveProviderProvisioner) : LiveRuntime where
  flags _ := false
  nextFlag := provisioner.revoked + 1
  ended := []
  leaseFiles := []
  sockets := []
  slots := []
  workers := []
  processes := []
  contacts := []

def authorityRevoked (s : LiveRuntime) (attempt : LiveProviderAttempt) : Bool :=
  attempt.authorityFence.any (s.ended.contains ·)

/-- The attempt's calls are refused. -/
def fenced (s : LiveRuntime) (attempt : LiveProviderAttempt) : Bool :=
  s.flags attempt.fence || s.authorityRevoked attempt

def attemptAt (s : LiveRuntime) (i : Nat) : Option LiveProviderAttempt :=
  s.slots[i]?.bind Slot.attempt

def setSlot (s : LiveRuntime) (i : Nat) (slot : Slot) : LiveRuntime :=
  { s with slots := s.slots.set i slot }

/-- The lease files of the provisioner's CPUs are free. -/
def leaseFree (s : LiveRuntime) (provisioner : LiveProviderProvisioner) : Bool :=
  provisioner.attemptLease.files.all fun file => !s.leaseFiles.contains file

/-- No socket stands where the attempt's relay would be bound. -/
def socketFree (s : LiveRuntime) (provisioner : LiveProviderProvisioner) (attemptId : Nat) : Bool :=
  (provisioner.attemptSocket attemptId).all fun socket => !s.sockets.contains socket

variable (host : Host) (provisioner : LiveProviderProvisioner)

/-- Acquire an attempt, or leave the runtime as it was. -/
def acquire (s : LiveRuntime) (request : AttemptRequest) :
    Except LiveProviderProvisionError LiveRuntime := do
  refuse (s.flags provisioner.revoked = true) .invalidConfiguration
  refuse (s.leaseFree provisioner = false) .leaseUnavailable
  refuse (s.socketFree provisioner request.attemptId = false) .relayUnavailable
  let (context, relay) ← provisioner.provision host request
  pure { s with
    flags := Function.update s.flags s.nextFlag false
    nextFlag := s.nextFlag + 1
    leaseFiles := s.leaseFiles ++ context.lease.files
    sockets := s.sockets ++ [relay.socket]
    slots := s.slots ++ [{
      attempt := some {
        context := some (context.flagged s.nextFlag)
        relay := some (relay.flagged s.nextFlag)
        fence := provisioner.revoked
        authorityFence := request.authorityFence }
      handoffFlag := s.nextFlag
      revoked := false }] }

def releaseLease (s : LiveRuntime) (lease : ResourceLease) : LiveRuntime :=
  { s with leaseFiles := s.leaseFiles.filter fun file => !lease.files.contains file }

/-- The machine as a call on this runtime finds it. -/
def seenBy (s : LiveRuntime) (around : Surroundings) : Surroundings :=
  { around with flags := s.flags }

/-- Spawn: the context leaves the attempt whether or not the process starts. -/
def spawn (s : LiveRuntime) (i : Nat) (outcome : SpawnOutcome) : LiveRuntime :=
  match s.slots[i]? with
  | none => s
  | some slot =>
    match slot.attempt with
    | none => s
    | some attempt =>
      if s.fenced attempt then s
      else match attempt.context with
        | none => s
        | some context =>
          let taken := s.setSlot i { slot with attempt := some { attempt with context := none } }
          match provisioner.backend.spawnLaunch host context.input context.lease
            { outcome with before := s.seenBy outcome.before, after := s.seenBy outcome.after } with
          | .ok process => { taken with processes := taken.processes ++ [(i, process)] }
          | .error _ =>
            -- a failure after the process exists leaves the lease in quarantine
            if provisioner.backend.starts host context.input context.lease
              { outcome with before := s.seenBy outcome.before } then taken
            else taken.releaseLease context.lease

/-- Start the relay: it moves into a thread of its own. -/
def startRelay (s : LiveRuntime) (i nowUnixMs : Nat) : LiveRuntime :=
  match s.slots[i]? with
  | none => s
  | some slot =>
    match slot.attempt with
    | none => s
    | some attempt =>
      if s.fenced attempt then s
      else match attempt.relay with
        | none => s
        | some relay =>
          { s.setSlot i { slot with attempt := some { attempt with relay := none } } with
            workers := s.workers ++ [⟨i, relay, nowUnixMs, .waiting⟩] }

def raise (flags : Nat → Bool) : List Nat → Nat → Bool
  | [], flag => flags flag
  | raised :: rest, flag => flag == raised || raise flags rest flag

/-- The flags that revoking an attempt sets: its fence, and the handoff's flag through
whatever of the context and the relay is still there. -/
def revokedFlags (attempt : LiveProviderAttempt) : List Nat :=
  attempt.fence :: (attempt.context.map (·.handoff.revoked)).toList ++
    (attempt.relay.map (·.handoff.revoked)).toList

def revoke (s : LiveRuntime) (i : Nat) : LiveRuntime :=
  match s.slots[i]? with
  | none => s
  | some slot =>
    match slot.attempt with
    | none => s
    | some attempt => { s.setSlot i { slot with revoked := true } with
        flags := raise s.flags (revokedFlags attempt) }

/-- Dropping revokes, gives an unspent lease back and unlinks an unstarted relay's socket. -/
def drop (s : LiveRuntime) (i : Nat) : LiveRuntime :=
  match s.slots[i]? with
  | none => s
  | some slot =>
    match slot.attempt with
    | none => s
    | some attempt => { s.setSlot i { slot with attempt := none, revoked := true } with
        flags := raise s.flags (revokedFlags attempt)
        leaseFiles := s.leaseFiles.filter fun file =>
          !(attempt.context.any fun context => context.lease.files.contains file)
        sockets := s.sockets.filter fun socket =>
          !(attempt.relay.any fun relay => relay.socket == socket) }

def finish (s : LiveRuntime) (process : Nat) : LiveRuntime :=
  match s.processes[process]? with
  | none => s
  | some (_, ended) =>
    { s.releaseLease ended.lease with processes := s.processes.eraseIdx process }

/-- The thread is over and its relay dropped. -/
def retire (s : LiveRuntime) (w : Nat) : LiveRuntime :=
  match s.workers[w]? with
  | none => s
  | some worker => { s with
      workers := s.workers.eraseIdx w
      sockets := s.sockets.filter fun socket => !(worker.relay.socket == socket) }

def moveWorker (s : LiveRuntime) (w : Nat) (worker : RelayWorker) : LiveRuntime :=
  { s with workers := s.workers.set w worker }

def contact (s : LiveRuntime) (attempt : Nat) (kind : ContactKind) : LiveRuntime :=
  { s with contacts := s.contacts ++
      [⟨attempt, kind, s.slots[attempt]?.any Slot.revoked⟩] }

/-- A relay thread reads a request. -/
def peer (s : LiveRuntime) (w : Nat) (sent : List UInt8) : LiveRuntime :=
  match s.workers[w]? with
  | none => s
  | some worker =>
    if worker.phase ≠ .waiting then s
    else match worker.relay.accept sent with
      | .ok () => s.moveWorker w { worker with phase := .matched }
      | .error _ => s.retire w

/-- A relay thread validates its handoff. -/
def check (s : LiveRuntime) (w : Nat) (socketAt : OsPath → Option Bool) : LiveRuntime :=
  match s.workers[w]? with
  | none => s
  | some worker =>
    if worker.phase ≠ .matched then s
    else match worker.relay.check host ⟨worker.nowUnixMs, s.flags, socketAt, fun _ => none⟩ with
      | .ok () => (s.moveWorker w { worker with phase := .authenticated }).contact worker.attempt
          .authenticated
      | .error _ => s.retire w

/-- A relay thread opens the provider. -/
def connect (s : LiveRuntime) (w nowUnixMs : Nat) (opens : Bool) : LiveRuntime :=
  match s.workers[w]? with
  | none => s
  | some worker =>
    if worker.phase ≠ .authenticated then s
    else match worker.relay.connect nowUnixMs opens with
      | .ok relay => (s.moveWorker w { worker with relay := relay, phase := .connected }).contact
          worker.attempt .connected
      | .error _ => s.retire w

def step (s : LiveRuntime) : AttemptEvent → LiveRuntime
  | .acquire request =>
    match s.acquire host provisioner request with
    | .ok t => t
    | .error _ => s
  | .spawn i outcome => s.spawn host provisioner i outcome
  | .startRelay i now => s.startRelay i now
  | .revoke i => s.revoke i
  | .drop i => s.drop i
  | .finish p => s.finish p
  | .endAuthority authority => { s with ended := authority :: s.ended }
  | .peer w sent => s.peer w sent
  | .check w socketAt => s.check host w socketAt
  | .connect w now opens => s.connect w now opens
  | .retire w => s.retire w

/-! ## Revocation and the provider -/

/-- No peer was authenticated and no provider opened for an attempt after a revocation
of it had returned. -/
def ClosedAfterRevocation (s : LiveRuntime) : Prop :=
  ∀ contact ∈ s.contacts, contact.afterRevocation = false

/-- An attempt can be revoked to effect: part of it is still there to reach the
handoff's flag through, and its relay thread is not between its check and the provider. -/
def reachable (s : LiveRuntime) (i : Nat) : Bool :=
  (s.attemptAt i).all (fun attempt => attempt.context.isSome || attempt.relay.isSome) &&
    s.workers.all fun worker => !(worker.attempt == i && worker.phase == .authenticated)

/-- Attempts are revoked and dropped only while they can be revoked to effect. -/
def timely (s : LiveRuntime) : AttemptEvent → Bool
  | .revoke i => s.reachable i
  | .drop i => s.reachable i
  | _ => true

/-- The context and the relay of an attempt share the flag of its slot. -/
structure Flagged (slot : Slot) : Prop where
  context : ∀ attempt ∈ slot.attempt, ∀ context ∈ attempt.context,
    context.handoff.revoked = slot.handoffFlag
  relay : ∀ attempt ∈ slot.attempt, ∀ relay ∈ attempt.relay,
    relay.handoff.revoked = slot.handoffFlag

/-- What a relay thread has in common with the slot of its attempt. -/
structure Follows (worker : RelayWorker) (slot : Slot) : Prop where
  flag : worker.relay.handoff.revoked = slot.handoffFlag
  stopped : slot.revoked = true → worker.phase ≠ .authenticated

structure Sealed (s : LiveRuntime) : Prop where
  allocated : ∀ slot ∈ s.slots, slot.handoffFlag < s.nextFlag
  flagged : ∀ slot ∈ s.slots, Flagged slot
  closed : ∀ slot ∈ s.slots, slot.revoked = true → s.flags slot.handoffFlag = true
  workers : ∀ worker ∈ s.workers, ∃ slot, s.slots[worker.attempt]? = some slot ∧ Follows worker slot
  contacts : s.ClosedAfterRevocation

variable {host provisioner} {s : LiveRuntime}

theorem raise_of_true {flags : Nat → Bool} {flag : Nat} (h : flags flag = true) :
    raise flags raised flag = true := by
  induction raised with
  | nil => exact h
  | cons first rest ih => rw [raise, ih, Bool.or_true]

theorem raise_of_mem {flags : Nat → Bool} {flag : Nat} (h : flag ∈ raised) :
    raise flags raised flag = true := by
  induction raised with
  | nil => cases h
  | cons first rest ih =>
    rw [raise]
    rcases mem_cons.mp h with rfl | later
    · rw [beq_self_eq_true, Bool.true_or]
    · rw [ih later, Bool.or_true]

variable {i : Nat}

section
variable (sealed : s.Sealed)
include sealed

variable {slot : Slot}

namespace Sealed

/-- A slot changes and flags are raised; its thread may not be between its check and the provider
when the slot is revoked. -/
theorem changeSlot {next : Slot} {flags : Nat → Bool}
    (found : s.slots[i]? = some slot) (same : next.handoffFlag = slot.handoffFlag)
    (flagged : Flagged next) (raised : ∀ flag, s.flags flag = true → flags flag = true)
    (closed : next.revoked = true → flags slot.handoffFlag = true)
    (stopped : ∀ worker ∈ s.workers, worker.attempt = i → Follows worker slot →
      next.revoked = true → worker.phase ≠ .authenticated) :
    { s.setSlot i next with flags := flags }.Sealed := by
  refine { sealed with allocated := ?_, flagged := ?_, closed := ?_, workers := ?_ }
  · intro other changed
    rcases mem_or_eq_of_mem_set changed with old | rfl
    · exact sealed.allocated other old
    · rw [same]
      exact sealed.allocated slot (mem_of_getElem? found)
  · intro other changed
    rcases mem_or_eq_of_mem_set changed with old | rfl
    · exact sealed.flagged other old
    · exact flagged
  · intro other changed revoked
    rcases mem_or_eq_of_mem_set changed with old | rfl
    · exact raised _ (sealed.closed other old revoked)
    · rw [same]
      exact closed revoked
  · intro worker running
    obtain ⟨its_slot, place, follows⟩ := sealed.workers worker running
    by_cases here : i = worker.attempt
    · subst here
      obtain rfl := Option.mem_unique place found
      refine ⟨next, ?_, follows.flag.trans same.symm, stopped worker running rfl follows⟩
      exact getElem?_set_self' .. |>.trans (by rw [found]; rfl)
    · refine ⟨its_slot, ?_, follows⟩
      show (s.slots.set i _)[worker.attempt]? = some its_slot
      rw [getElem?_set_ne here]
      exact place

/-- A slot changes in what its attempt holds. -/
theorem setSlot {attempt : Option LiveProviderAttempt}
    (found : s.slots[i]? = some slot) (flagged : Flagged { slot with attempt := attempt }) :
    (s.setSlot i { slot with attempt := attempt }).Sealed :=
  sealed.changeSlot found rfl flagged (fun _ set => set)
    (sealed.closed slot (mem_of_getElem? found)) fun _ _ _ follows => follows.stopped

/-- A slot is revoked while its attempt can be revoked to effect; its attempt may go. -/
theorem revokeSlot {attempt : LiveProviderAttempt} (found : s.slots[i]? = some slot)
    (held : slot.attempt = some attempt) (kept : left = slot.attempt ∨ left = none)
    (reachable : s.reachable i = true) :
    { s.setSlot i { slot with attempt := left, revoked := true } with
      flags := raise s.flags (revokedFlags attempt) }.Sealed := by
  have shared := sealed.flagged slot (mem_of_getElem? found)
  simp only [LiveRuntime.reachable, attemptAt, found, Option.bind_some, held, Option.all_some,
    Bool.and_eq_true, Bool.or_eq_true, all_eq_true] at reachable
  obtain ⟨present, idle⟩ := reachable
  have flag : slot.handoffFlag ∈ revokedFlags attempt := by
    rcases present with present | present
    · obtain ⟨context, has⟩ := Option.isSome_iff_exists.mp present
      simp [revokedFlags, has, shared.context attempt held context has]
    · obtain ⟨relay, has⟩ := Option.isSome_iff_exists.mp present
      simp [revokedFlags, has, shared.relay attempt held relay has]
  refine sealed.changeSlot found rfl ?_ (fun _ => raise_of_true) (fun _ => raise_of_mem flag) ?_
  · rcases kept with rfl | rfl
    · exact ⟨shared.context, shared.relay⟩
    · exact ⟨by rintro _ ⟨⟩, by rintro _ ⟨⟩⟩
  · intro worker running here _ _ authenticated
    simpa [here, authenticated] using idle worker running

variable {t : LiveRuntime}

theorem acquire (h : s.acquire host provisioner request = .ok t) : t.Sealed := by
  simp only [LiveRuntime.acquire, bind_eq_ok, pure_eq_ok] at h
  obtain ⟨_, _, _, _, _, _, ⟨context, relay⟩, _, rfl⟩ := h
  constructor
  · intro slot member
    rcases mem_append.mp member with old | new
    · exact Nat.lt_succ_of_lt (sealed.allocated slot old)
    · rw [mem_singleton.mp new]
      exact Nat.lt_succ_self s.nextFlag
  · intro slot member
    rcases mem_append.mp member with old | new
    · exact sealed.flagged slot old
    · rw [mem_singleton.mp new]
      constructor
      · rintro _ ⟨⟩ _ ⟨⟩
        rfl
      · rintro _ ⟨⟩ _ ⟨⟩
        rfl
  · intro slot member revoked
    rcases mem_append.mp member with old | new
    · dsimp only
      rw [Function.update_of_ne (Nat.ne_of_lt (sealed.allocated slot old))]
      exact sealed.closed slot old revoked
    · rw [mem_singleton.mp new] at revoked
      cases revoked
  · intro worker running
    obtain ⟨slot, place, follows⟩ := sealed.workers worker running
    exact ⟨slot, List.getElem?_append_left (List.getElem?_eq_some_iff.mp place).1 ▸ place, follows⟩
  · exact sealed.contacts

theorem spawn (i : Nat) (outcome : SpawnOutcome) :
    (s.spawn host provisioner i outcome).Sealed := by
  unfold LiveRuntime.spawn
  split
  case h_1 => exact sealed
  case h_2 slot found =>
    split
    case h_1 => exact sealed
    case h_2 attempt held =>
      split_ifs with fenced
      · exact sealed
      split
      case h_1 => exact sealed
      case h_2 context has =>
        have flags := sealed.flagged slot (mem_of_getElem? found)
        have taken : (s.setSlot i { slot with
            attempt := some { attempt with context := none } }).Sealed := sealed.setSlot found
          ⟨by rintro _ ⟨⟩ _ ⟨⟩, by rintro _ ⟨⟩; exact flags.relay attempt held⟩
        dsimp only
        split
        case h_1 => exact { taken with }
        case h_2 =>
          split_ifs
          · exact taken
          · exact { taken with }

theorem startRelay (i now : Nat) : (s.startRelay i now).Sealed := by
  unfold LiveRuntime.startRelay
  split
  case h_1 => exact sealed
  case h_2 slot found =>
    split
    case h_1 => exact sealed
    case h_2 attempt held =>
      split_ifs with fenced
      · exact sealed
      split
      case h_1 => exact sealed
      case h_2 relay has =>
        have flags := sealed.flagged slot (mem_of_getElem? found)
        have taken : (s.setSlot i { slot with
            attempt := some { attempt with relay := none } }).Sealed := sealed.setSlot found
          ⟨by rintro _ ⟨⟩; exact flags.context attempt held, by rintro _ ⟨⟩ _ ⟨⟩⟩
        refine { taken with workers := fun worker running => ?_ }
        rcases mem_append.mp running with old | new
        · exact taken.workers worker old
        · rw [mem_singleton.mp new]
          refine ⟨{ slot with attempt := some { attempt with relay := none } }, ?_, ?_, ?_⟩
          · exact getElem?_set_self' .. |>.trans (by rw [found]; rfl)
          · exact flags.relay attempt held relay has
          · rintro _ ⟨⟩

theorem revoke (reachable : s.reachable i = true) :
    (s.revoke i).Sealed := by
  unfold LiveRuntime.revoke
  split
  case h_1 => exact sealed
  case h_2 slot found =>
    split
    case h_1 => exact sealed
    case h_2 attempt held =>
      exact sealed.revokeSlot found held (.inl rfl) reachable

theorem drop (reachable : s.reachable i = true) : (s.drop i).Sealed := by
  unfold LiveRuntime.drop
  split
  case h_1 => exact sealed
  case h_2 slot found =>
    split
    case h_1 => exact sealed
    case h_2 attempt held =>
      have revoked := sealed.revokeSlot found held (.inr rfl) reachable
      exact { revoked with }

theorem finish (process : Nat) : (s.finish process).Sealed := by
  unfold LiveRuntime.finish
  split
  case h_1 => exact sealed
  case h_2 => exact { sealed with }

theorem retire (w : Nat) : (s.retire w).Sealed := by
  unfold LiveRuntime.retire
  split
  case h_1 => exact sealed
  case h_2 worker found =>
    refine { sealed with workers := fun other running => ?_ }
    exact sealed.workers other (mem_of_mem_eraseIdx running)

/-- A relay thread moves on; it may become authenticated only for a standing slot. -/
theorem moveWorker (place : s.slots[moved.attempt]? = some slot) (follows : Follows moved slot) :
    (s.moveWorker w moved).Sealed := by
  refine { sealed with workers := fun other running => ?_ }
  rcases mem_or_eq_of_mem_set running with old | rfl
  · exact sealed.workers other old
  · exact ⟨slot, place, follows⟩

theorem contact (place : s.slots[attempt]? = some slot) (standing : slot.revoked = false) :
    (s.contact attempt kind).Sealed := by
  refine { sealed with contacts := fun contact member => ?_ }
  rcases mem_append.mp member with old | new
  · exact sealed.contacts contact old
  · rw [mem_singleton.mp new]
    simp [place, standing]

theorem peer (w : Nat) (sent : List UInt8) : (s.peer w sent).Sealed := by
  unfold LiveRuntime.peer
  split
  case h_1 => exact sealed
  case h_2 worker found =>
    split_ifs with waiting
    · exact sealed
    split
    case h_1 =>
      obtain ⟨slot, place, follows⟩ := sealed.workers worker (mem_of_getElem? found)
      exact sealed.moveWorker place ⟨follows.flag, by rintro _ ⟨⟩⟩
    case h_2 => exact sealed.retire w

end Sealed

end

theorem check_revoked {relay : LiveProviderRelay} {around : Surroundings}
    (revoked : around.flags relay.handoff.revoked = true) : relay.check host around ≠ .ok () := by
  intro passes
  simp only [LiveProviderRelay.check, liveError_eq_ok, LiveProviderNamespaceHandoff.validate,
    LiveProviderNamespaceHandoff.validateMetadata, bind_eq_ok, refuse_eq_ok] at passes
  obtain ⟨_, _, _, _, _, standing, _⟩ := passes
  exact standing revoked

theorem Sealed.check (sealed : s.Sealed) (w : Nat) (socketAt : OsPath → Option Bool) :
    (s.check host w socketAt).Sealed := by
  unfold LiveRuntime.check
  split
  case h_1 => exact sealed
  case h_2 worker found =>
    split_ifs with matched
    · exact sealed
    split
    case h_1 passes =>
      obtain ⟨slot, place, follows⟩ := sealed.workers worker (mem_of_getElem? found)
      have standing : slot.revoked = false := by
        by_contra revoked
        have closed := sealed.closed slot (mem_of_getElem? place) (by simpa using revoked)
        exact check_revoked (by simpa only [follows.flag] using closed) passes
      have moved : (s.moveWorker w { worker with phase := .authenticated }).Sealed :=
        sealed.moveWorker place ⟨follows.flag, by simp [standing]⟩
      exact moved.contact place standing
    case h_2 => exact sealed.retire w

theorem Sealed.connect (sealed : s.Sealed) (w now : Nat) (opens : Bool) :
    (s.connect w now opens).Sealed := by
  unfold LiveRuntime.connect
  split
  case h_1 => exact sealed
  case h_2 worker found =>
    split_ifs with authenticated
    · exact sealed
    split
    case h_1 relay opened =>
      obtain ⟨slot, place, follows⟩ := sealed.workers worker (mem_of_getElem? found)
      have standing : slot.revoked = false := by
        by_contra revoked
        exact follows.stopped (by simpa using revoked) (not_not.mp authenticated)
      have flag : relay.handoff.revoked = slot.handoffFlag := by
        rw [← follows.flag]
        unfold LiveProviderRelay.connect at opened
        split at opened
        case h_1 => cases opened
        case h_2 =>
          simp only [bind_eq_ok, pure_eq_ok] at opened
          obtain ⟨_, _, _, _, rfl⟩ := opened
          rfl
      have moved : (s.moveWorker w { worker with relay := relay, phase := .connected }).Sealed :=
        sealed.moveWorker place ⟨flag, by rintro _ ⟨⟩⟩
      exact moved.contact place standing
    case h_2 => exact sealed.retire w

theorem Sealed.fresh : (fresh provisioner).Sealed where
  allocated := by rintro _ ⟨⟩
  flagged := by rintro _ ⟨⟩
  closed := by rintro _ ⟨⟩
  workers := by rintro _ ⟨⟩
  contacts := by rintro _ ⟨⟩

variable {event : AttemptEvent}

theorem Sealed.step (sealed : s.Sealed) (timely : s.timely event = true) :
    (s.step host provisioner event).Sealed := by
  cases event with
  | acquire request =>
    simp only [step]
    split
    case h_1 t acquired => exact sealed.acquire acquired
    case h_2 => exact sealed
  | spawn i outcome => exact sealed.spawn i outcome
  | startRelay i now => exact sealed.startRelay i now
  | revoke i => exact sealed.revoke timely
  | drop i => exact sealed.drop timely
  | finish p => exact sealed.finish p
  | endAuthority authority => exact { sealed with }
  | peer w sent => exact sealed.peer w sent
  | check w socketAt => exact sealed.check w socketAt
  | connect w now opens => exact sealed.connect w now opens
  | retire w => exact sealed.retire w

/-- Where attempts are revoked in time, a revocation that has returned closes the
provider for the attempt. -/
theorem revocation_closes_the_provider (host : Host) (provisioner : LiveProviderProvisioner)
    {events : List AttemptEvent} {s : LiveRuntime}
    (run : Run (Guarded (step host provisioner) timely) (fresh provisioner) events s) :
    s.ClosedAfterRevocation := by
  have preserved : ∀ s event t, s.Sealed →
      Guarded (step host provisioner) timely s event t → t.Sealed := by
    rintro s event t sealed ⟨rfl, timely⟩
    exact sealed.step timely
  exact (run.invariant preserved Sealed.fresh).contacts

/-! ### A sample provisioner -/

def sampleProvisioner : LiveProviderProvisioner where
  generation := "gen"
  routeSha256 := sampleDigest
  credentialRefSha256 := sampleDigest
  policy := ⟨sampleDigest⟩
  allowlist := ["198.51.100.10:443"]
  target := "198.51.100.10:443"
  leaseRoot := OsPath.ofText "/leases"
  cpus := [0]
  backend := sampleBackend
  relayRoot := some (OsPath.ofText "/relays")
  revoked := 0

def sampleAttempt (attemptId : Nat) : AttemptRequest where
  attemptId := attemptId
  input := ⟨sampleSpec [], sampleLimits, none, none⟩
  limits := sampleLimits
  adapterSha256 := sampleDigest
  nowUnixMs := 1000
  ownNamespace := some "net:[1]"
  probe := true
  nonce := 1
  authorityFence := none

/-- The request the relay of the first attempt expects. -/
def sampleSent : List UInt8 :=
  match sampleProvisioner.provision toy (sampleAttempt 1) with
  | .ok (_, relay) => requestLine relay.generation relay.capabilitySha256
  | .error _ => []

/-- The relay serves its child, and the attempt, which was never spawned, is revoked. -/
def servedThenRevoked : List AttemptEvent :=
  [.acquire (sampleAttempt 1), .startRelay 0 1500, .peer 0 sampleSent, .check 0 fun _ => some true,
    .connect 0 1600 true, .revoke 0]

theorem revocation_closes_the_provider_sample :
    (servedThenRevoked.foldl (step toy sampleProvisioner)
        (fresh sampleProvisioner)).contacts.length = 2 ∧
      (servedThenRevoked.foldl (step toy sampleProvisioner)
        (fresh sampleProvisioner)).ClosedAfterRevocation := by
  have allowed : allows (step toy sampleProvisioner) timely (fresh sampleProvisioner)
      servedThenRevoked = true := by decide +kernel
  exact ⟨by decide +kernel,
    revocation_closes_the_provider toy sampleProvisioner (Run.of_allows allowed)⟩

/-- The order of the command line: spawn, start the relay, then cancel. -/
def cancelledAfterStart : List AttemptEvent :=
  [.acquire (sampleAttempt 1), .spawn 0 sampleOutcome, .startRelay 0 1500, .revoke 0,
    .peer 0 sampleSent, .check 0 fun _ => some true]

theorem not_revocation_closes_the_provider :
    ¬ ∀ (host : Host) (provisioner : LiveProviderProvisioner) (events : List AttemptEvent)
      (s : LiveRuntime),
      Run (fun before event after => after = before.step host provisioner event) (fresh provisioner)
        events s → s.ClosedAfterRevocation := by
  intro closes
  have run := closes toy sampleProvisioner cancelledAfterStart _
    (Run.foldl (step toy sampleProvisioner) _ _)
  have late : (cancelledAfterStart.foldl (step toy sampleProvisioner)
      (fresh sampleProvisioner)).contacts.any Contact.afterRevocation = true := by decide +kernel
  obtain ⟨contact, member, after⟩ := any_eq_true.mp late
  rw [run contact member] at after
  cases after

/-! ## Isolation of attempts -/

/-- What an attempt is good for: it can be spawned, its relay can be started, and its
handoff stands. -/
structure Usability where
  spawns : Bool
  starts : Bool
  stands : Bool
  deriving DecidableEq

def usability (s : LiveRuntime) (i : Nat) : Option Usability :=
  s.slots[i]?.bind fun slot => slot.attempt.map fun attempt => {
    spawns := !s.fenced attempt && attempt.context.isSome && !s.flags slot.handoffFlag
    starts := !s.fenced attempt && attempt.relay.isSome
    stands := !s.flags slot.handoffFlag }

/-- The attempt an event is an operation on. -/
def subject (s : LiveRuntime) : AttemptEvent → Option Nat
  | .acquire _ => some s.slots.length
  | .spawn i _ => some i
  | .startRelay i _ => some i
  | .revoke i => some i
  | .drop i => some i
  | .finish p => s.processes[p]?.map Prod.fst
  | .endAuthority _ => none
  | .peer w _ => s.workers[w]?.map RelayWorker.attempt
  | .check w _ => s.workers[w]?.map RelayWorker.attempt
  | .connect w _ _ => s.workers[w]?.map RelayWorker.attempt
  | .retire w => s.workers[w]?.map RelayWorker.attempt

variable (host provisioner) in
/-- The operation leaves the other attempts as they were, and where CPUs and socket are
free a further attempt can be acquired if it could before. -/
structure Isolated (s : LiveRuntime) (event : AttemptEvent) : Prop where
  others : ∀ i j, s.subject event = some i → j ≠ i →
    (s.step host provisioner event).usability j = s.usability j
  further : ∀ i request, s.subject event = some i →
    Control.isOk (s.acquire host provisioner request) = true →
    (s.step host provisioner event).leaseFree provisioner = true →
    (s.step host provisioner event).socketFree provisioner request.attemptId = true →
    Control.isOk ((s.step host provisioner event).acquire host provisioner request) = true

/-- The event neither revokes nor drops an attempt. -/
def calm (_ : LiveRuntime) : AttemptEvent → Bool
  | .revoke _ => false
  | .drop _ => false
  | _ => true

/-- Only the slot at `i` may differ. -/
structure Touches (i : Nat) (s t : LiveRuntime) : Prop where
  slots : ∀ j, j ≠ i → t.slots[j]? = s.slots[j]?
  flags : ∀ flag, t.flags flag = true → s.flags flag = true
  ended : t.ended = s.ended

open Touches

theorem Touches.refl (i : Nat) (s : LiveRuntime) : Touches i s s :=
  ⟨fun _ _ => rfl, fun _ h => h, rfl⟩

theorem touches_setSlot (s : LiveRuntime) (i : Nat) (slot : Slot) :
    Touches i s (s.setSlot i slot) :=
  ⟨fun _ other => getElem?_set_ne (Ne.symm other), fun _ h => h, rfl⟩

theorem touches_acquire (h : s.acquire host provisioner request = .ok t) :
    Touches s.slots.length s t := by
  simp only [acquire, bind_eq_ok, pure_eq_ok] at h
  obtain ⟨_, _, _, _, _, _, ⟨context, relay⟩, _, rfl⟩ := h
  constructor
  · intro j other
    rcases Nat.lt_or_gt_of_ne other with below | above
    · exact getElem?_append_left below
    · rw [getElem?_eq_none (Nat.le_of_lt above),
        getElem?_eq_none (by simpa using Nat.succ_le_of_lt above)]
  · intro flag raised
    dsimp only at raised
    rw [Function.update_apply] at raised
    split_ifs at raised
    exact raised
  · rfl

theorem touches_spawn (i : Nat) (outcome : SpawnOutcome) :
    Touches i s (s.spawn host provisioner i outcome) := by
  unfold spawn
  split
  case h_1 => exact refl i s
  case h_2 slot found =>
    split
    case h_1 => exact refl i s
    case h_2 attempt held =>
      split_ifs with fenced
      · exact refl i s
      split
      case h_1 => exact refl i s
      case h_2 context has =>
        have taken :=
          touches_setSlot s i { slot with attempt := some { attempt with context := none } }
        dsimp only
        split
        case h_1 => exact { taken with }
        case h_2 => split_ifs <;> exact { taken with }

theorem touches_startRelay (i now : Nat) : Touches i s (s.startRelay i now) := by
  unfold startRelay
  split
  case h_1 => exact refl i s
  case h_2 slot found =>
    split
    case h_1 => exact refl i s
    case h_2 attempt held =>
      split_ifs with fenced
      · exact refl i s
      split
      case h_1 => exact refl i s
      case h_2 relay has =>
        have taken :=
          touches_setSlot s i { slot with attempt := some { attempt with relay := none } }
        exact { taken with }

theorem touches_finish (i process : Nat) : Touches i s (s.finish process) := by
  unfold finish
  split
  case h_1 => exact refl i s
  case h_2 => exact ⟨fun _ _ => rfl, fun _ h => h, rfl⟩

theorem touches_retire (i w : Nat) : Touches i s (s.retire w) := by
  unfold retire
  split
  case h_1 => exact refl i s
  case h_2 => exact ⟨fun _ _ => rfl, fun _ h => h, rfl⟩

theorem touches_peer (i w : Nat) (sent : List UInt8) : Touches i s (s.peer w sent) := by
  unfold peer
  split
  case h_1 => exact refl i s
  case h_2 worker found =>
    split_ifs with waiting
    · exact refl i s
    split
    case h_1 => exact ⟨fun _ _ => rfl, fun _ h => h, rfl⟩
    case h_2 => exact touches_retire i w

theorem touches_check (i w : Nat) (socketAt : OsPath → Option Bool) :
    Touches i s (s.check host w socketAt) := by
  unfold check
  split
  case h_1 => exact refl i s
  case h_2 worker found =>
    split_ifs with matched
    · exact refl i s
    split
    case h_1 => exact ⟨fun _ _ => rfl, fun _ h => h, rfl⟩
    case h_2 => exact touches_retire i w

theorem touches_connect (i w now : Nat) (opens : Bool) : Touches i s (s.connect w now opens) := by
  unfold connect
  split
  case h_1 => exact refl i s
  case h_2 worker found =>
    split_ifs with authenticated
    · exact refl i s
    split
    case h_1 => exact ⟨fun _ _ => rfl, fun _ h => h, rfl⟩
    case h_2 => exact touches_retire i w

/-- A calm operation touches the slot of its own attempt only. -/
theorem touches_step (calm : s.calm event = true)
    (subject : s.subject event = some i) : Touches i s (s.step host provisioner event) := by
  cases event with
  | acquire request =>
    cases subject
    simp only [step]
    split
    case h_1 t acquired => exact touches_acquire acquired
    case h_2 => exact refl _ s
  | spawn k outcome =>
    obtain rfl := Option.some.inj subject
    exact touches_spawn k outcome
  | startRelay k now =>
    obtain rfl := Option.some.inj subject
    exact touches_startRelay k now
  | revoke | drop => cases calm
  | finish p => exact touches_finish i p
  | endAuthority authority => cases subject
  | peer w sent => exact touches_peer i w sent
  | check w socketAt => exact touches_check i w socketAt
  | connect w now opens => exact touches_connect i w now opens
  | retire w => exact touches_retire i w

/-- No flag has been raised. -/
def Quiet (s : LiveRuntime) : Prop := ∀ flag, s.flags flag = false

theorem Quiet.of_touches (quiet : s.Quiet) (touches : Touches i s t) :
    t.Quiet := by
  intro flag
  by_contra raised
  have before := touches.flags flag (by simpa using raised)
  rw [quiet flag] at before
  cases before

theorem Quiet.step (quiet : s.Quiet) (calm : s.calm event = true) :
    (s.step host provisioner event).Quiet := by
  cases subject : s.subject event with
  | some i => exact quiet.of_touches (touches_step calm subject)
  | none =>
    -- an event without a subject names no worker or process, or ends an authority
    cases event with
    | acquire request => cases subject
    | spawn k outcome => cases subject
    | startRelay k now => cases subject
    | revoke k => cases calm
    | drop k => cases calm
    | finish p => exact quiet.of_touches (touches_finish 0 p)
    | endAuthority authority => exact quiet
    | peer w sent => exact quiet.of_touches (touches_peer 0 w sent)
    | check w socketAt => exact quiet.of_touches (touches_check 0 w socketAt)
    | connect w now opens => exact quiet.of_touches (touches_connect 0 w now opens)
    | retire w => exact quiet.of_touches (touches_retire 0 w)

theorem usability_of_touches (quiet : s.Quiet) (touches : Touches i s t) (other : j ≠ i) :
    t.usability j = s.usability j := by
  have quiet' := quiet.of_touches touches
  have fences : ∀ attempt, t.fenced attempt = s.fenced attempt := by
    intro attempt
    simp only [fenced, quiet attempt.fence, quiet' attempt.fence, authorityRevoked, touches.ended]
  simp only [usability, touches.slots j other, fences, quiet _, quiet' _]

/-- Apart from the provisioner's flag, an acquisition depends on free CPUs, a free socket
and its own arguments. -/
theorem acquire_isOk (s : LiveRuntime) (request : AttemptRequest) :
    Control.isOk (s.acquire host provisioner request) = true ↔
      s.flags provisioner.revoked = false ∧ s.leaseFree provisioner = true ∧
        s.socketFree provisioner request.attemptId = true ∧
        Control.isOk (provisioner.provision host request) = true := by
  rw [Control.isOk_iff, Control.isOk_iff]
  simp only [acquire, bind_eq_ok, refuse_eq_ok, pure_eq_ok, Bool.not_eq_true,
    Bool.not_eq_false]
  constructor
  · rintro ⟨t, _, flag, _, lease, _, socket, provisioned, found, _⟩
    exact ⟨flag, lease, socket, provisioned, found⟩
  · rintro ⟨flag, lease, socket, provisioned, found⟩
    exact ⟨_, ⟨⟩, flag, ⟨⟩, lease, ⟨⟩, socket, provisioned, found, rfl⟩

/-- As long as no attempt has been revoked or dropped, attempts are isolated. -/
theorem attempts_are_isolated (host : Host) (provisioner : LiveProviderProvisioner)
    {events : List AttemptEvent} {s : LiveRuntime}
    (run : Run (Guarded (LiveRuntime.step host provisioner) calm) (fresh provisioner) events s)
    {event : AttemptEvent} (calm : s.calm event = true) : Isolated host provisioner s event := by
  have preserved : ∀ s event t, s.Quiet →
      Guarded (LiveRuntime.step host provisioner) LiveRuntime.calm s event t → t.Quiet := by
    rintro s event t quiet ⟨rfl, calm⟩
    exact quiet.step calm
  have quiet : s.Quiet := run.invariant preserved fun _ => rfl
  constructor
  · intro i j subject other
    exact usability_of_touches quiet (touches_step calm subject) other
  · intro i request subject before lease socket
    rw [acquire_isOk] at before ⊢
    exact ⟨quiet.step calm provisioner.revoked, lease, socket, before.2.2.2⟩

/-- A second attempt is acquired after the first one's process has finished. -/
def secondAttempt : List AttemptEvent :=
  [.acquire (sampleAttempt 1), .spawn 0 sampleOutcome, .finish 0,
    .acquire (sampleAttempt 2)]

theorem attempts_are_isolated_sample :
    (secondAttempt.foldl (step toy sampleProvisioner)
        (fresh sampleProvisioner)).usability 1 = some ⟨true, true, true⟩ ∧
      Isolated toy sampleProvisioner
        (secondAttempt.foldl (step toy sampleProvisioner) (fresh sampleProvisioner))
        (.startRelay 0 1500) := by
  have allowed : allows (step toy sampleProvisioner) calm (fresh sampleProvisioner)
      secondAttempt = true := rfl
  exact ⟨by decide +kernel,
    attempts_are_isolated toy sampleProvisioner (Run.of_allows allowed) rfl⟩

/-- Revoking the first attempt makes the second one useless. -/
theorem not_attempts_are_isolated :
    ¬ ∀ (host : Host) (provisioner : LiveProviderProvisioner) (events : List AttemptEvent)
      (s : LiveRuntime),
      Run (fun before event after => after = before.step host provisioner event) (fresh provisioner)
        events s → ∀ event, Isolated host provisioner s event := by
  intro isolated
  have run := isolated toy sampleProvisioner secondAttempt _
    (Run.foldl (step toy sampleProvisioner) _ _) (.revoke 0)
  have same := run.others 0 1 rfl (by decide)
  have lost : ((secondAttempt.foldl (step toy sampleProvisioner)
      (fresh sampleProvisioner)).step toy sampleProvisioner (.revoke 0)).usability 1 ≠
      (secondAttempt.foldl (step toy sampleProvisioner)
        (fresh sampleProvisioner)).usability 1 := by decide +kernel
  exact lost same

end LiveRuntime

end AgentSystemsBenchmark.Runtime
