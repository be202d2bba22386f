import AgentSystemsBenchmark.Runtime.Sandbox

/-!
# Attested launches

The two binding digests and the factories that check them, the launch gate, and
what a child is handed at it.
-/

namespace AgentSystemsBenchmark.Runtime

open Effects Framing Numerals DebugText List

/-! ## Binding digests -/

inductive LaunchPath where
  | replay (cassetteSha256 : String)
  | live (nowUnixMs : Nat)
  deriving DecidableEq

section Binding

variable (host : Host)

def replayHandoffFields (handoff : ReplayRelayHandoff) : List String :=
  [handoff.generation, host.lossy handoff.socketPath, host.lossy handoff.childEndpoint]

/-- What the replay path hashes, in order. -/
def launchBindingFields (input : SandboxLaunchInput) (lease : ResourceLease)
    (cassetteSha256 : String) : List String :=
  let spec := input.spec
  [cassetteSha256, host.specText spec, host.limitsText input.limits, spec.program,
    "\x00".intercalate spec.arguments,
    "\x00".intercalate (spec.environment.map fun (key, value) => key ++ "=" ++ value),
    lease.leaseClass.text, String.ofList (cpuSetText lease.cpus)] ++
  (input.replayHandoff.map (replayHandoffFields host)).getD ["<no-replay-handoff>"] ++
  (match spec.supervisor with
    | some plan => [plan.generation, host.lossy plan.relay, plan.routeDigest, plan.sidecar.digest,
        plan.adapter.digest, (plan.supervisor.map (·.digest)).getD "<no-supervisor>"]
    | none => ["<no-supervisor-plan>"])

/-- What the live path hashes, in order. -/
def liveLaunchBindingFields (handoff : LiveProviderNamespaceHandoff) (netns : NamespaceIdentity)
    (input : SandboxLaunchInput) (lease : ResourceLease) (nowUnixMs : Nat) : List String :=
  [handoff.policySha256, handoff.generation, handoff.routeSha256, handoff.adapterSha256,
    handoff.credentialRefSha256, host.lossy handoff.relaySocket, handoff.capabilitySha256,
    netns.value, nowUnixMs.repr, String.ofList (cpuSetText lease.cpus), input.spec.program]

def digestOf (fields : List String) : String := host.sha256 (fields.flatMap framed)

def launchBindingDigest (input : SandboxLaunchInput) (lease : ResourceLease)
    (cassetteSha256 : String) : String :=
  digestOf host (launchBindingFields host input lease cassetteSha256)

def liveLaunchBindingDigest (handoff : LiveProviderNamespaceHandoff) (netns : NamespaceIdentity)
    (input : SandboxLaunchInput) (lease : ResourceLease) (nowUnixMs : Nat) : String :=
  digestOf host (liveLaunchBindingFields host handoff netns input lease nowUnixMs)

structure RuntimeLaunchToken where
  nonce : Nat
  bindingDigest : String
  deriving DecidableEq

structure SandboxBackend where
  liveLaunchGate : Bool
  developmentFixture : Bool
  deriving DecidableEq

inductive SandboxError where
  | run | delegationRejected | scopeOwnership | leaseMismatch | liveHandoff
  deriving DecidableEq

inductive LaunchAuthorityError where
  | invalidLaunchInput | invalidLease | identityMismatch
  deriving DecidableEq

/-- `probe` is the outcome of the isolation probe and `nonce` the next token number. -/
def SandboxBackend.attestReplayLaunch (backend : SandboxBackend) (probe : Bool) (nonce : Nat)
    (input : SandboxLaunchInput) (lease : ResourceLease) (cassetteSha256 : String) :
    Except SandboxError RuntimeLaunchToken := do
  refuse (backend.developmentFixture = false ∧ probe = false) .delegationRejected
  pure ⟨nonce, launchBindingDigest host input lease cassetteSha256⟩

def SandboxBackend.attestLiveLaunch (_backend : SandboxBackend) (probe : Bool) (nonce : Nat)
    (input : SandboxLaunchInput) (lease : ResourceLease) (nowUnixMs : Nat) :
    Except SandboxError RuntimeLaunchToken :=
  match input.liveProvider with
  | none => .error .liveHandoff
  | some (handoff, netns) => do
    refuse (probe = false) .delegationRejected
    pure ⟨nonce, liveLaunchBindingDigest host handoff netns input lease nowUnixMs⟩

structure ReplayLaunchAuthority where
  input : SandboxLaunchInput
  lease : ResourceLease
  generation : String
  routeDigest : String
  sidecarDigest : String
  adapterDigest : String
  supervisorDigest : Option String
  cassetteSha256 : String
  backend : Option SandboxBackend
  deriving DecidableEq

structure LiveLaunchAuthority where
  input : SandboxLaunchInput
  lease : ResourceLease
  backend : SandboxBackend
  handoff : LiveProviderNamespaceHandoff
  netns : NamespaceIdentity
  deriving DecidableEq

def isHexdigit (byte : UInt8) : Bool :=
  Control.isLowerHex byte || (65 ≤ byte && byte ≤ 70)

def validDigest (value : String) : Bool :=
  value.utf8ByteSize == 64 && (bytes value).all isHexdigit

def ReplayLaunchFactory.issueInner (token : RuntimeLaunchToken) (input : SandboxLaunchInput)
    (lease : ResourceLease) (cassetteSha256 : String) (backend : Option SandboxBackend) :
    Except LaunchAuthorityError ReplayLaunchAuthority := do
  refuse (token.nonce = 0 ∨ validDigest cassetteSha256 = false) .invalidLaunchInput
  refuse (lease.leaseClass ≠ .benchmark) .invalidLease
  match input.replayHandoff, input.spec.supervisor with
  | some handoff, some plan =>
    refuse (handoff.generation ≠ plan.generation ∨ handoff.socketPath ≠ plan.relay)
      .identityMismatch
    refuse (token.bindingDigest ≠ launchBindingDigest host input lease cassetteSha256)
      .identityMismatch
    pure {
      input := input
      lease := lease
      generation := plan.generation
      routeDigest := plan.routeDigest
      sidecarDigest := plan.sidecar.digest
      adapterDigest := plan.adapter.digest
      supervisorDigest := plan.supervisor.map (·.digest)
      cassetteSha256 := cassetteSha256
      backend := backend }
  | _, _ => .error .invalidLaunchInput

def LiveLaunchFactory.issue (around : Surroundings) (token : RuntimeLaunchToken)
    (input : SandboxLaunchInput) (lease : ResourceLease) (backend : SandboxBackend)
    (netns : NamespaceIdentity) : Except LaunchAuthorityError LiveLaunchAuthority := do
  refuse (token.nonce = 0 ∨ lease.leaseClass ≠ .benchmark) .invalidLaunchInput
  match input.liveProvider with
  | none => .error .invalidLaunchInput
  | some (handoff, boundNetns) =>
    refuse (boundNetns ≠ netns ∨ ¬ Control.isOk (handoff.validate host around netns) ∨
      token.bindingDigest ≠
        liveLaunchBindingDigest host handoff boundNetns input lease around.nowUnixMs)
      .identityMismatch
    pure ⟨input, lease, backend, handoff, netns⟩

/-- The fields a path binds, for an input that has what the path needs. -/
def bindingFields (input : SandboxLaunchInput) (lease : ResourceLease) :
    LaunchPath → Option (List String)
  | .replay cassetteSha256 => some (launchBindingFields host input lease cassetteSha256)
  | .live nowUnixMs => input.liveProvider.map fun (handoff, netns) =>
      liveLaunchBindingFields host handoff netns input lease nowUnixMs

end Binding

/-- One request to launch; every text in memory is shorter than the width of its length. -/
structure LaunchRequest (host : Host) where
  input : SandboxLaunchInput
  lease : ResourceLease
  path : LaunchPath
  short : ∀ fields, bindingFields host input lease path = some fields → ∀ value ∈ fields, Fits value

namespace LaunchRequest

variable {host : Host}

def bindingDigest (request : LaunchRequest host) : Option String :=
  (bindingFields host request.input request.lease request.path).map (digestOf host)

/-- The token comes from the attestation of this request. -/
def Attested (request : LaunchRequest host) (token : RuntimeLaunchToken) : Prop :=
  match request.path with
  | .replay cassetteSha256 => ∃ (backend : SandboxBackend) (probe : Bool) (nonce : Nat),
      backend.attestReplayLaunch host probe nonce request.input request.lease cassetteSha256 =
        .ok token
  | .live nowUnixMs => ∃ (backend : SandboxBackend) (probe : Bool) (nonce : Nat),
      backend.attestLiveLaunch host probe nonce request.input request.lease nowUnixMs = .ok token

/-- The factory of the request's path takes the request with this token. -/
def Accepted (request : LaunchRequest host) (token : RuntimeLaunchToken) : Prop :=
  match request.path with
  | .replay cassetteSha256 => ∃ backend authority,
      ReplayLaunchFactory.issueInner host token request.input request.lease cassetteSha256 backend =
        .ok authority
  | .live nowUnixMs => ∃ around backend netns authority, around.nowUnixMs = nowUnixMs ∧
      LiveLaunchFactory.issue host around token request.input request.lease backend netns =
        .ok authority

/-- The providers agree on what the live digest hashes of them. -/
structure SameProvider (host : Host) (a b : LiveProviderNamespaceHandoff × NamespaceIdentity) :
    Prop where
  policy : a.1.policySha256 = b.1.policySha256
  generation : a.1.generation = b.1.generation
  route : a.1.routeSha256 = b.1.routeSha256
  adapter : a.1.adapterSha256 = b.1.adapterSha256
  credential : a.1.credentialRefSha256 = b.1.credentialRefSha256
  relay : host.lossy a.1.relaySocket = host.lossy b.1.relaySocket
  capability : a.1.capabilitySha256 = b.1.capabilitySha256
  netns : a.2 = b.2

/-- The requests take one path and agree on everything that its digest hashes. -/
inductive Covered (a b : LaunchRequest host) : Prop where
  | replay {cassette} (first : a.path = .replay cassette) (second : b.path = .replay cassette)
      (spec : a.input.spec = b.input.spec) (limits : a.input.limits = b.input.limits)
      (leaseClass : a.lease.leaseClass = b.lease.leaseClass) (cpus : a.lease.cpus = b.lease.cpus)
      (handoffs : a.input.replayHandoff.map (replayHandoffFields host) =
        b.input.replayHandoff.map (replayHandoffFields host))
  | live {now provider provider'} (first : a.path = .live now) (second : b.path = .live now)
      (held : a.input.liveProvider = some provider) (held' : b.input.liveProvider = some provider')
      (providers : SameProvider host provider provider')
      (program : a.input.spec.program = b.input.spec.program) (cpus : a.lease.cpus = b.lease.cpus)

variable {request : LaunchRequest host} {token : RuntimeLaunchToken}

variable {input input' : SandboxLaunchInput} {lease lease' : ResourceLease}

end LaunchRequest

/-! ### Sample launches -/

/-- The data themselves, as text: a hash without collisions. -/
def plainHash (data : List UInt8) : String := String.ofList (data.map Char.ofUInt8)

def plainText (path : OsPath) : String :=
  String.ofList (path.filterMap fun unit => match unit with
    | .char c => some c
    | .byte _ => none)

/-- A host whose debug texts tell programs, arguments and limits on output apart. -/
def Host.plain : Host where
  sha256 := plainHash
  lossy := plainText
  specText spec := "\n".intercalate (spec.program :: spec.arguments)
  limitsText limits := limits.stdoutBytes.repr

def sampleSpec (arguments : List String) : SandboxSpec where
  workspace := OsPath.ofText "/w"
  workingDirectory := OsPath.ofText "."
  program := "/bin/agent"
  arguments := arguments
  environment := [("LANG", "C")]
  resources := ⟨1048576, 16, 100, [0]⟩
  supervisor := none

def sampleLimits : ProcessLimits := ⟨1024, 1024, 30000000000, 2000000000, 10000000⟩

def sampleLease : ResourceLease := ⟨OsPath.ofText "/leases", .benchmark, [0]⟩

/-- What a spawn meets on the machine: the probe, the gate's socket, the process, the
child's connection to the gate and the scope, with the two clock readings. -/
structure SpawnOutcome where
  probe : Bool
  gateBinds : Bool
  pid : Option Nat
  childReads : Bool
  owned : Bool
  before : Surroundings
  after : Surroundings

structure SandboxProcess where
  pid : Nat
  lease : ResourceLease
  /-- The bytes written to the child at the gate. -/
  released : Option (List UInt8)
  deriving DecidableEq

/-- The release marker and the capability, as the gate writes them. -/
def releaseBytes (capabilitySha256 : String) : List UInt8 :=
  bytes "ASB-LIVE-RELEASE/1\n" ++ bytes capabilitySha256 ++ [10]

def LiveLaunchGate.release (capabilitySha256 : String) (childReads : Bool) :
    Except LiveNamespaceError (List UInt8) := do
  checkDigest capabilitySha256
  refuse (childReads = false) .gateUnavailable
  pure (releaseBytes capabilitySha256)

section Spawn

variable (host : Host)

def SandboxLaunchInput.withLiveProviderHandoff (input : SandboxLaunchInput) (around : Surroundings)
    (handoff : LiveProviderNamespaceHandoff) (netns : NamespaceIdentity) :
    Except SandboxError SandboxLaunchInput := do
  liveError (fun _ => .liveHandoff) (handoff.validate host around netns)
  pure { input with liveProvider := some (handoff, netns) }

/-- The checks of a live launch before its process exists. -/
def prepareLive (backend : SandboxBackend) (spec : SandboxSpec)
    (handoff : LiveProviderNamespaceHandoff) (netns : NamespaceIdentity) (outcome : SpawnOutcome) :
    Except SandboxError Unit := do
  refuse (backend.liveLaunchGate = false) .liveHandoff
  liveError (fun _ => .liveHandoff) (checkId handoff.generation)
  refuse (outcome.gateBinds = false) .liveHandoff
  let _ ← liveError (fun _ => .liveHandoff) (handoff.childHandoff host outcome.before netns)
  refuse (spec.supervisor.any (·.supervisor.isNone)) .delegationRejected

/-- The checks of a launch without a live provider. -/
def prepareReplay (spec : SandboxSpec) (before : Surroundings) : Except SandboxError Unit :=
  match spec.supervisor with
  | none => .ok ()
  | some plan => do
    refuse (plan.supervisor = none) .delegationRejected
    match before.socketAt plan.relay with
    | none => .error .run
    | some isPrivate => refuse (isPrivate = false) .delegationRejected

/-- The child waits at the gate; its namespace is read, the capability derived again
for it, and that capability released. -/
def releaseChild (handoff : LiveProviderNamespaceHandoff) (pid : Nat) (outcome : SpawnOutcome) :
    Except SandboxError (List UInt8) := do
  let (_, child) ← liveError (fun _ => .liveHandoff)
    (handoff.rebindRuntimeNamespace host outcome.after pid)
  liveError (fun _ => .liveHandoff)
    (LiveLaunchGate.release child.capabilitySha256 outcome.childReads)

def SandboxBackend.spawnLaunch (backend : SandboxBackend) (input : SandboxLaunchInput)
    (lease : ResourceLease) (outcome : SpawnOutcome) : Except SandboxError SandboxProcess := do
  refuse (lease.leaseClass ≠ .benchmark ∨ lease.cpus ≠ input.spec.resources.cpus) .leaseMismatch
  if backend.developmentFixture then
    match outcome.pid with
    | none => .error .run
    | some pid => pure ⟨pid, lease, none⟩
  else
    refuse (outcome.probe = false) .delegationRejected
    match input.liveProvider, outcome.pid with
    | some (handoff, netns), some pid =>
      prepareLive host backend input.spec handoff netns outcome
      let released ← releaseChild host handoff pid outcome
      refuse (outcome.owned = false) .scopeOwnership
      pure ⟨pid, lease, some released⟩
    | some (handoff, netns), none =>
      prepareLive host backend input.spec handoff netns outcome
      .error .run
    | none, some pid =>
      prepareReplay input.spec outcome.before
      refuse (outcome.owned = false) .scopeOwnership
      pure ⟨pid, lease, none⟩
    | none, none =>
      prepareReplay input.spec outcome.before
      .error .run

/-- The launch gets as far as a process of its own. -/
def SandboxBackend.starts (backend : SandboxBackend) (input : SandboxLaunchInput)
    (lease : ResourceLease) (outcome : SpawnOutcome) : Bool :=
  lease.leaseClass == .benchmark && lease.cpus == input.spec.resources.cpus &&
  outcome.pid.isSome && (backend.developmentFixture || (outcome.probe &&
    match input.liveProvider with
    | some (handoff, netns) =>
      Control.isOk (prepareLive host backend input.spec handoff netns outcome)
    | none => Control.isOk (prepareReplay input.spec outcome.before)))

/-- The handoff is unrevoked and unexpired, and its socket is in place. -/
structure LiveProviderNamespaceHandoff.Standing (handoff : LiveProviderNamespaceHandoff)
    (around : Surroundings) : Prop where
  unrevoked : around.flags handoff.revoked = false
  unexpired : around.nowUnixMs < handoff.deadlineUnixMs
  socket : checkSocket around handoff.relaySocket = .ok ()

/-- The process started is the launcher: `systemd-run` and `taskset` execute the next program in
their place, and `bwrap` gives its new namespaces to the child it clones and keeps its own. So the
process is found in the network namespace of the runtime that started it. -/
def SpawnOutcome.InPlace (outcome : SpawnOutcome) (runtime : Option String) : Prop :=
  ∀ pid, outcome.pid = some pid → outcome.after.netns pid = runtime

/-- The child is given the relay's capability, and its request is let through while the handoff
stands. Without isolation, in development, there is no gate. -/
structure LiveProviderRelay.Admits (relay : LiveProviderRelay) (backend : SandboxBackend)
    (process : SandboxProcess) : Prop where
  gated : backend.developmentFixture = false → process.released.isSome
  released : ∀ sent, process.released = some sent → sent = releaseBytes relay.capabilitySha256
  accepted : process.released.isSome → ∀ around rest, relay.handoff.Standing around →
    relay.authenticate host around
      (requestLine relay.generation relay.capabilitySha256 ++ rest) = .ok ()

variable {host}

theorem liveError_eq_ok {ε ε' α : Type} {wrap : ε → ε'} {x : Except ε α} {a : α} :
    liveError wrap x = .ok a ↔ x = .ok a := by
  cases x <;> simp [liveError]

theorem forPid_unique {around later : Surroundings} {pid pid' : Nat} {a b : NamespaceIdentity}
    (same : later.netns pid' = around.netns pid)
    (there : NamespaceIdentity.forPid later pid' = .ok a)
    (here : NamespaceIdentity.forPid around pid = .ok b) : a = b := by
  unfold NamespaceIdentity.forPid at there here
  rw [same] at there
  split_ifs at there here
  exact Except.ok.inj (there.symm.trans here)

theorem checkId_no_newline (h : checkId value = .ok ()) :
    value.utf8ByteSize ≤ 128 ∧ ∀ byte ∈ bytes value, byte ≠ 10 := by
  simp only [checkId, refuse_eq_ok, not_or, not_not] at h
  obtain ⟨_, size, letters⟩ := h
  refine ⟨Nat.not_lt.mp size, ?_⟩
  rintro byte member rfl
  exact absurd (all_eq_true.mp letters 10 member) (by decide)

theorem checkDigest_no_newline (h : checkDigest value = .ok ()) :
    value.utf8ByteSize = 64 ∧ ∀ byte ∈ bytes value, byte ≠ 10 := by
  simp only [checkDigest, refuse_eq_ok, not_or, not_not] at h
  obtain ⟨size, digits⟩ := h
  refine ⟨size, ?_⟩
  rintro byte member rfl
  exact absurd (all_eq_true.mp digits 10 member) (by decide)

/-- A line that fits is read up to its end, whatever follows. -/
theorem readRequest_line (rest : List UInt8) (room_left : line.length < room)
    (no_newline : ∀ byte ∈ line, byte ≠ 10) :
    readRequest room (line ++ 10 :: rest) = .ok (line ++ [10]) := by
  induction line generalizing room with
  | nil => rfl
  | cons byte line ih =>
    rw [length_cons] at room_left
    rw [forall_mem_cons] at no_newline
    have tail : readRequest (room - 1) (line ++ 10 :: rest) = .ok (line ++ [10]) :=
      ih (by omega) no_newline.2
    rw [cons_append, readRequest, if_neg no_newline.1, if_neg (by omega), tail]
    rfl

theorem readRequest_requestLine (rest : List UInt8) (generation_ok : checkId generation = .ok ())
    (capability_ok : checkDigest capability = .ok ()) :
    readRequest maxRequestBytes (requestLine generation capability ++ rest) =
      .ok (requestLine generation capability) := by
  obtain ⟨generation_size, generation_line⟩ := checkId_no_newline generation_ok
  obtain ⟨capability_size, capability_line⟩ := checkDigest_no_newline capability_ok
  let line := bytes "ASB-LIVE/1 " ++ bytes generation ++ bytes " " ++ bytes capability
  have size : line.length < maxRequestBytes := by
    have protocol : "ASB-LIVE/1 ".utf8ByteSize = 11 := by decide
    have space : " ".utf8ByteSize = 1 := by decide
    simp only [line, length_append, length_bytes, maxRequestBytes, protocol, space]
    omega
  have constant : ((bytes "ASB-LIVE/1 ").all (· != 10) && (bytes " ").all (· != 10)) = true := by
    decide
  rw [Bool.and_eq_true, all_eq_true, all_eq_true] at constant
  have no_newline : ∀ byte ∈ line, byte ≠ 10 := by
    intro byte member
    simp only [line, mem_append] at member
    rcases member with ((protocol | middle) | space) | last
    · exact bne_iff_ne.mp (constant.1 byte protocol)
    · exact generation_line byte middle
    · exact bne_iff_ne.mp (constant.2 byte space)
    · exact capability_line byte last
  have read := readRequest_line rest size no_newline
  simpa [requestLine, line] using read

variable {handoff : LiveProviderNamespaceHandoff}

/-- What a relay and the handoff issued with it have in common. -/
theorem bindRuntime_ok {around : Surroundings} {bound : Bool} {flag : Nat} {request : RelayRequest}
    {relay : LiveProviderRelay}
    (h : LiveProviderRelay.bindRuntime host around bound flag request = .ok (relay, handoff)) :
    relay.handoff = handoff ∧ relay.netns = handoff.netns ∧ request.netns = handoff.netns ∧
      relay.generation = handoff.generation ∧
      relay.capabilitySha256 = handoff.capabilitySha256 ∧ relay.consumed = false ∧
      handoff.version = liveNamespaceHandoffVersion ∧
      handoff.capabilitySha256 = handoff.derivedCap host ∧
      checkId handoff.generation = .ok () ∧ checkEndpoint handoff.childEndpoint = .ok () := by
  simp only [LiveProviderRelay.bindRuntime, bind_eq_ok] at h
  obtain ⟨authorization, _, _, _, h⟩ := h
  cases root : request.root with
  | none => rw [root] at h; cases h
  | some root_path =>
    rw [root] at h
    simp only [bind_eq_ok, pure_eq_ok, liveError_eq_ok, Prod.mk.injEq] at h
    obtain ⟨_, _, _, _, issued, issue, _, _, rfl, rfl⟩ := h
    simp only [LiveProviderNamespaceHandoff.issue, bind_eq_ok, refuse_eq_ok, pure_eq_ok] at issue
    obtain ⟨⟨⟩, generation, _, _, _, _, _, _, _, _, ⟨⟩, child, _, matched, rfl⟩ := issue
    have policy : request.egress.policySha256 =
        canonicalPolicyBinding host request.policy.endpointSha256 := by
      by_contra differs
      exact matched (.inr (.inr (.inl differs)))
    refine ⟨rfl, rfl, rfl, rfl, rfl, rfl, rfl, ?_, generation, child⟩
    simp only [LiveProviderNamespaceHandoff.derivedCap, policy]

/-- The capability released at the gate, for the namespace the child was found in. -/
theorem releaseChild_ok {pid : Nat} {outcome : SpawnOutcome} {released : List UInt8}
    (h : releaseChild host handoff pid outcome = .ok released) :
    ∃ observed, NamespaceIdentity.forPid outcome.after pid = .ok observed ∧
      released = releaseBytes ({ handoff with netns := observed }.derivedCap host) ∧
      checkDigest ({ handoff with netns := observed }.derivedCap host) = .ok () := by
  simp only [releaseChild, bind_eq_ok, liveError_eq_ok] at h
  obtain ⟨⟨rebound, child⟩, rebind, release⟩ := h
  simp only [LiveProviderNamespaceHandoff.rebindRuntimeNamespace, bind_eq_ok, pure_eq_ok,
    Prod.mk.injEq] at rebind
  obtain ⟨_, _, observed, found, _, derived, rfl, rfl⟩ := rebind
  simp only [LiveProviderNamespaceHandoff.childHandoff, bind_eq_ok, pure_eq_ok] at derived
  obtain ⟨_, _, rfl⟩ := derived
  simp only [LiveLaunchGate.release, bind_eq_ok, pure_eq_ok] at release
  obtain ⟨⟨⟩, digest, _, _, rfl⟩ := release
  exact ⟨observed, found, rfl, digest⟩

theorem spawnLaunch_live {backend : SandboxBackend} {input : SandboxLaunchInput}
    {lease : ResourceLease} {outcome : SpawnOutcome} {process : SandboxProcess}
    {netns : NamespaceIdentity} (provider : input.liveProvider = some (handoff, netns))
    (spawned : backend.spawnLaunch host input lease outcome = .ok process) :
    outcome.pid = some process.pid ∧
      (backend.developmentFixture = true ∧ process.released = none ∨
        ∃ sent, process.released = some sent ∧
          releaseChild host handoff process.pid outcome = .ok sent) := by
  simp only [SandboxBackend.spawnLaunch, bind_eq_ok, provider] at spawned
  obtain ⟨_, _, spawned⟩ := spawned
  cases pid : outcome.pid with
  | none =>
    rw [pid] at spawned
    split_ifs at spawned with fixture
    simp only [bind_eq_ok] at spawned
    obtain ⟨_, _, _, _, spawned⟩ := spawned
    cases spawned
  | some child =>
    rw [pid] at spawned
    split_ifs at spawned with fixture
    · cases pure_eq_ok.mp spawned
      exact ⟨rfl, .inl ⟨fixture, rfl⟩⟩
    · simp only [bind_eq_ok, pure_eq_ok] at spawned
      obtain ⟨_, _, _, _, sent, release, _, _, rfl⟩ := spawned
      exact ⟨rfl, .inr ⟨sent, rfl, release⟩⟩

/-- A standing handoff of a relay passes the relay's last check. -/
theorem check_of_standing {relay : LiveProviderRelay}
    {around : Surroundings} (same : relay.handoff = handoff) (netns : relay.netns = handoff.netns)
    (version : handoff.version = liveNamespaceHandoffVersion)
    (capability : handoff.capabilitySha256 = handoff.derivedCap host)
    (child : checkEndpoint handoff.childEndpoint = .ok ())
    (standing : relay.handoff.Standing around) :
    relay.check host around = .ok () := by
  rw [same] at standing
  rw [LiveProviderRelay.check, liveError_eq_ok, same, netns]
  simp only [LiveProviderNamespaceHandoff.validate, LiveProviderNamespaceHandoff.validateMetadata,
    bind_eq_ok, refuse_eq_ok, not_not]
  have unexpired : ¬ around.nowUnixMs ≥ handoff.deadlineUnixMs := Nat.not_le.mpr standing.unexpired
  exact ⟨⟨⟩, trivial, ⟨⟩, by simp [version, ← capability], ⟨⟩, by simp [standing.unrevoked], ⟨⟩,
    unexpired, ⟨⟩, standing.socket, child⟩

/-- The relay is bound in the namespace of the runtime, and the gate derives the capability again
for the namespace of the launcher: the child of every live launch holds its relay's capability. -/
theorem child_is_admitted {around attached : Surroundings} {bound : Bool} {flag runtime : Nat}
    {request : RelayRequest} {relay : LiveProviderRelay} {handoff : LiveProviderNamespaceHandoff}
    {input launched : SandboxLaunchInput} {backend : SandboxBackend} {lease : ResourceLease}
    {outcome : SpawnOutcome} {process : SandboxProcess}
    (current : NamespaceIdentity.forPid around runtime = .ok request.netns)
    (bind : LiveProviderRelay.bindRuntime host around bound flag request = .ok (relay, handoff))
    (attach : input.withLiveProviderHandoff host attached handoff request.netns = .ok launched)
    (spawn : backend.spawnLaunch host launched lease outcome = .ok process)
    (inPlace : outcome.InPlace (around.netns runtime)) :
    relay.Admits host backend process := by
  obtain ⟨same, netns, bound_in, generation, capability, fresh, version, derived, generation_ok,
    child⟩ := bindRuntime_ok bind
  have provider : launched.liveProvider = some (handoff, request.netns) := by
    simp only [SandboxLaunchInput.withLiveProviderHandoff, bind_eq_ok, pure_eq_ok] at attach
    obtain ⟨_, _, rfl⟩ := attach
    rfl
  obtain ⟨pid, fixture | ⟨sent, released, release⟩⟩ := spawnLaunch_live provider spawn
  · refine ⟨fun isolated => ?_, ?_, ?_⟩
    · rw [fixture.1] at isolated
      cases isolated
    · intro sent released
      cases fixture.2.symm.trans released
    · rw [fixture.2]
      rintro ⟨⟩
  obtain ⟨observed, found, written, digest⟩ := releaseChild_ok release
  have here : observed = handoff.netns := by
    have place := inPlace process.pid pid
    rw [← bound_in]
    exact forPid_unique place found current
  subst here
  have given : handoff.derivedCap host = relay.capabilitySha256 := by rw [capability, derived]
  refine ⟨fun _ => by rw [released]; rfl, ?_, ?_⟩
  · intro sent' sent_eq
    cases released.symm.trans sent_eq
    rw [written, ← given]
  · intro _ machine rest standing
    have checked := check_of_standing same netns version derived child standing
    have read := readRequest_requestLine rest (generation ▸ generation_ok) (given ▸ digest)
    simp only [LiveProviderRelay.authenticate, LiveProviderRelay.accept, bind_eq_ok, refuse_eq_ok,
      not_not]
    exact ⟨⟨⟩, ⟨⟨⟩, by simp [fresh], _, read, rfl⟩, checked⟩

end Spawn

/-! ### A sample live launch -/

/-- A polynomial digest of the first bytes, padded to the width of a digest. -/
def toyHash (data : List UInt8) : String :=
  hexText 8 ((data.take 16).foldl (fun sum byte => (sum * 31337 + byte.toNat) % (2 ^ 31 - 1)) 7) ++
    "00000000000000000000000000000000000000000000000000000000"

def Host.toy : Host := { Host.plain with sha256 := toyHash }

/-- The runtime's sockets are in place, nothing is revoked, and every process is in one
namespace. -/
def sampleSurroundings (nowUnixMs : Nat) : Surroundings where
  nowUnixMs := nowUnixMs
  flags _ := false
  socketAt _ := some true
  netns _ := some "net:[1]"

def sampleDigest : String := "aaaaaaaaaaaaaaaaaaaaaaaaaaaaaaaaaaaaaaaaaaaaaaaaaaaaaaaaaaaaaaaa"

def sampleRequest : RelayRequest where
  root := some (OsPath.ofText "/relays")
  policy := ⟨sampleDigest⟩
  egress := .issueBound Host.toy ⟨sampleDigest⟩ "g-1" sampleDigest 61000
  netns := ⟨"net:[1]"⟩
  allowlist := ["198.51.100.10:443"]
  target := "198.51.100.10:443"
  generation := "g-1"
  routeSha256 := sampleDigest
  adapterSha256 := sampleDigest
  credentialRefSha256 := sampleDigest
  childEndpoint := OsPath.ofText "/tmp/asb-live-provider-1.sock"
  ioTimeoutMs := 30000

def okValue {ε α : Type} : (x : Except ε α) → Control.isOk x = true → α
  | .ok value, _ => value

theorem eq_okValue {ε α : Type} {x : Except ε α} (h : Control.isOk x = true) :
    x = .ok (okValue x h) := by
  cases x with
  | ok value => rfl
  | error e => cases h

def sampleBound : LiveProviderRelay × LiveProviderNamespaceHandoff :=
  okValue (LiveProviderRelay.bindRuntime Host.toy (sampleSurroundings 1000) true 0
    sampleRequest) (by decide +kernel)

def sampleLaunched : SandboxLaunchInput :=
  okValue (SandboxLaunchInput.withLiveProviderHandoff Host.toy
    ⟨sampleSpec [], sampleLimits, none, none⟩ (sampleSurroundings 1000) sampleBound.2
    sampleRequest.netns) (by decide +kernel)

def sampleOutcome : SpawnOutcome where
  probe := true
  gateBinds := true
  pid := some 42
  childReads := true
  owned := true
  before := sampleSurroundings 2000
  after := sampleSurroundings 2000

theorem sampleBound_eq : LiveProviderRelay.bindRuntime Host.toy (sampleSurroundings 1000)
    true 0 sampleRequest = .ok (sampleBound.1, sampleBound.2) := by
  rw [Prod.eta]
  exact eq_okValue _

theorem sampleLaunched_eq : SandboxLaunchInput.withLiveProviderHandoff Host.toy
    ⟨sampleSpec [], sampleLimits, none, none⟩ (sampleSurroundings 1000) sampleBound.2
    sampleRequest.netns = .ok sampleLaunched :=
  eq_okValue _

def sampleBackend : SandboxBackend := ⟨true, false⟩

def sampleProcess : SandboxProcess :=
  okValue (sampleBackend.spawnLaunch Host.toy sampleLaunched sampleLease sampleOutcome)
    (by decide +kernel)

theorem child_is_admitted_sample :
    sampleProcess.released = some (releaseBytes sampleBound.1.capabilitySha256) ∧
      sampleBound.1.Admits Host.toy sampleBackend sampleProcess := by
  have current : NamespaceIdentity.forPid (sampleSurroundings 1000) 7 =
      .ok sampleRequest.netns := by decide +kernel
  exact ⟨by decide +kernel, child_is_admitted current sampleBound_eq sampleLaunched_eq
    (eq_okValue _) fun _ _ => rfl⟩

end AgentSystemsBenchmark.Runtime
