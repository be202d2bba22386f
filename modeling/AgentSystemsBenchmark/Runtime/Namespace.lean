import AgentSystemsBenchmark.Control.Protocol
import AgentSystemsBenchmark.Library.DebugText
import AgentSystemsBenchmark.Library.Framing

/-!
# The live relay and its namespace handoff

A live launch gives a sandboxed child one private socket and a capability. The
capability is a digest of a namespace and of the launch's identities; the relay
behind the socket lets through the one peer that presents it. Atomic flags are
references into a heap of booleans, so that clones of a handoff share theirs.

The hash function, the lossy reading of a path, the debug texts of a specification
and of limits, and the state of the machine around a call are parameters.
-/

namespace AgentSystemsBenchmark.Runtime

open Effects Framing Numerals DebugText
open Control (isAsciiAlphanumeric isOneOf isLowerHex)

structure Resources where
  memory : Nat
  tasks : Nat
  cpuPercent : Nat
  cpus : List Nat
  deriving DecidableEq

structure PinnedCommand where
  executable : OsPath
  arguments : List String
  digest : String
  deriving DecidableEq

structure SupervisorPlan where
  supervisor : Option PinnedCommand
  sidecar : PinnedCommand
  adapter : PinnedCommand
  relay : OsPath
  generation : String
  routeDigest : String
  timeoutNs : Nat
  deriving DecidableEq

/-- A validated specification; `environment` lists an ordered map. The network policy is always the
denied one and left out. -/
structure SandboxSpec where
  workspace : OsPath
  workingDirectory : OsPath
  program : String
  arguments : List String
  environment : List (String × String)
  resources : Resources
  supervisor : Option SupervisorPlan
  deriving DecidableEq

structure ProcessLimits where
  stdoutBytes : Nat
  stderrBytes : Nat
  timeoutNs : Nat
  terminationGraceNs : Nat
  pollIntervalNs : Nat
  deriving DecidableEq

/-- What the libraries under the runtime compute. -/
structure Host where
  sha256 : List UInt8 → String
  /-- A path as text, with its stray bytes replaced. -/
  lossy : OsPath → String
  /-- What the derived debug formatter prints. -/
  specText : SandboxSpec → String
  limitsText : ProcessLimits → String

/-- The machine as a call finds it. A path holds a socket that is private to the
runtime, something else, or nothing. -/
structure Surroundings where
  nowUnixMs : Nat
  flags : Nat → Bool
  socketAt : OsPath → Option Bool
  /-- The network namespace a process is in. -/
  netns : Nat → Option String

inductive LiveNamespaceError where
  | invalidIdentity | invalidDigest | invalidRelay | invalidChildEndpoint | namespaceUnavailable
  | relayUnavailable | gateUnavailable | handoffMismatch | namespaceMismatch | expired | revoked
  deriving DecidableEq

def maxIdBytes : Nat := 128
def maxAgeMs : Nat := 86400000
def liveNamespaceHandoffVersion : Nat := 1

structure NamespaceIdentity where
  value : String
  deriving DecidableEq

def NamespaceIdentity.new (value : String) : Except LiveNamespaceError NamespaceIdentity := do
  refuse (value = "" ∨ value.utf8ByteSize > maxIdBytes ∨ ¬ (bytes value).all fun byte =>
    isAsciiAlphanumeric byte || isOneOf ['.', ':', '[', ']', '-', '_'] byte) .invalidIdentity
  pure ⟨value⟩

def NamespaceIdentity.forPid (around : Surroundings) (pid : Nat) :
    Except LiveNamespaceError NamespaceIdentity :=
  if pid = 0 then .error .namespaceUnavailable
  else match around.netns pid with
    | none => .error .namespaceUnavailable
    | some value => NamespaceIdentity.new value

def checkId (value : String) : Except LiveNamespaceError Unit :=
  refuse (value = "" ∨ value.utf8ByteSize > maxIdBytes ∨ ¬ (bytes value).all fun byte =>
    isAsciiAlphanumeric byte || isOneOf ['.', '-', '_'] byte) .invalidIdentity

def checkDigest (value : String) : Except LiveNamespaceError Unit :=
  refuse (value.utf8ByteSize ≠ 64 ∨ ¬ (bytes value).all isLowerHex) .invalidDigest

/-! ## Paths -/

def OsPath.ofText (text : String) : OsPath := text.toList.map .char

/-- Absolute, and no component climbs. -/
def isPlainAbsolute (path : OsPath) : Bool :=
  path.head? == some (.char '/') &&
    !(path.splitOnP (· == .char '/')).contains [.char '.', .char '.']

def checkSocket (around : Surroundings) (path : OsPath) : Except LiveNamespaceError Unit := do
  refuse (isPlainAbsolute path = false) .invalidRelay
  match around.socketAt path with
  | none => .error .relayUnavailable
  | some isPrivate => refuse (isPrivate = false) .invalidRelay

def checkEndpoint (path : OsPath) : Except LiveNamespaceError Unit :=
  refuse (isPlainAbsolute path = false) .invalidChildEndpoint

/-! ## Egress identities -/

structure ProviderEgressPolicy where
  endpointSha256 : String
  deriving DecidableEq

structure ProviderEgressHandoff where
  policySha256 : String
  generation : String
  routeSha256 : String
  deadlineUnixMs : Nat
  deriving DecidableEq

structure ProviderEgressAuthorization where
  endpointSha256 : String
  generation : String
  routeSha256 : String
  deadlineUnixMs : Nat
  deriving DecidableEq

structure ProviderEgressRelay where
  endpointSha256 : String
  allowlist : List String
  generation : String
  routeSha256 : String
  deriving DecidableEq

inductive ProviderEgressError where
  | missingHandoff | invalidBounds | unauthorizedTarget | connect
  deriving DecidableEq

section Handoff

variable (host : Host)

def canonicalPolicyBinding (endpointSha256 : String) : String :=
  host.sha256 (bytes "provider-policy-v1" ++ [0] ++ framed endpointSha256)

def ProviderEgressHandoff.issueBound (policy : ProviderEgressPolicy)
    (generation routeSha256 : String) (deadlineUnixMs : Nat) : ProviderEgressHandoff where
  policySha256 := canonicalPolicyBinding host policy.endpointSha256
  generation := generation
  routeSha256 := routeSha256
  deadlineUnixMs := deadlineUnixMs

def ProviderEgressAuthorization.authorize (policy : ProviderEgressPolicy)
    (handoff : ProviderEgressHandoff) (nowUnixMs : Nat) (generation routeSha256 : String) :
    Except ProviderEgressError ProviderEgressAuthorization := do
  refuse (handoff.policySha256 ≠ canonicalPolicyBinding host policy.endpointSha256 ∨
    handoff.generation ≠ generation ∨ handoff.routeSha256 ≠ routeSha256 ∨
    nowUnixMs ≥ handoff.deadlineUnixMs) .missingHandoff
  pure ⟨policy.endpointSha256, generation, routeSha256, handoff.deadlineUnixMs⟩

/-- The connector's checks before it opens the one allowed destination. -/
def ProviderEgressRelay.authorizes (connector : ProviderEgressRelay)
    (authorization : ProviderEgressAuthorization) (target : String) (nowUnixMs : Nat) : Bool :=
  decide (nowUnixMs < authorization.deadlineUnixMs) &&
    authorization.endpointSha256 == connector.endpointSha256 &&
    authorization.generation == connector.generation &&
    authorization.routeSha256 == connector.routeSha256 && connector.allowlist.contains target

/-! ## The handoff -/

structure LiveProviderNamespaceHandoff where
  version : Nat
  netns : NamespaceIdentity
  policySha256 : String
  generation : String
  routeSha256 : String
  adapterSha256 : String
  credentialRefSha256 : String
  relaySocket : OsPath
  childEndpoint : OsPath
  deadlineUnixMs : Nat
  capabilitySha256 : String
  revoked : Nat
  deriving DecidableEq

/-- The capability of a launch in a namespace. -/
def cap (n : NamespaceIdentity) (policy generation route adapter credentialRef : String)
    (relay child : OsPath) (deadline : Nat) : String :=
  host.sha256 ([n.value, policy, generation, route, adapter, credentialRef, host.lossy relay,
    host.lossy child].flatMap framed ++ leBytes 8 deadline)

namespace LiveProviderNamespaceHandoff

def derivedCap (handoff : LiveProviderNamespaceHandoff) : String :=
  cap host handoff.netns handoff.policySha256 handoff.generation handoff.routeSha256
    handoff.adapterSha256 handoff.credentialRefSha256 handoff.relaySocket handoff.childEndpoint
    handoff.deadlineUnixMs

/-- Issue a handoff whose revocation flag is at `flag`. -/
def issue (around : Surroundings) (flag : Nat)
    (policy : ProviderEgressPolicy) (egress : ProviderEgressHandoff) (netns : NamespaceIdentity)
    (generation route adapter credentialRef : String) (relay child : OsPath) (deadline : Nat) :
    Except LiveNamespaceError LiveProviderNamespaceHandoff := do
  checkId generation
  checkDigest route
  checkDigest adapter
  checkDigest credentialRef
  checkSocket around relay
  checkEndpoint child
  let policySha256 := canonicalPolicyBinding host policy.endpointSha256
  refuse (deadline ≤ around.nowUnixMs ∨ deadline - around.nowUnixMs > maxAgeMs ∨
    egress.policySha256 ≠ policySha256 ∨ egress.generation ≠ generation ∨
    egress.routeSha256 ≠ route) .handoffMismatch
  pure {
    version := liveNamespaceHandoffVersion
    netns := netns
    policySha256 := policySha256
    generation := generation
    routeSha256 := route
    adapterSha256 := adapter
    credentialRefSha256 := credentialRef
    relaySocket := relay
    childEndpoint := child
    deadlineUnixMs := deadline
    capabilitySha256 := cap host netns egress.policySha256 generation route adapter credentialRef
      relay child deadline
    revoked := flag }

/-- The checks that do not look at the namespace. -/
def validateMetadata (handoff : LiveProviderNamespaceHandoff)
    (around : Surroundings) : Except LiveNamespaceError Unit := do
  refuse (handoff.version ≠ liveNamespaceHandoffVersion ∨
    handoff.capabilitySha256 ≠ handoff.derivedCap host) .namespaceMismatch
  refuse (around.flags handoff.revoked = true) .revoked
  refuse (around.nowUnixMs ≥ handoff.deadlineUnixMs) .expired
  checkSocket around handoff.relaySocket
  checkEndpoint handoff.childEndpoint

def validate (handoff : LiveProviderNamespaceHandoff)
    (around : Surroundings) (netns : NamespaceIdentity) : Except LiveNamespaceError Unit := do
  refuse (handoff.netns ≠ netns) .namespaceMismatch
  handoff.validateMetadata host around

end LiveProviderNamespaceHandoff

structure ChildRelayHandoff where
  endpoint : OsPath
  capabilitySha256 : String
  netns : NamespaceIdentity
  generation : String
  deadlineUnixMs : Nat
  deriving DecidableEq

def LiveProviderNamespaceHandoff.childHandoff (handoff : LiveProviderNamespaceHandoff)
    (around : Surroundings) (netns : NamespaceIdentity) :
    Except LiveNamespaceError ChildRelayHandoff := do
  handoff.validate host around netns
  pure ⟨handoff.childEndpoint, handoff.capabilitySha256, handoff.netns, handoff.generation,
    handoff.deadlineUnixMs⟩

/-- Derive the capability again, for the namespace the child was found in. -/
def LiveProviderNamespaceHandoff.rebindRuntimeNamespace (handoff : LiveProviderNamespaceHandoff)
    (around : Surroundings) (childPid : Nat) :
    Except LiveNamespaceError (LiveProviderNamespaceHandoff × ChildRelayHandoff) := do
  handoff.validateMetadata host around
  let observed ← NamespaceIdentity.forPid around childPid
  let moved := { handoff with netns := observed }
  let rebound := { moved with capabilitySha256 := moved.derivedCap host }
  let child ← rebound.childHandoff host around rebound.netns
  pure (rebound, child)

end Handoff

/-! ## The relay -/

inductive LiveRelayError where
  | io
  | invalidRequest
  | unauthorized
  | handoff (error : LiveNamespaceError)
  | egress (error : ProviderEgressError)
  | duplicate
  deriving DecidableEq

structure LiveProviderRelay where
  socket : OsPath
  generation : String
  capabilitySha256 : String
  netns : NamespaceIdentity
  handoff : LiveProviderNamespaceHandoff
  authorization : Option ProviderEgressAuthorization
  connector : ProviderEgressRelay
  target : String
  consumed : Bool
  deriving DecidableEq

/-- The runtime's arguments to one relay. -/
structure RelayRequest where
  /-- The root after its path was resolved, if it is an absolute directory. -/
  root : Option OsPath
  policy : ProviderEgressPolicy
  egress : ProviderEgressHandoff
  netns : NamespaceIdentity
  allowlist : List String
  target : String
  generation : String
  routeSha256 : String
  adapterSha256 : String
  credentialRefSha256 : String
  childEndpoint : OsPath
  ioTimeoutMs : Nat

def relaySocketPath (root : OsPath) (generation : String) : OsPath :=
  root ++ OsPath.ofText ("/asb-live-" ++ generation ++ ".sock")

def liveError {ε ε' α : Type} (wrap : ε → ε') : Except ε α → Except ε' α
  | .ok value => .ok value
  | .error error => .error (wrap error)

/-- Bind the listener and issue its handoff; `bound` says whether the listener could be
bound, and `around` is the machine afterwards. -/
def LiveProviderRelay.bindRuntime (host : Host) (around : Surroundings) (bound : Bool) (flag : Nat)
    (request : RelayRequest) :
    Except LiveRelayError (LiveProviderRelay × LiveProviderNamespaceHandoff) := do
  let authorization ← liveError .egress (ProviderEgressAuthorization.authorize host request.policy
    request.egress around.nowUnixMs request.generation request.routeSha256)
  refuse (request.allowlist.contains request.target = false) .invalidRequest
  match request.root with
  | none => .error .invalidRequest
  | some root =>
    refuse (bound = false) .io
    let socket := relaySocketPath root request.generation
    refuse (around.nowUnixMs + request.ioTimeoutMs ≥ 2 ^ 64) .invalidRequest
    let handoff ← liveError .handoff (LiveProviderNamespaceHandoff.issue host around flag
      request.policy request.egress request.netns request.generation request.routeSha256
      request.adapterSha256 request.credentialRefSha256 socket request.childEndpoint
      (around.nowUnixMs + request.ioTimeoutMs))
    refuse (request.ioTimeoutMs = 0) (.egress .invalidBounds)
    let relay : LiveProviderRelay := {
      socket := socket
      generation := request.generation
      capabilitySha256 := handoff.capabilitySha256
      netns := request.netns
      handoff := handoff
      authorization := some authorization
      connector := ⟨request.policy.endpointSha256, request.allowlist, request.generation,
        authorization.routeSha256⟩
      target := request.target
      consumed := false }
    pure (relay, handoff)

def maxRequestBytes : Nat := 256

/-- Read one line, a byte at a time, within the room that is left. -/
def readRequest : Nat → List UInt8 → Except LiveRelayError (List UInt8)
  | _, [] => .error .invalidRequest
  | room, byte :: rest =>
    if byte = 10 then .ok [byte]
    else if room ≤ 1 then .error .invalidRequest
    else (byte :: ·) <$> readRequest (room - 1) rest

/-- The request line of a launch. -/
def requestLine (generation capabilitySha256 : String) : List UInt8 :=
  bytes "ASB-LIVE/1 " ++ bytes generation ++ bytes " " ++ bytes capabilitySha256 ++ [10]

/-- Read what a peer sends and compare it with the one request that is let through. -/
def LiveProviderRelay.accept (relay : LiveProviderRelay) (sent : List UInt8) :
    Except LiveRelayError Unit := do
  refuse (relay.consumed = true) .duplicate
  let request ← readRequest maxRequestBytes sent
  refuse (request ≠ requestLine relay.generation relay.capabilitySha256) .unauthorized

/-- The last check before the provider is opened. -/
def LiveProviderRelay.check (relay : LiveProviderRelay) (host : Host) (around : Surroundings) :
    Except LiveRelayError Unit :=
  liveError .handoff (relay.handoff.validate host around relay.netns)

def LiveProviderRelay.authenticate (relay : LiveProviderRelay) (host : Host)
    (around : Surroundings) (sent : List UInt8) : Except LiveRelayError Unit := do
  relay.accept sent
  relay.check host around

/-- Spend the authorization on a connection; `opens` is the outcome of the network. -/
def LiveProviderRelay.connect (relay : LiveProviderRelay) (nowUnixMs : Nat) (opens : Bool) :
    Except LiveRelayError LiveProviderRelay :=
  match relay.authorization with
  | none => .error .duplicate
  | some authorization => do
    refuse (relay.connector.authorizes authorization relay.target nowUnixMs = false)
      (.egress .unauthorizedTarget)
    refuse (opens = false) (.egress .connect)
    pure { relay with authorization := none, consumed := true }

end AgentSystemsBenchmark.Runtime
