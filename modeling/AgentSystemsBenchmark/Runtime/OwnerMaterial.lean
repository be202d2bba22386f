import AgentSystemsBenchmark.Library.Runs
import AgentSystemsBenchmark.Control.Protocol

/-!
# Process-owner material

A store holds the private material of one enrollment and hands it out against
nonces: a capability, the lease taken with it, the bridge a lease is turned
into, the dispatch source inside the bridge, and the attempts started from that
source. Cancelling, restarting, revoking or tearing down closes the store.

A lease and a bridge are given away when they are converted, so the system
below keeps which of them are spent; a capability is only borrowed. What the
file checks and the runtime factory answer is an argument of the call.
-/

namespace AgentSystemsBenchmark.OwnerMaterial

open Effects Runs List
open Control (isLowerHex)
open Numerals (bytes)

def schemaVersion : Nat := 1
def maxIdBytes : Nat := 128
def maxLifetimeMs : Nat := 15 * 60 * 1000

inductive ProcessOwnerMaterialError where
  | invalidContract | invalidPrivateMaterial | invalidRequest | materialMismatch | invalidExecutable
  | executableDigestMismatch | replayOrExpired | unavailable | invalidTransition
  | sourceBindingMismatch | malformed
  deriving DecidableEq

/-- A lowercase SHA-256 digest. -/
def validDigest (value : String) : Bool :=
  value.utf8ByteSize == 64 && (bytes value).all isLowerHex

/-! ## Contracts and requests -/

structure ProcessOwnerMaterialContract where
  schemaVersion : Nat
  ownerId : String
  provider : String
  endpointIdentitySha256 : String
  namespaceSha256 : String
  controlSessionSha256 : String
  generation : Nat
  issuedAtUnixMs : Nat
  expiresAtUnixMs : Nat
  restartBindingSha256 : String
  cancellationBindingSha256 : String
  revocationBindingSha256 : String
  teardownBindingSha256 : String
  privateRootsSha256 : String
  toolBundleSha256 : String
  policySha256 : String
  credentialCapabilitySha256 : String
  targetSha256 : String
  alternateEgressSha256 : String
  leaseRootSha256 : String
  relayRootSha256 : String
  launchProvenanceSha256 : String
  capabilityRefSha256 : String
  enrollmentBindingSha256 : String
  deriving DecidableEq

/-- The digest of a contract's serialized text. -/
abbrev ContractDigest := ProcessOwnerMaterialContract → String

def ProcessOwnerMaterialContract.digests (contract : ProcessOwnerMaterialContract) : List String :=
  [contract.controlSessionSha256, contract.endpointIdentitySha256, contract.namespaceSha256,
    contract.restartBindingSha256, contract.cancellationBindingSha256,
    contract.revocationBindingSha256, contract.teardownBindingSha256, contract.privateRootsSha256,
    contract.toolBundleSha256, contract.policySha256, contract.credentialCapabilitySha256,
    contract.targetSha256, contract.alternateEgressSha256, contract.leaseRootSha256,
    contract.relayRootSha256, contract.launchProvenanceSha256, contract.capabilityRefSha256,
    contract.enrollmentBindingSha256]

def ProcessOwnerMaterialContract.validate (contract : ProcessOwnerMaterialContract) :
    Except ProcessOwnerMaterialError Unit :=
  refuse (contract.schemaVersion ≠ OwnerMaterial.schemaVersion ∨
      contract.ownerId.isEmpty = true ∨ contract.ownerId.utf8ByteSize > maxIdBytes ∨
      contract.provider.isEmpty = true ∨ contract.provider.utf8ByteSize > maxIdBytes ∨
      contract.generation = 0 ∨
      contract.issuedAtUnixMs ≥ contract.expiresAtUnixMs ∨
      contract.expiresAtUnixMs - contract.issuedAtUnixMs > maxLifetimeMs ∨
      (contract.digests.any fun value => !validDigest value) = true)
    .invalidContract

/-- Bind the complete public contract to a stable digest. -/
def ProcessOwnerMaterialContract.bindingSha256 (sha256 : ContractDigest)
    (contract : ProcessOwnerMaterialContract) : Except ProcessOwnerMaterialError String := do
  contract.validate
  pure (sha256 contract)

structure ProcessOwnerMaterialRequest where
  schemaVersion : Nat
  contractSha256 : String
  ownerId : String
  controlSessionSha256 : String
  generation : Nat
  requestNonceSha256 : String
  restartBindingSha256 : String
  cancellationBindingSha256 : String
  revocationBindingSha256 : String
  teardownBindingSha256 : String
  deriving DecidableEq

def ProcessOwnerMaterialRequest.digests (request : ProcessOwnerMaterialRequest) : List String :=
  [request.contractSha256, request.controlSessionSha256, request.requestNonceSha256,
    request.restartBindingSha256, request.cancellationBindingSha256,
    request.revocationBindingSha256, request.teardownBindingSha256]

def ProcessOwnerMaterialRequest.validate (request : ProcessOwnerMaterialRequest) :
    Except ProcessOwnerMaterialError Unit :=
  refuse (request.schemaVersion ≠ OwnerMaterial.schemaVersion ∨ request.ownerId.isEmpty = true ∨
      request.generation = 0 ∨ (request.digests.any fun value => !validDigest value) = true)
    .invalidRequest

def validateRequest (sha256 : ContractDigest) (contract : ProcessOwnerMaterialContract)
    (request : ProcessOwnerMaterialRequest) : Except ProcessOwnerMaterialError Unit := do
  request.validate
  refuse (request.ownerId ≠ contract.ownerId ∨ request.generation ≠ contract.generation ∨
      request.controlSessionSha256 ≠ contract.controlSessionSha256 ∨
      request.restartBindingSha256 ≠ contract.restartBindingSha256 ∨
      request.cancellationBindingSha256 ≠ contract.cancellationBindingSha256 ∨
      request.revocationBindingSha256 ≠ contract.revocationBindingSha256 ∨
      request.teardownBindingSha256 ≠ contract.teardownBindingSha256)
    .invalidRequest
  let binding ← contract.bindingSha256 sha256
  refuse (request.contractSha256 ≠ binding) .invalidRequest

/-! ## The store -/

inductive OwnerLifecycle where
  | active | cancelled | restarted | revoked | tornDown
  deriving DecidableEq

inductive ProcessOwnerMaterialOperation where
  | cancel | restart | revoke | teardown
  deriving DecidableEq

structure StoreState (Material : Type) where
  contract : ProcessOwnerMaterialContract
  material : Material
  consumedNonces : List String
  lifecycle : OwnerLifecycle
  deriving DecidableEq

structure Capability where
  request : ProcessOwnerMaterialRequest
  contract : ProcessOwnerMaterialContract
  deriving DecidableEq

structure Lease (Material : Type) where
  request : ProcessOwnerMaterialRequest
  material : Material
  contract : ProcessOwnerMaterialContract
  deriving DecidableEq

/-- The check a bound source makes before each attempt. -/
structure Fence where
  request : ProcessOwnerMaterialRequest
  contract : ProcessOwnerMaterialContract
  deriving DecidableEq

/-- A source a runtime minted, with the fences bound to its factory so far. -/
structure DispatchSource where
  ownerEnrollmentBindingSha256 : String
  fences : List Fence
  deriving DecidableEq

structure DispatchBridge (Material : Type) where
  lease : Lease Material
  source : Option DispatchSource
  deriving DecidableEq

variable {Material : Type}

def Capability.nonce (capability : Capability) : String := capability.request.requestNonceSha256

def Lease.nonce (lease : Lease Material) : String := lease.request.requestNonceSha256

namespace StoreState

/-- The store an enrollment constructs. -/
def enrolled (contract : ProcessOwnerMaterialContract) (material : Material) :
    StoreState Material :=
  ⟨contract, material, [], .active⟩

def consume (state : StoreState Material) (nonce : String) : StoreState Material :=
  { state with consumedNonces := nonce :: state.consumedNonces }

def request (sha256 : ContractDigest) (state : StoreState Material) (nonce : String) :
    Except ProcessOwnerMaterialError ProcessOwnerMaterialRequest := do
  let binding ← state.contract.bindingSha256 sha256
  let request : ProcessOwnerMaterialRequest := {
    schemaVersion := OwnerMaterial.schemaVersion
    contractSha256 := binding
    ownerId := state.contract.ownerId
    controlSessionSha256 := state.contract.controlSessionSha256
    generation := state.contract.generation
    requestNonceSha256 := nonce
    restartBindingSha256 := state.contract.restartBindingSha256
    cancellationBindingSha256 := state.contract.cancellationBindingSha256
    revocationBindingSha256 := state.contract.revocationBindingSha256
    teardownBindingSha256 := state.contract.teardownBindingSha256 }
  request.validate
  pure request

/-- Issue a capability; the nonce is consumed last, when every other check has passed. -/
def issue (sha256 : ContractDigest) (state : StoreState Material)
    (request : ProcessOwnerMaterialRequest) (now : Nat) :
    Except ProcessOwnerMaterialError (Capability × StoreState Material) := do
  request.validate
  validateRequest sha256 state.contract request
  refuse (state.lifecycle ≠ .active ∨ now < state.contract.issuedAtUnixMs ∨
      now ≥ state.contract.expiresAtUnixMs ∨
      request.requestNonceSha256 ∈ state.consumedNonces)
    .replayOrExpired
  pure (⟨request, state.contract⟩, state.consume request.requestNonceSha256)

/-- What the holder of a request must show to use the material. -/
def checkOpen (sha256 : ContractDigest) (state : StoreState Material)
    (request : ProcessOwnerMaterialRequest) (contract : ProcessOwnerMaterialContract) (now : Nat) :
    Except ProcessOwnerMaterialError Unit := do
  validateRequest sha256 state.contract request
  refuse (state.contract ≠ contract ∨ state.lifecycle ≠ .active ∨
      now < state.contract.issuedAtUnixMs ∨ now ≥ state.contract.expiresAtUnixMs)
    .unavailable

/-- Fence the owner generation before cancel, restart, revoke or teardown. -/
def transition (sha256 : ContractDigest) (state : StoreState Material) (capability : Capability)
    (operation : ProcessOwnerMaterialOperation) (now : Nat) :
    Except ProcessOwnerMaterialError (StoreState Material) := do
  validateRequest sha256 state.contract capability.request
  refuse (state.contract ≠ capability.contract ∨ now ≥ state.contract.expiresAtUnixMs) .unavailable
  match state.lifecycle, operation with
  | .active, .cancel => pure { state with lifecycle := .cancelled }
  | .active, .restart => pure { state with lifecycle := .restarted }
  | .active, .revoke => pure { state with lifecycle := .revoked }
  | .active, .teardown => pure { state with lifecycle := .tornDown }
  | .cancelled, .teardown => pure { state with lifecycle := .tornDown }
  | .restarted, .teardown => pure { state with lifecycle := .tornDown }
  | .revoked, .teardown => pure { state with lifecycle := .tornDown }
  | _, _ => .error .invalidTransition

end StoreState

def Capability.materialize (sha256 : ContractDigest) (state : StoreState Material)
    (capability : Capability) (now : Nat) : Except ProcessOwnerMaterialError (Lease Material) := do
  state.checkOpen sha256 capability.request capability.contract now
  pure ⟨capability.request, state.material, state.contract⟩

def Lease.active (sha256 : ContractDigest) (state : StoreState Material) (lease : Lease Material)
    (provenance : Except ProcessOwnerMaterialError Unit) (now : Nat) :
    Except ProcessOwnerMaterialError Unit := do
  state.checkOpen sha256 lease.request lease.contract now
  provenance

/-- `bind_process_owner_fence`. -/
def DispatchSource.bindFence (source : DispatchSource) (fence : Fence) :
    Except ProcessOwnerMaterialError DispatchSource := do
  refuse (source.ownerEnrollmentBindingSha256.isEmpty = true) .sourceBindingMismatch
  pure { source with fences := fence :: source.fences }

def Lease.intoDispatchSource (sha256 : ContractDigest) (state : StoreState Material)
    (lease : Lease Material) (source : DispatchSource)
    (provenance : Except ProcessOwnerMaterialError Unit) (now : Nat) :
    Except ProcessOwnerMaterialError (DispatchBridge Material) := do
  lease.active sha256 state provenance now
  refuse (source.ownerEnrollmentBindingSha256 ≠ lease.contract.enrollmentBindingSha256)
    .sourceBindingMismatch
  let bound ← source.bindFence ⟨lease.request, lease.contract⟩
  pure ⟨lease, some bound⟩

def DispatchBridge.intoDispatchSource (sha256 : ContractDigest) (state : StoreState Material)
    (bridge : DispatchBridge Material) (provenance : Except ProcessOwnerMaterialError Unit)
    (now : Nat) : Except ProcessOwnerMaterialError DispatchSource := do
  bridge.lease.active sha256 state provenance now
  match bridge.source with
  | some source => pure source
  | none => .error .replayOrExpired

def Fence.holds (sha256 : ContractDigest) (state : StoreState Material) (fence : Fence)
    (now : Nat) : Bool :=
  decide (validateRequest sha256 state.contract fence.request = .ok ()) &&
    decide (state.contract = fence.contract) && decide (state.lifecycle = .active) &&
    decide (state.contract.issuedAtUnixMs ≤ now) && decide (now < state.contract.expiresAtUnixMs)

/-! ## The system of calls -/

structure Attempt where
  source : DispatchSource
  attemptId : String
  warmup : Bool
  deriving DecidableEq

/-- The store with everything obtained from it, in order, and the accepted transitions. -/
structure System (Material : Type) where
  store : StoreState Material
  capabilities : List Capability
  leases : List (Lease Material)
  spentLeases : List Nat
  bridges : List (DispatchBridge Material)
  spentBridges : List Nat
  sources : List DispatchSource
  attempts : List Attempt
  fences : List ProcessOwnerMaterialOperation
  deriving DecidableEq

def System.enrolled (contract : ProcessOwnerMaterialContract) (material : Material) :
    System Material :=
  ⟨.enrolled contract material, [], [], [], [], [], [], [], []⟩

/-- A call names what it is made on by its position among what was obtained. -/
inductive Call where
  | issue (nonce : String) (now : Nat)
  | materialize (capability : Nat) (now : Nat)
  | acquire (nonce : String) (now : Nat)
  | bridge (lease : Nat) (source : DispatchSource)
      (provenance : Except ProcessOwnerMaterialError Unit) (now : Nat)
  | source (bridge : Nat) (provenance : Except ProcessOwnerMaterialError Unit) (now : Nat)
  | attempt (source : Nat) (attemptId : String) (warmup : Bool) (acquired : Bool) (now : Nat)
  | fence (capability : Nat) (operation : ProcessOwnerMaterialOperation) (now : Nat)

namespace System

def issue (sha256 : ContractDigest) (s : System Material) (nonce : String) (now : Nat) :
    System Material :=
  match s.store.request sha256 nonce >>= fun request => s.store.issue sha256 request now with
  | .error _ => s
  | .ok (capability, store) =>
    { s with store := store, capabilities := s.capabilities ++ [capability] }

def materialize (sha256 : ContractDigest) (s : System Material) (capability : Capability)
    (now : Nat) : System Material :=
  match capability.materialize sha256 s.store now with
  | .error _ => s
  | .ok lease => { s with leases := s.leases ++ [lease] }

/-- Issue one capability and lease for a fresh nonce. -/
def acquire (sha256 : ContractDigest) (s : System Material) (nonce : String) (now : Nat) :
    System Material :=
  match s.store.request sha256 nonce >>= fun request => s.store.issue sha256 request now with
  | .error _ => s
  | .ok (capability, store) =>
    match capability.materialize sha256 store now with
    | .error _ => { s with store := store }
    | .ok lease => { s with
        store := store
        capabilities := s.capabilities ++ [capability]
        leases := s.leases ++ [lease] }

def bridge (sha256 : ContractDigest) (s : System Material) (position : Nat)
    (lease : Lease Material) (source : DispatchSource)
    (provenance : Except ProcessOwnerMaterialError Unit) (now : Nat) : System Material :=
  match lease.intoDispatchSource sha256 s.store source provenance now with
  | .error _ => { s with spentLeases := position :: s.spentLeases }
  | .ok bridge => { s with
      spentLeases := position :: s.spentLeases
      bridges := s.bridges ++ [bridge] }

def source (sha256 : ContractDigest) (s : System Material) (position : Nat)
    (bridge : DispatchBridge Material) (provenance : Except ProcessOwnerMaterialError Unit)
    (now : Nat) : System Material :=
  match bridge.intoDispatchSource sha256 s.store provenance now with
  | .error _ => { s with spentBridges := position :: s.spentBridges }
  | .ok source => { s with
      spentBridges := position :: s.spentBridges
      sources := s.sources ++ [source] }

/-- The fences run one after the other, the outermost first, and then the factory itself. -/
def attempt (sha256 : ContractDigest) (s : System Material) (source : DispatchSource)
    (attemptId : String) (warmup acquired : Bool) (now : Nat) : System Material :=
  if (source.fences.all fun fence => fence.holds sha256 s.store now) && acquired then
    { s with attempts := s.attempts ++ [⟨source, attemptId, warmup⟩] }
  else s

def fence (sha256 : ContractDigest) (s : System Material) (capability : Capability)
    (operation : ProcessOwnerMaterialOperation) (now : Nat) : System Material :=
  match s.store.transition sha256 capability operation now with
  | .error _ => s
  | .ok store => { s with store := store, fences := s.fences ++ [operation] }

def step (sha256 : ContractDigest) (s : System Material) : Call → System Material
  | .issue nonce now => s.issue sha256 nonce now
  | .acquire nonce now => s.acquire sha256 nonce now
  | .materialize position now =>
    match s.capabilities[position]? with
    | none => s
    | some capability => s.materialize sha256 capability now
  | .bridge position source provenance now =>
    match s.leases[position]? with
    | none => s
    | some lease =>
      if position ∈ s.spentLeases then s
      else s.bridge sha256 position lease source provenance now
  | .source position provenance now =>
    match s.bridges[position]? with
    | none => s
    | some bridge =>
      if position ∈ s.spentBridges then s else s.source sha256 position bridge provenance now
  | .attempt position attemptId warmup acquired now =>
    match s.sources[position]? with
    | none => s
    | some source => s.attempt sha256 source attemptId warmup acquired now
  | .fence position operation now =>
    match s.capabilities[position]? with
    | none => s
    | some capability => s.fence sha256 capability operation now

/-- A capability is materialized only while no lease was taken with it. -/
def unused (s : System Material) : Call → Bool
  | .materialize position _ =>
    (s.capabilities[position]?).all fun capability =>
      !(s.leases.any fun lease => lease.nonce == capability.nonce)
  | _ => true

/-- Everything that was obtained from the store. -/
def holdings (s : System Material) : List Capability × List (Lease Material) ×
    List (DispatchBridge Material) × List DispatchSource × List Attempt :=
  (s.capabilities, s.leases, s.bridges, s.sources, s.attempts)

end System

/-! ## What each call can do -/

variable {sha256 : ContractDigest} {state next : StoreState Material} {capability : Capability}
  {source : DispatchSource} {bridge : DispatchBridge Material} {now : Nat}
  {provenance : Except ProcessOwnerMaterialError Unit}

namespace StoreState

variable {request : ProcessOwnerMaterialRequest}

theorem issue_ok (h : state.issue sha256 request now = .ok (capability, next)) :
    state.lifecycle = .active ∧ capability.nonce ∉ state.consumedNonces ∧
      next = state.consume capability.nonce := by
  simp only [StoreState.issue, bind_eq_ok, pure_eq_ok, refuse_eq_ok, not_or, not_not] at h
  obtain ⟨_, _, _, _, _, ⟨active, _, _, fresh⟩, made⟩ := h
  cases made
  exact ⟨active, fresh, rfl⟩

theorem checkOpen_active {contract : ProcessOwnerMaterialContract}
    (h : state.checkOpen sha256 request contract now = .ok ()) : state.lifecycle = .active := by
  simp only [checkOpen, bind_eq_ok, refuse_eq_ok, not_or, not_not] at h
  obtain ⟨_, _, _, active, _⟩ := h
  exact active

/-- A transition is accepted only into a closed lifecycle. -/
theorem transition_closes (h : state.transition sha256 capability operation now = .ok next) :
    ∃ lifecycle, lifecycle ≠ .active ∧ next = { state with lifecycle := lifecycle } := by
  simp only [transition, bind_eq_ok] at h
  obtain ⟨_, _, _, _, moved⟩ := h
  split at moved
  all_goals first
    | exact ⟨_, by decide, (pure_eq_ok.mp moved).symm⟩
    | cases moved

end StoreState

theorem Capability.materialize_ok {lease : Lease Material}
    (h : capability.materialize sha256 state now = .ok lease) :
    state.lifecycle = .active ∧ lease.nonce = capability.nonce := by
  simp only [Capability.materialize, bind_eq_ok, pure_eq_ok] at h
  obtain ⟨_, opened, rfl⟩ := h
  exact ⟨StoreState.checkOpen_active opened, rfl⟩

theorem Lease.active_ok {lease : Lease Material}
    (h : lease.active sha256 state provenance now = .ok ()) : state.lifecycle = .active := by
  simp only [Lease.active, bind_eq_ok] at h
  obtain ⟨_, opened, _⟩ := h
  exact StoreState.checkOpen_active opened

/-- The source in a bridge can no longer start an attempt without asking the store. -/
theorem Lease.intoDispatchSource_ok {lease : Lease Material}
    (h : lease.intoDispatchSource sha256 state source provenance now = .ok bridge) :
    state.lifecycle = .active ∧ ∀ bound, bridge.source = some bound → bound.fences ≠ [] := by
  simp only [Lease.intoDispatchSource, DispatchSource.bindFence, bind_eq_ok, pure_eq_ok] at h
  obtain ⟨_, active, _, _, _, ⟨_, _, rfl⟩, rfl⟩ := h
  refine ⟨Lease.active_ok active, ?_⟩
  rintro bound ⟨⟩
  exact cons_ne_nil _ _

theorem DispatchBridge.intoDispatchSource_ok
    (h : bridge.intoDispatchSource sha256 state provenance now = .ok source) :
    state.lifecycle = .active ∧ bridge.source = some source := by
  simp only [DispatchBridge.intoDispatchSource, bind_eq_ok] at h
  obtain ⟨_, active, taken⟩ := h
  refine ⟨Lease.active_ok active, ?_⟩
  split at taken
  · rw [‹bridge.source = _›, pure_eq_ok.mp taken]
  · cases taken

theorem Fence.holds_active {fence : Fence}
    (h : fence.holds sha256 state now = true) : state.lifecycle = .active := by
  simp only [Fence.holds, Bool.and_eq_true, decide_eq_true_eq] at h
  exact h.1.1.2

/-- Every source in a bridge, or taken out of one, asks the store before an attempt. -/
structure Bound (bridges : List (DispatchBridge Material)) (sources : List DispatchSource) :
    Prop where
  bridges : ∀ bridge ∈ bridges, ∀ source, bridge.source = some source → source.fences ≠ []
  sources : ∀ source ∈ sources, source.fences ≠ []

theorem Bound.nil : Bound ([] : List (DispatchBridge Material)) [] where
  bridges := by simp
  sources := by simp

variable {bridges : List (DispatchBridge Material)} {sources : List DispatchSource}

theorem Bound.concat_bridge (bound : Bound bridges sources)
    (fenced : ∀ source, bridge.source = some source → source.fences ≠ []) :
    Bound (bridges ++ [bridge]) sources where
  bridges := forall_mem_append.mpr ⟨bound.bridges, forall_mem_singleton.mpr fenced⟩
  sources := bound.sources

theorem Bound.concat_source (bound : Bound bridges sources) (fenced : source.fences ≠ []) :
    Bound bridges (sources ++ [source]) where
  bridges := bound.bridges
  sources := forall_mem_append.mpr ⟨bound.sources, forall_mem_singleton.mpr fenced⟩

/-- What a call can do to the system. Only an open store hands anything out. -/
inductive Move (s : System Material) (call : Call) : System Material → Prop where
  | kept {t} (store : t.store = s.store) (holdings : t.holdings = s.holdings)
      (fences : t.fences = s.fences) : Move s call t
  | consumed {nonce} : Move s call { s with store := s.store.consume nonce }
  | issued {capability : Capability} (active : s.store.lifecycle = .active) :
      Move s call { s with
        store := s.store.consume capability.nonce
        capabilities := s.capabilities ++ [capability] }
  | acquired {capability : Capability} {lease}
      (active : s.store.lifecycle = .active) (fresh : capability.nonce ∉ s.store.consumedNonces)
      (nonce : lease.nonce = capability.nonce) :
      Move s call { s with
        store := s.store.consume capability.nonce
        capabilities := s.capabilities ++ [capability]
        leases := s.leases ++ [lease] }
  | materialized {position now} {capability : Capability} {lease}
      (called : call = .materialize position now)
      (found : s.capabilities[position]? = some capability)
      (active : s.store.lifecycle = .active) (nonce : lease.nonce = capability.nonce) :
      Move s call { s with leases := s.leases ++ [lease] }
  | dispatched {t} (active : s.store.lifecycle = .active)
      (store : t.store = s.store) (capabilities : t.capabilities = s.capabilities)
      (leases : t.leases = s.leases) (fences : t.fences = s.fences)
      (bound : Bound t.bridges t.sources) : Move s call t
  | fenced {lifecycle} {operation}
      (closed : lifecycle ≠ .active) :
      Move s call { s with
        store := { s.store with lifecycle := lifecycle }
        fences := s.fences ++ [operation] }

namespace System

variable {s t : System Material} {call : Call} {position : Nat}

theorem issue_move : Move s call (s.issue sha256 nonce now) := by
  unfold System.issue
  split
  · exact .kept rfl rfl rfl
  · rename_i capability store issued
    obtain ⟨_, _, issued⟩ := bind_eq_ok.mp issued
    obtain ⟨active, _, rfl⟩ := StoreState.issue_ok issued
    exact .issued active

theorem acquire_move : Move s call (s.acquire sha256 nonce now) := by
  unfold System.acquire
  split
  · exact .kept rfl rfl rfl
  · rename_i capability store issued
    obtain ⟨_, _, issued⟩ := bind_eq_ok.mp issued
    obtain ⟨active, fresh, rfl⟩ := StoreState.issue_ok issued
    split
    · exact .consumed
    · rename_i lease materialized
      exact .acquired active fresh (Capability.materialize_ok materialized).2

theorem materialize_move
    (found : s.capabilities[position]? = some capability) :
    Move s (.materialize position now) (s.materialize sha256 capability now) := by
  unfold System.materialize
  split
  · exact .kept rfl rfl rfl
  · rename_i lease materialized
    obtain ⟨active, nonce⟩ := Capability.materialize_ok materialized
    exact .materialized rfl found active nonce

section
variable (bound : Bound s.bridges s.sources)
include bound

theorem bridge_move {lease : Lease Material} :
    Move s call (s.bridge sha256 position lease source provenance now) := by
  unfold System.bridge
  split
  · exact .kept rfl rfl rfl
  · rename_i bridge made
    obtain ⟨active, fenced⟩ := Lease.intoDispatchSource_ok made
    exact .dispatched active rfl rfl rfl rfl (bound.concat_bridge fenced)

theorem source_move (member : bridge ∈ s.bridges) :
    Move s call (s.source sha256 position bridge provenance now) := by
  unfold System.source
  split
  · exact .kept rfl rfl rfl
  · rename_i source taken
    obtain ⟨active, held⟩ := DispatchBridge.intoDispatchSource_ok taken
    have fenced := bound.bridges bridge member source held
    exact .dispatched active rfl rfl rfl rfl (bound.concat_source fenced)

theorem attempt_move (member : source ∈ s.sources) :
    Move s call (s.attempt sha256 source attemptId warmup acquired now) := by
  unfold System.attempt
  split
  · rename_i passed
    obtain ⟨fence, asked⟩ := exists_mem_of_ne_nil _ (bound.sources source member)
    have held := all_eq_true.mp (Bool.and_eq_true_iff.mp passed).1 fence asked
    exact .dispatched (Fence.holds_active held) rfl rfl rfl rfl bound
  · exact .kept rfl rfl rfl

end

theorem fence_move : Move s call (s.fence sha256 capability operation now) := by
  unfold System.fence
  split
  · exact .kept rfl rfl rfl
  · rename_i store moved
    obtain ⟨lifecycle, closed, rfl⟩ := StoreState.transition_closes moved
    exact .fenced closed

theorem step_move (bound : Bound s.bridges s.sources) (call : Call) :
    Move s call (s.step sha256 call) := by
  cases call with
  | issue nonce now => exact issue_move
  | acquire nonce now => exact acquire_move
  | materialize position now =>
    simp only [step]
    split
    · exact .kept rfl rfl rfl
    · exact materialize_move ‹_›
  | bridge position source provenance now =>
    simp only [step]
    split
    · exact .kept rfl rfl rfl
    · split
      · exact .kept rfl rfl rfl
      · exact bridge_move bound
  | source position provenance now =>
    simp only [step]
    split
    · exact .kept rfl rfl rfl
    · rename_i found
      split
      · exact .kept rfl rfl rfl
      · exact source_move bound (mem_of_getElem? found)
  | attempt position attemptId warmup acquired now =>
    simp only [step]
    split
    · exact .kept rfl rfl rfl
    · rename_i found
      exact attempt_move bound (mem_of_getElem? found)
  | fence position operation now =>
    simp only [step]
    split
    · exact .kept rfl rfl rfl
    · exact fence_move

theorem holdings_eq (h : t.holdings = s.holdings) :
    t.capabilities = s.capabilities ∧ t.leases = s.leases ∧ t.bridges = s.bridges ∧
      t.sources = s.sources ∧ t.attempts = s.attempts := by
  simpa only [holdings, Prod.mk.injEq] using h

end System

/-! ## Single use and fencing over whole runs -/

section Moves

variable {s t : System Material} {call : Call}

theorem Move.bound (move : Move s call t) (bound : Bound s.bridges s.sources) :
    Bound t.bridges t.sources := by
  cases move with
  | kept _ holdings _ =>
    obtain ⟨_, _, bridges, sources, _⟩ := System.holdings_eq holdings
    rw [bridges, sources]
    exact bound
  | dispatched _ _ _ _ _ bound => exact bound
  | consumed | issued | acquired | materialized | fenced => exact bound

/-- A closed store stays closed and hands nothing out. -/
theorem Move.closed (move : Move s call t) (closed : s.store.lifecycle ≠ .active) :
    t.store.lifecycle ≠ .active ∧ t.holdings = s.holdings := by
  cases move with
  | kept store holdings _ =>
    rw [store]
    exact ⟨closed, holdings⟩
  | consumed => exact ⟨closed, rfl⟩
  | issued active => exact absurd active closed
  | acquired active _ _ => exact absurd active closed
  | materialized _ _ active _ => exact absurd active closed
  | dispatched active _ _ _ _ _ => exact absurd active closed
  | fenced closed => exact ⟨closed, rfl⟩

/-- An accepted transition has closed the store. -/
def Barred (s : System Material) : Prop := s.fences ≠ [] → s.store.lifecycle ≠ .active

theorem Move.barred (move : Move s call t) (barred : Barred s) : Barred t := by
  cases move with
  | kept store _ fences =>
    intro accepted
    rw [store]
    exact barred (fences ▸ accepted)
  | dispatched _ store _ _ fences _ =>
    intro accepted
    rw [store]
    exact barred (fences ▸ accepted)
  | fenced closed => exact fun _ => closed
  | consumed | issued | acquired | materialized => exact barred

/-- Each nonce was consumed before anything was obtained with it, and gave one lease at most. -/
structure Single (nonces : List String) (capabilities : List Capability)
    (leases : List (Lease Material)) : Prop where
  issued : ∀ capability ∈ capabilities, capability.nonce ∈ nonces
  taken : ∀ lease ∈ leases, lease.nonce ∈ nonces
  distinct : (leases.map Lease.nonce).Nodup

variable {nonces : List String} {capabilities : List Capability} {leases : List (Lease Material)}

section
variable (single : Single nonces capabilities leases)
include single

theorem Single.consume (nonce : String) :
    Single (nonce :: nonces) capabilities leases where
  issued := fun _ member => mem_cons_of_mem _ (single.issued _ member)
  taken := fun _ member => mem_cons_of_mem _ (single.taken _ member)
  distinct := single.distinct

theorem Single.concat_capability
    (known : capability.nonce ∈ nonces) : Single nonces (capabilities ++ [capability]) leases where
  issued := forall_mem_append.mpr ⟨single.issued, forall_mem_singleton.mpr known⟩
  taken := single.taken
  distinct := single.distinct

theorem Single.lease {lease : Lease Material}
    (known : lease.nonce ∈ nonces) (fresh : lease.nonce ∉ leases.map Lease.nonce) :
    Single nonces capabilities (leases ++ [lease]) where
  issued := single.issued
  taken := forall_mem_append.mpr ⟨single.taken, forall_mem_singleton.mpr known⟩
  distinct := by
    rw [map_append, map_singleton, ← concat_eq_append]
    exact single.distinct.concat fresh

/-- A nonce that was not consumed gave no lease. -/
theorem Single.fresh (unknown : nonce ∉ nonces) : nonce ∉ leases.map Lease.nonce := by
  intro member
  obtain ⟨lease, held, rfl⟩ := mem_map.mp member
  exact unknown (single.taken lease held)

end

theorem Move.single (move : Move s call t) (unused : s.unused call = true)
    (single : Single s.store.consumedNonces s.capabilities s.leases) :
    Single t.store.consumedNonces t.capabilities t.leases := by
  cases move with
  | kept store holdings _ =>
    obtain ⟨capabilities, leases, _⟩ := System.holdings_eq holdings
    rw [store, capabilities, leases]
    exact single
  | consumed => exact single.consume _
  | issued => exact (single.consume _).concat_capability (mem_cons_self ..)
  | acquired _ fresh nonce =>
    refine ((single.consume _).concat_capability (mem_cons_self ..)).lease ?_ ?_
    · rw [nonce]
      exact mem_cons_self ..
    · rw [nonce]
      exact single.fresh fresh
  | materialized called found _ nonce =>
    subst called
    simp only [System.unused, found, Option.all_some, Bool.not_eq_true', any_eq_false,
      beq_iff_eq] at unused
    refine single.lease ?_ ?_
    · rw [nonce]
      exact single.issued _ (mem_of_getElem? found)
    · intro member
      obtain ⟨lease, held, same⟩ := mem_map.mp member
      exact unused lease held (same.trans nonce)
  | dispatched _ store capabilities leases _ _ =>
    rw [store, capabilities, leases]
    exact single
  | fenced => exact single

end Moves

/-- What every reachable system keeps, whatever was called. -/
structure Sound (s : System Material) : Prop where
  bound : Bound s.bridges s.sources
  barred : Barred s

theorem Sound.enrolled (contract : ProcessOwnerMaterialContract) (material : Material) :
    Sound (System.enrolled contract material) where
  bound := .nil
  barred := fun accepted => absurd rfl accepted

theorem Sound.step (sound : Sound s) (call : Call) : Sound (s.step sha256 call) :=
  have move := System.step_move sound.bound call
  ⟨move.bound sound.bound, move.barred sound.barred⟩

theorem Sound.run (sound : Sound s) (calls : List Call) :
    Sound (calls.foldl (System.step sha256) s) := by
  induction calls generalizing s with
  | nil => exact sound
  | cons call calls ih => exact ih (sound.step call)

/-- From a closed store on, a run obtains nothing. -/
theorem Sound.closed_run (sound : Sound s) (closed : s.store.lifecycle ≠ .active)
    (calls : List Call) :
    (calls.foldl (System.step sha256) s).store.lifecycle ≠ .active ∧
      (calls.foldl (System.step sha256) s).holdings = s.holdings := by
  induction calls generalizing s with
  | nil => exact ⟨closed, rfl⟩
  | cons call calls ih =>
    obtain ⟨closed, kept⟩ := (System.step_move sound.bound call).closed closed
    obtain ⟨closed, same⟩ := ih (sound.step call) closed
    exact ⟨closed, same.trans kept⟩

/-- Where no capability is materialized twice, each nonce has one lease at most. -/
theorem single_run (sound : Sound s)
    (single : Single s.store.consumedNonces s.capabilities s.leases)
    (unused : allows (System.step sha256) System.unused s calls = true) :
    Single (calls.foldl (System.step sha256) s).store.consumedNonces
      (calls.foldl (System.step sha256) s).capabilities
      (calls.foldl (System.step sha256) s).leases := by
  refine (allows_invariant (P := fun s =>
    Sound s ∧ Single s.store.consumedNonces s.capabilities s.leases) ?_ unused ⟨sound, single⟩).2
  intro s call ⟨sound, single⟩ unused
  exact ⟨sound.step call, (System.step_move sound.bound call).single unused single⟩

/-- Where no capability is materialized twice, a nonce gives at most one lease. Whatever was
called, once a transition was accepted nothing more is obtained, and a closed store never opens
again. -/
theorem owner_material_single_use (sha256 : ContractDigest)
    (contract : ProcessOwnerMaterialContract) (material : Material) (before after : List Call)
    (s t : System Material)
    (opening : s = before.foldl (System.step sha256) (System.enrolled contract material))
    (run : t = after.foldl (System.step sha256) s) :
    (allows (System.step sha256) System.unused (System.enrolled contract material)
        (before ++ after) = true →
      ∀ nonce, (t.leases.map Lease.nonce).count nonce ≤ 1) ∧
      (s.fences ≠ [] → t.holdings = s.holdings) ∧
      (s.store.lifecycle ≠ .active → t.store.lifecycle ≠ .active) := by
  subst run opening
  have start : Sound (System.enrolled contract material) := .enrolled contract material
  have reached : Sound (before.foldl (System.step sha256) (System.enrolled contract material)) :=
    start.run before
  refine ⟨fun unused => ?_, fun accepted => ?_, fun closed => ?_⟩
  · rw [← foldl_append]
    exact nodup_iff_count_le_one.mp (single_run start
      ⟨by simp [System.enrolled], by simp [System.enrolled], nodup_nil⟩ unused).distinct
  · exact (reached.closed_run (reached.barred accepted) after).2
  · exact (reached.closed_run closed after).1

/-! ## A store with one contract -/

def sampleDigest : String := "0123456789abcdef0123456789abcdef0123456789abcdef0123456789abcdef"

def sampleContract : ProcessOwnerMaterialContract where
  schemaVersion := 1
  ownerId := "owner"
  provider := "provider"
  endpointIdentitySha256 := sampleDigest
  namespaceSha256 := sampleDigest
  controlSessionSha256 := sampleDigest
  generation := 1
  issuedAtUnixMs := 10
  expiresAtUnixMs := 20
  restartBindingSha256 := sampleDigest
  cancellationBindingSha256 := sampleDigest
  revocationBindingSha256 := sampleDigest
  teardownBindingSha256 := sampleDigest
  privateRootsSha256 := sampleDigest
  toolBundleSha256 := sampleDigest
  policySha256 := sampleDigest
  credentialCapabilitySha256 := sampleDigest
  targetSha256 := sampleDigest
  alternateEgressSha256 := sampleDigest
  leaseRootSha256 := sampleDigest
  relayRootSha256 := sampleDigest
  launchProvenanceSha256 := sampleDigest
  capabilityRefSha256 := sampleDigest
  enrollmentBindingSha256 := sampleDigest

def sampleSha256 : ContractDigest := fun _ => sampleDigest

def sampleRequest : ProcessOwnerMaterialRequest :=
  ⟨1, sampleDigest, "owner", sampleDigest, 1, sampleDigest, sampleDigest, sampleDigest,
    sampleDigest,
    sampleDigest⟩

def sampleCapability : Capability := ⟨sampleRequest, sampleContract⟩

def sampleLease : Lease Unit := ⟨sampleRequest, (), sampleContract⟩

def sampleStore : StoreState Unit := ⟨sampleContract, (), [sampleDigest], .active⟩

/-- After one capability was issued and one lease taken with it. -/
def sampleAcquired : System Unit :=
  { System.enrolled sampleContract () with
    store := sampleStore
    capabilities := [sampleCapability]
    leases := [sampleLease] }

theorem sample_acquire :
    (System.enrolled sampleContract ()).step sampleSha256 (.acquire sampleDigest 12) =
      sampleAcquired := by
  decide +kernel

def sampleFenced : System Unit :=
  { sampleAcquired with
    store := { sampleStore with lifecycle := .revoked }
    fences := [.revoke] }

theorem sample_fence : sampleAcquired.step sampleSha256 (.fence 0 .revoke 13) = sampleFenced := by
  decide +kernel

/-- The one lease taken before a revocation gives no bridge after it. -/
theorem owner_material_single_use_sample :
    let t := sampleFenced.step sampleSha256 (.bridge 0 ⟨sampleDigest, []⟩ (.ok ()) 14)
    sampleFenced.fences ≠ [] ∧ (t.leases.map Lease.nonce).count sampleDigest ≤ 1 ∧
      t.bridges = [] := by
  have fenced : sampleFenced = [Call.acquire sampleDigest 12, .fence 0 .revoke 13].foldl
      (System.step sampleSha256) (System.enrolled sampleContract ()) := by
    rw [foldl_cons, sample_acquire, foldl_cons, sample_fence, foldl_nil]
  have closed : sampleFenced.fences ≠ [] := cons_ne_nil _ _
  obtain ⟨once, kept, -⟩ := owner_material_single_use sampleSha256 sampleContract () _
    [.bridge 0 ⟨sampleDigest, []⟩ (.ok ()) 14] sampleFenced _ fenced rfl
  exact ⟨closed, once (by decide +kernel) sampleDigest, (System.holdings_eq (kept closed)).2.2.1⟩

/-- A capability that was acquired with its lease still gives a second one. -/
theorem nonce_leased_twice :
    ¬ ∀ (sha256 : ContractDigest) (contract : ProcessOwnerMaterialContract) (calls : List Call)
      (nonce : String),
      ((calls.foldl (System.step sha256) (System.enrolled contract ())).leases.map
        Lease.nonce).count nonce ≤ 1 := by
  intro claim
  have once := claim sampleSha256 sampleContract [.acquire sampleDigest 12, .materialize 0 13]
    sampleDigest
  have twice : (sampleAcquired.step sampleSha256 (.materialize 0 13)).leases =
      [sampleLease, sampleLease] := by decide +kernel
  rw [foldl_cons, sample_acquire, foldl_cons, foldl_nil, twice] at once
  simp [Lease.nonce, sampleLease, sampleRequest] at once

end AgentSystemsBenchmark.OwnerMaterial
