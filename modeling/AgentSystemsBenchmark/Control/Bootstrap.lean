import AgentSystemsBenchmark.Control.Certificate
import AgentSystemsBenchmark.Control.Mutation
import AgentSystemsBenchmark.Library.Histories

/-!
# Runtime receipts, bootstraps and the enrollments behind them

The catalog holds the enrollment of each provider and, for some of them, authority
material from which receipts are issued. A receipt is returned by a receipt call,
which checks the enrollment every time, or by a bootstrap, which is a mutation: it
is answered from its record when its nonce has one. A bootstrap is stored under its
nonce and can be cancelled; the enrollment can be rotated, replaced or revoked.
-/

namespace AgentSystemsBenchmark.Control

open Effects Framing Numerals

/-! ## Receipts -/

structure RuntimeAuthorityEnrollment where
  schemaVersion : Nat
  chainSha256 : String
  provider : String
  credentialRefSha256 : String
  target : String
  toolBundleSha256 : String
  leaseRootSha256 : String
  relayRootSha256 : String
  generation : Nat
  issuedAtUnixMs : Nat
  expiresAtUnixMs : Nat
  deriving DecidableEq

/-- What the serialized material of an authority record stands for. -/
structure RuntimeAuthority where
  trustAnchorSha256 : String
  endpointIdentitySha256 : String
  chain : AuthenticatedChainEnrollment
  enrollment : RuntimeAuthorityEnrollment

structure AuthorityFormats where
  tools : CertificateTools
  authority : String → RuntimeAuthority
  chainText : AuthenticatedChainEnrollment → String
  /-- A socket address outside the private ranges. -/
  validPublicTarget : String → Bool

/-- Any certificate error is reported as a rejection. -/
def rejecting {α : Type} : Except CertificateError α → Except BackendFailure α
  | .ok value => .ok value
  | .error _ => .error .rejected

@[simp] theorem rejecting_eq_ok {α : Type} {x : Except CertificateError α} {a : α} :
    rejecting x = .ok a ↔ x = .ok a := by
  cases x <;> simp [rejecting]

section Receipts
variable (formats : AuthorityFormats)

def maxReceiptMs : Nat := 15 * 60 * 1000

def IssuedCertificateChain.issueRuntimeReceipt (issued : IssuedCertificateChain)
    (enrollment : RuntimeAuthorityEnrollment) :
    Except CertificateError RuntimeEnrollmentReceipt := do
  refuse (enrollment.provider = "" ∨ isDigest enrollment.credentialRefSha256 = false ∨
    isDigest enrollment.toolBundleSha256 = false ∨ isDigest enrollment.leaseRootSha256 = false ∨
    isDigest enrollment.relayRootSha256 = false ∨
    formats.validPublicTarget enrollment.target = false ∨
    enrollment.issuedAtUnixMs > enrollment.expiresAtUnixMs ∨
    enrollment.expiresAtUnixMs - enrollment.issuedAtUnixMs > maxReceiptMs) .invalidReceipt
  let identity := issued.identity
  pure
    { schemaVersion := 1
      chainSha256 := issued.chainSha256
      provider := enrollment.provider
      endpointIdentitySha256 := identity.endpointIdentitySha256
      credentialRefSha256 := enrollment.credentialRefSha256
      generation := identity.generation
      target := enrollment.target
      toolBundleSha256 := enrollment.toolBundleSha256
      leaseRootSha256 := enrollment.leaseRootSha256
      relayRootSha256 := enrollment.relayRootSha256
      issuedAtUnixMs := enrollment.issuedAtUnixMs
      expiresAtUnixMs := enrollment.expiresAtUnixMs
      nonceSha256 := formats.tools.sha256
        (bytes (issued.chainSha256 ++ enrollment.provider ++ enrollment.credentialRefSha256) ++
          leBytes 8 identity.generation ++
          bytes (enrollment.target ++ enrollment.toolBundleSha256 ++ enrollment.leaseRootSha256 ++
            enrollment.relayRootSha256)) }

def RuntimeAuthorityEnrollment.issueReceipt (enrollment : RuntimeAuthorityEnrollment)
    (issued : IssuedCertificateChain) : Except CertificateError RuntimeEnrollmentReceipt := do
  refuse (enrollment.schemaVersion ≠ 1 ∨ enrollment.chainSha256 ≠ issued.chainSha256 ∨
    enrollment.generation ≠ issued.identity.generation ∨
    enrollment.issuedAtUnixMs > enrollment.expiresAtUnixMs ∨
    enrollment.expiresAtUnixMs - enrollment.issuedAtUnixMs > maxReceiptMs ∨
    isDigest enrollment.chainSha256 = false ∨ isDigest enrollment.credentialRefSha256 = false ∨
    isDigest enrollment.toolBundleSha256 = false ∨ isDigest enrollment.leaseRootSha256 = false ∨
    isDigest enrollment.relayRootSha256 = false ∨ enrollment.provider = "" ∨
    formats.validPublicTarget enrollment.target = false) .invalidReceipt
  refuse (issued.identity.endpointIdentitySha256 = "") .endpointBindingUnavailable
  issued.issueRuntimeReceipt formats enrollment

/-- The certificate authority an authority record reconstructs. -/
def RuntimeAuthority.certificateAuthority (authority : RuntimeAuthority) :
    Except CertificateError CertificateAuthority :=
  (Construction.withTrustAnchorDigestAndEndpoint authority.trustAnchorSha256
    authority.chain.generation authority.endpointIdentitySha256).build formats.tools 0

def RuntimeAuthorityRecord.issueReceipt (record : RuntimeAuthorityRecord) (now : Nat) :
    Except BackendFailure RuntimeEnrollmentReceipt := do
  let authority := formats.authority record.material
  refuse (record.provider ≠ authority.enrollment.provider) .rejected
  let certificates ← rejecting (authority.certificateAuthority formats)
  let issued ← rejecting (authority.chain.issueChain formats.tools certificates now)
  rejecting (authority.enrollment.issueReceipt formats issued)

structure RuntimeReceiptRequest where
  schemaVersion : Nat
  provider : String
  generation : Nat
  requestNonceSha256 : String
  deriving DecidableEq

def RuntimeReceiptRequest.validate (request : RuntimeReceiptRequest) :
    Except CertificateError Unit :=
  refuse (request.schemaVersion ≠ 1 ∨ request.provider = "" ∨ request.provider.utf8ByteSize > 64 ∨
    request.generation = 0 ∨ isDigest request.requestNonceSha256 = false) .invalidReceiptRequest

/-- Issue a receipt when the enrollment is active and is the one the authority was made for. -/
def materializeRuntimeReceipt (catalog : Catalog) (request : RuntimeReceiptRequest) (now : Nat) :
    Except BackendFailure RuntimeEnrollmentReceipt :=
  match catalog.runtimeAuthorities.lookup request.provider,
    catalog.auth.lookup request.provider with
  | some record, some enrollment => do
    let authority := formats.authority record.material
    refuse (enrollment.status ≠ .active ∨
      enrollment.endpointIdentitySha256 ≠ authority.endpointIdentitySha256 ∨
      enrollment.credentialLocatorSha256 ≠ authority.enrollment.credentialRefSha256 ∨
      enrollment.generation ≠ authority.enrollment.generation) .capabilityUnavailable
    refuse (request.generation ≠ authority.enrollment.generation) .staleIdentity
    record.issueReceipt formats now
  | _, _ => .error .capabilityUnavailable

/-- The receipt call; the response repeats the nonce and the chain. -/
def runtimeReceipt (catalog : Catalog) (request : RuntimeReceiptRequest) (now : Nat) :
    Except BackendFailure RuntimeEnrollmentReceipt := do
  rejecting request.validate
  let receipt ← materializeRuntimeReceipt formats catalog request now
  let chain := (catalog.runtimeAuthorities.lookup request.provider).map fun record =>
    canonicalChainDigest formats.tools (formats.authority record.material).chain.chain
  refuse (receipt.provider ≠ request.provider ∨ receipt.generation ≠ request.generation ∨
    some receipt.chainSha256 ≠ chain) .rejected
  return receipt

variable {formats} {catalog : Catalog}

/-- A receipt call answers for an active enrollment, of the generation it shows. -/
theorem runtimeReceipt_ok (h : runtimeReceipt formats catalog request now = .ok receipt) :
    ∃ record, catalog.auth.lookup receipt.provider = some record ∧ record.status = .active ∧
      record.generation = receipt.generation := by
  simp only [runtimeReceipt, bind_eq_ok, pure_eq_ok, refuse_eq_ok, not_or, not_not] at h
  obtain ⟨_, _, _, issued, _, ⟨provider, generation, _⟩, rfl⟩ := h
  unfold materializeRuntimeReceipt at issued
  cases enrolled : catalog.auth.lookup request.provider with
  | none => cases known : catalog.runtimeAuthorities.lookup request.provider <;>
      simp [known, enrolled] at issued
  | some record =>
    cases known : catalog.runtimeAuthorities.lookup request.provider with
    | none => simp [known, enrolled] at issued
    | some authority =>
      simp only [known, enrolled, bind_eq_ok, refuse_eq_ok, not_or, not_not] at issued
      obtain ⟨_, ⟨active, _, _, current⟩, _, asked, _⟩ := issued
      rw [provider, generation]
      exact ⟨record, enrolled, active, current.trans asked.symm⟩

end Receipts

/-! ## Bootstraps -/

section Bootstraps
variable (env : Platform) (formats : AuthorityFormats)

def RuntimeBootstrapRequest.validate (request : RuntimeBootstrapRequest) :
    Except CertificateError Unit :=
  refuse (request.schemaVersion ≠ 1 ∨ request.provider = "" ∨ request.provider.utf8ByteSize > 64 ∨
    request.generation = 0 ∨ isDigest request.controlSessionSha256 = false ∨
    isDigest request.requestNonceSha256 = false ∨ isDigest request.restartBindingSha256 = false ∨
    isDigest request.namespaceSha256 = false) .invalidReceiptRequest

def RuntimeBootstrapResponse.validateFor (response : RuntimeBootstrapResponse)
    (chain : AuthenticatedChainEnrollment) (request : RuntimeBootstrapRequest) :
    Except CertificateError Unit := do
  request.validate
  refuse (response.schemaVersion ≠ 1 ∨ response.requestNonceSha256 ≠ request.requestNonceSha256 ∨
    response.controlSessionSha256 ≠ request.controlSessionSha256 ∨
    response.restartBindingSha256 ≠ request.restartBindingSha256 ∨
    response.namespaceSha256 ≠ request.namespaceSha256 ∨
    response.generation ≠ request.generation ∨
    isDigest response.cancellationBindingSha256 = false ∨ response.expiresAtUnixMs = 0 ∨
    response.receipt.generation ≠ request.generation ∨
    response.receipt.provider ≠ request.provider ∨
    response.receipt.expiresAtUnixMs ≠ response.expiresAtUnixMs ∨
    response.receipt.chainSha256 ≠ canonicalChainDigest formats.tools chain.chain)
    .invalidReceiptResponse

/-- What a cancellation fences, whatever the nonce. -/
structure Combination where
  provider : String
  generation : Nat
  controlSessionSha256 : String
  restartBindingSha256 : String
  deriving DecidableEq

def RuntimeBootstrapRequest.combination (request : RuntimeBootstrapRequest) : Combination :=
  ⟨request.provider, request.generation, request.controlSessionSha256, request.restartBindingSha256⟩

def RuntimeBootstrapRecord.combination (record : RuntimeBootstrapRecord) : Combination :=
  ⟨record.provider, record.generation, record.controlSessionSha256, record.restartBindingSha256⟩

def bootstrapKey (requestNonceSha256 : String) : String :=
  "runtime-bootstrap:" ++ requestNonceSha256

def cancellationBinding (request : RuntimeBootstrapRequest) : String :=
  env.sha256 ("asb-runtime-bootstrap-cancel-v1:" ++ request.controlSessionSha256 ++ ":" ++
    request.requestNonceSha256 ++ ":" ++ request.generation.repr)

/-- The response and the stored bootstrap of a request that passes every check. -/
def bootstrapResponse (request : RuntimeBootstrapRequest) (chain : AuthenticatedChainEnrollment)
    (receipt : RuntimeEnrollmentReceipt) : RuntimeBootstrapResponse where
  schemaVersion := 1
  requestNonceSha256 := request.requestNonceSha256
  controlSessionSha256 := request.controlSessionSha256
  restartBindingSha256 := request.restartBindingSha256
  namespaceSha256 := request.namespaceSha256
  generation := request.generation
  expiresAtUnixMs := receipt.expiresAtUnixMs
  cancellationBindingSha256 := cancellationBinding env request
  chain := formats.chainText chain
  receipt := receipt

def bootstrapRecord (request : RuntimeBootstrapRequest) (expiresAtUnixMs : Nat) :
    RuntimeBootstrapRecord where
  provider := request.provider
  requestNonceSha256 := request.requestNonceSha256
  generation := request.generation
  controlSessionSha256 := request.controlSessionSha256
  restartBindingSha256 := request.restartBindingSha256
  cancellationBindingSha256 := cancellationBinding env request
  expiresAtUnixMs := expiresAtUnixMs
  revoked := false

/-- A cancelled bootstrap stands in the way of every bootstrap of its combination. -/
def fenced (catalog : Catalog) (combination : Combination) : Bool :=
  catalog.runtimeBootstraps.entries.any fun entry =>
    entry.2.combination = combination ∧ entry.2.revoked

def bootstrapBuild (nowMs : Nat) (request : RuntimeBootstrapRequest) (catalog : Catalog) :
    Except BackendFailure (ControlResult × Catalog) :=
  match catalog.auth.lookup request.provider with
  | none => .error .capabilityUnavailable
  | some auth => do
    refuse (auth.status ≠ .active ∨ auth.generation ≠ request.generation) .staleIdentity
    refuse (fenced catalog request.combination = true) .rejected
    match catalog.runtimeAuthorities.lookup request.provider with
    | none => .error .capabilityUnavailable
    | some record =>
      let chain := (formats.authority record.material).chain
      let receipt ← record.issueReceipt formats (nowMs / 1000)
      refuse (receipt.generation ≠ request.generation ∨ receipt.expiresAtUnixMs ≤ nowMs) .rejected
      let response := bootstrapResponse env formats request chain receipt
      rejecting (response.validateFor formats chain request)
      return (.runtimeBootstrap response, { catalog with
        runtimeBootstraps := catalog.runtimeBootstraps.insert request.requestNonceSha256
          (bootstrapRecord env request response.expiresAtUnixMs) })

variable {env formats} in
/-- What a bootstrap that passes every check found, and what it adds. -/
theorem bootstrapBuild_ok {nowMs : Nat} {request : RuntimeBootstrapRequest}
    {catalog built : Catalog}
    {result : ControlResult}
    (h : bootstrapBuild env formats nowMs request catalog = .ok (result, built)) :
    ∃ auth response, result = .runtimeBootstrap response ∧
      catalog.auth.lookup response.receipt.provider = some auth ∧ auth.status = .active ∧
      auth.generation = response.receipt.generation ∧
      fenced catalog request.combination = false ∧
      built = { catalog with
        runtimeBootstraps := catalog.runtimeBootstraps.insert request.requestNonceSha256
          (bootstrapRecord env request response.expiresAtUnixMs) } := by
  unfold bootstrapBuild at h
  cases enrolled : catalog.auth.lookup request.provider with
  | none => simp [enrolled] at h
  | some auth =>
    cases known : catalog.runtimeAuthorities.lookup request.provider with
    | none => simp [enrolled, known, bind_eq_ok] at h
    | some record =>
      simp only [enrolled, known, bind_eq_ok, pure_eq_ok, refuse_eq_ok, not_or, not_not,
        rejecting_eq_ok, RuntimeBootstrapResponse.validateFor] at h
      obtain ⟨_, ⟨active, current⟩, _, unfenced, receipt, _, _, ⟨shown, _⟩, _, ⟨_, _, checks⟩, h⟩ :=
        h
      obtain ⟨_, _, _, _, _, _, _, _, _, provider, _⟩ := checks
      cases h
      refine ⟨auth, _, rfl, ?_, active, current.trans shown.symm, ?_, rfl⟩
      · rw [provider]
        exact enrolled
      · simpa using unfenced

def runtimeBootstrap (moment : Moment) (nowMs : Nat) (request : RuntimeBootstrapRequest)
    (store : CatalogStore) : Except BackendFailure BoundControlResult × CatalogStore :=
  if isOk request.validate then
    mutation env moment (.runtimeBootstrap request) (bootstrapKey request.requestNonceSha256)
      (.runtimeBootstrap request.provider) (bootstrapBuild env formats nowMs request) store
  else (.error .rejected, store)

def RuntimeBootstrapCancelRequest.validate (request : RuntimeBootstrapCancelRequest) :
    Except CertificateError Unit :=
  refuse (request.schemaVersion ≠ 1 ∨ request.provider = "" ∨ request.provider.utf8ByteSize > 64 ∨
    request.generation = 0 ∨ isDigest request.controlSessionSha256 = false ∨
    isDigest request.cancellationBindingSha256 = false ∨ request.idempotencyKey = "" ∨
    request.idempotencyKey.utf8ByteSize > 128) .invalidReceiptRequest

def RuntimeBootstrapCancelRequest.names (request : RuntimeBootstrapCancelRequest)
    (record : RuntimeBootstrapRecord) : Bool :=
  record.provider = request.provider ∧ record.generation = request.generation ∧
    record.controlSessionSha256 = request.controlSessionSha256 ∧
    record.cancellationBindingSha256 = request.cancellationBindingSha256

/-- The entry with the smaller key. -/
def earlier {α : Type} (best : Option (String × α)) (entry : (_ : String) × α) :
    Option (String × α) :=
  match best with
  | none => some (entry.1, entry.2)
  | some (key, value) =>
    if precedes entry.1 key then some (entry.1, entry.2) else some (key, value)

/-- The first value in key order that satisfies the predicate, with its key. -/
def findFirst {α : Type} (table : Table α) (p : α → Bool) : Option (String × α) :=
  (table.entries.filter fun entry => p entry.2).foldl earlier none

theorem earlier_foldl_mem {α : Type} {entries : List ((_ : String) × α)}
    {best : Option (String × α)} {found : String × α}
    (h : entries.foldl earlier best = some found) :
    best = some found ∨ ⟨found.1, found.2⟩ ∈ entries := by
  induction entries generalizing best with
  | nil => exact .inl h
  | cons entry rest ih =>
    rcases ih h with chosen | later
    · have cases_of : earlier best entry = best ∨ earlier best entry = some (entry.1, entry.2) := by
        unfold earlier
        cases best with
        | none => exact .inr rfl
        | some value =>
          dsimp only
          split
          · exact .inr rfl
          · exact .inl rfl
      rcases cases_of with kept | replaced
      · exact .inl (kept ▸ chosen)
      · rw [replaced, Option.some.injEq] at chosen
        subst chosen
        exact .inr (List.mem_cons_self ..)
    · exact .inr (List.mem_cons_of_mem _ later)

theorem findFirst_some {α : Type} {table : Table α} {p : α → Bool} {key : String} {value : α}
    (h : findFirst table p = some (key, value)) :
    table.lookup key = some value ∧ p value = true := by
  rcases earlier_foldl_mem h with none_found | found
  · cases none_found
  · rw [List.mem_filter] at found
    exact ⟨AList.mem_lookup_iff.mpr found.1, found.2⟩

def cancelBuild (request : RuntimeBootstrapCancelRequest) (catalog : Catalog) :
    Except BackendFailure (ControlResult × Catalog) :=
  match findFirst catalog.runtimeBootstraps request.names with
  | none => .error .staleIdentity
  | some (key, record) =>
    .ok (.acknowledged true, { catalog with
      runtimeBootstraps := catalog.runtimeBootstraps.insert key { record with revoked := true }
      mutations := catalog.mutations.erase (env.sha256 (bootstrapKey record.requestNonceSha256)) })

variable {env} in
theorem cancelBuild_ok (h : cancelBuild env request catalog = .ok (result, built)) :
    ∃ nonce record, findFirst catalog.runtimeBootstraps request.names = some (nonce, record) ∧
      built.auth = catalog.auth ∧ built.runtimeBootstraps =
        catalog.runtimeBootstraps.insert nonce { record with revoked := true } := by
  unfold cancelBuild at h
  split at h
  case h_1 => cases h
  case h_2 nonce record named =>
    cases h
    exact ⟨nonce, record, named, rfl, rfl⟩

def runtimeBootstrapCancel (moment : Moment) (request : RuntimeBootstrapCancelRequest)
    (store : CatalogStore) : Except BackendFailure BoundControlResult × CatalogStore :=
  if isOk request.validate then
    mutation env moment (.runtimeBootstrapCancel request) request.idempotencyKey
      (.runtimeBootstrapCancel request.provider) (cancelBuild env request) store
  else (.error .rejected, store)

end Bootstraps

/-! ## Enrollments -/

def enrollBuild (provider endpointIdentitySha256 credentialLocatorSha256 : String)
    (catalog : Catalog) : Except BackendFailure (ControlResult × Catalog) :=
  match catalog.auth.lookup provider with
  | some existing => do
    refuse (existing.endpointIdentitySha256 ≠ endpointIdentitySha256 ∨
      existing.credentialLocatorSha256 ≠ credentialLocatorSha256) .rejected
    return (.acknowledged true, catalog)
  | none =>
    let record : AuthRecord :=
      ⟨provider, endpointIdentitySha256, credentialLocatorSha256, 1, .active⟩
    .ok (.acknowledged true, { catalog with auth := catalog.auth.insert provider record })

variable {catalog built : Catalog} {result : ControlResult} {provider : String}

/-- An enrollment adds a provider and leaves a known one as it is. -/
theorem enrollBuild_ok (h : enrollBuild provider endpoint locator catalog = .ok (result, built)) :
    built = catalog ∨ (catalog.auth.lookup provider = none ∧ ∃ record, built =
      { catalog with auth := catalog.auth.insert provider record }) := by
  unfold enrollBuild at h
  split at h
  case h_1 existing _ =>
    obtain ⟨_, _, same⟩ := bind_eq_ok.mp h
    cases same
    exact .inl rfl
  case h_2 unknown =>
    cases h
    exact .inr ⟨unknown, _, rfl⟩

/-- The helper program resolves the credential first; `helper` is how that ends. -/
def helperBuild (helper : Except BackendFailure Unit) (provider : String)
    (profile : ProviderProfile) (catalog : Catalog) :
    Except BackendFailure (ControlResult × Catalog) := do
  helper
  match profile.credentialReferenceSha256 with
  | none => .error .rejected
  | some credential =>
    let generation := match catalog.auth.lookup provider with
      | none => 1
      | some record => saturatingAdd record.generation 1
    let record : AuthRecord :=
      ⟨provider, profile.endpointIdentitySha256, credential, generation, .active⟩
    return (.authStatus ⟨provider, profile.endpointIdentitySha256, credential, generation, .active⟩,
      { catalog with auth := catalog.auth.insert provider record })

theorem helperBuild_ok (h : helperBuild helper provider profile catalog = .ok (result, built)) :
    ∃ record, built = { catalog with auth := catalog.auth.insert provider record } ∧
      ∀ old, catalog.auth.lookup provider = some old →
        record.generation = saturatingAdd old.generation 1 := by
  obtain ⟨_, _, resolved⟩ := bind_eq_ok.mp h
  split at resolved
  case h_1 => cases resolved
  case h_2 credential _ =>
    cases resolved
    refine ⟨_, rfl, fun old enrolled => ?_⟩
    rw [enrolled]

def rotateBuild (provider credentialLocatorSha256 : String) (catalog : Catalog) :
    Except BackendFailure (ControlResult × Catalog) :=
  match catalog.auth.lookup provider with
  | none => .error .rejected
  | some record => do
    refuse (record.generation + 1 ≥ 2 ^ 64) .rejected
    let rotated : AuthRecord :=
      { record with
        credentialLocatorSha256 := credentialLocatorSha256
        generation := record.generation + 1
        status := .active }
    return (.acknowledged true, { catalog with auth := catalog.auth.insert provider rotated })

theorem rotateBuild_ok (h : rotateBuild provider locator catalog = .ok (result, built)) :
    ∃ old record, catalog.auth.lookup provider = some old ∧
      built = { catalog with auth := catalog.auth.insert provider record } ∧
      record.generation = old.generation + 1 := by
  unfold rotateBuild at h
  split at h
  case h_1 => cases h
  case h_2 old enrolled =>
    obtain ⟨_, _, rotated⟩ := bind_eq_ok.mp h
    cases rotated
    exact ⟨old, _, enrolled, rfl, rfl⟩

def revokeBuild (provider : String) (catalog : Catalog) :
    Except BackendFailure (ControlResult × Catalog) :=
  match catalog.auth.lookup provider with
  | none => .error .rejected
  | some record =>
    let revoked : AuthRecord := { record with status := .revoked }
    .ok (.acknowledged true, { catalog with auth := catalog.auth.insert provider revoked })

theorem revokeBuild_ok (h : revokeBuild provider catalog = .ok (result, built)) :
    ∃ old, catalog.auth.lookup provider = some old ∧ built =
      { catalog with auth := catalog.auth.insert provider { old with status := .revoked } } := by
  unfold revokeBuild at h
  split at h
  case h_1 => cases h
  case h_2 old enrolled =>
    cases h
    exact ⟨old, enrolled, rfl⟩

end AgentSystemsBenchmark.Control
