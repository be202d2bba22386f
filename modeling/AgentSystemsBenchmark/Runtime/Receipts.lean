import AgentSystemsBenchmark.Control.Bootstrap
import AgentSystemsBenchmark.Library.Addresses

/-!
# Control receipts at the runtime

Control issues a receipt for an enrolled credential; the runtime checks it
against its own copy of the authenticated chain, rebuilds the nonce and enters
the record into a ledger that accepts each record once. The two sides carry
separate notions of a public target, a digest and the nonce's preimage.

The reading and printing of socket addresses, the hash function and the
serialized form of a record are parameters.
-/

namespace AgentSystemsBenchmark.LiveService

open Addresses Control Effects Framing Numerals List

/-- The issuer's notion of a public target. -/
def validPublicTarget (parse : String → Option SocketAddr) (value : String) : Bool :=
  match parse value with
  | none => false
  | some (.v4 ip _) => !ip.isLoopback && !ip.isPrivate && !ip.isLinkLocal && !ip.isUnspecified
  | some (.v6 ip _ _ _) => !ip.isLoopback && !ip.isUnspecified && !ip.isUniqueLocal

/-- The runtime accepts lowercase digests only. -/
def validDigest (value : String) : Bool :=
  value.utf8ByteSize == 64 &&
    (bytes value).all fun byte => isAsciiHexdigit byte && !isAsciiUppercase byte

/-- The runtime's notion of a public address. -/
def isPublicIpv4 (ip : Ipv4Addr) : Bool :=
  !ip.isUnspecified && !ip.isLoopback && !ip.isPrivate && !ip.isLinkLocal && !ip.isMulticast &&
    !ip.isBroadcast

def isPublicAddress : IpAddr → Bool
  | .v4 ip => isPublicIpv4 ip
  | .v6 ip =>
    ip.toIpv4.all isPublicIpv4 && !ip.isUnspecified && !ip.isLoopback && !ip.isUniqueLocal &&
      !ip.isUnicastLinkLocal && !ip.isMulticast

/-- A destination a provider connection may have. -/
def validEgressTarget (address : SocketAddr) : Bool :=
  address.port != 0 && isPublicAddress address.ip

structure LiveProviderControlClaims where
  provider : String
  endpointIdentitySha256 : String
  credentialRefSha256 : String
  generation : Nat
  target : SocketAddr
  toolBundleSha256 : String
  leaseRootSha256 : String
  relayRootSha256 : String
  deriving DecidableEq

structure LiveProviderControlAttestation where
  chainSha256 : String
  claims : LiveProviderControlClaims
  deriving DecidableEq

structure LiveProviderEnrollmentRecord where
  schemaVersion : Nat
  chainSha256 : String
  provider : String
  endpointIdentitySha256 : String
  credentialRefSha256 : String
  generation : Nat
  target : SocketAddr
  toolBundleSha256 : String
  leaseRootSha256 : String
  relayRootSha256 : String
  issuedAtUnixMs : Nat
  expiresAtUnixMs : Nat
  nonceSha256 : String
  deriving DecidableEq

open LiveProviderEnrollmentRecord

inductive EnrollmentRecordError where
  | tooLarge | malformed | unsupportedSchema | freshness | attestationMismatch | invalidIdentity
  | replay
  deriving DecidableEq

def maxEnrollmentRecordBytes : Nat := 16 * 1024
def enrollmentRecordSchemaVersion : Nat := 1

/-- The functions outside the two crates, and what their documentation says of them. -/
structure ReceiptFormats extends AuthorityFormats where
  parseAddress : String → Option SocketAddr
  addressText : SocketAddr → String
  encodeRecord : LiveProviderEnrollmentRecord → List UInt8
  reads : ∀ value, validPublicTarget value = LiveService.validPublicTarget parseAddress value
  hexadecimal : ∀ data, validDigest (tools.sha256 data) = true

open ReceiptFormats

/-- Bounded claims for the runtime handoff. -/
def LiveProviderControlClaims.new (claims : LiveProviderControlClaims) :
    Except EnrollmentRecordError LiveProviderControlClaims := do
  refuse (claims.provider = "" ∨ claims.generation = 0 ∨
    validDigest claims.endpointIdentitySha256 = false ∨
    validDigest claims.credentialRefSha256 = false ∨
    validDigest claims.toolBundleSha256 = false ∨ validDigest claims.leaseRootSha256 = false ∨
    validDigest claims.relayRootSha256 = false ∨
    validEgressTarget claims.target = false) .invalidIdentity
  pure claims

/-- Bind claims to a chain that control has authenticated. -/
def LiveProviderControlAttestation.fromControl (chain : IssuedCertificateChain)
    (claims : LiveProviderControlClaims) :
    Except EnrollmentRecordError LiveProviderControlAttestation := do
  refuse (chain.identity.endpointIdentitySha256 ≠ claims.endpointIdentitySha256 ∨
    chain.identity.generation ≠ claims.generation ∨
    chain.identity.role ∉ ["operator", "administrator"]) .attestationMismatch
  pure ⟨chain.chainSha256, claims⟩

section Runtime
variable (formats : ReceiptFormats)

/-- The bytes both sides hash into the nonce. -/
def noncePreimage (chainSha256 provider credentialRefSha256 : String) (generation : Nat)
    (target toolBundleSha256 leaseRootSha256 relayRootSha256 : String) : List UInt8 :=
  bytes (chainSha256 ++ provider ++ credentialRefSha256) ++ leBytes 8 generation ++
    bytes (target ++ toolBundleSha256 ++ leaseRootSha256 ++ relayRootSha256)

def expectedNonce (attestation : LiveProviderControlAttestation) : String :=
  let claims := attestation.claims
  formats.tools.sha256 (noncePreimage attestation.chainSha256 claims.provider
    claims.credentialRefSha256 claims.generation (formats.addressText claims.target)
    claims.toolBundleSha256 claims.leaseRootSha256 claims.relayRootSha256)

namespace LiveProviderEnrollmentRecord

def fromAttestation (attestation : LiveProviderControlAttestation)
    (issuedAtUnixMs expiresAtUnixMs : Nat) : LiveProviderEnrollmentRecord where
  schemaVersion := enrollmentRecordSchemaVersion
  chainSha256 := attestation.chainSha256
  provider := attestation.claims.provider
  endpointIdentitySha256 := attestation.claims.endpointIdentitySha256
  credentialRefSha256 := attestation.claims.credentialRefSha256
  generation := attestation.claims.generation
  target := attestation.claims.target
  toolBundleSha256 := attestation.claims.toolBundleSha256
  leaseRootSha256 := attestation.claims.leaseRootSha256
  relayRootSha256 := attestation.claims.relayRootSha256
  issuedAtUnixMs := issuedAtUnixMs
  expiresAtUnixMs := expiresAtUnixMs
  nonceSha256 := expectedNonce formats attestation

def validateAgainst (record : LiveProviderEnrollmentRecord)
    (attestation : LiveProviderControlAttestation) (nowUnixMs : Nat) :
    Except EnrollmentRecordError Unit := do
  refuse (record.schemaVersion ≠ enrollmentRecordSchemaVersion) .unsupportedSchema
  refuse (record.issuedAtUnixMs > record.expiresAtUnixMs ∨ nowUnixMs < record.issuedAtUnixMs ∨
    nowUnixMs > record.expiresAtUnixMs ∨
    record.expiresAtUnixMs - record.issuedAtUnixMs > maxReceiptMs) .freshness
  let claims := attestation.claims
  refuse (record.chainSha256 ≠ attestation.chainSha256 ∨ record.provider ≠ claims.provider ∨
    record.endpointIdentitySha256 ≠ claims.endpointIdentitySha256 ∨
    record.credentialRefSha256 ≠ claims.credentialRefSha256 ∨
    record.generation ≠ claims.generation ∨ record.target ≠ claims.target ∨
    record.toolBundleSha256 ≠ claims.toolBundleSha256 ∨
    record.leaseRootSha256 ≠ claims.leaseRootSha256 ∨
    record.relayRootSha256 ≠ claims.relayRootSha256) .attestationMismatch
  refuse (validDigest record.chainSha256 = false ∨
    validDigest record.endpointIdentitySha256 = false ∨
    validDigest record.credentialRefSha256 = false ∨
    validDigest record.toolBundleSha256 = false ∨ validDigest record.leaseRootSha256 = false ∨
    validDigest record.relayRootSha256 = false ∨ validDigest record.nonceSha256 = false ∨
    record.provider = "" ∨ record.generation = 0) .invalidIdentity
  refuse (record.nonceSha256 ≠ expectedNonce formats attestation) .attestationMismatch

/-- Encode the record with a hard byte ceiling. -/
def encode (record : LiveProviderEnrollmentRecord) :
    Except EnrollmentRecordError (List UInt8) := do
  refuse ((formats.encodeRecord record).length > maxEnrollmentRecordBytes) .tooLarge
  pure (formats.encodeRecord record)

def idSha256 (record : LiveProviderEnrollmentRecord) :
    Except EnrollmentRecordError String := do
  let encoded ← record.encode formats
  pure (formats.tools.sha256 encoded)

end LiveProviderEnrollmentRecord

/-- The digests of the records a runtime has consumed. -/
structure LiveProviderEnrollmentLedger where
  consumed : List String
  deriving DecidableEq

/-- Validate and consume one record exactly once. -/
def LiveProviderEnrollmentLedger.consume (ledger : LiveProviderEnrollmentLedger)
    (record : LiveProviderEnrollmentRecord) (attestation : LiveProviderControlAttestation)
    (nowUnixMs : Nat) : Except EnrollmentRecordError LiveProviderEnrollmentLedger := do
  record.validateAgainst formats attestation nowUnixMs
  let id ← record.idSha256 formats
  refuse (id ∈ ledger.consumed) .replay
  pure ⟨id :: ledger.consumed⟩

/-- The claims a receipt makes once its target has been read. -/
def claimsOf (receipt : RuntimeEnrollmentReceipt) (target : SocketAddr) :
    LiveProviderControlClaims where
  provider := receipt.provider
  endpointIdentitySha256 := receipt.endpointIdentitySha256
  credentialRefSha256 := receipt.credentialRefSha256
  generation := receipt.generation
  target := target
  toolBundleSha256 := receipt.toolBundleSha256
  leaseRootSha256 := receipt.leaseRootSha256
  relayRootSha256 := receipt.relayRootSha256

/-- Check a control receipt against the authenticated chain and consume it. -/
def ingestControlReceipt (ledger : LiveProviderEnrollmentLedger)
    (receipt : RuntimeEnrollmentReceipt)
    (chain : IssuedCertificateChain) (nowUnixMs : Nat) :
    Except EnrollmentRecordError (LiveProviderEnrollmentRecord × LiveProviderEnrollmentLedger) := do
  refuse (receipt.schemaVersion ≠ enrollmentRecordSchemaVersion ∨
    receipt.chainSha256 ≠ chain.chainSha256) .attestationMismatch
  match formats.parseAddress receipt.target with
  | none => .error .invalidIdentity
  | some target =>
    refuse (receipt.endpointIdentitySha256 ≠ chain.identity.endpointIdentitySha256 ∨
      receipt.generation ≠ chain.identity.generation) .attestationMismatch
    let claims ← LiveProviderControlClaims.new (claimsOf receipt target)
    let attestation ← LiveProviderControlAttestation.fromControl chain claims
    let record := fromAttestation formats attestation
      receipt.issuedAtUnixMs receipt.expiresAtUnixMs
    refuse (record.nonceSha256 ≠ receipt.nonceSha256) .attestationMismatch
    let ledger ← ledger.consume formats record attestation nowUnixMs
    pure (record, ledger)

end Runtime

/-! ## Receipts that control issues -/

section Issued
variable {formats : ReceiptFormats}

/-- What control writes into a receipt. -/
structure Carries (formats : ReceiptFormats) (chain : IssuedCertificateChain)
    (enrollment : RuntimeAuthorityEnrollment) (receipt : RuntimeEnrollmentReceipt) : Prop where
  schemaVersion : receipt.schemaVersion = 1
  chainSha256 : receipt.chainSha256 = chain.chainSha256
  provider : receipt.provider = enrollment.provider
  named : enrollment.provider ≠ ""
  endpoint : receipt.endpointIdentitySha256 = chain.identity.endpointIdentitySha256
  credential : receipt.credentialRefSha256 = enrollment.credentialRefSha256
  generation : receipt.generation = chain.identity.generation
  target : receipt.target = enrollment.target
  tool : receipt.toolBundleSha256 = enrollment.toolBundleSha256
  lease : receipt.leaseRootSha256 = enrollment.leaseRootSha256
  relay : receipt.relayRootSha256 = enrollment.relayRootSha256
  ordered : receipt.issuedAtUnixMs ≤ receipt.expiresAtUnixMs
  bounded : receipt.expiresAtUnixMs - receipt.issuedAtUnixMs ≤ maxReceiptMs
  nonce : receipt.nonceSha256 = formats.tools.sha256 (noncePreimage chain.chainSha256
    enrollment.provider enrollment.credentialRefSha256 chain.identity.generation enrollment.target
    enrollment.toolBundleSha256 enrollment.leaseRootSha256 enrollment.relayRootSha256)

variable {chain : IssuedCertificateChain} {enrollment : RuntimeAuthorityEnrollment}
  {receipt : RuntimeEnrollmentReceipt}

theorem issueRuntimeReceipt_carries
    (h : chain.issueRuntimeReceipt formats.toAuthorityFormats enrollment = .ok receipt) :
    Carries formats chain enrollment receipt := by
  obtain ⟨⟨⟩, checked, issued⟩ := bind_eq_ok.mp h
  simp only [refuse_eq_ok, not_or] at checked
  obtain ⟨named, -, -, -, -, -, ordered, bounded⟩ := checked
  cases issued
  exact ⟨rfl, rfl, rfl, named, rfl, rfl, rfl, rfl, rfl, rfl, rfl, Nat.le_of_not_lt ordered,
    Nat.le_of_not_lt bounded, rfl⟩

theorem issueReceipt_carries
    (h : enrollment.issueReceipt formats.toAuthorityFormats chain = .ok receipt) :
    Carries formats chain enrollment receipt := by
  obtain ⟨⟨⟩, -, h⟩ := bind_eq_ok.mp h
  obtain ⟨⟨⟩, -, h⟩ := bind_eq_ok.mp h
  exact issueRuntimeReceipt_carries h

/-- A validated chain has a positive generation and a digest the runtime accepts. -/
theorem validated_chain
    (h : validateMetadata formats.tools authority identities pairing now = .ok chain) :
    chain.identity.generation ≠ 0 ∧ validDigest chain.chainSha256 = true := by
  simp only [validateMetadata, bind_eq_ok] at h
  obtain ⟨_, _, _, _, _, links, h⟩ := h
  cases identities with
  | nil => cases h
  | cons leaf rest =>
    simp only [bind_eq_ok, pure_eq_ok] at h
    obtain ⟨_, _, rfl⟩ := h
    rw [checkLinks, bind_eq_ok] at links
    obtain ⟨⟨⟩, first, _⟩ := links
    simp only [checkCertificateIdentity, bind_eq_ok, refuse_eq_ok] at first
    obtain ⟨_, _, _, _, _, _, _, _, _, _, _, _, _, positive, _⟩ := first
    exact ⟨fun zero => positive (.inl zero), formats.hexadecimal _⟩

/-- The record a receipt stands for once its target has been read. -/
def recordOf (receipt : RuntimeEnrollmentReceipt) (target : SocketAddr) :
    LiveProviderEnrollmentRecord where
  schemaVersion := enrollmentRecordSchemaVersion
  chainSha256 := receipt.chainSha256
  provider := receipt.provider
  endpointIdentitySha256 := receipt.endpointIdentitySha256
  credentialRefSha256 := receipt.credentialRefSha256
  generation := receipt.generation
  target := target
  toolBundleSha256 := receipt.toolBundleSha256
  leaseRootSha256 := receipt.leaseRootSha256
  relayRootSha256 := receipt.relayRootSha256
  issuedAtUnixMs := receipt.issuedAtUnixMs
  expiresAtUnixMs := receipt.expiresAtUnixMs
  nonceSha256 := receipt.nonceSha256

/-- The enrollment is spelled the way the runtime reads it. -/
structure Spelled (formats : ReceiptFormats) (chain : IssuedCertificateChain)
    (enrollment : RuntimeAuthorityEnrollment) (target : SocketAddr) : Prop where
  endpoint : validDigest chain.identity.endpointIdentitySha256 = true
  credential : validDigest enrollment.credentialRefSha256 = true
  tool : validDigest enrollment.toolBundleSha256 = true
  lease : validDigest enrollment.leaseRootSha256 = true
  relay : validDigest enrollment.relayRootSha256 = true
  parsed : formats.parseAddress enrollment.target = some target
  canonical : formats.addressText target = enrollment.target
  reachable : validEgressTarget target = true

/-- The bytes of a receipt's nonce, for one spelling of its target. -/
def nonceBytes (receipt : RuntimeEnrollmentReceipt) (target : String) : List UInt8 :=
  noncePreimage receipt.chainSha256 receipt.provider receipt.credentialRefSha256
    receipt.generation target receipt.toolBundleSha256 receipt.leaseRootSha256
    receipt.relayRootSha256

/-- The bytes the runtime hashes for a receipt whose target it can read. -/
def noncePreimageOf (formats : ReceiptFormats) (receipt : RuntimeEnrollmentReceipt) : List UInt8 :=
  match formats.parseAddress receipt.target with
  | none => []
  | some target => nonceBytes receipt (formats.addressText target)

/-- What the runtime checks of a receipt. -/
structure Accepted (formats : ReceiptFormats) (ledger : LiveProviderEnrollmentLedger)
    (receipt : RuntimeEnrollmentReceipt) (chain : IssuedCertificateChain) (now : Nat)
    (target : SocketAddr) : Prop where
  schemaVersion : receipt.schemaVersion = enrollmentRecordSchemaVersion
  chainSha256 : receipt.chainSha256 = chain.chainSha256
  parsed : formats.parseAddress receipt.target = some target
  endpoint : receipt.endpointIdentitySha256 = chain.identity.endpointIdentitySha256
  generation : receipt.generation = chain.identity.generation
  named : receipt.provider ≠ ""
  positive : receipt.generation ≠ 0
  chainDigest : validDigest receipt.chainSha256 = true
  endpointDigest : validDigest receipt.endpointIdentitySha256 = true
  credential : validDigest receipt.credentialRefSha256 = true
  tool : validDigest receipt.toolBundleSha256 = true
  lease : validDigest receipt.leaseRootSha256 = true
  relay : validDigest receipt.relayRootSha256 = true
  reachable : validEgressTarget target = true
  role : chain.identity.role ∈ ["operator", "administrator"]
  nonce : receipt.nonceSha256 =
    formats.tools.sha256 (nonceBytes receipt (formats.addressText target))
  started : receipt.issuedAtUnixMs ≤ now
  current : now ≤ receipt.expiresAtUnixMs
  bounded : receipt.expiresAtUnixMs - receipt.issuedAtUnixMs ≤ maxReceiptMs
  small : (formats.encodeRecord (recordOf receipt target)).length ≤ maxEnrollmentRecordBytes
  fresh : formats.tools.sha256 (formats.encodeRecord (recordOf receipt target)) ∉ ledger.consumed

section Ingest
variable {ledger : LiveProviderEnrollmentLedger} {now : Nat} {target : SocketAddr}

theorem expectedNonce_claimsOf (formats : ReceiptFormats) (target : SocketAddr)
    (bound : receipt.chainSha256 = chain.chainSha256) :
    expectedNonce formats ⟨chain.chainSha256, claimsOf receipt target⟩ =
      formats.tools.sha256 (nonceBytes receipt (formats.addressText target)) := by
  rw [← bound]
  rfl

/-- A receipt with the nonce the runtime expects stands for the record the runtime builds. -/
theorem fromAttestation_claimsOf (bound : receipt.chainSha256 = chain.chainSha256)
    (nonce : receipt.nonceSha256 =
      formats.tools.sha256 (nonceBytes receipt (formats.addressText target))) :
    fromAttestation formats ⟨chain.chainSha256, claimsOf receipt target⟩
      receipt.issuedAtUnixMs receipt.expiresAtUnixMs = recordOf receipt target := by
  rw [fromAttestation, expectedNonce_claimsOf formats target bound, ← nonce, ← bound]
  rfl

theorem ingest_accepted (h : ingestControlReceipt formats ledger receipt chain now = .ok outcome) :
    ∃ target, Accepted formats ledger receipt chain now target := by
  obtain ⟨shaped, h⟩ := guard_eq_ok.mp h
  cases parsed : formats.parseAddress receipt.target with
  | none => rw [parsed] at h; cases h
  | some target =>
    rw [parsed] at h
    obtain ⟨bound, h⟩ := guard_eq_ok.mp h
    obtain ⟨claims, made, h⟩ := bind_eq_ok.mp h
    obtain ⟨digests, made⟩ := guard_eq_ok.mp made
    cases made
    obtain ⟨attestation, attested, h⟩ := bind_eq_ok.mp h
    obtain ⟨granted, attested⟩ := guard_eq_ok.mp attested
    cases attested
    obtain ⟨same, h⟩ := guard_eq_ok.mp h
    obtain ⟨after, consumed, -⟩ := bind_eq_ok.mp h
    simp only [not_or, not_not, Bool.not_eq_false] at shaped bound digests granted
    obtain ⟨named, positive, endpoint, credential, tool, lease, relay, reachable⟩ := digests
    have nonce := (not_not.mp same).symm.trans (expectedNonce_claimsOf formats target shaped.2)
    rw [fromAttestation_claimsOf shaped.2 nonce] at consumed
    obtain ⟨⟨⟩, valid, consumed⟩ := bind_eq_ok.mp consumed
    obtain ⟨id, identified, consumed⟩ := bind_eq_ok.mp consumed
    obtain ⟨encoded, small, identified⟩ := bind_eq_ok.mp identified
    obtain ⟨fits, whole⟩ := guard_eq_ok.mp small
    cases whole
    cases identified
    obtain ⟨-, valid⟩ := guard_eq_ok.mp valid
    obtain ⟨times, valid⟩ := guard_eq_ok.mp valid
    obtain ⟨-, valid⟩ := guard_eq_ok.mp valid
    obtain ⟨spelled, -⟩ := guard_eq_ok.mp valid
    simp only [not_or, Bool.not_eq_false, recordOf] at times spelled
    exact ⟨target, {
      schemaVersion := shaped.1, chainSha256 := shaped.2, parsed, endpoint := bound.1
      generation := bound.2, named, positive, chainDigest := spelled.1, endpointDigest := endpoint
      credential, tool, lease, relay, reachable, role := granted.2.2, nonce
      started := Nat.le_of_not_lt times.2.1, current := Nat.le_of_not_lt times.2.2.1
      bounded := Nat.le_of_not_lt times.2.2.2, small := Nat.le_of_not_lt fits
      fresh := (guard_eq_ok.mp consumed).1 }⟩

theorem Accepted.ingest (accepted : Accepted formats ledger receipt chain now target) :
    ingestControlReceipt formats ledger receipt chain now = .ok (recordOf receipt target,
      ⟨formats.tools.sha256 (formats.encodeRecord (recordOf receipt target)) ::
        ledger.consumed⟩) := by
  obtain ⟨schemaVersion, bound, parsed, endpoint, generation, named, positive, chainDigest,
    endpointDigest, credential, tool, lease, relay, reachable, role, nonce, started, current,
    bounded, small, fresh⟩ := accepted
  have expected := expectedNonce_claimsOf formats target bound
  have nonceDigest : validDigest receipt.nonceSha256 = true := nonce ▸ formats.hexadecimal _
  have valid : (recordOf receipt target).validateAgainst formats
      ⟨chain.chainSha256, claimsOf receipt target⟩ now = .ok () := by
    refine guard_eq_ok.mpr ⟨fun h => h rfl, guard_eq_ok.mpr ⟨?_, guard_eq_ok.mpr ⟨?_,
      guard_eq_ok.mpr ⟨?_, refuse_eq_ok.mpr (not_not.mpr (nonce.trans expected.symm))⟩⟩⟩⟩
    · simp only [recordOf]
      omega
    · simp [recordOf, claimsOf, bound]
    · simp [recordOf, chainDigest, endpointDigest, credential, tool, lease, relay, nonceDigest,
        named, positive]
  have consumed : ledger.consume formats (recordOf receipt target)
      ⟨chain.chainSha256, claimsOf receipt target⟩ now = .ok
        ⟨formats.tools.sha256 (formats.encodeRecord (recordOf receipt target)) ::
          ledger.consumed⟩ :=
    bind_eq_ok.mpr ⟨⟨⟩, valid, bind_eq_ok.mpr ⟨_, bind_eq_ok.mpr ⟨_,
      guard_eq_ok.mpr ⟨Nat.not_lt.mpr small, rfl⟩, rfl⟩, guard_eq_ok.mpr ⟨fresh, rfl⟩⟩⟩
  refine guard_eq_ok.mpr ⟨by simp [schemaVersion, bound], ?_⟩
  rw [parsed]
  refine guard_eq_ok.mpr ⟨by simp [endpoint, generation], ?_⟩
  refine bind_eq_ok.mpr ⟨_, guard_eq_ok.mpr ⟨by simp [claimsOf, named, positive,
    endpointDigest, credential, tool, lease, relay, reachable], rfl⟩, ?_⟩
  have granted := not_or.mpr ⟨not_not.mpr endpoint.symm,
    not_or.mpr ⟨not_not.mpr generation.symm, not_not.mpr role⟩⟩
  refine bind_eq_ok.mpr ⟨_, guard_eq_ok.mpr ⟨granted, rfl⟩, ?_⟩
  rw [fromAttestation_claimsOf bound nonce]
  exact guard_eq_ok.mpr ⟨not_not.mpr rfl, bind_eq_ok.mpr ⟨_, consumed, rfl⟩⟩

end Ingest

/-- A receipt that control issues is accepted at each time of its validity exactly when it is
spelled the way the runtime reads it, its record fits the transport and it has not been consumed. -/
theorem issued_receipt_accepted {authority : CertificateAuthority}
    {identities : List CertificateIdentity} {pairing : String} {validatedAt : Nat}
    {chain : IssuedCertificateChain} {enrollment : RuntimeAuthorityEnrollment}
    {receipt : RuntimeEnrollmentReceipt} {ledger : LiveProviderEnrollmentLedger} {now : Nat}
    (validated : validateMetadata formats.tools authority identities pairing validatedAt =
      .ok chain)
    (role : chain.identity.role = "operator" ∨ chain.identity.role = "administrator")
    (issued : enrollment.issueReceipt formats.toAuthorityFormats chain = .ok receipt ∨
      chain.issueRuntimeReceipt formats.toAuthorityFormats enrollment = .ok receipt)
    (collisionFree : Set.InjOn formats.tools.sha256
      {noncePreimageOf formats receipt, nonceBytes receipt receipt.target})
    (started : receipt.issuedAtUnixMs ≤ now) (current : now < receipt.expiresAtUnixMs) :
    (∃ outcome, ingestControlReceipt formats ledger receipt chain now = .ok outcome) ↔
      ∃ target, Spelled formats chain enrollment target ∧
        (formats.encodeRecord (recordOf receipt target)).length ≤ maxEnrollmentRecordBytes ∧
        formats.tools.sha256 (formats.encodeRecord (recordOf receipt target)) ∉
          ledger.consumed := by
  have carries : Carries formats chain enrollment receipt :=
    issued.elim issueReceipt_carries issueRuntimeReceipt_carries
  obtain ⟨positive, chainDigest⟩ := validated_chain validated
  have nonce : receipt.nonceSha256 = formats.tools.sha256 (nonceBytes receipt receipt.target) := by
    simp only [nonceBytes, carries.nonce, carries.chainSha256, carries.provider,
      carries.credential, carries.generation, carries.target, carries.tool, carries.lease,
      carries.relay]
  constructor
  · rintro ⟨outcome, ingested⟩
    obtain ⟨target, accepted⟩ := ingest_accepted ingested
    have printed : noncePreimageOf formats receipt =
        nonceBytes receipt (formats.addressText target) := by
      rw [noncePreimageOf, accepted.parsed]
    -- One nonce for the text as given and as printed, so the two texts are one.
    have texts : nonceBytes receipt (formats.addressText target) =
        nonceBytes receipt receipt.target := by
      rw [← printed]
      refine collisionFree (.inl rfl) (.inr rfl) ?_
      rw [printed, ← accepted.nonce, nonce]
    simp only [nonceBytes, noncePreimage, bytes_append, append_assoc, append_cancel_left_eq,
      append_cancel_right_eq] at texts
    refine ⟨target, ⟨?_, ?_, ?_, ?_, ?_, ?_, ?_, accepted.reachable⟩, accepted.small,
      accepted.fresh⟩
    · exact carries.endpoint ▸ accepted.endpointDigest
    · exact carries.credential ▸ accepted.credential
    · exact carries.tool ▸ accepted.tool
    · exact carries.lease ▸ accepted.lease
    · exact carries.relay ▸ accepted.relay
    · exact carries.target ▸ accepted.parsed
    · exact (bytes_injective texts).trans carries.target
  · rintro ⟨target, spelled, small, fresh⟩
    refine ⟨_, Accepted.ingest {
      schemaVersion := carries.schemaVersion, chainSha256 := carries.chainSha256
      parsed := carries.target ▸ spelled.parsed, endpoint := carries.endpoint
      generation := carries.generation, named := carries.provider ▸ carries.named
      positive := carries.generation ▸ positive, chainDigest := carries.chainSha256 ▸ chainDigest
      endpointDigest := carries.endpoint ▸ spelled.endpoint
      credential := carries.credential ▸ spelled.credential, tool := carries.tool ▸ spelled.tool
      lease := carries.lease ▸ spelled.lease, relay := carries.relay ▸ spelled.relay
      reachable := spelled.reachable, role := by simpa using role
      nonce := by rw [spelled.canonical, ← carries.target, nonce]
      started, current := current.le, bounded := carries.bounded, small, fresh }⟩

/-! ## What an accepted nonce determines -/

theorem validDigest_length (h : validDigest value = true) : (bytes value).length = 64 := by
  rw [validDigest, Bool.and_eq_true, beq_iff_eq] at h
  rw [length_bytes, h.1]

/-- With one target the nonce's bytes split in one way: all its other fields but the provider have
a fixed width. -/
theorem noncePreimage_inj {chain p₁ p₂ k₁ k₂ target a₁ a₂ b₁ b₂ d₁ d₂ : String} {generation : Nat}
    (hk₁ : validDigest k₁ = true) (hk₂ : validDigest k₂ = true)
    (ha₁ : validDigest a₁ = true) (ha₂ : validDigest a₂ = true)
    (hb₁ : validDigest b₁ = true) (hb₂ : validDigest b₂ = true)
    (hd₁ : validDigest d₁ = true) (hd₂ : validDigest d₂ = true)
    (h : noncePreimage chain p₁ k₁ generation target a₁ b₁ d₁ =
      noncePreimage chain p₂ k₂ generation target a₂ b₂ d₂) :
    p₁ = p₂ ∧ k₁ = k₂ ∧ a₁ = a₂ ∧ b₁ = b₂ ∧ d₁ = d₂ := by
  have widths : ∀ {x y : String}, validDigest x = true → validDigest y = true →
      (bytes x).length = (bytes y).length := fun hx hy =>
    (validDigest_length hx).trans (validDigest_length hy).symm
  simp only [noncePreimage, bytes_append, ← append_assoc] at h
  obtain ⟨h, relays⟩ := append_inj' h (widths hd₁ hd₂)
  obtain ⟨h, leases⟩ := append_inj' h (widths hb₁ hb₂)
  obtain ⟨h, bundles⟩ := append_inj' h (widths ha₁ ha₂)
  obtain ⟨h, credentials⟩ :=
    append_inj' (append_cancel_right (append_cancel_right h)) (widths hk₁ hk₂)
  have providers := append_cancel_left h
  exact ⟨bytes_injective providers, bytes_injective credentials, bytes_injective bundles,
    bytes_injective leases, bytes_injective relays⟩

/-- Two accepted receipts with one nonce are one receipt exactly when they carry the same times and
the same text for the target: the nonce covers every other field, and nothing of these. -/
theorem accepted_nonce_determines_receipt {chain : IssuedCertificateChain}
    {first second : RuntimeEnrollmentReceipt} {ledger₁ ledger₂ : LiveProviderEnrollmentLedger}
    {now₁ now₂ : Nat}
    {outcome₁ outcome₂ : LiveProviderEnrollmentRecord × LiveProviderEnrollmentLedger}
    (accepted₁ : ingestControlReceipt formats ledger₁ first chain now₁ = .ok outcome₁)
    (accepted₂ : ingestControlReceipt formats ledger₂ second chain now₂ = .ok outcome₂)
    (collisionFree : Set.InjOn formats.tools.sha256
      {noncePreimageOf formats first, noncePreimageOf formats second})
    (sameNonce : first.nonceSha256 = second.nonceSha256) :
    first = second ↔ first.issuedAtUnixMs = second.issuedAtUnixMs ∧
      first.expiresAtUnixMs = second.expiresAtUnixMs ∧ first.target = second.target := by
  constructor
  · rintro rfl
    exact ⟨rfl, rfl, rfl⟩
  rintro ⟨issue, expiry, text⟩
  obtain ⟨target₁, h₁⟩ := ingest_accepted accepted₁
  obtain ⟨target₂, h₂⟩ := ingest_accepted accepted₂
  obtain rfl : target₁ = target₂ := Option.some.inj (by rw [← h₁.parsed, ← h₂.parsed, text])
  have hashed : noncePreimageOf formats first = noncePreimageOf formats second := by
    apply collisionFree (.inl rfl) (.inr rfl)
    rw [noncePreimageOf, noncePreimageOf, h₁.parsed, h₂.parsed]
    exact h₁.nonce.symm.trans (sameNonce.trans h₂.nonce)
  rw [noncePreimageOf, noncePreimageOf, h₁.parsed, h₂.parsed] at hashed
  simp only [nonceBytes, h₁.chainSha256, h₂.chainSha256, h₁.generation, h₂.generation] at hashed
  obtain ⟨provider, credential, tool, lease, relay⟩ := noncePreimage_inj h₁.credential
    h₂.credential h₁.tool h₂.tool h₁.lease h₂.lease h₁.relay h₂.relay hashed
  have schema := h₁.schemaVersion.trans h₂.schemaVersion.symm
  have chains := h₁.chainSha256.trans h₂.chainSha256.symm
  have endpoints := h₁.endpoint.trans h₂.endpoint.symm
  have generations := h₁.generation.trans h₂.generation.symm
  cases first
  cases second
  simp only [RuntimeEnrollmentReceipt.mk.injEq]
  exact ⟨schema, chains, provider, endpoints, credential, generations, text, tool, lease, relay,
    issue, expiry, sameNonce⟩

end Issued

/-! ## A sample enrollment -/

section Sample

/-- A digest of the right shape that tells texts of even and odd length apart. -/
def sampleHash (data : List UInt8) : String :=
  if data.length % 2 = 0 then "0000000000000000000000000000000000000000000000000000000000000000"
  else "aaaaaaaaaaaaaaaaaaaaaaaaaaaaaaaaaaaaaaaaaaaaaaaaaaaaaaaaaaaaaaaa"

theorem sampleHash_hexadecimal (data : List UInt8) : validDigest (sampleHash data) = true := by
  rw [sampleHash]
  split <;> decide +kernel

def sampleAddress : SocketAddr := .v4 ⟨203, 0, 113, 10⟩ 443

def sampleParse (value : String) : Option SocketAddr :=
  if value = "203.0.113.10:443" then some sampleAddress else none

def enrollmentOf (credential : String) (expiresAtUnixMs : Nat) : RuntimeAuthorityEnrollment where
  schemaVersion := 1
  chainSha256 := canonicalChainDigest { CertificateTools.sample with sha256 := sampleHash }
    [sampleIdentity]
  provider := "openrouter"
  credentialRefSha256 := credential
  target := "203.0.113.10:443"
  toolBundleSha256 := "1111111111111111111111111111111111111111111111111111111111111111"
  leaseRootSha256 := "2222222222222222222222222222222222222222222222222222222222222222"
  relayRootSha256 := "3333333333333333333333333333333333333333333333333333333333333333"
  generation := 7
  issuedAtUnixMs := 1000
  expiresAtUnixMs := expiresAtUnixMs

def lowerCredential : String := "ffffffffffffffffffffffffffffffffffffffffffffffffffffffffffffffff"
def upperCredential : String := "FFFFFFFFFFFFFFFFFFFFFFFFFFFFFFFFFFFFFFFFFFFFFFFFFFFFFFFFFFFFFFFF"

def ReceiptFormats.sample : ReceiptFormats where
  tools := { CertificateTools.sample with sha256 := sampleHash }
  authority _ := ⟨sampleIdentity.trustAnchorSha256, sampleIdentity.endpointIdentitySha256,
    sampleEnrollment, enrollmentOf lowerCredential 2000⟩
  chainText _ := "chain"
  validPublicTarget := LiveService.validPublicTarget sampleParse
  parseAddress := sampleParse
  addressText _ := "203.0.113.10:443"
  encodeRecord record := bytes (record.provider ++ record.issuedAtUnixMs.repr ++ "-" ++
    record.expiresAtUnixMs.repr)
  reads _ := rfl
  hexadecimal := sampleHash_hexadecimal

def sampleChain : IssuedCertificateChain :=
  ⟨sampleIdentity, canonicalChainDigest sample.tools [sampleIdentity]⟩

def sampleAuthority : CertificateAuthority :=
  ⟨sampleIdentity.trustAnchorSha256, 7, none, some sampleIdentity.endpointIdentitySha256, 0⟩

theorem sampleChain_validated : validateMetadata sample.tools sampleAuthority
    [sampleIdentity] sampleIdentity.subjectSha256 1000 = .ok sampleChain := by
  decide +kernel

/-- The receipt control issues for the sample enrollment. -/
def receiptOf (credential : String) (expiresAtUnixMs : Nat) : RuntimeEnrollmentReceipt where
  schemaVersion := 1
  chainSha256 := sampleChain.chainSha256
  provider := "openrouter"
  endpointIdentitySha256 := sampleIdentity.endpointIdentitySha256
  credentialRefSha256 := credential
  generation := 7
  target := "203.0.113.10:443"
  toolBundleSha256 := (enrollmentOf credential expiresAtUnixMs).toolBundleSha256
  leaseRootSha256 := (enrollmentOf credential expiresAtUnixMs).leaseRootSha256
  relayRootSha256 := (enrollmentOf credential expiresAtUnixMs).relayRootSha256
  issuedAtUnixMs := 1000
  expiresAtUnixMs := expiresAtUnixMs
  nonceSha256 := sampleHash (noncePreimage sampleChain.chainSha256 "openrouter" credential 7
    "203.0.113.10:443" (enrollmentOf credential expiresAtUnixMs).toolBundleSha256
    (enrollmentOf credential expiresAtUnixMs).leaseRootSha256
    (enrollmentOf credential expiresAtUnixMs).relayRootSha256)

theorem sampleReceipt_issued : (enrollmentOf lowerCredential 2000).issueReceipt
    sample.toAuthorityFormats sampleChain = .ok (receiptOf lowerCredential 2000) := by
  decide +kernel

theorem issued_receipt_accepted_sample :
    (enrollmentOf lowerCredential 2000).issueReceipt sample.toAuthorityFormats
        sampleChain = .ok (receiptOf lowerCredential 2000) ∧
      ∃ outcome, ingestControlReceipt .sample ⟨[]⟩ (receiptOf lowerCredential 2000) sampleChain
        1500 = .ok outcome := by
  have spelled : Spelled .sample sampleChain (enrollmentOf lowerCredential 2000) sampleAddress :=
    ⟨by decide +kernel, by decide +kernel, by decide +kernel, by decide +kernel, by decide +kernel,
      by decide +kernel, rfl, by decide +kernel⟩
  have alone : Set.InjOn sample.tools.sha256
      {noncePreimageOf .sample (receiptOf lowerCredential 2000),
        nonceBytes (receiptOf lowerCredential 2000) (receiptOf lowerCredential 2000).target} := by
    have same : noncePreimageOf .sample (receiptOf lowerCredential 2000) =
        nonceBytes (receiptOf lowerCredential 2000) (receiptOf lowerCredential 2000).target := rfl
    rw [same, Set.pair_eq_singleton]
    exact Set.injOn_singleton _ _
  exact ⟨sampleReceipt_issued, (issued_receipt_accepted sampleChain_validated (.inl rfl)
    (.inl sampleReceipt_issued) alone (by decide) (by decide)).mpr
      ⟨sampleAddress, spelled, by decide +kernel, not_mem_nil⟩⟩

/-- Control accepts a credential digest in capitals and issues a receipt for it; the runtime refuses
that receipt at every time. -/
theorem uppercase_credential_refused :
    ∃ (chain : IssuedCertificateChain) (enrollment : RuntimeAuthorityEnrollment)
      (receipt : RuntimeEnrollmentReceipt),
      validateMetadata sample.tools sampleAuthority [sampleIdentity]
          sampleIdentity.subjectSha256 1000 = .ok chain ∧
        chain.identity.role = "operator" ∧
        enrollment.issueReceipt sample.toAuthorityFormats chain = .ok receipt ∧
        receipt.issuedAtUnixMs ≤ 1500 ∧ 1500 < receipt.expiresAtUnixMs ∧
        ingestControlReceipt .sample ⟨[]⟩ receipt chain 1500 = .error .invalidIdentity :=
  ⟨sampleChain, enrollmentOf upperCredential 2000, receiptOf upperCredential 2000,
    sampleChain_validated, rfl, by decide +kernel, by decide, by decide, by decide +kernel⟩

/-- Two accepted receipts with one nonce that differ in their expiry. -/
theorem accepted_nonce_determines_receipt_sample :
    (receiptOf lowerCredential 2000).nonceSha256 = (receiptOf lowerCredential 10000).nonceSha256 ∧
      (receiptOf lowerCredential 2000 = receiptOf lowerCredential 10000 ↔
        1000 = 1000 ∧ 2000 = 10000 ∧ "203.0.113.10:443" = "203.0.113.10:443") := by
  have first : ingestControlReceipt .sample ⟨[]⟩ (receiptOf lowerCredential 2000) sampleChain 1500 =
      .ok (recordOf (receiptOf lowerCredential 2000) sampleAddress,
        ⟨[sampleHash (bytes "openrouter1000-2000")]⟩) := by decide +kernel
  have second : ingestControlReceipt .sample ⟨[]⟩ (receiptOf lowerCredential 10000) sampleChain
      1500 = .ok (recordOf (receiptOf lowerCredential 10000) sampleAddress,
        ⟨[sampleHash (bytes "openrouter1000-10000")]⟩) := by decide +kernel
  refine ⟨rfl, accepted_nonce_determines_receipt first second ?_ rfl⟩
  have same : noncePreimageOf .sample (receiptOf lowerCredential 2000) =
      noncePreimageOf .sample (receiptOf lowerCredential 10000) := rfl
  rw [same, Set.pair_eq_singleton]
  exact Set.injOn_singleton _ _

/-- The issue and expiry times are not part of the nonce: a copy with a later expiry is accepted
after the original, by the same runtime and under the same nonce. -/
theorem extended_receipt_accepted :
    ∃ (first second : RuntimeEnrollmentReceipt)
      (outcome₁ outcome₂ : LiveProviderEnrollmentRecord × LiveProviderEnrollmentLedger),
      ingestControlReceipt .sample ⟨[]⟩ first sampleChain 1500 = .ok outcome₁ ∧
        ingestControlReceipt .sample outcome₁.2 second sampleChain 1500 = .ok outcome₂ ∧
        noncePreimageOf .sample first = noncePreimageOf .sample second ∧
        first.nonceSha256 = second.nonceSha256 ∧ first ≠ second :=
  ⟨receiptOf lowerCredential 2000, receiptOf lowerCredential 10000,
    (recordOf (receiptOf lowerCredential 2000) sampleAddress,
      ⟨[sampleHash (bytes "openrouter1000-2000")]⟩),
    (recordOf (receiptOf lowerCredential 10000) sampleAddress,
      ⟨[sampleHash (bytes "openrouter1000-10000"), sampleHash (bytes "openrouter1000-2000")]⟩),
    by decide +kernel, by decide +kernel, rfl, rfl, by decide +kernel⟩

end Sample

end AgentSystemsBenchmark.LiveService
