import AgentSystemsBenchmark.Control.Protocol
import AgentSystemsBenchmark.Library.Framing
import AgentSystemsBenchmark.Library.Runs

/-!
# Certificate authorities and the revocation of a generation

A runtime authority issues authorizations for certificate chains of one
generation and can revoke generations. A clone of an authority shares the set of
revoked generations with the original, so that set lives in a heap and an
authority holds a reference to it. Issuance has three entry points around one
metadata check; the system below interleaves their locked sections with
revocations on any clone.

Hashing, certificate parsing and path validation belong to other crates and are
parameters. Field values are unbounded numbers; only the clock arithmetic of the
validity check saturates.
-/

namespace AgentSystemsBenchmark.Control

open Effects Framing Numerals Runs List

inductive CertificateError where
  | invalidDigest | invalidChainLength | unsupportedSchema | invalidGeneration | invalidValidity
  | issuerMismatch | trustAnchorMismatch | pairingMismatch | invalidRole | invalidCertificateDer
  | trustAnchorUnavailable | certificateDigestMismatch | chainValidationFailed
  | endpointBindingUnavailable | endpointBindingMismatch | revokedGeneration | invalidReceipt
  | invalidEnrollment | invalidReceiptRequest | invalidReceiptResponse
  deriving DecidableEq

def maxChainLength : Nat := 8
def clockSkewSeconds : Nat := 300
def maxRoleBytes : Nat := 32

structure CertificateIdentity where
  schemaVersion : Nat
  subjectSha256 : String
  issuerSha256 : String
  certificateSha256 : String
  trustAnchorSha256 : String
  generation : Nat
  notBefore : Nat
  notAfter : Nat
  role : String
  endpointIdentitySha256 : String
  deriving DecidableEq

/-- An authorization of a validated chain. -/
structure IssuedCertificateChain where
  identity : CertificateIdentity
  chainSha256 : String
  deriving DecidableEq

/-- A durable chain enrollment. -/
structure AuthenticatedChainEnrollment where
  schemaVersion : Nat
  chain : List CertificateIdentity
  pairingFingerprintSha256 : String
  generation : Nat
  deriving DecidableEq

/-- A runtime authority; `revokedGenerations` refers to the set its clones share. -/
structure CertificateAuthority where
  trustAnchorSha256 : String
  generation : Nat
  trustAnchorDer : Option (List UInt8)
  endpointIdentitySha256 : Option String
  revokedGenerations : Nat
  deriving DecidableEq

/-- What the hashing and certificate crates compute. -/
structure CertificateTools where
  sha256 : List UInt8 → String
  /-- The raw subject of a certificate that parses. -/
  subject : List UInt8 → Option (List UInt8)
  /-- A verifier can be built over this trust anchor. -/
  acceptsAnchor : List UInt8 → Bool
  verifyClientCert : (anchor leaf : List UInt8) → (intermediates : List (List UInt8)) →
    (now : Nat) → Bool

/-! ## The metadata check -/

def isAsciiHexdigit (byte : UInt8) : Bool :=
  isAsciiDigit byte || (97 ≤ byte && byte ≤ 102) || (65 ≤ byte && byte ≤ 70)

/-- A digest in either case. -/
def isDigest (value : String) : Bool :=
  value.utf8ByteSize == 64 && (bytes value).all isAsciiHexdigit

def checkDigest (value : String) : Except CertificateError Unit :=
  refuse (isDigest value = false) .invalidDigest

def saturatingAdd (a b : Nat) : Nat := min (a + b) (2 ^ 64 - 1)

def checkCertificateIdentity (identity : CertificateIdentity) (now generation : Nat) :
    Except CertificateError Unit := do
  refuse (identity.schemaVersion ≠ 1) .unsupportedSchema
  checkDigest identity.subjectSha256
  checkDigest identity.issuerSha256
  checkDigest identity.certificateSha256
  checkDigest identity.trustAnchorSha256
  checkDigest identity.endpointIdentitySha256
  refuse (identity.generation = 0 ∨ identity.generation ≠ generation) .invalidGeneration
  refuse (identity.notBefore = 0 ∨ identity.notAfter = 0 ∨ identity.notBefore > identity.notAfter ∨
    saturatingAdd now clockSkewSeconds < identity.notBefore ∨
    now > saturatingAdd identity.notAfter clockSkewSeconds) .invalidValidity
  refuse (identity.role = "" ∨ identity.role.utf8ByteSize > maxRoleBytes ∨
    identity.role ∉ ["observer", "operator", "administrator"]) .invalidRole

/-- Every certificate belongs to the authority, and each one names its issuer next. -/
def checkLinks (authority : CertificateAuthority) (now : Nat) :
    List CertificateIdentity → Except CertificateError Unit
  | [] => .ok ()
  | identity :: rest => do
    checkCertificateIdentity identity now authority.generation
    refuse (identity.trustAnchorSha256 ≠ authority.trustAnchorSha256) .trustAnchorMismatch
    refuse (rest.head?.any fun issuer => identity.issuerSha256 ≠ issuer.certificateSha256)
      .issuerMismatch
    checkLinks authority now rest

def CertificateIdentity.encoded (identity : CertificateIdentity) : List UInt8 :=
  leBytes 2 identity.schemaVersion ++
    [identity.subjectSha256, identity.issuerSha256, identity.certificateSha256,
      identity.trustAnchorSha256, identity.generation.repr, identity.notBefore.repr,
      identity.notAfter.repr, identity.role, identity.endpointIdentitySha256].flatMap framed

section Issuance

variable (tools : CertificateTools)

def canonicalChainDigest (chain : List CertificateIdentity) : String :=
  tools.sha256 (chain.flatMap CertificateIdentity.encoded)

def validateMetadata (authority : CertificateAuthority) (chain : List CertificateIdentity)
    (pairingFingerprintSha256 : String) (now : Nat) :
    Except CertificateError IssuedCertificateChain := do
  checkDigest pairingFingerprintSha256
  refuse (chain = [] ∨ chain.length > maxChainLength) .invalidChainLength
  checkLinks authority now chain
  match chain with
  | [] => .error .invalidChainLength
  | leaf :: _ =>
    refuse (leaf.subjectSha256 ≠ pairingFingerprintSha256) .pairingMismatch
    pure { identity := leaf, chainSha256 := canonicalChainDigest tools chain }

/-- The two checks that stand between the metadata and a result: the generation is
not in the shared set, and the leaf is enrolled for the authority's endpoint. -/
def checkStanding (authority : CertificateAuthority) (revoked : List Nat)
    (leaf : CertificateIdentity) : Except CertificateError Unit := do
  refuse (authority.generation ∈ revoked) .revokedGeneration
  match authority.endpointIdentitySha256 with
  | none => .error .endpointBindingUnavailable
  | some endpoint => refuse (leaf.endpointIdentitySha256 ≠ endpoint) .endpointBindingMismatch

/-- Issue from metadata; `revoked` is the shared set as the call reads it. -/
def issueMetadata (authority : CertificateAuthority) (revoked : List Nat)
    (chain : List CertificateIdentity) (pairingFingerprintSha256 : String) (now : Nat) :
    Except CertificateError IssuedCertificateChain := do
  let issued ← validateMetadata tools authority chain pairingFingerprintSha256 now
  checkStanding authority revoked issued.identity
  pure issued

/-- The certificates presented are the ones the metadata names. -/
def checkCertificates (authority : CertificateAuthority) (issued : IssuedCertificateChain)
    (chain : List CertificateIdentity) (leafDer : List UInt8) (intermediatesDer : List (List UInt8))
    (now : Nat) : Except CertificateError Unit := do
  refuse (tools.sha256 leafDer ≠ issued.identity.certificateSha256) .certificateDigestMismatch
  refuse (intermediatesDer.length ≠ chain.length - 1 ∨
    ((chain.drop 1).zip intermediatesDer).any fun (identity, der) =>
      tools.sha256 der ≠ identity.certificateSha256) .certificateDigestMismatch
  match tools.subject leafDer with
  | none => .error .invalidCertificateDer
  | some subject =>
    refuse (tools.sha256 subject ≠ issued.identity.subjectSha256) .pairingMismatch
    match authority.trustAnchorDer with
    | none => .error .trustAnchorUnavailable
    | some anchor =>
      refuse (tools.acceptsAnchor anchor = false) .invalidCertificateDer
      refuse (tools.verifyClientCert anchor leafDer intermediatesDer now = false)
        .chainValidationFailed

/-- Issue from certificates; the endpoint is compared against the head of the chain. -/
def issueDer (authority : CertificateAuthority) (revoked : List Nat)
    (chain : List CertificateIdentity) (leafDer : List UInt8) (intermediatesDer : List (List UInt8))
    (pairingFingerprintSha256 : String) (now : Nat) :
    Except CertificateError IssuedCertificateChain := do
  let issued ← validateMetadata tools authority chain pairingFingerprintSha256 now
  checkStanding authority revoked (chain.headD issued.identity)
  checkCertificates tools authority issued chain leafDer intermediatesDer now
  pure issued

/-- Issue from a durable enrollment: the metadata check alone. -/
def AuthenticatedChainEnrollment.issueChain (enrollment : AuthenticatedChainEnrollment)
    (authority : CertificateAuthority) (now : Nat) :
    Except CertificateError IssuedCertificateChain := do
  refuse (enrollment.schemaVersion ≠ 1 ∨ enrollment.generation ≠ authority.generation ∨
    enrollment.chain = [] ∨ enrollment.chain.length > maxChainLength ∨
    isDigest enrollment.pairingFingerprintSha256 = false) .invalidEnrollment
  validateMetadata tools authority enrollment.chain enrollment.pairingFingerprintSha256 now

variable {tools} {authority : CertificateAuthority} {now : Nat}

theorem checkCertificateIdentity_generation
    (h : checkCertificateIdentity identity now generation = .ok ()) :
    identity.generation = generation := by
  simp only [checkCertificateIdentity, bind_eq_ok, refuse_eq_ok] at h
  obtain ⟨_, _, _, _, _, _, _, _, _, _, _, _, _, generation_ok, _⟩ := h
  by_contra differs
  exact generation_ok (.inr differs)

variable {issued : IssuedCertificateChain} {chain : List CertificateIdentity} {pairing : String}

/-- An issued chain is the presented one, and its leaf is of the authority's generation. -/
theorem validateMetadata_ok (h : validateMetadata tools authority chain pairing now = .ok issued) :
    chain.head? = some issued.identity ∧ issued.identity.generation = authority.generation := by
  simp only [validateMetadata, bind_eq_ok] at h
  obtain ⟨_, _, _, _, _, links, h⟩ := h
  cases chain with
  | nil => cases h
  | cons leaf rest =>
    simp only [bind_eq_ok, pure_eq_ok] at h
    obtain ⟨_, _, rfl⟩ := h
    rw [checkLinks, bind_eq_ok] at links
    obtain ⟨⟨⟩, first, _⟩ := links
    exact ⟨rfl, checkCertificateIdentity_generation first⟩

variable {revoked : List Nat}

theorem checkStanding_ok (h : checkStanding authority revoked leaf = .ok ()) :
    authority.generation ∉ revoked ∧
      authority.endpointIdentitySha256 = some leaf.endpointIdentitySha256 := by
  simp only [checkStanding, bind_eq_ok, refuse_eq_ok] at h
  obtain ⟨_, unrevoked, h⟩ := h
  cases bound : authority.endpointIdentitySha256 with
  | none => rw [bound] at h; cases h
  | some endpoint =>
    rw [bound] at h
    simp only [refuse_eq_ok, not_not] at h
    exact ⟨unrevoked, by rw [h]⟩

theorem issueMetadata_ok
    (h : issueMetadata tools authority revoked chain pairing now = .ok issued) :
    validateMetadata tools authority chain pairing now = .ok issued ∧
      checkStanding authority revoked issued.identity = .ok () := by
  simp only [issueMetadata, bind_eq_ok, pure_eq_ok] at h
  obtain ⟨_, valid, ⟨⟩, standing, rfl⟩ := h
  exact ⟨valid, standing⟩

theorem issueDer_ok
    (h : issueDer tools authority revoked chain leaf intermediates pairing now = .ok issued) :
    validateMetadata tools authority chain pairing now = .ok issued ∧
      checkStanding authority revoked issued.identity = .ok () := by
  simp only [issueDer, bind_eq_ok, pure_eq_ok] at h
  obtain ⟨_, valid, ⟨⟩, standing, _, _, rfl⟩ := h
  have head := (validateMetadata_ok valid).1
  rw [headD_eq_head?_getD, head] at standing
  exact ⟨valid, standing⟩

theorem issueChain_ok {enrollment : AuthenticatedChainEnrollment}
    (h : enrollment.issueChain tools authority now = .ok issued) :
    validateMetadata tools authority enrollment.chain enrollment.pairingFingerprintSha256 now =
      .ok issued := by
  simp only [AuthenticatedChainEnrollment.issueChain, bind_eq_ok] at h
  obtain ⟨_, _, valid⟩ := h
  exact valid

end Issuance

/-! ## Authorities in use -/

/-- The arguments of one issuance call. -/
inductive IssueRequest where
  | metadata (chain : List CertificateIdentity) (pairingFingerprintSha256 : String)
  | der (chain : List CertificateIdentity) (leafDer : List UInt8)
      (intermediatesDer : List (List UInt8)) (pairingFingerprintSha256 : String)
  | enrollment (record : AuthenticatedChainEnrollment)
  deriving DecidableEq

/-- The public constructors of an authority. -/
inductive Construction where
  | new (trustAnchorSha256 : String) (generation : Nat)
  | withTrustAnchor (trustAnchorDer : List UInt8) (generation : Nat)
  | withTrustAnchorAndEndpoint (trustAnchorDer : List UInt8) (generation : Nat)
      (endpointIdentitySha256 : String)
  | withTrustAnchorDigestAndEndpoint (trustAnchorSha256 : String) (generation : Nat)
      (endpointIdentitySha256 : String)
  deriving DecidableEq

section System

variable (tools : CertificateTools)

/-- Construct an authority whose set of revoked generations is at this reference. -/
def Construction.build (reference : Nat) :
    Construction → Except CertificateError CertificateAuthority
  | .new anchor generation => do
    checkDigest anchor
    refuse (generation = 0) .invalidGeneration
    pure ⟨anchor, generation, none, none, reference⟩
  | .withTrustAnchor der generation => do
    refuse (der = []) .invalidCertificateDer
    refuse (generation = 0) .invalidGeneration
    pure ⟨tools.sha256 der, generation, some der, none, reference⟩
  | .withTrustAnchorAndEndpoint der generation endpoint => do
    checkDigest endpoint
    refuse (der = []) .invalidCertificateDer
    refuse (generation = 0) .invalidGeneration
    pure ⟨tools.sha256 der, generation, some der, some endpoint, reference⟩
  | .withTrustAnchorDigestAndEndpoint anchor generation endpoint => do
    checkDigest anchor
    checkDigest endpoint
    refuse (generation = 0) .invalidGeneration
    pure ⟨anchor, generation, none, some endpoint, reference⟩

/-- A revocation that has returned: the set it went to and the generation. -/
structure Revocation where
  revokedGenerations : Nat
  generation : Nat
  deriving DecidableEq

/-- A call in progress. `answered` lists the revocations that had returned when the
call was made or, once it has read the shared set, when it read it. -/
structure Issuance where
  authority : CertificateAuthority
  request : IssueRequest
  now : Nat
  seen : Option (List Nat)
  answered : List Revocation
  deriving DecidableEq

structure Issued where
  call : Issuance
  result : Except CertificateError IssuedCertificateChain

/-- The authorities of a process, the sets they share and the calls on them. -/
structure Authorities where
  sets : Nat → List Nat
  next : Nat
  held : List CertificateAuthority
  answered : List Revocation
  calls : List Issuance
  issued : List Issued

open Authorities

def Authorities.empty : Authorities := ⟨fun _ => [], 0, [], [], [], []⟩

inductive AuthorityEvent where
  | construct (construction : Construction)
  | clone (authority : Nat)
  | revokeGeneration (authority generation : Nat)
  | call (authority : Nat) (request : IssueRequest) (now : Nat)
  /-- A call reads the shared set under its lock. -/
  | read (call : Nat)
  | finish (call : Nat)
  deriving DecidableEq

/-- The call has yet to read the shared set; an enrollment never does. -/
def Issuance.reads (call : Issuance) : Bool :=
  match call.request with
  | .enrollment _ => false
  | _ => call.seen.isNone

/-- What a call returns once it has read the shared set; an enrollment never reads it. -/
def Issuance.result (call : Issuance) : Option (Except CertificateError IssuedCertificateChain) :=
  match call.request, call.seen with
  | .enrollment record, _ => some (record.issueChain tools call.authority call.now)
  | .metadata chain pairing, some revoked =>
    some (issueMetadata tools call.authority revoked chain pairing call.now)
  | .der chain leaf intermediates pairing, some revoked =>
    some (issueDer tools call.authority revoked chain leaf intermediates pairing call.now)
  | _, none => none

namespace Authorities

def construct (s : Authorities) (construction : Construction) : Authorities :=
  match construction.build tools s.next with
  | .error _ => s
  | .ok authority => { s with
      next := s.next + 1
      sets := Function.update s.sets s.next []
      held := s.held ++ [authority] }

/-- A clone is the same value, down to the reference. -/
def clone (s : Authorities) (authority : Nat) : Authorities :=
  match s.held[authority]? with
  | none => s
  | some original => { s with held := s.held ++ [original] }

def revokeGeneration (s : Authorities) (authority generation : Nat) : Authorities :=
  match s.held[authority]? with
  | none => s
  | some held =>
    if generation = 0 then s
    else { s with
      sets := Function.update s.sets held.revokedGenerations
        (generation :: s.sets held.revokedGenerations)
      answered := ⟨held.revokedGenerations, generation⟩ :: s.answered }

def call (s : Authorities) (authority : Nat) (request : IssueRequest) (now : Nat) :
    Authorities :=
  match s.held[authority]? with
  | none => s
  | some held => { s with calls := s.calls ++ [⟨held, request, now, none, s.answered⟩] }

def read (s : Authorities) (call : Nat) : Authorities :=
  { s with calls := s.calls.modify call fun pending =>
      if pending.reads then { pending with
        seen := some (s.sets pending.authority.revokedGenerations)
        answered := s.answered }
      else pending }

def finish (s : Authorities) (call : Nat) : Authorities :=
  match s.calls[call]? with
  | none => s
  | some pending =>
    match pending.result tools with
    | none => s
    | some result => { s with
        calls := s.calls.eraseIdx call
        issued := s.issued ++ [⟨pending, result⟩] }

def step (s : Authorities) : AuthorityEvent → Authorities
  | .construct construction => s.construct tools construction
  | .clone authority => s.clone authority
  | .revokeGeneration authority generation => s.revokeGeneration authority generation
  | .call authority request now => s.call authority request now
  | .read call => s.read call
  | .finish call => s.finish tools call

/-- No chain was issued for a generation revoked before the call looked, and every
issued leaf is enrolled for the authority's endpoint. -/
def RevocationComplete (s : Authorities) : Prop :=
  ∀ entry ∈ s.issued, ∀ chain, entry.result = .ok chain →
    ⟨entry.call.authority.revokedGenerations, chain.identity.generation⟩ ∉ entry.call.answered ∧
      entry.call.authority.endpointIdentitySha256 = some chain.identity.endpointIdentitySha256

/-- A durable enrollment is presented only while the authority's generation stands, and
only with a leaf enrolled for the authority's endpoint. -/
def presentable (s : Authorities) : AuthorityEvent → Bool
  | .call authority (.enrollment record) _ =>
    s.held[authority]?.all fun held =>
      held.generation ∉ s.sets held.revokedGenerations ∧
        held.endpointIdentitySha256 = record.chain.head?.map (·.endpointIdentitySha256)
  | _ => true

end Authorities

/-- What a call may rely on when it finishes. -/
structure Issuance.Fit (call : Issuance) : Prop where
  reading : ∀ revoked, call.seen = some revoked → ∀ revocation ∈ call.answered,
    revocation.revokedGenerations = call.authority.revokedGenerations →
      revocation.generation ∈ revoked
  standing : ∀ record, call.request = .enrollment record →
    ⟨call.authority.revokedGenerations, call.authority.generation⟩ ∉ call.answered ∧
      call.authority.endpointIdentitySha256 =
        record.chain.head?.map (·.endpointIdentitySha256)

structure Authorities.Valid (s : Authorities) : Prop where
  allocated : ∀ authority ∈ s.held, authority.revokedGenerations < s.next
  recorded : ∀ revocation ∈ s.answered, revocation.revokedGenerations < s.next ∧
    revocation.generation ∈ s.sets revocation.revokedGenerations
  calls : ∀ call ∈ s.calls, call.Fit
  complete : s.RevocationComplete

variable {tools} {s : Authorities}

/-- A fit call that issues a chain issues it within the revocations it saw. -/
theorem Issuance.Fit.issues {call : Issuance} (fit : call.Fit) {chain : IssuedCertificateChain}
    (h : call.result tools = some (.ok chain)) :
    ⟨call.authority.revokedGenerations, chain.identity.generation⟩ ∉ call.answered ∧
      call.authority.endpointIdentitySha256 = some chain.identity.endpointIdentitySha256 := by
  -- the two paths that read the shared set agree from the standing check on
  have checked : ∀ revoked presented pairing, call.seen = some revoked →
      validateMetadata tools call.authority presented pairing call.now = .ok chain →
      checkStanding call.authority revoked chain.identity = .ok () →
      ⟨call.authority.revokedGenerations, chain.identity.generation⟩ ∉ call.answered ∧
        call.authority.endpointIdentitySha256 = some chain.identity.endpointIdentitySha256 := by
    intro revoked presented pairing seen valid standing
    obtain ⟨unrevoked, endpoint⟩ := checkStanding_ok standing
    rw [(validateMetadata_ok valid).2]
    exact ⟨fun answered => unrevoked (fit.reading revoked seen _ answered rfl), endpoint⟩
  unfold Issuance.result at h
  split at h
  case h_1 record request =>
    have valid := issueChain_ok (Option.some.inj h)
    obtain ⟨head, generation⟩ := validateMetadata_ok valid
    obtain ⟨unrevoked, endpoint⟩ := fit.standing record request
    rw [head] at endpoint
    rw [generation]
    exact ⟨unrevoked, endpoint⟩
  case h_2 presented pairing revoked _ seen =>
    obtain ⟨valid, standing⟩ := issueMetadata_ok (Option.some.inj h)
    exact checked revoked presented pairing seen valid standing
  case h_3 presented leaf intermediates pairing revoked _ seen =>
    obtain ⟨valid, standing⟩ := issueDer_ok (Option.some.inj h)
    exact checked revoked presented pairing seen valid standing
  case h_4 => cases h

section
variable (valid : s.Valid)
include valid

namespace Authorities

theorem Valid.construct (construction : Construction) :
    (s.construct tools construction).Valid := by
  unfold Authorities.construct
  split
  case h_1 => exact valid
  case h_2 authority built =>
    have reference : authority.revokedGenerations = s.next := by
      cases construction <;> simp only [Construction.build, bind_eq_ok, pure_eq_ok] at built <;>
        obtain ⟨_, _, built⟩ := built <;> grind
    constructor
    · intro held member
      rcases mem_append.mp member with member | member
      · exact Nat.lt_succ_of_lt (valid.allocated held member)
      · rw [mem_singleton.mp member, reference]
        exact Nat.lt_succ_self s.next
    · intro revocation member
      obtain ⟨allocated, recorded⟩ := valid.recorded revocation member
      refine ⟨Nat.lt_succ_of_lt allocated, ?_⟩
      dsimp only
      rwa [Function.update_of_ne (Nat.ne_of_lt allocated)]
    · exact valid.calls
    · exact valid.complete

theorem Valid.clone (authority : Nat) : (s.clone authority).Valid := by
  unfold Authorities.clone
  split
  case h_1 => exact valid
  case h_2 original found =>
    refine { valid with allocated := ?_ }
    intro held member
    rcases mem_append.mp member with member | member
    · exact valid.allocated held member
    · rw [mem_singleton.mp member]
      exact valid.allocated original (mem_of_getElem? found)

theorem Valid.revokeGeneration (authority generation : Nat) :
    (s.revokeGeneration authority generation).Valid := by
  unfold Authorities.revokeGeneration
  split
  case h_1 => exact valid
  case h_2 held found =>
    split_ifs with zero
    · exact valid
    have allocated := valid.allocated held (mem_of_getElem? found)
    refine { valid with recorded := ?_ }
    intro revocation member
    rcases mem_cons.mp member with rfl | member
    · refine ⟨allocated, ?_⟩
      dsimp only
      rw [Function.update_self]
      exact mem_cons_self
    · obtain ⟨known, recorded⟩ := valid.recorded revocation member
      refine ⟨known, ?_⟩
      dsimp only
      rw [Function.update_apply]
      split_ifs with same
      · rw [← same]
        exact mem_cons_of_mem _ recorded
      · exact recorded

theorem Valid.call (presentable : s.presentable (.call authority request now) = true) :
    (s.call authority request now).Valid := by
  unfold Authorities.call
  split
  case h_1 => exact valid
  case h_2 held found =>
    refine { valid with calls := ?_ }
    intro call member
    rcases mem_append.mp member with member | member
    · exact valid.calls call member
    rw [mem_singleton.mp member]
    constructor
    · rintro revoked ⟨⟩
    · rintro record rfl
      simp only [Authorities.presentable, found, Option.all_some, decide_eq_true_eq] at presentable
      obtain ⟨unrevoked, endpoint⟩ := presentable
      exact ⟨fun answered => unrevoked (valid.recorded _ answered).2, endpoint⟩

theorem Valid.read (call : Nat) : (s.read call).Valid := by
  refine { valid with calls := ?_ }
  intro pending member
  obtain ⟨i, found⟩ := mem_iff_getElem?.mp member
  simp only [Authorities.read, getElem?_modify] at found
  split at found
  case isFalse =>
    rw [Option.map_eq_map, Option.map_id'] at found
    exact valid.calls pending (mem_of_getElem? found)
  case isTrue =>
    obtain ⟨before, at_i, rfl⟩ := Option.map_eq_some_iff.mp found
    split_ifs with reads
    · constructor
      · rintro revoked ⟨⟩ revocation answered same
        rw [← same]
        exact (valid.recorded revocation answered).2
      · intro record request
        simp only at request
        simp only [Issuance.reads, request] at reads
        cases reads
    · exact valid.calls before (mem_of_getElem? at_i)

theorem Valid.finish (call : Nat) : (s.finish tools call).Valid := by
  unfold Authorities.finish
  split
  case h_1 => exact valid
  case h_2 pending found =>
    split
    case h_1 => exact valid
    case h_2 result returned =>
      have fit := valid.calls pending (mem_of_getElem? found)
      refine { valid with calls := ?_, complete := ?_ }
      · intro other member
        exact valid.calls other (mem_of_mem_eraseIdx member)
      · intro entry member chain issued
        rcases mem_append.mp member with member | member
        · exact valid.complete entry member chain issued
        · rw [mem_singleton.mp member] at issued ⊢
          simp only at issued
          rw [issued] at returned
          exact fit.issues returned

end Authorities

end

theorem Authorities.Valid.empty : empty.Valid where
  allocated := by intro _ member; cases member
  recorded := by intro _ member; cases member
  calls := by intro _ member; cases member
  complete := by intro _ member; cases member

theorem Authorities.Valid.step (valid : s.Valid) (presentable : s.presentable event = true) :
    (s.step tools event).Valid := by
  cases event with
  | construct construction => exact valid.construct construction
  | clone authority => exact valid.clone authority
  | revokeGeneration authority generation => exact valid.revokeGeneration authority generation
  | call authority request now => exact valid.call presentable
  | read call => exact valid.read call
  | finish call => exact valid.finish call

/-- Where durable enrollments are presented only for a standing generation and the
enrolled endpoint, no issuance path gets around a revocation or the endpoint binding. -/
theorem revocation_is_complete (tools : CertificateTools) {events : List AuthorityEvent}
    {s : Authorities}
    (run : Run (Guarded (step tools) presentable) empty events s) :
    s.RevocationComplete := by
  have preserved : ∀ s event t, s.Valid →
      Guarded (step tools) presentable s event t → t.Valid := by
    rintro s event t valid ⟨rfl, presentable⟩
    exact valid.step presentable
  exact (run.invariant preserved Authorities.Valid.empty).complete

/-! ### A sample authority -/

def CertificateTools.sample : CertificateTools where
  sha256 _ := "0000000000000000000000000000000000000000000000000000000000000000"
  subject _ := none
  acceptsAnchor _ := false
  verifyClientCert _ _ _ _ := false

def sampleIdentity : CertificateIdentity where
  schemaVersion := 1
  subjectSha256 := "cccccccccccccccccccccccccccccccccccccccccccccccccccccccccccccccc"
  issuerSha256 := "dddddddddddddddddddddddddddddddddddddddddddddddddddddddddddddddd"
  certificateSha256 := "eeeeeeeeeeeeeeeeeeeeeeeeeeeeeeeeeeeeeeeeeeeeeeeeeeeeeeeeeeeeeeee"
  trustAnchorSha256 := "aaaaaaaaaaaaaaaaaaaaaaaaaaaaaaaaaaaaaaaaaaaaaaaaaaaaaaaaaaaaaaaa"
  generation := 7
  notBefore := 900
  notAfter := 1100
  role := "operator"
  endpointIdentitySha256 := "bbbbbbbbbbbbbbbbbbbbbbbbbbbbbbbbbbbbbbbbbbbbbbbbbbbbbbbbbbbbbbbb"

def sampleEnrollment : AuthenticatedChainEnrollment where
  schemaVersion := 1
  chain := [sampleIdentity]
  pairingFingerprintSha256 := sampleIdentity.subjectSha256
  generation := 7

def sampleConstruction : Construction :=
  .withTrustAnchorDigestAndEndpoint sampleIdentity.trustAnchorSha256 7
    sampleIdentity.endpointIdentitySha256

/-- Both paths issue while the generation stands; after a revocation on the clone the
metadata path refuses. -/
def sampleIssuance : List AuthorityEvent :=
  [.construct sampleConstruction, .clone 0, .call 0 (.enrollment sampleEnrollment) 1000, .finish 0,
    .call 0 (.metadata [sampleIdentity] sampleIdentity.subjectSha256) 1000, .read 0, .finish 0,
    .revokeGeneration 1 7,
    .call 0 (.metadata [sampleIdentity] sampleIdentity.subjectSha256) 1000, .read 0, .finish 0]

def Issued.succeeded (entry : Issued) : Bool :=
  match entry.result with
  | .ok _ => true
  | .error _ => false

theorem revocation_is_complete_sample :
    ((sampleIssuance.foldl (step .sample) .empty).issued.map Issued.succeeded =
      [true, true, false]) ∧
      (sampleIssuance.foldl (step .sample) .empty).RevocationComplete := by
  have allowed : allows (step .sample) presentable .empty sampleIssuance =
      true := by decide +kernel
  exact ⟨by decide +kernel, revocation_is_complete .sample (Run.of_allows allowed)⟩

/-- A durable enrollment is honoured after its generation was revoked. -/
def enrolledAfterRevocation : List AuthorityEvent :=
  [.construct sampleConstruction, .revokeGeneration 0 7,
    .call 0 (.enrollment sampleEnrollment) 1000, .finish 0]

theorem not_revocation_is_complete :
    ¬ ∀ (tools : CertificateTools) (events : List AuthorityEvent) (s : Authorities),
      Run (fun before event after => after = before.step tools event) empty events s →
        s.RevocationComplete := by
  intro complete
  have run := complete .sample enrolledAfterRevocation _ (Run.foldl (step .sample) _ _)
  have issued : (enrolledAfterRevocation.foldl (step .sample) .empty).issued.any
      (fun entry => entry.call.answered.contains
        ⟨entry.call.authority.revokedGenerations, sampleIdentity.generation⟩ &&
        match entry.result with
        | .ok chain => chain.identity == sampleIdentity
        | .error _ => false) = true := by decide +kernel
  obtain ⟨entry, member, found⟩ := any_eq_true.mp issued
  rw [Bool.and_eq_true] at found
  obtain ⟨answered, found⟩ := found
  cases returned : entry.result with
  | error e => simp [returned] at found
  | ok chain =>
    rw [returned] at found
    have same : chain.identity = sampleIdentity := by simpa using found
    have unrevoked := (run entry member chain returned).1
    rw [same] at unrevoked
    exact unrevoked (contains_iff_mem.mp answered)

end System

end AgentSystemsBenchmark.Control
