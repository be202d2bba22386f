import AgentSystemsBenchmark.Library.Runs
import AgentSystemsBenchmark.Runtime.Namespace

/-!
# The one connection of a live relay

`accept_and_connect` waits for a peer, reads its request a byte at a time,
authenticates it, validates the handoff, takes the authorization and connects.
Each of these is a step of its own, so that a revocation by another thread can
fall between any two of them. What the operating system answers is an argument
of the step, and so are the clock readings; only the monotonic clock is kept in
the state, because it never goes back.

Beside the relay the state keeps what has been observed so far and the
connections that were attempted.
-/

namespace AgentSystemsBenchmark.Runtime

open Effects Runs
open DebugText (OsPath)

/-- Bind a relay to a handoff that was issued before. -/
def LiveProviderRelay.bind (host : Host) (around : Surroundings) (bound : Bool)
    (request : RelayRequest)
    (handoff : LiveProviderNamespaceHandoff) : Except LiveRelayError LiveProviderRelay := do
  let authorization ← liveError .egress (ProviderEgressAuthorization.authorize host request.policy
    request.egress around.nowUnixMs request.generation request.routeSha256)
  refuse (request.allowlist.contains request.target = false) .unauthorized
  match request.root with
  | none => .error .invalidRequest
  | some root =>
    refuse (bound = false) .io
    liveError .handoff (handoff.validate host around request.netns)
    refuse (request.ioTimeoutMs = 0) (.egress .invalidBounds)
    pure {
      socket := relaySocketPath root request.generation
      generation := request.generation
      capabilitySha256 := handoff.capabilitySha256
      netns := request.netns
      handoff := handoff
      authorization := some authorization
      connector := ⟨request.policy.endpointSha256, request.allowlist, request.generation,
        authorization.routeSha256⟩
      target := request.target
      consumed := false }

namespace Relaying

/-- A relay as one of its two constructors makes it. -/
inductive Made (host : Host) : LiveProviderRelay → Prop where
  | bound {around} {bound} {request}
      {handoff} {relay}
      (h : LiveProviderRelay.bind host around bound request handoff = .ok relay) : Made host relay
  | boundRuntime {around} {bound} {flag} {request}
      {relay} {exported}
      (h : LiveProviderRelay.bindRuntime host around bound flag request = .ok (relay, exported)) :
      Made host relay

/-- A fresh relay holds an authorization that its connector recognizes, for an allowed target. -/
structure Fresh (relay : LiveProviderRelay) : Prop where
  authorized : ∃ authorization, relay.authorization = some authorization ∧
    authorization.endpointSha256 = relay.connector.endpointSha256 ∧
    authorization.generation = relay.connector.generation ∧
    authorization.routeSha256 = relay.connector.routeSha256
  permitted : relay.connector.allowlist.contains relay.target = true
  unconsumed : relay.consumed = false

/-! ## The steps -/

inductive AcceptOutcome where
  | wouldBlock | failed | peer
  deriving DecidableEq

inductive ReadOutcome where
  | byte (value : UInt8)
  | closed
  | failed
  deriving DecidableEq

/-- How far the current call has come. -/
inductive Phase where
  | idle
  | accepting (nowUnixMs : Nat)
  | reading (nowUnixMs : Nat) (request : List UInt8)
  | authenticated (nowUnixMs : Nat) (request : List UInt8)
  | connecting (request : List UInt8) (authorization : ProviderEgressAuthorization)
  deriving DecidableEq

/-- A connection that was attempted, with what the relay had observed by then. -/
structure Attempt where
  request : List UInt8
  target : String
  revocationSeen : Bool
  expirySeen : Bool
  deriving DecidableEq

structure RelayState where
  relay : LiveProviderRelay
  /-- The relay's deadline and the current time, both on the monotonic clock. -/
  deadline : Nat
  instant : Nat
  revoked : Bool
  phase : Phase
  attempts : List Attempt
  revocationSeen : Bool
  expirySeen : Bool
  /-- The latest clock reading a call was given. -/
  reading : Nat
  deriving DecidableEq

def RelayState.opened (relay : LiveProviderRelay) (deadline : Nat) : RelayState :=
  ⟨relay, deadline, 0, false, .idle, [], false, false, 0⟩

inductive RelayEvent where
  | revoke
  | pass (ms : Nat)
  | call (nowUnixMs : Nat)
  | accept (outcome : AcceptOutcome)
  | read (outcome : ReadOutcome)
  | validate (socketAt : OsPath → Option Bool)
  | connect (nowUnixMs : Option Nat) (opens : Bool)

namespace RelayState

/-- The call returns an error. -/
def rejected (s : RelayState) : RelayState := { s with phase := .idle }

/-- The call returns an error because its time is over. -/
def expired (s : RelayState) : RelayState := { s with phase := .idle, expirySeen := true }

def accept (s : RelayState) (nowUnixMs : Nat) : AcceptOutcome → RelayState
  | .wouldBlock => if s.deadline < s.instant then s.expired else s
  | .failed => s.rejected
  | .peer =>
    if s.deadline < s.instant then s.expired
    else { s with phase := .reading nowUnixMs [] }

/-- One byte of the request; a complete request is compared at once. -/
def read (s : RelayState) (nowUnixMs : Nat) (request : List UInt8) : ReadOutcome → RelayState
  | .byte value =>
    let request := request ++ [value]
    if value = 10 then
      if request = requestLine s.relay.generation s.relay.capabilitySha256 then
        { s with phase := .authenticated nowUnixMs request }
      else s.rejected
    else if request.length ≥ maxRequestBytes then s.rejected
    else { s with phase := .reading nowUnixMs request }
  | .closed => s.rejected
  | .failed => s.rejected

/-- The machine as the validation finds it. -/
def around (s : RelayState) (nowUnixMs : Nat) (socketAt : OsPath → Option Bool) : Surroundings :=
  ⟨nowUnixMs, fun _ => s.revoked, socketAt, fun _ => none⟩

def validate (host : Host) (s : RelayState) (nowUnixMs : Nat) (request : List UInt8)
    (socketAt : OsPath → Option Bool) : RelayState :=
  match s.relay.handoff.validate host (s.around nowUnixMs socketAt) s.relay.netns with
  | .error .revoked => { s.rejected with revocationSeen := true }
  | .error .expired => s.expired
  | .error _ => s.rejected
  | .ok () =>
    match s.relay.authorization with
    | none => s.rejected
    | some authorization =>
      { s with
        relay := { s.relay with authorization := none }
        phase := .connecting request authorization }

def connect (s : RelayState) (request : List UInt8) (authorization : ProviderEgressAuthorization)
    (nowUnixMs : Option Nat) (opens : Bool) : RelayState :=
  match nowUnixMs with
  | none => s.expired
  | some nowUnixMs =>
    if s.relay.connector.authorizes authorization s.relay.target nowUnixMs = false then
      if authorization.deadlineUnixMs ≤ nowUnixMs then s.expired else s.rejected
    else if s.deadline < s.instant then s.expired
    else
      { s with
        phase := .idle
        attempts := s.attempts ++ [⟨request, s.relay.target, s.revocationSeen, s.expirySeen⟩]
        relay := { s.relay with consumed := s.relay.consumed || opens } }

def step (host : Host) (s : RelayState) : RelayEvent → RelayState
  | .revoke => { s with revoked := true }
  | .pass ms => { s with instant := s.instant + ms }
  | .call nowUnixMs =>
    if s.phase = .idle then
      let s := { s with reading := nowUnixMs }
      if s.relay.consumed then s else { s with phase := .accepting nowUnixMs }
    else s
  | .accept outcome =>
    match s.phase with
    | .accepting nowUnixMs => s.accept nowUnixMs outcome
    | _ => s
  | .read outcome =>
    match s.phase with
    | .reading nowUnixMs request => s.read nowUnixMs request outcome
    | _ => s
  | .validate socketAt =>
    match s.phase with
    | .authenticated nowUnixMs request => s.validate host nowUnixMs request socketAt
    | _ => s
  | .connect nowUnixMs opens =>
    match s.phase with
    | .connecting request authorization => s.connect request authorization nowUnixMs opens
    | _ => s

/-- A call is given a clock reading that is not before an earlier one. -/
def forward (s : RelayState) : RelayEvent → Bool
  | .call nowUnixMs => s.reading ≤ nowUnixMs
  | _ => true

end RelayState

open RelayState

/-! ## What holds along every run -/

theorem fresh_of_made {relay : LiveProviderRelay} (made : Made host relay) : Fresh relay := by
  have wrapped : ∀ {ε ε' α : Type} {wrap : ε → ε'} {x : Except ε α} {a : α},
      liveError wrap x = .ok a → x = .ok a := by
    intro ε ε' α wrap x a h
    cases x with
    | ok value => exact congrArg Except.ok (Except.ok.inj h)
    | error e => cases h
  have authorized : ∀ {policy egress now generation route authorization},
      ProviderEgressAuthorization.authorize host policy egress now generation route =
        .ok authorization →
      authorization.endpointSha256 = policy.endpointSha256 ∧
        authorization.generation = generation := by
    intro policy egress now generation route authorization h
    obtain ⟨⟨⟩, -, h⟩ := bind_eq_ok.mp h
    cases h
    exact ⟨rfl, rfl⟩
  cases made with
  | @bound around bound request handoff relay h =>
    obtain ⟨authorization, first, h⟩ := bind_eq_ok.mp h
    obtain ⟨endpoint, generation⟩ := authorized (wrapped first)
    obtain ⟨permitted, h⟩ := guard_eq_ok.mp h
    cases root : request.root with
    | none => rw [root] at h; cases h
    | some path =>
      rw [root] at h
      obtain ⟨⟨⟩, -, h⟩ := bind_eq_ok.mp h
      obtain ⟨⟨⟩, -, h⟩ := bind_eq_ok.mp h
      obtain ⟨⟨⟩, -, h⟩ := bind_eq_ok.mp h
      cases h
      exact ⟨⟨authorization, rfl, endpoint, generation, rfl⟩, by simpa using permitted, rfl⟩
  | @boundRuntime around bound flag request relay exported h =>
    obtain ⟨authorization, first, h⟩ := bind_eq_ok.mp h
    obtain ⟨endpoint, generation⟩ := authorized (wrapped first)
    obtain ⟨permitted, h⟩ := guard_eq_ok.mp h
    cases root : request.root with
    | none => rw [root] at h; cases h
    | some path =>
      rw [root] at h
      obtain ⟨⟨⟩, -, h⟩ := bind_eq_ok.mp h
      obtain ⟨⟨⟩, -, h⟩ := bind_eq_ok.mp h
      obtain ⟨handoff, -, h⟩ := bind_eq_ok.mp h
      obtain ⟨⟨⟩, -, h⟩ := bind_eq_ok.mp h
      cases h
      exact ⟨⟨authorization, rfl, endpoint, generation, rfl⟩, by simpa using permitted, rfl⟩

theorem checkSocket_error {around : Surroundings} {path : OsPath}
    (h : checkSocket around path = .error e) : e = .invalidRelay ∨ e = .relayUnavailable := by
  rw [checkSocket, bind_eq_error, refuse_eq_error] at h
  rcases h with ⟨-, rfl⟩ | ⟨⟨⟩, -, h⟩
  · exact .inl rfl
  · cases found : around.socketAt path with
    | none =>
      rw [found] at h
      exact .inr (Except.error.inj h).symm
    | some isPrivate =>
      rw [found] at h
      exact .inl (refuse_eq_error.mp h).2.symm

section Validation
variable {host : Host} {handoff : LiveProviderNamespaceHandoff} {around : Surroundings}
variable {netns : NamespaceIdentity}

theorem validate_ok (h : handoff.validate host around netns = .ok ()) :
    around.flags handoff.revoked = false ∧ around.nowUnixMs < handoff.deadlineUnixMs := by
  obtain ⟨⟨⟩, -, h⟩ := bind_eq_ok.mp h
  obtain ⟨⟨⟩, -, h⟩ := bind_eq_ok.mp h
  obtain ⟨⟨⟩, unrevoked, h⟩ := bind_eq_ok.mp h
  obtain ⟨⟨⟩, early, -⟩ := bind_eq_ok.mp h
  exact ⟨by simpa using unrevoked, by simpa using early⟩

/-- The two errors that report a lasting state, each with the state it reports. -/
theorem validate_error (h : handoff.validate host around netns = .error e) :
    (e = .revoked → around.flags handoff.revoked = true) ∧
      (e = .expired → handoff.deadlineUnixMs ≤ around.nowUnixMs) := by
  simp only [LiveProviderNamespaceHandoff.validate, LiveProviderNamespaceHandoff.validateMetadata,
    checkEndpoint, bind_eq_error, refuse_eq_error] at h
  rcases h with ⟨-, rfl⟩ | ⟨-, -,
    ⟨-, rfl⟩ | ⟨-, -, ⟨revoked, rfl⟩ | ⟨-, -, ⟨late, rfl⟩ | ⟨-, -, h⟩⟩⟩⟩
  · exact ⟨by rintro ⟨⟩, by rintro ⟨⟩⟩
  · exact ⟨by rintro ⟨⟩, by rintro ⟨⟩⟩
  · exact ⟨fun _ => revoked, by rintro ⟨⟩⟩
  · exact ⟨by rintro ⟨⟩, fun _ => late⟩
  · rcases h with socket | ⟨-, -, -, rfl⟩
    · rcases checkSocket_error socket with rfl | rfl <;> exact ⟨by rintro ⟨⟩, by rintro ⟨⟩⟩
    · exact ⟨by rintro ⟨⟩, by rintro ⟨⟩⟩

end Validation

/-- The request of the current call and the reading it was given. -/
def Current (start : LiveProviderRelay) (reading : Nat) (revocationSeen : Bool) : Phase → Prop
  | .idle => True
  | .accepting nowUnixMs => nowUnixMs = reading
  | .reading nowUnixMs _ => nowUnixMs = reading
  | .authenticated nowUnixMs request =>
    nowUnixMs = reading ∧ request = requestLine start.generation start.capabilitySha256
  | .connecting request authorization =>
    request = requestLine start.generation start.capabilitySha256 ∧
      start.authorization = some authorization ∧ revocationSeen = false ∧
      reading < start.handoff.deadlineUnixMs

def Phase.isConnecting : Phase → Bool
  | .connecting _ _ => true
  | _ => false

/-- An attempt that a fresh relay may make. -/
structure Proper (start : LiveProviderRelay) (attempt : Attempt) : Prop where
  authenticated : attempt.request = requestLine start.generation start.capabilitySha256
  target : attempt.target = start.target
  permitted : start.connector.allowlist.contains start.target = true
  unrevoked : attempt.revocationSeen = false
  unexpired : attempt.expirySeen = false

/-- The invariant of a run. The authorization is in one of three places: still in the relay, in the
hands of the connecting call, or spent. -/
structure Sound (start : LiveProviderRelay) (s : RelayState) : Prop where
  fixed : s.relay = { start with
    authorization := s.relay.authorization, consumed := s.relay.consumed }
  held : s.relay.authorization = none ∨ s.relay.authorization = start.authorization
  single : s.attempts.length + s.relay.authorization.toList.length + s.phase.isConnecting.toNat ≤ 1
  current : Current start s.reading s.revocationSeen s.phase
  proper : ∀ attempt ∈ s.attempts, Proper start attempt
  revocation : s.revocationSeen = true → s.revoked = true
  expiry : s.expirySeen = true → start.handoff.deadlineUnixMs ≤ s.reading ∨
    (s.relay.authorization = none ∧ s.phase.isConnecting = false) ∨ s.deadline < s.instant
  kept : s.relay.authorization = none →
    s.attempts ≠ [] ∨ s.phase.isConnecting = true ∨ s.expirySeen = true
  spent : s.relay.consumed = true → s.attempts ≠ []

theorem Sound.opened (fresh : Fresh start) (deadline : Nat) :
    Sound start (.opened start deadline) := by
  obtain ⟨authorization, held, -⟩ := fresh.authorized
  constructor
  · rfl
  · exact .inr rfl
  · simp [RelayState.opened, held, Phase.isConnecting]
  · trivial
  · exact fun attempt none => absurd none List.not_mem_nil
  · exact fun seen => absurd seen (by simp [RelayState.opened])
  · exact fun seen => absurd seen (by simp [RelayState.opened])
  · intro none
    rw [RelayState.opened, held] at none
    cases none
  · intro consumed
    rw [RelayState.opened, fresh.unconsumed] at consumed
    cases consumed

section Steps
variable {host : Host} {start : LiveProviderRelay} {s : RelayState}

section
variable {request : List UInt8} (sound : Sound start s)
include sound

namespace Sound

/-- Moving between the phases before the authorization is taken. -/
theorem moved {phase : Phase} (waiting : s.phase.isConnecting = false)
    (still : phase.isConnecting = false)
    (current : Current start s.reading s.revocationSeen phase) :
    Sound start { s with phase := phase } := by
  refine { sound with single := ?_, current := current, expiry := ?_, kept := ?_ }
  · have single := sound.single
    simp only [still, waiting] at single ⊢
    exact single
  · intro seen
    exact (sound.expiry seen).imp_right (Or.imp_left fun gone => ⟨gone.1, still⟩)
  · intro none
    rcases sound.kept none with made | connecting | seen
    · exact .inl made
    · rw [waiting] at connecting
      cases connecting
    · exact .inr (.inr seen)

/-- A call that has not taken the authorization ends with an error and leaves it alone. -/
theorem rejected (waiting : s.phase.isConnecting = false) :
    Sound start s.rejected :=
  sound.moved waiting rfl trivial

/-- An expiry is seen, and nothing will undo it. -/
theorem expired (final : start.handoff.deadlineUnixMs ≤ s.reading ∨
    s.relay.authorization = none ∨ s.deadline < s.instant) : Sound start s.expired := by
  refine { sound with single := ?_, current := trivial, expiry := ?_, kept := ?_ }
  · have single := sound.single
    simp only [RelayState.expired, Phase.isConnecting, Bool.toNat_false]
    omega
  · exact fun _ => final.imp_right (Or.imp_left fun none => ⟨none, rfl⟩)
  · exact fun _ => .inr (.inr rfl)

variable {nowUnixMs : Nat}

theorem accept (phase : s.phase = .accepting nowUnixMs)
    (outcome : AcceptOutcome) : Sound start (s.accept nowUnixMs outcome) := by
  have waiting : s.phase.isConnecting = false := by rw [phase]; rfl
  have current := sound.current
  rw [phase] at current
  cases outcome with
  | wouldBlock =>
    simp only [RelayState.accept]
    split
    case isTrue late => exact sound.expired (.inr (.inr late))
    case isFalse => exact sound
  | failed => exact sound.rejected waiting
  | peer =>
    simp only [RelayState.accept]
    split
    case isTrue late => exact sound.expired (.inr (.inr late))
    case isFalse => exact sound.moved waiting rfl current

theorem read (phase : s.phase = .reading nowUnixMs request) (outcome : ReadOutcome) :
    Sound start (s.read nowUnixMs request outcome) := by
  have waiting : s.phase.isConnecting = false := by rw [phase]; rfl
  have current := sound.current
  rw [phase] at current
  cases outcome with
  | byte value =>
    simp only [RelayState.read]
    split
    case isTrue =>
      split
      case isTrue complete =>
        refine sound.moved waiting rfl ⟨current, ?_⟩
        rw [complete, sound.fixed]
      case isFalse => exact sound.rejected waiting
    case isFalse =>
      split
      case isTrue => exact sound.rejected waiting
      case isFalse => exact sound.moved waiting rfl current
  | closed | failed => exact sound.rejected waiting

variable {authorization : ProviderEgressAuthorization}

/-- The authorization leaves the relay for the connecting call. -/
theorem taken (held : s.relay.authorization = some authorization)
    (complete : request = requestLine start.generation start.capabilitySha256)
    (unrevoked : s.revoked = false) (early : s.reading < start.handoff.deadlineUnixMs) :
    Sound start { s with
      relay := { s.relay with authorization := none }
      phase := .connecting request authorization } := by
  have unseen : s.revocationSeen = false := by
    by_contra seen
    rw [Bool.not_eq_false] at seen
    rw [sound.revocation seen] at unrevoked
    cases unrevoked
  have original : start.authorization = some authorization := by
    rcases sound.held with none | same
    · rw [held] at none
      cases none
    · rw [← same, held]
  refine { sound with
    fixed := by rw [sound.fixed], held := .inl rfl, single := ?_
    current := ⟨complete, original, unseen, early⟩, expiry := ?_, kept := fun _ => .inr (.inl rfl) }
  · have single := sound.single
    rw [held] at single
    simp only [Option.toList_some, List.length_singleton] at single
    simp only [Option.toList_none, List.length_nil, Phase.isConnecting, Bool.toNat_true]
    omega
  · intro seen
    rcases sound.expiry seen with late | gone | late
    · exact .inl late
    · rw [held] at gone
      cases gone.1
    · exact .inr (.inr late)

theorem validate
    (phase : s.phase = .authenticated nowUnixMs request) (socketAt : OsPath → Option Bool) :
    Sound start (s.validate host nowUnixMs request socketAt) := by
  have waiting : s.phase.isConnecting = false := by rw [phase]; rfl
  have current := sound.current
  rw [phase] at current
  obtain ⟨rfl, complete⟩ := current
  have handoff : s.relay.handoff = start.handoff := by rw [sound.fixed]
  rw [validate]
  cases result : s.relay.handoff.validate host (s.around s.reading socketAt) s.relay.netns with
  | ok =>
    obtain ⟨unrevoked, early⟩ := validate_ok result
    cases held : s.relay.authorization with
    | none => exact sound.rejected waiting
    | some authorization => exact sound.taken held complete unrevoked (handoff ▸ early)
  | error e =>
    obtain ⟨revoked, late⟩ := validate_error result
    cases e
    case revoked =>
      have flag : s.revoked = true := revoked rfl
      exact { sound.rejected waiting with current := trivial, revocation := fun _ => flag }
    case expired =>
      have late : s.relay.handoff.deadlineUnixMs ≤ s.reading := late rfl
      exact sound.expired (.inl (handoff ▸ late))
    all_goals exact sound.rejected waiting

theorem connect (fresh : Fresh start)
    (phase : s.phase = .connecting request authorization) (nowUnixMs : Option Nat) (opens : Bool) :
    Sound start (s.connect request authorization nowUnixMs opens) := by
  have current := sound.current
  rw [phase] at current
  obtain ⟨complete, original, unrevoked, early⟩ := current
  have single := sound.single
  simp only [phase, Phase.isConnecting, Bool.toNat_true] at single
  have gone : s.relay.authorization = none := by
    cases held : s.relay.authorization with
    | none => rfl
    | some other =>
      rw [held, Option.toList_some, List.length_singleton] at single
      omega
  have none_yet : s.attempts = [] := List.length_eq_zero_iff.mp (by omega)
  have connector : s.relay.connector = start.connector := by rw [sound.fixed]
  have target : s.relay.target = start.target := by rw [sound.fixed]
  obtain ⟨authorization', same, endpoint, generation, route⟩ := fresh.authorized
  obtain rfl := Option.mem_unique same original
  cases nowUnixMs with
  | none => exact sound.expired (.inr (.inl gone))
  | some now =>
    simp only [connect]
    split
    case isTrue refused =>
      split
      case isTrue => exact sound.expired (.inr (.inl gone))
      case isFalse early =>
        -- The connector was made with the authorization's identities, so only time can refuse it.
        have permitted := fresh.permitted
        simp only [ProviderEgressRelay.authorizes, connector, target, endpoint, generation, route,
          permitted, beq_self_eq_true, Bool.and_true, decide_eq_false_iff_not] at refused
        omega
    case isFalse =>
      split
      case isTrue late => exact sound.expired (.inr (.inl gone))
      case isFalse timely =>
        have unexpired : s.expirySeen = false := by
          by_contra seen
          rw [Bool.not_eq_false] at seen
          rcases sound.expiry seen with late | ⟨-, away⟩ | late
          · omega
          · rw [phase] at away
            cases away
          · omega
        refine { sound with
          fixed := by rw [sound.fixed], single := by simp [none_yet, gone, Phase.isConnecting]
          current := trivial, proper := ?_, expiry := ?_, kept := fun _ => .inl (by simp)
          spent := fun _ => by simp }
        · intro attempt made
          rw [none_yet, List.nil_append, List.mem_singleton] at made
          subst made
          exact ⟨complete, target, fresh.permitted, unrevoked, unexpired⟩
        · intro seen
          rw [unexpired] at seen
          cases seen

theorem step (fresh : Fresh start) (forward : s.forward event = true) :
    Sound start (s.step host event) := by
  cases event with
  | revoke => exact { sound with revocation := fun _ => rfl }
  | pass ms =>
    refine { sound with expiry := fun seen => ?_ }
    exact (sound.expiry seen).imp_right (Or.imp_right fun late => Nat.lt_add_right ms late)
  | call nowUnixMs =>
    have later : s.reading ≤ nowUnixMs := by simpa [RelayState.forward] using forward
    simp only [RelayState.step]
    split
    case isTrue phase =>
      have read : Sound start { s with reading := nowUnixMs } := by
        refine { sound with current := ?_, expiry := ?_ }
        · simp only [phase]
          trivial
        · intro seen
          exact (sound.expiry seen).imp_left fun late => Nat.le_trans late later
      split
      case isTrue => exact read
      case isFalse => exact read.moved (by simp only [phase]; rfl) rfl rfl
    case isFalse => exact sound
  | accept outcome =>
    simp only [RelayState.step]
    split
    · next phase => exact sound.accept phase outcome
    · exact sound
  | read outcome =>
    simp only [RelayState.step]
    split
    · next phase => exact sound.read phase outcome
    · exact sound
  | validate socketAt =>
    simp only [RelayState.step]
    split
    · next phase => exact sound.validate phase socketAt
    · exact sound
  | connect nowUnixMs opens =>
    simp only [RelayState.step]
    split
    · next phase => exact sound.connect fresh phase nowUnixMs opens
    · exact sound

end Sound

end

end Steps

/-- In every run whose calls are given clock readings that do not go back, a relay attempts at most
one connection: after the exact authenticated request, to its own allowed target, before any
revocation or expiry was observed. As long as none is attempted or under way and no expiry was
observed, it can still make it. -/
theorem one_connection {host : Host} {start : LiveProviderRelay} (made : Made host start)
    {deadline : Nat} {events : List RelayEvent} {s : RelayState}
    (run : Run (Guarded (step host) forward) (.opened start deadline) events s) :
    s.attempts.length ≤ 1 ∧ (∀ attempt ∈ s.attempts, Proper start attempt) ∧
      (s.attempts = [] → s.phase.isConnecting = false → s.expirySeen = false →
        s.relay.authorization = start.authorization ∧ s.relay.consumed = false) := by
  have fresh := fresh_of_made made
  have sound : Sound start s := run.invariant
    (by rintro s event t sound ⟨rfl, forward⟩; exact sound.step fresh forward)
    (.opened fresh deadline)
  refine ⟨?_, sound.proper, ?_⟩
  · have single := sound.single
    omega
  · intro none away unexpired
    constructor
    · rcases sound.held with gone | same
      · rcases sound.kept gone with some | connecting | seen
        · exact absurd none some
        · rw [away] at connecting
          cases connecting
        · rw [unexpired] at seen
          cases seen
      · exact same
    · by_contra consumed
      rw [Bool.not_eq_false] at consumed
      exact sound.spent consumed none

section Sample

def sampleHost : Host where
  sha256 _ := "cap"
  lossy _ := ""
  specText _ := ""
  limitsText _ := ""

def samplePolicy : ProviderEgressPolicy := ⟨"endpoint"⟩

def sampleEgress : ProviderEgressHandoff := ⟨"cap", "g1", "route", 9000⟩

def samplePath : OsPath := OsPath.ofText "/r"

def sampleNamespaceHandoff : LiveProviderNamespaceHandoff where
  version := 1
  netns := ⟨"net"⟩
  policySha256 := "cap"
  generation := "g1"
  routeSha256 := "route"
  adapterSha256 := "adapter"
  credentialRefSha256 := "credential"
  relaySocket := samplePath
  childEndpoint := samplePath
  deadlineUnixMs := 2000
  capabilitySha256 := "cap"
  revoked := 0

def sampleRequest : RelayRequest where
  root := some samplePath
  policy := samplePolicy
  egress := sampleEgress
  netns := ⟨"net"⟩
  allowlist := ["203.0.113.10:443"]
  target := "203.0.113.10:443"
  generation := "g1"
  routeSha256 := "route"
  adapterSha256 := "adapter"
  credentialRefSha256 := "credential"
  childEndpoint := samplePath
  ioTimeoutMs := 100

def sampleRelay : LiveProviderRelay where
  socket := relaySocketPath samplePath "g1"
  generation := "g1"
  capabilitySha256 := "cap"
  netns := ⟨"net"⟩
  handoff := sampleNamespaceHandoff
  authorization := some ⟨"endpoint", "g1", "route", 9000⟩
  connector := ⟨"endpoint", ["203.0.113.10:443"], "g1", "route"⟩
  target := "203.0.113.10:443"
  consumed := false

theorem sampleRelay_made : Made sampleHost sampleRelay :=
  .bound (show LiveProviderRelay.bind sampleHost
    ⟨1000, fun _ => false, fun _ => some true, fun _ => none⟩
    true sampleRequest sampleNamespaceHandoff = .ok sampleRelay by decide +kernel)

/-- A peer that sends the exact request, up to the validation. -/
def sampleCall (nowUnixMs : Nat) : List RelayEvent :=
  [.call nowUnixMs, .accept .peer] ++
    (requestLine "g1" "cap").map (fun byte => .read (.byte byte)) ++ [.validate fun _ => some true]

/-- A peer without the capability, then one with it, then another. -/
def sampleRun : List RelayEvent :=
  [.call 1000, .accept .peer, .read (.byte 65), .read (.byte 10)] ++ sampleCall 1500 ++
    [.connect (some 1500) true] ++ sampleCall 1600

theorem one_connection_sample :
    ((sampleRun.foldl (step sampleHost) (.opened sampleRelay 100)).attempts.length = 1) ∧
      (sampleRun.foldl (step sampleHost) (.opened sampleRelay 100)).attempts.length ≤ 1 := by
  have allowed : allows (step sampleHost) forward (.opened sampleRelay 100)
      sampleRun = true := by decide +kernel
  exact ⟨by decide +kernel, (one_connection sampleRelay_made (Run.of_allows allowed)).1⟩

/-- The handoff is found expired; a later call with an earlier clock reading connects. -/
theorem connects_after_expiry :
    ∃ (start : LiveProviderRelay) (deadline : Nat) (events : List RelayEvent),
      Made sampleHost start ∧
        ∃ attempt ∈ (events.foldl (step sampleHost) (.opened start deadline)).attempts,
          attempt.expirySeen = true :=
  ⟨sampleRelay, 100, sampleCall 2000 ++ sampleCall 1500 ++ [.connect (some 1500) true],
    sampleRelay_made, ⟨requestLine "g1" "cap", "203.0.113.10:443", false, true⟩, by decide +kernel,
    rfl⟩

end Sample

end Relaying

end AgentSystemsBenchmark.Runtime
