import AgentSystemsBenchmark.Library.Effects
import AgentSystemsBenchmark.Library.Framing
import AgentSystemsBenchmark.Library.Histories
import AgentSystemsBenchmark.Library.Runs

/-!
# Broker handoff generations

The packets of a private broker between router and frontend, and the state that numbers them.
A request is admitted and reserves a sequence number; a transfer that succeeds commits it. A
closed failure commits nothing: it answers with the generation the frontend already has.
-/

namespace AgentSystemsBenchmark.Handoff

open Effects Framing Histories List

/-! ## Packets -/

abbrev Bytes (size : Nat) := List.Vector UInt8 size

def Bytes.zero (size : Nat) : Bytes size := List.Vector.replicate size 0

inductive HandoffError where
  | invalidPacket | invalidRunnerIdentity | invalidEpoch | generationMismatch | unexpectedState
  | replacementExhausted | rateLimited | sequenceExhausted | transferFailed | entropyUnavailable
  deriving DecidableEq, Repr

inductive BrokerOperation where
  | initial | replacement
  deriving DecidableEq, Repr

def BrokerOperation.wire : BrokerOperation → UInt8
  | .initial => 1
  | .replacement => 2

def BrokerOperation.parse (value : UInt8) : Except HandoffError BrokerOperation :=
  if value = 1 then .ok .initial
  else if value = 2 then .ok .replacement
  else .error .invalidPacket

inductive HandoffStatus where
  | request | success | unavailable | rejected | exhausted
  deriving DecidableEq, Repr

def HandoffStatus.wire : HandoffStatus → UInt8
  | .request => 0
  | .success => 1
  | .unavailable => 2
  | .rejected => 3
  | .exhausted => 4

def HandoffStatus.parseBroker (value : UInt8) : Except HandoffError HandoffStatus :=
  if value = 0 then .ok .request
  else if value = 1 then .ok .success
  else if value = 2 then .ok .unavailable
  else if value = 3 then .ok .rejected
  else if value = 4 then .ok .exhausted
  else .error .invalidPacket

def HandoffStatus.isClosedFailure : HandoffStatus → Bool
  | .unavailable | .rejected | .exhausted => true
  | _ => false

structure BrokerGeneration where
  epoch : Bytes 16
  sequence : UInt64
  deriving DecidableEq

structure BrokerPacket where
  operation : BrokerOperation
  status : HandoffStatus
  epoch : Bytes 16
  sequence : UInt64
  expectedRunnerIdentity : Bytes 32
  deriving DecidableEq

def brokerMagic : List UInt8 := [0x41, 0x53, 0x42, 0x48, 0x4e, 0x44, 0x30, 0x31]
def wireVersion : UInt16 := 1
def brokerPacketBytes : Nat := 72

/-- The array is written in the order of its positions; positions 12 to 15 stay zero. -/
def BrokerPacket.encode (packet : BrokerPacket) : List UInt8 :=
  brokerMagic ++ (beBytes 2 wireVersion.toNat ++ (packet.operation.wire :: packet.status.wire ::
    ([0, 0, 0, 0] ++ (packet.epoch.toList ++ (beBytes 8 packet.sequence.toNat ++
      packet.expectedRunnerIdentity.toList)))))

def BrokerPacket.validShape (packet : BrokerPacket) : Bool :=
  let zeroTuple := packet.epoch = Bytes.zero 16 ∧ packet.sequence = 0
  let zeroIdentity := packet.expectedRunnerIdentity = Bytes.zero 32
  match packet.status, packet.operation with
  | .request, .initial => zeroTuple ∧ zeroIdentity
  | .request, .replacement =>
    ¬ zeroTuple ∧ packet.epoch ≠ Bytes.zero 16 ∧ packet.sequence ≠ 0 ∧ zeroIdentity
  | .success, _ => packet.epoch ≠ Bytes.zero 16 ∧ packet.sequence ≠ 0 ∧ ¬ zeroIdentity
  | .unavailable, .initial | .rejected, .initial | .exhausted, .initial =>
    zeroTuple ∧ zeroIdentity
  | .unavailable, .replacement | .rejected, .replacement | .exhausted, .replacement =>
    packet.epoch ≠ Bytes.zero 16 ∧ packet.sequence ≠ 0 ∧ zeroIdentity

def BrokerPacket.validateShape (packet : BrokerPacket) : Except HandoffError Unit :=
  refuse (packet.validShape = false) .invalidPacket

/-- The bytes from one position up to another. -/
def slice (bytes : List UInt8) (start stop : Nat) : List UInt8 := (bytes.take stop).drop start

theorem length_slice (h : stop ≤ bytes.length) :
    (slice bytes start stop).length = stop - start := by
  rw [slice, length_drop, length_take, Nat.min_eq_left h]

def BrokerPacket.decode (bytes : List UInt8) : Except HandoffError BrokerPacket :=
  if h : bytes.length = brokerPacketBytes then do
    refuse (bytes.take 8 ≠ brokerMagic ∨ slice bytes 8 10 ≠ beBytes 2 wireVersion.toNat ∨
      slice bytes 12 16 ≠ [0, 0, 0, 0]) .invalidPacket
    let operation ← BrokerOperation.parse (bytes.getD 10 0)
    let status ← HandoffStatus.parseBroker (bytes.getD 11 0)
    let packet : BrokerPacket :=
      { operation
        status
        epoch := ⟨slice bytes 16 32, length_slice (by rw [h]; decide)⟩
        sequence := UInt64.ofNat (beValue (slice bytes 32 40))
        expectedRunnerIdentity := ⟨slice bytes 40 72, length_slice (by rw [h]; decide)⟩ }
    packet.validateShape
    pure packet
  else .error .invalidPacket

/-! ## What is encoded is decoded -/

theorem parse_operation (operation : BrokerOperation) :
    BrokerOperation.parse operation.wire = .ok operation := by
  cases operation <;> rfl

theorem parseBroker_status (status : HandoffStatus) :
    HandoffStatus.parseBroker status.wire = .ok status := by
  cases status <;> rfl

theorem slice_middle (before : a.length = start) (through : a.length + b.length = stop) :
    slice (a ++ (b ++ c)) start stop = b := by
  rw [slice, ← append_assoc, take_left' (by rw [length_append, through]),
    drop_left' before]

section RoundTrip
variable (packet : BrokerPacket)

/-- The twelve bytes up to the reserved ones. -/
def BrokerPacket.lead : List UInt8 :=
  brokerMagic ++ beBytes 2 wireVersion.toNat ++ [packet.operation.wire, packet.status.wire]

theorem length_lead : packet.lead.length = 12 := rfl

theorem encode_eq : packet.encode = packet.lead ++ ([0, 0, 0, 0] ++ (packet.epoch.toList ++
    (beBytes 8 packet.sequence.toNat ++ packet.expectedRunnerIdentity.toList))) := by
  simp only [BrokerPacket.encode, BrokerPacket.lead, append_assoc, cons_append,
    nil_append]

theorem length_encode : packet.encode.length = brokerPacketBytes := by
  simp only [encode_eq, length_append, length_lead, List.Vector.toList_length, length_beBytes]
  rfl

theorem slice_epoch : slice packet.encode 16 32 = packet.epoch.toList := by
  rw [encode_eq, ← append_assoc]
  apply slice_middle
  · rw [length_append, length_lead]
    rfl
  · rw [length_append, length_lead, List.Vector.toList_length]
    rfl

theorem slice_sequence : slice packet.encode 32 40 = beBytes 8 packet.sequence.toNat := by
  rw [encode_eq, ← append_assoc, ← append_assoc]
  apply slice_middle
  · rw [length_append, length_append, length_lead, List.Vector.toList_length]
    rfl
  · rw [length_append, length_append, length_lead, List.Vector.toList_length,
      length_beBytes]
    rfl

theorem slice_identity :
    slice packet.encode 40 72 = packet.expectedRunnerIdentity.toList := by
  have last : ∀ a : List UInt8, a.length = 40 →
      slice (a ++ packet.expectedRunnerIdentity.toList) 40 72 =
        packet.expectedRunnerIdentity.toList := by
    intro a before
    have found := slice_middle (b := packet.expectedRunnerIdentity.toList) (c := []) before
      (by rw [before, List.Vector.toList_length])
    rwa [append_nil] at found
  rw [encode_eq, ← append_assoc, ← append_assoc, ← append_assoc]
  apply last
  rw [length_append, length_append, length_append, length_lead,
    List.Vector.toList_length, length_beBytes]
  rfl

/-- A packet of valid shape is read back from its bytes. -/
theorem decode_encode (shape : packet.validShape = true) :
    BrokerPacket.decode packet.encode = .ok packet := by
  have sequence : UInt64.ofNat (beValue (slice packet.encode 32 40)) = packet.sequence := by
    rw [slice_sequence, beValue_beBytes packet.sequence.toNat_lt, UInt64.ofNat_toNat]
  have epoch : ∀ h, (⟨slice packet.encode 16 32, h⟩ : Bytes 16) = packet.epoch :=
    fun _ => Subtype.ext (slice_epoch packet)
  have identity : ∀ h, (⟨slice packet.encode 40 72, h⟩ : Bytes 32) =
      packet.expectedRunnerIdentity := fun _ => Subtype.ext (slice_identity packet)
  unfold BrokerPacket.decode
  rw [dif_pos (length_encode packet)]
  simp only [epoch, identity, sequence]
  have header : ¬ (packet.encode.take 8 ≠ brokerMagic ∨
      slice packet.encode 8 10 ≠ beBytes 2 wireVersion.toNat ∨
      slice packet.encode 12 16 ≠ [0, 0, 0, 0]) := by
    simp only [not_or, not_not]
    exact ⟨rfl, rfl, rfl⟩
  have operation : BrokerOperation.parse (packet.encode.getD 10 0) = .ok packet.operation :=
    parse_operation packet.operation
  have status : HandoffStatus.parseBroker (packet.encode.getD 11 0) = .ok packet.status :=
    parseBroker_status packet.status
  rw [seq_eq_ok]
  refine ⟨refuse_eq_ok.mpr header, ?_⟩
  rw [operation, status]
  exact guard_eq_ok.mpr ⟨(by rw [shape]; decide), rfl⟩

end RoundTrip

/-! ## The state of a broker -/

def maxReplacements : Nat := 8
/-- 100 ms, in nanoseconds. -/
def minReplacementInterval : Nat := 100000000

section Broker
variable {Deadline : Type}

inductive BrokerPhase (Deadline : Type) where
  | new
  | pending (operation : BrokerOperation) (responseSequence : UInt64) (deadline : Deadline)
  | established (generation : BrokerGeneration)
  | terminal
  deriving DecidableEq

structure PendingBrokerSuccess (Deadline : Type) where
  operation : BrokerOperation
  generation : BrokerGeneration
  deadline : Deadline
  deriving DecidableEq

def PendingBrokerSuccess.packet (pending : PendingBrokerSuccess Deadline)
    (expectedRunnerIdentity : Bytes 32) : BrokerPacket :=
  ⟨pending.operation, .success, pending.generation.epoch, pending.generation.sequence,
    expectedRunnerIdentity⟩

structure BrokerState (Deadline : Type) where
  epoch : Bytes 16
  nonzero : epoch ≠ Bytes.zero 16
  phase : BrokerPhase Deadline
  committedGeneration : Option BrokerGeneration
  replacementAttempts : Nat
  lastReplacement : Option Nat

def BrokerState.new (epoch : Bytes 16) : Except HandoffError (BrokerState Deadline) :=
  if h : epoch = Bytes.zero 16 then .error .invalidEpoch
  else .ok ⟨epoch, h, .new, none, 0, none⟩

/-- What a producer authenticated: its constructor refuses the zero generation and identity. -/
structure AuthenticatedGeneration where
  brokerGeneration : BrokerGeneration
  expectedRunnerIdentity : Bytes 32
  nonzeroGeneration : brokerGeneration.epoch ≠ Bytes.zero 16 ∧ brokerGeneration.sequence ≠ 0
  nonzeroIdentity : expectedRunnerIdentity ≠ Bytes.zero 32

def AuthenticatedGeneration.new (brokerGeneration : BrokerGeneration)
    (expectedRunnerIdentity : Bytes 32) : Except HandoffError AuthenticatedGeneration :=
  if h : (brokerGeneration.epoch ≠ Bytes.zero 16 ∧ brokerGeneration.sequence ≠ 0) ∧
      expectedRunnerIdentity ≠ Bytes.zero 32 then
    .ok ⟨brokerGeneration, expectedRunnerIdentity, h.1, h.2⟩
  else .error .unexpectedState

/-- What a call answers: a reserved generation with the time it was asked at, a packet that was
sent, or an error. -/
inductive Outcome (Deadline : Type) where
  | begun (pending : PendingBrokerSuccess Deadline) (now : Nat)
  | sent (packet : BrokerPacket)
  | failed (error : HandoffError)
  deriving DecidableEq

namespace BrokerState
variable (s : BrokerState Deadline)

def terminate (error : HandoffError) : Outcome Deadline × BrokerState Deadline :=
  (.failed error, { s with phase := .terminal })

/-- Reserve the response to an admitted request. -/
def reserve (operation : BrokerOperation) (responseSequence : UInt64) (deadline : Deadline)
    (now : Nat) : Outcome Deadline × BrokerState Deadline :=
  (.begun ⟨operation, ⟨s.epoch, responseSequence⟩, deadline⟩ now,
    { s with phase := .pending operation responseSequence deadline })

def beginPacket (packet : BrokerPacket) (deadline : Deadline) (now : Nat) :
    Outcome Deadline × BrokerState Deadline :=
  if packet.status ≠ .request then s.terminate .unexpectedState
  else match s.phase, packet.operation with
    | .new, .initial =>
      if packet.validShape = false then s.terminate .invalidPacket
      else s.reserve .initial 1 deadline now
    | .established current, .replacement =>
      if packet.validShape = false then s.terminate .invalidPacket
      else if packet.epoch ≠ current.epoch ∨ packet.sequence ≠ current.sequence then
        s.terminate .generationMismatch
      else if s.replacementAttempts ≥ maxReplacements then s.terminate .replacementExhausted
      else if s.lastReplacement.any (fun last => now < last + minReplacementInterval) then
        s.terminate .rateLimited
      else if current.sequence.toNat + 1 ≥ 2 ^ 64 then s.terminate .sequenceExhausted
      else
        let s := { s with
          replacementAttempts := s.replacementAttempts + 1
          lastReplacement := some now }
        s.reserve .replacement (current.sequence + 1) deadline now
    | _, _ => s.terminate .unexpectedState

def beginRequest (packet : BrokerPacket) (deadline : Deadline) (expired : Bool) (now : Nat) :
    Outcome Deadline × BrokerState Deadline :=
  if expired then s.terminate .transferFailed else s.beginPacket packet deadline now

variable [DecidableEq Deadline]

def commitSuccess (pending : PendingBrokerSuccess Deadline)
    (authenticated : AuthenticatedGeneration)
    (sent : Bool) : Outcome Deadline × BrokerState Deadline :=
  match s.phase with
  | .pending operation responseSequence deadline =>
    if pending.operation ≠ operation ∨ pending.generation.epoch ≠ s.epoch ∨
        pending.generation.sequence ≠ responseSequence ∨
        authenticated.brokerGeneration ≠ pending.generation ∨ pending.deadline ≠ deadline then
      s.terminate .generationMismatch
    else if sent = false then s.terminate .transferFailed
    else
      (.sent (pending.packet authenticated.expectedRunnerIdentity),
        { s with
          phase := .established pending.generation
          committedGeneration := some pending.generation })
  | _ => s.terminate .unexpectedState

def pendingPreviousSequence : UInt64 :=
  match s.phase with
  | .pending _ responseSequence _ => responseSequence - 1
  | _ => 0

def commitFailure (pending : PendingBrokerSuccess Deadline) (status : HandoffStatus)
    (sent : Bool) : Outcome Deadline × BrokerState Deadline :=
  if status.isClosedFailure = false then s.terminate .unexpectedState
  else match s.phase with
    | .pending operation responseSequence deadline =>
      if pending.operation ≠ operation ∨ pending.generation.epoch ≠ s.epoch ∨
          pending.generation.sequence ≠ responseSequence ∨ pending.deadline ≠ deadline then
        s.terminate .generationMismatch
      else
        let generation : BrokerGeneration := match operation with
          | .initial => ⟨Bytes.zero 16, 0⟩
          | .replacement => ⟨s.epoch, s.pendingPreviousSequence⟩
        let packet : BrokerPacket :=
          ⟨operation, status, generation.epoch, generation.sequence, Bytes.zero 32⟩
        if sent = false then s.terminate .transferFailed
        else
          (.sent packet,
            { s with
              phase := match operation with
                | .initial => .terminal
                | .replacement => .established generation })
    | _ => s.terminate .unexpectedState

end BrokerState

/-- The calls on a broker state, with what the clock and the socket answer. -/
inductive Call (Deadline : Type) where
  | beginPacket (packet : BrokerPacket) (deadline : Deadline) (now : Nat)
  | beginRequest (packet : BrokerPacket) (deadline : Deadline) (expired : Bool) (now : Nat)
  | commitSuccess (pending : PendingBrokerSuccess Deadline)
      (authenticated : AuthenticatedGeneration) (sent : Bool)
  | commitFailure (pending : PendingBrokerSuccess Deadline) (status : HandoffStatus) (sent : Bool)
  | terminate (error : HandoffError)

section Calls
variable [DecidableEq Deadline]

def BrokerState.call (s : BrokerState Deadline) :
    Call Deadline → Outcome Deadline × BrokerState Deadline
  | .beginPacket packet deadline now => s.beginPacket packet deadline now
  | .beginRequest packet deadline expired now => s.beginRequest packet deadline expired now
  | .commitSuccess pending authenticated sent => s.commitSuccess pending authenticated sent
  | .commitFailure pending status sent => s.commitFailure pending status sent
  | .terminate error => s.terminate error

/-- What has been answered so far, and the state. -/
structure History (Deadline : Type) where
  outcomes : List (Outcome Deadline)
  state : BrokerState Deadline

def History.call (h : History Deadline) (call : Call Deadline) : History Deadline :=
  ⟨h.outcomes ++ [(h.state.call call).1], (h.state.call call).2⟩

/-- A sequence of calls on a state. -/
def BrokerState.run (s : BrokerState Deadline) (calls : List (Call Deadline)) : History Deadline :=
  calls.foldl History.call ⟨[], s⟩

end Calls

/-- The packet a call sent. -/
def Outcome.packet : Outcome Deadline → Option BrokerPacket
  | .sent packet => some packet
  | _ => none

/-- The time at which a replacement began. -/
def Outcome.replacement : Outcome Deadline → Option Nat
  | .begun pending now => if pending.operation = .replacement then some now else none
  | _ => none

def History.packets (h : History Deadline) : List BrokerPacket := h.outcomes.filterMap (·.packet)
def History.replacements (h : History Deadline) : List Nat := h.outcomes.filterMap (·.replacement)

def BrokerPacket.succeeds (packet : BrokerPacket) : Bool := packet.status = .success

/-! ## What a call can do -/

/-- The ways a call can end. -/
inductive Ends (s : BrokerState Deadline) : Outcome Deadline → BrokerState Deadline → Prop where
  | failed (error : HandoffError) : Ends s (.failed error) { s with phase := .terminal }
  | initial (deadline : Deadline) (now : Nat) (phase : s.phase = .new) :
      Ends s (.begun ⟨.initial, ⟨s.epoch, 1⟩, deadline⟩ now)
        { s with phase := .pending .initial 1 deadline }
  | replacement {current} (deadline : Deadline) {now}
      (phase : s.phase = .established current) (room : s.replacementAttempts < maxReplacements)
      (spaced : ∀ last ∈ s.lastReplacement, last + minReplacementInterval ≤ now)
      (fits : current.sequence.toNat + 1 < 2 ^ 64) :
      Ends s (.begun ⟨.replacement, ⟨s.epoch, current.sequence + 1⟩, deadline⟩ now)
        { s with
          replacementAttempts := s.replacementAttempts + 1
          lastReplacement := some now
          phase := .pending .replacement (current.sequence + 1) deadline }
  | succeeded {operation} {sequence} {deadline}
      {identity} (phase : s.phase = .pending operation sequence deadline)
      (nonzero : sequence ≠ 0) (identified : identity ≠ Bytes.zero 32) :
      Ends s (.sent ⟨operation, .success, s.epoch, sequence, identity⟩)
        { s with
          phase := .established ⟨s.epoch, sequence⟩
          committedGeneration := some ⟨s.epoch, sequence⟩ }
  | refused {status} {sequence} {deadline}
      (phase : s.phase = .pending .initial sequence deadline)
      (closed : status.isClosedFailure = true) :
      Ends s (.sent ⟨.initial, status, Bytes.zero 16, 0, Bytes.zero 32⟩)
        { s with phase := .terminal }
  | kept {status} {sequence} {deadline}
      (phase : s.phase = .pending .replacement sequence deadline)
      (closed : status.isClosedFailure = true) :
      Ends s (.sent ⟨.replacement, status, s.epoch, sequence - 1, Bytes.zero 32⟩)
        { s with phase := .established ⟨s.epoch, sequence - 1⟩ }

section Inversion
variable (s : BrokerState Deadline)

theorem beginPacket_ends (packet : BrokerPacket) (deadline : Deadline) (now : Nat) :
    Ends s (s.beginPacket packet deadline now).1 (s.beginPacket packet deadline now).2 := by
  unfold BrokerState.beginPacket
  split
  · exact .failed _
  · split
    · rename_i phase operation
      split
      · exact .failed _
      · exact .initial deadline now phase
    · rename_i current phase operation
      split
      · exact .failed _
      · split
        · exact .failed _
        · split
          · exact .failed _
          · rename_i room
            split
            · exact .failed _
            · rename_i spaced
              split
              · exact .failed _
              · rename_i fits
                refine .replacement deadline phase (Nat.not_le.mp room) ?_ (Nat.not_le.mp fits)
                intro last member
                by_contra early
                have limited := decide_eq_true (Nat.not_le.mp early)
                exact spaced ((Option.any_eq_true _ _).mpr ⟨last, member, limited⟩)
    · exact .failed _

section Decided
variable [DecidableEq Deadline]

theorem commitSuccess_ends (pending : PendingBrokerSuccess Deadline)
    (authenticated : AuthenticatedGeneration) (sent : Bool) :
    Ends s (s.commitSuccess pending authenticated sent).1
      (s.commitSuccess pending authenticated sent).2 := by
  unfold BrokerState.commitSuccess
  split
  · rename_i operation sequence deadline phase
    split
    · exact .failed _
    · rename_i matching
      simp only [not_or, not_not] at matching
      obtain ⟨rfl, epoch, rfl, generation, rfl⟩ := matching
      split
      · exact .failed _
      · have same : pending.generation = ⟨s.epoch, pending.generation.sequence⟩ := by
          rw [← epoch]
        have nonzero : pending.generation.sequence ≠ 0 :=
          generation ▸ authenticated.nonzeroGeneration.2
        rw [PendingBrokerSuccess.packet, epoch, same]
        exact .succeeded phase nonzero authenticated.nonzeroIdentity
  · exact .failed _

theorem commitFailure_ends (pending : PendingBrokerSuccess Deadline) (status : HandoffStatus)
    (sent : Bool) :
    Ends s (s.commitFailure pending status sent).1 (s.commitFailure pending status sent).2 := by
  unfold BrokerState.commitFailure
  split
  · exact .failed _
  · rename_i closed
    rw [Bool.not_eq_false] at closed
    split
    · rename_i operation sequence deadline phase
      split
      · exact .failed _
      · dsimp only
        split
        · exact .failed _
        · cases operation with
          | initial => exact .refused phase closed
          | replacement =>
            have previous : s.pendingPreviousSequence = sequence - 1 := by
              rw [BrokerState.pendingPreviousSequence, phase]
            rw [previous]
            exact .kept phase closed
    · exact .failed _

theorem call_ends (call : Call Deadline) : Ends s (s.call call).1 (s.call call).2 := by
  cases call with
  | beginPacket packet deadline now => exact beginPacket_ends s packet deadline now
  | beginRequest packet deadline expired now =>
    cases expired with
    | true => exact .failed _
    | false => exact beginPacket_ends s packet deadline now
  | commitSuccess pending authenticated sent =>
    exact commitSuccess_ends s pending authenticated sent
  | commitFailure pending status sent => exact commitFailure_ends s pending status sent
  | terminate error => exact .failed error

end Decided

/-- Once terminal, every call fails and changes nothing. -/
theorem Ends.of_terminal {s t : BrokerState Deadline} {outcome : Outcome Deadline}
    (ends : Ends s outcome t) (terminal : s.phase = .terminal) :
    t.phase = .terminal ∧ ∃ error, outcome = .failed error := by
  cases ends with
  | failed error => exact ⟨rfl, error, rfl⟩
  | initial deadline now phase => rw [phase] at terminal; cases terminal
  | replacement deadline phase room spaced fits => rw [phase] at terminal; cases terminal
  | succeeded phase nonzero identified => rw [phase] at terminal; cases terminal
  | refused phase closed => rw [phase] at terminal; cases terminal
  | kept phase closed => rw [phase] at terminal; cases terminal

theorem Ends.of_failed {s t : BrokerState Deadline} {error : HandoffError}
    (ends : Ends s (.failed error) t) : t = { s with phase := .terminal } := by
  cases ends
  rfl

end Inversion

/-! ## Generations along a run -/

/-- How many generations were committed, given the packets sent. -/
def committed (packets : List BrokerPacket) : Nat := (packets.filter (·.succeeds)).length

/-- What a packet carries when it is sent after others. -/
structure BrokerPacket.Follows (epoch : Bytes 16) (before : List BrokerPacket)
    (packet : BrokerPacket) : Prop where
  shape : packet.validShape = true
  success : packet.status = .success → packet.epoch = epoch ∧
    packet.sequence.toNat = committed before + 1 ∧
    (packet.operation = .initial ↔ committed before = 0)
  failure : packet.status ≠ .success →
    (packet.operation = .initial → packet.epoch = Bytes.zero 16 ∧ packet.sequence = 0) ∧
    (packet.operation = .replacement → packet.epoch = epoch ∧
      packet.sequence.toNat = committed before)

/-- Where the state of a broker stands with the number of generations committed. -/
def BrokerState.Stands (s : BrokerState Deadline) (count : Nat) : Prop :=
  match s.phase with
  | .new => count = 0 ∧ s.replacementAttempts = 0
  | .pending .initial sequence _ => count = 0 ∧ s.replacementAttempts = 0 ∧ sequence.toNat = 1
  | .pending .replacement sequence _ =>
    0 < count ∧ count ≤ s.replacementAttempts ∧ sequence.toNat = count + 1
  | .established generation =>
    0 < count ∧ count ≤ s.replacementAttempts + 1 ∧
      generation.epoch = s.epoch ∧ generation.sequence.toNat = count
  | .terminal => count ≤ s.replacementAttempts + 1

/-- The generations of a run: each packet follows those before it. -/
structure Numbered (epoch : Bytes 16) (h : History Deadline) : Prop where
  same : h.state.epoch = epoch
  follows : ∀ before packet after, h.packets = before ++ packet :: after →
    packet.Follows epoch before
  stands : h.state.Stands (committed h.packets)

/-- The replacements of a run. -/
structure Paced (h : History Deadline) : Prop where
  attempts : h.state.replacementAttempts = h.replacements.length
  limited : h.state.replacementAttempts ≤ maxReplacements
  last : h.state.lastReplacement = h.replacements.getLast?
  spaced : h.replacements.Pairwise (· + minReplacementInterval ≤ ·)

section Run
variable {epoch : Bytes 16} {h : History Deadline} {s t : BrokerState Deadline}
  {outcome : Outcome Deadline} {packet : BrokerPacket}

theorem Stands.bounded {count : Nat} (stands : s.Stands count) :
    count ≤ s.replacementAttempts + 1 := by
  unfold BrokerState.Stands at stands
  split at stands <;> omega

theorem committed_concat (packets : List BrokerPacket) (packet : BrokerPacket) :
    committed (packets ++ [packet]) = committed packets + if packet.succeeds then 1 else 0 := by
  unfold committed
  rw [filter_append, length_append, filter_singleton]
  cases packet.succeeds <;> rfl

variable {packets : List BrokerPacket}

/-- What is far enough from the last is far enough from each. -/
theorem spaced_concat (spaced : times.Pairwise (· + minReplacementInterval ≤ ·))
    (far : ∀ last ∈ times.getLast?, last + minReplacementInterval ≤ now) :
    (times ++ [now]).Pairwise (· + minReplacementInterval ≤ ·) := by
  rw [pairwise_append]
  refine ⟨spaced, pairwise_singleton _ _, ?_⟩
  intro time member final here
  rw [mem_singleton.mp here]
  obtain ⟨last, ends⟩ : ∃ last, times.getLast? = some last := by
    cases times with
    | nil => cases member
    | cons first rest => exact ⟨_, getLast?_eq_some_getLast (cons_ne_nil first rest)⟩
  have close := far last ends
  obtain ⟨init, rfl⟩ := getLast?_eq_some_iff.mp ends
  rcases mem_append.mp member with member | member
  · have before := (pairwise_append.mp spaced).2.2 time member last (mem_singleton_self _)
    exact Nat.le_trans (Nat.le_trans before (Nat.le_add_right _ _)) close
  · rw [mem_singleton.mp member]
    exact close

theorem packets_concat (outcomes : List (Outcome Deadline)) :
    (⟨outcomes ++ [outcome], t⟩ : History Deadline).packets =
      (⟨outcomes, s⟩ : History Deadline).packets ++ outcome.packet.toList := by
  simp only [History.packets, filterMap_append]
  cases outcome <;> rfl

theorem replacements_concat (outcomes : List (Outcome Deadline)) :
    (⟨outcomes ++ [o], t⟩ : History Deadline).replacements =
      (⟨outcomes, s⟩ : History Deadline).replacements ++ o.replacement.toList := by
  simp only [History.replacements, filterMap_append, filterMap_cons, filterMap_nil]
  cases o.replacement <;> rfl

/-- A packet that commits nothing, sent after the others. -/
theorem committed_failure (failure : packet.status ≠ .success) :
    committed (packets ++ [packet]) = committed packets := by
  rw [committed_concat, if_neg (by simpa [BrokerPacket.succeeds] using failure), Nat.add_zero]

variable {status : HandoffStatus}

section
variable (closed : status.isClosedFailure = true)
include closed

theorem closed_ne_success :
    status ≠ .success := by
  rintro rfl
  cases closed

theorem validShape_refused :
    BrokerPacket.validShape ⟨.initial, status, Bytes.zero 16, 0, Bytes.zero 32⟩ = true := by
  cases status with
  | request | success => cases closed
  | _ => simp [BrokerPacket.validShape]

theorem validShape_kept {epoch : Bytes 16} (nonzero : epoch ≠ Bytes.zero 16) {sequence : UInt64}
    (positive : sequence ≠ 0) :
    BrokerPacket.validShape ⟨.replacement, status, epoch, sequence, Bytes.zero 32⟩ = true := by
  cases status with
  | request | success => cases closed
  | _ => simp [BrokerPacket.validShape, nonzero, positive]

end

theorem Numbered.quiet (n : Numbered epoch h) (silent : outcome.packet = none)
    (same : t.epoch = h.state.epoch) (stands : t.Stands (committed h.packets)) :
    Numbered epoch ⟨h.outcomes ++ [outcome], t⟩ := by
  have packets : (⟨h.outcomes ++ [outcome], t⟩ : History Deadline).packets = h.packets := by
    rw [packets_concat (s := h.state), silent]
    exact append_nil _
  constructor
  · exact same.trans n.same
  · rw [packets]
    exact n.follows
  · rw [packets]
    exact stands

theorem Numbered.sent (n : Numbered epoch h) (sent : outcome.packet = some packet)
    (same : t.epoch = h.state.epoch) (follows : packet.Follows epoch h.packets)
    (stands : t.Stands (committed (h.packets ++ [packet]))) :
    Numbered epoch ⟨h.outcomes ++ [outcome], t⟩ := by
  have packets : (⟨h.outcomes ++ [outcome], t⟩ : History Deadline).packets =
      h.packets ++ [packet] := by
    rw [packets_concat (s := h.state), sent]
    rfl
  constructor
  · exact same.trans n.same
  · rw [packets]
    exact Justified.snoc n.follows follows
  · rw [packets]
    exact stands

theorem Numbered.step (n : Numbered epoch h) (ends : Ends h.state outcome t) :
    Numbered epoch ⟨h.outcomes ++ [outcome], t⟩ := by
  have stands := n.stands
  have bounded := Stands.bounded stands
  unfold BrokerState.Stands at stands
  cases ends with
  | failed error => exact n.quiet rfl rfl bounded
  | initial deadline now phase =>
    rw [phase] at stands
    exact n.quiet rfl rfl ⟨stands.1, stands.2, rfl⟩
  | replacement deadline phase room far fits =>
    rename_i current now
    rw [phase] at stands
    obtain ⟨positive, bound, -, sequence⟩ := stands
    refine n.quiet rfl rfl ⟨positive, bound, ?_⟩
    rw [UInt64.toNat_add]
    change (current.sequence.toNat + 1) % 2 ^ 64 = _
    rw [Nat.mod_eq_of_lt fits, sequence]
  | succeeded phase nonzero identified =>
    rename_i operation sequence deadline identity
    rw [phase] at stands
    have succeeds : committed (h.packets ++
        [⟨operation, .success, h.state.epoch, sequence, identity⟩]) =
          committed h.packets + 1 := by
      rw [committed_concat]
      rfl
    -- the number reserved is the next one, for either operation
    have next : sequence.toNat = committed h.packets + 1 ∧
        (operation = .initial ↔ committed h.packets = 0) ∧
        committed h.packets ≤ h.state.replacementAttempts := by
      cases operation with
      | initial =>
        obtain ⟨none, attempts, first⟩ := stands
        exact ⟨by omega, by simp [none], by omega⟩
      | replacement =>
        obtain ⟨positive, bound, first⟩ := stands
        exact ⟨first, by simp; omega, bound⟩
    refine n.sent rfl rfl ⟨?_, ?_, ?_⟩ ?_
    · simp [BrokerPacket.validShape, h.state.nonzero, nonzero, identified]
    · intro _
      exact ⟨n.same, next.1, next.2.1⟩
    · intro failure
      exact absurd rfl failure
    · rw [succeeds]
      exact ⟨Nat.succ_pos _, Nat.succ_le_succ next.2.2, rfl, next.1⟩
  | refused phase closed =>
    rename_i status sequence deadline
    rw [phase] at stands
    have failure := closed_ne_success closed
    refine n.sent rfl rfl ⟨?_, ?_, ?_⟩ ?_
    · exact validShape_refused closed
    · intro success
      exact absurd success failure
    · intro _
      refine ⟨fun _ => ⟨rfl, rfl⟩, ?_⟩
      rintro ⟨⟩
    · rw [committed_failure failure]
      exact bounded
  | kept phase closed =>
    rename_i status sequence deadline
    rw [phase] at stands
    obtain ⟨positive, bound, reserved⟩ := stands
    have failure := closed_ne_success closed
    have previous : (sequence - 1).toNat = committed h.packets := by
      have least : (1 : UInt64) ≤ sequence := by
        rw [UInt64.le_iff_toNat_le, reserved]
        exact Nat.succ_le_succ (Nat.zero_le _)
      rw [UInt64.toNat_sub_of_le _ _ least, reserved]
      rfl
    have nonzero : sequence - 1 ≠ 0 := by
      intro zero
      rw [zero] at previous
      exact Nat.ne_of_gt positive previous.symm
    refine n.sent rfl rfl ⟨?_, ?_, ?_⟩ ?_
    · exact validShape_kept closed h.state.nonzero nonzero
    · intro success
      exact absurd success failure
    · intro _
      refine ⟨?_, fun _ => ⟨n.same, previous⟩⟩
      rintro ⟨⟩
    · rw [committed_failure failure]
      exact ⟨positive, Nat.le_succ_of_le bound, rfl, previous⟩

theorem Paced.quiet (p : Paced h) (silent : outcome.replacement = none)
    (attempts : t.replacementAttempts = h.state.replacementAttempts)
    (last : t.lastReplacement = h.state.lastReplacement) :
    Paced ⟨h.outcomes ++ [outcome], t⟩ := by
  have replacements : (⟨h.outcomes ++ [outcome], t⟩ : History Deadline).replacements =
      h.replacements := by
    rw [replacements_concat (s := h.state), silent]
    exact append_nil _
  constructor
  · rw [replacements]
    exact attempts.trans p.attempts
  · exact Nat.le_trans (Nat.le_of_eq attempts) p.limited
  · rw [replacements]
    exact last.trans p.last
  · rw [replacements]
    exact p.spaced

theorem Paced.step (p : Paced h) (ends : Ends h.state outcome t) :
    Paced ⟨h.outcomes ++ [outcome], t⟩ := by
  cases ends with
  | replacement deadline phase room far fits =>
    rename_i current now
    have replacements := fun t => replacements_concat (s := h.state) (t := t) (o :=
      .begun ⟨.replacement, ⟨h.state.epoch, current.sequence + 1⟩, deadline⟩ now) h.outcomes
    constructor
    · rw [replacements, length_append]
      exact congrArg (· + 1) p.attempts
    · exact room
    · rw [replacements]
      exact getLast?_concat.symm
    · rw [replacements]
      exact spaced_concat p.spaced (p.last ▸ far)
  | failed | initial | succeeded | refused | kept => exact p.quiet rfl rfl rfl

/-- The success packets sent are numbered from one, and only the first of them is that of an
initial request. -/
theorem successes_numbered (follows : Justified (BrokerPacket.Follows epoch) packets) :
    (packets.filter (·.succeeds)).map (fun packet => (packet.epoch, packet.sequence.toNat)) =
        (List.range (committed packets)).map (fun i => (epoch, i + 1)) ∧
      (packets.filter (·.succeeds)).countP (fun packet => packet.operation = .initial) =
        min (committed packets) 1 := by
  induction packets using reverseRecOn with
  | nil => exact ⟨rfl, rfl⟩
  | append_singleton rest packet ih =>
    obtain ⟨earlier, last⟩ := justified_snoc.mp follows
    obtain ⟨numbers, initials⟩ := ih earlier
    rw [filter_append, map_append, countP_append, numbers, initials, committed_concat,
      filter_singleton]
    cases succeeds : packet.succeeds with
    | false => simp
    | true =>
      obtain ⟨same, next, first⟩ := last.success (of_decide_eq_true succeeds)
      refine ⟨by simp [List.range_succ, same, next], ?_⟩
      by_cases initial : packet.operation = .initial
      · have none := first.mp initial
        simp [initial, none]
      · have some := mt first.mpr initial
        simp [initial]
        omega

end Run

theorem new_eq_ok (fresh : BrokerState.new epoch = .ok s) :
    s.epoch = epoch ∧ s.phase = .new ∧ s.replacementAttempts = 0 ∧ s.lastReplacement = none := by
  unfold BrokerState.new at fresh
  split at fresh
  · cases fresh
  · cases fresh
    exact ⟨rfl, rfl, rfl, rfl⟩

variable [DecidableEq Deadline]

/-- The run of a new state is numbered and paced. -/
theorem run_sound {epoch : Bytes 16} {s : BrokerState Deadline}
    (fresh : BrokerState.new epoch = .ok s)
    (calls : List (Call Deadline)) : Numbered epoch (s.run calls) ∧ Paced (s.run calls) := by
  obtain ⟨same, phase, attempts, last⟩ := new_eq_ok fresh
  have start : Numbered epoch (⟨[], s⟩ : History Deadline) ∧
      Paced (⟨[], s⟩ : History Deadline) := by
    refine ⟨⟨same, ?_, ?_⟩, attempts, ?_, last, .nil⟩
    · exact Justified.nil _
    · rw [BrokerState.Stands, phase]
      exact ⟨rfl, attempts⟩
    · rw [attempts]
      exact Nat.zero_le _
  refine (Runs.Run.foldl History.call ⟨[], s⟩ calls).invariant
    (P := fun h => Numbered epoch h ∧ Paced h) ?_ start
  rintro h call t ⟨numbered, paced⟩ rfl
  exact ⟨numbered.step (call_ends h.state call), paced.step (call_ends h.state call)⟩

/-- Whatever is called on a new state, and whatever the clock and the socket answer: the success
packets carry the epoch of the state and the numbers one, two, three and so on, at most one of
them for an initial request and at most eight for replacements. A failure packet carries the zero
generation for an initial request, and for a replacement the epoch and the number of the last
success. Replacements begin at least 100 ms apart. An error makes the state terminal, which it
then stays. Every packet that is sent is of valid shape and decodes to itself. -/
theorem generations_numbered (epoch : Bytes 16) (s : BrokerState Deadline)
    (fresh : BrokerState.new epoch = .ok s) (calls : List (Call Deadline)) :
    let h := s.run calls
    let successes := h.packets.filter (·.succeeds)
    successes.map (fun packet => (packet.epoch, packet.sequence.toNat)) =
        (List.range successes.length).map (fun i => (epoch, i + 1)) ∧
      successes.countP (fun packet => packet.operation = .initial) ≤ 1 ∧
      successes.countP (fun packet => packet.operation = .replacement) ≤ maxReplacements ∧
      (∀ before packet after, h.packets = before ++ packet :: after →
        packet.status ≠ .success →
          (packet.operation = .initial → packet.epoch = Bytes.zero 16 ∧ packet.sequence = 0) ∧
          (packet.operation = .replacement → packet.epoch = epoch ∧
            packet.sequence.toNat = (before.filter (·.succeeds)).length)) ∧
      h.replacements.Pairwise (· + minReplacementInterval ≤ ·) ∧
      (∀ call, (h.state.phase = .terminal ∨ ∃ error, (h.state.call call).1 = .failed error) →
        (h.state.call call).2 = { h.state with phase := .terminal }) ∧
      ∀ packet ∈ h.packets, packet.validateShape = .ok ⟨⟩ ∧
        BrokerPacket.decode packet.encode = .ok packet := by
  intro h successes
  obtain ⟨numbered, paced⟩ := run_sound fresh calls
  have count : successes.countP (fun packet => packet.operation = .initial) =
      min (committed h.packets) 1 := (successes_numbered numbered.follows).2
  have bounded : committed h.packets ≤ h.state.replacementAttempts + 1 :=
    Stands.bounded numbered.stands
  have limited : h.state.replacementAttempts ≤ maxReplacements := paced.limited
  refine ⟨(successes_numbered numbered.follows).1, ?_, ?_, ?_, paced.spaced, ?_, ?_⟩
  · rw [count]
    exact Nat.min_le_right _ _
  · have parts := length_eq_countP_add_countP (fun packet : BrokerPacket =>
      packet.operation = .initial) (l := successes)
    have others : successes.countP (fun packet => packet.operation = .replacement) =
        successes.countP (fun packet => ¬ decide (packet.operation = .initial) = true) := by
      congr 1
      funext packet
      cases packet.operation <;> rfl
    have total : successes.length = committed h.packets := rfl
    rw [others]
    omega
  · intro before packet after split failure
    exact (numbered.follows before packet after split).failure failure
  · intro call fails
    have ends := call_ends h.state call
    obtain ⟨error, failed⟩ : ∃ error, (h.state.call call).1 = .failed error := by
      rcases fails with terminal | failed
      · exact (ends.of_terminal terminal).2
      · exact failed
    rw [failed] at ends
    exact ends.of_failed
  · intro packet member
    obtain ⟨before, after, split⟩ := append_of_mem member
    have shape := (numbered.follows before packet after split).shape
    exact ⟨refuse_eq_ok.mpr (by rw [shape]; decide), decode_encode packet shape⟩

end Broker

section Sample

def sampleEpoch : Bytes 16 := List.Vector.replicate 16 7
def sampleIdentity : Bytes 32 := List.Vector.replicate 32 9

def sampleState : BrokerState Unit := ⟨sampleEpoch, by decide, .new, none, 0, none⟩

theorem new_sampleState : BrokerState.new sampleEpoch = .ok sampleState := rfl

/-- The initial handoff succeeds; the first replacement is answered with a closed failure. -/
def sampleCalls : List (Call Unit) :=
  [.beginPacket ⟨.initial, .request, Bytes.zero 16, 0, Bytes.zero 32⟩ () 0,
    .commitSuccess ⟨.initial, ⟨sampleEpoch, 1⟩, ()⟩
      ⟨⟨sampleEpoch, 1⟩, sampleIdentity, by decide, by decide⟩ true,
    .beginPacket ⟨.replacement, .request, sampleEpoch, 1, Bytes.zero 32⟩ () 0,
    .commitFailure ⟨.replacement, ⟨sampleEpoch, 2⟩, ()⟩ .unavailable true]

theorem packets_sampleCalls : (sampleState.run sampleCalls).packets =
    [⟨.initial, .success, sampleEpoch, 1, sampleIdentity⟩,
      ⟨.replacement, .unavailable, sampleEpoch, 1, Bytes.zero 32⟩] := by
  decide +kernel

theorem generations_numbered_sample :
    (sampleState.run sampleCalls).packets.length = 2 ∧
      ((sampleState.run sampleCalls).packets.filter (·.succeeds)).map
          (fun packet => (packet.epoch, packet.sequence.toNat)) = [(sampleEpoch, 1)] ∧
      ∀ packet ∈ (sampleState.run sampleCalls).packets,
        BrokerPacket.decode packet.encode = .ok packet := by
  obtain ⟨numbered, -, -, -, -, -, decoded⟩ :=
    generations_numbered sampleEpoch sampleState new_sampleState sampleCalls
  refine ⟨by rw [packets_sampleCalls]; rfl, ?_, fun packet member => (decoded packet member).2⟩
  rw [numbered, packets_sampleCalls]
  rfl

/-- A failure packet repeats the number of the last success: not all packets that are sent are
numbered one after the other. -/
theorem not_every_packet_numbered :
    ¬ ∀ (epoch : Bytes 16) (s : BrokerState Unit), BrokerState.new epoch = .ok s →
      ∀ calls : List (Call Unit),
        (s.run calls).packets.map (fun packet => (packet.epoch, packet.sequence.toNat)) =
          (List.range (s.run calls).packets.length).map fun i => (epoch, i + 1) := by
  intro claimed
  have numbered := claimed sampleEpoch sampleState new_sampleState sampleCalls
  rw [packets_sampleCalls] at numbered
  revert numbered
  decide

end Sample

end AgentSystemsBenchmark.Handoff
