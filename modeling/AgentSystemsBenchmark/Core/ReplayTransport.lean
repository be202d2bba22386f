import AgentSystemsBenchmark.Core.Budget
import AgentSystemsBenchmark.Library.Framing
import AgentSystemsBenchmark.Library.Utf8

/-!
# Envelopes of the replay transport

The runtime and the command line exchange envelopes: a header with three lengths of different
widths, two identities and a payload. An index outside the input would end the reader in a panic,
so reading a byte string has three ends: an envelope, a refusal, or an access out of bounds.
-/

namespace AgentSystemsBenchmark.ReplayTransport

open Budget Effects Framing Numerals

def magic : List UInt8 := [65, 83, 66, 82]
def version : UInt8 := 1
def maxGeneration : Nat := 128
def maxRequestId : Nat := 128
def maxPayload : Nat := 1024 * 1024
def headerBytes : Nat := 13
def usizeMax : Nat := 2 ^ 64 - 1

inductive ReplayTransportError where
  | invalidEnvelope | staleGeneration | duplicateRequest
  deriving DecidableEq, Repr

/-- The ends of a call that gives no value. -/
inductive Stop where
  | refused (error : ReplayTransportError)
  | outOfBounds
  deriving DecidableEq, Repr

abbrev Result := Except Stop

def invalid : Stop := .refused .invalidEnvelope

/-- The fields of an envelope, of a request and of a response alike. -/
structure Envelope where
  generation : String
  requestId : String
  payload : List UInt8
  deriving DecidableEq

structure ReplayRequest extends Envelope
  deriving DecidableEq

structure ReplayResponse extends Envelope
  deriving DecidableEq

def identityByte (byte : UInt8) : Bool := isAsciiAlphanumeric byte || byte == 45 || byte == 95

def validateParts (generation requestId : String) (payload : Nat) : Result Unit :=
  refuse (generation.utf8ByteSize = 0 ∨ generation.utf8ByteSize > maxGeneration ∨
    ¬ (bytes generation).all identityByte ∨ requestId.utf8ByteSize = 0 ∨
    requestId.utf8ByteSize > maxRequestId ∨ ¬ (bytes requestId).all identityByte ∨
    payload > maxPayload) invalid

/-- The header and the fields behind it. -/
def Envelope.pieces (envelope : Envelope) : List (List UInt8) :=
  [magic, [version], beBytes 2 envelope.generation.utf8ByteSize,
    beBytes 2 envelope.requestId.utf8ByteSize, beBytes 4 envelope.payload.length,
    bytes envelope.generation, bytes envelope.requestId, envelope.payload]

/-- The lengths must fit the fields of the header. -/
def encode (generation requestId : String) (payload : List UInt8) : Result (List UInt8) := do
  refuse (generation.utf8ByteSize > 0xffff) invalid
  refuse (requestId.utf8ByteSize > 0xffff) invalid
  refuse (payload.length > 0xffffffff) invalid
  pure (Envelope.pieces ⟨generation, requestId, payload⟩).flatten

/-- An access panics outside the input. -/
def access (input : List UInt8) (start stop : Nat) : Result (List UInt8) :=
  (slice input start stop).getDM (.error .outOfBounds)

def fromUtf8 (input : List UInt8) : Result String := (Utf8.decode input).getDM (.error invalid)

def decode (input : List UInt8) : Result Envelope := do
  refuse (input.length < headerBytes) invalid
  let mark ← access input 0 4
  refuse (mark ≠ magic) invalid
  let number ← access input 4 5
  refuse (number ≠ [version]) invalid
  let gl := beValue (← access input 5 7)
  let il := beValue (← access input 7 9)
  let pl := beValue (← access input 9 13)
  let total := headerBytes + gl + il + pl
  refuse (total > usizeMax) invalid
  refuse (total ≠ input.length ∨ gl > maxGeneration ∨ il > maxRequestId ∨ pl > maxPayload) invalid
  let generation ← fromUtf8 (← access input headerBytes (headerBytes + gl))
  let requestId ← fromUtf8 (← access input (headerBytes + gl) (headerBytes + gl + il))
  validateParts generation requestId pl
  let payload ← access input (headerBytes + gl + il) input.length
  pure ⟨generation, requestId, payload⟩

def Envelope.validate (envelope : Envelope) : Result Unit :=
  validateParts envelope.generation envelope.requestId envelope.payload.length

def Envelope.encode (envelope : Envelope) : Result (List UInt8) := do
  envelope.validate
  ReplayTransport.encode envelope.generation envelope.requestId envelope.payload

def ReplayRequest.new (generation requestId : String) (payload : List UInt8) :
    Result ReplayRequest := do
  let value : ReplayRequest := ⟨⟨generation, requestId, payload⟩⟩
  value.validate
  pure value

def ReplayRequest.encode (request : ReplayRequest) : Result (List UInt8) :=
  request.toEnvelope.encode

def ReplayRequest.decode (input : List UInt8) : Result ReplayRequest := do
  let ⟨generation, requestId, payload⟩ ← ReplayTransport.decode input
  ReplayRequest.new generation requestId payload

def ReplayResponse.new (generation requestId : String) (payload : List UInt8) :
    Result ReplayResponse := do
  let value : ReplayResponse := ⟨⟨generation, requestId, payload⟩⟩
  value.validate
  pure value

def ReplayResponse.encode (response : ReplayResponse) : Result (List UInt8) :=
  response.toEnvelope.encode

def ReplayResponse.decode (input : List UInt8) : Result ReplayResponse := do
  let ⟨generation, requestId, payload⟩ ← ReplayTransport.decode input
  ReplayResponse.new generation requestId payload

/-! ## Reading what was written -/

section Envelopes
variable {envelope : Envelope} {input : List UInt8}

theorem access_eq_ok :
    access input start stop = .ok x ↔ slice input start stop = some x := getDM_eq_ok

theorem fromUtf8_eq_ok : fromUtf8 input = .ok text ↔ input = bytes text :=
  getDM_eq_ok.trans Utf8.decode_eq_some

theorem bounds_of_validate (valid : envelope.validate = .ok ()) :
    envelope.generation.utf8ByteSize ≤ maxGeneration ∧
      envelope.requestId.utf8ByteSize ≤ maxRequestId ∧ envelope.payload.length ≤ maxPayload := by
  have passed := refuse_eq_ok.mp valid
  push Not at passed
  exact ⟨passed.2.1, passed.2.2.2.2.1, passed.2.2.2.2.2.2⟩

theorem encode_eq_ok {written : List UInt8} : envelope.encode = .ok written ↔
    envelope.validate = .ok () ∧ written = envelope.pieces.flatten := by
  rw [Envelope.encode, seq_eq_ok]
  refine and_congr_right fun valid => ?_
  obtain ⟨generation, requestId, payload⟩ := bounds_of_validate valid
  simp only [maxGeneration, maxRequestId, maxPayload] at generation requestId payload
  rw [ReplayTransport.encode, seq_eq_ok, seq_eq_ok, seq_eq_ok, refuse_eq_ok, refuse_eq_ok,
    refuse_eq_ok, pure_eq_ok]
  constructor
  · rintro ⟨-, -, -, same⟩
    exact same.symm
  · rintro rfl
    exact ⟨by omega, by omega, by omega, rfl⟩

/-- The fields are found where the header says. -/
theorem decode_flatten (valid : envelope.validate = .ok ()) :
    decode envelope.pieces.flatten = .ok envelope := by
  obtain ⟨generation, requestId, payload⟩ := bounds_of_validate valid
  simp only [maxGeneration, maxRequestId, maxPayload] at generation requestId payload
  have gl :
      beValue (beBytes 2 envelope.generation.utf8ByteSize) = envelope.generation.utf8ByteSize :=
    beValue_beBytes (by omega)
  have il : beValue (beBytes 2 envelope.requestId.utf8ByteSize) = envelope.requestId.utf8ByteSize :=
    beValue_beBytes (by omega)
  have pl : beValue (beBytes 4 envelope.payload.length) = envelope.payload.length :=
    beValue_beBytes (by omega)
  have total : envelope.pieces.flatten.length = headerBytes + envelope.generation.utf8ByteSize +
      envelope.requestId.utf8ByteSize + envelope.payload.length := by
    simp only [Envelope.pieces, List.flatten_cons, List.flatten_nil, List.length_append,
      length_beBytes, length_bytes, List.length_nil, magic, List.length_cons, headerBytes]
    omega
  have piece : ∀ (before : List (List UInt8)) (x : List UInt8) (after : List (List UInt8))
      (start stop : Nat), envelope.pieces = before ++ x :: after →
      start = before.flatten.length → stop = start + x.length →
      access envelope.pieces.flatten start stop = .ok x := by
    intro before x after start stop split begins ends
    rw [split, access_eq_ok]
    exact slice_flatten before x after begins ends
  rw [decode, seq_eq_ok]
  refine ⟨refuse_eq_ok.mpr (by omega), bind_eq_ok.mpr ⟨magic, piece [] _ _ _ _ rfl rfl rfl, ?_⟩⟩
  refine guard_eq_ok.mpr ⟨(by simp), bind_eq_ok.mpr ⟨[version],
    piece [magic] _ _ _ _ rfl rfl rfl, ?_⟩⟩
  refine guard_eq_ok.mpr ⟨(by simp), bind_eq_ok.mpr ⟨_,
    piece [magic, [version]] _ _ _ _ rfl rfl (by simp), ?_⟩⟩
  refine bind_eq_ok.mpr ⟨_, piece [magic, [version], _] _ _ _ _ rfl (by simp [magic]) (by simp), ?_⟩
  refine bind_eq_ok.mpr
    ⟨_, piece [magic, [version], _, _] _ _ _ _ rfl (by simp [magic]) (by simp), ?_⟩
  simp only [gl, il, pl]
  refine guard_eq_ok.mpr ⟨(by unfold headerBytes usizeMax; omega), ?_⟩
  refine guard_eq_ok.mpr ⟨?_, ?_⟩
  · simp only [maxGeneration, maxRequestId, maxPayload]
    omega
  refine bind_eq_ok.mpr ⟨bytes envelope.generation, piece [magic, [version], _, _, _] _ _ _ _ rfl
    (by simp [magic, headerBytes]) (by rw [length_bytes]), ?_⟩
  refine bind_eq_ok.mpr ⟨_, fromUtf8_eq_ok.mpr rfl, ?_⟩
  refine bind_eq_ok.mpr ⟨bytes envelope.requestId, piece [magic, [version], _, _, _, _] _ _ _ _ rfl
    (by simp [magic, headerBytes, length_bytes]; omega) (by rw [length_bytes]), ?_⟩
  refine bind_eq_ok.mpr ⟨_, fromUtf8_eq_ok.mpr rfl, ?_⟩
  refine seq_eq_ok.mpr ⟨valid, ?_⟩
  exact bind_eq_ok.mpr ⟨envelope.payload, piece [magic, [version], _, _, _, _, _] _ _ _ _ rfl
    (by simp [magic, headerBytes, length_bytes]; omega) (by omega), rfl⟩

/-- An accepted input is what its envelope is written as. -/
theorem eq_flatten_of_decode (read : decode input = .ok envelope) :
    envelope.validate = .ok () ∧ input = envelope.pieces.flatten := by
  obtain ⟨-, read⟩ := seq_eq_ok.mp read
  obtain ⟨mark, first, read⟩ := bind_eq_ok.mp read
  obtain ⟨marked, read⟩ := seq_eq_ok.mp read
  obtain ⟨number, second, read⟩ := bind_eq_ok.mp read
  obtain ⟨numbered, read⟩ := seq_eq_ok.mp read
  obtain ⟨gl, third, read⟩ := bind_eq_ok.mp read
  obtain ⟨il, fourth, read⟩ := bind_eq_ok.mp read
  obtain ⟨pl, fifth, read⟩ := bind_eq_ok.mp read
  obtain ⟨-, read⟩ := seq_eq_ok.mp read
  obtain ⟨sizes, read⟩ := seq_eq_ok.mp read
  obtain ⟨front, sixth, read⟩ := bind_eq_ok.mp read
  obtain ⟨generation, named, read⟩ := bind_eq_ok.mp read
  obtain ⟨middle, seventh, read⟩ := bind_eq_ok.mp read
  obtain ⟨requestId, asked, read⟩ := bind_eq_ok.mp read
  obtain ⟨valid, read⟩ := seq_eq_ok.mp read
  obtain ⟨payload, last, read⟩ := bind_eq_ok.mp read
  cases read
  rw [access_eq_ok] at first second third fourth fifth sixth seventh last
  obtain rfl := not_not.mp (refuse_eq_ok.mp marked)
  obtain rfl := not_not.mp (refuse_eq_ok.mp numbered)
  obtain rfl := fromUtf8_eq_ok.mp named
  obtain rfl := fromUtf8_eq_ok.mp asked
  have total := (not_or.mp (refuse_eq_ok.mp sizes)).1
  have size := length_slice sixth
  have size' := length_slice seventh
  have rest := length_slice last
  rw [length_bytes] at size size'
  -- the lengths in the header are those of the fields
  have gl' : beBytes 2 generation.utf8ByteSize = gl := by
    rw [size, Nat.add_sub_cancel_left, beBytes_beValue (length_slice third)]
  have il' : beBytes 2 requestId.utf8ByteSize = il := by
    rw [size', Nat.add_sub_cancel_left, beBytes_beValue (length_slice fourth)]
  have counted : payload.length = beValue pl := by omega
  have pl' : beBytes 4 payload.length = pl := by
    rw [counted, beBytes_beValue (length_slice fifth)]
  refine ⟨by rw [Envelope.validate, counted]; exact valid, ?_⟩
  have whole :=
    slice_whole (slice_join first (slice_join second (slice_join third (slice_join fourth
    (slice_join fifth (slice_join sixth (slice_join seventh last)))))))
  simpa [Envelope.pieces, gl', il', pl'] using whole

/-! ## No access is out of bounds -/

/-- The call does not panic. -/
def Safe {α : Type} (result : Result α) : Prop := result ≠ .error .outOfBounds

theorem safe_bind {α β : Type} {result : Result α} {next : α → Result β} (safe : Safe result)
    (later : ∀ value, result = .ok value → Safe (next value)) : Safe (result >>= next) := by
  intro panics
  rcases bind_eq_error.mp panics with here | ⟨value, ok, there⟩
  · exact safe here
  · exact later value ok there

theorem safe_refuse (p : Prop) [Decidable p] : Safe (refuse p invalid) := by
  intro panics
  cases (refuse_eq_error.mp panics).2

theorem safe_access {start stop : Nat} (order : start ≤ stop) (within : stop ≤ input.length) :
    Safe (access input start stop) := by
  rw [access, slice, if_pos ⟨order, within⟩]
  rintro ⟨⟩

theorem safe_fromUtf8 : Safe (fromUtf8 input) := by
  unfold fromUtf8
  cases Utf8.decode input <;> exact nofun

theorem safe_decode (input : List UInt8) : Safe (decode input) := by
  refine safe_bind (safe_refuse _) fun _ long => ?_
  have long := refuse_eq_ok.mp long
  simp only [headerBytes] at long
  refine safe_bind (safe_access (by omega) (by omega)) fun _ _ => ?_
  refine safe_bind (safe_refuse _) fun _ _ => ?_
  refine safe_bind (safe_access (by omega) (by omega)) fun _ _ => ?_
  refine safe_bind (safe_refuse _) fun _ _ => ?_
  refine safe_bind (safe_access (by omega) (by omega)) fun gl _ => ?_
  refine safe_bind (safe_access (by omega) (by omega)) fun il _ => ?_
  refine safe_bind (safe_access (by omega) (by omega)) fun pl _ => ?_
  refine safe_bind (safe_refuse _) fun _ _ => ?_
  refine safe_bind (safe_refuse _) fun _ sizes => ?_
  have total := (not_or.mp (refuse_eq_ok.mp sizes)).1
  refine safe_bind (safe_access (by omega) (by omega)) fun _ _ => ?_
  refine safe_bind safe_fromUtf8 fun _ _ => ?_
  refine safe_bind (safe_access (by omega) (by omega)) fun _ _ => ?_
  refine safe_bind safe_fromUtf8 fun _ _ => ?_
  refine safe_bind (safe_refuse _) fun _ _ => ?_
  exact safe_bind (safe_access (by omega) (by omega)) fun _ _ => nofun

end Envelopes

theorem ReplayRequest.decode_eq_ok :
    ReplayRequest.decode input = .ok request ↔ request.encode = .ok input := by
  rw [ReplayRequest.encode, encode_eq_ok, ReplayRequest.decode, bind_eq_ok]
  constructor
  · rintro ⟨envelope, read, made⟩
    obtain rfl := pure_eq_ok.mp (seq_eq_ok.mp made).2
    exact eq_flatten_of_decode read
  · rintro ⟨valid, rfl⟩
    exact ⟨_, decode_flatten valid, seq_eq_ok.mpr ⟨valid, rfl⟩⟩

theorem ReplayResponse.decode_eq_ok {input : List UInt8} {response : ReplayResponse} :
    ReplayResponse.decode input = .ok response ↔ response.encode = .ok input := by
  rw [ReplayResponse.encode, encode_eq_ok, ReplayResponse.decode, bind_eq_ok]
  constructor
  · rintro ⟨envelope, read, made⟩
    obtain rfl := pure_eq_ok.mp (seq_eq_ok.mp made).2
    exact eq_flatten_of_decode read
  · rintro ⟨valid, rfl⟩
    exact ⟨_, decode_flatten valid, seq_eq_ok.mpr ⟨valid, rfl⟩⟩

/-- Envelopes and accepted byte strings determine each other, and no input makes the reader
panic. -/
theorem envelopes_bijective :
    (∀ generation requestId payload request,
      ReplayRequest.new generation requestId payload = .ok request →
        ∃ written, request.encode = .ok written ∧ ReplayRequest.decode written = .ok request) ∧
    (∀ input request, ReplayRequest.decode input = .ok request → request.encode = .ok input) ∧
    (∀ input, ReplayRequest.decode input ≠ .error .outOfBounds) ∧
    (∀ generation requestId payload response,
      ReplayResponse.new generation requestId payload = .ok response →
        ∃ written, response.encode = .ok written ∧
          ReplayResponse.decode written = .ok response) ∧
    (∀ input response, ReplayResponse.decode input = .ok response →
      response.encode = .ok input) ∧
    ∀ input, ReplayResponse.decode input ≠ .error .outOfBounds := by
  refine ⟨?_, fun _ _ => ReplayRequest.decode_eq_ok.mp, fun input => ?_, ?_,
    fun _ _ => ReplayResponse.decode_eq_ok.mp, fun input => ?_⟩
  · intro generation requestId payload request made
    obtain ⟨valid, ended⟩ := seq_eq_ok.mp made
    cases ended
    have written := encode_eq_ok.mpr ⟨valid, rfl⟩
    exact ⟨_, written, ReplayRequest.decode_eq_ok.mpr written⟩
  · exact safe_bind (safe_decode input) fun _ _ => safe_bind (safe_refuse _) fun _ _ => nofun
  · intro generation requestId payload response made
    obtain ⟨valid, ended⟩ := seq_eq_ok.mp made
    cases ended
    have written := encode_eq_ok.mpr ⟨valid, rfl⟩
    exact ⟨_, written, ReplayResponse.decode_eq_ok.mpr written⟩
  · exact safe_bind (safe_decode input) fun _ _ => safe_bind (safe_refuse _) fun _ _ => nofun

theorem envelopes_bijective_sample :
    ∃ written, ReplayRequest.encode ⟨⟨"g1", "r1", [7]⟩⟩ = .ok written ∧
      ReplayRequest.decode written = .ok ⟨⟨"g1", "r1", [7]⟩⟩ :=
  have valid : Envelope.validate ⟨"g1", "r1", [7]⟩ = .ok () := by decide +kernel
  envelopes_bijective.1 "g1" "r1" [7] _ (seq_eq_ok.mpr ⟨valid, rfl⟩)

end AgentSystemsBenchmark.ReplayTransport
