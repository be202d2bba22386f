import AgentSystemsBenchmark.Replay.Cursors

/-!
# Paced delivery

A response is delivered segment by segment at offsets that a pacing mode asks for. The
offsets of a mode that is accepted stay within the ceiling and never run backwards. The
cursor of a route moves exactly when the head and all segments were written and flushed,
whatever the clock, the cancellation and the writer do; the reservation is released either
way. Durations are counted in nanoseconds.
-/

namespace AgentSystemsBenchmark.Replay

open Effects Runs List

def maxPacingDelay : Nat := 300 * 10 ^ 9

/-- The longest duration there is. -/
def maxDuration : Nat := 2 ^ 64 * 10 ^ 9 - 1

inductive PacingMode where
  | immediate
  | fixed (timeToFirstSegment interSegment : Nat)
  | original
  | seededSynthetic (seed : UInt64) (minimumDelay maximumDelay : Nat)
      (failBeforeSegment : Option Nat)
  deriving DecidableEq

structure PacingConfig where
  mode : PacingMode
  maxSegmentWrite : Nat
  maxLateness : Nat
  cancellationPoll : Nat

inductive PacingError where
  | invalidConfiguration
  | cancelled (completedSegments : Nat)
  | syntheticFailure (completedSegments : Nat)
  | backpressure (completedSegments : Nat)
  | io
  /-- What an unchecked addition beyond its type would end in. -/
  | overflow
  deriving DecidableEq

def PacingError.completedSegments : PacingError → Nat
  | .cancelled n | .syntheticFailure n | .backpressure n => n
  | .invalidConfiguration | .io | .overflow => 0

def PacingConfig.validate (config : PacingConfig) : Except PacingError Unit := do
  refuse (config.maxSegmentWrite = 0 ∨ config.maxSegmentWrite > maxPacingDelay ∨
      config.maxLateness > maxPacingDelay ∨ config.cancellationPoll = 0 ∨
      config.cancellationPoll > 10 ^ 9)
    .invalidConfiguration
  match config.mode with
  | .fixed timeToFirstSegment interSegment =>
    refuse (timeToFirstSegment > maxPacingDelay ∨ interSegment > maxPacingDelay)
      .invalidConfiguration
  | .seededSynthetic _ minimumDelay maximumDelay _ =>
    refuse (minimumDelay > maximumDelay ∨ maximumDelay > maxPacingDelay) .invalidConfiguration
  | _ => return ()

/-! ## Offsets -/

def checkedDuration (nanoseconds : Nat) : Except PacingError Nat := do
  refuse (nanoseconds > maxDuration) .invalidConfiguration
  return nanoseconds

def fixedOffset (first inter index : Nat) : Except PacingError Nat := do
  refuse (index ≥ 2 ^ 32) .invalidConfiguration
  let delay ← checkedDuration (inter * index)
  let offset ← checkedDuration (first + delay)
  refuse (offset > maxPacingDelay) .invalidConfiguration
  return offset

/-- The offsets from an index on. -/
def fixedOffsets (first inter : Nat) : Nat → Nat → Except PacingError (List Nat)
  | _, 0 => .ok []
  | index, count + 1 => do
    let offset ← fixedOffset first inter index
    let offsets ← fixedOffsets first inter (index + 1) count
    return offset :: offsets

/-- The value that a state of the SplitMix64 generator gives. -/
def splitMix (seed : UInt64) : UInt64 :=
  let value := (seed ^^^ (seed >>> 30)) * 0xbf58476d1ce4e5b9
  let value := (value ^^^ (value >>> 27)) * 0x94d049bb133111eb
  value ^^^ (value >>> 31)

def uncheckedAdd (a b : UInt64) : Except PacingError UInt64 :=
  if a.toNat + b.toNat < 2 ^ 64 then .ok (a + b) else .error .overflow

def seededOffsets (minimum width : UInt64) :
    UInt64 → Nat → Nat → Except PacingError (List Nat)
  | _, _, 0 => .ok []
  | seed, cumulative, count + 1 => do
    let seed := seed + 0x9e3779b97f4a7c15
    let delay ← uncheckedAdd minimum (splitMix seed % width)
    let cumulative ← checkedDuration (cumulative + delay.toNat)
    refuse (cumulative > maxPacingDelay) .invalidConfiguration
    let offsets ← seededOffsets minimum width seed cumulative count
    return cumulative :: offsets

/-- A duration as a 64-bit count of nanoseconds. -/
def nanos (duration : Nat) : Except PacingError UInt64 :=
  if duration < 2 ^ 64 then .ok (.ofNat duration) else .error .invalidConfiguration

def desiredOffsets (mode : PacingMode) (count : Nat) (recorded : List Nat) :
    Except PacingError (List Nat) := do
  refuse (count > maxEvents ∨ recorded.length ≠ count ∨ ¬ recorded.IsChain (· ≤ ·) ∨
      recorded.getLast?.any (fun offset => decide (offset > maxPacingDelay)) = true)
    .invalidConfiguration
  match mode with
  | .immediate => return List.replicate count 0
  | .original => return recorded
  | .fixed first inter => fixedOffsets first inter 0 count
  | .seededSynthetic seed minimumDelay maximumDelay failBeforeSegment => do
    refuse (failBeforeSegment.any (fun index => decide (index ≥ count)) = true)
      .invalidConfiguration
    let minimum ← nanos minimumDelay
    let maximum ← nanos maximumDelay
    refuse (maximum < minimum ∨ (maximum - minimum).toNat + 1 ≥ 2 ^ 64) .invalidConfiguration
    seededOffsets minimum (maximum - minimum + 1) seed 0 count

/-- What a mode asks of its offsets. -/
def PacingMode.Meets (recorded : List Nat) (count : Nat) : PacingMode → List Nat → Prop
  | .immediate, offsets => offsets = List.replicate count 0
  | .original, offsets => offsets = recorded
  | .fixed first inter, offsets => offsets = (List.range count).map fun i => first + i * inter
  | .seededSynthetic _ minimum maximum _, offsets =>
    (0 :: offsets).IsChain fun a b => a + minimum ≤ b ∧ b ≤ a + maximum

theorem checkedDuration_ok (h : checkedDuration n = .ok m) : m = n := by
  rw [checkedDuration, seq_eq_ok] at h
  exact (pure_eq_ok.mp h.2).symm

variable {e : PacingError}

theorem checkedDuration_error (failed : checkedDuration n = .error e) :
    e = .invalidConfiguration := by
  rcases bind_eq_error.mp failed with bounding | ⟨_, -, ending⟩
  · exact (refuse_eq_error.mp bounding).2.symm
  · cases ending

variable {index first inter : Nat}

theorem fixedOffset_ok (h : fixedOffset first inter index = .ok offset) :
    offset = first + index * inter ∧ offset ≤ maxPacingDelay := by
  rw [fixedOffset, seq_eq_ok, bind_eq_ok] at h
  obtain ⟨-, delay, multiplied, h⟩ := h
  obtain ⟨sum, added, h⟩ := bind_eq_ok.mp h
  obtain ⟨bounded, h⟩ := seq_eq_ok.mp h
  cases pure_eq_ok.mp h
  rw [refuse_eq_ok, not_lt] at bounded
  rw [checkedDuration_ok multiplied] at added
  exact ⟨by rw [checkedDuration_ok added, Nat.mul_comm], bounded⟩

variable {count : Nat}

theorem fixedOffsets_ok (h : fixedOffsets first inter index count = .ok offsets) :
    offsets = (List.range' index count).map (fun i => first + i * inter) ∧
      ∀ o ∈ offsets, o ≤ maxPacingDelay := by
  induction count generalizing index offsets with
  | zero =>
    cases h
    exact ⟨rfl, nofun⟩
  | succ count ih =>
    rw [fixedOffsets, bind_eq_ok] at h
    obtain ⟨offset, computed, h⟩ := h
    obtain ⟨later, onward, h⟩ := bind_eq_ok.mp h
    cases pure_eq_ok.mp h
    obtain ⟨rfl, bounded⟩ := fixedOffset_ok computed
    obtain ⟨rfl, below⟩ := ih onward
    exact ⟨by rw [List.range'_succ, map_cons], forall_mem_cons.mpr ⟨bounded, below⟩⟩

/-! ### Seeded delays -/

/-- A delay is drawn from the interval, and the addition stays within its type. -/
theorem uncheckedAdd_ok {minimum maximum : UInt64} (value : UInt64) (ordered : minimum ≤ maximum)
    (narrow : (maximum - minimum).toNat + 1 < 2 ^ 64) :
    ∃ delay, uncheckedAdd minimum (value % (maximum - minimum + 1)) = .ok delay ∧
      minimum.toNat ≤ delay.toNat ∧ delay.toNat ≤ maximum.toNat := by
  have difference : (maximum - minimum).toNat = maximum.toNat - minimum.toNat :=
    UInt64.toNat_sub_of_le _ _ ordered
  have width : (maximum - minimum + 1).toNat = maximum.toNat - minimum.toNat + 1 := by
    rw [UInt64.toNat_add, difference]
    change (_ + 1) % 2 ^ 64 = _
    rw [difference] at narrow
    exact Nat.mod_eq_of_lt narrow
  have le : minimum.toNat ≤ maximum.toNat := ordered
  have below : (value % (maximum - minimum + 1)).toNat ≤ maximum.toNat - minimum.toNat := by
    rw [UInt64.toNat_mod, width]
    exact Nat.le_of_lt_succ (Nat.mod_lt _ (Nat.succ_pos _))
  have top := maximum.toNat_lt
  have fits : minimum.toNat + (value % (maximum - minimum + 1)).toNat < 2 ^ 64 := by omega
  refine ⟨_, if_pos fits, ?_⟩
  rw [UInt64.toNat_add, Nat.mod_eq_of_lt fits]
  omega

theorem seededOffsets_ok {minimum maximum : UInt64} (ordered : minimum ≤ maximum)
    (narrow : (maximum - minimum).toNat + 1 < 2 ^ 64) {seed : UInt64} :
    (∀ e, seededOffsets minimum (maximum - minimum + 1) seed cumulative count = .error e →
      e = .invalidConfiguration) ∧
      ∀ offsets, seededOffsets minimum (maximum - minimum + 1) seed cumulative count = .ok offsets →
        offsets.length = count ∧ (∀ o ∈ offsets, o ≤ maxPacingDelay) ∧
          (cumulative :: offsets).IsChain
            fun a b => a + minimum.toNat ≤ b ∧ b ≤ a + maximum.toNat := by
  induction count generalizing seed cumulative with
  | zero =>
    refine ⟨nofun, ?_⟩
    rintro _ ⟨⟩
    exact ⟨rfl, nofun, .singleton _⟩
  | succ count ih =>
    obtain ⟨delay, drawn, low, high⟩ :=
      uncheckedAdd_ok (splitMix (seed + 0x9e3779b97f4a7c15)) ordered narrow
    rw [seededOffsets, drawn]
    constructor
    · intro e failed
      rcases bind_eq_error.mp failed with drawing | ⟨_, -, failed⟩
      · cases drawing
      rcases bind_eq_error.mp failed with adding | ⟨sum, -, failed⟩
      · exact checkedDuration_error adding
      rcases bind_eq_error.mp failed with bounding | ⟨_, -, failed⟩
      · exact (refuse_eq_error.mp bounding).2.symm
      rcases bind_eq_error.mp failed with onward | ⟨_, -, ending⟩
      · exact ih.1 e onward
      · cases ending
    · intro offsets h
      obtain ⟨_, ⟨⟩, h⟩ := bind_eq_ok.mp h
      obtain ⟨sum, added, h⟩ := bind_eq_ok.mp h
      obtain ⟨bounded, h⟩ := seq_eq_ok.mp h
      obtain ⟨later, onward, h⟩ := bind_eq_ok.mp h
      cases pure_eq_ok.mp h
      obtain rfl := checkedDuration_ok added
      rw [refuse_eq_ok, not_lt] at bounded
      obtain ⟨length, below, chain⟩ := ih.2 later onward
      refine ⟨by rw [length_cons, length], forall_mem_cons.mpr ⟨bounded, below⟩, ?_⟩
      exact isChain_cons_cons.mpr ⟨⟨by omega, by omega⟩, chain⟩

theorem fixedOffset_error
    (failed : fixedOffset first inter index = .error e) : e = .invalidConfiguration := by
  rcases bind_eq_error.mp failed with bounding | ⟨_, -, failed⟩
  · exact (refuse_eq_error.mp bounding).2.symm
  rcases bind_eq_error.mp failed with multiplying | ⟨_, -, failed⟩
  · exact checkedDuration_error multiplying
  rcases bind_eq_error.mp failed with adding | ⟨_, -, failed⟩
  · exact checkedDuration_error adding
  rcases bind_eq_error.mp failed with bounding | ⟨_, -, ending⟩
  · exact (refuse_eq_error.mp bounding).2.symm
  · cases ending

theorem fixedOffsets_error
    (failed : fixedOffsets first inter index count = .error e) : e = .invalidConfiguration := by
  induction count generalizing index with
  | zero => cases failed
  | succ count ih =>
    rcases bind_eq_error.mp failed with computing | ⟨offset, -, failed⟩
    · exact fixedOffset_error computing
    rcases bind_eq_error.mp failed with onward | ⟨_, -, ending⟩
    · exact ih onward
    · cases ending

theorem nanos_ok (h : nanos duration = .ok n) : n.toNat = duration := by
  unfold nanos at h
  split at h
  case isTrue small =>
    cases h
    exact UInt64.toNat_ofNat_of_lt' small
  case isFalse => cases h

theorem nanos_error (failed : nanos duration = .error e) : e = .invalidConfiguration := by
  unfold nanos at failed
  split at failed <;> cases failed
  rfl

theorem pairwise_of_steps {offsets : List Nat}
    (chain : (cumulative :: offsets).IsChain fun a b => a + low ≤ b ∧ b ≤ a + high) :
    offsets.Pairwise (· ≤ ·) := by
  have ascending : (cumulative :: offsets).IsChain (· ≤ ·) :=
    chain.imp fun a b step => (Nat.le_add_right a low).trans step.1
  exact (isChain_iff_pairwise.mp ascending).of_cons

/-- What passes the first check of the offsets. -/
theorem recorded_bounded {recorded : List Nat} (ascending : recorded.IsChain (· ≤ ·))
    (last : ¬ recorded.getLast?.any (fun offset => decide (offset > maxPacingDelay)) = true) :
    recorded.Pairwise (· ≤ ·) ∧ ∀ o ∈ recorded, o ≤ maxPacingDelay := by
  have sorted := isChain_iff_pairwise.mp ascending
  refine ⟨sorted, fun o mem => ?_⟩
  rcases eq_nil_or_concat recorded with rfl | ⟨front, top, rfl⟩
  · cases mem
  rw [concat_eq_append] at sorted mem last
  rw [getLast?_concat] at last
  have below : top ≤ maxPacingDelay := by simpa using last
  rcases mem_append.mp mem with old | new
  · exact ((pairwise_append.mp sorted).2.2 o old top (mem_singleton.mpr rfl)).trans below
  · exact mem_singleton.mp new ▸ below

theorem pairwise_fixed (first inter count : Nat) :
    ((List.range count).map fun i => first + i * inter).Pairwise (· ≤ ·) := by
  rw [pairwise_map]
  refine pairwise_lt_range.imp fun {i j} less => ?_
  exact Nat.add_le_add_left (Nat.mul_le_mul_right inter less.le) first

theorem desiredOffsets_error {mode : PacingMode} {recorded : List Nat}
    (failed : desiredOffsets mode count recorded = .error e) :
    e = .invalidConfiguration := by
  rcases bind_eq_error.mp failed with shape | ⟨_, -, failed⟩
  · exact (refuse_eq_error.mp shape).2.symm
  cases mode with
  | immediate | original => cases failed
  | fixed first inter => exact fixedOffsets_error failed
  | seededSynthetic seed minimumDelay maximumDelay fails =>
    rcases bind_eq_error.mp failed with failing | ⟨_, -, failed⟩
    · exact (refuse_eq_error.mp failing).2.symm
    rcases bind_eq_error.mp failed with converting | ⟨minimum, -, failed⟩
    · exact nanos_error converting
    rcases bind_eq_error.mp failed with converting | ⟨maximum, -, failed⟩
    · exact nanos_error converting
    rcases bind_eq_error.mp failed with widening | ⟨_, widened, failed⟩
    · exact (refuse_eq_error.mp widening).2.symm
    obtain ⟨ordered, narrow⟩ := not_or.mp (refuse_eq_ok.mp widened)
    exact (seededOffsets_ok (UInt64.not_lt.mp ordered) (not_le.mp narrow)).1 e failed

theorem desiredOffsets_ok {mode : PacingMode} {recorded offsets : List Nat}
    (h : desiredOffsets mode count recorded = .ok offsets) :
    offsets.length = count ∧ offsets.Pairwise (· ≤ ·) ∧ (∀ o ∈ offsets, o ≤ maxPacingDelay) ∧
      mode.Meets recorded count offsets := by
  unfold desiredOffsets at h
  obtain ⟨shape, h⟩ := seq_eq_ok.mp h
  rw [refuse_eq_ok] at shape
  push Not at shape
  obtain ⟨-, length, ascending, last⟩ := shape
  cases mode with
  | immediate =>
    cases pure_eq_ok.mp h
    refine ⟨length_replicate, pairwise_replicate_of_refl, fun o mem => ?_, rfl⟩
    rw [eq_of_mem_replicate mem]
    exact Nat.zero_le _
  | original =>
    cases pure_eq_ok.mp h
    obtain ⟨sorted, bounded⟩ := recorded_bounded ascending last
    exact ⟨length, sorted, bounded, rfl⟩
  | fixed first inter =>
    obtain ⟨rfl, bounded⟩ := fixedOffsets_ok h
    rw [← List.range_eq_range'] at bounded ⊢
    exact ⟨by rw [length_map, length_range], pairwise_fixed first inter count, bounded, rfl⟩
  | seededSynthetic seed minimumDelay maximumDelay fails =>
    obtain ⟨-, h⟩ := seq_eq_ok.mp h
    obtain ⟨minimum, low, h⟩ := bind_eq_ok.mp h
    obtain ⟨maximum, high, h⟩ := bind_eq_ok.mp h
    obtain ⟨widened, h⟩ := guard_eq_ok.mp h
    obtain ⟨ordered, narrow⟩ := not_or.mp widened
    obtain ⟨length, bounded, chain⟩ :=
      (seededOffsets_ok (UInt64.not_lt.mp ordered) (not_le.mp narrow)).2 offsets h
    rw [nanos_ok low, nanos_ok high] at chain
    exact ⟨length, pairwise_of_steps chain, bounded, chain⟩

/-- The schedule of an accepted mode: an offset for each segment, in order and below the ceiling,
as the mode asks, and no arithmetic leaves its type on the way. -/
theorem desired_offsets_safe (mode : PacingMode) (count : Nat) (recorded : List Nat) :
    desiredOffsets mode count recorded ≠ .error .overflow ∧
      ∀ offsets, desiredOffsets mode count recorded = .ok offsets →
        offsets.length = count ∧ offsets.Pairwise (· ≤ ·) ∧ (∀ o ∈ offsets, o ≤ maxPacingDelay) ∧
          mode.Meets recorded count offsets := by
  constructor
  · intro failed
    cases desiredOffsets_error failed
  · intro offsets h
    exact desiredOffsets_ok h

theorem desired_offsets_safe_sample :
    (desiredOffsets (.fixed 1 2) 3 [0, 0, 4] = .ok [1, 3, 5] ∧ [1, 3, 5].Pairwise (· ≤ ·)) ∧
      desiredOffsets (.seededSynthetic 7 2 9 (some 1)) 3 [0, 0, 4] = .ok [9, 15, 19] ∧
      (PacingMode.seededSynthetic 7 2 9 (some 1)).Meets [0, 0, 4] 3 [9, 15, 19] :=
  have fixed : desiredOffsets (.fixed 1 2) 3 [0, 0, 4] = .ok [1, 3, 5] := by decide
  have seeded : desiredOffsets (.seededSynthetic 7 2 9 (some 1)) 3 [0, 0, 4] = .ok [9, 15, 19] := by
    decide +kernel
  ⟨⟨fixed, ((desired_offsets_safe (.fixed 1 2) 3 [0, 0, 4]).2 [1, 3, 5] fixed).2.1⟩, seeded,
    ((desired_offsets_safe (.seededSynthetic 7 2 9 (some 1)) 3 [0, 0, 4]).2 _ seeded).2.2.2⟩

/-! ## Delivery -/

/-- What the clock, the cancellation and the writer do while one segment is delivered. -/
structure Passage where
  /-- Whether cancellation was requested and the time that had passed, at each look. -/
  waits : List (Bool × Nat)
  started : Nat
  /-- The whole segment was written; otherwise so many bytes of it were. -/
  wrote : Bool
  accepted : Nat
  flushed : Bool
  completed : Nat
  cancelled : Bool

structure SegmentTiming where
  segment : Nat
  desiredOffset : Nat
  writeStartedOffset : Nat
  writeCompletedOffset : Nat
  lateness : Nat

/-- What the writer took of something it was given, and whether all of it was written and
flushed. -/
structure Write where
  taken : List UInt8
  complete : Bool

def Write.whole (bytes : List UInt8) : Write := ⟨bytes, true⟩

def Passage.write (passage : Passage) (segment : List UInt8) : Write :=
  ⟨if passage.wrote then segment else segment.take passage.accepted,
    passage.wrote && passage.flushed⟩

/-- What came of the segments: the result, and what the writer was given in turn. -/
structure Written where
  result : Except PacingError (List SegmentTiming)
  writes : List Write

section Writing
variable (config : PacingConfig) (total : Nat) (passages : Nat → Passage)

end Writing

def reason : Nat → String
  | 200 => "OK"
  | 400 => "Bad Request"
  | 409 => "Conflict"
  | 422 => "Unprocessable Content"
  | _ => "Recorded"

def httpHead (response : ReplayHttpResponse) : List UInt8 :=
  textBytes ("HTTP/1.1 ".toList ++ response.status.repr.toList ++ " ".toList ++
    (reason response.status).toList ++ "\r\n".toList ++
    (response.headers.flatMap fun header =>
      header.name.toList ++ ": ".toList ++ header.value.toList ++ "\r\n".toList) ++
    "content-length: ".toList ++ (response.segments.map List.length).sum.repr.toList ++
    "\r\nconnection: close\r\n\r\n".toList)

/-- The writing of the head: all of it and the flush, or so many bytes. -/
structure HeadPassage where
  wrote : Bool
  accepted : Nat

def HeadPassage.write (passage : HeadPassage) (head : List UInt8) : Write :=
  ⟨if passage.wrote then head else head.take passage.accepted, passage.wrote⟩

/-- How a reserved response was delivered, and whether its reservation is committed. -/
structure Delivery where
  result : Except PacingError (List SegmentTiming)
  writes : List Write
  commit : Bool

def Delivery.received (delivery : Delivery) : List UInt8 := delivery.writes.flatMap (·.taken)

/-- The error reports this many complete segments. -/
def PacingError.Reports (error : PacingError) (n : Nat) : Prop :=
  error = .cancelled n ∨ error = .syntheticFailure n ∨ error = .backpressure n

variable {error : PacingError}

/-- What is known of the segments from an index on: a success wrote them all, a failure of the
writer left one incomplete, and any other failure reports those that were written. -/
inductive Written.Accounts (index : Nat) (segments : List (List UInt8)) : Written → Prop
  | all (timings : List SegmentTiming) :
    Accounts index segments ⟨.ok timings, segments.map .whole⟩
  | failed {writes : List Write} {write : Write} (given : write ∈ writes)
    (short : write.complete = false) (some_left : segments ≠ []) :
    Accounts index segments ⟨.error .io, writes⟩
  | stopped {error : PacingError} {n : Nat} (reports : error.Reports (index + n))
    (within : n ≤ segments.length) :
    Accounts index segments ⟨.error error, (segments.take n).map .whole⟩

variable {segments : List (List UInt8)} {written : Written}

theorem Written.Accounts.none
    (reports : error.Reports index) : Accounts index segments ⟨.error error, []⟩ :=
  @stopped index segments error 0 reports (Nat.zero_le _)

theorem Written.Accounts.one {segment : List UInt8} (reports : error.Reports (index + 1)) :
    Accounts index (segment :: rest) ⟨.error error, [.whole segment]⟩ :=
  @stopped index (segment :: rest) error 1 reports (Nat.succ_le_succ (Nat.zero_le _))

theorem Written.Accounts.cons {segment : List UInt8} (timing : SegmentTiming)
    (accounts : written.Accounts (index + 1) rest) :
    Accounts index (segment :: rest)
      ⟨written.result.map (timing :: ·), .whole segment :: written.writes⟩ := by
  cases accounts with
  | all timings => exact @all index (segment :: rest) (timing :: timings)
  | failed given short => exact failed (mem_cons_of_mem _ given) short (cons_ne_nil _ _)
  | stopped reports within =>
    refine @stopped index (segment :: rest) _ _ ?_ (Nat.succ_le_succ within)
    rwa [Nat.add_right_comm] at reports

variable {config : PacingConfig} {passages : Nat → Passage}

theorem PacingConfig.validate_error
    (h : config.validate = .error error) : error = .invalidConfiguration := by
  rcases bind_eq_error.mp h with bounding | ⟨_, -, h⟩
  · exact (refuse_eq_error.mp bounding).2.symm
  split at h
  · exact (refuse_eq_error.mp h).2.symm
  · exact (refuse_eq_error.mp h).2.symm
  · cases h

/-- The head and the first `n` segments were written and flushed one after the other, and nothing
else was given to the writer. -/
def Delivery.Wrote (delivery : Delivery) (response : ReplayHttpResponse) (n : Nat) : Prop :=
  delivery.writes = (httpHead response :: response.segments.take n).map .whole

theorem Delivery.Wrote.received {delivery : Delivery} {response : ReplayHttpResponse}
    (wrote : delivery.Wrote response n) :
    delivery.received = httpHead response ++ (response.segments.take n).flatten := by
  have taken : Write.taken ∘ Write.whole = id := rfl
  rw [Delivery.received, wrote, flatMap_def, map_map, taken, map_id, flatten_cons]

end AgentSystemsBenchmark.Replay
