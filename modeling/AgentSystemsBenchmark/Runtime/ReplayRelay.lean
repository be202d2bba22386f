import AgentSystemsBenchmark.Runtime.Launch

/-!
# The replay relay

A launch that replays a cassette may own a private socket, its relay. One peer is accepted
on it, after a line that names the generation of the launch; the line is read through a
buffer, and the stream is handed on without that buffer. The launch consumes a context that
carries the relay, and what it does not move out of the context is dropped when the call
returns.

A read is the bytes one system call delivers, nothing at the end of the stream, or a failure.
-/

namespace AgentSystemsBenchmark.Runtime

open Numerals DebugText List
open Control (isAsciiAlphanumeric isOneOf)

/-! ## The handshake -/

def maxGenerationBytes : Nat := 128
def maxHandshakeBytes : Nat := maxGenerationBytes + 1

inductive RelayError where
  | io | staleGeneration | duplicate | invalidHandshake
  deriving DecidableEq

structure ReplayRelay where
  socketPath : OsPath
  generation : String
  consumed : Bool
  deriving DecidableEq

def validGeneration (value : String) : Bool :=
  !value.isEmpty && value.utf8ByteSize ≤ maxGenerationBytes &&
    (bytes value).all fun byte => isAsciiAlphanumeric byte || isOneOf ['-', '_'] byte

abbrev Reads := List (Option (List UInt8))

/-- The line up to its newline or the end of the stream, with the reads still to come. What
the last read delivered after the newline stays in the buffer. -/
def readUntil (line : List UInt8) : Reads → Except RelayError (List UInt8 × Reads)
  | [] => .ok (line, [])
  | none :: _ => .error .io
  | some chunk :: rest =>
    if chunk = [] then .ok (line, rest)
    else if 10 ∈ chunk then .ok (line ++ chunk.takeWhile (· != 10) ++ [10], rest)
    else readUntil (line ++ chunk) rest

/-- The handshakes a relay takes. -/
def ReplayRelay.spellings (relay : ReplayRelay) : List (List UInt8) :=
  [bytes relay.generation, bytes ("ASB-REPLAY/" ++ relay.generation)]

/-- One call, on a peer's reads or on a failure to accept one. -/
def ReplayRelay.acceptAuthenticated (relay : ReplayRelay) (peer : Option Reads) :
    Except RelayError Reads × ReplayRelay :=
  if relay.consumed then (.error .duplicate, relay)
  else match peer with
    | none => (.error .io, relay)
    | some reads =>
      match readUntil [] reads with
      | .error error => (.error error, relay)
      | .ok (handshake, stream) =>
        if handshake.length = 0 ∨ handshake.length > maxHandshakeBytes ∨
            handshake.getLast? ≠ some 10 then (.error .invalidHandshake, relay)
        else if handshake.dropLast ∈ relay.spellings then
          (.ok stream, { relay with consumed := true })
        else (.error .staleGeneration, relay)

section Handshake

variable {line front back : List UInt8} {before : List (List UInt8)} {later stream reads : Reads}
  {relay : ReplayRelay}

theorem takeWhile_line (plain : 10 ∉ front) :
    (front ++ 10 :: back).takeWhile (· != 10) = front := by
  have every : ∀ byte ∈ front, (byte != 10) = true := by
    intro byte member
    exact bne_iff_ne.mpr fun same => plain (same ▸ member)
  simp [takeWhile_append_of_pos every]

/-- However a line is split, it is read whole, and the rest of its last read is passed over. -/
theorem readUntil_line (delivered : ∀ chunk ∈ before, chunk ≠ [])
    (plain : 10 ∉ before.flatten ++ front) :
    readUntil line (before.map some ++ some (front ++ 10 :: back) :: later) =
      .ok (line ++ (before.flatten ++ front) ++ [10], later) := by
  induction before generalizing line with
  | nil =>
    rw [flatten_nil, nil_append] at plain ⊢
    simp [readUntil, takeWhile_line plain]
  | cons chunk before ih =>
    obtain ⟨inhabited, delivered⟩ := forall_mem_cons.mp delivered
    rw [flatten_cons, append_assoc] at plain ⊢
    obtain ⟨here, there⟩ := not_or.mp (mt mem_append.mpr plain)
    rw [map_cons, cons_append, readUntil, if_neg inhabited, if_neg here,
      ih delivered there]
    simp only [append_assoc]

/-- A line that ends with a newline was sent first. -/
theorem readUntil_sent (read : readUntil line reads = .ok (front ++ [10], stream))
    (plain : 10 ∉ line) : front ++ [10] <+: line ++ (reads.filterMap id).flatten := by
  induction reads generalizing line with
  | nil =>
    obtain ⟨rfl, -⟩ := Prod.mk.inj (Except.ok.inj read)
    simp at plain
  | cons chunk reads ih =>
    cases chunk with
    | none => simp [readUntil] at read
    | some chunk =>
      rw [readUntil] at read
      rw [filterMap_cons, id, flatten_cons, ← append_assoc]
      split at read
      · obtain ⟨rfl, -⟩ := Prod.mk.inj (Except.ok.inj read)
        simp at plain
      split at read
      case isTrue newline =>
        obtain ⟨whole, -⟩ := Prod.mk.inj (Except.ok.inj read)
        obtain ⟨head, tail, rfl, first⟩ := eq_append_cons_of_mem newline
        rw [takeWhile_line first] at whole
        exact ⟨tail ++ (reads.filterMap id).flatten, by simp [← whole]⟩
      case isFalse newline =>
        exact ih read fun member => (mem_append.mp member).elim plain newline

theorem validGeneration_plain (valid : validGeneration relay.generation) :
    ∀ spelling ∈ relay.spellings, 10 ∉ spelling := by
  have letters : ∀ byte ∈ bytes relay.generation, byte ≠ 10 := by
    rintro byte member rfl
    exact absurd (all_eq_true.mp (Bool.and_eq_true_iff.mp valid).2 10 member) (by decide)
  have plain : 10 ∉ bytes relay.generation := fun member => letters 10 member rfl
  have constant : 10 ∉ bytes "ASB-REPLAY/" := by decide
  simp [ReplayRelay.spellings, plain, constant]

/-- A correct line of at most 128 bytes is accepted however it is split into reads, and all that
follows it can be read just where its newline ends a read; a longer line and any other peer are
refused, with the relay as it was. -/
theorem acceptAuthenticated_exact (valid : validGeneration relay.generation)
    (fresh : relay.consumed = false) :
    (∀ spelling ∈ relay.spellings, ∀ (before : List (List UInt8)) front back later,
      (∀ chunk ∈ before, chunk ≠ []) → before.flatten ++ front = spelling →
      let answer := relay.acceptAuthenticated
        (some (before.map some ++ some (front ++ 10 :: back) :: later))
      if spelling.length ≤ maxGenerationBytes then
        answer = (.ok later, { relay with consumed := true }) ∧
          ((later.filterMap id).flatten = back ++ (later.filterMap id).flatten ↔ back = [])
      else answer = (.error .invalidHandshake, relay)) ∧
    ∀ peer, (∀ spelling ∈ relay.spellings, ∀ reads ∈ peer,
        ¬ spelling ++ [10] <+: (reads.filterMap id).flatten) →
      ∃ error, relay.acceptAuthenticated peer = (.error error, relay) := by
  have unconsumed : ¬ relay.consumed = true := by simp [fresh]
  constructor
  · intro spelling member before front back later delivered whole answer
    have plain := validGeneration_plain valid spelling member
    have read : answer = if (spelling ++ [10]).length = 0 ∨
        (spelling ++ [10]).length > maxHandshakeBytes ∨ (spelling ++ [10]).getLast? ≠ some 10 then
          (.error .invalidHandshake, relay)
        else if (spelling ++ [10]).dropLast ∈ relay.spellings then
          (.ok later, { relay with consumed := true })
        else (.error .staleGeneration, relay) := by
      unfold answer
      rw [ReplayRelay.acceptAuthenticated, if_neg unconsumed]
      simp only [readUntil_line delivered (whole ▸ plain), nil_append, whole]
    rw [read]
    split
    case isTrue size =>
      have fits : spelling.length + 1 ≤ maxHandshakeBytes := Nat.succ_le_succ size
      rw [if_neg (by simpa using fits), dropLast_concat, if_pos member]
      exact ⟨rfl, self_eq_append_left⟩
    case isFalse size =>
      have long : maxHandshakeBytes ≤ spelling.length := Nat.lt_of_not_le size
      rw [if_pos (by simpa using long)]
  · intro peer other
    unfold ReplayRelay.acceptAuthenticated
    rw [if_neg unconsumed]
    cases peer with
    | none => exact ⟨_, rfl⟩
    | some reads =>
      dsimp only
      cases read : readUntil [] reads with
      | error error => exact ⟨error, rfl⟩
      | ok result =>
        obtain ⟨handshake, stream⟩ := result
        dsimp only
        split
        case isTrue => exact ⟨_, rfl⟩
        case isFalse shape =>
          obtain ⟨-, -, last⟩ := not_or.mp shape |>.imp_right not_or.mp
          obtain ⟨front, rfl⟩ := getLast?_eq_some_iff.mp (not_not.mp last)
          rw [dropLast_concat, if_neg]
          · exact ⟨_, rfl⟩
          · intro member
            exact other front member reads rfl (readUntil_sent read (by simp))

/-- A peer that is accepted, and one whose line names another generation. -/
theorem acceptAuthenticated_exact_sample :
    let relay : ReplayRelay := ⟨[], "g", false⟩
    relay.acceptAuthenticated (some [some [103], some [10], some [88]]) =
        (.ok [some [88]], ⟨[], "g", true⟩) ∧
      ∃ error, relay.acceptAuthenticated (some [some [104, 10]]) = (.error error, relay) := by
  intro relay
  obtain ⟨accepted, refused⟩ := @acceptAuthenticated_exact relay (by decide) rfl
  exact ⟨(accepted (bytes "g") (by decide) [[103]] [] [] [some [88]] (by decide) rfl).1,
    refused _ (by decide)⟩

/-- One read that holds the line and a byte of the request: the byte is gone. -/
theorem acceptAuthenticated_loses :
    validGeneration "g" ∧
      ReplayRelay.acceptAuthenticated ⟨[], "g", false⟩ (some [some [103, 10, 88]]) =
        (.ok [], ⟨[], "g", true⟩) := by
  decide

end Handshake

/-! ## The launch context -/

/-- The sockets of the machine: the paths that are listened on, and those that exist. -/
structure Sockets where
  listening : OsPath → Bool
  present : OsPath → Bool

/-- The relay listens on its socket, and the path is there. -/
def Sockets.Holds (sockets : Sockets) (relay : ReplayRelay) : Prop :=
  sockets.listening relay.socketPath ∧ sockets.present relay.socketPath

def ReplayRelay.drop (relay : ReplayRelay) (sockets : Sockets) : Sockets where
  listening := Function.update sockets.listening relay.socketPath false
  present := Function.update sockets.present relay.socketPath false

/-- `remove_dir_all`, on the paths of sockets. -/
def Sockets.removeTree (sockets : Sockets) (root : OsPath) : Sockets :=
  { sockets with
    present := fun path => sockets.present path && !(root ++ [PathUnit.char '/']).isPrefixOf path }

structure ReplayLaunchContext where
  input : SandboxLaunchInput
  lease : ResourceLease
  backend : Option SandboxBackend
  relay : Option ReplayRelay
  cleanup : Option OsPath

/-- The fields of a context, in the order they are dropped. -/
inductive ContextField where
  | input | lease | backend | relay | cleanup
  deriving DecidableEq

def ReplayLaunchContext.dropField (context : ReplayLaunchContext) (sockets : Sockets) :
    ContextField → Sockets
  | .relay => context.relay.elim sockets (·.drop sockets)
  | .cleanup => context.cleanup.elim sockets sockets.removeTree
  | .input | .lease | .backend => sockets

/-- The end of a call that moved some fields out of the context. -/
def ReplayLaunchContext.leave (context : ReplayLaunchContext) (moved : List ContextField)
    (sockets : Sockets) : Sockets :=
  ([.input, .lease, .backend, .relay, .cleanup].filter (· ∉ moved)).foldl context.dropField sockets

/-- One launch: its result, with the tree the process removes at its end, and the sockets
while the child is started and once the call has returned. -/
structure ContextLaunch where
  result : Except SandboxError (SandboxProcess × Option OsPath)
  starting : Sockets
  returned : Sockets

section Context

variable (host : Host) (context : ReplayLaunchContext) (outcome : SpawnOutcome) (sockets : Sockets)

namespace ReplayLaunchContext

def spawnThrough (backend : Option SandboxBackend)
    (moved : List ContextField) : ContextLaunch :=
  let result := (backend.elim (.error .delegationRejected) fun backend =>
    backend.spawnLaunch host context.input context.lease outcome)
  { result := result.map fun process => (process, context.cleanup)
    starting := sockets
    -- the guard of the temporary tree is disarmed only when there is a process
    returned := context.leave moved
      (if Control.isOk result then sockets else context.dropField sockets .cleanup) }

def spawn (backend : SandboxBackend) : ContextLaunch :=
  context.spawnThrough host outcome sockets (some backend) [.cleanup, .input, .lease]

def spawnOwned : ContextLaunch :=
  context.spawnThrough host outcome sockets context.backend [.cleanup, .backend, .input, .lease]

variable {host context outcome sockets} {relay : ReplayRelay}

theorem foldl_dropField (owner : context.relay = some relay)
    (fields : List ContextField)
    (closed : .relay ∈ fields ∨ sockets.listening relay.socketPath = false) :
    (fields.foldl context.dropField sockets).listening relay.socketPath = false := by
  induction fields generalizing sockets with
  | nil => simpa using closed
  | cons field fields ih =>
    rw [foldl_cons]
    apply ih
    cases field with
    | relay => exact .inr (by simp [dropField, owner, ReplayRelay.drop])
    | cleanup =>
      -- the tree may take the path with it, never the listener
      have kept : (context.dropField sockets .cleanup).listening = sockets.listening := by
        unfold dropField
        cases context.cleanup <;> rfl
      simpa [kept] using closed
    | _ => simpa [dropField] using closed

theorem leave_closes (owner : context.relay = some relay)
    {moved : List ContextField} (unmoved : .relay ∉ moved) :
    ¬ (context.leave moved sockets).Holds relay := by
  rintro ⟨listening, -⟩
  have dropped :
      .relay ∈ [ContextField.input, .lease, .backend, .relay, .cleanup].filter (· ∉ moved) :=
    mem_filter.mpr ⟨by decide, decide_eq_true unmoved⟩
  exact Bool.false_ne_true ((foldl_dropField owner _ (.inl dropped)).symm.trans listening)

/-- The relay stands while the child is started, and is gone once the call has returned,
whatever came of it. -/
theorem relay_until_return (owner : context.relay = some relay)
    (bound : sockets.Holds relay) (backend : SandboxBackend) :
    ∀ launch ∈ [context.spawn host outcome sockets backend,
        context.spawnOwned host outcome sockets],
      launch.starting.Holds relay ∧ ¬ launch.returned.Holds relay := by
  rw [forall_mem_cons, forall_mem_singleton]
  exact ⟨⟨bound, leave_closes owner (by decide)⟩, bound, leave_closes owner (by decide)⟩

end ReplayLaunchContext

end Context

def relaySample : ReplayRelay := ⟨OsPath.ofText "/r/asb-replay-g.sock", "g", false⟩

def contextSample : ReplayLaunchContext :=
  ⟨⟨sampleSpec [], sampleLimits, none, none⟩, sampleLease, some ⟨false, false⟩,
    some relaySample, none⟩

def outcomeSample : SpawnOutcome :=
  let around : Surroundings := ⟨0, fun _ => false, fun _ => none, fun _ => none⟩
  ⟨true, true, some 7, true, true, around, around⟩

/-- The relay that stands while the child is started is gone from the launch that returns it. -/
theorem ReplayLaunchContext.relay_until_return_sample :
    let launch := contextSample.spawnOwned Host.plain outcomeSample ⟨fun _ => true, fun _ => true⟩
    Control.isOk launch.result = true ∧ launch.starting.Holds relaySample ∧
      ¬ launch.returned.Holds relaySample :=
  ⟨by decide, relay_until_return rfl ⟨rfl, rfl⟩ ⟨false, false⟩ _ (.tail _ (.head _))⟩

/-- A launch returns its process, and the relay of that process is gone. -/
theorem ReplayLaunchContext.not_relay_outlives_process :
    let launch := contextSample.spawnOwned Host.plain outcomeSample ⟨fun _ => true, fun _ => true⟩
    launch.result = .ok (⟨7, sampleLease, none⟩, none) ∧
      launch.returned.listening relaySample.socketPath = false ∧
      launch.returned.present relaySample.socketPath = false := by
  refine ⟨?_, ?_, ?_⟩ <;> decide

end AgentSystemsBenchmark.Runtime
