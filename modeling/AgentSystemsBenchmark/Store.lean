import AgentSystemsBenchmark.Library.Effects

/-!
# The durable store of run manifests and lifecycle journals

One directory per run holds an immutable manifest and an append-only journal.
`validateTransition` is the table of lifecycle changes the store accepts; it is
consulted both when an event is appended and when a journal is read back.

Every access is subject to the outcome the environment chooses for it: a write
takes effect completely or not at all, it may report an error after it took
effect, and the process may stop before or after it. A run directory that was
staged and never renamed into place stays behind under its temporary name.
The checksum of a journal record is recomputed from the record on every read,
so it is not part of the stored data here.
-/

namespace AgentSystemsBenchmark

open Effects List

def manifestSchemaVersion : Nat := 1
def journalSchemaVersion : Nat := 1

/-- Byte limits applied before durable writes; the defaults are also the ceilings. -/
structure StoreLimits where
  maxManifestBytes : Nat := 16 * 1024 * 1024
  maxEventBytes : Nat := 16 * 1024 * 1024
  maxJournalBytes : Nat := 256 * 1024 * 1024

inductive ExecutionState where
  | planned | prepared | running | collecting | completed | failed | cancelled
  deriving DecidableEq, Repr

namespace ExecutionState

def isTerminal : ExecutionState → Bool
  | completed | failed | cancelled => true
  | _ => false

/-- An execution effect may have begun: anything beyond preparation. -/
def started : ExecutionState → Bool
  | planned | prepared => false
  | _ => true

end ExecutionState

structure RunManifest (D : Type) where
  schemaVersion : Nat
  runId : String
  attemptId : String
  definition : D

structure JournalEvent (E : Type) where
  schemaVersion : Nat
  sequence : Nat
  attemptId : String
  monotonicOffsetNs : Nat
  state : ExecutionState
  evidence : E

inductive StoreError where
  | io
  | tooLarge (kind : String) (actual maximum : Nat)
  | unsupportedVersion (kind : String) (actual supported : Nat)
  | invalidIdentity (kind : String)
  | runExists (runId : String)
  | identityMismatch
  | staleAttempt
  | sequence (expected actual : Nat)
  | invalidTransition
  deriving DecidableEq, Repr

inductive RecoveryDecision where
  | startAllowed
  | resume (state : ExecutionState)
  | needsReconciliation
  | terminal (state : ExecutionState)
  deriving DecidableEq, Repr

def requireVersion (kind : String) (actual supported : Nat) : Except StoreError Unit :=
  refuse (actual ≠ supported) (.unsupportedVersion kind actual supported)

def validateComponent (kind value : String) : Except StoreError Unit :=
  refuse (value = "" ∨ value = "." ∨ value = ".." ∨
      ¬ value.toList.all (fun c => c.isAlphanum || c == '-' || c == '_' || c == '.'))
    (.invalidIdentity kind)

def enforceSize (kind : String) (actual maximum : Nat) : Except StoreError Unit :=
  refuse (actual > maximum) (.tooLarge kind actual maximum)

/-- Serialization stops at the first byte beyond the bound. -/
def encodeBounded (kind : String) (size maximum : Nat) : Except StoreError Unit :=
  refuse (size > maximum) (.tooLarge kind (maximum + 1) maximum)

/-- The lifecycle changes the store accepts. -/
def allowedTransition : Option ExecutionState → ExecutionState → Bool
  | none, .planned => true
  | some .planned, .prepared => true
  | some .prepared, .running => true
  | some .running, .collecting => true
  | some .running, .failed | some .running, .cancelled => true
  | some .collecting, .failed | some .collecting, .cancelled => true
  | some .collecting, .completed => true
  | _, _ => false

def validateTransition (source : Option ExecutionState) (target : ExecutionState) :
    Except StoreError Unit :=
  refuse (allowedTransition source target = false) .invalidTransition

/-- Serialized sizes of the two record kinds. -/
structure Codec (D E : Type) where
  manifestBytes : RunManifest D → Nat
  eventBytes : JournalEvent E → Nat

structure RunDir (D E : Type) where
  manifest : RunManifest D
  journal : List (JournalEvent E)

/-- The store root: run directories by name, and staged directories left behind. -/
structure Disk (D E : Type) where
  runs : AList (fun _ : String => RunDir D E)
  stages : List String

def Disk.empty {D E : Type} : Disk D E := ⟨∅, []⟩

section Journal
variable {D E : Type} (codec : Codec D E) (limits : StoreLimits)

/-- A record frames its event with the checksum and a newline, 87 bytes in all. -/
def journalBytes (events : List (JournalEvent E)) : Nat :=
  (events.map fun event => codec.eventBytes event + 87).sum

/-- The checks of `decode_journal` from position `n` after state `last`. -/
def decodeJournal : Nat → Option ExecutionState → List (JournalEvent E) → Except StoreError Unit
  | _, _, [] => .ok ()
  | n, last, event :: rest => do
    requireVersion "journal" event.schemaVersion journalSchemaVersion
    refuse (event.sequence ≠ n) (.sequence n event.sequence)
    encodeBounded "event" (codec.eventBytes event) limits.maxEventBytes
    validateTransition last event.state
    decodeJournal (n + 1) (some event.state) rest

def encodeJournal (events : List (JournalEvent E)) : Except StoreError Unit := do
  events.forM fun event => encodeBounded "event" (codec.eventBytes event) limits.maxEventBytes
  encodeBounded "journal" (journalBytes codec events) limits.maxJournalBytes

def RunManifest.validate (manifest : RunManifest D) : Except StoreError Unit := do
  requireVersion "manifest" manifest.schemaVersion manifestSchemaVersion
  validateComponent "run_id" manifest.runId
  refuse (manifest.attemptId = "") (.invalidIdentity "attempt_id")

def lastState (events : List (JournalEvent E)) : Option ExecutionState :=
  events.getLast?.map JournalEvent.state

variable (disk : Disk D E)

def loadManifest (runId : String) : Except StoreError (RunManifest D) := do
  validateComponent "run_id" runId
  match disk.runs.lookup runId with
  | none => .error .io
  | some dir =>
    enforceSize "manifest" (codec.manifestBytes dir.manifest) limits.maxManifestBytes
    dir.manifest.validate
    refuse (dir.manifest.runId ≠ runId) .identityMismatch
    return dir.manifest

def loadJournal (runId : String) : Except StoreError (List (JournalEvent E)) := do
  validateComponent "run_id" runId
  match disk.runs.lookup runId with
  | none => .error .io
  | some dir =>
    enforceSize "journal" (journalBytes codec dir.journal) limits.maxJournalBytes
    decodeJournal codec limits 0 none dir.journal
    return dir.journal

/-- Create an immutable manifest with an empty journal. -/
def createRun (manifest : RunManifest D) : Except StoreError (Disk D E) := do
  manifest.validate
  refuse (disk.runs.lookup manifest.runId).isSome (.runExists manifest.runId)
  encodeBounded "manifest" (codec.manifestBytes manifest) limits.maxManifestBytes
  return { disk with runs := disk.runs.insert manifest.runId ⟨manifest, []⟩ }

def append (runId : String) (event : JournalEvent E) : Except StoreError (Disk D E) := do
  requireVersion "journal" event.schemaVersion journalSchemaVersion
  let manifest ← loadManifest codec limits disk runId
  refuse (event.attemptId ≠ manifest.attemptId) .staleAttempt
  let events ← loadJournal codec limits disk runId
  refuse (event.sequence ≠ events.length) (.sequence events.length event.sequence)
  validateTransition (lastState events) event.state
  encodeJournal codec limits (events ++ [event])
  return { disk with runs := disk.runs.insert runId ⟨manifest, events ++ [event]⟩ }

/-- Durable run identities in lexical order; staged directories are listed too. -/
def runIds : List String :=
  (disk.runs.keys ++ disk.stages).insertionSort (· ≤ ·)

/-- Refuse duplicate execution when the last durable state is uncertain. -/
def recoveryDecision (runId : String) : Except StoreError RecoveryDecision := do
  let _ ← loadManifest codec limits disk runId
  let events ← loadJournal codec limits disk runId
  return match lastState events with
    | none | some .planned => .startAllowed
    | some .prepared => .resume .prepared
    | some .running | some .collecting => .needsReconciliation
    | some state => .terminal state

variable {codec limits disk}

theorem encodeBounded_eq_ok {kind : String} {size maximum : Nat} :
    encodeBounded kind size maximum = .ok u ↔ size ≤ maximum := by
  rw [encodeBounded, refuse_eq_ok, gt_iff_lt, not_lt]

variable {runId : String} {manifest : RunManifest D}

theorem loadManifest_ok (h : loadManifest codec limits disk runId = .ok manifest) :
    ∃ dir, disk.runs.lookup runId = some dir ∧ dir.manifest = manifest := by
  obtain ⟨_, _, h⟩ := bind_eq_ok.mp h
  cases hl : disk.runs.lookup runId with
  | none => simp [hl] at h
  | some dir =>
    simp only [hl, bind_eq_ok, pure_eq_ok] at h
    obtain ⟨_, _, _, _, _, _, same⟩ := h
    exact ⟨dir, rfl, same⟩

variable {events : List (JournalEvent E)}

theorem loadJournal_ok (h : loadJournal codec limits disk runId = .ok events) :
    ∃ dir, disk.runs.lookup runId = some dir ∧ dir.journal = events ∧
      decodeJournal codec limits 0 none events = .ok () := by
  obtain ⟨_, _, h⟩ := bind_eq_ok.mp h
  cases hl : disk.runs.lookup runId with
  | none => simp [hl] at h
  | some dir =>
    simp only [hl, bind_eq_ok, pure_eq_ok] at h
    obtain ⟨_, _, _, decoded, same⟩ := h
    exact ⟨dir, rfl, same, same ▸ decoded⟩

variable {last : Option ExecutionState} {event : JournalEvent E} {n : Nat}

theorem decodeJournal_cons (h : decodeJournal codec limits n last (event :: rest) = .ok ()) :
    allowedTransition last event.state = true ∧
      decodeJournal codec limits (n + 1) (some event.state) rest = .ok () := by
  simp only [decodeJournal, bind_eq_ok] at h
  obtain ⟨_, _, _, _, _, _, _, ht, hrest⟩ := h
  exact ⟨by simpa [validateTransition] using ht, hrest⟩

/-- Nothing leads back from a started state into preparation. -/
theorem allowedTransition_started (h : allowedTransition (some s) t = true)
    (hs : s.started = true) :
    t.started = true := by
  cases s <;> cases t <;> simp_all [allowedTransition, ExecutionState.started]

theorem decodeJournal_started (h : decodeJournal codec limits n (some s) events = .ok ())
    (hs : s.started = true) : ∀ event ∈ events, event.state.started = true := by
  induction events generalizing n s with
  | nil => simp
  | cons event rest ih =>
    obtain ⟨allowed, decoded⟩ := decodeJournal_cons h
    have first := allowedTransition_started allowed hs
    intro e he
    rcases mem_cons.mp he with rfl | he
    · exact first
    · exact ih decoded first e he

/-- A journal that has left preparation ends beyond it. -/
theorem lastState_started (h : decodeJournal codec limits n last events = .ok ())
    (he : event ∈ events) (hs : event.state.started = true) :
    ∃ s, lastState events = some s ∧ s.started = true := by
  induction events generalizing n last with
  | nil => cases he
  | cons first rest ih =>
    obtain ⟨_, decoded⟩ := decodeJournal_cons h
    rcases mem_cons.mp he with rfl | he
    · cases rest with
      | nil => exact ⟨_, rfl, hs⟩
      | cons second rest =>
        have all := decodeJournal_started decoded hs
        refine ⟨_, rfl, all _ ?_⟩
        exact getLast_mem _
    · obtain ⟨s, hl, hst⟩ := ih decoded he
      refine ⟨s, ?_, hst⟩
      cases rest with
      | nil => cases he
      | cons second rest => simpa [lastState] using hl

variable {next : Disk D E}

/-- A created run starts with an empty journal under a name that was free. -/
theorem createRun_ok (h : createRun codec limits disk manifest = .ok next) :
    disk.runs.lookup manifest.runId = none ∧
      next = { disk with runs := disk.runs.insert manifest.runId ⟨manifest, []⟩ } := by
  simp only [createRun, bind_eq_ok, refuse_eq_ok, pure_eq_ok] at h
  obtain ⟨_, _, _, free, _, _, same⟩ := h
  exact ⟨by simpa using free, same.symm⟩

theorem createRun_fits (h : createRun codec limits disk manifest = .ok next) :
    codec.manifestBytes manifest ≤ limits.maxManifestBytes := by
  simp only [createRun, bind_eq_ok, refuse_eq_ok, pure_eq_ok] at h
  obtain ⟨_, _, _, _, _, fits, _⟩ := h
  exact encodeBounded_eq_ok.mp fits

/-- An append extends one journal by an event the table allows and changes nothing else. -/
theorem append_ok (h : append codec limits disk runId event = .ok next) :
    ∃ dir, disk.runs.lookup runId = some dir ∧
      allowedTransition (lastState dir.journal) event.state = true ∧
      next = { disk with
        runs := disk.runs.insert runId { dir with journal := dir.journal ++ [event] } } := by
  simp only [append, bind_eq_ok, pure_eq_ok] at h
  obtain ⟨_, _, manifest, hm, _, _, events, he, _, _, _, ht, _, _, same⟩ := h
  obtain ⟨dir, hd, rfl⟩ := loadManifest_ok hm
  obtain ⟨dir', hd', rfl, _⟩ := loadJournal_ok he
  obtain rfl := Option.mem_unique hd hd'
  refine ⟨dir, hd, ?_, same.symm⟩
  simpa [validateTransition] using ht

/-- A run directory whose files are read back without error. -/
structure RunDir.Sound (codec : Codec D E) (limits : StoreLimits) (runId : String)
    (dir : RunDir D E) : Prop where
  component : validateComponent "run_id" runId = .ok ()
  manifest : dir.manifest.validate = .ok ()
  name : dir.manifest.runId = runId
  manifestFits : codec.manifestBytes dir.manifest ≤ limits.maxManifestBytes
  decoded : decodeJournal codec limits 0 none dir.journal = .ok ()
  journalFits : journalBytes codec dir.journal ≤ limits.maxJournalBytes

theorem enforceSize_ok {kind : String} {actual maximum : Nat} (h : actual ≤ maximum) :
    enforceSize kind actual maximum = .ok () := by
  rw [enforceSize, refuse_eq_ok]
  omega

variable {dir : RunDir D E}

theorem RunDir.Sound.loadManifest
    (sound : dir.Sound codec limits runId) (found : disk.runs.lookup runId = some dir) :
    loadManifest codec limits disk runId = .ok dir.manifest := by
  have size := @enforceSize_ok "manifest" _ _ sound.manifestFits
  have named : ¬ dir.manifest.runId ≠ runId := not_not.mpr sound.name
  simp only [AgentSystemsBenchmark.loadManifest, found, bind_eq_ok, refuse_eq_ok]
  exact ⟨(), sound.component, (), size, (), sound.manifest, ⟨⟩, named, rfl⟩

theorem RunDir.Sound.loadJournal
    (sound : dir.Sound codec limits runId) (found : disk.runs.lookup runId = some dir) :
    loadJournal codec limits disk runId = .ok dir.journal := by
  have size := @enforceSize_ok "journal" _ _ sound.journalFits
  simp only [AgentSystemsBenchmark.loadJournal, found, sound.component, size, sound.decoded]
  rfl

/-- A directory whose two files were read is sound. -/
theorem sound_of_loads
    (hm : AgentSystemsBenchmark.loadManifest codec limits disk runId = .ok manifest)
    (he : AgentSystemsBenchmark.loadJournal codec limits disk runId = .ok events) :
    ∃ dir, disk.runs.lookup runId = some dir ∧ dir.manifest = manifest ∧ dir.journal = events ∧
      dir.Sound codec limits runId := by
  rw [AgentSystemsBenchmark.loadManifest, bind_eq_ok] at hm
  rw [AgentSystemsBenchmark.loadJournal, bind_eq_ok] at he
  obtain ⟨_, component, hm⟩ := hm
  obtain ⟨_, _, he⟩ := he
  cases found : disk.runs.lookup runId with
  | none =>
    rw [found] at hm
    cases hm
  | some dir =>
    simp only [found, bind_eq_ok, pure_eq_ok, refuse_eq_ok, not_not] at hm he
    obtain ⟨_, size, _, valid, _, named, rfl⟩ := hm
    obtain ⟨_, total, _, decoded, rfl⟩ := he
    rw [enforceSize, refuse_eq_ok, not_lt] at size total
    exact ⟨dir, rfl, rfl, rfl, component, valid, named, size, decoded, total⟩

theorem lastState_append (journal : List (JournalEvent E)) (event : JournalEvent E) :
    lastState (journal ++ [event]) = some event.state := by
  simp [lastState]

theorem lastState_cons_or (first : JournalEvent E) (rest : List (JournalEvent E))
    (last : Option ExecutionState) :
    (lastState (first :: rest)).or last = (lastState rest).or (some first.state) := by
  simp only [lastState, getLast?_cons]
  cases rest.getLast? <;> rfl

/-- The checks of an event at the end of a journal that passed its own. -/
theorem decodeJournal_append (decoded : decodeJournal codec limits n last events = .ok ())
    (version : event.schemaVersion = journalSchemaVersion)
    (sequence : event.sequence = n + events.length)
    (size : codec.eventBytes event ≤ limits.maxEventBytes)
    (allowed : allowedTransition ((lastState events).or last) event.state = true) :
    decodeJournal codec limits n last (events ++ [event]) = .ok () := by
  induction events generalizing n last with
  | nil =>
    have hs : event.sequence = n := by simpa using sequence
    have ha : allowedTransition last event.state = true := by simpa [lastState] using allowed
    have fits : encodeBounded "event" (codec.eventBytes event) limits.maxEventBytes = .ok () :=
      encodeBounded_eq_ok.mpr size
    simp [decodeJournal, requireVersion, version, hs, fits, validateTransition, ha, refuse, bind,
      Except.bind]
  | cons first rest ih =>
    have inner := decoded
    simp only [decodeJournal, bind_eq_ok] at inner
    obtain ⟨_, hv, _, hseq, _, hsize, _, ht, hrest⟩ := inner
    have tail := ih hrest (by rw [sequence, length_cons]; omega)
      (by rwa [lastState_cons_or] at allowed)
    simp only [cons_append, decodeJournal, bind_eq_ok]
    exact ⟨_, hv, _, hseq, _, hsize, _, ht, tail⟩

theorem journalBytes_append (events : List (JournalEvent E)) (event : JournalEvent E) :
    journalBytes codec (events ++ [event]) =
      journalBytes codec events + (codec.eventBytes event + 87) := by
  simp [journalBytes]

theorem encodeJournal_ok (size : ∀ event ∈ events, codec.eventBytes event ≤ limits.maxEventBytes)
    (total : journalBytes codec events ≤ limits.maxJournalBytes) :
    encodeJournal codec limits events = .ok () := by
  have each : events.forM (fun event =>
      encodeBounded "event" (codec.eventBytes event) limits.maxEventBytes) = .ok () := by
    clear total
    induction events with
    | nil => rfl
    | cons event rest ih =>
      have first : encodeBounded "event" (codec.eventBytes event) limits.maxEventBytes = .ok () :=
        encodeBounded_eq_ok.mpr (size event mem_cons_self)
      have others := ih fun e he => size e (mem_cons_of_mem event he)
      exact bind_eq_ok.mpr ⟨(), first, others⟩
  rw [encodeJournal, bind_eq_ok]
  exact ⟨(), each, encodeBounded_eq_ok.mpr total⟩

/-- A journal that was encoded keeps both bounds. -/
theorem encodeJournal_fits (h : encodeJournal codec limits events = .ok ()) :
    (∀ event ∈ events, codec.eventBytes event ≤ limits.maxEventBytes) ∧
      journalBytes codec events ≤ limits.maxJournalBytes := by
  rw [encodeJournal, bind_eq_ok] at h
  obtain ⟨_, each, total⟩ := h
  rw [encodeBounded_eq_ok] at total
  refine ⟨?_, total⟩
  clear total
  induction events with
  | nil => simp
  | cons event rest ih =>
    obtain ⟨_, first, others⟩ := bind_eq_ok.mp each
    have small : codec.eventBytes event ≤ limits.maxEventBytes := encodeBounded_eq_ok.mp first
    exact forall_mem_cons.mpr ⟨small, ih others⟩

theorem decodeJournal_size (decoded : decodeJournal codec limits n last events = .ok ()) :
    ∀ event ∈ events, codec.eventBytes event ≤ limits.maxEventBytes := by
  induction events generalizing n last with
  | nil => simp
  | cons first rest ih =>
    simp only [decodeJournal, bind_eq_ok] at decoded
    obtain ⟨_, _, _, _, _, size, _, _, hrest⟩ := decoded
    intro event he
    rcases mem_cons.mp he with rfl | he
    · exact encodeBounded_eq_ok.mp size
    · exact ih hrest event he

/-- A sound directory accepts every event the table allows and that fits. -/
theorem RunDir.Sound.append
    (sound : dir.Sound codec limits runId) (found : disk.runs.lookup runId = some dir)
    (version : event.schemaVersion = journalSchemaVersion)
    (attempt : event.attemptId = dir.manifest.attemptId)
    (sequence : event.sequence = dir.journal.length)
    (size : codec.eventBytes event ≤ limits.maxEventBytes)
    (total : journalBytes codec (dir.journal ++ [event]) ≤ limits.maxJournalBytes)
    (allowed : allowedTransition (lastState dir.journal) event.state = true) :
    append codec limits disk runId event = .ok { disk with
        runs := disk.runs.insert runId { dir with journal := dir.journal ++ [event] } } ∧
      RunDir.Sound codec limits runId { dir with journal := dir.journal ++ [event] } := by
  have sizes : ∀ e ∈ dir.journal ++ [event], codec.eventBytes e ≤ limits.maxEventBytes := by
    intro e he
    rcases mem_append.mp he with he | he
    · exact decodeJournal_size sound.decoded e he
    · exact mem_singleton.mp he ▸ size
  constructor
  · simp only [AgentSystemsBenchmark.append, bind_eq_ok, pure_eq_ok]
    refine ⟨(), ?_, _, sound.loadManifest found, ⟨⟩, ?_, _, sound.loadJournal found, ⟨⟩, ?_, (), ?_,
      (), encodeJournal_ok sizes total, rfl⟩
    · simp [requireVersion, version]
    · simp [attempt]
    · simp [sequence]
    · simp [validateTransition, allowed]
  · exact ⟨sound.component, sound.manifest, sound.name, sound.manifestFits,
      decodeJournal_append sound.decoded version (by simpa using sequence) size
        (by simpa using allowed), total⟩

/-- What an accepted append has checked: the directory reads back before and after it, and
the event is the next one of the manifest's attempt. -/
theorem append_spec (h : append codec limits disk runId event = .ok next) :
    ∃ dir, disk.runs.lookup runId = some dir ∧ dir.Sound codec limits runId ∧
      event.schemaVersion = journalSchemaVersion ∧
      event.attemptId = dir.manifest.attemptId ∧ event.sequence = dir.journal.length ∧
      allowedTransition (lastState dir.journal) event.state = true ∧
      next = { disk with
        runs := disk.runs.insert runId { dir with journal := dir.journal ++ [event] } } ∧
      RunDir.Sound codec limits runId { dir with journal := dir.journal ++ [event] } := by
  simp only [append, bind_eq_ok, pure_eq_ok, refuse_eq_ok, not_not] at h
  obtain ⟨_, version, manifest, hm, _, attempt, events, he, _, sequence, _, ht, _, encoded, same⟩ :=
    h
  obtain ⟨dir, found, rfl, rfl, sound⟩ := sound_of_loads hm he
  rw [requireVersion, refuse_eq_ok, not_not] at version
  have allowed : allowedTransition (lastState dir.journal) event.state = true := by
    simpa [validateTransition] using ht
  obtain ⟨size, total⟩ := encodeJournal_fits encoded
  refine ⟨dir, found, sound, version, attempt, sequence, allowed, same.symm, ?_⟩
  exact ⟨sound.component, sound.manifest, sound.name, sound.manifestFits,
    decodeJournal_append sound.decoded version (by simpa using sequence)
      (size event (mem_append_right _ (mem_singleton_self _))) (by simpa using allowed),
    total⟩

/-- A validated manifest under a free name is created. -/
theorem createRun_of_free (valid : manifest.validate = .ok ())
    (free : disk.runs.lookup manifest.runId = none)
    (fits : codec.manifestBytes manifest ≤ limits.maxManifestBytes) :
    createRun codec limits disk manifest =
      .ok { disk with runs := disk.runs.insert manifest.runId ⟨manifest, []⟩ } := by
  simp only [createRun, bind_eq_ok, refuse_eq_ok, pure_eq_ok, encodeBounded_eq_ok]
  exact ⟨_, valid, ⟨⟩, by simp [free], ⟨⟩, fits, trivial⟩

end Journal

/-- What the environment does to one store access. -/
inductive Fault where
  | none | failBefore | failAfter | failStaged (tag : String)
  | crashBefore | crashAfter | crashStaged (tag : String)
  deriving DecidableEq, Repr

namespace Fault
variable {D E α : Type}

/-- A write under a fault: the reported result (`none` when the process stops) and the disk. -/
def write (fault : Fault) (disk : Disk D E) (staged : String → Disk D E)
    (intended : Except StoreError (Disk D E)) : Option (Except StoreError Unit) × Disk D E :=
  match fault, intended with
  | none, .ok next => (some (.ok ()), next)
  | none, .error e => (some (.error e), disk)
  | failBefore, _ => (some (.error .io), disk)
  | failAfter, .ok next => (some (.error .io), next)
  | failAfter, .error e => (some (.error e), disk)
  | failStaged tag, .ok _ => (some (.error .io), staged tag)
  | failStaged _, .error e => (some (.error e), disk)
  | crashBefore, _ => (Option.none, disk)
  | crashAfter, .ok next => (Option.none, next)
  | crashAfter, .error _ => (Option.none, disk)
  | crashStaged tag, .ok _ => (Option.none, staged tag)
  | crashStaged _, .error _ => (Option.none, disk)

/-- A read under a fault. -/
def read (fault : Fault) (value : Except StoreError α) : Option (Except StoreError α) :=
  match fault with
  | none => some value
  | failBefore | failAfter | failStaged _ => some (.error .io)
  | crashBefore | crashAfter | crashStaged _ => Option.none

/-- The disk after a write is the old one, the intended one or the staged one. -/
theorem write_disk_cases (fault : Fault) (disk : Disk D E) (staged : String → Disk D E)
    (intended : Except StoreError (Disk D E)) :
    (fault.write disk staged intended).2 = disk ∨
    (∃ next, intended = .ok next ∧ (fault.write disk staged intended).2 = next) ∨
    ∃ tag, (fault.write disk staged intended).2 = staged tag := by
  cases fault <;> cases intended <;> simp [write]

/-- Success is reported only for a write that took effect. -/
theorem write_ok {fault : Fault} {disk : Disk D E}
    (h : (fault.write disk staged intended).1 = some (.ok ())) :
    ∃ next, intended = .ok next ∧ (fault.write disk staged intended).2 = next := by
  cases fault <;> cases intended <;> simp_all [write]

theorem read_ok {fault : Fault} {value : Except StoreError α} {a : α}
    (h : fault.read value = some (.ok a)) : value = .ok a := by
  cases fault <;> simp_all [read]

end Fault

end AgentSystemsBenchmark
