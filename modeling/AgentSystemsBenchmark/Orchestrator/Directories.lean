import AgentSystemsBenchmark.Orchestrator.Operations

/-!
# The run directories of the service

The service creates a directory for the run with number `n` and appends lifecycle
events to its journal. Such a directory reads back without error, its journal is
short because the transition table has no cycle, and so every event the table allows
fits. Whatever else happens to a directory, its manifest stays and its journal grows.
-/

namespace AgentSystemsBenchmark

open Effects Numerals

abbrev RunDirectory := RunDir RunRequest RunStatus

variable {S : Type}

/-- The length of a journal that ends in this state, at most. -/
def journalReach : Option ExecutionState → Nat
  | none => 0
  | some .planned => 1
  | some .prepared => 2
  | some .running => 3
  | some .collecting => 4
  | some _ => 5

theorem journalReach_lt (h : allowedTransition last state = true) :
    journalReach last < journalReach (some state) ∧ journalReach (some state) ≤ 5 := by
  rcases last with _ | last
  · cases state <;> simp_all [allowedTransition, journalReach]
  · cases last <;> cases state <;> simp_all [allowedTransition, journalReach]

/-- The directory of the run with number `n`: it reads back, and it is short enough
for every event still to come. -/
structure Housed (env : Environment S) (n : Nat) (dir : RunDirectory) : Prop where
  numbered : n + 2 ≤ u64Max
  sound : dir.Sound env.codec {} (runIdOf n)
  attempt : dir.manifest.attemptId = attemptIdOf (n + 1)
  short : dir.journal.length ≤ journalReach (lastState dir.journal)
  light : journalBytes env.codec dir.journal ≤ 287 * dir.journal.length

/-- The event `journalStatus` appends to a directory. -/
def nextEvent (dir : RunDirectory) (status : RunStatus) : JournalEvent RunStatus :=
  ⟨journalSchemaVersion, dir.journal.length, dir.manifest.attemptId, dir.journal.length,
    toState status, status⟩

def RunDir.extend (dir : RunDirectory) (status : RunStatus) :
    RunDirectory :=
  { dir with journal := dir.journal ++ [nextEvent dir status] }

theorem RunDir.lastState_extend (dir : RunDirectory) (status : RunStatus) :
    lastState (dir.extend status).journal = some (toState status) :=
  lastState_append _ _

variable {env : Environment S} {disk : Disk RunRequest RunStatus}

/-- Every change the table allows is accepted by a housed directory. -/
theorem Housed.extend {n : Nat} {dir : RunDirectory}
    (housed : Housed env n dir)
    (found : disk.runs.lookup (runIdOf n) = some dir) {status : RunStatus}
    (allowed : allowedTransition (lastState dir.journal) (toState status) = true) :
    append env.codec {} disk (runIdOf n) (nextEvent dir status) =
        .ok { disk with runs := disk.runs.insert (runIdOf n) (dir.extend status) } ∧
      Housed env n (dir.extend status) := by
  obtain ⟨grows, bounded⟩ := journalReach_lt allowed
  have short := housed.short
  have light := housed.light
  have position : (nextEvent dir status).sequence < 10 ^ 1 := by
    change dir.journal.length < 10 ^ 1
    omega
  have identity : (nextEvent dir status).attemptId.utf8ByteSize ≤ 28 := by
    have small : n + 1 < 10 ^ 20 := by
      have := housed.numbered
      unfold u64Max at this
      omega
    change dir.manifest.attemptId.utf8ByteSize ≤ 28
    rw [housed.attempt]
    exact attemptIdOf_size small
  have version : journalSchemaVersion < 10 ^ 1 := by decide
  have size : env.codec.eventBytes (nextEvent dir status) ≤ 200 := by
    simp only [Environment.codec]
    exact encodeEvent_size version position position identity
  have bytes : journalBytes env.codec (dir.extend status).journal ≤
      287 * (dir.extend status).journal.length := by
    rw [RunDir.extend, journalBytes_append, List.length_append, List.length_singleton]
    omega
  have length : (dir.extend status).journal.length ≤ journalReach (some (toState status)) := by
    rw [RunDir.extend, List.length_append, List.length_singleton]
    omega
  have total : journalBytes env.codec (dir.extend status).journal ≤ 256 * 1024 * 1024 := by
    omega
  have fits : env.codec.eventBytes (nextEvent dir status) ≤ 16 * 1024 * 1024 := by omega
  have accepted : append env.codec {} disk (runIdOf n) (nextEvent dir status) =
        .ok { disk with runs := disk.runs.insert (runIdOf n) (dir.extend status) } ∧
      (dir.extend status).Sound env.codec {} (runIdOf n) :=
    housed.sound.append found rfl rfl rfl fits total allowed
  have last := dir.lastState_extend status
  exact ⟨accepted.1, housed.numbered, accepted.2, housed.attempt, last ▸ length, bytes⟩

/-- The manifest of the next run. -/
def intendedManifest (n : Nat) (request : RunRequest) : RunManifest RunRequest :=
  ⟨manifestSchemaVersion, runIdOf n, attemptIdOf (n + 1), request⟩

theorem housed_created (numbered : n + 2 ≤ u64Max)
    (fits : env.manifestBytes (intendedManifest n request) ≤ 16 * 1024 * 1024) :
    Housed env n ⟨intendedManifest n request, []⟩ := by
  have named : attemptIdOf (n + 1) ≠ "" := by
    intro empty
    have := congrArg String.toList empty
    simp [attemptIdOf] at this
  have valid : (intendedManifest n request).validate = .ok () := by
    simp only [RunManifest.validate, bind_eq_ok, refuse_eq_ok]
    exact ⟨(), rfl, (), validateComponent_runIdOf n, named⟩
  exact ⟨numbered,
    ⟨validateComponent_runIdOf n, valid, rfl, fits, rfl, by simp [journalBytes]⟩, rfl,
    by simp [lastState, journalReach], by simp [journalBytes]⟩

/-- The journal holds a running, collecting or terminal event. -/
def Started (journal : List (JournalEvent RunStatus)) : Prop :=
  ∃ event ∈ journal, event.state.started = true

variable {journal : List (JournalEvent RunStatus)}

theorem started_append_iff :
    Started (journal ++ [event]) ↔ Started journal ∨ event.state.started = true := by
  simp [Started, or_and_right, exists_or]

theorem started_of_lastState (h : lastState journal = some s) (hs : s.started = true) :
    Started journal := by
  obtain ⟨event, he, rfl⟩ := Option.map_eq_some_iff.mp h
  exact ⟨event, List.mem_of_getLast? he, hs⟩

theorem Started.grows (grows : before <+: after) (started : Started before) : Started after := by
  obtain ⟨event, mem, state⟩ := started
  exact ⟨event, grows.subset mem, state⟩

/-- The journal may have grown by events of the service; the manifest is the same. -/
structure RunDir.Extends (env : Environment S) (before after : RunDirectory) : Prop where
  manifest : after.manifest = before.manifest
  journal : before.journal <+: after.journal
  housed : ∀ n, Housed env n before → Housed env n after

theorem RunDir.Extends.refl (env : Environment S) (dir : RunDirectory) : dir.Extends env dir :=
  ⟨rfl, List.prefix_refl _, fun _ housed => housed⟩

theorem RunDir.Extends.trans {first second third : RunDirectory}
    (h : first.Extends env second) (h' : second.Extends env third) : first.Extends env third :=
  ⟨h'.manifest.trans h.manifest, h.journal.trans h'.journal,
    fun n housed => h'.housed n (h.housed n housed)⟩

/-- An accepted append extends the directory by the next event. -/
theorem append_extends {next : Disk RunRequest RunStatus}
    {id attemptId : String} {status : RunStatus} {sequence : Nat}
    (h : append env.codec {} disk id
      ⟨journalSchemaVersion, sequence, attemptId, sequence, toState status, status⟩ = .ok next) :
    ∃ dir, disk.runs.lookup id = some dir ∧
      allowedTransition (lastState dir.journal) (toState status) = true ∧
      dir.Extends env (dir.extend status) ∧
      next = { disk with runs := disk.runs.insert id (dir.extend status) } := by
  obtain ⟨dir, found, sound, _, attempt, position, allowed, same, _⟩ := append_spec h
  obtain rfl : attemptId = dir.manifest.attemptId := attempt
  obtain rfl : sequence = dir.journal.length := position
  refine ⟨dir, found, allowed, ⟨rfl, List.prefix_append _ _, fun n housed => ?_⟩, same⟩
  obtain rfl : id = runIdOf n := sound.name.symm.trans housed.sound.name
  exact (housed.extend found allowed).2

end AgentSystemsBenchmark
