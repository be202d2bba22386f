import AgentSystemsBenchmark.Orchestrator.Reopening

/-!
# Admissions and reachable services

What an admission does to memory does not depend on a store: it registers at most one
new run, under an identity no run has had. The names of runs stay in order so, through
every call and every restart, in every service that is reached.
-/

namespace AgentSystemsBenchmark

open Effects Numerals

/-- The number of a run is read back from its name. -/
theorem parseIdNumber_runIdOf {n : Nat} (fits : n ≤ u64Max) : parseIdNumber (runIdOf n) = n := by
  have chars : (runIdOf n).toList = 'r' :: 'u' :: 'n' :: '-' :: n.repr.toList := by
    simp [runIdOf, String.toList_append]
  have digits : n.repr.toList.all Char.isDigit = true :=
    List.all_eq_true.mpr fun _ mem => isDigit_of_mem_repr mem
  have unsigned : ∀ rest, n.repr.toList ≠ '+' :: rest := by
    intro rest same
    have : ('+' : Char).isDigit = true :=
      isDigit_of_mem_repr (n := n) (by rw [same]; exact List.mem_cons_self ..)
    cases this
  have nonempty : n.repr.toList ≠ [] := by
    intro empty
    have length := Nat.length_toDigits_pos (b := 10) (n := n)
    rw [← Nat.toList_repr, empty] at length
    simp at length
  have value : Nat.ofDigitChars 10 n.repr.toList 0 = n := by
    rw [Nat.toList_repr]
    exact Nat.ofDigitChars_ten_toDigits
  have parsed : parseU64 n.repr.toList = some n := by
    unfold parseU64
    split
    · exact absurd ‹_› (unsigned _)
    · simp only [nonempty, digits, not_true_eq_false, or_self, if_false, value, fits, if_true]
  simp only [parseIdNumber, chars, parsed, Option.getD_some]

section Memory
variable {S : Type} {env : Environment S} {w t : World S} {request : RunRequest} {id : String}

/-- Each run is named by its handle, the identities still to come are free, and each key
leads to a run. -/
structure WellNamed (env : Environment S) (o : Orchestrator S) : Prop where
  handles : ∀ id record, o.runs.lookup id = some record →
    record.run = ⟨id, 1, env.requestDigest record.request⟩
  fresh : ∀ n, o.nextId ≤ n → o.runs.lookup (runIdOf n) = none
  keyed : ∀ key id, o.idempotency.lookup key = some id → ∃ record, o.runs.lookup id = some record

theorem WellNamed.new (source : S) : WellNamed env (Orchestrator.new source) where
  handles id record found := by simp [Orchestrator.new] at found
  fresh n _ := by simp [Orchestrator.new]
  keyed key id found := by simp [Orchestrator.new] at found

section
variable (orderly : WellNamed env w.service)
include orderly

theorem WellNamed.touched (h : Local env id w t) :
    WellNamed env t.service where
  handles other new found := by
    obtain ⟨old, found', moves⟩ := h.record_of found
    rw [moves.run, moves.request]
    exact orderly.handles other old found'
  fresh n later := by
    cases found : t.service.runs.lookup (runIdOf n) with
    | none => rfl
    | some new =>
      obtain ⟨old, found', _⟩ := h.record_of found
      rw [orderly.fresh n (h.next ▸ later)] at found'
      cases found'
  keyed key other known := by
    obtain ⟨old, found⟩ := orderly.keyed key other (h.keys ▸ known)
    obtain ⟨new, found', _⟩ := h.moved found
    exact ⟨new, found'⟩

theorem WellNamed.unregistered (h : Unregistered env request w t) : WellNamed env t.service where
  handles other record found := orderly.handles other record (h.runs ▸ found)
  fresh n later := by
    rw [h.runs]
    exact orderly.fresh n (h.next.trans later)
  keyed key other known := by
    rw [h.runs]
    exact orderly.keyed key other (h.keys ▸ known)

theorem WellNamed.registered {P : RunRecord → Prop}
    (h : Registered env request P w t) : WellNamed env t.service where
  handles other record found := by
    by_cases here : other = runIdOf w.service.nextId
    · subst here
      obtain ⟨own, found', stands, _⟩ := h.own
      obtain rfl := Option.mem_unique found' found
      rw [stands.run, stands.request]
      rfl
    · exact orderly.handles other record (h.others other here ▸ found)
  fresh n later := by
    rw [h.next] at later
    have elsewhere : runIdOf n ≠ runIdOf w.service.nextId := by
      intro same
      have := runIdOf_injective same
      omega
    rw [h.others _ elsewhere]
    exact orderly.fresh n (by omega)
  keyed key other known := by
    rw [h.keys] at known
    rcases insert_cases known with ⟨-, rfl⟩ | ⟨-, known⟩
    · obtain ⟨record, found, _⟩ := h.own
      exact ⟨record, found⟩
    · obtain ⟨record, found⟩ := orderly.keyed key other known
      exact ⟨record, h.keeps (orderly.fresh _ (le_refl _)) found⟩

end

theorem admitRun_orderly (request : RunRequest) :
    Upholds (fun w => WellNamed env w.service) (admitRun env request) := by
  intro w orderly
  refine wp_mono admitRun_answers (fun run t h => ?_) fun stop t h => ?_
  · obtain ⟨rfl, _⟩ | ⟨registered, _⟩ := h
    · exact orderly
    · exact orderly.registered registered
  · cases stop with
    | crash => trivial
    | error e =>
      obtain unregistered | registered := h
      · exact orderly.unregistered unregistered
      · exact orderly.registered registered

theorem perform_orderly (call : Call) :
    Upholds (fun w => WellNamed env w.service) (perform env call) :=
  perform_upholds admitRun_orderly (fun _ _ _ h orderly => orderly.touched h.toLocal) call

/-! ## Opening -/

/-- The counter has passed every run that was read. -/
def Passed (ids : List String) (o : Orchestrator S) : Prop :=
  ∀ id ∈ ids, min (parseIdNumber id + 1) u64Max ≤ o.nextId

theorem openRuns_passed (ids : List String) :
    ∀ {read : List String} {w : World S}, Passed read w.service →
      wp (ids.forM (openRun env)) (fun _ t => Passed (read ++ ids) t.service)
        (fun _ _ => True) w := by
  induction ids with
  | nil =>
    intro read w passed
    rw [List.append_nil]
    exact passed
  | cons id rest ih =>
    intro read w passed
    refine wp_seq (wp_mono openRun_restores (fun _ _ h => h) fun _ _ _ => trivial) ?_
    rintro _ t ⟨dir, capability, source, _, _, _, _, _, service⟩
    rw [List.append_cons]
    refine ih fun other mem => ?_
    have next : t.service.nextId = max w.service.nextId (min (parseIdNumber id + 1) u64Max) := by
      rw [service]
      rfl
    rw [next]
    rcases List.mem_append.mp mem with earlier | last
    · exact (passed other earlier).trans (le_max_left _ _)
    · rw [List.mem_singleton.mp last]
      exact le_max_right _ _

theorem openStore_passed :
    wp (openStore env) (fun _ t => Passed (runIds w.disk) t.service) (fun _ _ => True) w := by
  simp only [openStore, wp_bind]
  refine wp_readStore (fun result _ => ?_) trivial
  simp only [wp_check, implies_true, and_true]
  intro _ _
  refine wp_readStore (fun result listed => ?_) trivial
  intro ids read
  obtain rfl : runIds w.disk = ids := Except.ok.inj (listed ids read)
  exact openRuns_passed (runIds w.disk) (List.forall_mem_nil _)

end Memory

/-! ## Lifetimes -/

section Lifetimes
variable {S : Type} {env : Environment S} {P : Orchestrator S → Disk RunRequest RunStatus → Prop}

/-- What holds of the live service, if there is one. -/
def Host.Lives (P : Orchestrator S → Disk RunRequest RunStatus → Prop) (host : Host S) : Prop :=
  ∀ o, host.service = some o → P o host.disk

open Host

variable {host : Host S}

theorem Host.call_lives
    (upholds : ∀ call, Upholds (fun w => P w.service w.disk) (perform env call))
    (lives : host.Lives P) (call : Call) (faults : List Fault) :
    (host.step env (.call call faults)).Lives P := by
  cases served : host.service with
  | none =>
    simp only [step, served]
    exact lives
  | some service =>
    intro o live
    rw [step_call env served] at live ⊢
    obtain ⟨t, held, rfl, disk, _⟩ := after_returns
      (upholds call (host.world service faults) (lives service served)) live
    rw [disk]
    exact held

theorem Host.restarted_orderly {source : S} {faults : List Fault}
    (housed : AllHoused env host.disk) :
    (host.step env (.restart source faults)).Lives fun o _ => WellNamed env o := by
  intro o live
  have restored := reopened env live
  obtain ⟨t, passed, rfl, _⟩ := opened_returns (@openStore_passed S env
    ⟨{ Orchestrator.new source with durable := true }, host.disk, faults, host.calls, 0⟩) live
  refine ⟨fun id record found => ?_, fun n later => ?_, fun key id known => ?_⟩
  · obtain ⟨dir, capability, _, sound, _, stored⟩ :=
      restored.housed id (restored.known id record found)
    obtain rfl := Option.mem_unique stored found
    simp only [restoredRecord, sound.name]
  · cases found : t.service.runs.lookup (runIdOf n) with
    | none => rfl
    | some record =>
      have read := restored.known _ record found
      obtain ⟨dir, _, stored, _⟩ := restored.housed _ read
      obtain ⟨m, named, house, _⟩ := housed _ dir stored
      obtain rfl := runIdOf_injective named
      have numbered := house.numbered
      have counted := passed _ read
      rw [parseIdNumber_runIdOf (by omega)] at counted
      omega
  · obtain ⟨_, _, _, _, _, stored⟩ := restored.housed id (restored.keys key id known).1
    exact ⟨_, stored⟩

/-- A service that keeps its runs in memory only. -/
def Host.inMemory (source : S) : Host S := ⟨some (Orchestrator.new source), Disk.empty, []⟩

/-- The life of a service: over one root with any restarts, or in memory without one. -/
inductive Lifetime : Host S → List (HostEvent S) → Prop where
  | root (events : List (HostEvent S)) : Lifetime fresh events
  | memory (source : S) (calls : List (Call × List Fault)) :
      Lifetime (inMemory source) (calls.map fun call => .call call.1 call.2)

variable {events : List (HostEvent S)}

theorem Host.Run.orderly
    (run : Host.Run env events host) : host.Lives fun o _ => WellNamed env o := by
  unfold Host.Run at run
  induction run with
  | nil => exact fun o live => by cases live
  | @snoc before _ events event prior last ih =>
    subst last
    cases event with
    | call call faults => exact call_lives perform_orderly ih call faults
    | restart source faults => exact restarted_orderly (Host.Run.housed env prior).1

/-- In memory, what every call keeps holds after any calls. -/
theorem Host.calls_live
    (upholds : ∀ call, Upholds (fun w => P w.service w.disk) (perform env call))
    (lives : host.Lives P) (calls : List (Call × List Fault)) :
    ((calls.map fun call => HostEvent.call call.1 call.2).foldl (step env) host).Lives P := by
  induction calls generalizing host with
  | nil => exact lives
  | cons call rest ih => exact ih (call_lives upholds lives call.1 call.2)

theorem Host.fold_run (env : Environment S) (events : List (HostEvent S)) :
    Host.Run env events (events.foldl (step env) fresh) :=
  Runs.Run.foldl (step env) fresh events

/-- Every service that is reached is orderly. -/
theorem Lifetime.orderly (env : Environment S) {start : Host S} (life : Lifetime start events) :
    (events.foldl (step env) start).Lives fun o _ => WellNamed env o := by
  cases life with
  | root events => exact (fold_run env events).orderly
  | memory source calls =>
    refine calls_live perform_orderly (fun o live => ?_) calls
    cases live
    exact .new source

end Lifetimes

end AgentSystemsBenchmark
