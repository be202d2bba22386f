import AgentSystemsBenchmark.Orchestrator.Directories

/-!
# What an operation can change

Every operation but admission and opening works on one run. It may move that run's
record on and extend that run's journal; identities, keys and all other runs and
directories stay. This is said once for each operation, and invariants of whole runs
of the service are derived from it.
-/

namespace AgentSystemsBenchmark

open Effects List AList

/-- The run has left preparation, one way or another. -/
def RunStatus.begun : RunStatus → Bool
  | admitted | prepared => false
  | _ => true

/-- The same run and request, in the same status or past preparation. -/
structure RunRecord.Moves (old new : RunRecord) : Prop where
  request : new.request = old.request
  requestDigest : new.requestDigest = old.requestDigest
  run : new.run = old.run
  attempt : new.attempt = old.attempt
  status : new.status = old.status ∨ new.status.begun = true

theorem RunRecord.Moves.refl (record : RunRecord) : record.Moves record :=
  ⟨rfl, rfl, rfl, rfl, .inl rfl⟩

theorem RunRecord.Moves.trans {first second third : RunRecord} (h : first.Moves second)
    (h' : second.Moves third) : first.Moves third where
  request := h'.request.trans h.request
  requestDigest := h'.requestDigest.trans h.requestDigest
  run := h'.run.trans h.run
  attempt := h'.attempt.trans h.attempt
  status := by
    rcases h'.status with same | begun
    · rw [same]
      exact h.status
    · exact .inr begun

theorem pushEvent_moves {old new : RunRecord} {status : RunStatus}
    (h : pushEvent old status = .ok new) (begun : status.begun = true) : old.Moves new := by
  obtain ⟨run, attempt, moved⟩ := pushEvent_ok h
  have digest : new.requestDigest = old.requestDigest := by
    unfold pushEvent at h
    split at h
    · cases h
    · cases h
      rfl
  exact ⟨pushEvent_request h, digest, run, attempt, .inr (moved ▸ begun)⟩

section Footprint
variable {S α β : Type} {env : Environment S} {id : String} {w t v : World S} {τ : Type}

variable {R : τ → τ → Prop}

theorem rel_refl (h : ∀ a, R a a) (x : Option τ) :
    Option.Rel R x x := by
  cases x with
  | none => exact .none
  | some a => exact .some (h a)

theorem rel_trans (h : ∀ {a b c}, R a b → R b c → R a c) (first : Option.Rel R x y)
    (second : Option.Rel R y z) : Option.Rel R x z := by
  cases first with
  | none => exact second
  | some ab =>
    cases second with
    | some bc => exact .some (h ab bc)

theorem rel_some_left (h : Option.Rel R (some a) y) : ∃ b, y = some b ∧ R a b := by
  cases h with
  | some related => exact ⟨_, rfl, related⟩

theorem rel_some_right (h : Option.Rel R x (some b)) : ∃ a, x = some a ∧ R a b := by
  cases h with
  | some related => exact ⟨_, rfl, related⟩

/-- No directory has changed but that of one run, which may have grown. -/
structure Grown (env : Environment S) (id : String) (before after : Disk RunRequest RunStatus) :
    Prop where
  elsewhere : ∀ other, other ≠ id → after.runs.lookup other = before.runs.lookup other
  dir : Option.Rel (RunDir.Extends env) (before.runs.lookup id) (after.runs.lookup id)

variable {prior later : Disk RunRequest RunStatus} {dir : RunDirectory} {other : String}

theorem Grown.refl (disk : Disk RunRequest RunStatus) : Grown env id disk disk :=
  ⟨fun _ _ => rfl, rel_refl (.refl env) _⟩

/-- Every directory is still there, and has grown. -/
theorem Grown.directory (h : Grown env id prior later)
    (found : prior.runs.lookup other = some dir) :
    ∃ dir', later.runs.lookup other = some dir' ∧ dir.Extends env dir' := by
  by_cases here : other = id
  · subst here
    exact rel_some_left (found ▸ h.dir)
  · exact ⟨dir, (h.elsewhere other here).trans found, .refl env dir⟩

/-- No directory is new. -/
theorem Grown.directory_of (h : Grown env id prior later)
    (found : later.runs.lookup other = some dir) :
    ∃ dir', prior.runs.lookup other = some dir' ∧ dir'.Extends env dir := by
  by_cases here : other = id
  · subst here
    exact rel_some_right (found ▸ h.dir)
  · exact ⟨dir, (h.elsewhere other here).symm.trans found, .refl env dir⟩

/-- The journal of the run has left preparation. -/
def Underway (id : String) (disk : Disk RunRequest RunStatus) : Prop :=
  ∃ dir, disk.runs.lookup id = some dir ∧ Started dir.journal

theorem Underway.grown (underway : Underway id prior) (h : Grown env id prior later) :
    Underway id later := by
  obtain ⟨dir, found, started⟩ := underway
  obtain ⟨dir', found', extends'⟩ := h.directory found
  exact ⟨dir', found', started.grows extends'.journal⟩

variable {state : ExecutionState}

theorem Journaled.underway (journaled : Journaled w id state)
    (started : state.started = true) : Underway id w.disk := by
  obtain ⟨dir, found, last⟩ := journaled
  exact ⟨dir, found, started_of_lastState last started⟩

/-- The record of the run, if there is one, has left preparation. -/
def Begun (id : String) (w : World S) : Prop :=
  ∀ record, w.service.runs.lookup id = some record → record.status.begun = true

/-- A prepared run was handed to the authority, after its journal had left preparation. -/
def Executes (id : String) (w t : World S) : Prop :=
  ∃ record, w.service.runs.lookup id = some record ∧ record.status = .prepared ∧
    t.calls = w.calls ++ [record.attempt.id] ∧ Begun id t ∧
    (w.service.durable = true → Underway id t.disk)

/-- Nothing has changed but one run: its record and its journal have moved on, the journal not
before the record, and it may have been executed. -/
structure Local (env : Environment S) (id : String) (w t : World S) : Prop
    extends Grown env id w.disk t.disk where
  keys : t.service.idempotency = w.service.idempotency
  next : t.service.nextId = w.service.nextId
  durable : t.service.durable = w.service.durable
  others : ∀ other, other ≠ id → t.service.runs.lookup other = w.service.runs.lookup other
  record : Option.Rel RunRecord.Moves (w.service.runs.lookup id) (t.service.runs.lookup id)
  quiet : Begun id t ∨ (Underway id t.disk → Underway id w.disk)
  calls : t.calls = w.calls ∨ Executes id w t

/-- Only the authority, the remaining outcomes and the counters have changed. -/
theorem Local.of_same (runs : t.service.runs = w.service.runs)
    (keys : t.service.idempotency = w.service.idempotency)
    (next : t.service.nextId = w.service.nextId)
    (durable : t.service.durable = w.service.durable) (disk : t.disk = w.disk)
    (calls : t.calls = w.calls) : Local env id w t where
  elsewhere other _ := by rw [disk]
  dir := by rw [disk]; exact rel_refl (.refl env) _
  keys := keys
  next := next
  durable := durable
  others other _ := by rw [runs]
  record := by rw [runs]; exact rel_refl .refl _
  quiet := .inr fun underway => disk ▸ underway
  calls := .inl calls

theorem Local.refl (w : World S) : Local env id w w := .of_same rfl rfl rfl rfl rfl rfl

section
variable (h : Local env id w t)
include h

theorem Local.record_of (found : t.service.runs.lookup other = some new) :
    ∃ old, w.service.runs.lookup other = some old ∧ old.Moves new := by
  by_cases here : other = id
  · subst here
    exact rel_some_right (found ▸ h.record)
  · exact ⟨new, (h.others other here).symm.trans found, .refl new⟩

theorem Local.moved (found : w.service.runs.lookup other = some old) :
    ∃ new, t.service.runs.lookup other = some new ∧ old.Moves new := by
  by_cases here : other = id
  · subst here
    exact rel_some_left (found ▸ h.record)
  · exact ⟨old, (h.others other here).trans found, .refl old⟩

theorem Local.begun (begun : Begun id w) : Begun id t := by
  intro new found
  obtain ⟨old, found', moves⟩ := h.record_of found
  rcases moves.status with same | later
  · rw [same]
    exact begun old found'
  · exact later

theorem Local.trans (h' : Local env id t v) : Local env id w v where
  elsewhere other ne := (h'.elsewhere other ne).trans (h.elsewhere other ne)
  dir := rel_trans .trans h.dir h'.dir
  keys := h'.keys.trans h.keys
  next := h'.next.trans h.next
  durable := h'.durable.trans h.durable
  others other ne := (h'.others other ne).trans (h.others other ne)
  record := rel_trans .trans h.record h'.record
  quiet := by
    rcases h'.quiet with begun | quiet'
    · exact .inl begun
    · rcases h.quiet with begun | quiet
      · exact .inl (h'.begun begun)
      · exact .inr fun underway => quiet (quiet' underway)
  calls := by
    rcases h.calls with same | ⟨first, found, prepared, called, begun, underway⟩
    · rcases h'.calls with same' | ⟨second, found, prepared, called, begun, underway⟩
      · exact .inl (same'.trans same)
      · obtain ⟨old, found', moves⟩ := h.record_of found
        have waiting : old.status = .prepared := by
          rcases moves.status with kept | later
          · exact kept.symm.trans prepared
          · rw [prepared] at later
            cases later
        exact .inr ⟨old, found', waiting, by rw [called, same, moves.attempt], begun,
          fun durable => underway (h.durable.trans durable)⟩
    · rcases h'.calls with same' | ⟨second, found', prepared', _⟩
      · exact .inr ⟨first, found, prepared, same'.trans called, h'.begun begun,
          fun durable => (underway durable).grown h'.toGrown⟩
      · -- a run that was executed is not prepared again
        have later := begun second found'
        rw [prepared'] at later
        cases later

end

variable {old : RunRecord}

/-- A record replaced by one it can move to. -/
theorem Local.put (found : w.service.runs.lookup id = some old) (moves : old.Moves new) :
    Local env id w
      { w with service := { w.service with runs := w.service.runs.insert id new } } where
  elsewhere _ _ := rfl
  dir := rel_refl (.refl env) _
  keys := rfl
  next := rfl
  durable := rfl
  others other ne := lookup_insert_ne ne
  record := by
    rw [found]
    change Option.Rel _ _ ((w.service.runs.insert id new).lookup id)
    rw [lookup_insert]
    exact .some moves
  quiet := .inr fun underway => underway
  calls := .inl rfl

/-- If the record is terminal, its journal ends in the same status. -/
def Certified (id : String) (w : World S) : Prop :=
  ∀ record, w.service.runs.lookup id = some record → record.status.terminal = true →
    w.service.durable = true → Journaled w id (toState record.status)

theorem Certified.of_record {record : RunRecord} (stored : w.service.runs.lookup id = some record)
    (agrees : record.status.terminal = true → w.service.durable = true →
      Journaled w id (toState record.status)) : Certified id w := by
  intro other found
  obtain rfl := Option.mem_unique stored found
  exact agrees

/-- The work on one run, after which its record and its journal agree if they did before. -/
structure Works (env : Environment S) (id : String) (w t : World S) : Prop
    extends Local env id w t where
  certified : Certified id w → Certified id t

open Works

theorem Works.of_same (runs : t.service.runs = w.service.runs)
    (keys : t.service.idempotency = w.service.idempotency)
    (next : t.service.nextId = w.service.nextId)
    (durable : t.service.durable = w.service.durable) (disk : t.disk = w.disk)
    (calls : t.calls = w.calls) : Works env id w t where
  toLocal := .of_same runs keys next durable disk calls
  certified agrees record found terminal store := by
    rw [Journaled, disk]
    exact agrees record (runs ▸ found) terminal (durable ▸ store)

theorem Works.refl (w : World S) : Works env id w w := .of_same rfl rfl rfl rfl rfl rfl

theorem Works.trans (h : Works env id w t) (h' : Works env id t v) : Works env id w v :=
  ⟨h.toLocal.trans h'.toLocal, fun agrees => h'.certified (h.certified agrees)⟩

/-- An error comes after the work is done; a crash may fall between the record and its journal. -/
def Leaves (env : Environment S) (id : String) (w : World S) : Stop → World S → Prop
  | .error _, t => Works env id w t
  | .crash, t => Local env id w t

theorem Works.leaves (h : Works env id w t) : ∀ stop, Leaves env id w stop t
  | .error _ => h
  | .crash => h.toLocal

/-- However the operation ends, it has worked on one run only. -/
def Touches (env : Environment S) (id : String) (x : Op S α) : Prop :=
  ∀ w, wp x (fun _ => Works env id w) (Leaves env id w) w

theorem Leaves.local (h : Leaves env id w stop t) : Local env id w t := by
  cases stop with
  | error e => exact toLocal h
  | crash => exact h

theorem Touches.local (hx : Touches env id x) (w : World S) :
    wp x (fun _ => Local env id w) (fun _ => Local env id w) w :=
  wp_mono (hx w) (fun _ _ h => h.toLocal) fun _ _ h => h.local

theorem Touches.after (hx : Touches env id x) (h : Works env id w t) :
    wp x (fun _ => Works env id w) (Leaves env id w) t := by
  refine wp_mono (hx t) (fun _ _ h' => h.trans h') fun stop _ h' => ?_
  cases stop with
  | error e => exact h.trans h'
  | crash => exact h.toLocal.trans h'

theorem Touches.bind (hx : Touches env id x) (hf : ∀ a, Touches env id (f a)) :
    Touches env id (x >>= f) :=
  fun w => wp_seq (hx w) fun a _ h => (hf a).after h

theorem Touches.pure (a : α) : Touches env id (pure a : Op S α) := fun w => .refl w

theorem Touches.fail (error : OrchestratorError) : Touches env id (fail error : Op S α) :=
  fun w => refl w

theorem askSource_touches (call : S → α × S) : Touches env id (askSource call) := by
  intro w
  have asked : ∀ faults (source : S), Works env id w { w with
      faults := faults, service := { w.service with source := source } } :=
    fun _ _ => .of_same rfl rfl rfl rfl rfl rfl
  exact wp_invoke (asked _ _) (Local.of_same rfl rfl rfl rfl rfl rfl) (asked _ _).toLocal

/-- Memory is as it was, and the journal of one run may have gained events of one state. -/
structure Appends (env : Environment S) (id : String) (state : ExecutionState)
    (w t : World S) : Prop
    extends Grown env id w.disk t.disk where
  service : t.service = w.service
  calls : t.calls = w.calls
  source : Underway id t.disk → Underway id w.disk ∨ state.started = true

theorem Appends.of_disk (service : t.service = w.service)
    (calls : t.calls = w.calls) (disk : t.disk = w.disk) : Appends env id state w t where
  toGrown := disk ▸ .refl _
  service := service
  calls := calls
  source underway := .inl (disk ▸ underway)

/-- The journal may leave preparation once the record has. -/
theorem Appends.local (h : Appends env id state w t)
    (ready : state.started = true → Begun id w) : Local env id w t where
  toGrown := h.toGrown
  keys := by rw [h.service]
  next := by rw [h.service]
  durable := by rw [h.service]
  others other _ := by rw [h.service]
  record := by rw [h.service]; exact rel_refl .refl _
  quiet := by
    by_cases started : state.started = true
    · refine .inl fun record found => ready started record ?_
      rw [← h.service, found]
    · exact .inr fun underway => (h.source underway).resolve_right started
  calls := .inl h.calls

/-- The answer of a journal operation: success only if the journal ends in the state. -/
def Writes (env : Environment S) (id : String) (state : ExecutionState) (w : World S)
    (result : Except StoreError Unit) (t : World S) : Prop :=
  Appends env id state w t ∧ (result = .ok () → Journaled t id state)

theorem appendEvent_writes (attemptId : String) (status : RunStatus) (sequence : Nat) :
    wp (appendEvent env id attemptId status sequence) (Writes env id (toState status) w)
      (fun stop t => stop = .crash ∧ Appends env id (toState status) w t) w := by
  have written : ∀ disk, append env.codec {} w.disk id
      ⟨journalSchemaVersion, sequence, attemptId, sequence, toState status, status⟩ = .ok disk →
      ∀ faults refusals, Appends env id (toState status) w
        { w with disk := disk, faults := faults, refusals := refusals } := by
    intro disk accepted faults refusals
    obtain ⟨dir, found, _, extends', rfl⟩ := append_extends accepted
    have stored :
        (w.disk.runs.insert id (dir.extend status)).lookup id = some (dir.extend status) :=
      lookup_insert _
    refine ⟨⟨fun other ne => lookup_insert_ne ne, ?_⟩, rfl, rfl, ?_⟩
    · rw [found]
      change Option.Rel _ _ ((w.disk.runs.insert id (dir.extend status)).lookup id)
      rw [stored]
      exact .some extends'
    · rintro ⟨dir', found', started⟩
      obtain rfl := Option.mem_unique stored found'
      exact (started_append_iff.mp started).imp (fun old => ⟨dir, found, old⟩) fun new => new
  refine wp_writeStore (P := fun disk => ∀ faults refusals, Appends env id (toState status) w
    { w with disk := disk, faults := faults, refusals := refusals })
    (fun _ _ => .of_disk rfl rfl rfl) written (fun _ _ _ => .of_disk rfl rfl rfl) ?_ ?_ ?_
  · exact fun refusals _ _ h => ⟨h _ refusals, nofun⟩
  · intro refusals disk accepted
    refine ⟨written disk accepted _ refusals, fun _ => ?_⟩
    obtain ⟨dir, _, _, rfl⟩ := append_ok accepted
    exact ⟨_, lookup_insert _, lastState_append _ _⟩
  · exact fun refusals _ h => ⟨rfl, h _ refusals⟩

theorem journalStatus_writes (attemptId : String) (status : RunStatus) :
    wp (journalStatus env id attemptId status) (Writes env id (toState status) w)
      (fun stop t => stop = .crash ∧ Appends env id (toState status) w t) w := by
  have read : ∀ faults, Appends env id (toState status) w { w with faults := faults } :=
    fun _ => .of_disk rfl rfl rfl
  simp only [journalStatus, wp_bind]
  refine wp_readStore (fun result loaded => ?_) ⟨rfl, read _⟩
  cases result with
  | error e => exact ⟨read _, by rintro ⟨⟩⟩
  | ok events =>
    obtain ⟨dir, found, rfl, _⟩ := loadJournal_ok (loaded events rfl)
    simp only [wp_ite, wp_pure]
    refine ⟨fun last => ⟨read _, fun _ => ⟨dir, found, last⟩⟩, fun _ => ?_⟩
    exact wp_mono (appendEvent_writes _ _ _) (fun _ _ h => ⟨⟨h.1.1, h.1.2, h.1.3, h.1.4⟩, h.2⟩)
      fun _ _ h => ⟨h.1, h.2.1, h.2.2, h.2.3, h.2.4⟩

variable {status : RunStatus} {record : RunRecord}

/-- A status that could not be made durable leaves its run behind the barrier, unless the
process died. -/
structure Demotes (env : Environment S) (id : String) (record : RunRecord) (w : World S)
    (stop : Stop)
    (t : World S) : Prop where
  worked : Local env id w t
  calls : t.calls = w.calls
  durable : w.service.durable = true
  barred : stop ≠ .crash → ∃ status, t.service =
    { w.service with runs := w.service.runs.insert id (record.unpersisted status) }

theorem Demotes.stored (h : Demotes env id record w stop t) (returned : stop ≠ .crash) :
    ∃ new, t.service.runs.lookup id = some new ∧ new.status = .needsReconciliation := by
  obtain ⟨status, service⟩ := h.barred returned
  exact ⟨record.unpersisted status, by rw [service]; exact lookup_insert _, rfl⟩

theorem Demotes.leaves (before : Local env id w t) (h : Demotes env id record t stop v) :
    Leaves env id w stop v := by
  cases stop with
  | crash => exact before.trans h.worked
  | error e =>
    obtain ⟨new, stored, barred⟩ := h.stored nofun
    refine ⟨before.trans h.worked, fun _ => .of_record stored fun terminal => ?_⟩
    rw [barred] at terminal
    cases terminal

theorem persistFor_spec (found : w.service.runs.lookup id = some record)
    (ready : (toState status).started = true → record.status.begun = true) :
    wp (persistFor env id status)
      (fun _ t => Local env id w t ∧ t.service = w.service ∧ t.calls = w.calls ∧
        (w.service.durable = true → Journaled t id (toState status)))
      (Demotes env id record w) w := by
  have begun : (toState status).started = true → Begun id w := by
    intro started other found'
    obtain rfl := Option.mem_unique found found'
    exact ready started
  simp only [persistFor, wp_bind, wp_get, wp_ite, found, wp_pure]
  refine ⟨fun durable => ?_, fun off =>
    ⟨.refl w, trivial, trivial, fun durable => absurd durable off⟩⟩
  refine wp_mono (journalStatus_writes _ _) (fun result t h => ?_) fun stop t h => ?_
  · have worked := h.1.local begun
    cases result with
    | ok u => exact ⟨worked, h.1.service, h.1.calls, fun _ => h.2 rfl⟩
    | error e =>
      have stored : t.service.runs.lookup id = some record := by rw [h.1.service, found]
      simp only [wp_bind, updateRecord, wp_updateService, stored]
      refine ⟨worked.trans (.put stored ⟨rfl, rfl, rfl, rfl, .inr rfl⟩), h.1.calls, durable,
        fun _ => ⟨status, ?_⟩⟩
      rw [h.1.service]
  · exact ⟨h.2.local begun, h.2.calls, durable, fun returned => absurd h.1 returned⟩

variable {f : RunRecord → RunRecord}

/-- The step every change of a status ends with. -/
theorem publish_spec (env : Environment S) (status : RunStatus)
    (h : Works env id w t) (found : t.service.runs.lookup id = some old)
    (begun : status.begun = true) (keeps : ∀ r : RunRecord, r.Moves (f r))
    (same : ∀ r, (f r).status = r.status) :
    wp (require (pushEvent old status) >>= fun new =>
      putRecord id (f new) >>= fun _ => persistFor env id status)
      (fun _ v => Works env id w v ∧ v.calls = t.calls ∧ Begun id v ∧
        (t.service.durable = true → Journaled v id (toState status)))
      (Leaves env id w) t := by
  simp only [wp_bind, wp_require, putRecord, wp_updateService]
  refine ⟨fun new pushed => ?_, fun _ _ => h⟩
  have reached : (f new).status = status := (same new).trans (pushEvent_ok pushed).2.2
  have put := h.toLocal.trans (.put found ((pushEvent_moves pushed begun).trans (keeps new)))
  refine wp_mono (persistFor_spec (lookup_insert _) fun _ => by rw [reached, begun]) ?_ ?_
  · rintro _ v ⟨worked, service, calls, journaled⟩
    have stored : v.service.runs.lookup id = some (f new) := by
      rw [service]
      exact lookup_insert _
    refine ⟨⟨put.trans worked, fun _ => .of_record stored fun _ durable => ?_⟩, calls,
      fun other found' => ?_, journaled⟩
    · rw [reached]
      exact journaled (worked.durable ▸ durable)
    · obtain rfl := Option.mem_unique stored found'
      rw [reached, begun]
  · exact fun _ _ demoted => demoted.leaves put

theorem publish_touches (env : Environment S) (status : RunStatus)
    (h : Works env id w t) (found : t.service.runs.lookup id = some old)
    (begun : status.begun = true) (keeps : ∀ r : RunRecord, r.Moves (f r))
    (same : ∀ r, (f r).status = r.status) :
    wp (require (pushEvent old status) >>= fun new =>
      putRecord id (f new) >>= fun _ => persistFor env id status)
      (fun _ => Works env id w) (Leaves env id w) t :=
  wp_mono (publish_spec env status h found begun keeps same) (fun _ _ h => h.1) fun _ _ h => h

/-- Dropping the capability is no move of its own. -/
theorem moves_released (r : RunRecord) : r.Moves { r with capability := none } :=
  ⟨rfl, rfl, rfl, rfl, .inl rfl⟩

theorem cleanupBarrier_touches : Touches env id (cleanupBarrier id : Op S α) := by
  intro w
  simp only [cleanupBarrier, wp_bind, updateRecord, wp_updateService]
  cases found : w.service.runs.lookup id with
  | none => exact refl w
  | some record =>
    have moves : record.Moves record.interrupted := ⟨rfl, rfl, rfl, rfl, .inr rfl⟩
    have put : Local env id w _ := Local.put found moves
    exact ⟨put, fun _ => .of_record (lookup_insert _) (by rintro ⟨⟩)⟩

variable {request : RunRequest} {capability : AttemptCapability}

theorem revoke_touches :
    Touches env id (revoke env id request capability) := by
  refine (askSource_touches _).bind fun answer => ?_
  cases answer with
  | ok u => exact .pure _
  | error e => exact cleanupBarrier_touches

variable {handle : RunHandle} {attemptHandle : AttemptHandle}

/-- A run that is started has left preparation, in memory and then on disk. -/
theorem start_spec :
    wp (start env handle)
      (fun _ t => Works env handle.id w t ∧ t.calls = w.calls ∧ Begun handle.id t ∧
        (w.service.durable = true → Journaled t handle.id (toState .running)))
      (Leaves env handle.id w) w := by
  simp only [start, wp_bind]
  refine wp_recordMut (fun old found _ => ?_) fun _ => refl w
  simp only [wp_failIf]
  refine ⟨fun _ => refl w, fun _ => ?_⟩
  have published :=
    publish_spec (f := fun r => r) env .running (.refl w) found rfl .refl fun _ => rfl
  simpa only [wp_bind, wp_pure] using published

theorem start_touches : Touches env handle.id (start env handle) :=
  fun _ => wp_mono start_spec (fun _ _ h => h.1) fun _ _ h => h

theorem settle_touches (begun : status.begun = true) :
    Touches env handle.id (settle env handle status) := by
  intro w
  rw [settle, wp_bind]
  exact wp_recordMut (fun old found _ =>
    publish_touches env status (.refl w) found begun moves_released fun _ => rfl)
    fun _ => refl w

theorem failAttempt_touches :
    Touches env handle.id (failAttempt env handle request capability error : Op S α) :=
  revoke_touches.bind fun _ => (settle_touches rfl).bind fun _ => .fail _

/-- The record is complete before the journal says that the outcome is collected. -/
theorem collect_touches {outcome : ExecutionOutcome} :
    Touches env handle.id (collect env handle outcome) := by
  intro w
  simp only [collect, wp_bind]
  refine wp_recordMut (fun old found _ => ?_) fun _ => refl w
  simp only [wp_require, putRecord, wp_updateService]
  refine ⟨fun first pushed => ?_, fun _ _ => refl w⟩
  have collecting := (pushEvent_ok pushed).2.2
  have moved : Local env handle.id w _ := Local.put found (pushEvent_moves pushed rfl)
  refine ⟨fun second pushed' => ?_, fun _ _ => ⟨moved, fun _ => .of_record (lookup_insert _)
    fun terminal => by rw [collecting] at terminal; cases terminal⟩⟩
  have completed := (pushEvent_ok pushed').2.2
  let final : RunRecord :=
    { second with capability := none, artifactBytes := outcome.artifactBytes }
  have reached : final.status = .completed := completed
  have moves : first.Moves final :=
    (pushEvent_moves pushed' rfl).trans ⟨rfl, rfl, rfl, rfl, .inl rfl⟩
  have published := moved.trans (.put (lookup_insert _) moves)
  refine wp_mono (persistFor_spec (lookup_insert _) fun _ => by rw [reached]; rfl) ?_
    fun _ _ demoted => demoted.leaves published
  rintro _ t ⟨worked, service, _⟩
  have whole := published.trans worked
  have stored : t.service.runs.lookup handle.id = some final := by
    rw [service]
    exact lookup_insert _
  refine wp_mono (persistFor_spec stored fun _ => by rw [reached]; rfl) ?_
    fun _ _ demoted => demoted.leaves whole
  rintro _ v ⟨worked', service', _, journaled⟩
  refine ⟨whole.trans worked', fun _ => .of_record (by rw [service', stored]) fun _ durable => ?_⟩
  rw [reached]
  exact journaled (worked'.durable ▸ durable)

theorem conclude_touches :
    Touches env handle.id (conclude env handle request capability answer) := by
  unfold conclude
  split
  · exact (settle_touches rfl).bind fun _ => .fail _
  · exact failAttempt_touches
  · split
    · exact failAttempt_touches
    · split
      · exact failAttempt_touches
      · exact revoke_touches.bind fun _ => collect_touches

theorem execute_touches : Touches env handle.id (execute env handle attemptHandle) := by
  intro w
  simp only [execute, wp_bind]
  refine wp_record (fun prepared found _ => ?_) fun _ => refl w
  simp only [wp_failIf]
  refine ⟨fun _ => refl w, fun matched => ?_⟩
  obtain ⟨attempt, status⟩ : prepared.attempt = attemptHandle ∧ prepared.status = .prepared := by
    simpa only [ne_eq, not_or, not_not] using matched
  cases prepared.capability with
  | none => exact refl w
  | some held =>
    simp only [wp_bind]
    refine wp_mono start_spec ?_ fun _ _ h => h
    rintro _ t ⟨worked, calls, begun, journaled⟩
    -- From here the call is recorded: the journal has just left preparation.
    have called : ∀ faults (source : S), Works env handle.id w { t with
        faults := faults, service := { t.service with source := source }
        calls := t.calls ++ [attemptHandle.id] } := by
      intro faults source
      refine ⟨⟨worked.toGrown, worked.keys, worked.next, worked.durable, worked.others,
        worked.record, worked.quiet, .inr ⟨prepared, found, status, ?_, begun, fun durable => ?_⟩⟩,
        worked.certified⟩
      · rw [calls, attempt]
      · exact (journaled durable).underway rfl
    refine wp_invoke (conclude_touches.after (called _ _)) ?_ (called _ _).toLocal
    exact worked.toLocal.trans (.of_same rfl rfl rfl rfl rfl rfl)

/-- Only a prepared run is executed; the refusal changes nothing. -/
theorem execute_unprepared
    (moved : ∀ record, w.service.runs.lookup handle.id = some record → record.status ≠ .prepared) :
    wp (execute env handle attemptHandle) (fun _ _ => False)
      (fun stop t => t = w ∧ ∃ error, stop = .error error) w := by
  simp only [execute, wp_bind]
  refine wp_record (fun record found _ => ?_) fun e => ⟨rfl, e, rfl⟩
  simp only [wp_failIf]
  exact ⟨fun _ => ⟨trivial, _, rfl⟩, fun matched => absurd (.inr (moved record found)) matched⟩

theorem revokeHeld_touches : Touches env handle.id (revokeHeld env handle record) := by
  unfold revokeHeld
  cases record.capability with
  | none => exact .pure _
  | some capability => exact revoke_touches

theorem cancel_touches : Touches env handle.id (cancel env handle attemptHandle) := by
  intro w
  simp only [cancel, wp_bind]
  refine wp_record (fun before _ _ => ?_) fun _ => refl w
  simp only [wp_ite, wp_bind, wp_failIf, wp_pure]
  refine ⟨fun _ => refl w, fun _ => ⟨fun _ => .refl w, fun _ => ⟨fun _ => refl w, fun _ => ?_⟩⟩⟩
  refine wp_mono (revokeHeld_touches w) (fun _ t h => ?_) fun _ _ h => h
  refine wp_recordMut (fun old found _ => ?_) fun _ => h
  refine ⟨fun _ => h, fun _ => ⟨fun _ => h, fun _ => ?_⟩⟩
  have published := publish_touches env .cancelled h found rfl moves_released fun _ => rfl
  simpa only [wp_bind, wp_pure] using published

theorem complete_touches : Touches env handle.id (complete env handle attemptHandle) := by
  intro w
  simp only [complete, wp_bind]
  refine wp_record (fun before _ _ => ?_) fun _ => refl w
  simp only [wp_failIf, wp_pure]
  refine ⟨fun _ => refl w, fun _ => ⟨fun _ => refl w, fun _ => ?_⟩⟩
  refine wp_mono (revokeHeld_touches w) (fun _ t h => ?_) fun _ _ h => h
  refine wp_recordMut (fun old found _ => ?_) fun _ => h
  refine ⟨fun _ => h, fun _ => ⟨fun _ => h, fun _ => ?_⟩⟩
  have published := publish_touches env .completed h found rfl moves_released fun _ => rfl
  simpa only [wp_bind, wp_pure] using published

theorem inspectAttempt_touches : Touches env id (inspectAttempt env record attemptHandle) := by
  refine (askSource_touches _).bind fun answer => ?_
  cases answer with
  | error e => exact .fail _
  | ok u =>
    cases record.capability with
    | none => exact .pure _
    | some capability =>
      refine (askSource_touches _).bind fun answer => ?_
      cases answer with
      | error e => exact .fail _
      | ok u => exact .pure _

/-- A reconciled run is failed in memory before its journal says so. -/
theorem reconcile_touches : Touches env handle.id (reconcile env handle attemptHandle) := by
  intro w
  simp only [reconcile, wp_bind, wp_get]
  cases found : w.service.runs.lookup handle.id with
  | none => exact refl w
  | some record =>
    simp only [wp_bind, wp_failIf, wp_pure]
    refine ⟨fun _ => refl w, fun _ => ?_⟩
    refine wp_mono (inspectAttempt_touches w) (fun _ t h => ?_) fun _ _ h => h
    obtain ⟨old, stored, _⟩ := h.moved found
    simp only [updateRecord, wp_updateService, stored]
    have failed : old.Moves { old with capability := none, status := .failed } :=
      ⟨rfl, rfl, rfl, rfl, .inr rfl⟩
    have put := h.toLocal.trans (.put stored failed)
    refine wp_mono (persistFor_spec (lookup_insert _) fun _ => rfl) ?_ ?_
    · rintro _ v ⟨worked, service, _, journaled⟩
      have held : v.service.runs.lookup handle.id =
          some { old with capability := none, status := .failed } := by
        rw [service]
        exact lookup_insert _
      simp only [held]
      refine ⟨(put.trans worked).trans (.put held ⟨rfl, rfl, rfl, rfl, .inl rfl⟩),
        fun _ => .of_record (lookup_insert _) fun _ durable => ?_⟩
      exact journaled (worked.durable ▸ durable)
    · exact fun _ _ demoted => demoted.leaves put

/-! ## Admission -/

/-- The directory of run `n` is new and holds a valid request. -/
structure Founded (env : Environment S) (request : RunRequest) (n : Nat)
    (before after : Disk RunRequest RunStatus) : Prop where
  valid : validateRequest request = .ok ()
  free : before.runs.lookup (runIdOf n) = none
  elsewhere : ∀ other, other ≠ runIdOf n → after.runs.lookup other = before.runs.lookup other
  own : ∃ dir, after.runs.lookup (runIdOf n) = some dir ∧
    dir.manifest = intendedManifest n request ∧ Housed env n dir

/-- An admission creates one directory at most. -/
def Founds (env : Environment S) (request : RunRequest) (n : Nat)
    (before after : Disk RunRequest RunStatus) : Prop :=
  (∀ id, after.runs.lookup id = before.runs.lookup id) ∨ Founded env request n before after

variable {n : Nat}

/-- The directories of a disk after an admission. -/
theorem Founds.cases (founds : Founds env request n prior later)
    (found : later.runs.lookup other = some dir) :
    prior.runs.lookup other = some dir ∨ other = runIdOf n ∧ dir.manifest.definition = request := by
  rcases founds with same | founded
  · exact .inl (same other ▸ found)
  · by_cases here : other = runIdOf n
    · subst here
      obtain ⟨dir', found', manifest, _⟩ := founded.own
      obtain rfl := Option.mem_unique found found'
      exact .inr ⟨rfl, by rw [manifest]; rfl⟩
    · exact .inl (founded.elsewhere other here ▸ found)

theorem Founds.keeps (founds : Founds env request n prior later)
    (found : prior.runs.lookup other = some dir) : later.runs.lookup other = some dir := by
  rcases founds with same | founded
  · rw [same, found]
  · have elsewhere : other ≠ runIdOf n := by
      rintro rfl
      rw [founded.free] at found
      cases found
    rw [founded.elsewhere other elsewhere, found]

/-- The new directory may grow. -/
theorem Grown.founded (h : Grown env (runIdOf n) prior later)
    (founded : Founded env request n disk prior) : Founded env request n disk later where
  valid := founded.valid
  free := founded.free
  elsewhere other ne := (h.elsewhere other ne).trans (founded.elsewhere other ne)
  own := by
    obtain ⟨dir, found, manifest, housed⟩ := founded.own
    obtain ⟨dir', found', grown⟩ := h.directory found
    exact ⟨dir', found', grown.manifest.trans manifest, grown.housed n housed⟩

/-- The handle under which run `n` is admitted. -/
def admittedRun (env : Environment S) (request : RunRequest) (n : Nat) : RunHandle :=
  ⟨runIdOf n, 1, env.requestDigest request⟩

/-- The record stands for run `n` of this request. -/
structure RunRecord.Stands (env : Environment S) (asked : RunRequest) (n : Nat)
    (record : RunRecord) : Prop where
  request : record.request = asked
  requestDigest : record.requestDigest = env.requestDigest asked
  run : record.run = admittedRun env asked n
  attempt : record.attempt = ⟨attemptIdOf (n + 1), 1, env.requestDigest asked⟩

theorem RunRecord.Stands.moves (stands : old.Stands env request n) (moves : old.Moves new) :
    new.Stands env request n :=
  ⟨moves.request.trans stands.request, moves.requestDigest.trans stands.requestDigest,
    moves.run.trans stands.run, moves.attempt.trans stands.attempt⟩

/-- A run that has just been prepared. -/
structure RunRecord.Ready (record : RunRecord) : Prop where
  status : record.status = .prepared
  unbarred : record.durabilityBarrier = false
  events : record.events.length = 1

/-- A run that could not be published. -/
def RunRecord.Barred (record : RunRecord) : Prop := record.status = .needsReconciliation

/-- The counters and the store are as they were, and nothing was executed. -/
structure Unmoved (w t : World S) : Prop where
  next : t.service.nextId = w.service.nextId
  durable : t.service.durable = w.service.durable
  calls : t.calls = w.calls

theorem Unmoved.of_service (service : t.service = w.service) (calls : t.calls = w.calls) :
    Unmoved w t :=
  ⟨by rw [service], by rw [service], calls⟩

/-- Run `n` is registered for the request, and its journal has not left preparation before it. -/
structure Entered (env : Environment S) (request : RunRequest) (n : Nat) (P : RunRecord → Prop)
    (w t : World S) : Prop where
  others : ∀ other, other ≠ runIdOf n → t.service.runs.lookup other = w.service.runs.lookup other
  own : ∃ record, t.service.runs.lookup (runIdOf n) = some record ∧
    record.Stands env request n ∧ P record
  keys : t.service.idempotency = w.service.idempotency.insert request.idempotencyKey (runIdOf n)
  founded : w.service.durable = true → Founded env request n w.disk t.disk
  quiet : w.service.durable = true → Begun (runIdOf n) t ∨ ¬ Underway (runIdOf n) t.disk

/-- Nothing is registered; a directory may be left over. -/
structure Declined (env : Environment S) (request : RunRequest) (n : Nat) (w t : World S) :
    Prop where
  runs : t.service.runs = w.service.runs
  keys : t.service.idempotency = w.service.idempotency
  founds : Founds env request n w.disk t.disk

/-- The intent of a new run: with a store, its directory is founded and waits. -/
structure Intends (env : Environment S) (request : RunRequest) (n : Nat) (w t : World S) :
    Prop where
  service : t.service = w.service
  calls : t.calls = w.calls
  founds : Founds env request n w.disk t.disk

theorem Intends.declined (h : Intends env request n w t) :
    Declined env request n w { t with
      faults := faults, service := { t.service with source := source } } :=
  ⟨by rw [← h.service], by rw [← h.service], h.founds⟩

theorem journalIntent_spec {run : RunHandle} {attempt : AttemptHandle} (hrun : run.id = runIdOf n)
    (hattempt : attempt.id = attemptIdOf (n + 1)) (numbered : n + 2 ≤ u64Max)
    (valid : validateRequest request = .ok ()) :
    wp (journalIntent env request run attempt)
      (fun _ t => Intends env request n w t ∧ (w.service.durable = true →
        Founded env request n w.disk t.disk ∧ ¬ Underway (runIdOf n) t.disk))
      (fun _ t => Intends env request n w t) w := by
  simp only [journalIntent, wp_bind, wp_get, wp_ite, wp_pure]
  refine ⟨fun _ => ?_, fun off =>
    ⟨⟨rfl, rfl, .inl fun _ => rfl⟩, fun durable => absurd durable off⟩⟩
  have created : ∀ disk, createRun env.codec {} w.disk
      ⟨manifestSchemaVersion, run.id, attempt.id, request⟩ = .ok disk →
      Founded env request n w.disk disk ∧ ¬ Underway (runIdOf n) disk := by
    intro disk made
    rw [hrun, hattempt] at made
    have fits := createRun_fits made
    obtain ⟨free, rfl⟩ := createRun_ok made
    refine ⟨⟨valid, free, fun other ne => lookup_insert_ne ne,
      ⟨_, lookup_insert _, rfl, housed_created numbered fits⟩⟩, ?_⟩
    rintro ⟨dir, found, event, mem, _⟩
    obtain rfl := Option.mem_unique (lookup_insert _) found
    cases mem
  refine wp_writeStore (P := Founds env request n w.disk) (.inl fun _ => rfl)
    (fun disk made => .inr (created disk made).1) (fun _ => .inl fun _ => rfl) ?_ ?_ ?_
  · intro refusals disk e founds
    simp only [wp_check, reduceCtorEq, false_implies, implies_true, Except.error.injEq, true_and]
    exact fun _ _ => ⟨rfl, rfl, founds⟩
  · intro refusals disk made
    obtain ⟨founded, waits⟩ := created disk made
    simp only [wp_check, reduceCtorEq, false_implies, implies_true, and_true]
    intro _ _
    rw [hrun]
    refine wp_mono (appendEvent_writes _ _ _) (fun result t h => ?_) fun _ t h => ?_
    · have grown := h.1.toGrown.founded founded
      have intends : Intends env request n w t := ⟨h.1.service, h.1.calls, .inr grown⟩
      refine ⟨fun _ _ => ⟨intends, fun _ => ⟨grown, fun underway => ?_⟩⟩, fun _ _ => intends⟩
      exact (h.1.source underway).elim waits (by rintro ⟨⟩)
    · exact ⟨h.2.service, h.2.calls, .inr (h.2.toGrown.founded founded)⟩
  · intro refusals disk founds
    exact ⟨rfl, rfl, founds⟩

/-- What the tail of an admission leaves behind when it does not return a run. -/
def Abandons (env : Environment S) (request : RunRequest) (n : Nat) (w : World S) :
    Stop → World S → Prop
  | .error _, t => (Declined env request n w t ∨ Entered env request n RunRecord.Barred w t) ∧
      Unmoved w t
  | .crash, t => Founds env request n w.disk t.disk ∧ Unmoved w t

/-- The record of a run between its preparation and its publication. -/
theorem prepared_ready
    (pushed : pushEvent ⟨request, env.requestDigest request, admittedRun env request n,
      ⟨attemptIdOf (n + 1), 1, env.requestDigest request⟩, .admitted, capability, [], 0, false⟩
      .prepared = .ok prepared) : prepared.Stands env request n ∧ prepared.Ready := by
  unfold pushEvent at pushed
  split at pushed
  · cases pushed
  · cases pushed
    exact ⟨⟨rfl, rfl, rfl, rfl⟩, rfl, rfl, rfl⟩

theorem admitAs_enters (numbered : n + 2 ≤ u64Max) (valid : validateRequest request = .ok ()) :
    wp (admitAs env request (env.requestDigest request) n)
      (fun run t => run = admittedRun env request n ∧ Entered env request n RunRecord.Ready w t ∧
        Unmoved w t ∧ (w.service.durable = true → Journaled t (runIdOf n) .prepared))
      (Abandons env request n w) w := by
  simp only [admitAs, wp_bind]
  refine wp_mono (journalIntent_spec rfl rfl numbered valid) (fun _ t h => ?_) fun stop t h => ?_
  · obtain ⟨intends, founded⟩ := h
    -- the authority changes neither the runs nor the directories
    have kept : Unmoved w t := .of_service intends.service intends.calls
    have asked : ∀ {faults source}, Unmoved w { t with
        faults := faults, service := { t.service with source := source } } :=
      ⟨kept.next, kept.durable, kept.calls⟩
    refine wp_invoke ?_ ⟨intends.founds, asked⟩ ⟨intends.founds, asked⟩
    dsimp only
    cases (env.authority.prepare request t.service.source).1 with
    | error e =>
      simp only [wp_bind]
      refine wp_attempt ?_
      simp only [persistRecord, wp_bind, wp_get, wp_ite, wp_pure]
      refine ⟨fun durable => ?_, fun _ => ⟨.inl intends.declined, asked⟩⟩
      have made := (founded (by rw [← intends.service]; exact durable)).1
      refine wp_mono (journalStatus_writes _ _) (fun result v h => ?_) fun stop v h => ?_
      · have left : Abandons env request n w (.error (.authority e)) v := by
          refine ⟨.inl ⟨?_, ?_, .inr (h.1.toGrown.founded made)⟩, ?_, ?_,
            h.1.calls.trans intends.calls⟩
          all_goals rw [h.1.service, ← intends.service]
        rw [wp_check]
        exact ⟨fun _ _ => left, fun _ _ => left⟩
      · obtain ⟨rfl, h⟩ := h
        exact ⟨.inr (h.toGrown.founded made), by rw [h.service, kept.next],
          by rw [h.service, kept.durable], h.calls.trans kept.calls⟩
    | ok capability =>
      simp only [wp_bind, wp_require, wp_updateService]
      refine ⟨fun prepared pushed => ?_, fun _ _ => ⟨.inl intends.declined, asked⟩⟩
      obtain ⟨stands, ready⟩ := prepared_ready pushed
      -- whatever publishing does, it works on the new run only
      have entered : ∀ {P v record},
          Local env (runIdOf n) { t with faults := t.faults.tail, service := { t.service with
            source := (env.authority.prepare request t.service.source).2
            idempotency := t.service.idempotency.insert request.idempotencyKey (runIdOf n)
            runs := t.service.runs.insert (runIdOf n) prepared } } v →
          v.service.runs.lookup (runIdOf n) = some record → P record →
          Entered env request n P w v := by
        intro P v record h stored holds
        obtain ⟨old, found, moves⟩ := h.record_of stored
        obtain rfl := Option.mem_unique (lookup_insert _) found
        refine ⟨fun other ne => ?_, ⟨record, stored, stands.moves moves, holds⟩, ?_,
          fun durable => h.toGrown.founded (founded durable).1,
          fun durable => h.quiet.imp_right fun back underway => (founded durable).2 (back underway)⟩
        · rw [h.others other ne, ← intends.service]
          exact lookup_insert_ne ne
        · rw [h.keys, ← intends.service]
      refine wp_mono (persistFor_spec (lookup_insert _) (by rintro ⟨⟩)) ?_ ?_
      · rintro _ v ⟨worked, service, calls, journaled⟩
        refine ⟨rfl, entered worked (by rw [service]; exact lookup_insert _) ready,
          ⟨worked.next.trans kept.next, worked.durable.trans kept.durable, calls.trans kept.calls⟩,
          fun durable => journaled (kept.durable.trans durable)⟩
      · rintro (e | _) v demoted
        · obtain ⟨new, stored, barred⟩ := demoted.stored (by rintro ⟨⟩)
          exact ⟨.inr (entered demoted.worked stored barred),
            demoted.worked.next.trans kept.next, demoted.worked.durable.trans kept.durable,
            demoted.calls.trans kept.calls⟩
        · have durable : w.service.durable = true := kept.durable ▸ demoted.durable
          exact ⟨.inr (demoted.worked.toGrown.founded (founded durable).1),
            demoted.worked.next.trans kept.next, demoted.worked.durable.trans kept.durable,
            demoted.calls.trans kept.calls⟩
  · cases stop with
    | error e =>
      exact ⟨.inl ⟨by rw [h.service], by rw [h.service], h.founds⟩, .of_service h.service h.calls⟩
    | crash => exact ⟨h.founds, .of_service h.service h.calls⟩

/-- Nothing is registered; identities may have been used up. -/
structure Unregistered (env : Environment S) (request : RunRequest) (w t : World S) : Prop
    extends Declined env request w.service.nextId w t where
  unbound : (∀ id, t.disk.runs.lookup id = w.disk.runs.lookup id) ∨
    w.service.idempotency.lookup request.idempotencyKey = none
  next : w.service.nextId ≤ t.service.nextId
  durable : t.service.durable = w.service.durable
  calls : t.calls = w.calls

/-- One run is registered for the request, under the next identity. -/
structure Registered (env : Environment S) (request : RunRequest) (P : RunRecord → Prop)
    (w t : World S) : Prop extends Entered env request w.service.nextId P w t where
  valid : validateRequest request = .ok ()
  unknown : w.service.idempotency.lookup request.idempotencyKey = none
  next : t.service.nextId = w.service.nextId + 2
  durable : t.service.durable = w.service.durable
  calls : t.calls = w.calls

/-- What a returned admission has done: the key was known, or a new run is ready. -/
def Answers (env : Environment S) (request : RunRequest) (run : RunHandle) (w t : World S) : Prop :=
  (t = w ∧ ∃ existing record, w.service.idempotency.lookup request.idempotencyKey = some existing ∧
    w.service.runs.lookup existing = some record ∧ record.run = run) ∨
  (Registered env request RunRecord.Ready w t ∧ run = admittedRun env request w.service.nextId ∧
    (w.service.durable = true → Journaled t (runIdOf w.service.nextId) .prepared))

/-- What a refused admission has done: nothing, or the new run is behind the barrier. -/
def Refuses (env : Environment S) (request : RunRequest) (w t : World S) : Prop :=
  Unregistered env request w t ∨ Registered env request RunRecord.Barred w t

/-- What an admission leaves behind when it does not return a run. -/
def Rejects (env : Environment S) (request : RunRequest) (w : World S) : Stop → World S → Prop
  | .error _, t => Refuses env request w t
  | .crash, t => Founds env request w.service.nextId w.disk t.disk ∧
      t.service.durable = w.service.durable ∧ t.calls = w.calls

theorem admitRun_answers :
    wp (admitRun env request) (fun run t => Answers env request run w t)
      (Rejects env request w) w := by
  have nothing : ∀ {k}, w.service.nextId ≤ k → Refuses env request w
      { w with service := { w.service with nextId := k } } :=
    fun le => .inl ⟨⟨rfl, rfl, .inl fun _ => rfl⟩, .inl fun _ => rfl, le, rfl, rfl⟩
  have idle : Refuses env request w w := nothing (le_refl _)
  simp only [admitRun, wp_bind, wp_require, wp_get]
  refine ⟨fun _ valid => ?_, fun _ _ => idle⟩
  cases unknown : w.service.idempotency.lookup request.idempotencyKey with
  | some existing =>
    simp only
    cases found : w.service.runs.lookup existing with
    | none => exact idle
    | some record =>
      simp only [wp_bind, wp_failIf, wp_pure]
      exact ⟨fun _ => idle, fun _ => .inl ⟨rfl, existing, record, unknown, found, rfl⟩⟩
  | none =>
    simp only [wp_bind, wp_failIf, wp_updateService]
    refine ⟨fun _ => idle, fun _ => ⟨fun _ => idle, fun _ => ⟨fun _ => nothing (Nat.le_succ _),
      fun left => ?_⟩⟩⟩
    have entered : ∀ {P t k},
        Entered env request w.service.nextId P
          { w with service := { w.service with nextId := k } } t →
        Unmoved { w with service := { w.service with nextId := w.service.nextId + 1 + 1 } } t →
        Registered env request P w t :=
      fun h kept => ⟨⟨h.others, h.own, h.keys, h.founded, h.quiet⟩, valid, unknown, kept.next,
        kept.durable, kept.calls⟩
    refine wp_mono (admitAs_enters (not_lt.mp left) valid) (fun run t h => ?_) fun stop t h => ?_
    · obtain ⟨same, inside, kept, journaled⟩ := h
      exact .inr ⟨entered inside kept, same, journaled⟩
    · cases stop with
      | crash => exact ⟨h.1, h.2.durable, h.2.calls⟩
      | error e =>
        obtain ⟨⟨runs, keys, founds⟩ | inside, kept⟩ := h
        · refine .inl ⟨⟨runs, keys, founds⟩, .inr unknown, ?_, kept.durable, kept.calls⟩
          rw [kept.next]
          exact Nat.le_add_right w.service.nextId 2
        · exact .inr (entered inside kept)

/-- With a store, an admission founds one directory at most, and it executes nothing. -/
structure Founding (env : Environment S) (request : RunRequest) (w t : World S) : Prop where
  founds : Founds env request w.service.nextId w.disk t.disk
  durable : t.service.durable = w.service.durable
  calls : t.calls = w.calls

variable {P : RunRecord → Prop}

theorem Registered.founding (h : Registered env request P w t)
    (durable : w.service.durable = true) : Founding env request w t :=
  ⟨.inr (h.founded durable), h.durable, h.calls⟩

theorem admitRun_founding (durable : w.service.durable = true) :
    wp (admitRun env request) (fun _ => Founding env request w)
      (fun _ => Founding env request w) w := by
  refine wp_mono admitRun_answers (fun _ t h => ?_) fun stop t h => ?_
  · obtain ⟨rfl, _⟩ | ⟨registered, _⟩ := h
    · exact ⟨.inl fun _ => rfl, rfl, rfl⟩
    · exact registered.founding durable
  · cases stop with
    | crash => exact ⟨h.1, h.2.1, h.2.2⟩
    | error e =>
      obtain unregistered | registered := h
      · exact ⟨unregistered.founds, unregistered.durable, unregistered.calls⟩
      · exact registered.founding durable

/-- No run that was there before is registered again. -/
theorem Registered.keeps (h : Registered env request P w t)
    (fresh : w.service.runs.lookup (runIdOf w.service.nextId) = none)
    (found : w.service.runs.lookup id = some record) : t.service.runs.lookup id = some record := by
  have elsewhere : id ≠ runIdOf w.service.nextId := by
    rintro rfl
    rw [fresh] at found
    cases found
  rw [h.others id elsewhere, found]

/-- A record without a directory of its own keeps no identity from being used again. -/
theorem Registered.fresh (h : Registered env request P w t) (durable : w.service.durable = true)
    (housed : ∀ id record, w.service.runs.lookup id = some record →
      ∃ dir, w.disk.runs.lookup id = some dir) :
    w.service.runs.lookup (runIdOf w.service.nextId) = none := by
  cases found : w.service.runs.lookup (runIdOf w.service.nextId) with
  | none => rfl
  | some record =>
    obtain ⟨dir, stored⟩ := housed _ record found
    exact absurd ((h.founded durable).free.symm.trans stored) nofun

/-! ## Opening -/

/-- The record that opening makes of a directory. -/
def restoredRecord (env : Environment S) (dir : RunDirectory)
    (capability : Option AttemptCapability) : RunRecord :=
  let digest := env.requestDigest dir.manifest.definition
  let run : RunHandle := ⟨dir.manifest.runId, 1, digest⟩
  let attempt : AttemptHandle := ⟨dir.manifest.attemptId, 1, digest⟩
  ⟨dir.manifest.definition, digest, run, attempt,
    ((lastState dir.journal).map fromState).getD .admitted, capability,
    dir.journal.mapIdx fun index event =>
      ⟨index + 1, fromState event.state, some run, some attempt, "lifecycle"⟩, 0, false⟩

/-- The service after the directory of a run has been read. -/
def Orchestrator.restore (env : Environment S) (o : Orchestrator S) (id : String)
    (dir : RunDirectory) (capability : Option AttemptCapability) (source : S) : Orchestrator S :=
  { o with
    source := source
    idempotency := o.idempotency.insert dir.manifest.definition.idempotencyKey id
    runs := o.runs.insert id (restoredRecord env dir capability)
    nextId := max o.nextId (min (parseIdNumber id + 1) u64Max) }

/-- A run is opened from a directory that reads back and holds a valid request. -/
theorem openRun_restores :
    wp (openRun env id)
      (fun _ t => ∃ dir capability source, w.disk.runs.lookup id = some dir ∧
        dir.Sound env.codec {} id ∧ validateRequest dir.manifest.definition = .ok () ∧
        t.disk = w.disk ∧ t.calls = w.calls ∧
        t.service = w.service.restore env id dir capability source)
      (fun _ t => t.disk = w.disk ∧ t.calls = w.calls) w := by
  simp only [openRun, wp_bind]
  refine wp_readStore (fun result loaded => ?_) ⟨rfl, rfl⟩
  simp only [wp_check]
  refine ⟨fun manifest read => ?_, fun _ _ => ⟨trivial, trivial⟩⟩
  have loaded := loaded manifest read
  simp only [wp_require]
  refine ⟨fun _ valid => ?_, fun _ _ => ⟨trivial, trivial⟩⟩
  refine wp_readStore (fun result decoded => ?_) ⟨rfl, rfl⟩
  refine ⟨fun events decodes => ?_, fun _ _ => ⟨rfl, rfl⟩⟩
  obtain ⟨dir, found, rfl, rfl, sound⟩ := sound_of_loads loaded (decoded events decodes)
  refine wp_readStore (fun result _ => ?_) ⟨rfl, rfl⟩
  refine ⟨fun decision _ => ?_, fun _ _ => ⟨rfl, rfl⟩⟩
  simp only [wp_ite, wp_pure, wp_bind, wp_updateService]
  have named := sound.name
  refine ⟨fun _ => wp_invoke ?_ ⟨rfl, rfl⟩ ⟨rfl, rfl⟩, fun _ => ?_⟩
  · dsimp only
    cases (env.authority.prepare dir.manifest.definition w.service.source).1 with
    | error e => exact ⟨rfl, rfl⟩
    | ok capability =>
      refine ⟨dir, some { capability with attemptId := dir.manifest.attemptId },
        (env.authority.prepare dir.manifest.definition w.service.source).2, found, sound,
          valid, rfl,
        rfl, ?_⟩
      subst named
      rfl
  · refine ⟨dir, none, w.service.source, found, sound, valid, trivial, trivial, ?_⟩
    subst named
    rfl

/-- The listed directories have been read, in order; a key leads to the last that holds it. -/
structure Restored (env : Environment S) (disk : Disk RunRequest RunStatus) (read : List String)
    (o : Orchestrator S) : Prop where
  durable : o.durable = true
  housed : ∀ id ∈ read, ∃ dir capability, disk.runs.lookup id = some dir ∧
    dir.Sound env.codec {} id ∧ validateRequest dir.manifest.definition = .ok () ∧
    o.runs.lookup id = some (restoredRecord env dir capability)
  known : ∀ id record, o.runs.lookup id = some record → id ∈ read
  keys : ∀ key id, o.idempotency.lookup key = some id → id ∈ read ∧
    (∃ dir, disk.runs.lookup id = some dir ∧ dir.manifest.definition.idempotencyKey = key) ∧
    ∀ other ∈ read, ∀ dir, disk.runs.lookup other = some dir →
      dir.manifest.definition.idempotencyKey = key → other ≤ id
  bound : ∀ id ∈ read, ∀ dir, disk.runs.lookup id = some dir →
    (o.idempotency.lookup dir.manifest.definition.idempotencyKey).isSome = true

variable {disk : Disk RunRequest RunStatus}

theorem Restored.restore {read : List String}
    {o : Orchestrator S} (restored : Restored env disk read o)
    (sorted : ∀ other ∈ read, other ≤ id) (found : disk.runs.lookup id = some dir)
    (sound : dir.Sound env.codec {} id) (valid : validateRequest dir.manifest.definition = .ok ())
    (capability : Option AttemptCapability) (source : S) :
    Restored env disk (read ++ [id]) (o.restore env id dir capability source) where
  durable := restored.durable
  housed other mem := by
    change ∃ dir' capability', _ ∧ _ ∧ _ ∧
      (o.runs.insert id (restoredRecord env dir capability)).lookup other = _
    by_cases here : other = id
    · subst here
      exact ⟨dir, capability, found, sound, valid, lookup_insert _⟩
    · have earlier : other ∈ read := by simpa [here] using mem
      obtain ⟨dir', capability', rest⟩ := restored.housed other earlier
      rw [lookup_insert_ne here]
      exact ⟨dir', capability', rest⟩
  known other record held := by
    rcases insert_cases held with ⟨here, -⟩ | ⟨-, held⟩
    · exact mem_append_right _ (mem_singleton.mpr here)
    · exact mem_append_left _ (restored.known other record held)
  keys key other held := by
    rcases insert_cases held with ⟨rfl, rfl⟩ | ⟨own, held⟩
    · refine ⟨mem_append_right _ (mem_singleton_self _), ⟨dir, found, rfl⟩, ?_⟩
      intro before mem _ _ _
      rcases mem_append.mp mem with earlier | last
      · exact sorted before earlier
      · exact (mem_singleton.mp last).le
    · obtain ⟨mem, holds, greatest⟩ := restored.keys key other held
      refine ⟨mem_append_left _ mem, holds, fun before mem' dir' found' same => ?_⟩
      rcases mem_append.mp mem' with earlier | last
      · exact greatest before earlier dir' found' same
      · obtain rfl := mem_singleton.mp last
        obtain rfl := Option.mem_unique found found'
        exact absurd same.symm own
  bound other mem dir' found' := by
    change ((o.idempotency.insert dir.manifest.definition.idempotencyKey id).lookup _).isSome = true
    by_cases own : dir'.manifest.definition.idempotencyKey =
        dir.manifest.definition.idempotencyKey
    · rw [own, lookup_insert]
      rfl
    · rw [lookup_insert_ne own]
      have elsewhere : other ≠ id := by
        rintro rfl
        obtain rfl := Option.mem_unique found found'
        exact own rfl
      exact restored.bound other (by simpa [elsewhere] using mem) dir' found'

/-- Reading sorted directories one after the other. -/
theorem openRuns_restores (ids : List String) :
    ∀ {read w}, (read ++ ids).Pairwise (· ≤ ·) → w.disk = disk →
      Restored env disk read w.service →
      wp (ids.forM (openRun env))
        (fun _ t => t.disk = disk ∧ t.calls = w.calls ∧ Restored env disk (read ++ ids) t.service)
        (fun _ t => t.disk = disk ∧ t.calls = w.calls) w := by
  induction ids with
  | nil =>
    intro read w _ same restored
    rw [append_nil]
    exact ⟨same, rfl, restored⟩
  | cons id rest ih =>
    intro read w sorted same restored
    have smaller : ∀ other ∈ read, other ≤ id := fun other mem =>
      (pairwise_append.mp sorted).2.2 other mem id (mem_cons_self ..)
    refine wp_seq (wp_mono openRun_restores (fun _ _ h => h) fun _ _ h => by rwa [same] at h) ?_
    rintro _ t ⟨dir, capability, source, found, sound, valid, disk', calls, service⟩
    rw [same] at found disk'
    rw [append_cons] at sorted ⊢
    have restored' := restored.restore smaller found sound valid capability source
    rw [← service] at restored'
    rw [← calls]
    exact ih sorted disk' restored'

/-- A service opened on a disk knows exactly its directories. -/
theorem openStore_restores (durable : w.service.durable = true) (runs : w.service.runs = ∅)
    (keys : w.service.idempotency = ∅) :
    wp (openStore env)
      (fun _ t => t.disk = w.disk ∧ t.calls = w.calls ∧
        Restored env w.disk (runIds w.disk) t.service)
      (fun _ t => t.disk = w.disk ∧ t.calls = w.calls) w := by
  have empty : Restored env w.disk [] w.service := by
    refine ⟨durable, nofun, fun id record found => ?_, fun key id found => ?_, nofun⟩
    · rw [runs, lookup_empty] at found
      cases found
    · rw [keys, lookup_empty] at found
      cases found
  simp only [openStore, wp_bind]
  refine wp_readStore (fun result _ => ?_) ⟨rfl, rfl⟩
  simp only [wp_check]
  refine ⟨fun _ _ => ?_, fun _ _ => ⟨trivial, trivial⟩⟩
  refine wp_readStore (fun result listed => ?_) ⟨rfl, rfl⟩
  refine ⟨fun ids read => ?_, fun _ _ => ⟨rfl, rfl⟩⟩
  obtain rfl : runIds w.disk = ids := Except.ok.inj (listed ids read)
  have sorted : (runIds w.disk).Pairwise (· ≤ ·) := pairwise_insertionSort _ _
  exact @openRuns_restores S env w.disk (runIds w.disk) [] _ sorted rfl empty

theorem mem_runIds (found : disk.runs.lookup id = some dir) : id ∈ runIds disk := by
  rw [runIds, mem_insertionSort, mem_append]
  exact .inl (lookup_isSome.mp (by rw [found]; rfl))

end Footprint

end AgentSystemsBenchmark
