import AgentSystemsBenchmark.Orchestrator.Footprint
import AgentSystemsBenchmark.Orchestrator.Host

/-!
# The directories a restart finds

Whatever happens to a service, every directory under its root belongs to one of its
runs, reads back without error and holds a valid request. A root without staged
directories is therefore opened by every service whose authority prepares what was
prepared before.
-/

namespace AgentSystemsBenchmark

open Effects

section Sustaining
variable {S α β : Type} {env : Environment S} {P : World S → Prop} {E : Stop → World S → Prop}

/-- The assertion holds again after a return, and `E` holds of what is left otherwise. -/
def Sustains (P : World S → Prop) (E : Stop → World S → Prop) (x : Op S α) : Prop :=
  ∀ w, P w → wp x (fun _ => P) E w

/-- The assertion holds again whenever the operation returns. -/
abbrev Upholds (P : World S → Prop) (x : Op S α) : Prop := Sustains P (Returning P) x

theorem Sustains.bind (hx : Sustains P E x) (hf : ∀ a, Sustains P E (f a)) :
    Sustains P E (x >>= f) :=
  fun w held => wp_seq (hx w held) fun a t held' => hf a t held'

theorem Sustains.pure (a : α) : Sustains P E (pure a : Op S α) := fun _ held => held

/-- What every operation on one run keeps by its footprint. -/
theorem Touches.sustains {id : String} (touches : Touches env id x)
    (kept : ∀ w t stop, Leaves env id w stop t → P w → E stop t)
    (ends : ∀ error t, E (.error error) t ↔ P t) : Sustains P E x := fun w held =>
  wp_mono (touches w) (fun _ t h => (ends .notFound t).mp (kept w t _ (h.leaves _) held))
    fun stop t h => kept w t stop h held

variable (ends : ∀ error t, E (.error error) t ↔ P t)
include ends

theorem Sustains.fail (error : OrchestratorError) : Sustains P E (fail error : Op S α) :=
  fun w held => (ends error w).mpr held

theorem Sustains.attempt (hx : Sustains P E x) : Sustains P E (attempt x) := by
  intro w held
  refine wp_attempt (wp_mono (hx w held) (fun _ _ h => h) fun stop t h => ?_)
  cases stop with
  | error e => exact (ends e t).mp h
  | crash => exact h

section
variable (cancels : ∀ run attempt, Sustains P E (cancel env run attempt))
include cancels

theorem cancelMembers_sustains
    (members : List (RunHandle × AttemptHandle)) : Sustains P E (cancelMembers env members) := by
  induction members with
  | nil => exact .pure _
  | cons member rest ih =>
    have cancelled : Sustains P E (do
        let _ ← attempt (cancel env member.1 member.2)
        return : Op S Unit) :=
      ((cancels member.1 member.2).attempt ends).bind fun _ => .pure _
    exact cancelled.bind fun _ => ih

theorem admitMembers_sustains (admits : ∀ request, Sustains P E (admitRun env request)) :
    ∀ {index members},
      Sustains P E (admitMembers env key index requests members) := by
  induction requests with
  | nil => exact .pure _
  | cons request rest ih =>
    intro index members w held
    have rejected : ∀ error, Sustains P E (cancelMembers env members >>= fun _ =>
        (fail error : Op S (List (RunHandle × AttemptHandle)))) :=
      fun error => (cancelMembers_sustains ends cancels members).bind fun _ => .fail ends error
    simp only [admitMembers, wp_ite]
    refine ⟨fun _ => rejected _ w held, fun _ => wp_seq ((admits _).attempt ends w held) ?_⟩
    rintro (e | run) t held'
    · exact rejected e t held'
    · simp only [wp_bind, wp_get]
      cases t.service.runs.lookup run.id with
      | none => exact (ends _ t).mpr held'
      | some record => exact ih t held'

/-- What every operation keeps, every call keeps. -/
theorem perform_sustains (admits : ∀ request, Sustains P E (admitRun env request))
    (starts : ∀ run, Sustains P E (start env run))
    (executes : ∀ run attempt, Sustains P E (execute env run attempt))
    (completes : ∀ run attempt, Sustains P E (complete env run attempt))
    (reconciles : ∀ run attempt, Sustains P E (reconcile env run attempt)) (call : Call) :
    Sustains P E (perform env call) := by
  cases call with
  | admitRun request => exact (admits request).bind fun _ => .pure _
  | admitFanout fanout =>
    intro w held
    have returned : ∀ error, E (.error error) w := fun error => (ends error w).mpr held
    simp only [perform, admitFanout, wp_bind, wp_failIf, wp_require, wp_pure]
    refine ⟨fun _ => returned _, fun _ => ⟨fun _ _ => ⟨fun _ => returned _, fun _ => ?_⟩,
      fun _ _ => returned _⟩⟩
    exact admitMembers_sustains ends cancels admits w held
  | start handle => exact (starts handle).bind fun _ => .pure _
  | execute run attempt => exact (executes run attempt).bind fun _ => .pure _
  | cancel run attempt => exact (cancels run attempt).bind fun _ => .pure _
  | complete run attempt => exact (completes run attempt).bind fun _ => .pure _
  | reconcile run attempt => exact (reconciles run attempt).bind fun _ => .pure _

end

/-- What every operation on one run keeps by its footprint, and every admission, every call
keeps. -/
theorem perform_sustains_touched (admits : ∀ request, Sustains P E (admitRun env request))
    (kept : ∀ id w t stop, Leaves env id w stop t → P w → E stop t) (call : Call) :
    Sustains P E (perform env call) :=
  perform_sustains ends (fun _ _ => cancel_touches.sustains (kept _) ends) admits
    (fun _ => start_touches.sustains (kept _) ends)
    (fun _ _ => execute_touches.sustains (kept _) ends)
    (fun _ _ => complete_touches.sustains (kept _) ends)
    (fun _ _ => reconcile_touches.sustains (kept _) ends) call

omit ends in
theorem perform_upholds (admits : ∀ request, Upholds P (admitRun env request))
    (kept : ∀ id w t, Works env id w t → P w → P t) (call : Call) :
    Upholds P (perform env call) := by
  refine perform_sustains_touched (fun _ _ => Iff.rfl) admits (fun id w t stop h held => ?_) call
  cases stop with
  | error e => exact kept id w t h held
  | crash => trivial

end Sustaining

section Directories
variable {S α : Type} {env : Environment S} {w t : World S} {id : String}

/-- Every directory is one of the service's own, with a valid request. -/
def AllHoused (env : Environment S) (disk : Disk RunRequest RunStatus) : Prop :=
  ∀ id dir, disk.runs.lookup id = some dir →
    ∃ n, id = runIdOf n ∧ Housed env n dir ∧ validateRequest dir.manifest.definition = .ok ()

/-- A property of the root that survives whatever an operation may do to it. -/
structure Stable (env : Environment S) (P : Disk RunRequest RunStatus → Prop) : Prop where
  grown : ∀ {id before after},
    Grown env id before after → P before → P after
  founds : ∀ {request n before after},
    Founds env request n before after → P before → P after

theorem allHoused_stable : Stable env (AllHoused env) where
  grown h all := by
    intro other dir found
    obtain ⟨before, found', grown⟩ := h.directory_of found
    obtain ⟨n, named, housed, valid⟩ := all other before found'
    exact ⟨n, named, grown.housed n housed, by rw [grown.manifest]; exact valid⟩
  founds := by
    intro request n before after founds all other dir found
    rcases founds with same | founded
    · exact all other dir (same other ▸ found)
    · by_cases here : other = runIdOf n
      · subst here
        obtain ⟨own, found', manifest, housed⟩ := founded.own
        obtain rfl := Option.mem_unique found found'
        exact ⟨_, rfl, housed, by rw [manifest]; exact founded.valid⟩
      · exact all other dir (founded.elsewhere other here ▸ found)

/-- A directory that is there stays, and grows. -/
theorem extends_stable (id : String) (dir : RunDirectory) :
    Stable env fun disk => ∃ dir', disk.runs.lookup id = some dir' ∧ dir.Extends env dir' where
  grown h := by
    rintro ⟨dir', found, grown⟩
    obtain ⟨dir'', found', grown'⟩ := h.directory found
    exact ⟨dir'', found', grown.trans grown'⟩
  founds founds := by
    rintro ⟨dir', found, grown⟩
    exact ⟨dir', founds.keeps found, grown⟩

variable {P : Disk RunRequest RunStatus → Prop}

theorem perform_preserves (stable : Stable env P) (call : Call) :
    Sustains (fun w : World S => w.service.durable = true ∧ P w.disk)
      (fun _ w => w.service.durable = true ∧ P w.disk) (perform env call) := by
  refine perform_sustains_touched (fun _ _ => Iff.rfl) (fun request w held => ?_)
    (fun id w t stop h held => ?_) call
  · have kept : ∀ t, Founding env request w t → t.service.durable = true ∧ P t.disk :=
      fun t h => ⟨h.durable.trans held.1, stable.founds h.founds held.2⟩
    exact wp_mono (admitRun_founding held.1) (fun _ => kept) fun _ => kept
  · exact ⟨h.local.durable.trans held.1, stable.grown h.local.toGrown held.2⟩

/-! ## Records and their directories -/

variable {R : RunRecord → RunDirectory → Prop}

/-- Every record has a directory that is related to it. -/
def Paired (R : RunRecord → RunDirectory → Prop) (o : Orchestrator S)
    (disk : Disk RunRequest RunStatus) : Prop :=
  ∀ id record, o.runs.lookup id = some record → ∃ dir, disk.runs.lookup id = some dir ∧ R record dir

section
variable {request : RunRequest} (paired : Paired R w.service w.disk)
include paired

theorem Paired.touched (h : Local env id w t)
    (own : ∀ {old new dir dir'}, w.service.runs.lookup id = some old →
      t.service.runs.lookup id = some new → w.disk.runs.lookup id = some dir →
      t.disk.runs.lookup id = some dir' → old.Moves new → dir.Extends env dir' → R old dir →
      R new dir') : Paired R t.service t.disk := by
  intro other new found
  obtain ⟨old, found', moves⟩ := h.record_of found
  obtain ⟨dir, stored, related⟩ := paired other old found'
  obtain ⟨dir', stored', grown⟩ := h.directory stored
  refine ⟨dir', stored', ?_⟩
  by_cases here : other = id
  · subst here
    exact own found' found stored stored' moves grown related
  · rw [h.others other here, found'] at found
    rw [h.elsewhere other here, stored] at stored'
    cases found
    cases stored'
    exact related

theorem Paired.unregistered (h : Unregistered env request w t) :
    Paired R t.service t.disk := by
  intro other record found
  rw [h.runs] at found
  obtain ⟨dir, stored, related⟩ := paired other record found
  exact ⟨dir, h.founds.keeps stored, related⟩

theorem Paired.registered {Q : RunRecord → Prop}
    (durable : w.service.durable = true) (h : Registered env request Q w t)
    (own : ∀ {record dir},
      t.service.runs.lookup (runIdOf w.service.nextId) = some record →
      t.disk.runs.lookup (runIdOf w.service.nextId) = some dir →
      record.Stands env request w.service.nextId →
      dir.manifest = intendedManifest w.service.nextId request → Q record → R record dir) :
    Paired R t.service t.disk := by
  intro other record found
  by_cases here : other = runIdOf w.service.nextId
  · subst here
    obtain ⟨new, held, stands, holds⟩ := h.own
    obtain rfl := Option.mem_unique held found
    obtain ⟨dir, stored, manifest, _⟩ := (h.founded durable).own
    exact ⟨dir, stored, own held stored stands manifest holds⟩
  · rw [h.others other here] at found
    obtain ⟨dir, stored, related⟩ := paired other record found
    exact ⟨dir, (h.founding durable).founds.keeps stored, related⟩

variable (env request) in
/-- An admission keeps the pairs when both records that it can register make one. -/
theorem admitRun_paired (durable : w.service.durable = true)
    (own : ∀ {t : World S} {record : RunRecord} {dir : RunDirectory},
      t.service.runs.lookup (runIdOf w.service.nextId) = some record →
      t.disk.runs.lookup (runIdOf w.service.nextId) = some dir →
      record.Stands env request w.service.nextId →
      dir.manifest = intendedManifest w.service.nextId request →
      Begun (runIdOf w.service.nextId) t ∨ ¬ Underway (runIdOf w.service.nextId) t.disk →
      record.status.terminal = false → R record dir) :
    wp (admitRun env request) (fun _ t => Paired R t.service t.disk)
      (Returning fun t => Paired R t.service t.disk) w := by
  have made : ∀ {Q t}, Registered env request Q w t →
      (∀ record, Q record → record.status.terminal = false) → Paired R t.service t.disk :=
    fun registered waits => paired.registered durable registered
      fun held stored stands manifest holds =>
        own held stored stands manifest (registered.quiet durable) (waits _ holds)
  refine wp_mono admitRun_answers (fun _ t h => ?_) fun stop t h => ?_
  · obtain ⟨rfl, _⟩ | ⟨registered, _⟩ := h
    · exact paired
    · exact made registered fun record ready => by rw [ready.status]; rfl
  · cases stop with
    | crash => trivial
    | error e =>
      obtain unregistered | registered := h
      · exact paired.unregistered unregistered
      · exact made registered fun record (barred : record.status = _) => by rw [barred]; rfl

end

/-- Opening pairs each directory with the record that is made of it. -/
theorem Restored.paired {o : Orchestrator S} {disk : Disk RunRequest RunStatus} {read : List String}
    (restored : Restored env disk read o)
    (own : ∀ {id dir capability},
      dir.Sound env.codec {} id → R (restoredRecord env dir capability) dir) : Paired R o disk := by
  intro id record found
  obtain ⟨dir, capability, stored, sound, _, held⟩ :=
    restored.housed id (restored.known id record found)
  obtain rfl := Option.mem_unique found held
  exact ⟨dir, stored, own sound⟩

end Directories

section Hosts
variable {S : Type} (env : Environment S)

theorem Host.restarted_disk (host : Host S) (source : S) (faults : List Fault) :
    (host.step env (.restart source faults)).disk = host.disk ∧
      (host.step env (.restart source faults)).calls = host.calls := by
  have opened := @openStore_restores S env
    ⟨{ Orchestrator.new source with durable := true }, host.disk, faults, host.calls, 0⟩ rfl rfl rfl
  simp only [Host.step]
  rcases hx : openStore env ⟨{ Orchestrator.new source with durable := true }, host.disk, faults,
    host.calls, 0⟩ with ⟨a, t⟩ | ⟨e, t⟩
  · obtain ⟨disk, calls, _⟩ := wp_ok opened hx
    exact ⟨disk, calls⟩
  · obtain ⟨disk, calls⟩ := wp_error opened hx
    exact ⟨disk, calls⟩

variable {host : Host S}

/-- The live service of a restart has read exactly the directories that were there. -/
theorem Host.reopened (live : (host.step env (.restart source faults)).service = some o) :
    Restored env host.disk (runIds host.disk) o := by
  obtain ⟨t, ⟨_, _, restored⟩, rfl, _⟩ := Host.opened_returns (@openStore_restores S env
    ⟨{ Orchestrator.new source with durable := true }, host.disk, faults, host.calls, 0⟩
    rfl rfl rfl)
    live
  exact restored

/-- The live service, if there is one, has a store, and the root has the property. -/
def Host.Holds (P : Disk RunRequest RunStatus → Prop) (host : Host S) : Prop :=
  P host.disk ∧ ∀ o, host.service = some o → o.durable = true

theorem Host.step_holds {P : Disk RunRequest RunStatus → Prop} (stable : Stable env P)
    (holds : host.Holds P) (event : HostEvent S) :
    (host.step env event).Holds P := by
  cases event with
  | restart source faults =>
    refine ⟨(host.restarted_disk env source faults).1 ▸ holds.1, fun o live => ?_⟩
    exact (Host.reopened env live).durable
  | call call faults =>
    cases served : host.service with
    | none =>
      simp only [Host.step, served]
      exact holds
    | some service =>
      rw [Host.step_call env served]
      obtain ⟨t, ⟨durable, held⟩, disk, _, live⟩ := Host.after_wp (perform_preserves stable call
        (host.world service faults) ⟨holds.2 service served, holds.1⟩)
      exact ⟨disk ▸ held, fun o left => live o left ▸ durable⟩

variable {events : List (HostEvent S)}

/-- A stable property holds in every state of a run from one where it holds. -/
theorem Host.run_holds {P : Disk RunRequest RunStatus → Prop} (stable : Stable env P)
    {before after : Host S} (holds : before.Holds P)
    (run : Runs.Run (fun before event after => after = Host.step env before event) before events
      after) : after.Holds P := by
  refine Runs.Run.invariant (P := Host.Holds P) ?_ run holds
  rintro first event second held rfl
  exact Host.step_holds env stable held event

theorem Host.fresh_housed : (Host.fresh : Host S).Holds (AllHoused env) :=
  ⟨fun id dir found => by simp [Host.fresh, Disk.empty] at found, by simp [Host.fresh]⟩

/-- In every state of every run, each directory reads back and holds a valid request. -/
theorem Host.Run.housed (run : Host.Run env events host) : host.Holds (AllHoused env) :=
  Host.run_holds env allHoused_stable (Host.fresh_housed env) run

/-- Every run directory is still there: under its manifest, with a journal that extends the
old one, and readable. -/
def Disk.Kept (before after : Disk RunRequest RunStatus) : Prop :=
  ∀ id dir, before.runs.lookup id = some dir → ∃ dir', after.runs.lookup id = some dir' ∧
    dir'.manifest = dir.manifest ∧ dir.journal <+: dir'.journal ∧ dir'.Sound env.codec {} id

/-- Whatever calls, faults, crashes and restarts follow, a root only grows. -/
theorem directories_append_only (events later : List (HostEvent S)) :
    (events.foldl (Host.step env) Host.fresh).disk.Kept env
      ((events ++ later).foldl (Host.step env) Host.fresh).disk := by
  intro id dir found
  rw [List.foldl_append]
  have housed := Host.Run.housed env (Runs.Run.foldl (Host.step env) Host.fresh events)
  have moves := Runs.Run.foldl (Host.step env) (events.foldl (Host.step env) Host.fresh) later
  obtain ⟨dir', found', grown⟩ := (Host.run_holds env (extends_stable id dir)
    ⟨⟨dir, found, .refl env dir⟩, housed.2⟩ moves).1
  obtain ⟨n, rfl, kept, _⟩ := (Host.run_holds env allHoused_stable housed moves).1 id dir' found'
  exact ⟨dir', found', grown.manifest, grown.journal, kept.sound⟩

/-- No attempt belongs to two runs, no journal outgrows the lifecycle, and the store refuses no
event of it: the size limit is never met. -/
structure Disk.Orderly (disk : Disk RunRequest RunStatus) : Prop where
  apart : ∀ id id' dir dir', disk.runs.lookup id = some dir → disk.runs.lookup id' = some dir' →
    dir.manifest.attemptId = dir'.manifest.attemptId → id = id'
  short : ∀ id dir, disk.runs.lookup id = some dir → dir.journal.length ≤ 5 ∧
    journalBytes env.codec dir.journal ≤ 1435
  accepts : ∀ id dir status, disk.runs.lookup id = some dir →
    allowedTransition (lastState dir.journal) (toState status) = true →
    append env.codec {} disk id (nextEvent dir status) =
      .ok { disk with runs := disk.runs.insert id (dir.extend status) }

theorem directories_orderly (events : List (HostEvent S)) :
    (events.foldl (Host.step env) Host.fresh).disk.Orderly env := by
  have housed := (Host.Run.housed env (Runs.Run.foldl (Host.step env) Host.fresh events)).1
  constructor
  · intro id id' dir dir' found found' same
    obtain ⟨n, rfl, own, _⟩ := housed id dir found
    obtain ⟨n', rfl, own', _⟩ := housed id' dir' found'
    rw [own.attempt, own'.attempt] at same
    rw [Nat.succ.inj (attemptIdOf_injective same)]
  · intro id dir found
    obtain ⟨n, -, own, _⟩ := housed id dir found
    have reach : journalReach (lastState dir.journal) ≤ 5 := by
      rcases lastState dir.journal with _ | (_ | _) <;> simp [journalReach]
    have short := own.short
    have light := own.light
    omega
  · intro id dir status found allowed
    obtain ⟨n, rfl, own, _⟩ := housed id dir found
    exact (own.extend found allowed).1

end Hosts

end AgentSystemsBenchmark
