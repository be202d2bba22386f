import AgentSystemsBenchmark.Orchestrator.Reopening

/-!
# What an idempotency key names after a restart

In memory a key names the run whose admission succeeded. On disk every admission that
came as far as its manifest has left a directory that holds the key, and opening binds
the key to the last of them in lexical order. The two agree as long as no run is admitted
under a key of which a directory with a later name is left over.
-/

namespace AgentSystemsBenchmark

open Effects

section Binding
variable {S α : Type} {env : Environment S} {o : Orchestrator S} {w t : World S} {id : String}
  {disk : Disk RunRequest RunStatus}

/-- Records belong to their directories, and a key names the last directory that holds it. -/
structure Bound (env : Environment S) (o : Orchestrator S) (disk : Disk RunRequest RunStatus) :
    Prop where
  durable : o.durable = true
  records : ∀ id record, o.runs.lookup id = some record →
    record.run = ⟨id, 1, env.requestDigest record.request⟩ ∧
    record.requestDigest = env.requestDigest record.request ∧
    validateRequest record.request = .ok () ∧
    ∃ dir, disk.runs.lookup id = some dir ∧ dir.manifest.definition = record.request
  keys : ∀ key id, o.idempotency.lookup key = some id →
    (∃ record, o.runs.lookup id = some record ∧ record.request.idempotencyKey = key) ∧
    ∀ other dir, disk.runs.lookup other = some dir →
      dir.manifest.definition.idempotencyKey = key → other ≤ id

section
variable (bound : Bound env w.service w.disk)
include bound

theorem Bound.touched (h : Local env id w t) :
    Bound env t.service t.disk where
  durable := h.durable.trans bound.durable
  records other new found := by
    obtain ⟨old, found', moves⟩ := h.record_of found
    obtain ⟨run, digest, valid, dir, stored, definition⟩ := bound.records other old found'
    obtain ⟨dir', stored', grown⟩ := h.directory stored
    rw [moves.run, moves.requestDigest, moves.request]
    exact ⟨run, digest, valid, dir', stored', by rw [grown.manifest, definition]⟩
  keys key other found := by
    rw [h.keys] at found
    obtain ⟨⟨record, stored, keyed⟩, greatest⟩ := bound.keys key other found
    obtain ⟨new, stored', moves⟩ := h.moved stored
    refine ⟨⟨new, stored', by rw [moves.request, keyed]⟩, fun name dir there same => ?_⟩
    obtain ⟨dir', there', grown⟩ := h.directory_of there
    exact greatest name dir' there' (by rw [← grown.manifest, same])

variable {request : RunRequest}

/-- A directory that is left over without a record holds no key that is bound. -/
theorem Bound.unregistered (h : Unregistered env request w t) :
    Bound env t.service t.disk := by
  refine ⟨h.durable.trans bound.durable, fun other record found => ?_, fun key other found => ?_⟩
  · rw [h.runs] at found
    obtain ⟨run, digest, checked, dir, stored, definition⟩ := bound.records other record found
    exact ⟨run, digest, checked, dir, h.founds.keeps stored, definition⟩
  · rw [h.keys] at found
    obtain ⟨⟨record, stored, keyed⟩, greatest⟩ := bound.keys key other found
    refine ⟨⟨record, by rw [h.runs, stored], keyed⟩, fun name dir there same => ?_⟩
    rcases h.unbound with kept | unknown
    · exact greatest name dir (kept name ▸ there) same
    · rcases h.founds.cases there with old | ⟨_, definition⟩
      · exact greatest name dir old same
      · rw [← same, definition, unknown] at found
        cases found

/-- A new run keeps the binding when every leftover directory of its key sorts earlier. -/
theorem Bound.registered {P : RunRecord → Prop}
    (later : ∀ other dir, w.disk.runs.lookup other = some dir →
      dir.manifest.definition.idempotencyKey = request.idempotencyKey →
      other < runIdOf w.service.nextId)
    (h : Registered env request P w t) : Bound env t.service t.disk := by
  have founds := (h.founding bound.durable).founds
  have fresh := h.fresh bound.durable fun id record found => by
    obtain ⟨_, _, _, dir, stored, _⟩ := bound.records id record found
    exact ⟨dir, stored⟩
  obtain ⟨new, own, stands, _⟩ := h.own
  refine ⟨h.durable.trans bound.durable, fun other record found => ?_, fun key other found => ?_⟩
  · by_cases here : other = runIdOf w.service.nextId
    · subst here
      obtain rfl := Option.mem_unique own found
      obtain ⟨dir, stored, manifest, _⟩ := (h.founded bound.durable).own
      rw [stands.run, stands.requestDigest, stands.request]
      exact ⟨rfl, rfl, h.valid, dir, stored, by rw [manifest]; rfl⟩
    · rw [h.others other here] at found
      obtain ⟨run, digest, checked, dir, stored, definition⟩ := bound.records other record found
      exact ⟨run, digest, checked, dir, founds.keeps stored, definition⟩
  · rw [h.keys] at found
    rcases insert_cases found with ⟨rfl, rfl⟩ | ⟨own', found⟩
    · refine ⟨⟨new, own, by rw [stands.request]⟩, fun name dir there same => ?_⟩
      rcases founds.cases there with old | ⟨here, _⟩
      · exact (later name dir old same).le
      · exact here.le
    · obtain ⟨⟨record, stored, keyed⟩, greatest⟩ := bound.keys key other found
      refine ⟨⟨record, h.keeps fresh stored, keyed⟩, fun name dir there same => ?_⟩
      rcases founds.cases there with old | ⟨_, definition⟩
      · exact greatest name dir old same
      · rw [definition] at same
        exact absurd same.symm own'

end

/-- The keys under which a call may admit runs. -/
def memberKeys (key : String) : Nat → Nat → List String
  | _, 0 => []
  | index, count + 1 => (key ++ ":" ++ index.repr) :: memberKeys key (index + 1) count

def Call.keys : Call → List String
  | .admitRun request => [request.idempotencyKey]
  | .admitFanout fanout => memberKeys fanout.idempotencyKey 0 fanout.requests.length
  | _ => []

/-- Each unbound key is held only by directories that sort before every run which a call
with these keys can create. -/
def SortsBefore (o : Orchestrator S) (disk : Disk RunRequest RunStatus) (keys : List String) :
    Prop :=
  ∀ key ∈ keys, o.idempotency.lookup key = none → ∀ entry ∈ disk.runs.entries,
    entry.2.manifest.definition.idempotencyKey = key →
      ∀ position < keys.length, entry.1 < runIdOf (o.nextId + 2 * position)

instance (o : Orchestrator S) (disk : Disk RunRequest RunStatus) (keys : List String) :
    Decidable (SortsBefore o disk keys) := by
  unfold SortsBefore
  infer_instance

variable {key : String}

theorem SortsBefore.lookup (sorts : SortsBefore o disk keys) (mem : key ∈ keys)
    (unknown : o.idempotency.lookup key = none) (found : disk.runs.lookup other = some dir)
    (holds : dir.manifest.definition.idempotencyKey = key) (position : Nat)
    (below : position < keys.length) : other < runIdOf (o.nextId + 2 * position) :=
  sorts key mem unknown ⟨other, dir⟩ (AList.mem_lookup_iff.mp found) holds position below

theorem admitRun_bound (bound : Bound env w.service w.disk)
    (later : w.service.idempotency.lookup request.idempotencyKey = none →
      ∀ other dir, w.disk.runs.lookup other = some dir →
      dir.manifest.definition.idempotencyKey = request.idempotencyKey →
      other < runIdOf w.service.nextId) :
    wp (admitRun env request)
      (fun run t => Bound env t.service t.disk ∧ Answers env request run w t)
      (Returning fun t => Bound env t.service t.disk) w := by
  refine wp_mono admitRun_answers (fun _ t h => ⟨?_, h⟩) fun stop t h => ?_
  · obtain ⟨rfl, _⟩ | ⟨registered, _⟩ := h
    · exact bound
    · exact bound.registered (later registered.unknown) registered
  · cases stop with
    | crash => trivial
    | error e =>
      obtain unregistered | registered := h
      · exact bound.unregistered unregistered
      · exact bound.registered (later registered.unknown) registered

theorem mem_memberKeys (mem : name ∈ memberKeys key index count) :
    ∃ later, index ≤ later ∧ name = key ++ ":" ++ later.repr := by
  induction count generalizing index with
  | zero => cases mem
  | succ count ih =>
    rcases List.mem_cons.mp mem with rfl | rest
    · exact ⟨index, le_rfl, rfl⟩
    · obtain ⟨later, le, same⟩ := ih rest
      exact ⟨later, by omega, same⟩

theorem memberKeys_length (key : String) (index count : Nat) :
    (memberKeys key index count).length = count := by
  induction count generalizing index with
  | zero => rfl
  | succ count ih => rw [memberKeys, List.length_cons, ih]

/-- The members of a fan-out have different keys. -/
theorem memberKeys_ne (mem : name ∈ memberKeys key (index + 1) count) :
    name ≠ key ++ ":" ++ index.repr := by
  obtain ⟨later, le, rfl⟩ := mem_memberKeys mem
  intro same
  have := Numerals.repr_injective ((String.append_right_inj _).mp same)
  omega

/-- After the first member is admitted, the condition holds for the remaining ones. -/
theorem SortsBefore.tail (sorts : SortsBefore w.service w.disk (memberKeys key index (count + 1)))
    (durable : w.service.durable = true) (named : request.idempotencyKey = key ++ ":" ++ index.repr)
    (answers : Answers env request run w t) :
    SortsBefore t.service t.disk (memberKeys key (index + 1) count) := by
  intro name mem unknown entry stored holds position below
  have other : name ≠ request.idempotencyKey := named ▸ memberKeys_ne mem
  have mem' : name ∈ memberKeys key index (count + 1) := List.mem_cons_of_mem _ mem
  have found : t.disk.runs.lookup entry.1 = some entry.2 := AList.mem_lookup_iff.mpr stored
  rw [memberKeys_length] at below
  have bounds :
      w.service.idempotency.lookup name = none → w.disk.runs.lookup entry.1 = some entry.2 →
      ∀ m < count + 1, entry.1 < runIdOf (w.service.nextId + 2 * m) := fun free there m lt =>
    sorts.lookup mem' free there holds m (by rw [memberKeys_length]; exact lt)
  obtain ⟨rfl, _⟩ | ⟨registered, _⟩ := answers
  · exact bounds unknown found position (by omega)
  · -- nothing that the first admission added holds this key
    have old : w.disk.runs.lookup entry.1 = some entry.2 := by
      rcases (registered.founding durable).founds.cases found with old | ⟨_, definition⟩
      · exact old
      · rw [definition] at holds
        exact absurd holds.symm other
    rw [registered.keys, AList.lookup_insert_ne other] at unknown
    have shifted : t.service.nextId + 2 * position = w.service.nextId + 2 * (position + 1) := by
      rw [registered.next]
      omega
    rw [shifted]
    exact bounds unknown old (position + 1) (by omega)

theorem Touches.keepsBound (touches : Touches env id x) :
    Upholds (fun w => Bound env w.service w.disk) x := by
  refine touches.sustains (fun w t stop h bound => ?_) fun _ _ => Iff.rfl
  cases stop with
  | error e => exact bound.touched h.local
  | crash => trivial

theorem cancelMembers_keepsBound (members : List (RunHandle × AttemptHandle)) :
    Upholds (fun w => Bound env w.service w.disk) (cancelMembers env members) :=
  cancelMembers_sustains (fun _ _ => Iff.rfl) (fun _ _ => cancel_touches.keepsBound) members

theorem admitMembers_bound :
    ∀ {index members w},
      Bound env w.service w.disk →
      SortsBefore w.service w.disk (memberKeys key index requests.length) →
      wp (admitMembers env key index requests members) (fun _ t => Bound env t.service t.disk)
        (Returning fun t => Bound env t.service t.disk) w := by
  induction requests with
  | nil => exact fun bound _ => bound
  | cons request rest ih =>
    intro index members w bound sorts
    let named : RunRequest := { request with idempotencyKey := key ++ ":" ++ index.repr }
    have later : w.service.idempotency.lookup named.idempotencyKey = none →
        ∀ other dir, w.disk.runs.lookup other = some dir →
        dir.manifest.definition.idempotencyKey = named.idempotencyKey →
        other < runIdOf w.service.nextId := fun unknown other dir found holds =>
      sorts.lookup (List.mem_cons_self ..) unknown found holds 0 (Nat.succ_pos _)
    simp only [admitMembers, wp_ite, wp_bind]
    refine ⟨fun _ => wp_mono (cancelMembers_keepsBound members w bound) (fun _ _ h => h)
      fun _ _ h => h, fun _ => wp_attempt (wp_mono (admitRun_bound bound later) ?_ ?_)⟩
    · rintro run t ⟨bound', answers⟩
      simp only [wp_bind, wp_get]
      cases t.service.runs.lookup run.id with
      | none => exact bound'
      | some record => exact ih bound' (sorts.tail bound.durable rfl answers)
    · intro stop t bound'
      cases stop with
      | crash => trivial
      | error e =>
        simp only [wp_bind]
        exact wp_mono (cancelMembers_keepsBound members t bound') (fun _ _ h => h) fun _ _ h => h

theorem perform_bound (bound : Bound env w.service w.disk)
    (sorts : SortsBefore w.service w.disk call.keys) :
    wp (perform env call) (fun _ t => Bound env t.service t.disk)
      (Returning fun t => Bound env t.service t.disk) w := by
  have touched : ∀ {β : Type} {x : Op S β} {f : β → Reply} {id : String}, Touches env id x →
      wp (x >>= fun a => pure (f a)) (fun _ t => Bound env t.service t.disk)
        (Returning fun t => Bound env t.service t.disk) w :=
    fun touches => (touches.bind fun _ => Touches.pure _).keepsBound w bound
  cases call with
  | admitRun request =>
    simp only [perform, wp_bind, wp_pure]
    refine wp_mono (admitRun_bound bound fun unknown other dir found holds => ?_)
      (fun _ _ h => h.1) fun _ _ h => h
    exact sorts.lookup (List.mem_singleton_self _) unknown found holds 0 Nat.one_pos
  | admitFanout fanout =>
    simp only [perform, admitFanout, wp_bind, wp_failIf, wp_require, wp_pure]
    refine ⟨fun _ => bound, fun _ => ⟨fun _ _ => ⟨fun _ => bound, fun _ => ?_⟩, fun _ _ => bound⟩⟩
    exact wp_mono (admitMembers_bound bound sorts) (fun _ _ h => h) fun _ _ h => h
  | start handle => exact touched start_touches
  | execute run attempt => exact touched execute_touches
  | cancel run attempt => exact touched cancel_touches
  | complete run attempt => exact touched complete_touches
  | reconcile run attempt => exact touched reconcile_touches

/-- Opening binds each key to the last directory that holds it. -/
theorem Restored.binds (restored : Restored env disk (runIds disk) o) : Bound env o disk where
  durable := restored.durable
  records id record found := by
    obtain ⟨dir, capability, stored, sound, valid, held⟩ :=
      restored.housed id (restored.known id record found)
    obtain rfl := Option.mem_unique found held
    exact ⟨by rw [← sound.name]; rfl, rfl, valid, dir, stored, rfl⟩
  keys key id found := by
    obtain ⟨mem, ⟨dir, stored, keyed⟩, greatest⟩ := restored.keys key id found
    obtain ⟨dir', capability, stored', _, _, held⟩ := restored.housed id mem
    obtain rfl := Option.mem_unique stored stored'
    exact ⟨⟨_, held, keyed⟩, fun other dir' there same =>
      greatest other (mem_runIds there) dir' there same⟩

end Binding

section Hosts
variable {S : Type} (env : Environment S)

def Host.Bound (host : Host S) : Prop :=
  ∀ o, host.service = some o → AgentSystemsBenchmark.Bound env o host.disk

/-- A call is made while every directory left over under one of its unbound keys sorts
before the runs it can create. -/
def Host.sortsBefore (host : Host S) : HostEvent S → Bool
  | .call call _ => host.service.all fun o => decide (SortsBefore o host.disk call.keys)
  | .restart _ _ => true

theorem Host.step_bound {host : Host S} (bound : host.Bound env) {event : HostEvent S}
    (sorts : host.sortsBefore event = true) : (host.step env event).Bound env := by
  intro o live
  cases event with
  | restart source faults =>
    rw [(host.restarted_disk env source faults).1]
    exact (Host.reopened env live).binds
  | call call faults =>
    cases served : host.service with
    | none =>
      simp only [Host.step, served] at live
      cases live
    | some service =>
      rw [Host.step_call env served] at live ⊢
      have before : SortsBefore service host.disk call.keys := by
        simpa [Host.sortsBefore, served] using sorts
      obtain ⟨t, bound', rfl, disk, _⟩ := Host.after_returns
        (@perform_bound S env (host.world service faults) call (bound service served) before) live
      exact disk ▸ bound'

theorem Host.Run.bound
    (run : Runs.Run (Runs.Guarded (Host.step env) Host.sortsBefore) Host.fresh events host) :
    host.Bound env := by
  refine Runs.Run.invariant (P := Host.Bound env) ?_ run nofun
  rintro before event after bound ⟨rfl, sorts⟩
  exact Host.step_bound env bound sorts

/-- An admitted request is answered with its own run, and nothing happens. -/
theorem Bound.readmit {o : Orchestrator S} {w : World S} {key id : String} {record : RunRecord}
    (bound : AgentSystemsBenchmark.Bound env o w.disk) (service : w.service = o)
    (named : o.idempotency.lookup key = some id) (known : o.runs.lookup id = some record) :
    admitRun env record.request w = .ok record.run w := by
  obtain ⟨run, digest, valid, _⟩ := bound.records id record known
  obtain ⟨⟨record', known', keyed⟩, _⟩ := bound.keys key id named
  obtain rfl := Option.mem_unique known known'
  subst service keyed
  simp [admitRun, valid, require, named, known, digest, failIf, bind, EStateM.bind, pure,
    EStateM.pure, get, getThe, MonadStateOf.get, EStateM.get]

/-- A key names the same run after a restart, and the identical request is answered with
the same handle before and after it. -/
theorem idempotency_survives_restart (events : List (HostEvent S)) (host : Host S)
    (run : Runs.Run (Runs.Guarded (Host.step env) Host.sortsBefore) Host.fresh events host)
    (o : Orchestrator S) (live : host.service = some o) (key id : String) (record : RunRecord)
    (named : o.idempotency.lookup key = some id) (known : o.runs.lookup id = some record)
    (source : S) (faults : List Fault) (o' : Orchestrator S)
    (reopened : (host.step env (.restart source faults)).service = some o') :
    o'.idempotency.lookup key = some id ∧
      (∀ faults, admitRun env record.request ⟨o, host.disk, faults, host.calls, 0⟩ =
        .ok record.run ⟨o, host.disk, faults, host.calls, 0⟩) ∧
      ∀ faults, admitRun env record.request ⟨o', host.disk, faults, host.calls, 0⟩ =
        .ok record.run ⟨o', host.disk, faults, host.calls, 0⟩ := by
  have bound := Host.Run.bound env run o live
  have restored := Host.reopened env reopened
  have bound' := restored.binds
  obtain ⟨⟨_, known', keyed⟩, greatest⟩ := bound.keys key id named
  obtain rfl := Option.mem_unique known known'
  obtain ⟨_, _, _, dir, stored, definition⟩ := bound.records id record known
  -- both services name the last directory that holds the key
  have holds : dir.manifest.definition.idempotencyKey = key := by rw [definition, keyed]
  have same : o'.idempotency.lookup key = some id := by
    obtain ⟨other, named'⟩ :=
      Option.isSome_iff_exists.mp (restored.bound id (mem_runIds stored) dir stored)
    rw [holds] at named'
    obtain ⟨_, ⟨dir', stored', holds'⟩, _⟩ := restored.keys key other named'
    have le := greatest other dir' stored' holds'
    have ge := (bound'.keys key other named').2 id dir stored holds
    rw [named', le_antisymm le ge]
  obtain ⟨dir', capability, stored', sound, _, held⟩ := restored.housed id (mem_runIds stored)
  obtain rfl := Option.mem_unique stored stored'
  have request : (restoredRecord env dir capability).request = record.request := definition
  have handle : (restoredRecord env dir capability).run = record.run := by
    rw [(bound'.records id _ held).1, (bound.records id record known).1, request]
  refine ⟨same, fun faults => bound.readmit env rfl named known, fun faults => ?_⟩
  rw [← request, ← handle]
  exact bound'.readmit env rfl same held

end Hosts

theorem idempotency_survives_restart_sample :
    ∃ o o', (admittedHost sampleRequest).service = some o ∧
      ((admittedHost sampleRequest).step sampleEnvironment (.restart () [])).service = some o' ∧
      o.idempotency.lookup "key" = some "run-1" ∧ o'.idempotency.lookup "key" = some "run-1" := by
  have run : Runs.Run (Runs.Guarded (Host.step sampleEnvironment) Host.sortsBefore) Host.fresh
      [.restart () [], .call (.admitRun sampleRequest) []] (admittedHost sampleRequest) :=
    Runs.Run.of_allows (by decide +kernel)
  have ⟨o, live, named, present⟩ : ∃ o ∈ (admittedHost sampleRequest).service,
      o.idempotency.lookup "key" = some "run-1" ∧ (o.runs.lookup "run-1").isSome = true := by
    decide +kernel
  have opens : ((admittedHost sampleRequest).step sampleEnvironment
      (.restart () [])).service.isSome = true := by decide +kernel
  obtain ⟨record, found⟩ := Option.isSome_iff_exists.mp present
  obtain ⟨o', reopened⟩ := Option.isSome_iff_exists.mp opens
  exact ⟨o, o', live, reopened, named, (idempotency_survives_restart sampleEnvironment _ _ run
    o live "key" "run-1" record named found () [] o' reopened).1⟩

/-- An authority that refuses as many preparations as its state says. -/
def reluctantEnvironment : Environment Nat where
  authority :=
    { prepare := fun request refusals =>
        if refusals = 0 then (.ok ⟨request.mode, sampleDigest, ""⟩, 0)
        else (.error .localUnavailable, refusals - 1)
      executeUntil := fun _ capability _ refusals =>
        ((.ok ⟨capability.binding, 0, 0, 0, 0⟩, 0), refusals)
      cancel := fun _ _ refusals => (.ok (), refusals)
      reconcile := fun _ _ refusals => (.ok (), refusals) }
  requestDigest _ := sampleDigest
  manifestBytes _ := 0

/-- Four admissions fail at their manifests, the fifth is refused by the authority and leaves
run-9 behind, the sixth succeeds as run-11, which sorts before it. -/
theorem not_idempotency_survives_restart :
    ¬ ∀ (S : Type) (env : Environment S) (events : List (HostEvent S)) (host : Host S),
      Host.Run env events host → ∀ (o : Orchestrator S), host.service = some o →
      ∀ (key id : String) (record : RunRecord), o.idempotency.lookup key = some id →
      o.runs.lookup id = some record → ∀ (source : S) (o' : Orchestrator S),
      (host.step env (.restart source [])).service = some o' →
      o'.idempotency.lookup key = some id := by
  intro survives
  let events : List (HostEvent Nat) :=
    .restart 1 [] :: List.replicate 4 (.call (.admitRun sampleRequest) [.failBefore]) ++
      List.replicate 2 (.call (.admitRun sampleRequest) [])
  let host := events.foldl (Host.step reluctantEnvironment) Host.fresh
  have run := Runs.Run.foldl (Host.step reluctantEnvironment) Host.fresh events
  have ⟨o, live, named, present⟩ : ∃ o ∈ host.service,
      o.idempotency.lookup "key" = some "run-11" ∧ (o.runs.lookup "run-11").isSome = true := by
    decide +kernel
  have ⟨o', reopened, named'⟩ : ∃ o' ∈ (host.step reluctantEnvironment (.restart 0 [])).service,
      o'.idempotency.lookup "key" = some "run-9" := by decide +kernel
  obtain ⟨record, found⟩ := Option.isSome_iff_exists.mp present
  have kept := survives Nat reluctantEnvironment events host run o live "key" "run-11" record named
    found 0 o' reopened
  rw [named'] at kept
  exact absurd kept (by decide)

end AgentSystemsBenchmark
