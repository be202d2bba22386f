import AgentSystemsBenchmark.Control.Bootstrap

/-!
# What cancellations and revocations fence

Receipt calls, bootstraps, cancellations and the operations on enrollments run one at
a time under the catalog lock, interleaved with every other operation of the backend
and with restarts. The history records what each of them did and which keys were
acknowledged, so a client that learns of a cancellation only by repeating it counts
from that repetition on.

Two answers of a bootstrap are not checked against the current catalog: one that is
replayed from the record of its nonce, and one that overwrites what its nonce held.
-/

namespace AgentSystemsBenchmark.Control

open Effects Runs Histories List AList

/-! ## The part of the catalog that matters -/

/-- The records of operations on enrollments and bootstraps. -/
def MutationTarget.ofAuthority : MutationTarget → Bool
  | .authEnroll _ | .authHelperInvoke _ | .authRotate _ | .authRevoke _ | .runtimeBootstrap _
  | .runtimeBootstrapCancel _ => true
  | _ => false

def Catalog.authorityRecord (catalog : Catalog) (key : String) : Option MutationRecord :=
  (catalog.mutations.lookup key).filter fun record => record.target.ofAuthority

structure AuthorityPart where
  auth : Table AuthRecord
  authorities : Table RuntimeAuthorityRecord
  bootstraps : Table RuntimeBootstrapRecord
  records : String → Option MutationRecord

def Catalog.authorityPart (catalog : Catalog) : AuthorityPart :=
  ⟨catalog.auth, catalog.runtimeAuthorities, catalog.runtimeBootstraps, catalog.authorityRecord⟩

/-- Two catalogs agree on the enrollments, the authorities, the bootstraps and their records. -/
def sameAuthority (left right : Catalog) : Bool :=
  left.auth.entries = right.auth.entries ∧
    left.runtimeAuthorities.entries = right.runtimeAuthorities.entries ∧
    left.runtimeBootstraps.entries = right.runtimeBootstraps.entries ∧
    (left.mutations.keys ++ right.mutations.keys).all fun key =>
      left.authorityRecord key = right.authorityRecord key

theorem authorityPart_eq (same : sameAuthority left right = true) :
    left.authorityPart = right.authorityPart := by
  simp only [sameAuthority, decide_eq_true_eq] at same
  obtain ⟨auth, authorities, bootstraps, known⟩ := same
  have records : left.authorityRecord = right.authorityRecord := by
    funext key
    by_cases listed : key ∈ left.mutations.keys ++ right.mutations.keys
    · simpa using all_eq_true.mp known key listed
    · rw [mem_append, not_or] at listed
      have absent : ∀ table : Table MutationRecord, key ∉ table.keys → table.lookup key = none :=
        fun _ missing => AList.lookup_eq_none.mpr missing
      rw [Catalog.authorityRecord, Catalog.authorityRecord, absent _ listed.1, absent _ listed.2]
  rw [Catalog.authorityPart, Catalog.authorityPart, AList.ext auth, AList.ext authorities,
    AList.ext bootstraps, records]

/-! ## Operations -/

/-- The mutations on enrollments and bootstraps that bring their own key. -/
inductive AuthorityCall where
  | enroll (provider endpointIdentitySha256 credentialLocatorSha256 idempotencyKey : String)
  | helperInvoke (helper : Except BackendFailure Unit) (provider : String)
      (profile : ProviderProfile) (idempotencyKey : String)
  | rotate (provider credentialLocatorSha256 idempotencyKey : String)
  | revoke (provider idempotencyKey : String)
  | bootstrapCancel (request : RuntimeBootstrapCancelRequest)

inductive FenceEntry where
  /-- The bootstrap of this combination was cancelled under this key. -/
  | cancelled (key : String) (combination : Combination)
  /-- This credential was replaced or revoked under this key. -/
  | replaced (key provider credentialLocatorSha256 : String) (generation : Nat)
  | acknowledged (key : String)
  | bootstrapped (combination : Combination) (receipt : RuntimeEnrollmentReceipt)
  | receipted (receipt : RuntimeEnrollmentReceipt)
  deriving DecidableEq

namespace AuthorityCall

def key : AuthorityCall → String
  | .enroll _ _ _ key | .helperInvoke _ _ _ key | .rotate _ _ key | .revoke _ key => key
  | .bootstrapCancel request => request.idempotencyKey

/-- What the operation takes away from the catalog it runs on. -/
def takes (catalog : Catalog) : AuthorityCall → Option FenceEntry
  | .enroll .. => none
  | .helperInvoke _ provider _ key | .rotate provider _ key | .revoke provider key =>
    (catalog.auth.lookup provider).map fun record =>
      .replaced key provider record.credentialLocatorSha256 record.generation
  | .bootstrapCancel request =>
    (findFirst catalog.runtimeBootstraps request.names).map fun found =>
      .cancelled request.idempotencyKey found.2.combination

def control : AuthorityCall → ControlCall
  | .enroll provider endpoint locator key => .authEnroll provider endpoint locator key
  | .helperInvoke _ provider profile key => .authHelperInvoke provider profile key
  | .rotate provider locator key => .authRotate provider locator key
  | .revoke provider key => .authRevoke provider key
  | .bootstrapCancel request => .runtimeBootstrapCancel request

def target : AuthorityCall → MutationTarget
  | .enroll provider .. => .authEnroll provider
  | .helperInvoke _ provider .. => .authHelperInvoke provider
  | .rotate provider .. => .authRotate provider
  | .revoke provider .. => .authRevoke provider
  | .bootstrapCancel request => .runtimeBootstrapCancel request.provider

variable (env : Platform)

def build : AuthorityCall → Catalog → Except BackendFailure (ControlResult × Catalog)
  | .enroll provider endpoint locator _ => enrollBuild provider endpoint locator
  | .helperInvoke helper provider profile _ => helperBuild helper provider profile
  | .rotate provider locator _ => rotateBuild provider locator
  | .revoke provider _ => revokeBuild provider
  | .bootstrapCancel request => cancelBuild env request

def run (moment : Moment) (call : AuthorityCall) (store : CatalogStore) :
    Except BackendFailure BoundControlResult × CatalogStore :=
  match call with
  | .bootstrapCancel request => runtimeBootstrapCancel env moment request store
  | call => mutation env moment call.control call.key call.target (call.build env) store

end AuthorityCall

/-! ## The transition system -/

structure RuntimeControl where
  running : Bool
  store : CatalogStore
  history : List FenceEntry

open RuntimeControl

/-- What a start takes from outside: whether the rest of it succeeds, and the catalog
after the reconciliation of everything else. -/
structure Opening extends Moment where
  ready : Bool
  reconcile : Catalog → Catalog

inductive FenceEvent where
  | authority (moment : Moment) (call : AuthorityCall)
  | bootstrap (moment : Moment) (nowMs : Nat) (request : RuntimeBootstrapRequest)
  | receipt (now : Nat) (request : RuntimeReceiptRequest)
  /-- Any other operation of the backend. -/
  | others (store : CatalogStore)
  | crash
  | reopen (opening : Opening)

section Steps
variable (env : Platform) (formats : AuthorityFormats)

/-- The checks that bind persisted authority material to its enrollment. -/
def installRuntimeAuthority (catalog : Catalog) (provider : String)
    (record : RuntimeAuthorityRecord) : Except BackendFailure Unit := do
  let authority := formats.authority record.material
  refuse (record.provider ≠ provider ∨ authority.enrollment.provider ≠ provider) .rejected
  match catalog.auth.lookup provider with
  | none => .error .rejected
  | some enrollment =>
    refuse (enrollment.status ≠ .active ∨
      enrollment.endpointIdentitySha256 ≠ authority.endpointIdentitySha256 ∨
      authority.enrollment.credentialRefSha256 ≠ enrollment.credentialLocatorSha256 ∨
      authority.enrollment.generation ≠ enrollment.generation) .rejected
    let certificates ← rejecting (authority.certificateAuthority formats)
    let _ ← rejecting (authority.chain.issueChain formats.tools certificates
      (authority.enrollment.issuedAtUnixMs / 1000))
    return ()

/-- Every persisted authority is installed again. -/
def installsAuthorities (catalog : Catalog) : Bool :=
  catalog.runtimeAuthorities.entries.all fun entry =>
    isOk (installRuntimeAuthority formats catalog entry.1 entry.2)

/-- The receipt in the answer to a bootstrap. -/
def returnedReceipt : Except BackendFailure BoundControlResult → Option RuntimeEnrollmentReceipt
  | .ok ⟨_, .runtimeBootstrap response⟩ => some response.receipt
  | _ => none

namespace RuntimeControl

/-- A stopped backend over a state root. -/
def stopped (disk : Catalog) : RuntimeControl := ⟨false, ⟨disk, disk⟩, []⟩

/-- The operation took effect: its record has appeared. -/
def landed (key : String) (before after : Catalog) : Bool :=
  (before.authorityRecord (env.sha256 key)).isNone &&
    (after.authorityRecord (env.sha256 key)).isSome

def serve (s : RuntimeControl) (moment : Moment) (call : AuthorityCall) : RuntimeControl :=
  let outcome := call.run env moment s.store
  let effect := if landed env call.key s.store.live outcome.2.live then
    (call.takes s.store.live).toList else []
  let answer := if isOk outcome.1 then [.acknowledged call.key] else []
  { s with store := outcome.2, history := s.history ++ effect ++ answer }

def bootstrap (s : RuntimeControl) (moment : Moment) (nowMs : Nat)
    (request : RuntimeBootstrapRequest) : RuntimeControl :=
  let outcome := runtimeBootstrap env formats moment nowMs request s.store
  let answer := (returnedReceipt outcome.1).map (.bootstrapped request.combination)
  { s with store := outcome.2, history := s.history ++ answer.toList }

def receipt (s : RuntimeControl) (now : Nat) (request : RuntimeReceiptRequest) : RuntimeControl :=
  let answer := match runtimeReceipt formats s.store.live request now with
    | .ok receipt => [.receipted receipt]
    | .error _ => []
  { s with history := s.history ++ answer }

/-- Read the catalog, reconcile it, install the authorities and write it back. -/
def reopen (s : RuntimeControl) (opening : Opening) : RuntimeControl :=
  let opened := opening.reconcile s.store.disk
  if validateCatalog env opening.toMoment s.store.disk = .ok () ∧ opening.ready ∧
      sameAuthority s.store.disk opened ∧ installsAuthorities formats opened ∧
      env.catalogBytes opened ≤ maxCatalogBytes then
    match opening.commit with
    | .synced => { s with running := true, store := ⟨opened, opened⟩ }
    | .refused => s
    | .renamed => { s with store := { s.store with disk := opened } }
  else s

def step (s : RuntimeControl) : FenceEvent → RuntimeControl
  | .authority moment call => if s.running then s.serve env moment call else s
  | .bootstrap moment nowMs request =>
    if s.running then s.bootstrap env formats moment nowMs request else s
  | .receipt now request => if s.running then s.receipt formats now request else s
  | .others store =>
    if s.running && sameAuthority s.store.live store.live && sameAuthority s.store.live store.disk
    then { s with store := store } else s
  | .crash => { s with running := false }
  | .reopen opening => if s.running then s else s.reopen env formats opening

end RuntimeControl

end Steps

/-! ## What one step does -/

/-- Every recorded bootstrap answer has its bootstrap, not cancelled, in the table. -/
def AuthorityPart.ResultsHold (part : AuthorityPart) : Prop :=
  ∀ key record result provider response, part.records key = some record →
    record.target = .runtimeBootstrap provider → record.result = some result →
    result.result = .runtimeBootstrap response →
    ∃ nonce stored, part.bootstraps.lookup nonce = some stored ∧
      stored.matches provider response = true

section Effects
variable {env : Platform} {formats : AuthorityFormats}

theorem validateCatalog_resultsHold (valid : validateCatalog env moment catalog = .ok ()) :
    catalog.authorityPart.ResultsHold := by
  intro key record result provider response found target recorded answer
  obtain ⟨stored, _⟩ := Option.filter_eq_some_iff.mp found
  obtain ⟨checked, same, matching⟩ := validateCatalog_mutation valid stored
  obtain rfl := Option.mem_unique same recorded
  rw [target, answer] at matching
  obtain ⟨⟨nonce, bootstrap⟩, mem, agrees⟩ := any_eq_true.mp matching
  exact ⟨nonce, bootstrap, mem_lookup_iff.mpr mem, agrees⟩

theorem AuthorityCall.target_ofAuthority (call : AuthorityCall) :
    call.target.ofAuthority = true := by
  cases call <;> rfl

theorem AuthorityCall.run_eq (moment : Moment) (call : AuthorityCall) (store : CatalogStore) :
    call.run env moment store =
        mutation env moment call.control call.key call.target (call.build env) store ∨
      call.run env moment store = (.error .rejected, store) := by
  cases call with
  | bootstrapCancel request =>
    simp only [AuthorityCall.run, runtimeBootstrapCancel]
    split
    · exact .inl rfl
    · exact .inr rfl
  | enroll | helperInvoke | rotate | revoke => exact .inl rfl

/-- Entries that only report an answer. -/
def Silent (added : List FenceEntry) : Prop :=
  ∀ entry ∈ added, ∃ key, entry = .acknowledged key

theorem silent_nil : Silent [] := fun _ mem => nomatch mem

section Entries
variable {P : FenceEntry → Prop} {entry : FenceEntry} {added : List FenceEntry}

theorem Silent.each (silent : Silent added) (acknowledged : ∀ key, P (.acknowledged key)) :
    ∀ entry ∈ added, P entry := by
  intro entry mem
  obtain ⟨key, rfl⟩ := silent entry mem
  exact acknowledged key

theorem Silent.not_mem (silent : Silent added) (other : ∀ key, .acknowledged key ≠ entry) :
    entry ∉ added := by
  intro mem
  obtain ⟨key, rfl⟩ := silent entry mem
  exact other key rfl

/-- An operation takes bootstraps and credentials away, and answers nothing. -/
theorem AuthorityCall.forall_takes {call : AuthorityCall}
    (cancelled : ∀ key combination, P (.cancelled key combination))
    (replaced : ∀ key provider locator generation, P (.replaced key provider locator generation)) :
    ∀ entry ∈ (call.takes catalog).toList, P entry := by
  intro entry mem
  cases call <;> simp only [takes, Option.mem_toList, Option.map_eq_some_iff, reduceCtorEq] at mem
  all_goals obtain ⟨_, _, rfl⟩ := mem
  case bootstrapCancel => exact cancelled _ _
  all_goals exact replaced _ _ _ _

/-- A bootstrap adds its answer, if anything. -/
theorem mem_of_answer {history : List FenceEntry} {combination : Combination}
    {receipt : RuntimeEnrollmentReceipt}
    (answer : added = [] ∨ added = [.bootstrapped combination receipt])
    (other : .bootstrapped combination receipt ≠ entry) (mem : entry ∈ history ++ added) :
    entry ∈ history := by
  rcases answer with rfl | rfl
  · rwa [append_nil] at mem
  · exact (mem_append.mp mem).resolve_right fun now => other (mem_singleton.mp now).symm

end Entries

theorem silent_answer (answered : Bool) (key : String) :
    Silent (if answered then [.acknowledged key] else []) := by
  cases answered
  · exact silent_nil
  · intro entry mem
    exact ⟨key, mem_singleton.mp mem⟩

/-- What a step leaves: the part unchanged, a checked catalog with what the operation
took, an answer replayed from a record, a new bootstrap, or a receipt. -/
inductive RuntimeControl.Effect (env : Platform) (formats : AuthorityFormats) (s : RuntimeControl) :
    FenceEvent → RuntimeControl → Prop where
  | quiet {event} {t} {added}
      (silent : Silent added) (history : t.history = s.history ++ added)
      (live : t.store.live.authorityPart = s.store.live.authorityPart)
      (disk : t.store.disk.authorityPart = s.store.live.authorityPart)
      (checked : t.running = true → s.running = true ∨ s.store.live.authorityPart.ResultsHold) :
      Effect env formats s event t
  | served {moment} {call} {t} {added}
      {result} {built} (silent : Silent added)
      (build : call.build env s.store.live = .ok (result, built))
      (valid : validateCatalog env moment
        (stage env call.control call.key call.target result built) = .ok ())
      (store : t.store = ⟨stage env call.control call.key call.target result built,
        stage env call.control call.key call.target result built⟩)
      (history : t.history = s.history ++ (call.takes s.store.live).toList ++ added) :
      Effect env formats s (.authority moment call) t
  | replayed {moment} {nowMs} {request}
      {record} {result} {response}
      (running : s.running = true)
      (known : s.store.live.mutations.lookup
        (env.sha256 (bootstrapKey request.requestNonceSha256)) = some record)
      (own : record.requestSha256 = canonicalCallSha256 env (.runtimeBootstrap request))
      (recorded : record.result = some result)
      (answer : result.result = .runtimeBootstrap response) :
      Effect env formats s (.bootstrap moment nowMs request)
        { s with history := s.history ++ [.bootstrapped request.combination response.receipt] }
  | bootstrapped {moment} {nowMs} {request}
      {t} {added} {response}
      {built}
      (build : bootstrapBuild env formats nowMs request s.store.live =
        .ok (.runtimeBootstrap response, built))
      (valid : validateCatalog env moment (stage env (.runtimeBootstrap request)
        (bootstrapKey request.requestNonceSha256) (.runtimeBootstrap request.provider)
        (.runtimeBootstrap response) built) = .ok ())
      (live : t.store.live = stage env (.runtimeBootstrap request)
        (bootstrapKey request.requestNonceSha256) (.runtimeBootstrap request.provider)
        (.runtimeBootstrap response) built)
      (disk : t.store.disk = t.store.live)
      (answer : added = [] ∨ added = [.bootstrapped request.combination response.receipt])
      (history : t.history = s.history ++ added) :
      Effect env formats s (.bootstrap moment nowMs request) t
  | receipted {now} {request} {receipt}
      (issued : runtimeReceipt formats s.store.live request now = .ok receipt) :
      Effect env formats s (.receipt now request)
        { s with history := s.history ++ [.receipted receipt] }

variable {s : RuntimeControl}

/-- An answer from the record of a nonce shows the record's result. -/
theorem returnedReceipt_replay {call : ControlCall} {record : MutationRecord}
    {receipt : RuntimeEnrollmentReceipt}
    (h : returnedReceipt (replay env call record) = some receipt) :
    record.requestSha256 = canonicalCallSha256 env call ∧
      ∃ result response, record.result = some result ∧
        result.result = .runtimeBootstrap response ∧ response.receipt = receipt := by
  unfold replay at h
  split at h
  case h_1 result own _ recorded =>
    refine ⟨of_decide_eq_true own, result, ?_⟩
    obtain ⟨digest, answer⟩ := result
    cases answer <;> simp only [returnedReceipt, reduceCtorEq, Option.some.injEq] at h
    exact ⟨_, recorded, rfl, h⟩
  case h_2 => cases h

section
variable (same : s.store.disk.authorityPart = s.store.live.authorityPart)
include same

namespace RuntimeControl

/-- A step that changes nothing at all. -/
theorem Effect.idle (event : FenceEvent) : s.Effect env formats event s :=
  .quiet silent_nil (append_nil _).symm rfl same .inl

theorem serve_effect (moment : Moment) (call : AuthorityCall) :
    s.Effect env formats (.authority moment call) (s.serve env moment call) := by
  -- without a record the operation has not landed
  have unlanded : ∀ after : Catalog, after.authorityPart = s.store.live.authorityPart →
      landed env call.key s.store.live after = false := by
    intro after kept
    have records : after.authorityRecord = s.store.live.authorityRecord :=
      congrArg AuthorityPart.records kept
    rw [landed, records]
    cases s.store.live.authorityRecord (env.sha256 call.key) <;> rfl
  have quiet : ∀ outcome, call.run env moment s.store = outcome →
      outcome.2.live.authorityPart = s.store.live.authorityPart →
      outcome.2.disk.authorityPart = s.store.live.authorityPart →
      s.Effect env formats (.authority moment call) (s.serve env moment call) := by
    rintro outcome rfl live disk
    refine .quiet (silent_answer (isOk (call.run env moment s.store).1) call.key) ?_ live disk .inl
    simp [serve, unlanded _ live]
  rcases call.run_eq moment s.store with ran | refused
  · rcases mutation_cases Catalog.authorityPart same with ⟨record, _, answered⟩ | ⟨_, live, disk⟩ |
      ⟨absent, result, built, build, valid, _, stored⟩
    · exact quiet _ (ran.trans answered) rfl same
    · exact quiet _ ran live disk
    · have before : s.store.live.authorityRecord (env.sha256 call.key) = none := by
        rw [Catalog.authorityRecord, absent]
        rfl
      have after : (stage env call.control call.key call.target result built).authorityRecord
          (env.sha256 call.key) ≠ none := by
        rw [Catalog.authorityRecord, stage, lookup_insert]
        simp [call.target_ofAuthority]
      refine .served (silent_answer (isOk (call.run env moment s.store).1) call.key) build valid
        (by rw [serve, ran, stored]) ?_
      simp only [serve, ran, stored, landed, before, Option.isNone_none, Bool.true_and,
        Option.isSome_iff_ne_none.mpr after, if_true]
  · exact quiet _ refused rfl same

theorem bootstrap_effect (moment : Moment) (nowMs : Nat)
    (request : RuntimeBootstrapRequest) (running : s.running = true) :
    s.Effect env formats (.bootstrap moment nowMs request)
      (s.bootstrap env formats moment nowMs request) := by
  have failed : ∀ outcome : Except BackendFailure BoundControlResult × CatalogStore,
      runtimeBootstrap env formats moment nowMs request s.store = outcome →
      (∃ failure, outcome.1 = .error failure) →
      outcome.2.live.authorityPart = s.store.live.authorityPart →
      outcome.2.disk.authorityPart = s.store.live.authorityPart →
      s.Effect env formats (.bootstrap moment nowMs request)
        (s.bootstrap env formats moment nowMs request) := by
    rintro outcome rfl ⟨failure, error⟩ live disk
    refine .quiet silent_nil ?_ live disk .inl
    simp [bootstrap, error, returnedReceipt]
  by_cases valid : isOk request.validate = true
  · have ran : runtimeBootstrap env formats moment nowMs request s.store =
        mutation env moment (.runtimeBootstrap request) (bootstrapKey request.requestNonceSha256)
          (.runtimeBootstrap request.provider) (bootstrapBuild env formats nowMs request) s.store :=
      if_pos valid
    rcases mutation_cases Catalog.authorityPart same with ⟨record, known, answered⟩ |
      ⟨error, live, disk⟩ | ⟨_, result, built, build, checked, reported, stored⟩
    · rw [answered] at ran
      cases shown : returnedReceipt (replay env (.runtimeBootstrap request) record) with
      | none =>
        refine .quiet silent_nil ?_ ?_ ?_ .inl
        · simp [bootstrap, ran, shown]
        · simp [bootstrap, ran]
        · simp [bootstrap, ran, same]
      | some receipt =>
        obtain ⟨own, result, response, recorded, answer, rfl⟩ := returnedReceipt_replay shown
        have after : s.bootstrap env formats moment nowMs request = { s with
            history := s.history ++ [.bootstrapped request.combination response.receipt] } := by
          simp [bootstrap, ran, shown]
        rw [after]
        exact .replayed running known own recorded answer
    · exact failed _ ran error live disk
    · obtain ⟨auth, response, rfl, _⟩ := bootstrapBuild_ok build
      refine .bootstrapped build checked (by simp [bootstrap, ran, stored])
        (by simp [bootstrap, ran, stored]) ?_ rfl
      rw [ran]
      rcases reported with done | ⟨failure, error⟩
      · rw [done]
        exact .inr rfl
      · rw [error]
        exact .inl rfl
  · exact failed _ (if_neg valid) ⟨_, rfl⟩ rfl same

theorem receipt_effect (now : Nat) (request : RuntimeReceiptRequest) :
    s.Effect env formats (.receipt now request) (s.receipt formats now request) := by
  cases issued : runtimeReceipt formats s.store.live request now with
  | error =>
    refine .quiet silent_nil ?_ rfl same .inl
    simp [receipt, issued]
  | ok value =>
    rw [receipt, issued]
    exact .receipted issued

theorem reopen_effect (opening : Opening) :
    s.Effect env formats (.reopen opening) (s.reopen env formats opening) := by
  unfold reopen
  dsimp only
  split
  case isTrue opens =>
    obtain ⟨valid, _, agrees, _⟩ := opens
    have part : (opening.reconcile s.store.disk).authorityPart = s.store.live.authorityPart :=
      (authorityPart_eq agrees).symm.trans same
    have checked : s.store.live.authorityPart.ResultsHold :=
      same ▸ validateCatalog_resultsHold valid
    split
    · exact .quiet silent_nil (append_nil _).symm part part fun _ => .inr checked
    · exact .idle same _
    · exact .quiet silent_nil (append_nil _).symm rfl part fun _ => .inr checked
  case isFalse => exact .idle same _

/-- Every step has one of the effects. -/
theorem step_effect (event : FenceEvent) :
    s.Effect env formats event (s.step env formats event) := by
  cases event with
  | authority moment call =>
    rw [step]
    split
    · exact serve_effect same moment call
    · exact .idle same _
  | bootstrap moment nowMs request =>
    rw [step]
    split
    case isTrue running => exact bootstrap_effect same moment nowMs request running
    case isFalse => exact .idle same _
  | receipt now request =>
    rw [step]
    split
    · exact receipt_effect same now request
    · exact .idle same _
  | others store =>
    rw [step]
    split
    case isTrue agrees =>
      rw [Bool.and_eq_true, Bool.and_eq_true] at agrees
      exact .quiet silent_nil (append_nil _).symm (authorityPart_eq agrees.1.2).symm
        (authorityPart_eq agrees.2).symm .inl
    case isFalse => exact .idle same _
  | crash => exact .quiet silent_nil (append_nil _).symm rfl same (fun up => nomatch up)
  | reopen opening =>
    rw [step]
    split
    · exact .idle same _
    · exact reopen_effect same opening

end RuntimeControl

end

/-- The two catalogs agree on the part after every step. -/
theorem RuntimeControl.Effect.same (same : s.store.disk.authorityPart = s.store.live.authorityPart)
    (effect : s.Effect env formats event t) :
    t.store.disk.authorityPart = t.store.live.authorityPart := by
  cases effect with
  | quiet _ _ live disk => rw [live, disk]
  | served _ _ _ store => rw [store]
  | replayed | receipted => exact same
  | bootstrapped _ _ _ disk => rw [disk]

/-- While the backend runs every recorded bootstrap answer has its bootstrap. -/
theorem RuntimeControl.Effect.resultsHold
    (held : s.running = true → s.store.live.authorityPart.ResultsHold)
    (effect : s.Effect env formats event t) :
    t.running = true → t.store.live.authorityPart.ResultsHold := by
  intro up
  cases effect with
  | quiet _ _ live _ checked =>
    rw [live]
    exact (checked up).elim held id
  | served _ _ valid store =>
    rw [store]
    exact validateCatalog_resultsHold valid
  | replayed running => exact held running
  | bootstrapped _ valid live =>
    rw [live]
    exact validateCatalog_resultsHold valid
  | receipted => exact held up

end Effects

/-! ### A sample backend -/

def sampleReceiptEnrollment : RuntimeAuthorityEnrollment where
  schemaVersion := 1
  chainSha256 := "0000000000000000000000000000000000000000000000000000000000000000"
  provider := "alpha"
  credentialRefSha256 := "ffffffffffffffffffffffffffffffffffffffffffffffffffffffffffffffff"
  target := "203.0.113.7:443"
  toolBundleSha256 := "1111111111111111111111111111111111111111111111111111111111111111"
  leaseRootSha256 := "2222222222222222222222222222222222222222222222222222222222222222"
  relayRootSha256 := "3333333333333333333333333333333333333333333333333333333333333333"
  generation := 7
  issuedAtUnixMs := 1000000
  expiresAtUnixMs := 1060000

def AuthorityFormats.sample : AuthorityFormats where
  tools := .sample
  authority _ := ⟨sampleIdentity.trustAnchorSha256, sampleIdentity.endpointIdentitySha256,
    sampleEnrollment, sampleReceiptEnrollment⟩
  chainText _ := "chain"
  validPublicTarget _ := true

/-- A state root with one active enrollment and an authority made for it. -/
def sampleRoot : Catalog :=
  { Catalog.fresh "runner-1" with
    auth := AList.insert "alpha" ⟨"alpha", sampleIdentity.endpointIdentitySha256,
      sampleReceiptEnrollment.credentialRefSha256, 7, .active⟩ ∅
    runtimeAuthorities := AList.insert "alpha" ⟨"alpha", "material"⟩ ∅ }

def sampleBootstrap (nonce : String) : RuntimeBootstrapRequest where
  schemaVersion := 1
  provider := "alpha"
  generation := 7
  controlSessionSha256 := "4444444444444444444444444444444444444444444444444444444444444444"
  requestNonceSha256 := nonce
  restartBindingSha256 := "5555555555555555555555555555555555555555555555555555555555555555"
  namespaceSha256 := "6666666666666666666666666666666666666666666666666666666666666666"

def sampleCancel (nonce : String) : RuntimeBootstrapCancelRequest where
  schemaVersion := 1
  provider := "alpha"
  generation := 7
  controlSessionSha256 := "4444444444444444444444444444444444444444444444444444444444444444"
  cancellationBindingSha256 := cancellationBinding .sample (sampleBootstrap nonce)
  idempotencyKey := "cancel"

def sampleReceipt : RuntimeEnrollmentReceipt where
  schemaVersion := 1
  chainSha256 := sampleReceiptEnrollment.chainSha256
  provider := "alpha"
  endpointIdentitySha256 := sampleIdentity.endpointIdentitySha256
  credentialRefSha256 := sampleReceiptEnrollment.credentialRefSha256
  generation := 7
  target := sampleReceiptEnrollment.target
  toolBundleSha256 := sampleReceiptEnrollment.toolBundleSha256
  leaseRootSha256 := sampleReceiptEnrollment.leaseRootSha256
  relayRootSha256 := sampleReceiptEnrollment.relayRootSha256
  issuedAtUnixMs := 1000000
  expiresAtUnixMs := 1060000
  nonceSha256 := "0000000000000000000000000000000000000000000000000000000000000000"

def firstNonce : String := "7777777777777777777777777777777777777777777777777777777777777777"
def secondNonce : String := "8888888888888888888888888888888888888888888888888888888888888888"

def FenceEvent.open : FenceEvent := .reopen ⟨.calm, true, id⟩

def FenceEvent.asks (nonce : String) : FenceEvent :=
  .bootstrap .calm 1010000 (sampleBootstrap nonce)

def RuntimeControl.sample (events : List FenceEvent) : RuntimeControl :=
  events.foldl (step .sample .sample) (stopped sampleRoot)

/-! ## Cancellations -/

/-- A bootstrap answer comes only where no cancellation of its combination has been
acknowledged. -/
def keepsCancelled (earlier : List FenceEntry) : FenceEntry → Prop
  | .bootstrapped combination _ =>
    ∀ key, .cancelled key combination ∈ earlier → .acknowledged key ∉ earlier
  | _ => True

def RuntimeControl.CancellationsHold (s : RuntimeControl) : Prop :=
  Justified keepsCancelled s.history

/-- A stored cancelled bootstrap of the combination, and no other kind. -/
structure AuthorityPart.Fences (part : AuthorityPart) (combination : Combination) : Prop where
  cancelled : ∃ nonce record, part.bootstraps.lookup nonce = some record ∧
    record.combination = combination ∧ record.revoked = true
  only : ∀ nonce record, part.bootstraps.lookup nonce = some record →
    record.combination = combination → record.revoked = true

/-- The record under a key was made by this very request. -/
def MutationRecord.madeBy (env : Platform) (record : MutationRecord)
    (request : RuntimeBootstrapRequest) : Bool :=
  record.requestSha256 ≠ canonicalCallSha256 env (.runtimeBootstrap request) ||
    (record.target = .runtimeBootstrap request.provider &&
      match record.result with
      | some ⟨_, .runtimeBootstrap response⟩ =>
        response.generation = request.generation &&
          response.controlSessionSha256 = request.controlSessionSha256 &&
          response.restartBindingSha256 = request.restartBindingSha256
      | _ => true)

/-- A cancellation finds no second live bootstrap of its combination; a nonce is not
used again for another combination once its bootstrap is cancelled; and a record with
the digest of a request is the record of that request. -/
def RuntimeControl.cancelsCleanly (env : Platform) (s : RuntimeControl) : FenceEvent → Bool
  | .authority _ (.bootstrapCancel request) =>
    (findFirst s.store.live.runtimeBootstraps request.names).all fun found =>
      s.store.live.runtimeBootstraps.entries.all fun entry =>
        entry.1 = found.1 ∨ entry.2.combination ≠ found.2.combination ∨ entry.2.revoked
  | .bootstrap _ _ request =>
    ((s.store.live.runtimeBootstraps.lookup request.requestNonceSha256).all fun stored =>
      !stored.revoked || stored.combination = request.combination) &&
    (s.store.live.mutations.lookup (env.sha256 (bootstrapKey request.requestNonceSha256))).all
      fun record => record.madeBy env request
  | _ => true

section Cancellations
variable {env : Platform} {formats : AuthorityFormats} {s t : RuntimeControl}

variable {combination : Combination}

theorem AuthorityPart.Fences.congr {left right : AuthorityPart}
    (fences : left.Fences combination) (same : right.bootstraps = left.bootstraps) :
    right.Fences combination := by
  obtain ⟨cancelled, only⟩ := fences
  constructor
  · rw [same]
    exact cancelled
  · rw [same]
    exact only

/-- A fence stands when a bootstrap of its combination is cancelled once more, and
when anything is stored over a bootstrap of another combination. -/
theorem AuthorityPart.Fences.insert {part after : AuthorityPart}
    {nonce : String} {record : RuntimeBootstrapRecord} (fences : part.Fences combination)
    (inserted : after.bootstraps = part.bootstraps.insert nonce record)
    (kept : ∀ old, part.bootstraps.lookup nonce = some old → old.combination = combination →
      record.combination = combination)
    (closed : record.combination = combination → record.revoked = true) :
    after.Fences combination := by
  obtain ⟨⟨cancelled, old, found, same, revoked⟩, only⟩ := fences
  constructor
  · by_cases here : cancelled = nonce
    · subst here
      have again := kept old found same
      exact ⟨cancelled, record, by rw [inserted, lookup_insert], again, closed again⟩
    · exact ⟨cancelled, old, by rw [inserted, lookup_insert_ne here, found], same, revoked⟩
  · intro other stored held equal
    rw [inserted] at held
    rcases insert_cases held with ⟨-, rfl⟩ | ⟨-, held⟩
    · exact closed equal
    · exact only other stored held equal

/-- A cancelled bootstrap fences its combination when no other is live. -/
theorem AuthorityPart.fences_insert {part after : AuthorityPart} {nonce : String}
    {record : RuntimeBootstrapRecord}
    (inserted : after.bootstraps = part.bootstraps.insert nonce record)
    (revoked : record.revoked = true)
    (others : ∀ other stored, other ≠ nonce → part.bootstraps.lookup other = some stored →
      stored.combination = record.combination → stored.revoked = true) :
    after.Fences record.combination := by
  constructor
  · exact ⟨nonce, record, by rw [inserted, lookup_insert], rfl, revoked⟩
  · intro other stored held equal
    rw [inserted] at held
    rcases insert_cases held with ⟨-, rfl⟩ | ⟨here, held⟩
    · exact revoked
    · exact others other stored here held equal

theorem fenced_of_fences (fences : catalog.authorityPart.Fences combination) :
    fenced catalog combination = true := by
  obtain ⟨nonce, record, found, same, revoked⟩ := fences.cancelled
  exact any_eq_true.mpr
    ⟨⟨nonce, record⟩, mem_lookup_iff.mp found, decide_eq_true ⟨same, revoked⟩⟩

/-- Only a cancellation touches the table of bootstraps. -/
theorem AuthorityCall.build_bootstraps {call : AuthorityCall} {catalog built : Catalog}
    {result : ControlResult} (h : call.build env catalog = .ok (result, built)) :
    (built.runtimeBootstraps = catalog.runtimeBootstraps ∧
      ∀ key combination, .cancelled key combination ∉ (call.takes catalog).toList) ∨
    ∃ request nonce record, call = .bootstrapCancel request ∧
      findFirst catalog.runtimeBootstraps request.names = some (nonce, record) ∧
      built.runtimeBootstraps =
        catalog.runtimeBootstraps.insert nonce { record with revoked := true } := by
  cases call with
  | enroll =>
    refine .inl ⟨?_, by simp [takes]⟩
    rcases enrollBuild_ok h with rfl | ⟨_, _, rfl⟩ <;> rfl
  | helperInvoke =>
    obtain ⟨_, rfl, _⟩ := helperBuild_ok h
    exact .inl ⟨rfl, by simp [takes]⟩
  | rotate =>
    obtain ⟨_, _, _, rfl, _⟩ := rotateBuild_ok h
    exact .inl ⟨rfl, by simp [takes]⟩
  | revoke =>
    obtain ⟨_, _, rfl⟩ := revokeBuild_ok h
    exact .inl ⟨rfl, by simp [takes]⟩
  | bootstrapCancel request =>
    obtain ⟨nonce, record, named, _, stored⟩ := cancelBuild_ok h
    exact .inr ⟨request, nonce, record, rfl, named, stored⟩

namespace RuntimeControl

/-- The invariant: each cancelled combination is fenced by the stored bootstraps. -/
structure Cancels (s : RuntimeControl) : Prop where
  same : s.store.disk.authorityPart = s.store.live.authorityPart
  results : s.running = true → s.store.live.authorityPart.ResultsHold
  fences : ∀ key combination, .cancelled key combination ∈ s.history →
    s.store.live.authorityPart.Fences combination
  holds : s.CancellationsHold

theorem Effect.cancelled_fences (before : s.Cancels) (clean : s.cancelsCleanly env event = true)
    (effect : s.Effect env formats event t) (key : String) (combination : Combination)
    (mem : .cancelled key combination ∈ t.history) :
    t.store.live.authorityPart.Fences combination := by
  have old := before.fences key combination
  cases effect with
  | quiet silent history live =>
    rw [history, mem_append] at mem
    rw [live]
    exact old (mem.resolve_right (silent.not_mem nofun))
  | @served moment call _ added result built silent build valid store history =>
    rw [history, mem_append, mem_append] at mem
    replace mem := mem.resolve_right (silent.not_mem nofun)
    rw [store]
    rcases AuthorityCall.build_bootstraps build with ⟨unchanged, untaken⟩ |
      ⟨request, nonce, record, rfl, named, stored⟩
    · exact (old (mem.resolve_right (untaken key combination))).congr unchanged
    · obtain ⟨found, _⟩ := findFirst_some named
      rcases mem with earlier | now
      · refine (old earlier).insert stored (fun other held equal => ?_) fun _ => rfl
        obtain rfl := Option.mem_unique found held
        exact equal
      · -- the condition leaves no live bootstrap of the combination
        simp only [AuthorityCall.takes, named, Option.map_some, Option.toList_some,
          mem_singleton, FenceEntry.cancelled.injEq] at now
        obtain ⟨_, rfl⟩ := now
        simp only [cancelsCleanly, named, Option.all_some, all_eq_true,
          decide_eq_true_eq] at clean
        refine @AuthorityPart.fences_insert s.store.live.authorityPart _ nonce
          { record with revoked := true } stored rfl ?_
        intro other kept elsewhere held equal
        rcases clean ⟨other, kept⟩ (mem_lookup_iff.mp held) with here | differs | revoked
        · exact absurd here elsewhere
        · exact absurd equal differs
        · exact revoked
  | replayed | receipted =>
    rw [mem_append, mem_singleton] at mem
    exact old (mem.resolve_right nofun)
  | @bootstrapped _ _ request _ added response built build _ live _ answer history =>
    rw [history] at mem
    have fences := old (mem_of_answer answer nofun mem)
    obtain ⟨_, _, _, _, _, _, unfenced, rfl⟩ := bootstrapBuild_ok build
    have differs : request.combination ≠ combination := by
      rintro rfl
      rw [fenced_of_fences fences] at unfenced
      cases unfenced
    rw [live]
    refine fences.insert rfl (fun stored held equal => ?_) fun equal => absurd equal differs
    -- a cancelled bootstrap is only stored over by its own combination
    have revoked := fences.only _ stored held equal
    simp only [cancelsCleanly, Bool.and_eq_true, Option.all_eq_true] at clean
    have kept := clean.1 stored held
    simp only [revoked, Bool.not_true, Bool.false_or, decide_eq_true_eq] at kept
    exact absurd (kept.symm.trans equal) differs

theorem Effect.cancellationsHold (before : s.Cancels) (clean : s.cancelsCleanly env event = true)
    (effect : s.Effect env formats event t) : t.CancellationsHold := by
  unfold CancellationsHold
  cases effect with
  | quiet silent history =>
    rw [history]
    exact before.holds.append (silent.each fun _ _ => trivial)
  | served silent _ _ _ history =>
    rw [history]
    exact (before.holds.append (AuthorityCall.forall_takes (fun _ _ _ => trivial)
      fun _ _ _ _ _ => trivial)).append (silent.each fun _ _ => trivial)
  | @replayed moment nowMs request record result response running known own recorded answer =>
    refine before.holds.snoc fun key cancelled _ => ?_
    simp only [cancelsCleanly, known, Option.all_some, Bool.and_eq_true] at clean
    obtain ⟨digest, shown⟩ := result
    obtain rfl : shown = .runtimeBootstrap response := answer
    simp only [MutationRecord.madeBy, own, recorded, ne_eq, not_true_eq_false, decide_false,
      Bool.false_or, Bool.and_eq_true, decide_eq_true_eq] at clean
    obtain ⟨_, target, ⟨generation, session⟩, restart⟩ := clean
    have listed : s.store.live.authorityPart.records
        (env.sha256 (bootstrapKey request.requestNonceSha256)) = some record :=
      Option.filter_eq_some_iff.mpr ⟨known, by rw [target]; rfl⟩
    obtain ⟨nonce, stored, held, agrees⟩ :=
      before.results running _ _ _ _ _ listed target recorded rfl
    simp only [RuntimeBootstrapRecord.matches, decide_eq_true_eq] at agrees
    obtain ⟨provider, _, generation', session', restart', _, _, unrevoked⟩ := agrees
    have same : stored.combination = request.combination := by
      rw [RuntimeBootstrapRecord.combination, RuntimeBootstrapRequest.combination, provider,
        generation', session', restart', generation, session, restart]
    exact unrevoked ((before.fences key _ cancelled).only nonce stored held same)
  | @bootstrapped _ _ request _ added response built build _ _ _ answer history =>
    rw [history]
    rcases answer with rfl | rfl
    · rw [append_nil]
      exact before.holds
    · refine before.holds.snoc fun key cancelled _ => ?_
      obtain ⟨_, _, _, _, _, _, unfenced, _⟩ := bootstrapBuild_ok build
      rw [fenced_of_fences (before.fences key _ cancelled)] at unfenced
      cases unfenced
  | receipted => exact before.holds.snoc trivial

theorem stopped_cancels (disk : Catalog) : (stopped disk).Cancels where
  same := rfl
  results up := nomatch up
  fences _ _ mem := nomatch mem
  holds := Justified.nil _

/-- Once the cancellation of a bootstrap has been acknowledged, no bootstrap of its
combination is answered with a receipt, in every run whose steps meet the condition. -/
theorem cancelled_stays_cancelled {disk : Catalog} {events : List FenceEvent}
    (run : Run (Guarded (step env formats) (cancelsCleanly env)) (stopped disk) events t) :
    t.CancellationsHold := by
  have invariant : t.Cancels := by
    refine run.invariant (P := Cancels) ?_ (stopped_cancels disk)
    rintro before event _ held ⟨rfl, clean⟩
    have effect : before.Effect env formats event (before.step env formats event) :=
      step_effect held.same event
    exact ⟨effect.same held.same, effect.resultsHold held.results,
      effect.cancelled_fences held clean, effect.cancellationsHold held clean⟩
  exact invariant.holds

end RuntimeControl

end Cancellations

/-- A cancelled bootstrap refuses its nonce and every other one, after a restart too. -/
def sampleFenced : List FenceEvent :=
  [.open, .asks firstNonce, .authority .calm (.bootstrapCancel (sampleCancel firstNonce)),
    .asks secondNonce, .crash, .open, .asks firstNonce]

theorem cancelled_stays_cancelled_sample :
    (sample sampleFenced).history =
        [.bootstrapped (sampleBootstrap firstNonce).combination sampleReceipt,
          .cancelled "cancel" (sampleBootstrap firstNonce).combination, .acknowledged "cancel"] ∧
      (sample sampleFenced).CancellationsHold := by
  have clean : allows (step .sample .sample) (cancelsCleanly .sample)
      (.stopped sampleRoot) sampleFenced = true := by decide +kernel
  exact ⟨by decide +kernel, cancelled_stays_cancelled (Run.of_allows clean)⟩

/-- The answer to a second nonce of the combination is still on record after the cancellation. -/
def sampleRepeated : List FenceEvent :=
  [.open, .asks firstNonce, .asks secondNonce,
    .authority .calm (.bootstrapCancel (sampleCancel firstNonce)), .asks secondNonce]

theorem not_cancelled_stays_cancelled :
    ¬ ∀ (env : Platform) (formats : AuthorityFormats) (disk : Catalog) (events : List FenceEvent)
      (s : RuntimeControl),
      Run (fun before event after => after = before.step env formats event)
        (.stopped disk) events s →
        s.CancellationsHold := by
  intro claim
  have holds := claim .sample .sample sampleRoot sampleRepeated _ (Run.foldl _ _ _)
  have history : (sample sampleRepeated).history =
      [.bootstrapped (sampleBootstrap firstNonce).combination sampleReceipt,
        .bootstrapped (sampleBootstrap firstNonce).combination sampleReceipt,
        .cancelled "cancel" (sampleBootstrap firstNonce).combination, .acknowledged "cancel"] ++
      [.bootstrapped (sampleBootstrap firstNonce).combination sampleReceipt] := by decide +kernel
  exact holds _ _ _ history "cancel" (by simp) (by simp)

/-! ## Revocations -/

/-- No receipt is for a credential whose replacement or revocation has been acknowledged. -/
def keepsRevoked (earlier : List FenceEntry) : FenceEntry → Prop
  | .bootstrapped _ receipt | .receipted receipt =>
    ∀ key, .replaced key receipt.provider receipt.credentialRefSha256 receipt.generation ∈ earlier →
      .acknowledged key ∉ earlier
  | _ => True

def RuntimeControl.RevocationsHold (s : RuntimeControl) : Prop :=
  Justified keepsRevoked s.history

/-- The enrollment is active, of the generation a receipt shows. -/
def AuthorityPart.Enrolled (part : AuthorityPart) (receipt : RuntimeEnrollmentReceipt) : Prop :=
  ∃ record, part.auth.lookup receipt.provider = some record ∧ record.status = .active ∧
    record.generation = receipt.generation

/-- The enrollment has gone past a generation, or stopped at it. -/
def AuthorityPart.Superseded (part : AuthorityPart) (provider : String) (generation : Nat) : Prop :=
  ∃ record, part.auth.lookup provider = some record ∧
    (generation < record.generation ∨ (record.generation = generation ∧ record.status ≠ .active))

/-- A bootstrap is repeated only while the enrollment its recorded receipt shows is
current, and a helper is not invoked at the last generation. -/
def RuntimeControl.repeatsCurrent (env : Platform) (s : RuntimeControl) : FenceEvent → Bool
  | .authority _ (.helperInvoke _ provider ..) =>
    (s.store.live.auth.lookup provider).all fun record => record.generation < 2 ^ 64 - 1
  | .bootstrap _ _ request =>
    match (s.store.live.mutations.lookup
      (env.sha256 (bootstrapKey request.requestNonceSha256))).bind (·.result) with
    | some ⟨_, .runtimeBootstrap response⟩ =>
      (s.store.live.auth.lookup response.receipt.provider).any fun record =>
        record.status = .active ∧ record.generation = response.receipt.generation
    | _ => true
  | _ => true

section Revocations
variable {env : Platform} {formats : AuthorityFormats} {s t : RuntimeControl}
  {part : AuthorityPart} {provider : String} {generation : Nat}

theorem AuthorityPart.Superseded.not_enrolled {receipt : RuntimeEnrollmentReceipt}
    (superseded : part.Superseded receipt.provider receipt.generation) :
    ¬ part.Enrolled receipt := by
  rintro ⟨record, enrolled, active, current⟩
  obtain ⟨other, same, past | ⟨_, stopped⟩⟩ := superseded
  · obtain rfl := Option.mem_unique enrolled same
    omega
  · obtain rfl := Option.mem_unique enrolled same
    exact stopped active

/-- Storing an enrollment keeps what is superseded when it does not go back. -/
theorem AuthorityPart.Superseded.insert {after : AuthorityPart} {record : AuthRecord}
    (superseded : part.Superseded provider generation)
    (stored : after.auth = part.auth.insert changed record)
    (forward : ∀ old, part.auth.lookup changed = some old →
      old.generation < record.generation ∨
        (record.generation = old.generation ∧ record.status ≠ .active)) :
    after.Superseded provider generation := by
  obtain ⟨old, enrolled, past⟩ := superseded
  by_cases here : provider = changed
  · subst here
    refine ⟨record, by rw [stored, lookup_insert], ?_⟩
    rcases forward old enrolled with later | ⟨same, stopped⟩
    · left
      omega
    · by_cases reached : record.generation = generation
      · exact .inr ⟨reached, stopped⟩
      · left
        omega
  · exact ⟨old, by rw [stored, lookup_insert_ne here, enrolled], past⟩

/-- Where the operation stores an enrollment, the generation moves on or the status drops. -/
def AuthorityCall.Forward (call : AuthorityCall) (catalog built : Catalog) : Prop :=
  (built.auth = catalog.auth ∧
    ∀ key provider locator generation,
      .replaced key provider locator generation ∉ (call.takes catalog).toList) ∨
  ∃ changed record, built.auth = catalog.auth.insert changed record ∧
    (∀ old, catalog.auth.lookup changed = some old → old.generation < record.generation ∨
      (record.generation = old.generation ∧ record.status ≠ .active)) ∧
    ∀ key provider locator generation,
      .replaced key provider locator generation ∈ (call.takes catalog).toList →
      provider = changed ∧ ∃ old, catalog.auth.lookup changed = some old ∧
        generation = old.generation

theorem AuthorityCall.build_forward (current : s.repeatsCurrent env (.authority moment call) = true)
    (h : call.build env s.store.live = .ok (result, built)) : call.Forward s.store.live built := by
  cases call with
  | enroll provider =>
    rcases enrollBuild_ok h with rfl | ⟨unknown, record, rfl⟩
    · exact .inl ⟨rfl, by simp [takes]⟩
    · refine .inr ⟨provider, record, rfl, fun old enrolled => ?_, by simp [takes]⟩
      rw [unknown] at enrolled
      cases enrolled
  | helperInvoke helper provider profile =>
    obtain ⟨record, rfl, next⟩ := helperBuild_ok h
    refine .inr ⟨provider, record, rfl, fun old enrolled => ?_, ?_⟩
    · have below : old.generation < 2 ^ 64 - 1 := by
        simpa [repeatsCurrent, enrolled] using current
      rw [next old enrolled, saturatingAdd]
      left
      omega
    · simp only [takes, Option.mem_toList, Option.map_eq_some_iff, FenceEntry.replaced.injEq]
      rintro _ _ _ _ ⟨old, enrolled, _, rfl, _, rfl⟩
      exact ⟨rfl, old, enrolled, rfl⟩
  | rotate provider =>
    obtain ⟨old, record, enrolled, rfl, next⟩ := rotateBuild_ok h
    refine .inr ⟨provider, record, rfl, fun other same => ?_, ?_⟩
    · obtain rfl := Option.mem_unique enrolled same
      left
      omega
    · simp only [takes, Option.mem_toList, Option.map_eq_some_iff, FenceEntry.replaced.injEq]
      rintro _ _ _ _ ⟨old, enrolled, _, rfl, _, rfl⟩
      exact ⟨rfl, old, enrolled, rfl⟩
  | revoke provider =>
    obtain ⟨old, enrolled, rfl⟩ := revokeBuild_ok h
    refine .inr ⟨provider, _, rfl, fun other same => ?_, ?_⟩
    · obtain rfl := Option.mem_unique enrolled same
      exact .inr ⟨rfl, nofun⟩
    · simp only [takes, Option.mem_toList, Option.map_eq_some_iff, FenceEntry.replaced.injEq]
      rintro _ _ _ _ ⟨old, enrolled, _, rfl, _, rfl⟩
      exact ⟨rfl, old, enrolled, rfl⟩
  | bootstrapCancel request =>
    obtain ⟨_, _, _, kept, _⟩ := cancelBuild_ok h
    exact .inl ⟨kept, by simp [takes]⟩

namespace RuntimeControl

/-- The invariant: every credential that was replaced or revoked is superseded. -/
structure Revokes (s : RuntimeControl) : Prop where
  same : s.store.disk.authorityPart = s.store.live.authorityPart
  superseded : ∀ key provider locator generation,
    .replaced key provider locator generation ∈ s.history →
    s.store.live.authorityPart.Superseded provider generation
  holds : s.RevocationsHold

theorem Effect.replaced_superseded (before : s.Revokes)
    (current : s.repeatsCurrent env event = true) (effect : s.Effect env formats event t)
    (key provider locator : String) (generation : Nat)
    (mem : .replaced key provider locator generation ∈ t.history) :
    t.store.live.authorityPart.Superseded provider generation := by
  have old := before.superseded key provider locator generation
  cases effect with
  | quiet silent history live =>
    rw [history, mem_append] at mem
    rw [live]
    exact old (mem.resolve_right (silent.not_mem nofun))
  | @served moment call _ added result built silent build valid store history =>
    rw [history, mem_append, mem_append] at mem
    replace mem := mem.resolve_right (silent.not_mem nofun)
    rw [store]
    rcases AuthorityCall.build_forward current build with ⟨kept, untaken⟩ |
      ⟨changed, record, stored, forward, taken⟩
    · obtain ⟨held, enrolled, past⟩ := old (mem.resolve_right (untaken _ _ _ _))
      exact ⟨held, (congrArg _ kept).trans enrolled, past⟩
    · rcases mem with earlier | now
      · exact (old earlier).insert stored forward
      · obtain ⟨rfl, replaced, enrolled, rfl⟩ := taken _ _ _ _ now
        have found : built.auth.lookup provider = some record := by
          rw [stored, lookup_insert]
        exact ⟨record, found, forward replaced enrolled⟩
  | replayed | receipted =>
    rw [mem_append, mem_singleton] at mem
    exact old (mem.resolve_right nofun)
  | @bootstrapped _ _ request _ added response built build _ live _ answer history =>
    rw [history] at mem
    obtain ⟨_, _, _, _, _, _, _, rfl⟩ := bootstrapBuild_ok build
    rw [live]
    exact old (mem_of_answer answer nofun mem)

theorem Effect.revocationsHold (before : s.Revokes) (current : s.repeatsCurrent env event = true)
    (effect : s.Effect env formats event t) : t.RevocationsHold := by
  unfold RevocationsHold
  -- a receipt for a current enrollment is not for a superseded one
  have fresh : ∀ {receipt : RuntimeEnrollmentReceipt} {key locator : String},
      s.store.live.authorityPart.Enrolled receipt →
      .replaced key receipt.provider locator receipt.generation ∉ s.history :=
    fun enrolled replaced => (before.superseded _ _ _ _ replaced).not_enrolled enrolled
  cases effect with
  | quiet silent history =>
    rw [history]
    exact before.holds.append (silent.each fun _ _ => trivial)
  | served silent _ _ _ history =>
    rw [history]
    exact (before.holds.append (AuthorityCall.forall_takes (fun _ _ _ => trivial)
      fun _ _ _ _ _ => trivial)).append (silent.each fun _ _ => trivial)
  | @replayed moment nowMs request record result response running known own recorded answer =>
    refine before.holds.snoc fun key replaced _ => fresh ?_ replaced
    obtain ⟨digest, shown⟩ := result
    obtain rfl : shown = .runtimeBootstrap response := answer
    simp only [repeatsCurrent, known, Option.bind_some, recorded, Option.any_eq_true,
      decide_eq_true_eq] at current
    exact current
  | @bootstrapped _ _ request _ added response built build _ _ _ answer history =>
    rw [history]
    rcases answer with rfl | rfl
    · rw [append_nil]
      exact before.holds
    · refine before.holds.snoc fun key replaced _ => fresh ?_ replaced
      obtain ⟨auth, _, shown, enrolled, active, generation, _⟩ := bootstrapBuild_ok build
      cases shown
      exact ⟨auth, enrolled, active, generation⟩
  | receipted issued =>
    exact before.holds.snoc fun key replaced _ => fresh (runtimeReceipt_ok issued) replaced

theorem stopped_revokes (disk : Catalog) : (stopped disk).Revokes where
  same := rfl
  superseded _ _ _ _ mem := nomatch mem
  holds := Justified.nil _

/-- Once a rotation, a helper call or a revocation has been acknowledged, no receipt is
returned for the credential it took away, in every run whose steps meet the condition. -/
theorem revocation_fences_receipts {disk : Catalog} {events : List FenceEvent}
    (run : Run (Guarded (step env formats) (repeatsCurrent env)) (stopped disk) events t) :
    t.RevocationsHold := by
  have invariant : t.Revokes := by
    refine run.invariant (P := Revokes) ?_ (stopped_revokes disk)
    rintro before event _ held ⟨rfl, current⟩
    have effect : before.Effect env formats event (before.step env formats event) :=
      step_effect held.same event
    exact ⟨effect.same held.same, effect.replaced_superseded held current,
      effect.revocationsHold held current⟩
  exact invariant.holds

end RuntimeControl

end Revocations

/-- After a rotation neither a receipt call nor a new bootstrap returns the old credential. -/
def sampleRotated : List FenceEvent :=
  [.open, .asks firstNonce, .receipt 1010 ⟨1, "alpha", 7, firstNonce⟩,
    .authority .calm (.rotate "alpha" sampleReceiptEnrollment.toolBundleSha256 "rotate"),
    .receipt 1010 ⟨1, "alpha", 7, firstNonce⟩, .asks secondNonce]

theorem revocation_fences_receipts_sample :
    (sample sampleRotated).history =
        [.bootstrapped (sampleBootstrap firstNonce).combination sampleReceipt,
          .receipted sampleReceipt,
          .replaced "rotate" "alpha" sampleReceipt.credentialRefSha256 7, .acknowledged "rotate"] ∧
      (sample sampleRotated).RevocationsHold := by
  have current : allows (step .sample .sample) (repeatsCurrent .sample)
      (.stopped sampleRoot) sampleRotated = true := by decide +kernel
  exact ⟨by decide +kernel, revocation_fences_receipts (Run.of_allows current)⟩

/-- A repeated bootstrap is answered with the receipt of a revoked enrollment. -/
def sampleRevoked : List FenceEvent :=
  [.open, .asks firstNonce, .authority .calm (.revoke "alpha" "revoke"), .asks firstNonce]

theorem not_revocation_fences_receipts :
    ¬ ∀ (env : Platform) (formats : AuthorityFormats) (disk : Catalog) (events : List FenceEvent)
      (s : RuntimeControl),
      Run (fun before event after => after = before.step env formats event)
        (.stopped disk) events s →
        s.RevocationsHold := by
  intro claim
  have holds := claim .sample .sample sampleRoot sampleRevoked _ (Run.foldl _ _ _)
  have history : (sample sampleRevoked).history =
      [.bootstrapped (sampleBootstrap firstNonce).combination sampleReceipt,
        .replaced "revoke" "alpha" sampleReceipt.credentialRefSha256 7, .acknowledged "revoke"] ++
      [.bootstrapped (sampleBootstrap firstNonce).combination sampleReceipt] := by decide +kernel
  exact holds _ _ _ history "revoke" (by simp [sampleReceipt]) (by simp)

end AgentSystemsBenchmark.Control
