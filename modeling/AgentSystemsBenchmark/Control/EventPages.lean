import AgentSystemsBenchmark.Control.Configuration

/-!
# Pages of the public event window

The runner keeps the latest public events and serves them in pages after a
cursor; a client checks each page against the call it made. Both sides are
modelled here. Revisions are 64-bit numbers; where the source adds with a check
or saturates, so does the model.
-/

namespace AgentSystemsBenchmark.Control

open Effects List

def maxControlFrameBytes : Nat := 1024 * 1024
def maxControlTimeoutMs : Nat := 5 * 60 * 1000
def maxPageItems : Nat := 256
def maxControlInFlight : Nat := 64

structure ControlLimits where
  maxFrameBytes : Nat
  maxTimeoutMs : Nat
  maxPageItems : Nat
  maxInFlight : Nat
  deriving DecidableEq

def ControlLimits.validate (limits : ControlLimits) : Except ProtocolError ControlLimits := do
  refuse (limits.maxFrameBytes = 0 ∨ limits.maxFrameBytes > maxControlFrameBytes)
    (.invalidLimit "max_frame_bytes")
  refuse (limits.maxTimeoutMs = 0 ∨ limits.maxTimeoutMs > maxControlTimeoutMs)
    (.invalidLimit "max_timeout_ms")
  refuse (limits.maxPageItems = 0 ∨ limits.maxPageItems > Control.maxPageItems)
    (.invalidLimit "max_page_items")
  refuse (limits.maxInFlight = 0 ∨ limits.maxInFlight > maxControlInFlight)
    (.invalidLimit "max_in_flight")
  pure limits

def ControlLimits.default : ControlLimits := ⟨256 * 1024, 30000, 100, 16⟩

structure PageParams where
  after : Option Nat
  limit : Nat
  deriving DecidableEq

structure Page (α : Type) where
  items : List α
  next : Option Nat
  hasMore : Bool
  deriving DecidableEq

def validatePage (page : PageParams) (limits : ControlLimits) : Except ProtocolError Unit :=
  if page.limit = 0 then .error .invalidPage
  else do
    let limits ← limits.validate
    refuse (page.limit > limits.maxPageItems) .invalidPage

def checkedSucc (revision : Nat) : Option Nat :=
  if revision < u64Max then some (revision + 1) else none

def saturatingSucc (revision : Nat) : Nat := min (revision + 1) u64Max

/-! ## The window -/

inductive CursorError where
  | invalidCapacity | invalidPage | revisionOverflow
  | nonContiguous (expected actual : Nat)
  | stale (oldest : Nat)
  | future
  deriving DecidableEq

structure EventWindow where
  maximum : Nat
  events : List ControlEvent
  deriving DecidableEq

open EventWindow

/-- An event may only carry the revision after the latest retained one. -/
def EventWindow.checkNext (window : EventWindow) (event : ControlEvent) : Except CursorError Unit :=
  match window.events.getLast? with
  | none => .ok ()
  | some previous =>
    match checkedSucc previous.revision with
    | none => .error .revisionOverflow
    | some expected =>
      refuse (event.revision ≠ expected) (.nonContiguous expected event.revision)

/-- Append the next durable event; a full window loses its oldest one. -/
def EventWindow.append (window : EventWindow) (event : ControlEvent) :
    Except CursorError EventWindow := do
  window.checkNext event
  let retained := if window.events.length = window.maximum then window.events.tail
      else window.events
  pure { window with events := retained ++ [event] }

def EventWindow.restore (maximum : Nat) (events : List ControlEvent) :
    Except CursorError EventWindow := do
  refuse (maximum = 0) .invalidCapacity
  events.foldlM append ⟨maximum, []⟩

/-- The records strictly after a cursor, or an error when history was lost. -/
def EventWindow.page (window : EventWindow) (after : Option Nat) (limit : Nat) :
    Except CursorError (Page ControlEvent) := do
  refuse (limit = 0) .invalidPage
  match window.events.head?, window.events.getLast? with
  | some oldest, some latest =>
    refuse (after.any (latest.revision < ·)) .future
    refuse (after.any fun cursor => (checkedSucc cursor).all (· < oldest.revision))
      (.stale oldest.revision)
    let start := after.elim oldest.revision saturatingSucc
    let items := (window.events.filter fun event => start ≤ event.revision).take limit
    let next := (items.getLast?.map (·.revision)).or after
    pure ⟨items, next, next.any (· < latest.revision)⟩
  | _, _ =>
    refuse (after.any (· ≠ 0)) .future
    pure ⟨[], after, false⟩

/-- The latest retained revision, or zero for an empty runner. -/
def EventWindow.latestRevision (window : EventWindow) : Nat :=
  (window.events.getLast?.map (·.revision)).getD 0

/-! ## The client's checks -/

/-- Walk the revisions of a page in order and return the last one. -/
def checkRevisions (contiguous : Bool) : Option Nat → List Nat → Except ProtocolError (Option Nat)
  | previous, [] => .ok previous
  | previous, revision :: rest => do
    refuse (previous.any fun value =>
      revision ≤ value || (contiguous && revision != saturatingSucc value)) .invalidResponse
    checkRevisions contiguous (some revision) rest

def validatePageResult (revisions : List Nat) (next : Option Nat) (hasMore contiguous : Bool) :
    Except ProtocolError Unit := do
  let last ← checkRevisions contiguous none revisions
  refuse (next ≠ last ∨ (last = none ∧ hasMore)) .invalidResponse

/-- The shape of one public event. -/
def validateEvent (event : ControlEvent) : Except ProtocolError Unit := do
  checkSome validateIdentity event.runId
  checkSome validateIdentity event.attemptId
  refuse (¬ event.associated) .invalidResponse

def validateEvents (result : Page ControlEvent) (limits : ControlLimits) :
    Except ProtocolError Unit := do
  let limits ← limits.validate
  refuse (result.items.length > limits.maxPageItems) .unsafePublicValue
  checkAll validateEvent result.items
  validatePageResult (result.items.map (·.revision)) result.next result.hasMore true

/-- The records answer the page that was asked for. -/
def pageMatches (revisions : List Nat) (page : PageParams) (contiguous : Bool) : Bool :=
  decide (revisions.length ≤ page.limit) &&
    revisions.all (fun revision => page.after.all (· < revision)) &&
    (!contiguous || revisions.head?.all fun first =>
      page.after.all fun after => (checkedSucc after).any (first = ·))

/-- What a client checks of the answer to an `Events` call. -/
def validateEventsForCall (result : Page ControlEvent) (call : PageParams)
    (limits : ControlLimits) :
    Except ProtocolError Unit := do
  validateEvents result limits
  refuse (¬ pageMatches (result.items.map (·.revision)) call true) .invalidResponse

/-! ## Windows that can be reached -/

/-- A restored window, or one that has taken further events. -/
inductive EventWindow.Reached : EventWindow → Prop where
  | restored {maximum} {events} {window}
      (h : restore maximum events = .ok window) : Reached window
  | appended {before window} {event} (reached : Reached before)
      (h : before.append event = .ok window) : Reached window

/-- The events that a window has taken since it was created, in order. -/
inductive EventWindow.Takes : List ControlEvent → EventWindow → Prop where
  | restored {maximum} {events} {window}
      (h : restore maximum events = .ok window) : Takes events window
  | appended {history} {before window} {event}
      (taken : Takes history before) (h : before.append event = .ok window) :
      Takes (history ++ [event]) window

theorem EventWindow.Reached.takes (reached : window.Reached) : ∃ history, Takes history window := by
  induction reached with
  | restored h => exact ⟨_, .restored h⟩
  | appended _ h ih => exact ⟨_, .appended ih.choose_spec h⟩

/-- Events numbered one by one from `first`, none of them beyond the range of a revision. -/
structure Numbered (first : Nat) (events : List ControlEvent) : Prop where
  revisions : events.map (·.revision) = List.range' first events.length
  bounded : events.length ≤ 1 ∨ first + events.length ≤ u64Max + 1

theorem Numbered.nil (first : Nat) : Numbered first [] := ⟨rfl, .inl (by decide)⟩

variable {first : Nat} {event : ControlEvent}

theorem Numbered.cons_iff :
    (event :: rest).map (·.revision) = List.range' first (event :: rest).length ↔
      event.revision = first ∧ rest.map (·.revision) = List.range' (first + 1) rest.length := by
  rw [map_cons, length_cons, List.range'_succ, List.cons.injEq]

theorem Numbered.tail (h : Numbered first (event :: rest)) : Numbered (first + 1) rest := by
  refine ⟨(cons_iff.mp h.revisions).2, ?_⟩
  have bounded := h.bounded
  rw [length_cons] at bounded
  omega

variable {events : List ControlEvent}

theorem Numbered.last (h : Numbered first events) (found : events.getLast? = some latest) :
    latest.revision + 1 = first + events.length := by
  have revision : (events.map (·.revision)).getLast? = some latest.revision := by
    rw [getLast?_map, found, Option.map_some]
  have nonempty : events.length ≠ 0 := by
    intro empty
    rw [length_eq_zero_iff.mp empty] at found
    cases found
  rw [h.revisions, getLast?_range', if_neg nonempty, Option.some.injEq] at revision
  omega

theorem Numbered.snoc (h : Numbered first events) (next : event.revision = first + events.length)
    (bounded : events = [] ∨ event.revision ≤ u64Max) : Numbered first (events ++ [event]) := by
  constructor
  · rw [map_append, h.revisions, length_append, length_singleton, List.range'_concat,
      map_singleton, next, Nat.one_mul]
  · rw [length_append, length_singleton]
    rcases bounded with rfl | bounded
    · exact .inl (by simp)
    · omega

variable {start : Nat}

/-- Everything from `start` on is what is left after dropping the events before it. -/
theorem Numbered.filter_ge (h : events.map (·.revision) = List.range' first events.length)
    (within : first ≤ start) :
    (events.filter fun event => start ≤ event.revision) = events.drop (start - first) := by
  induction events generalizing first with
  | nil => simp
  | cons event rest ih =>
    obtain ⟨revision, others⟩ := cons_iff.mp h
    by_cases first_one : first = start
    · -- Every revision counts: the first one is `start` and the others follow it.
      have all : ∀ e ∈ event :: rest, start ≤ e.revision := by
        intro e member
        have listed : e.revision ∈ (event :: rest).map (·.revision) := mem_map_of_mem member
        rw [h, mem_range'_1] at listed
        omega
      rw [filter_eq_self.mpr (by simpa using all), first_one, Nat.sub_self, drop_zero]
    · have skipped : ¬ start ≤ event.revision := by omega
      have step : start - first = (start - (first + 1)) + 1 := by omega
      rw [filter_cons_of_neg (by simpa using skipped), ih others (by omega), step,
        drop_succ_cons]

variable {window : EventWindow}

theorem EventWindow.follows_of_checkNext (h : window.checkNext event = .ok ())
    (last : window.events.getLast? = some previous) :
    event.revision = previous.revision + 1 ∧ event.revision ≤ u64Max := by
  simp only [checkNext, last] at h
  cases next : checkedSucc previous.revision with
  | none => rw [next] at h; cases h
  | some expected =>
    rw [next] at h
    have same := not_not.mp (refuse_eq_ok.mp h)
    rw [checkedSucc] at next
    split at next
    case isTrue room =>
      cases next
      exact ⟨same, by omega⟩
    case isFalse => cases next

theorem Numbered.drop (h : Numbered first events)
    (skip : Nat) : Numbered (first + skip) (events.drop skip) := by
  induction skip generalizing first events with
  | zero => simpa using h
  | succ skip ih =>
    cases events with
    | nil => exact .nil _
    | cons event rest =>
      have tail := ih h.tail
      rwa [Nat.add_assoc, Nat.add_comm 1 skip] at tail

/-- The window holds the events it has taken, but for the first `evicted` of them. -/
structure Retains (first evicted : Nat) (history : List ControlEvent) (window : EventWindow) :
    Prop where
  numbered : Numbered first history
  window : window.events = history.drop evicted
  retained : history = [] ∨ evicted < history.length

variable {history : List ControlEvent}

/-- An append extends the history, and a full window loses its oldest event. -/
theorem Retains.append {evicted : Nat} {after : EventWindow}
    (h : Retains first evicted history window) (appended : window.append event = .ok after) :
    ∃ first' evicted', Retains first' evicted' (history ++ [event]) after ∧
      (history ≠ [] → first' = first) := by
  obtain ⟨⟨⟩, checked, ended⟩ := bind_eq_ok.mp appended
  cases ended
  have longer : (history ++ [event]).length = history.length + 1 := by
    rw [length_append, length_singleton]
  rcases h.retained with rfl | retained
  · refine ⟨event.revision, 0, ⟨⟨rfl, .inl (by simp)⟩, ?_, .inr (by omega)⟩, absurd rfl⟩
    simp only [h.window, drop_nil, tail_nil, ite_self, drop_zero]
  · have windowNumbered := h.numbered.drop evicted
    rw [← h.window] at windowNumbered
    have size : window.events.length = history.length - evicted := by
      rw [h.window, length_drop]
    have inhabited : window.events ≠ [] := ne_nil_of_length_pos (by omega)
    obtain ⟨latest, last⟩ :=
      Option.ne_none_iff_exists'.mp (mt getLast?_eq_none_iff.mp inhabited)
    have counted := windowNumbered.last last
    obtain ⟨follows, bounded⟩ := follows_of_checkNext checked last
    have numbered : Numbered first (history ++ [event]) :=
      h.numbered.snoc (by omega) (.inr bounded)
    by_cases full : window.events.length = window.maximum
    · refine ⟨first, evicted + 1, ⟨numbered, ?_, .inr (by omega)⟩, fun _ => rfl⟩
      simp only [if_pos full]
      rw [h.window, tail_drop, drop_append_of_le_length retained]
    · refine ⟨first, evicted, ⟨numbered, ?_, .inr (by omega)⟩, fun _ => rfl⟩
      simp only [if_neg full]
      rw [h.window, drop_append_of_le_length retained.le]

theorem EventWindow.Takes.retains (taken : Takes history window) :
    ∃ first evicted, Retains first evicted history window := by
  induction taken with
  | restored h =>
    rename_i maximum events window
    obtain ⟨⟨⟩, -, folded⟩ := bind_eq_ok.mp h
    have general : ∀ (events history : List ControlEvent) (before : EventWindow),
        (∃ first evicted, Retains first evicted history before) →
        events.foldlM append before = .ok window →
        ∃ first evicted, Retains first evicted (history ++ events) window := by
      intro events
      induction events with
      | nil =>
        intro history before held ended
        rw [append_nil]
        exact Except.ok.inj ended ▸ held
      | cons event rest ih =>
        rintro history before ⟨first, evicted, held⟩ ended
        rw [foldlM_cons] at ended
        obtain ⟨next, appended, ended⟩ := bind_eq_ok.mp ended
        obtain ⟨first', evicted', kept, -⟩ := held.append appended
        rw [append_cons]
        exact ih _ next ⟨first', evicted', kept⟩ ended
    exact general events [] _ ⟨0, 0, .nil 0, rfl, .inl rfl⟩ folded
  | appended _ h ih =>
    obtain ⟨first, evicted, held⟩ := ih
    obtain ⟨first', evicted', kept, -⟩ := held.append h
    exact ⟨first', evicted', kept⟩

theorem EventWindow.Reached.numbered (reached : window.Reached) :
    ∃ first, Numbered first window.events := by
  obtain ⟨history, taken⟩ := reached.takes
  obtain ⟨first, evicted, held⟩ := taken.retains
  exact ⟨first + evicted, held.window ▸ held.numbered.drop evicted⟩

/-! ## What a client accepts -/

theorem checkRevisions_range' {previous : Option Nat} {count : Nat}
    (follows : ∀ value ∈ previous, start = value + 1)
    (bounded : (previous = none ∧ count ≤ 1) ∨ count = 0 ∨ start + count ≤ u64Max + 1) :
    checkRevisions true previous (List.range' start count) =
      .ok ((List.range' start count).getLast?.or previous) := by
  induction count generalizing previous start with
  | zero => simp [checkRevisions]
  | succ count ih =>
    have passes : ¬ (previous.any fun value =>
        start ≤ value || (true && start != saturatingSucc value)) = true := by
      cases previous with
      | none => simp
      | some value =>
        have next := follows value rfl
        simp only [reduceCtorEq, false_and, false_or, Nat.succ_ne_zero] at bounded
        simp only [Option.any_some, Bool.true_and, Bool.or_eq_true, decide_eq_true_eq, bne_iff_ne,
          saturatingSucc, not_or, not_not]
        omega
    rw [List.range'_succ, checkRevisions]
    have first : refuse (ι := ProtocolError) _ .invalidResponse = .ok () := refuse_eq_ok.mpr passes
    rw [first]
    have rest : checkRevisions true (some start) (List.range' (start + 1) count) =
        .ok ((List.range' (start + 1) count).getLast?.or (some start)) := by
      apply ih
      · intro value held
        rw [Option.mem_some_iff.mp held]
      · omega
    refine Eq.trans rest ?_
    rw [getLast?_cons]
    cases (List.range' (start + 1) count).getLast? <;> rfl

/-- A run of revisions that starts where the cursor ends and names its last record as the next
cursor passes the checks of a page. -/
theorem validatePageResult_range' {count : Nat} {hasMore : Bool}
    (bounded : count ≤ 1 ∨ start + count ≤ u64Max + 1) (ends : count = 0 → hasMore = false) :
    validatePageResult (List.range' start count) (List.range' start count).getLast? hasMore true =
      .ok () := by
  have walked : checkRevisions true none (List.range' start count) =
      .ok ((List.range' start count).getLast?.or none) :=
    checkRevisions_range' (fun _ h => absurd h (by simp)) (bounded.imp (fun few => ⟨rfl, few⟩) .inr)
  rw [Option.or_none] at walked
  rw [validatePageResult, walked]
  apply refuse_eq_ok.mpr
  rintro (different | ⟨none, more⟩)
  · exact different rfl
  · rw [getLast?_eq_none_iff, List.range'_eq_nil_iff] at none
    rw [ends none] at more
    cases more

theorem pageMatches_range' {count : Nat} {page : PageParams} (fits : count ≤ page.limit)
    (follows : ∀ after ∈ page.after, checkedSucc after = some start) :
    pageMatches (List.range' start count) page true = true := by
  cases held : page.after with
  | none => simp [pageMatches, held, fits]
  | some after =>
    have next := follows after held
    have below : after < start := by
      rw [checkedSucc] at next
      split at next
      · cases next; omega
      · cases next
    have later : ∀ revision ∈ List.range' start count, after < revision := by
      intro revision member
      rw [mem_range'_1] at member
      omega
    have firstOne : ∀ first ∈ (List.range' start count).head?, first = start := by
      intro first member
      rw [head?_range'] at member
      split at member
      · cases member
      · exact (Option.mem_some_iff.mp member).symm
    simp only [pageMatches, held, Option.all_some, next, Option.any_some, Bool.and_eq_true,
      length_range', decide_eq_true_eq, all_eq_true, Bool.not_true, Bool.false_or]
    refine ⟨⟨fits, later⟩, ?_⟩
    cases head : (List.range' start count).head? with
    | none => rfl
    | some first => simpa using firstOne first head

/-- What a served page holds when the cursor is absent or an event after it is retained. -/
structure Served (window : EventWindow) (call : PageParams) (page : Page ControlEvent) : Prop where
  within : ∀ event ∈ page.items, event ∈ window.events
  next : page.next = (page.items.map (·.revision)).getLast?
  ends : page.items = [] → page.hasMore = false
  numbered : ∃ start, (∀ after ∈ call.after, checkedSucc after = some start) ∧
    Numbered start page.items
  fits : page.items.length ≤ call.limit

/-- The cursor is absent or some retained event is newer. -/
def EventWindow.reachesPast (window : EventWindow) (after : Option Nat) : Bool :=
  after.all (· < window.latestRevision)

theorem Numbered.take (h : Numbered first events)
    (count : Nat) : Numbered first (events.take count) := by
  constructor
  · have revisions := h.revisions
    clear h
    induction count generalizing first events with
    | zero => rfl
    | succ count ih =>
      cases events with
      | nil => rfl
      | cons event rest =>
        obtain ⟨revision, others⟩ := cons_iff.mp revisions
        exact cons_iff.mpr ⟨revision, ih others⟩
  · have bounded := h.bounded
    rw [length_take]
    omega

/-- The cursor stands before the event at this place of the window. -/
def CursorAt (first : Nat) (after : Option Nat) (place : Nat) : Prop :=
  after = none ∧ place = 0 ∨ ∃ r, after = some r ∧ r + 1 = first + place ∧ r < u64Max

section Pages
variable {place limit : Nat} {after : Option Nat}

theorem Numbered.head (numbered : Numbered first events) (found : events.head? = some oldest) :
    oldest.revision = first := by
  obtain ⟨rest, rfl⟩ := head?_eq_some_iff.mp found
  exact (Numbered.cons_iff.mp numbered.revisions).1

theorem Numbered.revision_bounds (numbered : Numbered first events) (mem : event ∈ events) :
    first ≤ event.revision ∧ event.revision < first + events.length := by
  have listed : event.revision ∈ events.map (·.revision) := mem_map_of_mem mem
  rwa [numbered.revisions, mem_range'_1] at listed

/-- The ends of a window that holds an event. -/
theorem Numbered.ends (numbered : Numbered first events) (inhabited : 0 < events.length) :
    ∃ oldest latest, events.head? = some oldest ∧
      events.getLast? = some latest ∧ oldest.revision = first ∧
      latest.revision + 1 = first + events.length := by
  have nonempty : events ≠ [] := ne_nil_of_length_pos inhabited
  obtain ⟨oldest, head⟩ := Option.ne_none_iff_exists'.mp (mt head?_eq_none_iff.mp nonempty)
  obtain ⟨latest, last⟩ := Option.ne_none_iff_exists'.mp (mt getLast?_eq_none_iff.mp nonempty)
  exact ⟨oldest, latest, head, last, numbered.head head, numbered.last last⟩

section
variable (numbered : Numbered first window.events)
include numbered

/-- A page from a place inside the window: the events from there, as many as were asked for. -/
theorem EventWindow.page_at (inside : place < window.events.length) (positive : limit ≠ 0)
    (placed : CursorAt first after place) :
    window.page after limit = .ok ⟨(window.events.drop place).take limit,
      some (first + min (place + limit) window.events.length - 1),
      decide (place + limit < window.events.length)⟩ := by
  obtain ⟨oldest, latest, head, last, front, back⟩ := numbered.ends (by omega)
  have served : (window.events.filter fun event =>
      after.elim oldest.revision saturatingSucc ≤ event.revision) = window.events.drop place := by
    rcases placed with ⟨rfl, rfl⟩ | ⟨r, rfl, next, room⟩
    · rw [Option.elim_none, Numbered.filter_ge numbered.revisions front.ge, front, Nat.sub_self]
    · have start : saturatingSucc r = first + place := by
        rw [saturatingSucc, next]
        omega
      rw [Option.elim_some, start, Numbered.filter_ge numbered.revisions (Nat.le_add_right ..),
        Nat.add_sub_cancel_left]
  have current : ¬ after.any (latest.revision < ·) = true := by
    rcases placed with ⟨rfl, rfl⟩ | ⟨r, rfl, next, room⟩
    · exact Bool.false_ne_true
    · rw [Option.any_some, decide_eq_true_iff]
      omega
  have kept : ¬ (after.any fun cursor =>
      (checkedSucc cursor).all (· < oldest.revision)) = true := by
    rcases placed with ⟨rfl, rfl⟩ | ⟨r, rfl, next, room⟩
    · exact Bool.false_ne_true
    · rw [Option.any_some, checkedSucc, if_pos room, Option.all_some, decide_eq_true_iff]
      omega
  have items := ((numbered.drop place).take limit)
  have size : ((window.events.drop place).take limit).length =
      min limit (window.events.length - place) := by
    rw [length_take, length_drop]
  obtain ⟨-, final, -, found, -, revision⟩ := items.ends (by omega)
  rw [page, seq_eq_ok]
  refine ⟨refuse_eq_ok.mpr positive, ?_⟩
  simp only [head, last]
  rw [seq_eq_ok, seq_eq_ok]
  refine ⟨refuse_eq_ok.mpr current, refuse_eq_ok.mpr kept, pure_eq_ok.mpr ?_⟩
  rw [served, found]
  have next : final.revision = first + min (place + limit) window.events.length - 1 := by omega
  simp only [Option.map_some, Option.some_or, Option.any_some, next]
  congr 1
  rw [decide_eq_decide]
  omega

/-- A cursor whose next event was evicted is stale, and so is one that has no next revision. -/
theorem EventWindow.page_stale (inhabited : 0 < window.events.length) (positive : limit ≠ 0)
    (lost : r + 1 < first ∨ u64Max ≤ r ∧ r < first + window.events.length) :
    window.page (some r) limit = .error (.stale first) := by
  obtain ⟨oldest, latest, head, last, front, back⟩ := numbered.ends inhabited
  have passes : ¬ (some r).any (latest.revision < ·) = true := by
    rw [Option.any_some, decide_eq_true_iff]
    omega
  have old : ((some r).any fun cursor =>
      (checkedSucc cursor).all (· < oldest.revision)) = true := by
    rw [Option.any_some, checkedSucc]
    split
    · rw [Option.all_some, decide_eq_true_iff]
      omega
    · rfl
  rw [page, bind_eq_error]
  refine .inr ⟨⟨⟩, refuse_eq_ok.mpr positive, ?_⟩
  simp only [head, last]
  refine bind_eq_error.mpr (.inr ⟨⟨⟩, refuse_eq_ok.mpr passes, ?_⟩)
  exact bind_eq_error.mpr (.inl (refuse_eq_error.mpr ⟨old, by rw [front]⟩))

/-- A cursor that a window with events serves is absent, or stands before one of its events or
behind them all. -/
theorem EventWindow.accepted_cursor {page : Page ControlEvent}
    (inhabited : 0 < window.events.length) (accepted : window.page after limit = .ok page) :
    limit ≠ 0 ∧ ∃ begun, CursorAt first after begun ∧ (begun < window.events.length ∨
      begun = window.events.length ∧ page = ⟨[], after, false⟩) := by
  obtain ⟨oldest, latest, head, last, front, back⟩ := numbered.ends inhabited
  rw [EventWindow.page, seq_eq_ok] at accepted
  obtain ⟨positive, accepted⟩ := accepted
  simp only [head, last] at accepted
  obtain ⟨current, accepted⟩ := seq_eq_ok.mp accepted
  obtain ⟨kept, accepted⟩ := seq_eq_ok.mp accepted
  rw [refuse_eq_ok] at positive current kept
  refine ⟨positive, ?_⟩
  cases after with
  | none => exact ⟨0, .inl ⟨rfl, rfl⟩, .inl inhabited⟩
  | some r =>
    rw [Option.any_some, decide_eq_true_iff] at current
    rw [Option.any_some, checkedSucc] at kept
    have room : r < u64Max := by
      by_contra full
      rw [if_neg full] at kept
      exact kept rfl
    rw [if_pos room, Option.all_some, decide_eq_true_iff] at kept
    refine ⟨r + 1 - first, .inr ⟨r, rfl, by omega, room⟩, ?_⟩
    rcases Nat.lt_or_ge (r + 1 - first) window.events.length with inside | past
    · exact .inl inside
    · have start : saturatingSucc r = r + 1 := by
        rw [saturatingSucc]
        omega
      have none : (window.events.filter fun event => saturatingSucc r ≤ event.revision) = [] := by
        rw [start, Numbered.filter_ge numbered.revisions (by omega)]
        exact drop_eq_nil_of_le past
      cases accepted
      refine .inr ⟨by omega, ?_⟩
      have ends : decide (r < latest.revision) = false := decide_eq_false (by omega)
      rw [Option.elim_some, none, take_nil]
      exact congrArg (Page.mk [] (some r)) ends

end

end Pages

/-- With a newer event retained, a page is a run of the window that starts right after the
cursor. -/
theorem EventWindow.page_served (reached : window.Reached) {call : PageParams}
    {page : Page ControlEvent} (served : window.page call.after call.limit = .ok page)
    (past : window.reachesPast call.after = true) : Served window call page := by
  obtain ⟨first, numbered⟩ := reached.numbered
  rcases Nat.eq_zero_or_pos window.events.length with empty | inhabited
  · have held := length_eq_zero_iff.mp empty
    have absent : call.after = none := by
      cases after : call.after with
      | none => rfl
      | some cursor => simp [reachesPast, latestRevision, held, after] at past
    rw [EventWindow.page, seq_eq_ok] at served
    simp only [held, absent, head?_nil, getLast?_nil] at served
    obtain rfl := pure_eq_ok.mp (seq_eq_ok.mp served.2).2
    exact ⟨by rintro _ ⟨⟩, rfl, fun _ => rfl, ⟨0, by simp [absent], .nil 0⟩, Nat.zero_le _⟩
  · obtain ⟨oldest, latest, -, last, -, back⟩ := numbered.ends inhabited
    obtain ⟨positive, begun, began, places⟩ := accepted_cursor numbered inhabited served
    have inside : begun < window.events.length := by
      rcases began with ⟨-, rfl⟩ | ⟨r, after, next, -⟩
      · exact inhabited
      · have newer : r < latest.revision := by
          simpa [reachesPast, latestRevision, last, after] using past
        omega
    rw [page_at numbered inside positive began] at served
    cases served
    have listed : Numbered (first + begun) ((window.events.drop begun).take call.limit) :=
      (numbered.drop begun).take call.limit
    have size : ((window.events.drop begun).take call.limit).length =
        min call.limit (window.events.length - begun) := by
      rw [length_take, length_drop]
    obtain ⟨-, final, -, found, -, revision⟩ := listed.ends (by omega)
    constructor
    · intro event member
      exact mem_of_mem_drop (mem_of_mem_take member)
    · have latest : first + min (begun + call.limit) window.events.length - 1 =
          final.revision := by omega
      rw [getLast?_map, found, Option.map_some, latest]
    · intro empty
      have none := congrArg List.length empty
      rw [size, length_nil] at none
      omega
    · refine ⟨first + begun, fun after member => ?_, listed⟩
      rcases began with ⟨absent, -⟩ | ⟨r, present, next, room⟩
      · rw [absent] at member
        cases member
      · rw [present] at member
        rw [← Option.mem_some_iff.mp member, checkedSucc, if_pos room, next]
    · exact length_take_le ..

theorem EventWindow.page_empty (cursor : Nat) (empty : window.events = []) (positive : limit ≠ 0) :
    window.page (some cursor) limit =
      if cursor = 0 then .ok ⟨[], some cursor, false⟩ else .error .future := by
  rw [page, empty]
  by_cases zero : cursor = 0 <;> simp [refuse, positive, zero] <;> rfl

/-- A cursor that no retained event is newer than gets no records and itself as the next cursor. -/
theorem EventWindow.page_caught_up (reached : window.Reached) {page : Page ControlEvent}
    (served : window.page (some cursor) limit = .ok page) (late : window.latestRevision ≤ cursor) :
    page = ⟨[], some cursor, false⟩ := by
  obtain ⟨first, numbered⟩ := reached.numbered
  rcases Nat.eq_zero_or_pos window.events.length with empty | inhabited
  · have positive : limit ≠ 0 := refuse_eq_ok.mp (seq_eq_ok.mp served).1
    rw [page_empty _ (length_eq_zero_iff.mp empty) positive] at served
    split at served
    · exact (Except.ok.inj served).symm
    · cases served
  · obtain ⟨oldest, latest, -, last, -, back⟩ := numbered.ends inhabited
    rw [latestRevision, last, Option.map_some, Option.getD_some] at late
    obtain ⟨-, begun, ⟨⟨⟩, -⟩ | ⟨r, ⟨⟩, next, -⟩, inside | ⟨-, page⟩⟩ :=
      accepted_cursor numbered inhabited served
    · omega
    · exact page

/-- A client accepts a page of the window exactly when it sent no cursor or an event after its
cursor is retained, for events of the public shape and a page size the limits allow. -/
theorem page_validates {window : EventWindow} (reached : window.Reached) {call : PageParams}
    {limits : ControlLimits} {page : Page ControlEvent}
    (served : window.page call.after call.limit = .ok page)
    (requested : validatePage call limits = .ok ())
    (shaped : ∀ event ∈ window.events, validateEvent event = .ok ()) :
    validateEventsForCall page call limits = .ok () ↔ window.reachesPast call.after = true := by
  rw [validatePage] at requested
  split at requested
  case isTrue => cases requested
  case isFalse =>
  obtain ⟨checked, valid, allowed⟩ := bind_eq_ok.mp requested
  have allowed := refuse_eq_ok.mp allowed
  constructor
  · intro accepted
    cases cursor : call.after with
    | none => rfl
    | some r =>
      rw [cursor] at served
      rw [reachesPast, Option.all_some, decide_eq_true_iff]
      by_contra late
      cases page_caught_up reached served (Nat.le_of_not_lt late)
      -- no record, so the client expects no cursor
      obtain ⟨⟨⟩, events, -⟩ := bind_eq_ok.mp accepted
      obtain ⟨_, _, events⟩ := bind_eq_ok.mp events
      obtain ⟨⟨⟩, -, pages⟩ := bind_eq_ok.mp (guard_eq_ok.mp events).2
      obtain ⟨last, walked, matched⟩ := bind_eq_ok.mp pages
      cases walked
      exact refuse_eq_ok.mp matched (.inl (Option.some_ne_none _))
  · intro past
    have result := page_served reached served past
    obtain ⟨start, follows, numbered⟩ := result.numbered
    have events : validateEvents page limits = .ok () := by
      refine bind_eq_ok.mpr ⟨checked, valid, guard_eq_ok.mpr ⟨?_, ?_⟩⟩
      · have fits := result.fits
        omega
      · refine bind_eq_ok.mpr ⟨(), checkAll_eq_ok.mpr fun event member => ?_, ?_⟩
        · exact shaped event (result.within event member)
        · rw [result.next, numbered.revisions]
          exact validatePageResult_range' numbered.bounded fun none =>
            result.ends (length_eq_zero_iff.mp none)
    refine bind_eq_ok.mpr ⟨(), events, refuse_eq_ok.mpr (not_not.mpr ?_)⟩
    rw [numbered.revisions]
    exact pageMatches_range' result.fits follows

/-! ## Resuming from a cursor -/

/-- The window took an event of this revision and holds it no more. -/
def EventWindow.Evicted (window : EventWindow) (history : List ControlEvent) (revision : Nat) :
    Prop :=
  ∃ event ∈ history, event.revision = revision ∧ event ∉ window.events

/-- A cursor is refused as stale only when a later event was evicted and as ahead only when it is,
and is served otherwise. A reader who has seen the latest event gets an empty page. -/
structure EventWindow.Resumes (window : EventWindow) (history : List ControlEvent)
    (cursor limit : Nat) : Prop where
  stale : ∀ oldest, window.page (some cursor) limit = .error (.stale oldest) →
    ∃ revision, cursor < revision ∧ window.Evicted history revision
  future : window.page (some cursor) limit = .error .future → window.latestRevision < cursor
  served : cursor ≤ window.latestRevision →
    (¬ ∃ revision, cursor < revision ∧ window.Evicted history revision) →
    ∃ page, window.page (some cursor) limit = .ok page
  caughtUp : cursor = window.latestRevision →
    window.page (some cursor) limit = .ok ⟨[], some cursor, false⟩

/-- The cursor has a successor or is ahead, and where nothing was evicted yet it does not fall
before the first event. -/
structure EventWindow.Resumable (window : EventWindow) (history : List ControlEvent)
    (cursor : Nat) : Prop where
  room : cursor < u64Max ∨ window.latestRevision < cursor
  begun : window.events = history → ∀ oldest ∈ history.head?, oldest.revision ≤ cursor + 1

theorem Numbered.holds (numbered : Numbered first events) (low : first ≤ revision)
    (high : revision < first + events.length) : ∃ event ∈ events, event.revision = revision := by
  have listed : revision ∈ events.map (·.revision) := by
    rw [numbered.revisions, mem_range'_1]
    exact ⟨low, high⟩
  exact mem_map.mp listed

/-- The last event that a window with events has lost. -/
theorem Retains.evicts (held : Retains first (evicted + 1) history window)
    (inhabited : 0 < window.events.length) : window.Evicted history (first + evicted) := by
  have size : window.events.length = history.length - (evicted + 1) := by
    rw [held.window, length_drop]
  obtain ⟨event, member, same⟩ := held.numbered.holds (Nat.le_add_right first evicted) (by omega)
  refine ⟨event, member, same, fun kept => ?_⟩
  rw [held.window] at kept
  have bounds := (held.numbered.drop (evicted + 1)).revision_bounds kept
  omega

/-- What was evicted had an event after it, so it is within the range of a revision. -/
theorem Retains.evicted_bound (held : Retains first evicted history window)
    (gone : window.Evicted history revision) : window.events ≠ history ∧ revision ≤ u64Max := by
  obtain ⟨event, member, rfl, gone⟩ := gone
  have other : window.events ≠ history := fun same => gone (same ▸ member)
  have some_gone : evicted ≠ 0 := by
    rintro rfl
    exact other held.window
  have retained := held.retained.resolve_left (ne_nil_of_mem member)
  have bounds := held.numbered.revision_bounds member
  have bounded := held.numbered.bounded
  exact ⟨other, by omega⟩

/-- The two ways in which a window with events refuses a cursor. -/
theorem EventWindow.page_refused (numbered : Numbered first window.events)
    (inhabited : 0 < window.events.length) (positive : limit ≠ 0)
    (refused : window.page (some cursor) limit = .error error) :
    error = .future ∧ window.latestRevision < cursor ∨
      error = .stale first ∧ cursor ≤ window.latestRevision ∧
        (cursor + 1 < first ∨ u64Max ≤ cursor) := by
  obtain ⟨oldest, latest, head, last, front, back⟩ := numbered.ends inhabited
  have final : window.latestRevision = latest.revision := by rw [latestRevision, last]; rfl
  rw [page] at refused
  simp only [head, last] at refused
  rcases bind_eq_error.mp refused with zero | ⟨⟨⟩, -, refused⟩
  · exact absurd (refuse_eq_error.mp zero).1 positive
  rcases bind_eq_error.mp refused with refusal | ⟨⟨⟩, current, refused⟩
  · obtain ⟨ahead, rfl⟩ := refuse_eq_error.mp refusal
    rw [Option.any_some, decide_eq_true_iff] at ahead
    exact .inl ⟨rfl, final ▸ ahead⟩
  rcases bind_eq_error.mp refused with refusal | ⟨⟨⟩, -, served⟩
  · obtain ⟨behind, rfl⟩ := refuse_eq_error.mp refusal
    rw [refuse_eq_ok, Option.any_some, decide_eq_true_iff] at current
    rw [Option.any_some, checkedSucc] at behind
    refine .inr ⟨by rw [front], by omega, ?_⟩
    split at behind
    · rw [Option.all_some, decide_eq_true_iff, front] at behind
      exact .inl behind
    · exact .inr (by omega)
  · cases served

/-- A cursor below the greatest revision, or one ahead of the window, is classified exactly, unless
nothing was evicted and the window was restored from a later point: and no other cursor is. -/
theorem resume_refused_only_when_lost {history : List ControlEvent} {window : EventWindow}
    (taken : window.Takes history) {cursor limit : Nat} (positive : limit ≠ 0) :
    window.Resumes history cursor limit ↔ window.Resumable history cursor := by
  obtain ⟨first, evicted, held⟩ := taken.retains
  rcases Nat.eq_zero_or_pos window.events.length with empty | inhabited
  · have none := length_eq_zero_iff.mp empty
    have latest : window.latestRevision = 0 := by rw [latestRevision, none]; rfl
    refine iff_of_true ?_ ⟨by rw [latest]; unfold u64Max; omega, ?_⟩
    · have answer := page_empty cursor none positive
      by_cases zero : cursor = 0
      · rw [if_pos zero] at answer
        constructor <;> simp [answer]
      · rw [if_neg zero] at answer
        constructor <;> simp [answer, latest, zero, Nat.pos_of_ne_zero zero]
    · rintro rfl oldest member
      rw [none] at member
      cases member
  have numbered : Numbered (first + evicted) window.events :=
    held.window ▸ held.numbered.drop evicted
  obtain ⟨oldest, latest, head, last, front, back⟩ := numbered.ends inhabited
  have final : window.latestRevision = latest.revision := by
    rw [latestRevision, last]
    rfl
  constructor
  · intro resumes
    constructor
    · by_contra overflow
      rw [not_or, not_lt, not_lt] at overflow
      obtain ⟨revision, later, gone⟩ := resumes.stale _
        (page_stale numbered inhabited positive (.inr ⟨overflow.1, by omega⟩))
      have bound := (held.evicted_bound gone).2
      omega
    · intro whole begun member
      rw [← whole, head, Option.mem_some_iff] at member
      subst member
      by_contra late
      obtain ⟨revision, -, gone⟩ := resumes.stale _
        (page_stale numbered inhabited positive (.inl (by omega)))
      exact (held.evicted_bound gone).1 whole
  · intro resumable
    have lost : cursor + 1 < first + evicted →
        ∃ revision, cursor < revision ∧ window.Evicted history revision := by
      intro old
      cases evicted with
      | zero =>
        have whole : window.events = history := held.window
        have begun := resumable.begun whole oldest (whole ▸ head)
        omega
      | succ evicted => exact ⟨first + evicted, by omega, held.evicts inhabited⟩
    have room := resumable.room
    cases answer : window.page (some cursor) limit with
    | error error =>
      have cases := page_refused numbered inhabited positive answer
      constructor <;> rw [answer]
      · rintro _ ⟨⟩
        rcases cases with ⟨⟨⟩, -⟩ | ⟨-, reached, old⟩
        exact lost (by omega)
      · rintro ⟨⟩
        rcases cases with ⟨-, ahead⟩ | ⟨⟨⟩, -⟩
        exact ahead
      · intro reached kept
        rcases cases with ⟨-, ahead⟩ | ⟨-, -, old⟩
        · omega
        · exact absurd (lost (by omega)) kept
      · intro reached
        omega
    | ok page =>
      constructor <;> rw [answer]
      · rintro _ ⟨⟩
      · rintro ⟨⟩
      · intro _ _
        exact ⟨page, rfl⟩
      · intro reached
        obtain ⟨-, begun, ⟨⟨⟩, -⟩ | ⟨r, ⟨⟩, next, -⟩, inside | ⟨-, rfl⟩⟩ :=
          accepted_cursor numbered inhabited answer
        · omega
        · rfl

section Sample

def sampleEvent (revision : Nat) : ControlEvent :=
  ⟨revision, .runStarted, some "run-1", some "attempt-1"⟩

def sampleWindow : EventWindow := ⟨2, [sampleEvent 2, sampleEvent 3]⟩

theorem sampleWindow_reached : sampleWindow.Reached := by
  have restored : restore 2 [sampleEvent 1, sampleEvent 2] =
      .ok ⟨2, [sampleEvent 1, sampleEvent 2]⟩ := rfl
  have appended : append ⟨2, [sampleEvent 1, sampleEvent 2]⟩ (sampleEvent 3) =
      .ok sampleWindow := rfl
  exact .appended (.restored restored) appended

theorem page_validates_sample :
    sampleWindow.page (some 1) 1 = .ok ⟨[sampleEvent 2], some 2, true⟩ ∧
      validateEventsForCall ⟨[sampleEvent 2], some 2, true⟩ ⟨some 1, 1⟩ .default = .ok () :=
  ⟨rfl, (@page_validates sampleWindow sampleWindow_reached ⟨some 1, 1⟩ .default _ rfl
    (by decide +kernel) (by decide +kernel)).mpr (by decide)⟩

/-- A client that has seen every event asks again: the window answers with no records and the
client's own cursor as the next one, and the client refuses the page. -/
theorem page_refused_when_caught_up :
    ∃ window : EventWindow, window.Reached ∧ ∃ (call : PageParams) (page : Page ControlEvent),
      window.page call.after call.limit = .ok page ∧ validatePage call .default = .ok () ∧
        (∀ event ∈ window.events, validateEvent event = .ok ()) ∧
        validateEventsForCall page call .default = .error .invalidResponse :=
  ⟨sampleWindow, sampleWindow_reached, ⟨some 3, 1⟩, ⟨[], some 3, false⟩, rfl, by decide +kernel,
    by decide +kernel, by decide +kernel⟩

theorem sampleWindow_takes :
    sampleWindow.Takes ([sampleEvent 1, sampleEvent 2] ++ [sampleEvent 3]) := by
  have restored : restore 2 [sampleEvent 1, sampleEvent 2] =
      .ok ⟨2, [sampleEvent 1, sampleEvent 2]⟩ := rfl
  exact .appended (.restored restored) rfl

/-- The first event of the small window is gone, and a reader before it has lost something. -/
theorem resume_refused_sample : sampleWindow.page (some 0) 1 = .error (.stale 2) ∧
    ∃ revision, 0 < revision ∧
      sampleWindow.Evicted ([sampleEvent 1, sampleEvent 2] ++ [sampleEvent 3]) revision := by
  have resumable : sampleWindow.Resumable ([sampleEvent 1, sampleEvent 2] ++ [sampleEvent 3]) 0 :=
    ⟨.inl (by decide), fun whole => absurd whole (by decide)⟩
  exact ⟨rfl, ((@resume_refused_only_when_lost _ _ sampleWindow_takes 0 1 (by decide)).mpr
    resumable).stale 2 rfl⟩

/-- The last possible revision has no successor: a reader who has seen it is refused as stale, and
nothing was ever evicted. -/
theorem resume_refused_at_greatest_revision :
    ∃ (history : List ControlEvent) (window : EventWindow), window.Takes history ∧
      window.events = history ∧ window.latestRevision = u64Max ∧
      window.page (some u64Max) 1 = .error (.stale u64Max) ∧
      ¬ ∃ revision, u64Max < revision ∧ window.Evicted history revision := by
  have restored : restore 1 [sampleEvent u64Max] = .ok ⟨1, [sampleEvent u64Max]⟩ := rfl
  refine ⟨_, _, .restored restored, rfl, rfl, rfl, ?_⟩
  rintro ⟨revision, -, event, taken, -, gone⟩
  exact gone taken

end Sample

end AgentSystemsBenchmark.Control
