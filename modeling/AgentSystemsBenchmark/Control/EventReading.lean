import AgentSystemsBenchmark.Control.EventPages

/-!
# Reading the event window page by page

A reader follows the cursor of each page until a page says there is no more, while the runner
appends. What it was served is, in order and once each, what was retained when it started and
appended since, after its starting cursor. An append that evicts an event it has not read makes
its next page fail as stale.
-/

namespace AgentSystemsBenchmark.Control

open Effects List

/-! ## Readers -/

inductive ReadStep where
  | page (limit : Nat)
  | append (event : ControlEvent)

/-- The window, everything it held since the reader started, the cursor, what was delivered,
and how the reading ended. -/
structure Reader where
  window : EventWindow
  history : List ControlEvent
  cursor : Option Nat
  delivered : List ControlEvent
  ended : Option (Except CursorError Unit)

open Reader

namespace Reader

def start (window : EventWindow) (after : Option Nat) : Reader :=
  ⟨window, window.events, after, [], none⟩

def receive (reader : Reader) : Except CursorError (Page ControlEvent) → Reader
  | .error error => { reader with ended := some (.error error) }
  | .ok page =>
    { reader with
      cursor := page.next
      delivered := reader.delivered ++ page.items
      ended := if page.hasMore then none else some (.ok ()) }

def step (reader : Reader) (move : ReadStep) : Reader :=
  if reader.ended.isSome then reader
  else
    match move with
    | .page limit => reader.receive (reader.window.page reader.cursor limit)
    | .append event =>
      match reader.window.append event with
      | .error _ => reader
      | .ok window => { reader with window, history := reader.history ++ [event] }

/-- What the reader is to be served of the history. -/
def wanted (after : Option Nat) (reader : Reader) : List ControlEvent :=
  reader.history.filter fun event => after.all (· < event.revision)

/-- Where a reader stands: the history is numbered, its front evicted up to `evicted`, and what
was delivered is what lies between `begun` and `place`. -/
structure Stands (first begun evicted place : Nat) (reader : Reader) : Prop where
  numbered : Numbered first reader.history
  window : reader.window.events = reader.history.drop evicted
  retained : evicted < reader.history.length
  order : begun ≤ place
  within : place ≤ reader.history.length
  delivered : reader.delivered = (reader.history.drop begun).take (place - begun)
  ending : match reader.ended with
    | none => place < reader.history.length ∧
      ∃ r, reader.cursor = some r ∧ r + 1 = first + place ∧ r < u64Max
    | some (.ok ()) => place = reader.history.length
    | some (.error error) => error = .stale (first + evicted) ∧ place < evicted

section Steps
variable {reader : Reader} {first begun evicted place : Nat}

theorem Stands.windowNumbered (stands : Stands first begun evicted place reader) :
    Numbered (first + evicted) reader.window.events ∧
      reader.window.events.length = reader.history.length - evicted := by
  rw [stands.window]
  exact ⟨stands.numbered.drop evicted, length_drop⟩

/-- A page served from the place the reader has come to. -/
theorem receive_served {after : Option Nat} {limit : Nat} (positive : limit ≠ 0)
    (numbered : Numbered first reader.history)
    (window : reader.window.events = reader.history.drop evicted) (order : begun ≤ place)
    (delivered : reader.delivered = (reader.history.drop begun).take (place - begun))
    (inside : place < reader.history.length) (kept : evicted ≤ place)
    (placed : CursorAt (first + evicted) after (place - evicted)) :
    ∃ place', place < place' ∧ Stands first begun evicted place'
      (reader.receive (reader.window.page after limit)) := by
  have windowNumbered : Numbered (first + evicted) reader.window.events := by
    rw [window]
    exact numbered.drop evicted
  have size : reader.window.events.length = reader.history.length - evicted := by
    rw [window, length_drop]
  rw [EventWindow.page_at windowNumbered (by omega) positive placed]
  have more : place - evicted + limit < reader.window.events.length ↔
      place + limit < reader.history.length := by omega
  refine ⟨min (place + limit) reader.history.length, by omega, numbered, window,
    lt_of_le_of_lt kept inside, by omega, Nat.min_le_right .., ?_, ?_⟩
  · have onward : reader.window.events.drop (place - evicted) =
        (reader.history.drop begun).drop (place - begun) := by
      rw [window, drop_drop, drop_drop, Nat.add_sub_cancel' kept, Nat.add_sub_cancel' order]
    change reader.delivered ++ _ = (reader.history.drop begun).take _
    rw [delivered, onward, ← take_add, take_eq_take_iff, length_drop]
    omega
  · by_cases onward : place + limit < reader.history.length
    · have ended : (reader.receive (.ok ⟨(reader.window.events.drop (place - evicted)).take limit,
          some (first + evicted + min (place - evicted + limit) reader.window.events.length - 1),
          decide (place - evicted + limit < reader.window.events.length)⟩)).ended = none :=
        if_pos (decide_eq_true (more.mpr onward))
      rw [ended]
      refine ⟨by change _ < reader.history.length; omega, _, rfl, by omega, ?_⟩
      have bounded := numbered.bounded
      omega
    · have ended : (reader.receive (.ok ⟨(reader.window.events.drop (place - evicted)).take limit,
          some (first + evicted + min (place - evicted + limit) reader.window.events.length - 1),
          decide (place - evicted + limit < reader.window.events.length)⟩)).ended = some (.ok ()) :=
        if_neg (by rw [decide_eq_true_iff, more]; exact onward)
      rw [ended]
      exact Nat.min_eq_right (not_lt.mp onward)

/-- An append extends the history, and may evict the oldest event. -/
theorem Stands.append (stands : Stands first begun evicted place reader)
    (running : reader.ended = none) {event : ControlEvent} {window : EventWindow}
    (appended : reader.window.append event = .ok window) :
    ∃ evicted', Stands first begun evicted' place
      { reader with window, history := reader.history ++ [event] } := by
  have retained := stands.retained
  have within := stands.within
  have order := stands.order
  have held : Retains first evicted reader.history reader.window :=
    ⟨stands.numbered, stands.window, .inr retained⟩
  obtain ⟨first', evicted', kept, same⟩ := held.append appended
  obtain rfl := same (ne_nil_of_length_pos (by omega))
  have longer : (reader.history ++ [event]).length = reader.history.length + 1 := by
    rw [length_append, length_singleton]
  have fewer : evicted' < (reader.history ++ [event]).length :=
    kept.retained.resolve_left (ne_nil_of_length_pos (by omega))
  have delivered : reader.delivered =
      ((reader.history ++ [event]).drop begun).take (place - begun) := by
    rw [drop_append_of_le_length (by omega), take_append_of_le_length, stands.delivered]
    rw [length_drop]
    omega
  have ending := stands.ending
  rw [running] at ending
  have inside : place < (reader.history ++ [event]).length := by omega
  refine ⟨evicted', kept.numbered, kept.window, fewer, order, inside.le, delivered, ?_⟩
  dsimp only
  rw [running]
  exact ⟨inside, ending.2⟩

theorem step_running (running : reader.ended = none) (move : ReadStep) : reader.step move =
    match move with
    | .page limit => reader.receive (reader.window.page reader.cursor limit)
    | .append event =>
      match reader.window.append event with
      | .error _ => reader
      | .ok window => { reader with window, history := reader.history ++ [event] } := by
  unfold step
  rw [running]
  rfl

/-- Each step keeps the place or moves it forward; only a page of an evicted place fails. -/
theorem Stands.step (stands : Stands first begun evicted place reader) {move : ReadStep}
    (positive : move ≠ .page 0) :
    ∃ evicted' place', Stands first begun evicted' place' (reader.step move) := by
  cases ended : reader.ended with
  | some result =>
    have same : reader.step move = reader := if_pos (by rw [ended]; rfl)
    rw [same]
    exact ⟨evicted, place, stands⟩
  | none =>
    have ending := stands.ending
    rw [ended] at ending
    obtain ⟨inside, r, cursor, next, room⟩ := ending
    rw [step_running ended]
    cases move with
    | page limit =>
      have asked : limit ≠ 0 := fun zero => positive (by rw [zero])
      dsimp only
      rw [cursor]
      by_cases kept : evicted ≤ place
      · obtain ⟨place', -, stands⟩ := receive_served asked stands.numbered stands.window
          stands.order stands.delivered inside kept (.inr ⟨r, rfl, by omega, room⟩)
        exact ⟨evicted, place', stands⟩
      · have size := stands.windowNumbered.2
        have retained := stands.retained
        have gone : r + 1 < first + evicted := by omega
        rw [EventWindow.page_stale stands.windowNumbered.1 (by omega) asked (.inl gone)]
        exact ⟨evicted, place, stands.numbered, stands.window, retained, stands.order,
          stands.within, stands.delivered, rfl, by omega⟩
    | append event =>
      dsimp only
      cases appended : reader.window.append event with
      | error error => exact ⟨evicted, place, stands⟩
      | ok window =>
        obtain ⟨evicted', stands⟩ := stands.append ended appended
        exact ⟨evicted', place, stands⟩

theorem Stands.run (stands : Stands first begun evicted place reader) {moves : List ReadStep}
    (positive : .page 0 ∉ moves) :
    ∃ evicted' place', Stands first begun evicted' place' (moves.foldl Reader.step reader) := by
  induction moves generalizing reader evicted place with
  | nil => exact ⟨evicted, place, stands⟩
  | cons move rest ih =>
    obtain ⟨asked, later⟩ := not_or.mp (mt mem_cons.mpr positive)
    obtain ⟨_, _, stands⟩ := stands.step (Ne.symm asked)
    exact ih stands later

end Steps

/-! ## Lossless pages -/

/-- How a reading that starts after a cursor stands: what was delivered is a front of what it is
to be served and all of it when it ended well; it fails only as stale, over an event it had not
read, and does so whenever such an event was evicted. -/
structure Lossless (after : Option Nat) (reader : Reader) : Prop where
  delivered : reader.delivered <+: reader.wanted after
  finished : reader.ended = some (.ok ()) → reader.delivered = reader.wanted after
  failed : ∀ error, reader.ended = some (.error error) → (∃ oldest, error = .stale oldest) ∧
    ∃ event ∈ reader.wanted after, event ∉ reader.delivered ∧ event ∉ reader.window.events
  fails : reader.ended = none →
    (∃ event ∈ reader.wanted after, event ∉ reader.delivered ∧ event ∉ reader.window.events) →
    ∀ limit, limit ≠ 0 → ∃ oldest, reader.window.page reader.cursor limit = .error (.stale oldest)

section Lossless
variable {reader : Reader} {first begun evicted place : Nat} {after : Option Nat}

/-- What a reader is to be served lies behind the place where it began. -/
theorem Stands.wanted_eq (stands : Stands first begun evicted place reader)
    (began : CursorAt first after begun) : reader.wanted after = reader.history.drop begun := by
  rcases began with ⟨rfl, rfl⟩ | ⟨r, rfl, next, -⟩
  · exact filter_eq_self.mpr fun _ _ => rfl
  · have served := Numbered.filter_ge stands.numbered.revisions (Nat.le_add_right first begun)
    rw [Nat.add_sub_cancel_left, ← next] at served
    exact served

theorem Stands.lossless (stands : Stands first begun evicted place reader)
    (began : CursorAt first after begun) : reader.Lossless after := by
  have wanted := stands.wanted_eq began
  have order := stands.order
  -- an event is unread and evicted exactly when it stands between the place and the window
  have lost : (∃ event ∈ reader.wanted after, event ∉ reader.delivered ∧
      event ∉ reader.window.events) ↔ place < evicted := by
    have retained := stands.retained
    have numbered := stands.numbered
    have places := (numbered.drop begun).take (place - begun)
    rw [wanted, stands.delivered, stands.window]
    constructor
    · rintro ⟨event, mem, unread, gone⟩
      rw [← take_append_drop (place - begun) (reader.history.drop begun), mem_append,
        or_iff_right unread, drop_drop, Nat.add_sub_cancel' order] at mem
      have low := ((numbered.drop place).revision_bounds mem).1
      have whole := mem_of_mem_drop mem
      rw [← take_append_drop evicted reader.history, mem_append, or_iff_left gone] at whole
      have high := ((numbered.take evicted).revision_bounds whole).2
      rw [length_take] at high
      omega
    · intro past
      obtain ⟨event, -, head, -, front, -⟩ := (numbered.drop place).ends
        (by rw [length_drop]; omega)
      have mem := mem_of_head? head
      refine ⟨event, ?_, fun read => ?_, fun held => ?_⟩
      · rw [show place = begun + (place - begun) by omega, ← drop_drop] at mem
        exact mem_of_mem_drop mem
      · have high := (places.revision_bounds read).2
        rw [length_take] at high
        omega
      · have low := ((numbered.drop evicted).revision_bounds held).1
        omega
  refine ⟨?_, fun ended => ?_, fun error ended => ?_, fun running gone limit positive => ?_⟩
  · rw [wanted, stands.delivered]
    exact take_prefix ..
  · have ending := stands.ending
    rw [ended] at ending
    rw [wanted, stands.delivered, take_of_length_le]
    rw [length_drop, ending]
  · have ending := stands.ending
    rw [ended] at ending
    exact ⟨⟨_, ending.1⟩, lost.mpr ending.2⟩
  · have ending := stands.ending
    rw [running] at ending
    obtain ⟨-, r, cursor, next, -⟩ := ending
    have past := lost.mp gone
    have size := stands.windowNumbered.2
    have retained := stands.retained
    have stale : r + 1 < first + evicted := by omega
    rw [cursor]
    exact ⟨_, EventWindow.page_stale stands.windowNumbered.1 (by omega) positive (.inl stale)⟩

end Lossless

/-! ## Pages alone -/

section Alone
variable {reader : Reader} {first begun evicted place : Nat}

/-- As many pages as there are unread events end the reading. -/
theorem Stands.finishes (stands : Stands first begun evicted place reader) (kept : evicted ≤ place)
    {limits : List Nat} (positive : 0 ∉ limits)
    (enough : reader.history.length ≤ place + limits.length) :
    ((limits.map ReadStep.page).foldl Reader.step reader).ended = some (.ok ()) ∧
      ((limits.map ReadStep.page).foldl Reader.step reader).history = reader.history := by
  induction limits generalizing reader place with
  | nil =>
    have ending := stands.ending
    cases ended : reader.ended with
    | none =>
      rw [ended] at ending
      exact absurd ending.1 (not_lt.mpr enough)
    | some result =>
      cases result with
      | ok => exact ⟨ended, rfl⟩
      | error error =>
        rw [ended] at ending
        exact absurd ending.2 (not_lt.mpr kept)
  | cons limit rest ih =>
    obtain ⟨asked, later⟩ := not_or.mp (mt mem_cons.mpr positive)
    have ending := stands.ending
    rw [length_cons] at enough
    cases ended : reader.ended with
    | none =>
      rw [ended] at ending
      obtain ⟨inside, r, cursor, next, room⟩ := ending
      obtain ⟨place', further, stands⟩ := receive_served (Ne.symm asked) stands.numbered
        stands.window stands.order stands.delivered inside kept (.inr ⟨r, cursor, by omega, room⟩)
      have same : (reader.receive (reader.window.page reader.cursor limit)).history =
          reader.history := by
        cases reader.window.page reader.cursor limit <;> rfl
      rw [map_cons, foldl_cons, step_running ended]
      have result := ih stands (by omega) later (by rw [same]; omega)
      rwa [same] at result
    | some result =>
      have still : reader.step (.page limit) = reader := if_pos (by rw [ended]; rfl)
      have covered : reader.history.length ≤ place + rest.length := by
        cases result with
        | ok =>
          rw [ended] at ending
          omega
        | error error =>
          rw [ended] at ending
          exact absurd ending.2 (not_lt.mpr kept)
      rw [map_cons, foldl_cons, still]
      exact ih stands kept later covered

end Alone

/-- A first page that is served puts the reader at a place of the window. -/
theorem start_stands {window : EventWindow} {first limit : Nat} {after : Option Nat}
    {page : Page ControlEvent} (numbered : Numbered first window.events)
    (inhabited : 0 < window.events.length) (accepted : window.page after limit = .ok page) :
    ∃ begun place, CursorAt first after begun ∧
      Stands first begun 0 place ((start window after).step (.page limit)) := by
  obtain ⟨positive, begun, began, places⟩ := EventWindow.accepted_cursor numbered inhabited accepted
  have nothing : ∀ n, ([] : List ControlEvent) = (window.events.drop n).take (n - n) := by
    intro n
    rw [Nat.sub_self, take_zero]
  have running : (start window after).ended = none := rfl
  rw [step_running running]
  rcases places with inside | ⟨past, rfl⟩
  · have whole : (start window after).window.events =
        (start window after).history.drop 0 := rfl
    obtain ⟨place, -, stands⟩ := receive_served positive numbered whole (Nat.le_refl begun)
      (nothing begun) inside (Nat.zero_le _) began
    exact ⟨begun, place, began, stands⟩
  · refine ⟨begun, begun, began, ?_⟩
    change Stands _ _ _ _ ((start window after).receive (window.page after limit))
    rw [accepted]
    exact ⟨numbered, rfl, inhabited, Nat.le_refl _, past.le, nothing begun, past⟩

theorem ended_foldl (ended : reader.ended = some result) (moves : List ReadStep) :
    moves.foldl step reader = reader := by
  induction moves with
  | nil => rfl
  | cons move rest ih =>
    have still : reader.step move = reader := if_pos (by rw [ended]; rfl)
    rw [foldl_cons, still, ih]

/-- Pages are lossless: from every cursor a window serves, whatever is appended between pages,
and pages alone deliver all that is retained after the cursor. -/
theorem pagination_lossless {window : EventWindow} (reached : window.Reached) {after : Option Nat}
    {limit : Nat} {page : Page ControlEvent} (accepted : window.page after limit = .ok page) :
    (∀ moves, ReadStep.page 0 ∉ moves →
      ((ReadStep.page limit :: moves).foldl step (start window after)).Lossless after) ∧
    ∀ limits : List Nat, 0 ∉ limits → window.events.length ≤ limits.length →
      ((limit :: limits).map ReadStep.page |>.foldl step (start window after)).ended =
        some (.ok ()) ∧
      ((limit :: limits).map ReadStep.page |>.foldl step (start window after)).delivered =
        window.events.filter fun event => after.all (· < event.revision) := by
  rcases Nat.eq_zero_or_pos window.events.length with empty | inhabited
  · -- an empty window answers once, with nothing
    have held := length_eq_zero_iff.mp empty
    have served : page.items = [] ∧ page.hasMore = false := by
      rw [EventWindow.page, seq_eq_ok] at accepted
      simp only [held, head?_nil, getLast?_nil] at accepted
      obtain rfl := pure_eq_ok.mp (seq_eq_ok.mp accepted.2).2
      exact ⟨rfl, rfl⟩
    have first : (start window after).step (.page limit) =
        ⟨window, [], page.next, [], some (.ok ())⟩ := by
      have running : (start window after).ended = none := rfl
      rw [step_running running]
      change (start window after).receive (window.page after limit) = _
      rw [accepted, receive, served.1, served.2, start, held]
      rfl
    have whole : ∀ moves, (ReadStep.page limit :: moves).foldl step
        (start window after) = ⟨window, [], page.next, [], some (.ok ())⟩ := by
      intro moves
      rw [foldl_cons, first]
      exact ended_foldl rfl moves
    refine ⟨fun moves _ => ?_, fun limits _ _ => ?_⟩
    · rw [whole]
      exact ⟨⟨_, rfl⟩, fun _ => rfl, by rintro _ ⟨⟩, by rintro ⟨⟩⟩
    · rw [map_cons, whole, held]
      exact ⟨rfl, rfl⟩
  · obtain ⟨first, numbered⟩ := reached.numbered
    obtain ⟨begun, place, began, stands⟩ := start_stands numbered inhabited accepted
    constructor
    · intro moves positive
      obtain ⟨_, _, stands⟩ := stands.run positive
      exact stands.lossless began
    · intro limits positive enough
      have same : ((Reader.start window after).step (.page limit)).history = window.events := by
        change (Reader.receive _ (window.page after limit)).history = _
        rw [accepted]
        rfl
      obtain ⟨ended, history⟩ := stands.finishes (Nat.zero_le _) positive (by rw [same]; omega)
      have pages : ReadStep.page 0 ∉ limits.map ReadStep.page := by simpa using positive
      obtain ⟨_, _, stands⟩ := stands.run pages
      refine ⟨ended, ?_⟩
      rw [map_cons, foldl_cons, (stands.lossless began).finished ended, Reader.wanted,
        history, same]

/-- Two pages of one event each read the small window out. -/
theorem pagination_lossless_sample :
    (([1, 1, 1].map ReadStep.page).foldl step (start sampleWindow (some 1))).delivered =
      [sampleEvent 2, sampleEvent 3] :=
  have accepted : sampleWindow.page (some 1) 1 = .ok ⟨[sampleEvent 2], some 2, true⟩ := rfl
  ((pagination_lossless sampleWindow_reached accepted).2 [1, 1] (by decide) (by decide)).2

end Reader

end AgentSystemsBenchmark.Control
