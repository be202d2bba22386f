import AgentSystemsBenchmark.Replay.Service
import AgentSystemsBenchmark.Library.Runs

/-!
# Cursors under concurrent connections

Connections reserve the next interaction of a route and finish what they reserved, each
in one critical section. A reservation fences its route: as long as it is outstanding
the cursor of the route stays where the reservation found it.
-/

namespace AgentSystemsBenchmark.Replay

open Effects Runs List StrictReplayService

/-- The recorded interactions of a route, in the order of their ordinals. -/
def recorded (cassette : Cassette) (key : String × String) : List Interaction :=
  (cassette.contents.interactions.filter fun interaction =>
    decide ((interaction.sessionId, interaction.attemptId) = key)).insertionSort byOrdinal

/-- The service, what each connection has reserved and not finished yet, and the
responses committed so far. -/
structure Server where
  service : StrictReplayService
  connections : Nat → Option ReservedInteraction
  committed : List ((String × String) × ReplayHttpResponse)

inductive Move where
  | reserve (connection : Nat) (route : ReplayRoute) (request : ReplayHttpRequest)
  | finish (connection : Nat) (commit : Bool)

namespace Server

def opened (service : StrictReplayService) : Server := ⟨service, fun _ => none, []⟩

/-- One critical section. A connection serves one request at a time. -/
def step (platform : Platform) (server : Server) : Move → Server
  | .reserve connection route request =>
    match server.connections connection with
    | some _ => server
    | none =>
      match server.service.reserve platform route request with
      | .error _ => server
      | .ok (reservation, service) =>
        { server with
          service
          connections := Function.update server.connections connection (some reservation) }
  | .finish connection commit =>
    match server.connections connection with
    | none => server
    | some reservation =>
      let finished := server.service.finishReservation reservation commit
      { service := finished.2
        connections := Function.update server.connections connection none
        committed := match finished.1, commit with
          | .ok (), true => server.committed ++ [(reservation.key, reservation.response)]
          | _, _ => server.committed }

/-- The route a step is on. -/
def routeOf (server : Server) : Move → Option (String × String)
  | .reserve _ route _ => some route.key
  | .finish connection _ => (server.connections connection).map ReservedInteraction.key

/-- The responses committed on a route, in order. -/
def committedOn (server : Server) (key : String × String) : List ReplayHttpResponse :=
  (server.committed.filter fun entry => decide (entry.1 = key)).map Prod.snd

/-- What the protocol promises of every state. -/
structure Protocol (platform : Platform) (cassette : Cassette) (server : Server) : Prop where
  single : ∀ c d r q, server.connections c = some r → server.connections d = some q →
    r.key = q.key → c = d
  fenced : ∀ c r, server.connections c = some r → r.cursor = server.service.cursor r.key
  inOrder : ∀ key, (server.committedOn key).map Except.ok =
    ((recorded cassette key).take (server.service.cursor key)).map fun interaction =>
      encodeResponse interaction.response interaction.dialect
  apart : ∀ move key, server.routeOf move ≠ some key →
    (server.step platform move).service.cursor key = server.service.cursor key ∧
      (server.step platform move).service.state.reservations.lookup key =
        server.service.state.reservations.lookup key
  finishes : ∀ c r commit, server.connections c = some r →
    (server.service.finishReservation r commit).1 = .ok ()

end Server

/-! ## What a new service holds -/

section New
variable {platform : Platform} {cassette : Cassette} {limits : ReplayLimits}
  {service : StrictReplayService}

theorem lookup_pushRoute (key k : String × String) (interaction : Interaction)
    (routes : List ((String × String) × List Interaction)) :
    ((pushRoute key interaction routes).lookup k).getD [] =
      (routes.lookup k).getD [] ++ if key = k then [interaction] else [] := by
  induction routes with
  | nil =>
    by_cases same : key = k
    · subst same
      simp [pushRoute]
    · have differ : (k == key) = false := beq_false_of_ne (Ne.symm same)
      simp [pushRoute, lookup_cons, differ, same]
  | cons route rest ih =>
    obtain ⟨first, interactions⟩ := route
    rw [pushRoute]
    by_cases here : first = key
    · subst here
      by_cases same : first = k
      · subst same
        simp
      · have differ : (k == first) = false := beq_false_of_ne (Ne.symm same)
        simp [lookup_cons, differ, same]
    · rw [if_neg here, lookup_cons, lookup_cons]
      by_cases same : first = k
      · subst same
        simp [Ne.symm here]
      · have differ : (k == first) = false := beq_false_of_ne (Ne.symm same)
        rw [differ]
        exact ih

open StrictReplayService in
theorem enroll_routes {descriptor : RedactionDescriptor} {interactions : List Interaction}
    {acc later : List ((String × String) × List Interaction) × List (String × List String)}
    (enrolled : interactions.foldlM (enroll descriptor) acc = .ok later) (key : String × String) :
    (later.1.lookup key).getD [] = (acc.1.lookup key).getD [] ++
      interactions.filter fun interaction =>
        decide ((interaction.sessionId, interaction.attemptId) = key) := by
  induction interactions generalizing acc with
  | nil =>
    obtain rfl : acc = later := pure_eq_ok.mp enrolled
    simp
  | cons interaction rest ih =>
    rw [foldlM_cons, bind_eq_ok] at enrolled
    obtain ⟨next, first, onward⟩ := enrolled
    unfold enroll at first
    split at first
    case h_1 => cases first
    case h_2 pointers _ =>
      rw [bind_eq_ok] at first
      obtain ⟨_, _, first⟩ := first
      cases first
      rw [ih onward, lookup_pushRoute, filter_cons, append_assoc]
      by_cases same : (interaction.sessionId, interaction.attemptId) = key <;> simp [same]

open StrictReplayService in
theorem lookup_orderRoute {routes ordered : List ((String × String) × List Interaction)}
    (sorted : routes.mapM orderRoute = .ok ordered) (key : String × String) :
    ordered.lookup key = (routes.lookup key).map (·.insertionSort byOrdinal) := by
  induction routes generalizing ordered with
  | nil =>
    obtain rfl : [] = ordered := pure_eq_ok.mp sorted
    rfl
  | cons route rest ih =>
    rw [mapM_cons, bind_eq_ok] at sorted
    obtain ⟨first, one, sorted⟩ := sorted
    rw [bind_eq_ok] at sorted
    obtain ⟨others, onward, sorted⟩ := sorted
    cases sorted
    simp only [orderRoute, bind_eq_ok, pure_eq_ok] at one
    obtain ⟨_, _, rfl⟩ := one
    obtain ⟨k, interactions⟩ := route
    rw [lookup_cons, lookup_cons]
    cases key == k with
    | true => rfl
    | false => exact ih onward

theorem new_ok (accepted : new platform cassette limits = .ok service) :
    service.state.cursors = ∅ ∧ service.state.reservations = ∅ ∧
      ∀ key interactions, service.state.routes.lookup key = some interactions →
        interactions = recorded cassette key := by
  simp only [new, bind_eq_ok, pure_eq_ok] at accepted
  obtain ⟨_, _, _, _, ⟨routes, pointers⟩, enrolled, _, _, ordered, sorted, rfl⟩ := accepted
  refine ⟨rfl, rfl, fun key interactions found => ?_⟩
  have whole := enroll_routes enrolled key
  have order := lookup_orderRoute sorted key
  rw [show ordered.lookup key = some interactions from found] at order
  cases listed : routes.lookup key with
  | none =>
    rw [listed] at order
    cases order
  | some unordered =>
    rw [listed] at order whole
    obtain rfl : interactions = _ := Option.some.inj order
    simp only [Option.getD_some, lookup_nil, Option.getD_none, nil_append] at whole
    rw [whole, recorded]

end New

/-! ## One step -/

section Steps
variable {platform : Platform} {service next : StrictReplayService} {route : ReplayRoute}
  {request : ReplayHttpRequest} {reservation : ReservedInteraction}

/-- The response is the one recorded at the cursor. -/
theorem StrictReplayService.next_ok (found : service.next platform route request = .ok response) :
    ∃ interactions interaction, service.state.routes.lookup route.key = some interactions ∧
      interactions[service.cursor route.key]? = some interaction ∧
      encodeResponse interaction.response interaction.dialect = .ok response := by
  unfold next at found
  split at found
  case h_1 => cases found
  case h_2 interactions listed =>
    split at found
    case h_1 => cases found
    case h_2 interaction here =>
      simp only [bind_eq_ok, refuse_eq_ok, not_not] at found
      obtain ⟨_, dialect, found⟩ := found
      split at found
      case h_1 => cases found
      case h_2 =>
        simp only [bind_eq_ok] at found
        obtain ⟨_, _, _, _, encoded⟩ := found
        exact ⟨interactions, interaction, listed, here, dialect ▸ encoded⟩

theorem StrictReplayService.reserve_ok
    (reserved : service.reserve platform route request = .ok (reservation, next)) :
    service.state.reservations.lookup route.key = none ∧ reservation.key = route.key ∧
      reservation.cursor = service.cursor route.key ∧
      service.next platform route request = .ok reservation.response ∧
      next = { service with state := { service.state with
        reservations :=
          service.state.reservations.insert route.key (service.cursor route.key) } } := by
  simp only [reserve, bind_eq_ok, pure_eq_ok, refuse_eq_ok] at reserved
  obtain ⟨_, _, _, free, response, found, same⟩ := reserved
  cases same
  exact ⟨by simpa using free, rfl, rfl, found, rfl⟩

/-- A reservation that is outstanding at the cursor can be finished. -/
theorem StrictReplayService.finishReservation_eq (commit : Bool)
    (outstanding : service.state.reservations.lookup reservation.key = some reservation.cursor)
    (fenced : reservation.cursor = service.cursor reservation.key) :
    service.finishReservation reservation commit =
      (.ok (), { service with state := { service.state with
        reservations := service.state.reservations.erase reservation.key
        cursors := if commit then
            service.state.cursors.insert reservation.key (reservation.cursor + 1)
          else service.state.cursors } }) := by
  unfold finishReservation
  simp only [outstanding]
  have settled : ¬ (reservation.cursor ≠ reservation.cursor ∨
      service.cursor reservation.key ≠ reservation.cursor) := by
    rw [← fenced]
    simp
  rw [if_neg settled]
  cases commit <;> rfl

end Steps

/-! ## Every run -/

namespace Server
variable {platform : Platform} {cassette : Cassette} {server : Server}

/-- What every critical section keeps. -/
structure Sound (cassette : Cassette) (server : Server) : Prop where
  routes : ∀ key interactions, server.service.state.routes.lookup key = some interactions →
    interactions = recorded cassette key
  single : ∀ c d r q, server.connections c = some r → server.connections d = some q →
    r.key = q.key → c = d
  outstanding : ∀ c r, server.connections c = some r →
    server.service.state.reservations.lookup r.key = some r.cursor
  fenced : ∀ c r, server.connections c = some r → r.cursor = server.service.cursor r.key
  pending : ∀ c r, server.connections c = some r →
    ∃ interaction, (recorded cassette r.key)[r.cursor]? = some interaction ∧
      encodeResponse interaction.response interaction.dialect = .ok r.response
  inOrder : ∀ key, (server.committedOn key).map Except.ok =
    ((recorded cassette key).take (server.service.cursor key)).map fun interaction =>
      encodeResponse interaction.response interaction.dialect

theorem sound_open {limits : ReplayLimits} {service : StrictReplayService}
    (accepted : StrictReplayService.new platform cassette limits = .ok service) :
    (opened service).Sound cassette := by
  obtain ⟨cursors, reservations, routes⟩ := new_ok accepted
  refine ⟨routes, nofun, nofun, nofun, nofun, fun key => ?_⟩
  have start : (opened service).service.cursor key = 0 := by
    simp [opened, cursor, cursors]
  rw [start]
  rfl

section
variable (sound : server.Sound cassette)
include sound

variable {reservation : ReservedInteraction}

theorem Sound.reserve {connection : Nat} {route : ReplayRoute}
    {request : ReplayHttpRequest} {next : StrictReplayService}
    (idle : server.connections connection = none)
    (reserved : server.service.reserve platform route request = .ok (reservation, next)) :
    Sound cassette { server with
      service := next
      connections := Function.update server.connections connection (some reservation) } := by
  obtain ⟨free, key, here, found, rfl⟩ := reserve_ok reserved
  have held : ∀ c r, Function.update server.connections connection (some reservation) c = some r →
      (c = connection ∧ r = reservation) ∨ server.connections c = some r := by
    intro c r holds
    by_cases same : c = connection
    · subst same
      rw [Function.update_self] at holds
      exact .inl ⟨rfl, (Option.some.inj holds).symm⟩
    · rw [Function.update_of_ne same] at holds
      exact .inr holds
  -- No other connection holds this route: its reservation would be outstanding.
  have alone : ∀ c r, server.connections c = some r → r.key ≠ route.key := by
    intro c r holds same
    have taken := sound.outstanding c r holds
    rw [same, free] at taken
    cases taken
  refine ⟨sound.routes, ?_, ?_, ?_, ?_, sound.inOrder⟩
  · intro c d r q first second same
    rcases held c r first with ⟨rfl, rfl⟩ | before <;>
      rcases held d q second with ⟨rfl, rfl⟩ | before'
    · rfl
    · exact absurd (same.symm.trans key) (alone d q before')
    · exact absurd (same.trans key) (alone c r before)
    · exact sound.single c d r q before before' same
  · intro c r holds
    rcases held c r holds with ⟨rfl, rfl⟩ | holds
    · rw [key, here]
      exact AList.lookup_insert _
    · rw [← sound.outstanding c r holds]
      exact AList.lookup_insert_ne (alone c r holds)
  · intro c r holds
    rcases held c r holds with ⟨rfl, rfl⟩ | holds
    · rw [key]
      exact here
    · exact sound.fenced c r holds
  · intro c r holds
    rcases held c r holds with ⟨rfl, rfl⟩ | holds
    · obtain ⟨interactions, interaction, listed, present, encoded⟩ :=
        next_ok found
      rw [sound.routes _ _ listed] at present
      exact ⟨interaction, by rw [key, here]; exact present, encoded⟩
    · exact sound.pending c r holds

theorem Sound.finish (commit : Bool) (holds : server.connections connection = some reservation) :
    (server.step platform (.finish connection commit)).Sound cassette := by
  have finished := finishReservation_eq commit
    (sound.outstanding _ _ holds) (sound.fenced _ _ holds)
  have others : ∀ c r, Function.update server.connections connection none c = some r →
      server.connections c = some r ∧ r.key ≠ reservation.key := by
    intro c r other
    by_cases same : c = connection
    · subst same
      rw [Function.update_self] at other
      cases other
    · rw [Function.update_of_ne same] at other
      exact ⟨other, fun key => same (sound.single _ _ _ _ other holds key)⟩
  have moved : ∀ key, (server.step platform (.finish connection commit)).service.cursor key =
      if commit ∧ key = reservation.key then reservation.cursor + 1
      else server.service.cursor key := by
    intro key
    simp only [step, holds, finished, cursor]
    cases commit with
    | false => simp
    | true =>
      by_cases same : key = reservation.key
      · subst same
        simp
      · simp [same]
  refine ⟨?_, ?_, ?_, ?_, ?_, ?_⟩
  · simpa only [step, holds, finished] using sound.routes
  · intro c d r q first second same
    simp only [step, holds] at first second
    exact sound.single c d r q (others c r first).1 (others d q second).1 same
  · intro c r other
    simp only [step, holds] at other
    obtain ⟨other, differ⟩ := others c r other
    simp only [step, holds, finished]
    rw [AList.lookup_erase_ne differ]
    exact sound.outstanding c r other
  · intro c r other
    simp only [step, holds] at other
    obtain ⟨other, differ⟩ := others c r other
    rw [moved, if_neg (fun both => differ both.2)]
    exact sound.fenced c r other
  · intro c r other
    simp only [step, holds] at other
    exact sound.pending c r (others c r other).1
  · intro key
    rw [moved]
    cases commit with
    | false =>
      simpa [step, holds, finished, committedOn] using sound.inOrder key
    | true =>
      have listed : (server.step platform (.finish connection true)).committedOn key =
          server.committedOn key ++
            if reservation.key = key then [reservation.response] else [] := by
        simp only [step, holds, finished, committedOn, filter_append, map_append]
        by_cases same : reservation.key = key <;> simp [same]
      rw [listed, map_append, sound.inOrder key]
      by_cases same : reservation.key = key
      · subst same
        obtain ⟨interaction, present, encoded⟩ := sound.pending _ _ holds
        simp only [true_and, if_true]
        rw [← sound.fenced _ _ holds, take_add_one, present, map_append]
        simp [encoded]
      · simp [same, Ne.symm same]

theorem Sound.step (move : Move) :
    (server.step platform move).Sound cassette := by
  cases move with
  | reserve connection route request =>
    cases idle : server.connections connection with
    | some reservation => simpa only [Server.step, idle] using sound
    | none =>
      cases reserved : server.service.reserve platform route request with
      | error error => simpa only [Server.step, idle, reserved] using sound
      | ok value =>
        simpa only [Server.step, idle, reserved] using sound.reserve idle reserved
  | finish connection commit =>
    cases holds : server.connections connection with
    | none => simpa only [Server.step, holds] using sound
    | some reservation => exact sound.finish commit holds

/-- A step leaves the routes it is not on alone. -/
theorem Sound.apart (move : Move) (key : String × String) (other : server.routeOf move ≠ some key) :
    (server.step platform move).service.cursor key = server.service.cursor key ∧
      (server.step platform move).service.state.reservations.lookup key =
        server.service.state.reservations.lookup key := by
  cases move with
  | reserve connection route request =>
    have differ : key ≠ route.key := fun same => other (by rw [same]; rfl)
    simp only [Server.step]
    cases idle : server.connections connection with
    | some reservation => exact ⟨rfl, rfl⟩
    | none =>
      cases reserved : server.service.reserve platform route request with
      | error error => exact ⟨rfl, rfl⟩
      | ok value =>
        obtain ⟨_, _, _, _, same⟩ := reserve_ok reserved
        simp only [same]
        exact ⟨rfl, AList.lookup_insert_ne differ⟩
  | finish connection commit =>
    simp only [Server.step]
    cases holds : server.connections connection with
    | none => exact ⟨rfl, rfl⟩
    | some reservation =>
      have differ : key ≠ reservation.key := by
        rintro rfl
        exact other (by simp [routeOf, holds])
      simp only [finishReservation_eq commit (sound.outstanding _ _ holds)
        (sound.fenced _ _ holds), cursor]
      refine ⟨?_, AList.lookup_erase_ne differ⟩
      cases commit with
      | false => rfl
      | true => simp [AList.lookup_insert_ne differ]

theorem Sound.protocol : server.Protocol platform cassette where
  single := sound.single
  fenced := sound.fenced
  inOrder := sound.inOrder
  apart := sound.apart
  finishes c r commit holds := by
    rw [finishReservation_eq commit (sound.outstanding c r holds)
      (sound.fenced c r holds)]

end

theorem sound_run {limits : ReplayLimits} {service : StrictReplayService}
    (accepted : StrictReplayService.new platform cassette limits = .ok service)
    (moves : List Move) : (moves.foldl (step platform) (opened service)).Sound cassette := by
  have kept : ∀ before move after, Sound cassette before → after = step platform before move →
      Sound cassette after := by
    rintro before move after sound rfl
    exact sound.step move
  exact (Run.foldl (step platform) (opened service) moves).invariant kept (sound_open accepted)

/-- For every cassette a service accepts and every interleaving of its connections. -/
theorem cursor_protocol (platform : Platform) (cassette : Cassette) (limits : ReplayLimits)
    (service : StrictReplayService)
    (accepted : StrictReplayService.new platform cassette limits = .ok service)
    (moves : List Move) :
    (moves.foldl (step platform) (opened service)).Protocol platform cassette :=
  (sound_run accepted moves).protocol

/-- The small cassette is served: one connection reserves its interaction, another one that asks
for it is refused, and the first commits. -/
theorem sampleCassette_served : ∃ service reservation,
    StrictReplayService.new samplePlatform sampleCassette {} = .ok service ∧
    ([.reserve 0 sampleRoute sampleHttpRequest].foldl (step samplePlatform)
      (opened service)).connections 0 = some reservation ∧
    reservation.response = ⟨200, [], [textBytes "null".toList], [0]⟩ ∧
    ([.reserve 0 sampleRoute sampleHttpRequest, .reserve 1 sampleRoute sampleHttpRequest,
      .finish 0 true].foldl (step samplePlatform) (opened service)).service.cursor
        sampleRoute.key = 1 := by
  obtain ⟨result, alone⟩ : ∃ result,
    result = new samplePlatform sampleCassette {} := ⟨_, rfl⟩
  have moved : (result.toOption.bind fun service =>
      (([.reserve 0 sampleRoute sampleHttpRequest].foldl (step samplePlatform)
        (opened service)).connections 0).map fun reservation => (reservation.response,
          ([.reserve 0 sampleRoute sampleHttpRequest, .reserve 1 sampleRoute sampleHttpRequest,
            .finish 0 true].foldl (step samplePlatform) (opened service)).service.cursor
              sampleRoute.key)) = some (⟨200, [], [textBytes "null".toList], [0]⟩, 1) := by
    rw [alone]
    decide +kernel
  cases result with
  | error error => cases moved
  | ok service =>
    obtain ⟨reservation, holds, both⟩ := Option.map_eq_some_iff.mp moved
    obtain ⟨response, cursor⟩ := Prod.mk.inj both
    exact ⟨service, reservation, alone.symm, holds, response, cursor⟩

/-- Two connections ask for one route: the first reserves and commits its interaction. -/
theorem cursor_protocol_sample :
    ∃ service, StrictReplayService.new samplePlatform sampleCassette {} = .ok service ∧
      let moves := [.reserve 0 sampleRoute sampleHttpRequest,
        .reserve 1 sampleRoute sampleHttpRequest, .finish 0 true]
      let server := moves.foldl (step samplePlatform) (opened service)
      server.service.cursor sampleRoute.key = 1 ∧
        server.Protocol samplePlatform sampleCassette := by
  obtain ⟨service, -, accepted, -, -, cursor⟩ := sampleCassette_served
  exact ⟨service, accepted, cursor,
    cursor_protocol samplePlatform sampleCassette {} service accepted _⟩

end Server

end AgentSystemsBenchmark.Replay
