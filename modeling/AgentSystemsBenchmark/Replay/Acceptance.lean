import AgentSystemsBenchmark.Replay.Service

/-!
# What an accepted cassette is

The canonical text of a value is one for all orders of its members. The contents a cassette
is accepted with are causal: ordinals count up within a session and attempt, and a response
identity is established once and before anything refers to it. Sealed bytes are read back as
they were sealed, however they are split. The descriptor of a cassette is not checked as
policies are, so only what a redactor wrote is known to be a policy.
-/

namespace AgentSystemsBenchmark.Replay

open Effects Json List

/-! ## Canonical texts -/

theorem canonicalJsonBytes_eq_ok (h : canonicalJsonBytes v = .ok text) : text = v.canonical := by
  rw [canonicalJsonBytes, canonicalValueBounded, seq_eq_ok] at h
  exact (pure_eq_ok.mp h.2).symm

theorem canonicalJsonBytes_congr (same : v.canonical = w.canonical) :
    canonicalJsonBytes v = canonicalJsonBytes w := by
  rw [canonicalJsonBytes, canonicalJsonBytes, canonicalValueBounded, canonicalValueBounded, same]

/-- Two values have one canonical text exactly when they are equal up to the order of members
at every depth; their digests are then the same. -/
theorem canonical_text_iff_reordered {v w : Value} (hv : v.Proper) (hw : w.Proper)
    {text text' : List Char} (written : canonicalJsonBytes v = .ok text)
    (written' : canonicalJsonBytes w = .ok text') :
    (textBytes text = textBytes text' ↔ v.Reordered w) ∧
      (v.Reordered w →
        ∀ platform, canonicalValueDigest platform v = canonicalValueDigest platform w) := by
  obtain rfl := canonicalJsonBytes_eq_ok written
  obtain rfl := canonicalJsonBytes_eq_ok written'
  have exactly := Value.canonical_eq_iff hv hw
  constructor
  · rw [← exactly]
    constructor
    · intro same
      exact String.ofList_injective (Numerals.bytes_injective same)
    · intro same
      rw [same]
  · intro reordered platform
    rw [canonicalValueDigest, canonicalValueDigest,
      canonicalJsonBytes_congr (exactly.mpr reordered)]

theorem canonical_text_iff_reordered_sample :
    (Value.object [("b", .null), ("a", .array [.bool true])]).Reordered
      (.object [("a", .array [.bool true]), ("b", .null)]) :=
  have left : (Value.object [("b", .null), ("a", .array [.bool true])]).Proper :=
    ⟨by decide, trivial, ⟨trivial, trivial⟩, trivial⟩
  have right : (Value.object [("a", .array [.bool true]), ("b", .null)]).Proper :=
    ⟨by decide, ⟨trivial, trivial⟩, trivial, trivial⟩
  (canonical_text_iff_reordered left right rfl rfl).1.mp rfl

/-! ## Causality -/

/-- A response identity that a cassette refers to, or one that it establishes. -/
inductive Mention where
  | refers (name : ResponseName)
  | establishes (name : ResponseName)
  deriving DecidableEq

def Mention.established : Mention → Option ResponseName
  | .refers _ => none
  | .establishes name => some name

def mention (session attempt : String) (previous established : Option String) : List Mention :=
  previous.toList.map (fun id => .refers (session, attempt, id)) ++
    established.toList.map fun id => .establishes (session, attempt, id)

def CassetteEvent.mentions (session attempt : String) (event : CassetteEvent) : List Mention :=
  mention session attempt event.previousResponseId event.responseId

def ResponseBody.mentions (session attempt : String) : ResponseBody → List Mention
  | .buffered _ _ responseId _ => mention session attempt none responseId
  | .events recorded _ => recorded.flatMap (·.mentions session attempt)

/-- The identities in the order they stand in: the request's, then the response's. -/
def Interaction.mentions (interaction : Interaction) : List Mention :=
  mention interaction.sessionId interaction.attemptId interaction.request.previousResponseId none ++
    interaction.response.body.mentions interaction.sessionId interaction.attemptId

def ResponseBody.recordedEvents : ResponseBody → List CassetteEvent
  | .buffered .. => []
  | .events recorded _ => recorded

/-- Events are numbered from zero, their offsets do not decrease, and the last one alone is
terminal. -/
structure OrderedEvents (recorded : List CassetteEvent) : Prop where
  numbered : recorded.map (·.sequence) = List.range recorded.length
  ordered : recorded.Pairwise fun a b => a.monotonicOffsetNs ≤ b.monotonicOffsetNs
  terminal : ∀ i event, recorded[i]? = some event →
    (event.terminal.isSome = true ↔ i + 1 = recorded.length)

/-- Identities are established once, and before they are referred to. -/
structure CausalMentions (mentions : List Mention) : Prop where
  once : (mentions.filterMap Mention.established).Nodup
  earlier : ∀ before name after, mentions = before ++ .refers name :: after →
    .establishes name ∈ before

/-- The interactions of a session and attempt, in the order they stand in. -/
def ofPair (session attempt : String) (interactions : List Interaction) : List Interaction :=
  interactions.filter fun i => i.sessionId = session ∧ i.attemptId = attempt

structure Causal (maximum : Nat) (interactions : List Interaction) : Prop where
  ordinals : ∀ session attempt,
    (ofPair session attempt interactions).map (·.ordinal) =
      List.range (ofPair session attempt interactions).length
  identities : (interactions.map (·.interactionId)).Nodup
  mentions : CausalMentions (interactions.flatMap (·.mentions))
  events : ∀ i ∈ interactions, OrderedEvents i.response.body.recordedEvents
  total : (interactions.map fun i => i.response.body.recordedEvents.length).sum ≤ maximum

variable {mentions : List Mention}

section
variable (causal : CausalMentions mentions)
include causal

theorem CausalMentions.earlier_snoc (last : ∀ name, m = .refers name → .establishes name ∈ mentions)
    (before : List Mention) (name : ResponseName) (after : List Mention)
    (split : mentions ++ [m] = before ++ .refers name :: after) : .establishes name ∈ before := by
  rcases eq_nil_or_concat after with rfl | ⟨after, other, rfl⟩
  · obtain ⟨rfl, same⟩ := append_inj' split rfl
    exact last name (List.cons.inj same).1
  · rw [concat_eq_append, ← cons_append, ← append_assoc] at split
    exact causal.earlier before name after (append_inj' split rfl).1

theorem CausalMentions.refers (known : .establishes name ∈ mentions) :
    CausalMentions (mentions ++ [.refers name]) where
  once := by
    rw [filterMap_append]
    exact (append_nil _).symm ▸ causal.once
  earlier := causal.earlier_snoc fun _ same => Mention.refers.inj same ▸ known

theorem CausalMentions.establishes (fresh : .establishes name ∉ mentions) :
    CausalMentions (mentions ++ [.establishes name]) where
  once := by
    rw [filterMap_append]
    refine nodup_append.mpr ⟨causal.once, nodup_singleton name, ?_⟩
    rintro other old _ new rfl
    obtain ⟨m, mem, is⟩ := mem_filterMap.mp old
    cases m with
    | refers => cases is
    | establishes =>
      cases is
      cases mem_singleton.mp new
      exact fresh mem
  earlier := causal.earlier_snoc nofun

end

/-- The identities a check knows are those established so far. -/
structure Tracks (known : List ResponseName) (mentions : List Mention) : Prop where
  causal : CausalMentions mentions
  exactly : ∀ name, name ∈ known ↔ .establishes name ∈ mentions

theorem Tracks.mention (tracks : Tracks known mentions)
    (referred : refers session attempt known previous = .ok ())
    (added : establish session attempt known established = .ok known') :
    Tracks known' (mentions ++ mention session attempt previous established) := by
  have first : Tracks known (mentions ++ previous.toList.map fun id =>
      Mention.refers (session, attempt, id)) := by
    cases previous with
    | none => simpa using tracks
    | some id =>
      have old : (session, attempt, id) ∈ known := by simpa [Replay.refers] using referred
      refine ⟨tracks.causal.refers ((tracks.exactly _).mp old), fun name => ?_⟩
      simp [tracks.exactly name]
  rw [Replay.mention, ← append_assoc]
  cases established with
  | none =>
    cases added
    simpa using first
  | some id =>
    rw [establish, seq_eq_ok, seq_eq_ok, refuse_eq_ok] at added
    obtain ⟨-, fresh, added⟩ := added
    cases pure_eq_ok.mp added
    refine ⟨first.causal.establishes (fresh ∘ (first.exactly _).mpr), fun name => ?_⟩
    simp [first.exactly name, or_comm]

/-! ### Events -/

section Platform
variable {platform : Platform} {limits : CassetteLimits}

variable {session attempt : String} {known' : List ResponseName}

theorem validateEvent_ok {total position prior : Nat}
    {known : List ResponseName} {event : CassetteEvent}
    (h : validateEvent platform limits session attempt total position prior known event =
      .ok known') :
    event.sequence = position ∧ (position ≠ 0 → prior ≤ event.monotonicOffsetNs) ∧
      (event.terminal.isSome = true ↔ position + 1 = total) ∧
      refers session attempt known event.previousResponseId = .ok () ∧
      establish session attempt known event.responseId = .ok known' := by
  simp only [validateEvent, bind_eq_ok] at h
  obtain ⟨⟨⟩, shape, _, -, ⟨⟩, -, _, -, ⟨⟩, -, ⟨⟩, referred, next, added, ended⟩ := h
  rw [refuse_eq_ok] at shape
  push Not at shape
  obtain ⟨sequence, offset, -, terminal⟩ := shape
  have same : next = known' := by
    cases named : event.toolCallId with
    | none =>
      rw [named] at ended
      exact pure_eq_ok.mp ended
    | some id =>
      rw [named] at ended
      exact pure_eq_ok.mp (seq_eq_ok.mp ended).2
  refine ⟨sequence, offset, ?_, referred, same ▸ added⟩
  rw [terminal, decide_eq_true_iff]

/-- The rest of a stream of events, from the position and the offset it has come to. -/
structure EventsFrom (total position prior : Nat) (recorded : List CassetteEvent) : Prop where
  numbered : recorded.map (·.sequence) = List.range' position recorded.length
  after : position ≠ 0 → ∀ event ∈ recorded, prior ≤ event.monotonicOffsetNs
  ordered : recorded.Pairwise fun a b => a.monotonicOffsetNs ≤ b.monotonicOffsetNs
  terminal : ∀ i event, recorded[i]? = some event →
    (event.terminal.isSome = true ↔ position + i + 1 = total)

variable {recorded : List CassetteEvent}

theorem validateEvents_ok {total position prior : Nat}
    {known : List ResponseName} {mentions : List Mention} (tracks : Tracks known mentions)
    (h : validateEvents platform limits session attempt total position prior known recorded =
      .ok known') :
    EventsFrom total position prior recorded ∧
      Tracks known' (mentions ++ recorded.flatMap (·.mentions session attempt)) := by
  induction recorded generalizing position prior known mentions with
  | nil =>
    cases h
    exact ⟨⟨rfl, nofun, .nil, nofun⟩, by simpa using tracks⟩
  | cons event rest ih =>
    rw [validateEvents, bind_eq_ok] at h
    obtain ⟨between, checked, h⟩ := h
    obtain ⟨sequence, offset, terminal, referred, added⟩ := validateEvent_ok checked
    obtain ⟨onward, tracked⟩ := ih (tracks.mention referred added) h
    have later := onward.after (Nat.succ_ne_zero position)
    refine ⟨⟨?_, ?_, ?_, ?_⟩, ?_⟩
    · rw [map_cons, sequence, onward.numbered]
      rfl
    · intro moved
      refine forall_mem_cons.mpr ⟨offset moved, fun e mem => ?_⟩
      exact (offset moved).trans (later e mem)
    · exact pairwise_cons.mpr ⟨later, onward.ordered⟩
    · intro i e found
      cases i with
      | zero =>
        cases found
        exact terminal
      | succ i =>
        rw [onward.terminal i e found]
        omega
    · rw [flatMap_cons, ← append_assoc]
      exact tracked

theorem EventsFrom.orderedEvents
    (h : EventsFrom recorded.length 0 0 recorded) : OrderedEvents recorded where
  numbered := by rw [h.numbered, List.range_eq_range']
  ordered := h.ordered
  terminal i event found := by simpa using h.terminal i event found

/-! ### Interactions -/

variable {seen' : Seen}

theorem validateResponse_ok
    (h : validateResponse platform limits session attempt seen response = .ok seen')
    (tracks : Tracks seen.responseIds mentions) :
    OrderedEvents response.body.recordedEvents ∧
      Tracks seen'.responseIds (mentions ++ response.body.mentions session attempt) ∧
      seen'.totalEvents = seen.totalEvents + response.body.recordedEvents.length ∧
      seen'.interactionIds = seen.interactionIds ∧ seen'.ordinals = seen.ordinals := by
  rw [validateResponse, seq_eq_ok, seq_eq_ok] at h
  obtain ⟨-, -, h⟩ := h
  cases body : response.body with
  | buffered payload digest responseId terminal =>
    simp only [body, bind_eq_ok] at h
    obtain ⟨_, -, ⟨⟩, -, _, -, ⟨⟩, -, known, added, ended⟩ := h
    cases pure_eq_ok.mp ended
    refine ⟨⟨rfl, .nil, nofun⟩, tracks.mention ?_ added, rfl, rfl, rfl⟩
    exact refuse_eq_ok.mpr nofun
  | events recorded chunks =>
    simp only [body, bind_eq_ok] at h
    obtain ⟨⟨⟩, -, ⟨⟩, -, ⟨⟩, -, known, checked, ended⟩ := h
    cases pure_eq_ok.mp ended
    obtain ⟨ordered, tracked⟩ := validateEvents_ok tracks checked
    exact ⟨ordered.orderedEvents, tracked, rfl, rfl, rfl⟩

variable {interaction : Interaction}

theorem validateInteraction_ok
    (h : validateInteraction platform limits seen interaction = .ok seen') :
    interaction.interactionId ∉ seen.interactionIds ∧
      interaction.ordinal =
        (seen.ordinals.lookup (interaction.sessionId, interaction.attemptId)).getD 0 ∧
      refers interaction.sessionId interaction.attemptId seen.responseIds
        interaction.request.previousResponseId = .ok () ∧
      validateResponse platform limits interaction.sessionId interaction.attemptId
        { seen with
          interactionIds := interaction.interactionId :: seen.interactionIds
          ordinals := seen.ordinals.insert (interaction.sessionId, interaction.attemptId)
            ((seen.ordinals.lookup (interaction.sessionId, interaction.attemptId)).getD 0 + 1) }
        interaction.response = .ok seen' ∧
      seen'.totalEvents ≤ limits.maxEvents := by
  rw [validateInteraction, seq_eq_ok, seq_eq_ok, seq_eq_ok, seq_eq_ok, seq_eq_ok, seq_eq_ok,
    seq_eq_ok, seq_eq_ok, bind_eq_ok] at h
  obtain ⟨-, -, -, fresh, ordinal, -, -, referred, after, checked, ended⟩ := h
  obtain ⟨bounded, ended⟩ := seq_eq_ok.mp ended
  cases pure_eq_ok.mp ended
  refine ⟨refuse_eq_ok.mp fresh, ?_, referred, checked, ?_⟩
  · exact not_not.mp (refuse_eq_ok.mp ordinal)
  · exact not_lt.mp (refuse_eq_ok.mp bounded)

theorem ofPair_snoc (session attempt : String) (done : List Interaction) (i : Interaction) :
    ofPair session attempt (done ++ [i]) = ofPair session attempt done ++
      if i.sessionId = session ∧ i.attemptId = attempt then [i] else [] := by
  rw [ofPair, filter_append, ofPair]
  by_cases pair : i.sessionId = session ∧ i.attemptId = attempt
  · rw [if_pos pair, filter_singleton, decide_eq_true pair]
    rfl
  · rw [if_neg pair, filter_singleton, decide_eq_false pair]
    rfl

theorem Causal.snoc {done : List Interaction} {maximum : Nat}
    (causal : Causal maximum done) (fresh : interaction.interactionId ∉ done.map (·.interactionId))
    (ordinal : interaction.ordinal =
      (ofPair interaction.sessionId interaction.attemptId done).length)
    (mentions : CausalMentions ((done ++ [interaction]).flatMap (·.mentions)))
    (ordered : OrderedEvents interaction.response.body.recordedEvents)
    (bounded : ((done ++ [interaction]).map fun i => i.response.body.recordedEvents.length).sum ≤
      maximum) : Causal maximum (done ++ [interaction]) where
  ordinals session attempt := by
    rw [ofPair_snoc, map_append, causal.ordinals session attempt]
    split
    case isTrue pair =>
      obtain ⟨rfl, rfl⟩ := pair
      rw [length_append, length_singleton, List.range_succ, map_singleton, ordinal]
    case isFalse =>
      rw [append_nil]
      exact append_nil _
  identities := by
    rw [map_append]
    refine nodup_append.mpr ⟨causal.identities, nodup_singleton _, ?_⟩
    rintro a old b new rfl
    cases mem_singleton.mp new
    exact fresh old
  mentions := mentions
  events i mem := by
    rcases mem_append.mp mem with old | new
    · exact causal.events i old
    · exact mem_singleton.mp new ▸ ordered
  total := bounded

/-- What the check has passed, in terms of what it keeps. -/
structure Accounts (limits : CassetteLimits) (done : List Interaction) (seen : Seen) : Prop where
  causal : Causal limits.maxEvents done
  identities : ∀ id, id ∈ seen.interactionIds ↔ id ∈ done.map (·.interactionId)
  next : ∀ session attempt, (seen.ordinals.lookup (session, attempt)).getD 0 =
    (ofPair session attempt done).length
  tracks : Tracks seen.responseIds (done.flatMap (·.mentions))
  total : seen.totalEvents = (done.map fun i => i.response.body.recordedEvents.length).sum

theorem Accounts.snoc {done : List Interaction}
    {seen : Seen} (accounts : Accounts limits done seen)
    (h : validateInteraction platform limits seen interaction = .ok seen') :
    Accounts limits (done ++ [interaction]) seen' := by
  obtain ⟨fresh, ordinal, referred, checked, bounded⟩ := validateInteraction_ok h
  have asked : Tracks seen.responseIds (done.flatMap (·.mentions) ++
      mention interaction.sessionId interaction.attemptId
        interaction.request.previousResponseId none) := accounts.tracks.mention referred rfl
  obtain ⟨ordered, tracked, total, identities, ordinals⟩ := validateResponse_ok checked asked
  have tracks : Tracks seen'.responseIds ((done ++ [interaction]).flatMap (·.mentions)) := by
    rw [flatMap_append, flatMap_singleton, Interaction.mentions, ← append_assoc]
    exact tracked
  have sum : seen'.totalEvents =
      ((done ++ [interaction]).map fun i => i.response.body.recordedEvents.length).sum := by
    rw [total, accounts.total, map_append, sum_append, map_singleton,
      sum_singleton]
  refine ⟨?_, ?_, ?_, tracks, sum⟩
  · refine accounts.causal.snoc (fresh ∘ (accounts.identities _).mpr) ?_ tracks.causal ordered ?_
    · rw [ordinal, accounts.next]
    · rw [← sum]
      exact bounded
  · intro id
    rw [identities, mem_cons, accounts.identities, map_append, mem_append,
      map_singleton, mem_singleton, or_comm]
  · intro session attempt
    rw [ordinals, ofPair_snoc, length_append]
    split
    case isTrue pair =>
      obtain ⟨rfl, rfl⟩ := pair
      rw [AList.lookup_insert, Option.getD_some, accounts.next]
      rfl
    case isFalse other =>
      have apart : (session, attempt) ≠ (interaction.sessionId, interaction.attemptId) := by
        rintro ⟨⟩
        exact other ⟨rfl, rfl⟩
      rw [AList.lookup_insert_ne apart, accounts.next]
      rfl

/-- Accepted contents are causal. -/
theorem validateContents_causal {contents : CassetteContents}
    (h : validateContents platform limits contents = .ok ()) :
    Causal limits.maxEvents contents.interactions := by
  simp only [validateContents, bind_eq_ok] at h
  obtain ⟨⟨⟩, -, ⟨⟩, -, ⟨⟩, -, ⟨⟩, -, ⟨⟩, -, ⟨⟩, -, ⟨⟩, -, seen, folded, -⟩ := h
  have start : Accounts limits [] {} :=
    { causal := ⟨fun _ _ => rfl, .nil, ⟨.nil, fun before _ _ split => by simp at split⟩, nofun,
        Nat.zero_le _⟩
      identities := fun _ => Iff.rfl
      next := fun _ _ => rfl
      tracks := ⟨⟨.nil, fun before _ _ split => by simp at split⟩, fun _ => by simp⟩
      total := rfl }
  exact (foldlM_trace (fun _ _ _ _ => Accounts.snoc) start folded).causal

end Platform

/-- A request to continue after a response. -/
def requestAfter (previousResponseId : Option String) : RecordedRequest where
  method := "POST"
  path := "/v1/responses"
  headers := []
  body := sampleBody.value
  bodySha256 := zeros
  model := "m"
  options := []
  tools := []
  previousResponseId := previousResponseId

def recordedEvent (sequence : Nat) (responseId previousResponseId : Option String)
    (terminal : Option TerminalEvent) : CassetteEvent :=
  ⟨sequence, 10 * sequence, "response", .object [("delta", .string "x")], zeros, responseId,
    previousResponseId, none, terminal⟩

/-- A stream that establishes a response and refers to it. -/
def streamed : Interaction :=
  ⟨"s", "a", "i1", 0, .openaiResponses, requestAfter none, 200, [],
    .events [recordedEvent 0 (some "r") none none,
      recordedEvent 1 none (some "r") (some .completed)] [5]⟩

/-- Another session between the two exchanges of the first, the second of which continues the
stream. -/
def interleaved : List Interaction :=
  [streamed,
    ⟨"t", "a", "i2", 0, .openaiResponses, requestAfter none, 200, [],
      .buffered .null zeros (some "r") .completed⟩,
    ⟨"s", "a", "i3", 1, .openaiResponses, requestAfter (some "r"), 200, [],
      .buffered .null zeros none .completed⟩]

def cassetteOf (version : Nat) (selectors : RedactionSelectors) (interactions : List Interaction) :
    Cassette :=
  ⟨⟨1, "c", none, 1, ⟨version, selectors, zeros⟩, interactions⟩, "sha256", zeros⟩

theorem validateContents_causal_sample : Causal maxEvents interleaved := by
  have accepted : validateContents samplePlatform {}
      (cassetteOf 1 ⟨[], [], [], [], []⟩ interleaved).contents = .ok () := by
    decide +kernel
  exact validateContents_causal accepted

/-! ## Sealed bytes -/

theorem length_textBytes (text : List Char) : (textBytes text).length = byteLength text := by
  rw [textBytes, Numerals.length_bytes]
  induction text with
  | nil => rfl
  | cons c rest ih =>
    rw [String.ofList_cons, String.utf8ByteSize_append, ih, String.utf8ByteSize_singleton]
    rfl

def sealedBytes (cassette : Cassette) : List UInt8 := textBytes cassette.json.print

/-! ### The scan for duplicate members -/

namespace NoDuplicateVisitor

mutual
theorem visit_proper (v : Value) (proper : v.Proper) : visit v = .ok () := by
  cases v with
  | null | bool | number | string => rfl
  | array items => exact visitSeq_proper items proper
  | object members => exact visitMap_proper [] members proper.2 (by simpa using proper.1)

theorem visitSeq_proper (items : List Value) (proper : ProperItems items) :
    visitSeq items = .ok () := by
  cases items with
  | nil => rfl
  | cons item rest =>
    exact seq_eq_ok.mpr ⟨visit_proper item proper.1, visitSeq_proper rest proper.2⟩

theorem visitMap_proper (names : List String) (members : List (String × Value))
    (proper : ProperMembers members) (apart : (names.reverse ++ members.map Prod.fst).Nodup) :
    visitMap names members = .ok () := by
  rcases members with _ | ⟨⟨name, value⟩, rest⟩
  · rfl
  · have fresh : name ∉ names := by
      intro old
      exact (nodup_append.mp apart).2.2 name (mem_reverse.mpr old) name (by simp) rfl
    refine guard_eq_ok.mpr ⟨fresh, seq_eq_ok.mpr ⟨visit_proper value proper.1, ?_⟩⟩
    exact visitMap_proper (name :: names) rest proper.2 (by simpa using apart)
end

end NoDuplicateVisitor

/-- The values a cassette carries along are documents: JSON maps hold a name once. -/
structure RecordedRequest.Proper (request : RecordedRequest) : Prop where
  body : request.body.Proper
  options : (Value.object request.options).Proper
  tools : (Value.array request.tools).Proper

def ResponseBody.Proper : ResponseBody → Prop
  | .buffered payload _ _ _ => payload.Proper
  | .events recorded _ => ∀ event ∈ recorded, event.payload.Proper

def CassetteContents.Proper (contents : CassetteContents) : Prop :=
  ∀ i ∈ contents.interactions, i.request.Proper ∧ i.response.body.Proper

section Documents

theorem proper_array {json : α → Value} {items : List α} (proper : ∀ a ∈ items, (json a).Proper) :
    (Value.array (items.map json)).Proper :=
  properItems_iff.mpr (forall_mem_map.mpr proper)

theorem proper_texts (items : List String) : (texts items).Proper :=
  proper_array fun _ _ => trivial

theorem proper_header (header : Header) : header.json.Proper := by
  simp [Header.json, Value.Proper, ProperMembers]

theorem proper_rule (rule : RequestBodyRedactionRule) : rule.json.Proper := by
  simp [RequestBodyRedactionRule.json, Value.Proper, ProperMembers, proper_texts]

theorem proper_descriptor (descriptor : RedactionDescriptor) : descriptor.json.Proper := by
  have rules := proper_array fun rule (_ : rule ∈ descriptor.selectors.requestBodyRules) =>
    proper_rule rule
  have selectors : descriptor.selectors.json.Proper := by
    rw [RedactionSelectors.json]
    simp only [Value.Proper] at rules
    split <;> simp [Value.Proper, ProperMembers, proper_texts, rules]
  simp [RedactionDescriptor.json, Value.Proper, ProperMembers, selectors, count, Number.Normal]

theorem proper_request {request : RecordedRequest} (proper : request.Proper) :
    request.json.Proper := by
  have headers := proper_array fun header (_ : header ∈ request.headers) => proper_header header
  obtain ⟨body, options, tools⟩ := proper
  simp only [Value.Proper] at headers options tools
  cases previous : request.previousResponseId <;>
    simp [RecordedRequest.json, Value.Proper, ProperMembers, previous, optional, headers, body,
      options, tools]

theorem proper_event {event : CassetteEvent} (proper : event.payload.Proper) :
    event.json.Proper := by
  cases responseId : event.responseId <;> cases previous : event.previousResponseId <;>
    cases tool : event.toolCallId <;> cases terminal : event.terminal <;>
    simp [CassetteEvent.json, Value.Proper, ProperMembers, count, Number.Normal, optional, proper,
      responseId, previous, tool, terminal]

theorem proper_body {body : ResponseBody} (proper : body.Proper) : body.json.Proper := by
  cases body with
  | buffered payload digest responseId terminal =>
    have payload : payload.Proper := proper
    cases responseId <;> simp [ResponseBody.json, Value.Proper, ProperMembers, optional, payload]
  | events recorded chunks =>
    have events := proper_array fun event mem => proper_event (proper event mem)
    have sizes : (Value.array (chunks.map count)).Proper := proper_array fun _ _ => trivial
    simp only [Value.Proper] at events sizes
    simp [ResponseBody.json, Value.Proper, ProperMembers, events, sizes]

theorem proper_interaction {interaction : Interaction} (request : interaction.request.Proper)
    (response : interaction.response.body.Proper) : interaction.json.Proper := by
  have headers := proper_array fun header (_ : header ∈ interaction.response.headers) =>
    proper_header header
  simp only [Value.Proper] at headers
  have dialect : interaction.dialect.json.Proper := by
    cases interaction.dialect <;> trivial
  simp [Interaction.json, RecordedResponse.json, Value.Proper, ProperMembers, count, Number.Normal,
    headers, dialect, proper_request request, proper_body response]

/-- No object that a cassette is written with names a member twice. -/
theorem proper_cassette {cassette : Cassette} (proper : cassette.contents.Proper) :
    cassette.json.Proper := by
  have interactions := proper_array fun i mem =>
    proper_interaction (proper i mem).1 (proper i mem).2
  simp only [Value.Proper] at interactions
  cases profile : cassette.contents.providerProfileSha256 <;>
    simp [Cassette.json, CassetteContents.json, Value.Proper, ProperMembers, optional, count,
      Number.Normal, profile, proper_descriptor, interactions]

end Documents

section Bytes
variable (platform : Platform) (limits : CassetteLimits)

def joinChunks (maximum : Nat) : List UInt8 → List (List UInt8) → Except CassetteError (List UInt8)
  | bytes, [] => .ok bytes
  | bytes, chunk :: rest => do
    refuse (chunk.length > maximum - bytes.length) (.tooLarge "cassette")
    joinChunks maximum (bytes ++ chunk) rest

/-- Read chunks as they arrive into the same decoder. -/
def decodeCassetteChunks (chunks : List (List UInt8)) : Except CassetteError Cassette := do
  limits.validate
  let bytes ← joinChunks limits.maxCassetteBytes [] chunks
  decodeCassette platform limits bytes

theorem joinChunks_ok {maximum : Nat} {bytes : List UInt8} {chunks : List (List UInt8)}
    (fits : (bytes ++ chunks.flatten).length ≤ maximum) :
    joinChunks maximum bytes chunks = .ok (bytes ++ chunks.flatten) := by
  induction chunks generalizing bytes with
  | nil => rw [joinChunks, flatten_nil, append_nil]
  | cons chunk rest ih =>
    rw [flatten_cons, ← append_assoc] at fits ⊢
    rw [joinChunks, seq_eq_ok, refuse_eq_ok]
    refine ⟨?_, ih fits⟩
    simp only [length_append] at fits
    omega

variable {platform limits} {contents : CassetteContents} {sealed : Cassette}

theorem sealCassette_ok (h : sealCassette platform limits contents = .ok sealed) :
    sealed.contents = contents ∧ limits.validate = .ok () ∧
      validateContents platform limits contents = .ok () ∧
      (∃ canonical, canonicalContentsBounded contents limits.maxCassetteBytes = .ok canonical ∧
        sealed.integrity = ⟨"sha256", platform.sha256 canonical⟩) ∧
      (sealedBytes sealed).length ≤ limits.maxCassetteBytes := by
  rw [sealCassette, seq_eq_ok, seq_eq_ok, bind_eq_ok] at h
  obtain ⟨valid, accepted, canonical, written, h⟩ := h
  obtain ⟨text, encoded, h⟩ := bind_eq_ok.mp h
  cases pure_eq_ok.mp h
  rw [encodeBounded, seq_eq_ok, refuse_eq_ok] at encoded
  refine ⟨rfl, valid, accepted, ⟨canonical, written, rfl⟩, ?_⟩
  rw [sealedBytes, length_textBytes]
  exact not_lt.mp encoded.1

/-- A sealed cassette passes the check that authenticates it. -/
theorem validateCassetteValue_sealed (digests : ∀ text, validDigest (platform.sha256 text) = true)
    (h : sealCassette platform limits contents = .ok sealed) :
    validateCassetteValue platform limits sealed = .ok () := by
  obtain ⟨rfl, valid, accepted, ⟨canonical, written, integrity⟩, -⟩ := sealCassette_ok h
  rw [validateCassetteValue, seq_eq_ok, seq_eq_ok, seq_eq_ok, bind_eq_ok, integrity, refuse_eq_ok]
  refine ⟨valid, accepted, ?_, canonical, written, ?_⟩
  · rintro (other | malformed)
    · exact other rfl
    · rw [digests] at malformed
      cases malformed
  · exact refuse_eq_ok.mpr (not_not.mpr rfl)

/-- The bytes are read back as what was written. -/
structure Platform.ReadsBack (platform : Platform) (cassette : Cassette) : Prop where
  tree : platform.readJson (sealedBytes cassette) = some cassette.json
  record : platform.readCassette (sealedBytes cassette) = some cassette

theorem decodeCassette_sealed (digests : ∀ text, validDigest (platform.sha256 text) = true)
    (proper : contents.Proper) (inverse : platform.ReadsBack sealed)
    (h : sealCassette platform limits contents = .ok sealed) :
    decodeCassette platform limits (sealedBytes sealed) = .ok sealed := by
  obtain ⟨same, valid, -, -, fits⟩ := sealCassette_ok h
  have scanned : readNoDuplicateJson platform (sealedBytes sealed) = .ok () := by
    rw [readNoDuplicateJson, inverse.tree]
    exact NoDuplicateVisitor.visit_proper _ (proper_cassette (same ▸ proper))
  rw [decodeCassette, seq_eq_ok, seq_eq_ok, seq_eq_ok, inverse.record, refuse_eq_ok]
  refine ⟨valid, not_lt.mpr fits, scanned, ?_⟩
  exact seq_eq_ok.mpr ⟨validateCassetteValue_sealed digests h, rfl⟩

/-- What is sealed is read back under the same limits, as it was, however its bytes are split. -/
theorem sealed_round_trip (digests : ∀ text, validDigest (platform.sha256 text) = true)
    (proper : contents.Proper) (inverse : platform.ReadsBack sealed)
    (h : sealCassette platform limits contents = .ok sealed) :
    sealed.contents = contents ∧
      decodeCassette platform limits (sealedBytes sealed) = .ok sealed ∧
      ∀ chunks : List (List UInt8), chunks.flatten = sealedBytes sealed →
        decodeCassetteChunks platform limits chunks = .ok sealed := by
  obtain ⟨same, valid, -, -, fits⟩ := sealCassette_ok h
  have whole := decodeCassette_sealed digests proper inverse h
  refine ⟨same, whole, fun chunks split => ?_⟩
  rw [decodeCassetteChunks, seq_eq_ok, bind_eq_ok]
  refine ⟨valid, sealedBytes sealed, ?_, whole⟩
  have joined : joinChunks limits.maxCassetteBytes [] chunks = .ok ([] ++ chunks.flatten) := by
    apply joinChunks_ok
    rw [nil_append, split]
    exact fits
  rwa [nil_append, split] at joined

end Bytes

/-- A platform that reads every text as one cassette. -/
def readingPlatform (cassette : Cassette) : Platform :=
  { samplePlatform with
    readJson := fun _ => some cassette.json
    readCassette := fun _ => some cassette }

theorem validDigest_zeros : validDigest zeros = true := by decide

theorem proper_requestAfter (previous : Option String) : (requestAfter previous).Proper :=
  ⟨⟨by decide, trivial, trivial, trivial⟩, ⟨nodup_nil, trivial⟩, trivial⟩

/-- One stream, under a policy with a rule for it. -/
def ruledCassette : Cassette :=
  cassetteOf 2 ⟨["host"], [], [], [⟨"i1", "POST", ["/model"]⟩], []⟩ [streamed]

theorem proper_ruledCassette : ruledCassette.contents.Proper := by
  rintro i (_ | ⟨_, ⟨⟩⟩)
  refine ⟨proper_requestAfter none, ?_⟩
  rintro event (_ | ⟨_, _ | ⟨_, ⟨⟩⟩⟩) <;> exact ⟨by decide, trivial, trivial⟩

theorem sealCassette_ruledCassette : sealCassette (readingPlatform ruledCassette) {}
    ruledCassette.contents = .ok ruledCassette := by
  decide +kernel

/-- Its bytes, cut in two with an empty chunk between. -/
theorem sealed_round_trip_sample :
    decodeCassetteChunks (readingPlatform ruledCassette) {}
      [(sealedBytes ruledCassette).take 7, [], (sealedBytes ruledCassette).drop 7] =
      .ok ruledCassette := by
  have cut : ∀ text : List UInt8, [text.take 7, [], text.drop 7].flatten = text := by simp
  obtain ⟨-, -, chunks⟩ := sealed_round_trip (fun _ => validDigest_zeros) proper_ruledCassette
    ⟨rfl, rfl⟩ sealCassette_ruledCassette
  exact chunks _ (cut (sealedBytes ruledCassette))

/-! ## Persisted descriptors -/

/-- The policy that the selectors of a descriptor spell out. -/
def RedactionDescriptor.policy (descriptor : RedactionDescriptor) : RedactionPolicy where
  version := descriptor.version
  headerNames := .ofList descriptor.selectors.headerNames
  queryParameters := .ofList descriptor.selectors.queryParameters
  requestBodyPointers := .ofList descriptor.selectors.requestBodyPointers
  requestBodyRules := descriptor.selectors.requestBodyRules
  responseBodyPointers := .ofList descriptor.selectors.responseBodyPointers

/-- The rebuilt policy passes validation, and this is its descriptor. -/
def RedactionDescriptor.OfPolicy (platform : Platform) (descriptor : RedactionDescriptor) : Prop :=
  descriptor.policy.validate = .ok () ∧ descriptor.policy.descriptor platform = .ok descriptor

/-- Rules are in the order of their interactions and methods. -/
def RequestBodyRedactionRule.Before (rule next : RequestBodyRedactionRule) : Prop :=
  rule.interactionId < next.interactionId ∨
    rule.interactionId = next.interactionId ∧ rule.method < next.method

structure RequestBodyRedactionRule.Shaped (rule : RequestBodyRedactionRule) : Prop where
  method : rule.method = "POST"
  nonempty : rule.pointers ≠ []
  few : rule.pointers.length ≤ maxSelectors
  ascending : rule.pointers.IsChain (· < ·)
  pointers : ∀ pointer ∈ rule.pointers, validPointer pointer = true

/-- What a policy has to satisfy and a decoder does not look at. -/
structure RedactionDescriptor.Shaped (descriptor : RedactionDescriptor) : Prop where
  general : descriptor.version = 1 → descriptor.selectors.requestBodyRules = []
  ruled : descriptor.version = 2 → descriptor.selectors.requestBodyPointers = [] ∧
    descriptor.selectors.requestBodyRules ≠ []
  few : descriptor.selectors.headerNames.length + descriptor.selectors.queryParameters.length +
    descriptor.selectors.requestBodyPointers.length +
    (descriptor.selectors.requestBodyRules.map (·.pointers.length)).sum +
    descriptor.selectors.responseBodyPointers.length ≤ maxSelectors
  ordered : descriptor.selectors.requestBodyRules.IsChain RequestBodyRedactionRule.Before
  rules : ∀ rule ∈ descriptor.selectors.requestBodyRules, rule.Shaped
  headers : ∀ name ∈ descriptor.selectors.headerNames,
    name = toAsciiLowercase name ∧ validHeaderName name = true
  parameters : "" ∉ descriptor.selectors.queryParameters
  pointers : ∀ pointer ∈ descriptor.selectors.requestBodyPointers ++
    descriptor.selectors.responseBodyPointers, validPointer pointer = true

section Descriptors
variable {platform : Platform} {limits : CassetteLimits} {descriptor : RedactionDescriptor}

theorem rulesValid_iff (rules : List RequestBodyRedactionRule)
    (before : Option RequestBodyRedactionRule) :
    RedactionPolicy.rulesValid (before.map fun rule => (rule.interactionId, rule.method)) rules =
        true ↔
      (before.toList ++ rules).IsChain RequestBodyRedactionRule.Before ∧
        ∀ rule ∈ rules, validIdentity rule.interactionId = true ∧ rule.Shaped := by
  induction rules generalizing before with
  | nil => cases before <;> simp [RedactionPolicy.rulesValid]
  | cons rule rest ih =>
    have rest_iff := ih (some rule)
    rw [Option.map_some] at rest_iff
    have shaped : rule.Shaped ↔ rule.method = "POST" ∧ rule.pointers ≠ [] ∧
        rule.pointers.length ≤ maxSelectors ∧ rule.pointers.IsChain (· < ·) ∧
        ∀ pointer ∈ rule.pointers, validPointer pointer = true :=
      ⟨fun ⟨a, b, c, d, e⟩ => ⟨a, b, c, d, e⟩, fun ⟨a, b, c, d, e⟩ => ⟨a, b, c, d, e⟩⟩
    rw [RedactionPolicy.rulesValid, Bool.and_eq_true, rest_iff, forall_mem_cons, shaped]
    cases before <;>
      simp [isChain_cons_cons, RequestBodyRedactionRule.Before] <;> tauto

theorem validate_policy_iff (spelled : descriptor.policy.selectors = descriptor.selectors)
    (version : descriptor.version = 1 ∨ descriptor.version = 2)
    (named : ∀ rule ∈ descriptor.selectors.requestBodyRules, descriptor.version = 2 →
      validIdentity rule.interactionId = true) :
    descriptor.policy.validate = .ok () ↔ descriptor.Shaped := by
  have names : descriptor.policy.headerNames.items = descriptor.selectors.headerNames :=
    congrArg RedactionSelectors.headerNames spelled
  have parameters : descriptor.policy.queryParameters.items =
      descriptor.selectors.queryParameters := congrArg RedactionSelectors.queryParameters spelled
  have requests : descriptor.policy.requestBodyPointers.items =
      descriptor.selectors.requestBodyPointers :=
    congrArg RedactionSelectors.requestBodyPointers spelled
  have responses : descriptor.policy.responseBodyPointers.items =
      descriptor.selectors.responseBodyPointers :=
    congrArg RedactionSelectors.responseBodyPointers spelled
  have rules : descriptor.policy.requestBodyRules = descriptor.selectors.requestBodyRules := rfl
  have ordered := rulesValid_iff descriptor.selectors.requestBodyRules none
  rw [Option.map_none, Option.toList_none, nil_append] at ordered
  have shape : descriptor.policy.versionShapeValid = true ↔
      (descriptor.version = 1 → descriptor.selectors.requestBodyRules = []) ∧
        (descriptor.version = 2 → descriptor.selectors.requestBodyPointers = [] ∧
          descriptor.selectors.requestBodyRules ≠ []) := by
    have same : descriptor.policy.version = descriptor.version := rfl
    rw [RedactionPolicy.versionShapeValid, same, rules, requests]
    rcases version with one | two
    · simp [one, defaultRedactionPolicyVersion]
    · simp [two, defaultRedactionPolicyVersion, interactionRedactionPolicyVersion]
  rw [RedactionPolicy.validate, seq_eq_ok, refuse_eq_ok, refuse_eq_ok]
  simp only [not_or, Bool.not_eq_false, rules, ordered, shape, RedactionPolicy.selectorCount, names,
    parameters, requests, responses, Bool.not_eq_true, any_eq_false, not_and, not_not, not_lt]
  constructor
  · rintro ⟨-, few, ⟨general, ruled⟩, ⟨chain, each⟩, headers, named, pointers⟩
    refine ⟨general, ruled, few, chain, fun rule mem => (each rule mem).2, ?_, ?_, ?_⟩
    · intro name mem
      have checked : (name ≠ "" ∧ name = toAsciiLowercase name) ∧ validHeaderName name = true := by
        simpa using headers name mem
      exact ⟨checked.1.2, checked.2⟩
    · intro mem
      simpa using named "" mem
    · intro pointer mem
      simpa using pointers pointer mem
  · rintro ⟨general, ruled, few, chain, each, headers, unnamed, pointers⟩
    refine ⟨?_, few, ⟨general, ruled⟩, ⟨chain, fun rule mem => ⟨?_, each rule mem⟩⟩, ?_, ?_, ?_⟩
    · rcases version with one | two
      · exact fun other => absurd one other
      · exact fun _ => two
    · rcases version with one | two
      · rw [general one] at mem
        cases mem
      · exact named rule mem two
    · intro name mem
      obtain ⟨lowercase, valid⟩ := headers name mem
      have nonempty : name ≠ "" := by
        rintro rfl
        cases valid
      simpa [nonempty, valid] using lowercase
    · intro name mem
      have named : name ≠ "" := by
        rintro rfl
        exact unnamed mem
      simpa using named
    · intro pointer mem
      simpa using pointers pointer mem

theorem decodeCassette_ok {bytes : List UInt8} {cassette : Cassette}
    (h : decodeCassette platform limits bytes = .ok cassette) :
    validateContents platform limits cassette.contents = .ok () := by
  rw [decodeCassette, seq_eq_ok, seq_eq_ok, seq_eq_ok] at h
  obtain ⟨-, -, -, h⟩ := h
  cases read : platform.readCassette bytes with
  | none =>
    rw [read] at h
    cases h
  | some found =>
    rw [read] at h
    obtain ⟨checked, ended⟩ := seq_eq_ok.mp h
    cases pure_eq_ok.mp ended
    rw [validateCassetteValue, seq_eq_ok, seq_eq_ok] at checked
    exact checked.2.1

/-- Every interaction of accepted contents has a valid identity. -/
theorem validateContents_identities {contents : CassetteContents}
    (h : validateContents platform limits contents = .ok ()) :
    ∀ i ∈ contents.interactions, validIdentity i.interactionId = true := by
  simp only [validateContents, bind_eq_ok] at h
  obtain ⟨⟨⟩, -, ⟨⟩, -, ⟨⟩, -, ⟨⟩, -, ⟨⟩, -, ⟨⟩, -, ⟨⟩, -, seen, folded, -⟩ := h
  refine foldlM_trace (P := fun done _ => ∀ i ∈ done, validIdentity i.interactionId = true)
    ?_ (by simp) folded
  intro done interaction before after known checked
  rw [validateInteraction, seq_eq_ok, seq_eq_ok, seq_eq_ok] at checked
  have valid := refuse_eq_ok.mp checked.2.2.1
  refine forall_mem_append.mpr ⟨known, forall_mem_singleton.mpr ?_⟩
  simpa using valid

/-- The descriptor of an accepted cassette is that of a policy exactly when it has the shape the
decoder does not look at: its version, the order of its sets, its digest and the identities that its
rules name have been checked. -/
theorem decoded_descriptor_of_policy {bytes : List UInt8} {cassette : Cassette}
    (decoded : decodeCassette platform limits bytes = .ok cassette) :
    cassette.contents.redaction.OfPolicy platform ↔ cassette.contents.redaction.Shaped := by
  have accepted := decodeCassette_ok decoded
  have identities := validateContents_identities accepted
  generalize cassette.contents = contents at accepted identities ⊢
  simp only [validateContents, bind_eq_ok] at accepted
  obtain ⟨⟨⟩, -, ⟨⟩, -, ⟨⟩, -, ⟨⟩, versions, ⟨⟩, checked, ⟨⟩, -, ⟨⟩, -, seen, -, named⟩ := accepted
  rw [refuse_eq_ok] at versions checked named
  have version : contents.redaction.version = 1 ∨ contents.redaction.version = 2 := by
    by_contra neither
    exact versions (not_or.mp neither)
  have made : descriptorUnchecked platform contents.redaction.policy = .ok contents.redaction := by
    rw [Bool.not_eq_false, validateRedactionDescriptor, decide_eq_true_iff] at checked
    have expected := checked.2.2.2.2
    split at expected
    case h_1 unchecked =>
      rw [decide_eq_true_iff] at expected
      exact unchecked.trans (congrArg Except.ok expected)
    case h_2 => cases expected
  have spelled : contents.redaction.policy.selectors = contents.redaction.selectors := by
    rw [descriptorUnchecked, bind_eq_ok] at made
    obtain ⟨digest, -, ended⟩ := made
    exact congrArg RedactionDescriptor.selectors (pure_eq_ok.mp ended)
  have ruled : ∀ rule ∈ contents.redaction.selectors.requestBodyRules,
      contents.redaction.version = 2 → validIdentity rule.interactionId = true := by
    intro rule mem two
    rw [Bool.not_eq_false, validateInteractionRedaction, two] at named
    have covered : ∀ rule ∈ contents.redaction.selectors.requestBodyRules,
        ∃ interaction ∈ contents.interactions, interaction.interactionId = rule.interactionId ∧
          interaction.request.method = rule.method := by
      simpa [interactionRedactionPolicyVersion] using named
    obtain ⟨interaction, known, same⟩ := covered rule mem
    exact same.1 ▸ identities interaction known
  rw [← validate_policy_iff spelled version ruled, RedactionDescriptor.OfPolicy,
    RedactionPolicy.descriptor, seq_eq_ok, made]
  exact ⟨And.left, fun valid => ⟨valid, valid, rfl⟩⟩

end Descriptors

theorem decoded_descriptor_of_policy_sample :
    ruledCassette.contents.redaction.OfPolicy (readingPlatform ruledCassette) := by
  refine (decoded_descriptor_of_policy (decodeCassette_sealed (fun _ => validDigest_zeros)
    proper_ruledCassette ⟨rfl, rfl⟩ sealCassette_ruledCassette)).mpr
    ⟨by decide, by decide, by decide, .singleton _, ?_, by decide +kernel, by decide, by decide⟩
  rintro rule (_ | ⟨_, ⟨⟩⟩)
  exact ⟨rfl, by decide, by decide, by decide, by decide +kernel⟩

/-- The decoder accepts selectors that no policy may hold. -/
theorem decoded_descriptor_unvalidated :
    ¬ ∀ (platform : Platform) (limits : CassetteLimits) (bytes : List UInt8) (cassette : Cassette),
      decodeCassette platform limits bytes = .ok cassette →
        cassette.contents.redaction.OfPolicy platform := by
  intro claimed
  -- a header name with a capital letter
  let cassette := cassetteOf 1 ⟨["Host"], [], [], [], []⟩ []
  have written : sealCassette (readingPlatform cassette) {} cassette.contents = .ok cassette := by
    decide +kernel
  have proper : cassette.contents.Proper := by
    rintro i ⟨⟩
  have accepted := decodeCassette_sealed (fun _ => validDigest_zeros) proper ⟨rfl, rfl⟩ written
  have refused : cassette.contents.redaction.policy.validate = .error .invalidPolicy := by
    decide +kernel
  have valid := (claimed _ _ _ _ accepted).1
  rw [refused] at valid
  cases valid

end AgentSystemsBenchmark.Replay
