import AgentSystemsBenchmark.Replay.Dialects

/-!
# The strict replay service

A service holds the interactions of one cassette by route. A request is matched against
the next interaction of its route; the interaction is reserved while its response is
written, and the cursor of the route moves when the reservation is committed.
-/

namespace AgentSystemsBenchmark.Replay

open Effects Json

/-! ## Messages -/

def maxHttpHeadBytes : Nat := 64 * 1024
def maxHttpBodyBytes : Nat := 16 * 1024 * 1024
def maxHttpHeaders : Nat := 1024
/-- Thirty seconds, in nanoseconds. -/
def maxIoTimeout : Nat := 30000000000

structure ReplayRoute where
  sessionId : String
  attemptId : String
  dialect : ProviderDialect
  deriving DecidableEq, Repr

def ReplayRoute.key (route : ReplayRoute) : String × String := (route.sessionId, route.attemptId)

structure ReplayLimits where
  maxHeadBytes : Nat := maxHttpHeadBytes
  maxBodyBytes : Nat := maxHttpBodyBytes
  maxHeaders : Nat := maxHttpHeaders
  ioTimeout : Nat := maxIoTimeout
  deriving DecidableEq, Repr

def ReplayLimits.validate (limits : ReplayLimits) : Except ReplayError Unit :=
  refuse (limits.maxHeadBytes = 0 ∨ limits.maxHeadBytes > maxHttpHeadBytes ∨
      limits.maxBodyBytes = 0 ∨ limits.maxBodyBytes > maxHttpBodyBytes ∨
      limits.maxHeaders = 0 ∨ limits.maxHeaders > maxHttpHeaders ∨
      limits.ioTimeout = 0 ∨ limits.ioTimeout > maxIoTimeout)
    .invalidLimits

structure ReplayHttpRequest where
  method : String
  path : String
  headers : List Header
  body : List UInt8
  deriving DecidableEq

/-- The offsets of the segments are in nanoseconds. -/
structure ReplayHttpResponse where
  status : Nat
  headers : List Header
  segments : List (List UInt8)
  recordedOffsets : List Nat
  deriving DecidableEq

/-- Lowercase names in ascending order, none twice, and values without controls. -/
def httpHeadersValid : Option String → List Header → Bool
  | _, [] => true
  | previous, header :: rest =>
    toAsciiLowercase header.name = header.name && validHeaderName header.name &&
      !header.value.toList.any isControl &&
      (previous.all fun name => decide (name < header.name)) &&
      httpHeadersValid (some header.name) rest

def headBytes (request : ReplayHttpRequest) : Nat :=
  request.method.utf8ByteSize + request.path.utf8ByteSize + 12 +
    (request.headers.map fun header => header.name.utf8ByteSize + header.value.utf8ByteSize + 4).sum

def validateHttpRequest (limits : ReplayLimits) (request : ReplayHttpRequest) :
    Except ReplayError Unit := do
  refuse ((request.method ≠ "GET" ∧ request.method ≠ "POST") ∨
      originFormShape request.path = false ∨ request.body.length > limits.maxBodyBytes ∨
      request.headers.length > limits.maxHeaders ∨
      (request.method = "GET" ∧ request.body ≠ []))
    .invalidHttp
  refuse (httpHeadersValid none request.headers = false ∨
    headBytes request > limits.maxHeadBytes) .invalidHttp

/-! ## Matching -/

section Matching
variable (platform : Platform)

def decodeJsonValueNoDuplicates (bytes : List UInt8) : Except CassetteError Value := do
  readNoDuplicateJson platform bytes
  match platform.parseJson bytes with
  | some document => return document.value
  | none => .error .invalidJson

def transportHeaders : List String :=
  ["accept-encoding", "connection", "content-length", "host", "user-agent"]

/-- The incoming headers without those of the transport, where a sensitive one takes the
recorded value; `none` when a sensitive one was not recorded. -/
def normalizedHeaders (expected : List Header) (sensitive : List String) :
    List Header → Option (List Header)
  | [] => some []
  | header :: rest =>
    if transportHeaders.contains header.name then normalizedHeaders expected sensitive rest
    else if sensitive.contains header.name then do
      let recorded ← expected.reverse.find? fun candidate => candidate.name = header.name
      let rest ← normalizedHeaders expected sensitive rest
      return ⟨header.name, recorded.value⟩ :: rest
    else do
      let rest ← normalizedHeaders expected sensitive rest
      return header :: rest

def normalizedHeadersMatch (incoming expected : List Header) (sensitive : List String) : Bool :=
  normalizedHeaders expected sensitive incoming = some expected

/-- The incoming body with a recorded marker in the place of a selected part; `none` when
the part is missing. -/
def adopt (expected : Value) (value : Value) (pointer : String) :
    Except ReplayError (Option Value) :=
  match value.pointer pointer with
  | none => .ok none
  | some _ =>
    match expected.pointer pointer with
    | none => .error .invalidCassette
    | some selected =>
      if validMarker selected then .ok (value.assign pointer selected)
      else .error .invalidCassette

def adoptAll (expected : Value) : Value → List String → Except ReplayError (Option Value)
  | value, [] => .ok (some value)
  | value, pointer :: rest => do
    match ← adopt expected value pointer with
    | none => return none
    | some value => adoptAll expected value rest

def requestMatches (incoming : ReplayHttpRequest) (expected : RecordedRequest)
    (dialect : ProviderDialect) (sensitive pointers : List String) : Except ReplayError Bool := do
  if incoming.method ≠ expected.method ∨ incoming.path ≠ expected.path then
    return false
  else if expected.method = "GET" then
    refuse (incoming.body ≠ [] ∨ dialect ≠ .openaiChatCompletions ∨ expected.body ≠ .null)
      .invalidCassette
    return normalizedHeadersMatch incoming.headers expected.headers sensitive
  else
    let path ← expectedRequestPath dialect expected.model
    if incoming.path ≠ path then
      return false
    else
      let value ← (decodeJsonValueNoDuplicates platform incoming.body).mapError fun _ =>
        .invalidHttp
      refuse (containsMarker value = true) .invalidHttp
      match ← adoptAll expected.body value pointers with
      | none => return false
      | some value =>
        let found ← (canonicalJsonBytes value).mapError fun _ => ReplayError.invalidHttp
        let recorded ← (canonicalJsonBytes expected.body).mapError fun _ => .invalidCassette
        if found ≠ recorded then return false
        else return normalizedHeadersMatch incoming.headers expected.headers sensitive

end Matching

/-! ## Responses -/

def textBytes (text : List Char) : List UInt8 := Numerals.bytes (String.ofList text)

def byHeaderName (left right : Header) : Prop := left.name ≤ right.name

instance : DecidableRel byHeaderName := fun left right =>
  inferInstanceAs (Decidable (left.name ≤ right.name))

def eventSegment (dialect : ProviderDialect) (event : CassetteEvent) :
    Except ReplayError (List UInt8) := do
  let payload ← (canonicalJsonBytes event.payload).mapError fun _ => .invalidCassette
  let named := dialect ≠ .openaiChatCompletions ∧ dialect ≠ .geminiGenerateContent
  return textBytes ((if named then "event: ".toList ++ event.eventType.toList ++ ['\n'] else []) ++
    "data: ".toList ++ payload ++ ['\n', '\n'])

/-- Chat completions end with a segment's worth of `[DONE]`. -/
def closeSegments : List (List UInt8) → Except ReplayError (List (List UInt8))
  | [] => .error .invalidCassette
  | [last] => .ok [last ++ textBytes "data: [DONE]\n\n".toList]
  | first :: rest => (closeSegments rest).map (first :: ·)

def encodeResponse (response : RecordedResponse) (dialect : ProviderDialect) :
    Except ReplayError ReplayHttpResponse := do
  let headers := response.headers.filter fun header =>
    !(["connection", "content-length", "transfer-encoding"].contains header.name)
  match response.body with
  | .buffered payload .. => do
    let payload ← (canonicalJsonBytes payload).mapError fun _ => .invalidCassette
    return ⟨response.status, headers, [textBytes payload], [0]⟩
  | .events recorded _ => do
    let headers := if headers.any fun header => header.name = "content-type" then headers
      else (headers ++ [Header.mk "content-type" "text/event-stream"]).insertionSort byHeaderName
    let segments ← recorded.mapM (eventSegment dialect)
    let segments ← if dialect = .openaiChatCompletions then closeSegments segments
      else .ok segments
    return ⟨response.status, headers, segments, recorded.map CassetteEvent.monotonicOffsetNs⟩

/-! ## The service -/

structure ReplayState where
  routes : List ((String × String) × List Interaction)
  cursors : AList (fun _ : String × String => Nat)
  reservations : AList (fun _ : String × String => Nat)
  sensitiveHeaders : List String
  requestBodyPointers : List (String × List String)

structure ReservedInteraction where
  key : String × String
  cursor : Nat
  response : ReplayHttpResponse
  deriving DecidableEq

structure StrictReplayService where
  state : ReplayState
  limits : ReplayLimits

/-- The interaction at the end of its route. -/
def pushRoute (key : String × String) (interaction : Interaction) :
    List ((String × String) × List Interaction) → List ((String × String) × List Interaction)
  | [] => [(key, [interaction])]
  | (k, interactions) :: rest =>
    if k = key then (k, interactions ++ [interaction]) :: rest
    else (k, interactions) :: pushRoute key interaction rest

def byOrdinal (left right : Interaction) : Prop := left.ordinal ≤ right.ordinal

instance : DecidableRel byOrdinal := fun left right =>
  inferInstanceAs (Decidable (left.ordinal ≤ right.ordinal))

namespace StrictReplayService

variable (platform : Platform)

/-- Routes and request pointers with one more interaction. -/
def enroll (descriptor : RedactionDescriptor)
    (acc : List ((String × String) × List Interaction) × List (String × List String))
    (interaction : Interaction) :
    Except ReplayError
      (List ((String × String) × List Interaction) × List (String × List String)) :=
  match requestBodyPointersForDescriptor descriptor interaction.interactionId
      interaction.request.method with
  | none => .error .invalidCassette
  | some pointers => do
    validateDialectContract interaction pointers
    return (pushRoute (interaction.sessionId, interaction.attemptId) interaction acc.1,
      (interaction.interactionId, pointers) :: acc.2)

def orderRoute (route : (String × String) × List Interaction) :
    Except ReplayError ((String × String) × List Interaction) := do
  let interactions := route.2.insertionSort byOrdinal
  validateOrderedRouteContract interactions
  return (route.1, interactions)

/-- Validate all interactions before the cassette is available. -/
def new (cassette : Cassette) (limits : ReplayLimits) : Except ReplayError StrictReplayService := do
  limits.validate
  (validateCassetteValue platform {} cassette).mapError fun _ => .invalidCassette
  let (routes, pointers) ← cassette.contents.interactions.foldlM
    (enroll cassette.contents.redaction) ([], [])
  refuse (routes = []) .invalidCassette
  let routes ← routes.mapM orderRoute
  return ⟨⟨routes, ∅, ∅, cassette.contents.redaction.selectors.headerNames, pointers⟩, limits⟩

def cursor (service : StrictReplayService) (key : String × String) : Nat :=
  (service.state.cursors.lookup key).getD 0

/-- The next interaction of a route, matched against a request. -/
def next (service : StrictReplayService) (route : ReplayRoute) (request : ReplayHttpRequest) :
    Except ReplayError ReplayHttpResponse := do
  match service.state.routes.lookup route.key with
  | none => .error .unknownRoute
  | some interactions =>
    match interactions[service.cursor route.key]? with
    | none => .error .exhausted
    | some interaction => do
      refuse (interaction.dialect ≠ route.dialect) .unsupportedDialect
      match service.state.requestBodyPointers.lookup interaction.interactionId with
      | none => .error .invalidCassette
      | some pointers => do
        let matched ← requestMatches platform request interaction.request route.dialect
          service.state.sensitiveHeaders pointers
        refuse (matched = false) .mismatch
        encodeResponse interaction.response route.dialect

def reserve (service : StrictReplayService) (route : ReplayRoute) (request : ReplayHttpRequest) :
    Except ReplayError (ReservedInteraction × StrictReplayService) := do
  validateHttpRequest service.limits request
  refuse (service.state.reservations.lookup route.key).isSome .routeBusy
  let response ← service.next platform route request
  let cursor := service.cursor route.key
  return (⟨route.key, cursor, response⟩,
    { service with state :=
        { service.state with reservations := service.state.reservations.insert route.key cursor } })

/-- Give a reservation back; the cursor moves when it is committed. -/
def finishReservation (service : StrictReplayService) (reservation : ReservedInteraction)
    (commit : Bool) : Except ReplayError Unit × StrictReplayService :=
  match service.state.reservations.lookup reservation.key with
  | none => (.error .state, service)
  | some reserved =>
    let released := { service.state with
      reservations := service.state.reservations.erase reservation.key }
    if reserved ≠ reservation.cursor ∨ service.cursor reservation.key ≠ reservation.cursor then
      (.error .state, { service with state := released })
    else if commit then
      (.ok (), { service with state :=
        { released with
          cursors := released.cursors.insert reservation.key (reservation.cursor + 1) } })
    else (.ok (), { service with state := released })

/-- Match and consume one interaction. -/
def handle (service : StrictReplayService) (route : ReplayRoute) (request : ReplayHttpRequest) :
    Except ReplayError ReplayHttpResponse × StrictReplayService :=
  match service.reserve platform route request with
  | .error error => (.error error, service)
  | .ok (reservation, service) =>
    match service.finishReservation reservation true with
    | (.error error, service) => (.error error, service)
    | (.ok (), service) => (.ok reservation.response, service)

end StrictReplayService

/-! ## A small cassette -/

section Sample

def zeros : String := String.ofList (List.replicate 64 '0')

def sampleBody : Document where
  value := .object [("messages", .array []), ("model", .string "m")]
  normal := ⟨by decide, trivial, trivial, trivial⟩

/-- A platform whose digests are all alike, whose texts are ASCII and whose targets have
no query. -/
def samplePlatform : Platform where
  sha256 _ := zeros
  decodeUtf8 bytes := some (bytes.map fun byte => Char.ofNat byte.toNat)
  parseJson bytes := if bytes = textBytes sampleBody.value.print then some sampleBody else none
  readJson _ := some sampleBody.value
  readCassette _ := none
  parseTarget path := some ⟨path, none, none⟩
  formPairs _ := []
  formQuery _ := ""

/-- One recorded exchange of messages. -/
def sampleCassette : Cassette where
  contents :=
    { schemaVersion := 1, cassetteId := "c", providerProfileSha256 := none, normalization := 1
      redaction := ⟨1, ⟨[], [], [], [], []⟩, zeros⟩
      interactions := [
        { sessionId := "s", attemptId := "a", interactionId := "i", ordinal := 0
          dialect := .anthropicMessages
          request :=
            { method := "POST", path := "/v1/messages", headers := [], body := sampleBody.value
              bodySha256 := zeros, model := "m", options := [], tools := []
              previousResponseId := none }
          response := ⟨200, [], .buffered .null zeros none .completed⟩ }] }
  integrity := ⟨"sha256", zeros⟩

def sampleRoute : ReplayRoute := ⟨"s", "a", .anthropicMessages⟩

def sampleHttpRequest : ReplayHttpRequest :=
  ⟨"POST", "/v1/messages", [⟨"host", "localhost"⟩], textBytes sampleBody.value.print⟩

end Sample

end AgentSystemsBenchmark.Replay
