import AgentSystemsBenchmark.Library.Effects
import AgentSystemsBenchmark.Library.Json
import AgentSystemsBenchmark.Library.OrderedSets

/-!
# Cassettes

A cassette holds interactions: one request with its response, numbered within a session
and attempt. Its digest is over the canonical JSON of its contents. What is accepted is
within bounds, normalized and causal: response identities are established before they
are referred to, and the events of a response are numbered up to one terminal event.
-/

namespace AgentSystemsBenchmark.Replay

open Effects Json

/-! ## Bounds -/

def cassetteSchemaVersion : Nat := 1
def providerBoundCassetteSchemaVersion : Nat := 2
def maxCassetteBytes : Nat := 256 * 1024 * 1024
def maxRequestBytes : Nat := 16 * 1024 * 1024
def maxResponseBytes : Nat := 64 * 1024 * 1024
def maxEventBytes : Nat := 16 * 1024 * 1024
def maxEvents : Nat := 65536
def maxInteractions : Nat := 16384
def maxHeaders : Nat := 1024

inductive CassetteError where
  | invalidLimit (kind : String) (value ceiling : Nat)
  | tooLarge (kind : String)
  | invalidJson
  | unsupportedVersion (kind : String) (actual : Nat)
  | invalidIdentity | notNormalized | invalidEventStream | invalidReference | integrity
  | invalidRedactionPolicy | sizeOverflow
  deriving DecidableEq, Repr

structure CassetteLimits where
  maxCassetteBytes : Nat := Replay.maxCassetteBytes
  maxRequestBytes : Nat := Replay.maxRequestBytes
  maxResponseBytes : Nat := Replay.maxResponseBytes
  maxEventBytes : Nat := Replay.maxEventBytes
  maxEvents : Nat := Replay.maxEvents
  maxInteractions : Nat := Replay.maxInteractions
  maxHeaders : Nat := Replay.maxHeaders
  deriving DecidableEq, Repr

def validateLimit (kind : String) (value ceiling : Nat) : Except CassetteError Unit :=
  refuse (value = 0 ∨ value > ceiling) (.invalidLimit kind value ceiling)

def CassetteLimits.validate (limits : CassetteLimits) : Except CassetteError Unit := do
  validateLimit "cassette bytes" limits.maxCassetteBytes Replay.maxCassetteBytes
  validateLimit "request bytes" limits.maxRequestBytes Replay.maxRequestBytes
  validateLimit "response bytes" limits.maxResponseBytes Replay.maxResponseBytes
  validateLimit "event bytes" limits.maxEventBytes Replay.maxEventBytes
  validateLimit "events" limits.maxEvents Replay.maxEvents
  validateLimit "interactions" limits.maxInteractions Replay.maxInteractions
  validateLimit "headers" limits.maxHeaders Replay.maxHeaders

/-! ## Records -/

structure RequestBodyRedactionRule where
  interactionId : String
  method : String
  pointers : List String
  deriving DecidableEq, Repr

/-- Ordered selector configuration bound to a redaction policy. -/
structure RedactionSelectors where
  headerNames : List String
  queryParameters : List String
  requestBodyPointers : List String
  requestBodyRules : List RequestBodyRedactionRule
  responseBodyPointers : List String
  deriving DecidableEq, Repr

structure RedactionDescriptor where
  version : Nat
  selectors : RedactionSelectors
  selectorSha256 : String
  deriving DecidableEq, Repr

inductive ProviderDialect where
  | openaiChatCompletions | openaiResponses | anthropicMessages | geminiGenerateContent | synthetic
  deriving DecidableEq, Repr

structure Header where
  name : String
  value : String
  deriving DecidableEq, Repr

structure RecordedRequest where
  method : String
  path : String
  headers : List Header
  body : Value
  bodySha256 : String
  model : String
  options : List (String × Value)
  tools : List Value
  previousResponseId : Option String
  deriving DecidableEq

inductive TerminalEvent where
  | completed | failed | cancelled
  deriving DecidableEq, Repr

structure CassetteEvent where
  sequence : Nat
  monotonicOffsetNs : Nat
  eventType : String
  payload : Value
  payloadSha256 : String
  responseId : Option String
  previousResponseId : Option String
  toolCallId : Option String
  terminal : Option TerminalEvent
  deriving DecidableEq

inductive ResponseBody where
  | buffered (payload : Value) (payloadSha256 : String) (responseId : Option String)
      (terminal : TerminalEvent)
  | events (events : List CassetteEvent) (transportChunkBytes : List Nat)
  deriving DecidableEq

structure RecordedResponse where
  status : Nat
  headers : List Header
  body : ResponseBody
  deriving DecidableEq

structure Interaction where
  sessionId : String
  attemptId : String
  interactionId : String
  ordinal : Nat
  dialect : ProviderDialect
  request : RecordedRequest
  response : RecordedResponse
  deriving DecidableEq

structure CassetteContents where
  schemaVersion : Nat
  cassetteId : String
  providerProfileSha256 : Option String
  /-- The version of the normalization policy. -/
  normalization : Nat
  redaction : RedactionDescriptor
  interactions : List Interaction
  deriving DecidableEq

structure CassetteIntegrity where
  algorithm : String
  digest : String
  deriving DecidableEq, Repr

structure Cassette where
  contents : CassetteContents
  integrity : CassetteIntegrity
  deriving DecidableEq

/-! ## What lies outside -/

/-- A JSON value as the parser builds it: members sorted by name, none twice. -/
structure Document where
  value : Value
  normal : value.Normal

/-- A parsed request target. -/
structure Target where
  path : String
  query : Option String
  fragment : Option String

/-- The hash and the parsers of text, JSON and URLs. -/
structure Platform where
  sha256 : List Char → String
  /-- The text of UTF-8 bytes. -/
  decodeUtf8 : List UInt8 → Option (List Char)
  parseJson : List UInt8 → Option Document
  /-- The tree of a JSON text with all members as they stand, a name given twice included. -/
  readJson : List UInt8 → Option Value
  /-- A JSON text read as a cassette. -/
  readCassette : List UInt8 → Option Cassette
  /-- The parse of a target behind `https://asb.invalid`. -/
  parseTarget : String → Option Target
  /-- The decoded pairs of a query. -/
  formPairs : String → List (String × String)
  /-- The query that appending these pairs builds. -/
  formQuery : List (String × String) → String

/-! ## Duplicate members -/

namespace NoDuplicateVisitor

mutual
def visit : Value → Except CassetteError Unit
  | .array items => visitSeq items
  | .object members => visitMap [] members
  | _ => .ok ()

def visitSeq : List Value → Except CassetteError Unit
  | [] => .ok ()
  | item :: rest => do
    visit item
    visitSeq rest

def visitMap (names : List String) : List (String × Value) → Except CassetteError Unit
  | [] => .ok ()
  | (name, value) :: rest => do
    refuse (name ∈ names) .invalidJson
    visit value
    visitMap (name :: names) rest
end

end NoDuplicateVisitor

/-- Scan a text for an object that names a member twice. -/
def readNoDuplicateJson (platform : Platform) (bytes : List UInt8) : Except CassetteError Unit :=
  match platform.readJson bytes with
  | none => .error .invalidJson
  | some value => NoDuplicateVisitor.visit value

/-! ## Serialization -/

section Serialization

def count (n : Nat) : Value := .number (.natural n)

def texts (items : List String) : Value := .array (items.map .string)

/-- A member that is left out when there is no value. -/
def optional (name : String) : Option String → List (String × Value)
  | none => []
  | some text => [(name, .string text)]

def RequestBodyRedactionRule.json (rule : RequestBodyRedactionRule) : Value :=
  .object [("interaction_id", .string rule.interactionId), ("method", .string rule.method),
    ("pointers", texts rule.pointers)]

def RedactionSelectors.json (selectors : RedactionSelectors) : Value :=
  .object ([("header_names", texts selectors.headerNames),
    ("query_parameters", texts selectors.queryParameters),
    ("request_body_pointers", texts selectors.requestBodyPointers)] ++
    (if selectors.requestBodyRules.isEmpty then []
      else [("request_body_rules", .array (selectors.requestBodyRules.map (·.json)))]) ++
    [("response_body_pointers", texts selectors.responseBodyPointers)])

def RedactionDescriptor.json (descriptor : RedactionDescriptor) : Value :=
  .object [("version", count descriptor.version), ("selectors", descriptor.selectors.json),
    ("selector_sha256", .string descriptor.selectorSha256)]

def ProviderDialect.json : ProviderDialect → Value
  | .openaiChatCompletions => .string "openai-chat-completions"
  | .openaiResponses => .string "openai-responses"
  | .anthropicMessages => .string "anthropic-messages"
  | .geminiGenerateContent => .string "gemini-generate-content"
  | .synthetic => .string "synthetic"

def Header.json (header : Header) : Value :=
  .object [("name", .string header.name), ("value", .string header.value)]

def RecordedRequest.json (request : RecordedRequest) : Value :=
  .object ([("method", .string request.method), ("path", .string request.path),
    ("headers", .array (request.headers.map (·.json))), ("body", request.body),
    ("body_sha256", .string request.bodySha256), ("model", .string request.model),
    ("options", .object request.options), ("tools", .array request.tools)] ++
    optional "previous_response_id" request.previousResponseId)

def TerminalEvent.name : TerminalEvent → String
  | .completed => "completed"
  | .failed => "failed"
  | .cancelled => "cancelled"

def CassetteEvent.json (event : CassetteEvent) : Value :=
  .object ([("sequence", count event.sequence),
    ("monotonic_offset_ns", count event.monotonicOffsetNs),
    ("event_type", .string event.eventType), ("payload", event.payload),
    ("payload_sha256", .string event.payloadSha256)] ++
    optional "response_id" event.responseId ++
    optional "previous_response_id" event.previousResponseId ++
    optional "tool_call_id" event.toolCallId ++
    optional "terminal" (event.terminal.map (·.name)))

def ResponseBody.json : ResponseBody → Value
  | .buffered payload payloadSha256 responseId terminal =>
    .object ([("kind", .string "buffered"), ("payload", payload),
      ("payload_sha256", .string payloadSha256)] ++ optional "response_id" responseId ++
      [("terminal", .string terminal.name)])
  | .events recorded transportChunkBytes =>
    .object [("kind", .string "events"), ("events", .array (recorded.map (·.json))),
      ("transport_chunk_bytes", .array (transportChunkBytes.map count))]

def RecordedResponse.json (response : RecordedResponse) : Value :=
  .object [("status", count response.status),
    ("headers", .array (response.headers.map (·.json))), ("body", response.body.json)]

def Interaction.json (interaction : Interaction) : Value :=
  .object [("session_id", .string interaction.sessionId),
    ("attempt_id", .string interaction.attemptId),
    ("interaction_id", .string interaction.interactionId),
    ("ordinal", count interaction.ordinal), ("dialect", interaction.dialect.json),
    ("request", interaction.request.json), ("response", interaction.response.json)]

def CassetteContents.json (contents : CassetteContents) : Value :=
  .object ([("schema_version", count contents.schemaVersion),
    ("cassette_id", .string contents.cassetteId)] ++
    optional "provider_profile_sha256" contents.providerProfileSha256 ++
    [("normalization", .object [("version", count contents.normalization)]),
    ("redaction", contents.redaction.json),
    ("interactions", .array (contents.interactions.map (·.json)))])

def Cassette.json (cassette : Cassette) : Value :=
  .object [("contents", cassette.contents.json),
    ("integrity", .object [("algorithm", .string cassette.integrity.algorithm),
      ("digest", .string cassette.integrity.digest)])]

/-- The length of a text in UTF-8. -/
def byteLength (text : List Char) : Nat := (text.map Char.utf8Size).sum

def encodeBounded (value : Value) (maximum : Nat) (kind : String) :
    Except CassetteError (List Char) := do
  refuse (byteLength value.print > maximum) (.tooLarge kind)
  return value.print

def canonicalValueBounded (value : Value) (maximum : Nat) (kind : String) :
    Except CassetteError (List Char) := do
  refuse (byteLength value.canonical > maximum) (.tooLarge kind)
  return value.canonical

def canonicalJsonBytes (value : Value) : Except CassetteError (List Char) :=
  canonicalValueBounded value maxCassetteBytes "canonical JSON"

def canonicalContentsBounded (contents : CassetteContents) (maximum : Nat) :
    Except CassetteError (List Char) := do
  let _ ← encodeBounded contents.json maximum "cassette"
  canonicalValueBounded contents.json maximum "cassette"

end Serialization

section Validation
variable (platform : Platform)

def canonicalValueDigest (value : Value) : Except CassetteError String := do
  let bytes ← canonicalJsonBytes value
  return platform.sha256 bytes

/-! ## Redaction policies -/

def defaultRedactionPolicyVersion : Nat := 1
def interactionRedactionPolicyVersion : Nat := 2

structure RedactionPolicy where
  version : Nat
  headerNames : OrderedSet String
  queryParameters : OrderedSet String
  requestBodyPointers : OrderedSet String
  requestBodyRules : List RequestBodyRedactionRule
  responseBodyPointers : OrderedSet String

def RedactionPolicy.selectors (policy : RedactionPolicy) : RedactionSelectors where
  headerNames := policy.headerNames.items
  queryParameters := policy.queryParameters.items
  requestBodyPointers := policy.requestBodyPointers.items
  requestBodyRules := policy.requestBodyRules
  responseBodyPointers := policy.responseBodyPointers.items

def descriptorUnchecked (policy : RedactionPolicy) : Except CassetteError RedactionDescriptor := do
  let selectorSha256 ← canonicalValueDigest platform policy.selectors.json
  return ⟨policy.version, policy.selectors, selectorSha256⟩

def validateRedactionDescriptor (descriptor : RedactionDescriptor) : Bool :=
  let selectors := descriptor.selectors
  let policy : RedactionPolicy :=
    ⟨descriptor.version, .ofList selectors.headerNames, .ofList selectors.queryParameters,
      .ofList selectors.requestBodyPointers, selectors.requestBodyRules,
      .ofList selectors.responseBodyPointers⟩
  policy.headerNames.items.length = selectors.headerNames.length ∧
    policy.queryParameters.items.length = selectors.queryParameters.length ∧
    policy.requestBodyPointers.items.length = selectors.requestBodyPointers.length ∧
    policy.responseBodyPointers.items.length = selectors.responseBodyPointers.length ∧
    (match descriptorUnchecked platform policy with
      | .ok expected => decide (expected = descriptor)
      | .error _ => false) = true

def requestBodyPointersForDescriptor (descriptor : RedactionDescriptor)
    (interactionId method : String) : Option (List String) :=
  if descriptor.version = defaultRedactionPolicyVersion then
    some descriptor.selectors.requestBodyPointers
  else if descriptor.version = interactionRedactionPolicyVersion then
    match descriptor.selectors.requestBodyRules.find? fun rule =>
        rule.interactionId = interactionId && rule.method = method with
    | none => some []
    | some rule => some rule.pointers
  else none

def validateInteractionRedaction (contents : CassetteContents) : Bool :=
  contents.redaction.version ≠ interactionRedactionPolicyVersion ||
    contents.redaction.selectors.requestBodyRules.all fun rule =>
      contents.interactions.any fun interaction =>
        interaction.interactionId = rule.interactionId && interaction.request.method = rule.method

/-! ## Checks of single values -/

def asciiUppercase (c : Char) : Bool := 'A' ≤ c && c ≤ 'Z'
def asciiLowercase (c : Char) : Bool := 'a' ≤ c && c ≤ 'z'
def asciiAlphanumeric (c : Char) : Bool := c.isDigit || asciiUppercase c || asciiLowercase c

def isControl (c : Char) : Bool := c.toNat < 32 || (127 ≤ c.toNat && c.toNat < 160)

def validDigest (value : String) : Bool :=
  value.utf8ByteSize = 64 && value.toList.all fun c => c.isDigit || ('a' ≤ c && c ≤ 'f')

def validHeaderValue (value : String) : Bool := !value.toList.any isControl

def validHeaderName (name : String) : Bool :=
  name ≠ "" && name.toList.all fun c => asciiLowercase c || c.isDigit || c = '-' || c = '_'

def validIdentity (value : String) : Bool :=
  value ≠ "" && value.utf8ByteSize ≤ 256 &&
    value.toList.all fun c => asciiAlphanumeric c || c = '-' || c = '_' || c = '.' || c = ':'

def validateId (value : String) : Except CassetteError Unit :=
  refuse (validIdentity value = false) .invalidIdentity

/-- A target as it stands in a request line, before it is parsed. -/
def originFormShape (path : String) : Bool :=
  path.toList.head? = some '/' && path.toList.take 2 ≠ ['/', '/'] &&
    !path.toList.any fun c => c = '#' || c = '\\' || isControl c

def Target.reconstructed (target : Target) : String :=
  match target.query with
  | none => target.path
  | some query => target.path ++ "?" ++ query

def validOriginForm (path : String) : Bool :=
  originFormShape path &&
    match platform.parseTarget path with
    | none => false
    | some target => target.fragment.isNone && target.reconstructed = path

def validateHeaders (limits : CassetteLimits) (headers : List Header) :
    Except CassetteError Unit := do
  refuse (headers.length > limits.maxHeaders) (.tooLarge "headers")
  go none headers
where
  go : Option String → List Header → Except CassetteError Unit
    | _, [] => .ok ()
    | previous, header :: rest => do
      refuse (validHeaderName header.name = false ∨
          previous.any (fun name => decide (name ≥ header.name)) ∨
          validHeaderValue header.value = false)
        .notNormalized
      go (some header.name) rest

/-! ## Checks of records -/

def validateRequest (limits : CassetteLimits) (request : RecordedRequest) :
    Except CassetteError Unit := do
  refuse (request.method = "" ∨ request.method.toList.all asciiUppercase = false ∨
      validOriginForm platform request.path = false ∨ request.model = "")
    .notNormalized
  validateHeaders limits request.headers
  refuse (validDigest request.bodySha256 = false) .integrity
  let digest ← canonicalValueDigest platform request.body
  refuse (request.bodySha256 ≠ digest) .integrity
  let _ ← encodeBounded request.json limits.maxRequestBytes "request"

/-- A response identity within its session and attempt. -/
abbrev ResponseName := String × String × String

/-- A new response identity is well formed and was not established before. -/
def establish (session attempt : String) (known : List ResponseName) :
    Option String → Except CassetteError (List ResponseName)
  | none => .ok known
  | some responseId => do
    validateId responseId
    refuse ((session, attempt, responseId) ∈ known) .invalidReference
    return (session, attempt, responseId) :: known

def refers (session attempt : String) (known : List ResponseName) (reference : Option String) :
    Except CassetteError Unit :=
  refuse (reference.any fun id => decide ((session, attempt, id) ∉ known)) .invalidReference

def validateEvent (limits : CassetteLimits) (session attempt : String) (total : Nat)
    (position priorOffset : Nat) (known : List ResponseName) (event : CassetteEvent) :
    Except CassetteError (List ResponseName) := do
  refuse (event.sequence ≠ position ∨
      (position ≠ 0 ∧ event.monotonicOffsetNs < priorOffset) ∨ event.eventType = "" ∨
      event.terminal.isSome ≠ decide (position + 1 = total))
    .invalidEventStream
  let _ ← encodeBounded event.json limits.maxEventBytes "event"
  refuse (validDigest event.payloadSha256 = false) .integrity
  let digest ← canonicalValueDigest platform event.payload
  refuse (event.payloadSha256 ≠ digest) .integrity
  refers session attempt known event.previousResponseId
  let known ← establish session attempt known event.responseId
  match event.toolCallId with
  | none => return known
  | some toolCallId => do
    validateId toolCallId
    return known

def validateEvents (limits : CassetteLimits) (session attempt : String) (total : Nat) :
    Nat → Nat → List ResponseName → List CassetteEvent → Except CassetteError (List ResponseName)
  | _, _, known, [] => .ok known
  | position, priorOffset, known, event :: rest => do
    let known ← validateEvent platform limits session attempt total position priorOffset known event
    validateEvents limits session attempt total (position + 1) event.monotonicOffsetNs known rest

/-- What the check of a cassette has seen so far. -/
structure Seen where
  interactionIds : List String := []
  /-- The next ordinal of each session and attempt. -/
  ordinals : AList (fun _ : String × String => Nat) := ∅
  responseIds : List ResponseName := []
  totalEvents : Nat := 0

def validateResponse (limits : CassetteLimits) (session attempt : String) (seen : Seen)
    (response : RecordedResponse) : Except CassetteError Seen := do
  refuse (response.status < 100 ∨ response.status > 599) .invalidEventStream
  validateHeaders limits response.headers
  match response.body with
  | .buffered payload payloadSha256 responseId _ => do
    let _ ← encodeBounded response.json limits.maxResponseBytes "response"
    refuse (validDigest payloadSha256 = false) .integrity
    let digest ← canonicalValueDigest platform payload
    refuse (payloadSha256 ≠ digest) .integrity
    let known ← establish session attempt seen.responseIds responseId
    return { seen with responseIds := known }
  | .events recorded transportChunkBytes => do
    refuse (recorded = [] ∨ 0 ∈ transportChunkBytes) .invalidEventStream
    refuse (recorded.length ≥ 2 ^ 32) .sizeOverflow
    refuse (recorded.length > limits.maxEvents - seen.totalEvents) (.tooLarge "events")
    let known ← validateEvents platform limits session attempt recorded.length 0 0 seen.responseIds
      recorded
    return { seen with responseIds := known, totalEvents := seen.totalEvents + recorded.length }

def validateInteraction (limits : CassetteLimits) (seen : Seen) (interaction : Interaction) :
    Except CassetteError Seen := do
  validateId interaction.sessionId
  validateId interaction.attemptId
  validateId interaction.interactionId
  refuse (interaction.interactionId ∈ seen.interactionIds) .invalidIdentity
  let key := (interaction.sessionId, interaction.attemptId)
  let expected := (seen.ordinals.lookup key).getD 0
  refuse (interaction.ordinal ≠ expected) .invalidReference
  refuse (expected + 1 ≥ 2 ^ 32) .sizeOverflow
  validateRequest platform limits interaction.request
  refers interaction.sessionId interaction.attemptId seen.responseIds
    interaction.request.previousResponseId
  let seen ← validateResponse platform limits interaction.sessionId interaction.attemptId
    { seen with
      interactionIds := interaction.interactionId :: seen.interactionIds
      ordinals := seen.ordinals.insert key (expected + 1) }
    interaction.response
  refuse (seen.totalEvents > limits.maxEvents) (.tooLarge "events")
  return seen

def validateContents (limits : CassetteLimits) (contents : CassetteContents) :
    Except CassetteError Unit := do
  refuse (contents.schemaVersion ≠ cassetteSchemaVersion ∧
      contents.schemaVersion ≠ providerBoundCassetteSchemaVersion)
    (.unsupportedVersion "cassette schema" contents.schemaVersion)
  refuse (contents.schemaVersion = providerBoundCassetteSchemaVersion ∧
      contents.providerProfileSha256 = none)
    .invalidIdentity
  refuse (contents.normalization ≠ 1)
    (.unsupportedVersion "normalization policy" contents.normalization)
  refuse (contents.redaction.version ≠ 1 ∧ contents.redaction.version ≠ 2)
    (.unsupportedVersion "redaction policy" contents.redaction.version)
  refuse (validateRedactionDescriptor platform contents.redaction = false) .invalidRedactionPolicy
  validateId contents.cassetteId
  refuse (contents.interactions.length > limits.maxInteractions) (.tooLarge "interactions")
  let _ ← contents.interactions.foldlM (validateInteraction platform limits) {}
  refuse (validateInteractionRedaction contents = false) .invalidRedactionPolicy

/-! ## Sealing -/

def validateCassetteValue (limits : CassetteLimits) (cassette : Cassette) :
    Except CassetteError Unit := do
  limits.validate
  validateContents platform limits cassette.contents
  refuse (cassette.integrity.algorithm ≠ "sha256" ∨ validDigest cassette.integrity.digest = false)
    .integrity
  let canonical ← canonicalContentsBounded cassette.contents limits.maxCassetteBytes
  refuse (cassette.integrity.digest ≠ platform.sha256 canonical) .integrity

/-- Validate contents, compute their integrity and serialize the cassette. -/
def sealCassette (limits : CassetteLimits) (contents : CassetteContents) :
    Except CassetteError Cassette := do
  limits.validate
  validateContents platform limits contents
  let canonical ← canonicalContentsBounded contents limits.maxCassetteBytes
  let cassette : Cassette := ⟨contents, "sha256", platform.sha256 canonical⟩
  let _ ← encodeBounded cassette.json limits.maxCassetteBytes "cassette"
  return cassette

/-- Decode, validate and authenticate a complete cassette. -/
def decodeCassette (limits : CassetteLimits) (bytes : List UInt8) :
    Except CassetteError Cassette := do
  limits.validate
  refuse (bytes.length > limits.maxCassetteBytes) (.tooLarge "cassette")
  readNoDuplicateJson platform bytes
  match platform.readCassette bytes with
  | none => .error .invalidJson
  | some cassette => do
    validateCassetteValue platform limits cassette
    return cassette

end Validation

end AgentSystemsBenchmark.Replay
