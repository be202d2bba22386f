import AgentSystemsBenchmark.Replay.Redaction

/-!
# Provider dialects

What a recorded interaction has to look like for its dialect before it is replayed: the
path, the members of the body and what the request repeats of them, the markers of the
redaction, and the shape of the response.
-/

namespace AgentSystemsBenchmark.Replay

open Effects Json

/-- Errors never hold captured values. -/
inductive ReplayError where
  | invalidLimits | invalidCassette | unknownRoute | exhausted | mismatch | routeBusy
  | invalidHttp | unsupportedDialect | state | io | pacing
  deriving DecidableEq, Repr

structure DialectCapability where
  dialect : ProviderDialect
  endpoint : String
  deriving DecidableEq, Repr

def geminiGenerateContentEndpoint : String :=
  "/v1beta/models/\x7bmodel\x7d:streamGenerateContent?alt=sse"

def dialectCapabilities : List DialectCapability :=
  [⟨.openaiChatCompletions, "/v1/chat/completions"⟩, ⟨.openaiResponses, "/v1/responses"⟩,
    ⟨.anthropicMessages, "/v1/messages"⟩, ⟨.geminiGenerateContent, geminiGenerateContentEndpoint⟩]

def capability (dialect : ProviderDialect) : Except ReplayError DialectCapability :=
  match dialectCapabilities.find? fun capability => capability.dialect = dialect with
  | some capability => .ok capability
  | none => .error .unsupportedDialect

/-! ## Paths -/

def validGeminiModel (model : String) : Bool :=
  model ≠ "" && model.utf8ByteSize ≤ 256 &&
    model.toList.all fun c => asciiAlphanumeric c || c = '.' || c = '_' || c = '-'

def expectedRequestPath (dialect : ProviderDialect) (model : String) : Except ReplayError String :=
  if dialect = .geminiGenerateContent then do
    refuse (validGeminiModel model = false) .invalidCassette
    return "/v1beta/models/" ++ model ++ ":streamGenerateContent?alt=sse"
  else (capability dialect).map (·.endpoint)

def requestPathValid (dialect : ProviderDialect) (path model : String) : Bool :=
  match expectedRequestPath dialect model with
  | .ok expected => path = expected
  | .error _ => false

def hasExactContentType (response : RecordedResponse) (expected : String) : Bool :=
  ((response.headers.filter fun header => header.name = "content-type").map Header.value) =
    [expected]

def exactObjectKeys (object : List (String × Value)) (expected : List String) : Bool :=
  object.length = expected.length && expected.all fun name => (object.lookup name).isSome

/-! ## Markers of the request -/

def scrub (body : Value) (pointer : String) : Except ReplayError Value :=
  match body.pointer pointer with
  | none => .error .invalidCassette
  | some selected =>
    if validMarker selected then .ok ((body.assign pointer .null).getD body)
    else .error .invalidCassette

/-- Each selected part is a marker, and there is no marker elsewhere. -/
def validateSelectedRequestMarkers (body : Value) (pointers : List String) :
    Except ReplayError Unit := do
  let scrubbed ← pointers.foldlM scrub body
  refuse (containsMarker scrubbed = true) .invalidCassette

/-! ## The model catalog -/

def validCatalogModel (model : String) : Bool :=
  model ≠ "" && model.utf8ByteSize ≤ 256 &&
    model.toList.all fun c => asciiAlphanumeric c || c = '.' || c = '_' || c = '-' || c = ':'

def catalogResponse : ResponseBody → Bool
  | .buffered _ _ none .completed => true
  | _ => false

def validateModelCatalogContract (interaction : Interaction) : Except ReplayError Unit :=
  let request := interaction.request
  let detail := ("/v1/models/".toList).isPrefixOf request.path.toList &&
    String.ofList (request.path.toList.drop "/v1/models/".length) = request.model &&
    validCatalogModel request.model
  refuse (interaction.dialect ≠ .openaiChatCompletions ∨
      ¬ (request.path = "/v1/models" ∨ detail = true) ∨ request.body ≠ .null ∨
      request.options ≠ [] ∨ request.tools ≠ [] ∨ request.previousResponseId.isSome ∨
      request.model.utf8ByteSize > 256 ∨ validCatalogModel request.model = false ∨
      interaction.response.status ≠ 200 ∨ catalogResponse interaction.response.body = false ∨
      hasExactContentType interaction.response "application/json" = false)
    .invalidCassette

/-! ## Gemini -/

def nonemptyText (value : Option Value) : Bool := (value.bind Value.text?).any (· ≠ "")

def nonemptyStringOrMarker (value : Option Value) : Bool :=
  nonemptyText value || value.any validMarker

def isObject (value : Option Value) : Bool := (value.bind Value.members?).isSome

def validGeminiFunctionCall (value : Option Value) : Bool :=
  (value.bind Value.members?).any fun call =>
    exactObjectKeys call ["args", "id", "name"] && isObject (call.lookup "args") &&
      nonemptyStringOrMarker (call.lookup "id") && nonemptyText (call.lookup "name")

def validGeminiFunctionResponse (value : Option Value) : Bool :=
  (value.bind Value.members?).any fun response =>
    exactObjectKeys response ["id", "name", "response"] &&
      nonemptyStringOrMarker (response.lookup "id") && nonemptyText (response.lookup "name") &&
      isObject (response.lookup "response")

def validGeminiPart (systemInstruction : Bool) (part : List (String × Value)) : Bool :=
  if exactObjectKeys part ["text"] then nonemptyStringOrMarker (part.lookup "text")
  else if !systemInstruction && exactObjectKeys part ["functionCall", "thoughtSignature"] then
    validGeminiFunctionCall (part.lookup "functionCall") &&
      nonemptyText (part.lookup "thoughtSignature")
  else !systemInstruction && exactObjectKeys part ["functionResponse"] &&
    validGeminiFunctionResponse (part.lookup "functionResponse")

def validGeminiContent (value : Value) (systemInstruction : Bool) : Bool :=
  value.members?.any fun content =>
    exactObjectKeys content ["parts", "role"] &&
    (let role := (content.lookup "role").bind Value.text?
     role = some "user" || (!systemInstruction && role = some "model")) &&
    ((content.lookup "parts").bind Value.items?).any fun parts =>
      !parts.isEmpty && parts.all fun part => part.members?.any (validGeminiPart systemInstruction)

def validGeminiDeclaration (value : Value) : Bool :=
  value.members?.any fun declaration =>
    exactObjectKeys declaration ["description", "name", "parametersJsonSchema"] &&
      ((declaration.lookup "description").bind Value.text?).isSome &&
      ((declaration.lookup "name").bind Value.text?).isSome &&
      isObject (declaration.lookup "parametersJsonSchema")

def validGeminiGeneration (generation : List (String × Value)) : Bool :=
  exactObjectKeys generation ["temperature", "thinkingConfig", "topK", "topP"] &&
    ((generation.lookup "thinkingConfig").bind Value.members?).any (fun thinking =>
      exactObjectKeys thinking ["includeThoughts"] &&
        (thinking.lookup "includeThoughts").any Value.isBool) &&
    (generation.lookup "temperature").any Value.isNumber &&
    (generation.lookup "topK").any Value.isNumber && (generation.lookup "topP").any Value.isNumber

def validGeminiTools (tools : List Value) : Bool :=
  match tools with
  | [tool] => tool.members?.any fun tool =>
    exactObjectKeys tool ["functionDeclarations"] &&
      ((tool.lookup "functionDeclarations").bind Value.items?).any fun declarations =>
        !declarations.isEmpty && declarations.all validGeminiDeclaration
  | _ => false

def validGeminiUsage (usage : List (String × Value)) : Bool :=
  exactObjectKeys usage ["candidatesTokenCount", "promptTokenCount", "totalTokenCount"] &&
    match (usage.lookup "candidatesTokenCount").bind Value.natural?,
        (usage.lookup "promptTokenCount").bind Value.natural? with
    | some candidates, some prompt =>
      (if candidates + prompt < 2 ^ 64 then some (candidates + prompt) else none) =
        (usage.lookup "totalTokenCount").bind Value.natural?
    | _, _ => false

def validGeminiAnswerPart (part : List (String × Value)) : Bool :=
  (exactObjectKeys part ["text"] && nonemptyText (part.lookup "text")) ||
    (exactObjectKeys part ["functionCall"] && validGeminiFunctionCall (part.lookup "functionCall"))

def validGeminiCandidate (candidate : List (String × Value)) : Bool :=
  exactObjectKeys candidate ["content", "finishReason", "index"] &&
    (candidate.lookup "finishReason").bind Value.text? = some "STOP" &&
    (candidate.lookup "index").bind Value.natural? = some 0 &&
    ((candidate.lookup "content").bind Value.members?).any fun content =>
      exactObjectKeys content ["parts", "role"] &&
        (content.lookup "role").bind Value.text? = some "model" &&
        match (content.lookup "parts").bind Value.items? with
        | some [part] => part.members?.any validGeminiAnswerPart
        | _ => false

def validGeminiEventPayload (payload : Value) : Bool :=
  payload.members?.any fun payload =>
    exactObjectKeys payload ["candidates", "usageMetadata"] &&
      (match (payload.lookup "candidates").bind Value.items? with
        | some [candidate] => candidate.members?.any validGeminiCandidate
        | _ => false) &&
      ((payload.lookup "usageMetadata").bind Value.members?).any validGeminiUsage

def validGeminiFailure (payload : Value) : Bool :=
  payload.members?.any fun payload =>
    exactObjectKeys payload ["error"] &&
      ((payload.lookup "error").bind Value.members?).any fun error =>
        exactObjectKeys error ["code", "message", "status"] &&
          (error.lookup "code").bind Value.natural? = some 500 &&
          nonemptyText (error.lookup "message") &&
          (error.lookup "status").bind Value.text? = some "INTERNAL"

def validGeminiResponse (response : RecordedResponse) : Bool :=
  match response.body with
  | .events [event] _ =>
    response.status = 200 && hasExactContentType response "text/event-stream" &&
      event.eventType = "gemini.generate_content.chunk" && validGeminiEventPayload event.payload
  | .events _ _ => false
  | .buffered payload _ responseId terminal =>
    response.status = 500 && hasExactContentType response "application/json" &&
      responseId.isNone && terminal = .failed && validGeminiFailure payload

/-- The options a request repeats: the members of its body that have no field of their own. -/
def optionsOf (object : List (String × Value)) (excluded : List String) : List (String × Value) :=
  object.filter fun member => !excluded.contains member.1

def validateGeminiGenerateContentContract (interaction : Interaction)
    (object : List (String × Value)) (pointers : List String) : Except ReplayError Unit :=
  let request := interaction.request
  refuse (exactObjectKeys object
      ["contents", "generationConfig", "systemInstruction", "tools"] = false ∨
      pointers ≠ [] ∨ request.previousResponseId.isSome ∨
      validGeminiResponse interaction.response = false ∨
      (((object.lookup "contents").bind Value.items?).any fun contents =>
        !contents.isEmpty && contents.all fun content => validGeminiContent content false) = false ∨
      ((object.lookup "systemInstruction").any fun content =>
        validGeminiContent content true) = false ∨
      ((object.lookup "generationConfig").bind Value.members?).any validGeminiGeneration = false ∨
      ((object.lookup "tools").bind Value.items?).any (fun tools =>
        validGeminiTools tools && request.tools = tools) = false ∨
      request.options ≠ optionsOf object ["contents", "tools"])
    .invalidCassette

/-! ## The contract of an interaction -/

/-- Messages are listed, or were redacted as a whole. -/
def messagesValid (object : List (String × Value)) (pointers : List String) : Bool :=
  (object.lookup "messages").any fun messages =>
    messages.items?.isSome || (pointers.contains "/messages" && validMarker messages)

/-- Whether a stream was asked for; `none` when the member is not a boolean. -/
def streamMember (object : List (String × Value)) : Option (Option Bool) :=
  match object.lookup "stream" with
  | none => some none
  | some (.bool stream) => some (some stream)
  | some _ => none

def ResponseBody.isEvents : ResponseBody → Bool
  | .events _ _ => true
  | .buffered .. => false

def streamContractValid (interaction : Interaction) (stream : Option Bool) : Bool :=
  match stream, interaction.response.body.isEvents with
  | some true, true | some false, false | none, false => true
  | none, true => interaction.dialect = .openaiChatCompletions &&
      hasExactContentType interaction.response "text/event-stream"
  | _, _ => false

def eventTypesValid : ResponseBody → Bool
  | .events recorded _ => recorded.all fun event =>
      event.eventType.toList.all fun c => asciiAlphanumeric c || c = '.' || c = '_' || c = '-'
  | .buffered .. => true

/-- The members of a body that have fields of their own in a recorded request. -/
def excludedMembers : ProviderDialect → List String
  | .openaiResponses => ["input", "model", "previous_response_id", "tools"]
  | _ => ["messages", "model", "tools"]

def validateDialectContract (interaction : Interaction) (pointers : List String) :
    Except ReplayError Unit := do
  if interaction.request.method = "GET" then
    validateModelCatalogContract interaction
  else
    let _ ← capability interaction.dialect
    let request := interaction.request
    validateSelectedRequestMarkers request.body pointers
    refuse (request.method ≠ "POST" ∨
      requestPathValid interaction.dialect request.path request.model = false) .invalidCassette
    match request.body.members? with
    | none => .error .invalidCassette
    | some object =>
      if interaction.dialect = .geminiGenerateContent then
        validateGeminiGenerateContentContract interaction object pointers
      else do
        refuse ((interaction.dialect = .openaiChatCompletions ∨
            interaction.dialect = .anthropicMessages) ∧ messagesValid object pointers = false)
          .invalidCassette
        refuse (interaction.dialect = .openaiResponses ∧ object.lookup "input" = none)
          .invalidCassette
        refuse ((object.lookup "model").bind Value.text? ≠ some request.model) .invalidCassette
        refuse (((object.lookup "tools").bind Value.items?).getD [] ≠ request.tools)
          .invalidCassette
        let previous := (object.lookup "previous_response_id").bind Value.text?
        refuse (if interaction.dialect = .openaiResponses then
            previous ≠ request.previousResponseId
          else previous.isSome ∨ request.previousResponseId.isSome) .invalidCassette
        refuse (interaction.dialect = .synthetic) .unsupportedDialect
        refuse (optionsOf object (excludedMembers interaction.dialect) ≠ request.options)
          .invalidCassette
        match streamMember object with
        | none => .error .invalidCassette
        | some stream => do
          refuse (streamContractValid interaction stream = false) .invalidCassette
          refuse (eventTypesValid interaction.response.body = false) .invalidCassette

/-! ## The contract of a route -/

def geminiResponseToolCall (payload : Value) : Option (String × String) := do
  let call ← payload.pointer "/candidates/0/content/parts/0/functionCall"
  let id ← (call.get? "id").bind Value.text?
  let name ← (call.get? "name").bind Value.text?
  return (id, name)

/-- The identity and the name of a function call or response. -/
def callName (value : Value) : Option (String × String) := do
  let id ← (value.get? "id").bind Value.text?
  let name ← (value.get? "name").bind Value.text?
  return (id, name)

def geminiPart (expected : String × String) (calls : List (String × String)) (part : Value) :
    Option (List (String × String)) := do
  let calls ← match part.get? "functionCall" with
    | none => some calls
    | some call => do
      let (id, name) ← callName call
      if (calls.lookup id).isSome then none else some ((id, name) :: calls)
  match part.get? "functionResponse" with
  | none => some calls
  | some response => do
    let (id, name) ← callName response
    if calls.lookup id ≠ some name ∨ (id, name) ≠ expected then none
    else some (calls.filter fun call => call.1 ≠ id)

/-- The request answers this call, and every call in it is answered. -/
def geminiRequestContainsPair (body : Value) (expected : String × String) : Bool :=
  match (body.get? "contents").bind Value.items? with
  | none => false
  | some contents =>
    let parts := contents.flatMap fun content => ((content.get? "parts").bind Value.items?).getD []
    parts.foldlM (geminiPart expected) [] = some []

def nextAnswers (interaction : Interaction) (next : Option Interaction) : Bool :=
  match interaction.response.body with
  | .buffered .. => next.any fun next =>
      next.dialect = .geminiGenerateContent && next.request = interaction.request
  | .events recorded _ =>
    match recorded.head?.bind fun event => geminiResponseToolCall event.payload with
    | none => true
    | some expected => next.any fun next =>
        next.dialect = .geminiGenerateContent &&
          geminiRequestContainsPair next.request.body expected

def validateOrderedRouteContract : List Interaction → Except ReplayError Unit
  | [] => .ok ()
  | interaction :: rest => do
    refuse (interaction.dialect = .geminiGenerateContent ∧
      nextAnswers interaction rest.head? = false) .invalidCassette
    validateOrderedRouteContract rest

end AgentSystemsBenchmark.Replay
