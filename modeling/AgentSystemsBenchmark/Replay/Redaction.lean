import AgentSystemsBenchmark.Replay.Cassette

/-!
# Redaction before a cassette is sealed

A policy selects headers, query parameters and parts of JSON bodies. Each selected value
is replaced by a marker; equal values get equal markers, and markers are numbered in the
order in which new values are met. Input that holds the reserved marker text is refused.
-/

namespace AgentSystemsBenchmark.Replay

open Effects Json

def markerPrefix : List Char := "[ASB_REDACTED:".toList
def maxSelectors : Nat := 256
def maxMappings : Nat := 4096

inductive RedactionError where
  | unsupportedVersion | invalidPolicy | missingSensitiveField | interactionContextRequired
  | invalidHeaderValue | markerInjection | invalidRequestTarget | limitExceeded | serialization
  deriving DecidableEq, Repr

/-- The text occurs in the other one. -/
def occurs (needle text : List Char) : Bool := text.tails.any needle.isPrefixOf

theorem occurs_iff {needle text : List Char} : occurs needle text = true ↔ needle <:+: text := by
  simp only [occurs, List.any_eq_true, List.mem_tails, List.isPrefixOf_iff_prefix,
    List.infix_iff_prefix_suffix]
  exact ⟨fun ⟨tail, isSuffix, isPrefix⟩ => ⟨tail, isPrefix, isSuffix⟩,
    fun ⟨tail, isPrefix, isSuffix⟩ => ⟨tail, isSuffix, isPrefix⟩⟩

def containsMarker (value : Value) : Bool := occurs markerPrefix value.print

def marker (ordinal : Nat) : String :=
  let digits := Nat.toDigits 10 ordinal
  String.ofList (markerPrefix ++ List.replicate (6 - digits.length) '0' ++ digits ++ [']'])

/-- A marker this policy can have produced. -/
def validMarker (value : Value) : Bool :=
  match value.text? with
  | none => false
  | some text =>
    let digits := (text.toList.drop markerPrefix.length).dropLast
    text.toList = markerPrefix ++ digits ++ [']'] && digits.length = 6 &&
      digits.all Char.isDigit && 1 ≤ Nat.ofDigitChars 10 digits 0 &&
      Nat.ofDigitChars 10 digits 0 ≤ maxMappings

/-! ## Policies -/

def toAsciiLowercase (text : String) : String :=
  String.ofList (text.toList.map fun c => if asciiUppercase c then Char.ofNat (c.toNat + 32) else c)

/-- Each `~` of a step is followed by `0` or `1`. -/
def stepShape : List Char → Bool
  | [] => true
  | '~' :: '0' :: rest => stepShape rest
  | '~' :: '1' :: rest => stepShape rest
  | '~' :: _ => false
  | _ :: rest => stepShape rest

def validPointer (pointer : String) : Bool :=
  pointer.toList.head? = some '/' && !occurs ['/', '/'] pointer.toList &&
    ((pointer.toList.splitOn '/').drop 1).all fun step => stepShape step && step ≠ []

namespace RedactionPolicy

def selectorCount (policy : RedactionPolicy) : Nat :=
  policy.headerNames.items.length + policy.queryParameters.items.length +
    policy.requestBodyPointers.items.length +
    (policy.requestBodyRules.map fun rule => rule.pointers.length).sum +
    policy.responseBodyPointers.items.length

def versionShapeValid (policy : RedactionPolicy) : Bool :=
  if policy.version = defaultRedactionPolicyVersion then policy.requestBodyRules.isEmpty
  else if policy.version = interactionRedactionPolicyVersion then
    policy.requestBodyPointers.items.isEmpty && !policy.requestBodyRules.isEmpty
  else false

/-- Rules are ordered by interaction and method, and each lists its pointers in order. -/
def rulesValid : Option (String × String) → List RequestBodyRedactionRule → Bool
  | _, [] => true
  | previous, rule :: rest =>
    (previous.all fun key =>
      key.1 < rule.interactionId || (key.1 = rule.interactionId && key.2 < rule.method)) &&
    validIdentity rule.interactionId && rule.method = "POST" && !rule.pointers.isEmpty &&
    rule.pointers.length ≤ maxSelectors && decide (rule.pointers.IsChain (· < ·)) &&
    rule.pointers.all validPointer && rulesValid (some (rule.interactionId, rule.method)) rest

def validate (policy : RedactionPolicy) : Except RedactionError Unit := do
  refuse (policy.version ≠ defaultRedactionPolicyVersion ∧
      policy.version ≠ interactionRedactionPolicyVersion)
    .unsupportedVersion
  refuse (policy.selectorCount > maxSelectors ∨ policy.versionShapeValid = false ∨
      rulesValid none policy.requestBodyRules = false ∨
      (policy.headerNames.items.any fun name =>
        name = "" || name ≠ toAsciiLowercase name || !validHeaderName name) ∨
      policy.queryParameters.items.any (· = "") ∨
      (policy.requestBodyPointers.items ++ policy.responseBodyPointers.items).any
        (fun pointer => !validPointer pointer))
    .invalidPolicy

def descriptor (platform : Platform) (policy : RedactionPolicy) :
    Except RedactionError RedactionDescriptor := do
  policy.validate
  (descriptorUnchecked platform policy).mapError fun _ => .serialization

end RedactionPolicy

/-! ## The redactor -/

inductive SensitiveValueKey where
  | text (text : String)
  | json (canonical : List Char)
  deriving DecidableEq

/-- The values met so far with their markers, in the order they were met. -/
structure Redactor where
  mappings : List (SensitiveValueKey × String) := []
  replacements : Nat := 0

structure RedactionReport where
  policyVersion : Nat
  replacements : Nat
  distinctValues : Nat
  deriving DecidableEq, Repr

abbrev Redaction (α : Type) := StateT Redactor (Except RedactionError) α

namespace Redaction

def failIf (c : Prop) [Decidable c] (error : RedactionError) : Redaction Unit :=
  fun redactor => if c then .error error else .ok ((), redactor)

def lift {ε α : Type} (value : Except ε α) (error : RedactionError) : Redaction α :=
  fun redactor => match value with
    | .ok a => .ok (a, redactor)
    | .error _ => .error error

end Redaction

def placeholder (key : SensitiveValueKey) : Redaction String := fun redactor => do
  refuse (redactor.replacements + 1 ≥ 2 ^ 32) .limitExceeded
  match redactor.mappings.lookup key with
  | some existing => return (existing, { redactor with replacements := redactor.replacements + 1 })
  | none => do
    refuse (redactor.mappings.length = maxMappings) .limitExceeded
    let next := marker (redactor.mappings.length + 1)
    return (next, ⟨redactor.mappings ++ [(key, next)], redactor.replacements + 1⟩)

def placeholderText (value : String) : Redaction String := placeholder (.text value)

section Redact
variable (platform : Platform) (policy : RedactionPolicy)

def rejectMarkerInjection (value : Value) : Redaction Unit :=
  Redaction.failIf (containsMarker value = true) .markerInjection

def redactSortedHeaders : Option String → List Header → Redaction (List Header)
  | _, [] => pure []
  | previous, header :: rest => do
    let name := toAsciiLowercase header.name
    Redaction.failIf (previous = some name) .missingSensitiveField
    Redaction.failIf (validHeaderValue header.value = false) .invalidHeaderValue
    let value ← if name ∈ policy.headerNames then placeholderText header.value
      else pure header.value
    let rest ← redactSortedHeaders (some name) rest
    return ⟨name, value⟩ :: rest

def byLowercaseName (left right : Header) : Prop :=
  toAsciiLowercase left.name ≤ toAsciiLowercase right.name

instance : DecidableRel byLowercaseName := fun left right =>
  inferInstanceAs (Decidable (toAsciiLowercase left.name ≤ toAsciiLowercase right.name))

def redactHeaders (headers : List Header) : Redaction (List Header) :=
  redactSortedHeaders policy none (headers.insertionSort byLowercaseName)

def redactPairs : List (String × String) → Redaction (List (String × String))
  | [] => pure []
  | (name, value) :: rest => do
    let value ← if name ∈ policy.queryParameters then placeholderText value else pure value
    let rest ← redactPairs rest
    return (name, value) :: rest

def Target.pairs (target : Target) : List (String × String) :=
  target.query.elim [] platform.formPairs

def redactPath (path : String) : Redaction String := do
  Redaction.failIf (validOriginForm platform path = false ∨
    occurs ['%', '2', '5'] path.toList = true) .invalidRequestTarget
  match platform.parseTarget path with
  | none => fun _ => .error .invalidRequestTarget
  | some target =>
    if target.pairs platform = [] then return target.reconstructed
    else do
      let pairs ← redactPairs policy (target.pairs platform)
      return target.path ++ "?" ++ platform.formQuery pairs

def sensitiveValueKey : Value → Except CassetteError SensitiveValueKey
  | .string text => .ok (.text text)
  | value => (canonicalJsonBytes value).map .json

def redactPointer (body : Value) (pointer : String) : Redaction Value := do
  match body.pointer pointer with
  | none => fun _ => .error .missingSensitiveField
  | some selected => do
    let key ← Redaction.lift (sensitiveValueKey selected) .serialization
    let text ← placeholder key
    return (body.assign pointer (.string text)).getD body

/-- A pointer selects an option when it points at it or into it. -/
def selects (pointer name : String) : Bool :=
  pointer = memberPointer name ||
    ((memberPointer name).toList ++ ['/']).isPrefixOf pointer.toList

def synchronizeRequestOptions (body : Value) (pointers : List String)
    (options : List (String × Value)) : List (String × Value) :=
  match body.members? with
  | none => options
  | some members => options.map fun (name, value) =>
    if pointers.any (selects · name) then (name, (members.lookup name).getD value)
    else (name, value)

def redactRequestWithPointers (request : RecordedRequest) (pointers : List String) :
    Redaction RecordedRequest := do
  rejectMarkerInjection request.json
  let headers ← redactHeaders policy request.headers
  let path ← redactPath platform policy request.path
  let body ← pointers.foldlM redactPointer request.body
  let bodySha256 ← Redaction.lift (canonicalValueDigest platform body) .serialization
  return { request with
    headers, path, body, bodySha256
    options := synchronizeRequestOptions body pointers request.options }

def redactEvent (pointers : List String) (event : CassetteEvent) : Redaction CassetteEvent := do
  let payload ← pointers.foldlM redactPointer event.payload
  let payloadSha256 ← Redaction.lift (canonicalValueDigest platform payload) .serialization
  return { event with payload, payloadSha256 }

def redactResponse (response : RecordedResponse) : Redaction RecordedResponse := do
  rejectMarkerInjection response.json
  let headers ← redactHeaders policy response.headers
  let pointers := policy.responseBodyPointers.items
  match response.body with
  | .buffered payload _ responseId terminal => do
    let payload ← pointers.foldlM redactPointer payload
    let payloadSha256 ← Redaction.lift (canonicalValueDigest platform payload) .serialization
    return { response with headers, body := .buffered payload payloadSha256 responseId terminal }
  | .events recorded transportChunkBytes => do
    let recorded ← recorded.mapM (redactEvent platform pointers)
    return { response with headers, body := .events recorded transportChunkBytes }

def redactInteraction (descriptor : RedactionDescriptor) (interaction : Interaction) :
    Redaction Interaction := do
  match requestBodyPointersForDescriptor descriptor interaction.interactionId
      interaction.request.method with
  | none => fun _ => .error .invalidPolicy
  | some pointers => do
    let request ← redactRequestWithPointers platform policy interaction.request pointers
    let response ← redactResponse platform policy interaction.response
    return { interaction with request, response }

/-- Redact every interaction under a valid policy. -/
def redactContents (contents : CassetteContents) :
    Except RedactionError (CassetteContents × RedactionReport) := do
  policy.validate
  let descriptor ← policy.descriptor platform
  let (interactions, redactor) ←
    contents.interactions.mapM (redactInteraction platform policy descriptor) |>.run {}
  return ({ contents with redaction := descriptor, interactions },
    ⟨policy.version, redactor.replacements, redactor.mappings.length⟩)

end Redact

end AgentSystemsBenchmark.Replay
