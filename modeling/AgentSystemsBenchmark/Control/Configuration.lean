import AgentSystemsBenchmark.Control.Mutation

/-!
# Provider catalog and setup

The provider projection the setup operations read and the mutation that replaces
the selected configuration.
-/

namespace AgentSystemsBenchmark.Control

open Effects

def ollamaModel : String := "qwen3-coder:30b"
def openaiModel : String := "gpt-5.2-2025-12-11"
def openrouterModel : String := "cohere/north-mini-code:free"
def openrouterModelSnapshotDate : String := "2026-09-25"
def geminiModel : String := "gemini-2.5-flash"

/-- A hosted provider with one selectable model behind a credential reference. -/
def hostedProvider (providerId displayName modelId revision : String) : ProviderCatalogEntry where
  providerId := providerId
  displayName := displayName
  authMethods := [.credentialReference]
  models := [⟨modelId, revision, .available⟩]
  availability := .available

def unavailableOllama : ProviderAvailability := .unavailable "verified-daemon-unavailable"

def builtinProviders : List ProviderCatalogEntry :=
  [{ providerId := "ollama"
     displayName := "Ollama"
     authMethods := [.localDaemon, .none]
     models := [⟨ollamaModel, "local-daemon", unavailableOllama⟩]
     availability := unavailableOllama },
   hostedProvider "openai" "OpenAI" openaiModel "provider-catalog-v1",
   hostedProvider "openrouter" "OpenRouter" openrouterModel openrouterModelSnapshotDate,
   hostedProvider "gemini" "Gemini" geminiModel "provider-catalog-v1"]

def sortProviders (providers : List ProviderCatalogEntry) : List ProviderCatalogEntry :=
  providers.insertionSort fun left right => ¬ precedes right.providerId left.providerId

variable (env : Platform)

def buildProviderCatalog (runnerInstanceId : String) (generation : Nat) (refreshed : Bool)
    (custom : List ProviderCatalogEntry) : Except BackendFailure ProviderCatalog :=
  let catalog : ProviderCatalog :=
    { runnerInstanceId := runnerInstanceId
      generation := generation
      catalogSha256 := ""
      providers := sortProviders (builtinProviders ++ custom)
      refreshed := refreshed }
  let signed := { catalog with catalogSha256 := catalog.computedSha256 env }
  if signed.validate env = .ok () then .ok signed else .error .rejected

/-- The read-only projection of the provider catalog. -/
def providerCatalogStatus (catalog : Catalog) : Except BackendFailure ProviderCatalog :=
  buildProviderCatalog env catalog.runnerInstanceId catalog.providerGeneration false
    (catalog.providerProfiles.entries.map (·.2))

/-- The provider and the model are both available in the projection. -/
def selectable (providers : ProviderCatalog) (providerId modelId : String) :
    Except BackendFailure ProviderCatalogEntry :=
  match providers.providers.find? fun provider => provider.providerId = providerId with
  | none => .error .rejected
  | some provider =>
    if provider.availability = .available ∧
        (provider.models.any fun model => model.modelId = modelId ∧ model.availability = .available)
    then .ok provider else .error .rejected

def configurationStatus (catalog : Catalog) : ConfigurationSnapshot :=
  match catalog.configuration with
  | some configuration => configuration.snapshot catalog.runnerInstanceId
  | none =>
    { runnerInstanceId := catalog.runnerInstanceId
      generation := 1
      configured := false
      agentIds := []
      providerId := none
      modelId := none
      authMethod := none
      credentialReferenceSha256 := none }

def u64Max : Nat := 2 ^ 64 - 1

/-- The reads before the mutation: the selection must be available. -/
def checkSelection (selection : ConfigurationSelection) (catalog : Catalog) :
    Except BackendFailure Unit := do
  let providers ← providerCatalogStatus env catalog
  let provider ← selectable providers selection.providerId selection.modelId
  refuse (selection.authMethod ∉ provider.authMethods) .rejected

def applySelection (params : ConfigurationApplyParams) (catalog : Catalog) :
    Except BackendFailure (ControlResult × Catalog) := do
  let actual := (catalog.configuration.map (·.generation)).getD 1
  refuse (actual ≠ params.expectedGeneration) .staleIdentity
  refuse (actual = u64Max) .rejected
  let configuration : ConfigurationRecord :=
    { agentIds := params.selection.agentIds
      providerId := params.selection.providerId
      modelId := params.selection.modelId
      authMethod := params.selection.authMethod
      credentialReferenceSha256 := params.selection.credentialReferenceSha256
      generation := actual + 1 }
  pure (.configuration (configuration.snapshot catalog.runnerInstanceId),
    { catalog with configuration := some configuration })

def configurationApply (moment : Moment) (params : ConfigurationApplyParams)
    (store : CatalogStore) :
    Except BackendFailure BoundControlResult × CatalogStore :=
  match checkSelection env params.selection store.live with
  | .error failure => (.error failure, store)
  | .ok () =>
    mutation env moment (.configurationApply params) params.idempotencyKey .configurationApply
      (applySelection params) store

end AgentSystemsBenchmark.Control
