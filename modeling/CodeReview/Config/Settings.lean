import CodeReview.Failure
import CodeReview.Toml.Read

/-!
Settings. All have defaults, so the empty document is a valid configuration. They come from a TOML document
and then from variables of the environment.
-/

namespace CodeReview

open Decode

inductive ProviderKind
  | mock
  | openAi
  deriving DecidableEq, Repr

namespace ProviderKind

def name : ProviderKind → String
  | .mock => "mock"
  | .openAi => "openai"

def ofName? : String → Option ProviderKind
  | "mock" => some .mock
  | "openai" | "open_ai" => some .openAi
  | _ => none

def parse (name : String) : Except Failure ProviderKind :=
  let normal := Text.lowerCase (Text.trimmed name)
  match ofName? normal with
  | some kind => .ok kind
  | none => .error (.invalidSetting "provider.kind" ("unknown provider '" ++ normal ++ "'"))

end ProviderKind

structure ProviderSettings where
  kind : ProviderKind := .mock
  apiKey : Option String := none
  model : String := "gpt-4o-mini"
  embeddingModel : String := "text-embedding-3-small"
  apiBase : String := "https://api.openai.com/v1"
  requestTimeout : Nat := 60
  /-- Dimension of the mock provider's embeddings. -/
  mockDim : Nat := 768
  deriving DecidableEq, Repr

structure RetrievalSettings where
  indexDir : String := ".devinsight/index"
  topK : Nat := 5
  embedBatchSize : Nat := 64
  chunkMaxChars : Nat := 250
  deriving DecidableEq, Repr

structure ReviewSettings where
  /-- Whether the model is asked for findings. -/
  suggestionsEnabled : Bool := false
  suggestionTimeout : Nat := 60
  deriving DecidableEq, Repr

structure TestSettings where
  /-- Whether the model is asked for tests. -/
  llmEnabled : Bool := false
  /-- Whether coverage is measured even without a goal. -/
  runCoverage : Bool := false
  generationTimeout : Nat := 120
  deriving DecidableEq, Repr

structure SandboxSettings where
  python : String := "python3"
  timeout : Nat := 120
  deriving DecidableEq, Repr

structure MetricsSettings where
  enabled : Bool := true
  path : String := ".devinsight/review_metrics.jsonl"
  deriving DecidableEq, Repr

structure LoggingSettings where
  level : String := "info"
  json : Bool := false
  deriving DecidableEq, Repr

structure Settings where
  provider : ProviderSettings := {}
  retrieval : RetrievalSettings := {}
  review : ReviewSettings := {}
  testgen : TestSettings := {}
  sandbox : SandboxSettings := {}
  metrics : MetricsSettings := {}
  logging : LoggingSettings := {}
  deriving DecidableEq, Repr

section Decoding

def ProviderSettings.decode : Decoder ProviderSettings := fun scan => do
  let kind := choice ProviderKind.ofName?
  let r ← record
    [defaulted "kind" kind, defaulted "api_key" (optional text), defaulted "model" text,
      defaulted "embedding_model" text, defaulted "api_base" text,
      defaulted "request_timeout_secs" word, defaulted "mock_dim" word] scan
  let d : ProviderSettings := {}
  return {
    kind := ← r.getD "kind" kind d.kind
    apiKey := ← r.getOptional "api_key" text
    model := ← r.getD "model" text d.model
    embeddingModel := ← r.getD "embedding_model" text d.embeddingModel
    apiBase := ← r.getD "api_base" text d.apiBase
    requestTimeout := ← r.getD "request_timeout_secs" word d.requestTimeout
    mockDim := ← r.getD "mock_dim" word d.mockDim }

def RetrievalSettings.decode : Decoder RetrievalSettings := fun scan => do
  let r ← record
    [defaulted "index_dir" text, defaulted "top_k" word, defaulted "embed_batch_size" word,
      defaulted "chunk_max_chars" word] scan
  let d : RetrievalSettings := {}
  return {
    indexDir := ← r.getD "index_dir" text d.indexDir
    topK := ← r.getD "top_k" word d.topK
    embedBatchSize := ← r.getD "embed_batch_size" word d.embedBatchSize
    chunkMaxChars := ← r.getD "chunk_max_chars" word d.chunkMaxChars }

def ReviewSettings.decode : Decoder ReviewSettings := fun scan => do
  let r ← record
    [defaulted "suggestions_enabled" boolean, defaulted "suggestion_timeout_secs" word] scan
  let d : ReviewSettings := {}
  return {
    suggestionsEnabled := ← r.getD "suggestions_enabled" boolean d.suggestionsEnabled
    suggestionTimeout := ← r.getD "suggestion_timeout_secs" word d.suggestionTimeout }

def TestSettings.decode : Decoder TestSettings := fun scan => do
  let r ← record
    [defaulted "llm_enabled" boolean, defaulted "run_coverage" boolean,
      defaulted "generation_timeout_secs" word] scan
  let d : TestSettings := {}
  return {
    llmEnabled := ← r.getD "llm_enabled" boolean d.llmEnabled
    runCoverage := ← r.getD "run_coverage" boolean d.runCoverage
    generationTimeout := ← r.getD "generation_timeout_secs" word d.generationTimeout }

def SandboxSettings.decode : Decoder SandboxSettings := fun scan => do
  let r ← record [defaulted "python" text, defaulted "timeout_secs" word] scan
  let d : SandboxSettings := {}
  return {
    python := ← r.getD "python" text d.python
    timeout := ← r.getD "timeout_secs" word d.timeout }

def MetricsSettings.decode : Decoder MetricsSettings := fun scan => do
  let r ← record [defaulted "enabled" boolean, defaulted "path" text] scan
  let d : MetricsSettings := {}
  return {
    enabled := ← r.getD "enabled" boolean d.enabled
    path := ← r.getD "path" text d.path }

def LoggingSettings.decode : Decoder LoggingSettings := fun scan => do
  let r ← record [defaulted "level" text, defaulted "json" boolean] scan
  let d : LoggingSettings := {}
  return {
    level := ← r.getD "level" text d.level
    json := ← r.getD "json" boolean d.json }

def Settings.decode : Decoder Settings := fun scan => do
  let r ← record
    [defaulted "provider" ProviderSettings.decode, defaulted "retrieval" RetrievalSettings.decode,
      defaulted "review" ReviewSettings.decode, defaulted "testgen" TestSettings.decode,
      defaulted "sandbox" SandboxSettings.decode, defaulted "metrics" MetricsSettings.decode,
      defaulted "logging" LoggingSettings.decode] scan
  return {
    provider := ← r.getD "provider" ProviderSettings.decode {}
    retrieval := ← r.getD "retrieval" RetrievalSettings.decode {}
    review := ← r.getD "review" ReviewSettings.decode {}
    testgen := ← r.getD "testgen" TestSettings.decode {}
    sandbox := ← r.getD "sandbox" SandboxSettings.decode {}
    metrics := ← r.getD "metrics" MetricsSettings.decode {}
    logging := ← r.getD "logging" LoggingSettings.decode {} }

end Decoding

namespace Settings

def toJson (s : Settings) : Json :=
  .object
    [("provider", .object
        [("kind", .text s.provider.kind.name), ("api_key", .ofText? s.provider.apiKey),
          ("model", .text s.provider.model), ("embedding_model", .text s.provider.embeddingModel),
          ("api_base", .text s.provider.apiBase),
          ("request_timeout_secs", .ofNat s.provider.requestTimeout),
          ("mock_dim", .ofNat s.provider.mockDim)]),
      ("retrieval", .object
        [("index_dir", .text s.retrieval.indexDir), ("top_k", .ofNat s.retrieval.topK),
          ("embed_batch_size", .ofNat s.retrieval.embedBatchSize),
          ("chunk_max_chars", .ofNat s.retrieval.chunkMaxChars)]),
      ("review", .object
        [("suggestions_enabled", .bool s.review.suggestionsEnabled),
          ("suggestion_timeout_secs", .ofNat s.review.suggestionTimeout)]),
      ("testgen", .object
        [("llm_enabled", .bool s.testgen.llmEnabled), ("run_coverage", .bool s.testgen.runCoverage),
          ("generation_timeout_secs", .ofNat s.testgen.generationTimeout)]),
      ("sandbox", .object
        [("python", .text s.sandbox.python), ("timeout_secs", .ofNat s.sandbox.timeout)]),
      ("metrics", .object
        [("enabled", .bool s.metrics.enabled), ("path", .text s.metrics.path)]),
      ("logging", .object
        [("level", .text s.logging.level), ("json", .bool s.logging.json)])]

section Checking

/-- Refuses settings with which nothing can run; the first of several is reported. -/
def validate (s : Settings) : Except Failure Unit :=
  let refuse (field : String) : Except Failure Unit :=
    .error (.invalidSetting field "must be at least 1")
  if s.retrieval.topK = 0 then refuse "retrieval.top_k"
  else if s.retrieval.embedBatchSize = 0 then refuse "retrieval.embed_batch_size"
  else if s.retrieval.chunkMaxChars = 0 then refuse "retrieval.chunk_max_chars"
  else if s.provider.mockDim = 0 then refuse "provider.mock_dim"
  else .ok ()

end Checking

end Settings

end CodeReview
