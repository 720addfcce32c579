import CodeReview.Config.Settings

/-!
Settings from variables of the environment. The variables are looked at in a fixed order; the first that
cannot be used ends it, and what those before it said stays in force.
-/

namespace CodeReview

namespace Settings

abbrev Environment := String → Option String

def parseFlag (name value : String) : Except Failure Bool :=
  match Text.lowerCase (Text.trimmed value) with
  | "1" | "true" | "yes" | "on" => .ok true
  | "0" | "false" | "no" | "off" | "" => .ok false
  | other => .error (.invalidSetting name ("expected a boolean, got '" ++ other ++ "'"))

structure Override where
  name : String
  change : Settings → String → Except Failure Settings

def setKind (s : Settings) (value : String) : Except Failure Settings := do
  let kind ← ProviderKind.parse value
  return { s with provider := { s.provider with kind } }

/-- An empty key counts as none. -/
def setApiKey (s : Settings) (value : String) : Except Failure Settings :=
  let apiKey := if value.isEmpty then none else some value
  .ok { s with provider := { s.provider with apiKey } }

def setSuggestions (s : Settings) (value : String) : Except Failure Settings := do
  let suggestionsEnabled ← parseFlag "DEVINSIGHT_SUGGESTIONS" value
  return { s with review := { s.review with suggestionsEnabled } }

def overrides : List Override :=
  [⟨"DEVINSIGHT_PROVIDER", setKind⟩,
    ⟨"DEVINSIGHT_API_KEY", setApiKey⟩,
    ⟨"DEVINSIGHT_MODEL", fun s model => .ok { s with provider := { s.provider with model } }⟩,
    ⟨"DEVINSIGHT_EMBEDDING_MODEL", fun s embeddingModel =>
      .ok { s with provider := { s.provider with embeddingModel } }⟩,
    ⟨"DEVINSIGHT_API_BASE", fun s apiBase =>
      .ok { s with provider := { s.provider with apiBase } }⟩,
    ⟨"DEVINSIGHT_INDEX_DIR", fun s indexDir =>
      .ok { s with retrieval := { s.retrieval with indexDir } }⟩,
    ⟨"DEVINSIGHT_METRICS_PATH", fun s path => .ok { s with metrics := { s.metrics with path } }⟩,
    ⟨"DEVINSIGHT_SUGGESTIONS", setSuggestions⟩]

def applyAll (environment : Environment) (s : Settings) :
    List Override → Settings × Except Failure Unit
  | [] => (s, s.validate)
  | o :: rest =>
      match environment o.name with
      | none => applyAll environment s rest
      | some value =>
          match o.change s value with
          | .ok changed => applyAll environment changed rest
          | .error e => (s, .error e)

def applyEnvironment (s : Settings) (environment : Environment) : Settings × Except Failure Unit :=
  applyAll environment s overrides

end Settings

end CodeReview
