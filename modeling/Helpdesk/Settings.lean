import Helpdesk.Validation

/-!
# Helpdesk.Settings — how an installation is set up.

Settings are read from what the program is started with and from the environment, in that order;
what neither gives has a default. Names in the environment are not sensitive to case. A name that is
given and is no setting is a mistake, a stray name in the environment is not.
-/
namespace Helpdesk

structure Settings where
  openaiApiKey : Option String
  openaiBaseUrl : Option String
  chatModel : String
  summaryModel : String
  embeddingModel : String
  embeddingDimensions : Option Int
  embeddingMaxChars : Int
  classificationTemperature : Float
  chatTemperature : Float
  llmTimeoutSeconds : Float
  llmMaxRetries : Int
  searchTimeoutSeconds : Float
  logLevel : String
  environment : String
  ragBaseK : Int
  ragTopN : Int
  ragMaxPerSource : Int
  ragMaxResults : Int
  ragSummaryBonus : Float
  vectorBackend : String
  vectorDbPath : String
  vectorCollection : String
  externalVectorBaseUrl : Option String
  chunkMaxChars : Int
  runtimeMaxRetries : Int
  runtimeRetryDelaySeconds : Float
  workflowRecursionLimit : Int
  fallbackScope : String
  workflowConfigPath : String
  ticketDataPath : String
  feishuWebhookUrl : Option String
  appUrl : String
  apiHost : String
  apiPort : Int

namespace Settings

/-- The names of all settings. -/
def names : List String :=
  ["openai_api_key", "openai_base_url", "chat_model", "summary_model", "embedding_model",
    "embedding_dimensions", "embedding_max_chars", "classification_temperature",
    "chat_temperature", "llm_timeout_seconds", "llm_max_retries", "search_timeout_seconds",
    "log_level", "environment", "rag_base_k", "rag_top_n", "rag_max_per_source",
    "rag_max_results", "rag_summary_bonus", "vector_backend", "vector_db_path",
    "vector_collection", "external_vector_base_url", "chunk_max_chars", "runtime_max_retries",
    "runtime_retry_delay_seconds", "workflow_recursion_limit", "fallback_scope",
    "workflow_config_path", "ticket_data_path", "feishu_webhook_url", "app_url", "api_host",
    "api_port"]

/-- Reads settings from entries under their names. -/
def shape : Shape Settings := Shape.record fun e =>
  let text := fun name otherwise => Shape.optional [name] Shape.text otherwise e
  let text? := fun name => Shape.optional [name] (Shape.orNull .text) none e
  let int := fun name otherwise => Shape.optional [name] Shape.int otherwise e
  let float := fun name otherwise => Shape.optional [name] Shape.float otherwise e
  Settings.mk
    <$> text? "openai_api_key"
    <*> text? "openai_base_url"
    <*> text "chat_model" "gpt-4o-mini"
    <*> text "summary_model" "gpt-4o-mini"
    <*> text "embedding_model" "text-embedding-3-large"
    <*> Shape.optional ["embedding_dimensions"] (.orNull .int) (some 3072) e
    <*> int "embedding_max_chars" 8000
    <*> float "classification_temperature" 0.0
    <*> float "chat_temperature" 0.3
    <*> float "llm_timeout_seconds" 60.0
    <*> int "llm_max_retries" 2
    <*> float "search_timeout_seconds" 20.0
    <*> text "log_level" "INFO"
    <*> text "environment" "development"
    <*> int "rag_base_k" 6
    <*> int "rag_top_n" 6
    <*> int "rag_max_per_source" 2
    <*> int "rag_max_results" 7
    <*> float "rag_summary_bonus" 0.02
    <*> text "vector_backend" "internal"
    <*> text "vector_db_path" "./data/vector_db"
    <*> text "vector_collection" "knowledge_base"
    <*> text? "external_vector_base_url"
    <*> int "chunk_max_chars" 1200
    <*> int "runtime_max_retries" 3
    <*> float "runtime_retry_delay_seconds" 0.3
    <*> int "workflow_recursion_limit" 25
    <*> text "fallback_scope" "default_all"
    <*> text "workflow_config_path" "./data/workflows.json"
    <*> text "ticket_data_path" "./data/tickets.json"
    <*> text? "feishu_webhook_url"
    <*> text "app_url" "http://localhost:8000"
    <*> text "api_host" "0.0.0.0"
    <*> int "api_port" 8000

/-- The setting that a name stands for. -/
def named? (name : String) : Option String :=
  names.find? (· == Text.lower name)

/-- The entries of settings among others, under their own names. -/
def recognized (entries : Entries) : Entries :=
  Entries.ofList (entries.filterMap fun (name, v) => (named? name).map fun known => (known, v))

/-- The issues of entries that are no settings. -/
def strays (entries : Entries) : List Issue :=
  (entries.filter fun (name, _) => (named? name).isNone).map fun (name, _) =>
    ⟨[name], .extraForbidden⟩

/-- Reads settings from what is given and from the environment. -/
def read (environment given : Entries) : Checked Settings :=
  let found := shape (.object (Entries.putAll (recognized environment) (recognized given)))
  match strays given with
  | [] => found
  | issues =>
    match found with
    | .valid _ => .invalid issues
    | .invalid more => .invalid (more ++ issues)

/-- Settings as a record. -/
def toValue (s : Settings) : Value :=
  .object [
    ("openai_api_key", .ofText? s.openaiApiKey),
    ("openai_base_url", .ofText? s.openaiBaseUrl),
    ("chat_model", .text s.chatModel),
    ("summary_model", .text s.summaryModel),
    ("embedding_model", .text s.embeddingModel),
    ("embedding_dimensions", .ofInt? s.embeddingDimensions),
    ("embedding_max_chars", .int s.embeddingMaxChars),
    ("classification_temperature", .float s.classificationTemperature),
    ("chat_temperature", .float s.chatTemperature),
    ("llm_timeout_seconds", .float s.llmTimeoutSeconds),
    ("llm_max_retries", .int s.llmMaxRetries),
    ("search_timeout_seconds", .float s.searchTimeoutSeconds),
    ("log_level", .text s.logLevel),
    ("environment", .text s.environment),
    ("rag_base_k", .int s.ragBaseK),
    ("rag_top_n", .int s.ragTopN),
    ("rag_max_per_source", .int s.ragMaxPerSource),
    ("rag_max_results", .int s.ragMaxResults),
    ("rag_summary_bonus", .float s.ragSummaryBonus),
    ("vector_backend", .text s.vectorBackend),
    ("vector_db_path", .text s.vectorDbPath),
    ("vector_collection", .text s.vectorCollection),
    ("external_vector_base_url", .ofText? s.externalVectorBaseUrl),
    ("chunk_max_chars", .int s.chunkMaxChars),
    ("runtime_max_retries", .int s.runtimeMaxRetries),
    ("runtime_retry_delay_seconds", .float s.runtimeRetryDelaySeconds),
    ("workflow_recursion_limit", .int s.workflowRecursionLimit),
    ("fallback_scope", .text s.fallbackScope),
    ("workflow_config_path", .text s.workflowConfigPath),
    ("ticket_data_path", .text s.ticketDataPath),
    ("feishu_webhook_url", .ofText? s.feishuWebhookUrl),
    ("app_url", .text s.appUrl),
    ("api_host", .text s.apiHost),
    ("api_port", .int s.apiPort)]

/-- The key for the model endpoint; nothing when it is missing or empty. -/
def apiKey? (s : Settings) : Option String :=
  s.openaiApiKey.filter (!·.isEmpty)

/-- The address of the model endpoint; nothing for the provider's own. -/
def baseUrl? (s : Settings) : Option String :=
  s.openaiBaseUrl.filter (!·.isEmpty)

end Settings

end Helpdesk
