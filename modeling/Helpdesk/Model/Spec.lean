import Helpdesk.Number
import Helpdesk.Settings
import Helpdesk.Workflow.Definition

/-!
# Helpdesk.Model.Spec — which model is talked to.

A step may choose its model, its key and its address; what it does not choose comes from the
settings. Two steps that end up with the same key, address, model and temperature share a model.
-/
namespace Helpdesk.Model

structure Spec where
  model : String
  apiKey : Option String
  baseUrl : Option String
  temperature : Number
  /-- Seconds after which a call is given up. -/
  timeLimit : Float
  maxRetries : Int

namespace Spec

/-- A text that was chosen; an empty one chooses nothing. -/
def chosen (text : Option String) : Option String :=
  text.filter (!·.isEmpty)

/-- The model of a choice at a temperature. -/
def ofChoice (s : Settings) (choice : Option Workflow.ModelChoice) (temperature : Number) :
    Spec where
  model := (chosen (choice.bind (·.model))).getD s.chatModel
  apiKey := (chosen (choice.bind (·.apiKey))).or s.openaiApiKey
  baseUrl := (chosen (choice.bind (·.baseUrl))).or s.baseUrl?
  temperature := temperature
  timeLimit := s.llmTimeoutSeconds
  maxRetries := s.llmMaxRetries

/-- The model that decides for a choice. -/
def deciding (s : Settings) (choice : Option Workflow.ModelChoice) : Spec :=
  ofChoice s choice (.float s.classificationTemperature)

/-- The model that writes for a choice. -/
def writing (s : Settings) (choice : Option Workflow.ModelChoice) : Spec :=
  ofChoice s choice (.float s.chatTemperature)

/-- A temperature as a value. -/
def temperatureValue : Number → Value
  | .int n => .int n
  | .float x => .float x

/-- A specification as a record. -/
def toValue (spec : Spec) : Value :=
  .object [
    ("model", .text spec.model),
    ("api_key", .ofText? spec.apiKey),
    ("base_url", .ofText? spec.baseUrl),
    ("temperature", temperatureValue spec.temperature),
    ("timeout", .float spec.timeLimit),
    ("max_retries", .int spec.maxRetries)]

/-- Whether one model serves both. -/
def isSame (a b : Spec) : Bool :=
  a.apiKey == b.apiKey && a.baseUrl == b.baseUrl && a.model == b.model &&
    Number.equal a.temperature b.temperature

end Spec

end Helpdesk.Model
