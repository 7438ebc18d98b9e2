import Helpdesk.Fault
import Helpdesk.Settings

/-!
# Helpdesk.Knowledge.Backend — which store holds the knowledge.

Knowledge is kept in a collection of the installation's own or by a remote service. The own
collection needs a key for the model endpoint, because it embeds texts itself; the service needs an
address.
-/
namespace Helpdesk.Knowledge

inductive Backend where
  | internal
  | external (baseUrl : String)
  deriving DecidableEq

namespace Backend

/-- An address without the strokes at its end. -/
def withoutFinalStrokes (url : String) : String :=
  String.ofList (Text.dropTrailing (· == '/') url.toList)

/-- What is said when the key for the model endpoint is missing. -/
def keyMissing : Fault := .refused "OPENAI_API_KEY is required to call the language model"

/-- The backend that settings ask for. -/
def ofSettings (s : Settings) : Except Fault Backend :=
  if s.vectorBackend = "external" then
    match s.externalVectorBaseUrl.filter (!·.isEmpty) with
    | some url => return .external (withoutFinalStrokes url)
    | none => throw (.refused "EXTERNAL_VECTOR_BASE_URL is required for the external backend")
  else if s.apiKey?.isNone then throw keyMissing
  else return .internal

end Backend

end Helpdesk.Knowledge
