import PipelineTrial.Environment
import PipelineTrial.Run.Executors
import PipelineTrial.Text.Blank
import PipelineTrial.Text.Quoted

/-! Endpoints of language models: where they are and which key opens them, as an environment says. -/

namespace PipelineTrial

/-- An endpoint that completes chats. -/
structure ModelEndpoint where
  baseUrl : String
  apiKey : Option String
  deriving DecidableEq

namespace ModelEndpoint

/-- The address that holds unless another is set. -/
def defaultUrl : String := "https://api.openai.com/v1"

/-- The value of a variable, when it is more than blanks. -/
def setting? (environment : Environment) (name : String) : Option String :=
  -- A value is taken with the blanks around it.
  (environment.get? name).filter fun value => trimBlanks value != ""

/-- The endpoint that an environment names. -/
def ofEnvironment (environment : Environment) : ModelEndpoint :=
  -- There may be no key.
  ⟨(setting? environment "OPENAI_BASE_URL").getD defaultUrl, setting? environment "OPENAI_API_KEY"⟩

/-- The endpoint as a text that shows its address and key. -/
def description (endpoint : ModelEndpoint) : String :=
  -- Both are quoted.
  let key := match endpoint.apiKey with
    | some key => "Some(" ++ quoteText key ++ ")"
    | none => "None"
  "base_url: " ++ quoteText endpoint.baseUrl ++ ", api_key: " ++ key

/-- The failure of an exchange whose request cannot be sent. -/
def unsent (reason : String) : ModelError := .request ("http post failed: " ++ reason)

/-- The models behind an endpoint that no request reaches. -/
def unreachable {σ : Type} (endpoint : ModelEndpoint) : ModelClient σ where
  complete _ _ world :=
    -- Requests fail at once, before anything is sent.
    (.answer Duration.zero (.error (unsent ("no connection to " ++ endpoint.baseUrl))), world)

end ModelEndpoint

end PipelineTrial
