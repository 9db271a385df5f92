import Leaderboard.Dataset.Payload
import Leaderboard.Files.Basic
import Leaderboard.Web

set_option autoImplicit false

namespace Leaderboard

inductive Source
  | endpoint (url : Url) (timeoutSecs : UInt64)
  | file (path : String)

namespace Source

inductive EndpointError
  | invalid (text : String) (reason : Url.UrlError)
  | unsupported (scheme : String)

namespace EndpointError

def message : EndpointError → String
  | invalid text reason => "Invalid endpoint URL '" ++ text ++ "': " ++ reason.message
  | unsupported scheme => "Unsupported endpoint scheme '" ++ scheme ++ "'"

def failure (e : EndpointError) : Failure := ⟨.configuration, e.message⟩

end EndpointError

def ofEndpoint (text : String) (timeoutSecs : UInt64) : Except EndpointError Source :=
  match Url.parse text with
  | .error reason => .error (.invalid text reason)
  | .ok url =>
    if url.isWeb then .ok (.endpoint url timeoutSecs) else .error (.unsupported url.scheme)

def describe : Source → String
  | endpoint url _ => url.text
  | file path => path

def ofAnswer (url : Url) : Web.Answer → Except Failure Dataset
  | .unsent reason => .error ⟨.fetch, "request to " ++ url.text ++ " failed: " ++ reason⟩
  | .answered status body =>
    if status.isSuccess then
      match body with
      | .ok bytes => Dataset.parse bytes
      | .error reason => .error ⟨.fetch, "failed to read response body: " ++ reason⟩
    else .error ⟨.fetch, url.text ++ " answered " ++ status.text⟩

def fetch (files : Files) (web : Web) : Source → Except Failure Dataset
  | endpoint url timeoutSecs =>
    ofAnswer url (web.answer ⟨url, "application/json", timeoutSecs⟩)
  | file path =>
    match files.read path with
    | .error e => .error ⟨.fetch, "failed to read " ++ path ++ ": " ++ e.message⟩
    | .ok bytes => Dataset.parse bytes

end Source

end Leaderboard
