set_option autoImplicit false

namespace Leaderboard

inductive FailureKind
  | fetch
  | parse
  | configuration
  | invalidRequest
  | notFound
  | schema
  | unavailable
  | io
  | json
  | yaml
  | config
  | other
deriving Repr, DecidableEq

namespace FailureKind

def category : FailureKind → String
  | fetch => "fetch"
  | parse => "parse"
  | configuration => "configuration"
  | invalidRequest => "invalid_request"
  | notFound => "not_found"
  | schema => "schema"
  | unavailable => "unavailable"
  | io => "io"
  | json => "json"
  | yaml => "yaml"
  | config => "config"
  | other => "other"

def all : List FailureKind :=
  [fetch, parse, configuration, invalidRequest, notFound, schema, unavailable, io, json, yaml,
    config, other]

def ofCategory? (name : String) : Option FailureKind := all.find? (fun k => k.category == name)

def lead : FailureKind → String
  | fetch => "Fetch error"
  | parse => "Parse error"
  | configuration => "Configuration error"
  | invalidRequest => "Invalid request"
  | notFound => "Resource not found"
  | schema => "Schema error"
  | unavailable => "Resource unavailable"
  | io => "I/O error"
  | json => "JSON error"
  | yaml => "YAML error"
  | config => "Config error"
  | other => "Error"

def retryable : FailureKind → Bool
  | fetch | unavailable | io => true
  | _ => false

def fromClient : FailureKind → Bool
  | configuration | invalidRequest | notFound | schema => true
  | _ => false

def fromSource : FailureKind → Bool
  | fetch | parse => true
  | _ => false

def httpStatus : FailureKind → Nat
  | configuration | invalidRequest => 400
  | notFound => 404
  | unavailable => 503
  | fetch | parse => 502
  | _ => 500

end FailureKind

structure Failure where
  kind : FailureKind
  detail : String
deriving Repr, DecidableEq

namespace Failure

def message (f : Failure) : String := f.kind.lead ++ ": " ++ f.detail

def category (f : Failure) : String := f.kind.category

end Failure

-- What was being done around it stands outermost first.
structure Trouble where
  context : List String
  root : Sum Failure String
deriving Repr, DecidableEq

namespace Trouble

def ofFailure (f : Failure) : Trouble := ⟨[], .inl f⟩

def ofText (text : String) : Trouble := ⟨[], .inr text⟩

def during (t : Trouble) (doing : String) : Trouble := { t with context := doing :: t.context }

def rootMessage (t : Trouble) : String :=
  match t.root with
  | .inl f => f.message
  | .inr text => text

def messages (t : Trouble) : List String := t.context ++ [t.rootMessage]

def chain (t : Trouble) : String := ": ".intercalate t.messages

def report (t : Trouble) : String :=
  match t.messages with
  | [] => "Error: "
  | [only] => "Error: " ++ only
  | [top, cause] => "Error: " ++ top ++ "\n\nCaused by:\n    " ++ cause
  | top :: causes =>
    "Error: " ++ top ++ "\n\nCaused by:" ++
      String.join (causes.zipIdx.map (fun (cause, n) =>
        "\n    " ++ toString n ++ ": " ++ cause))

end Trouble

end Leaderboard
