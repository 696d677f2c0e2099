import SteadyTask.Failure
import SteadyTask.Text.Search

/-!
# Errors of a model service

How the errors that a request to a model service can meet are worded, and what they mean for the
caller: refused credentials and unusable requests or answers do not pass, everything that can be
blamed on the connection or the load of the service does.
-/

namespace SteadyTask.Llm

/-- The error object of a service. -/
structure ApiFault where
  message : String
  type : Option String
  param : Option String
  code : Option String
  deriving Repr, DecidableEq, Inhabited

/-- What went wrong with a request. -/
inductive ServiceError where
  /-- The service answered with an error object. -/
  | api (fault : ApiFault)
  /-- The answer was no JSON of the expected form. -/
  | undecodable (fault content : String)
  | saveFailed (text : String)
  | readFailed (text : String)
  | invalidArgument (text : String)
  | stream (text : String)
  /-- The answer had an error status. -/
  | status (code : Nat)
  | body
  | builder
  | connect
  /-- No connection to an address came about. -/
  | unreachable (url : String)
  | timeout
  deriving Repr, DecidableEq

/-- The names of HTTP error statuses. -/
def statusReasons : List (Nat × String) :=
  [(400, "Bad Request"), (401, "Unauthorized"), (402, "Payment Required"), (403, "Forbidden"),
   (404, "Not Found"), (405, "Method Not Allowed"), (406, "Not Acceptable"),
   (407, "Proxy Authentication Required"), (408, "Request Timeout"), (409, "Conflict"),
   (410, "Gone"), (411, "Length Required"), (412, "Precondition Failed"),
   (413, "Payload Too Large"), (414, "URI Too Long"), (415, "Unsupported Media Type"),
   (416, "Range Not Satisfiable"), (417, "Expectation Failed"), (418, "I'm a teapot"),
   (421, "Misdirected Request"), (422, "Unprocessable Entity"), (423, "Locked"),
   (424, "Failed Dependency"), (425, "Too Early"), (426, "Upgrade Required"),
   (428, "Precondition Required"), (429, "Too Many Requests"),
   (431, "Request Header Fields Too Large"), (451, "Unavailable For Legal Reasons"),
   (500, "Internal Server Error"), (501, "Not Implemented"), (502, "Bad Gateway"),
   (503, "Service Unavailable"), (504, "Gateway Timeout"), (505, "HTTP Version Not Supported"),
   (506, "Variant Also Negotiates"), (507, "Insufficient Storage"), (508, "Loop Detected"),
   (510, "Not Extended"), (511, "Network Authentication Required")]

/-- A status in words. -/
def statusText (code : Nat) : String :=
  let side := if 500 ≤ code ∧ code < 600 then "server" else "client"
  let reason := ((statusReasons.lookup code).map (" " ++ ·)).getD " <unknown status code>"
  "HTTP status " ++ side ++ " error (" ++ toString code ++ reason ++ ")"

/-- An error object in words: what is absent is left out. -/
def ApiFault.text (f : ApiFault) : String :=
  Text.join " "
    ((f.type.map (· ++ ":")).toList ++ [f.message] ++
      (f.param.map fun p => "(param: " ++ p ++ ")").toList ++
      (f.code.map fun c => "(code: " ++ c ++ ")").toList)

namespace ServiceError

/-- The error in words. -/
def message : ServiceError → String
  | .api f => f.text
  | .undecodable fault content =>
    "failed to deserialize api response: error:" ++ fault ++ " content:" ++ content
  | .saveFailed t => "failed to save file: " ++ t
  | .readFailed t => "failed to read file: " ++ t
  | .invalidArgument t => "invalid args: " ++ t
  | .stream t => "stream failed: EventStream error: " ++ t
  | .status code => "http error: " ++ statusText code
  | .body => "http error: error decoding response body"
  | .builder => "http error: builder error"
  | .connect | .timeout => "http error: error sending request"
  | .unreachable url => "http error: error sending request for url (" ++ url ++ ")"

/-- Codes that mean refused credentials. -/
def refusedCodes : List String := ["invalid_api_key", "insufficient_quota"]

/-- Types that mean refused credentials. -/
def refusedTypes : List String := ["authentication_error", "permission_error"]

/-- What an error object means for the caller. -/
def classifyApi (f : ApiFault) (message : String) : CallError :=
  let type := f.type.getD ""
  let code := f.code.getD ""
  if refusedTypes.contains type ∨ refusedCodes.contains code then .permissionDenied message
  else if code = "rate_limit_exceeded" ∨ type = "server_error" then .connection message
  else if type = "invalid_request_error" then .malformedResponse message
  else .connection message

/-- What an error means for the caller. -/
def classify (e : ServiceError) : CallError :=
  match e with
  | .api f => classifyApi f e.message
  | .timeout => .timeout e.message
  | .connect | .unreachable _ | .stream _ | .builder => .connection e.message
  | .status code =>
    if code = 401 ∨ code = 403 then .permissionDenied e.message else .connection e.message
  | .body | .undecodable _ _ | .saveFailed _ | .readFailed _ | .invalidArgument _ =>
    .malformedResponse e.message

end ServiceError

end SteadyTask.Llm
