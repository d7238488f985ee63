/-
  Endpoints: the server that calls go to.

  An endpoint is what is kept of the address of a server: the text that may be shown, and the
  credentials that were moved out of it.  Whether the text can be used for requests is not known
  before the first connection.
-/
import DocStore.Http.Call
import DocStore.Http.Url

namespace DocStore.Http

/-- The server that calls go to. -/
structure Endpoint where
  url : String
  credentials : Option Credentials
  deriving DecidableEq, Repr, Inhabited

namespace Endpoint

/-- The endpoint of an address given as text. -/
def ofText (text : String) : Except Failure Endpoint := do
  let (url, credentials) ← separate text
  return ⟨url, credentials⟩

/-- The base of all requests. -/
def base (endpoint : Endpoint) : Except Failure Url := Url.base endpoint.url

/-- Where a call goes.  The query of a call takes the place of any other. -/
def locate (endpoint : Endpoint) (call : Call) : Except Failure Url := do
  let url ← (← endpoint.base).below call.path
  match call.query with
  | some query => url.withQuery query
  | none => return url

/-- The proof of who is asking: the credentials of the endpoint, or else those still in the
    address. -/
def authorization (endpoint : Endpoint) (url : Url) : Option String :=
  (endpoint.credentials.or url.credentials?).map Credentials.header

end Endpoint

end DocStore.Http
