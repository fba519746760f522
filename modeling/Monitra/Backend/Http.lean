import Monitra.Library.Channel
import Monitra.Backend.Service
import Monitra.Engine.Scheduler

/-!
# Requests, responses and the state of the handlers (`crates/backend/src/lib.rs`, `error.rs`)

A request is the headers of it that a check of a credential reads. The `http` crate's `HeaderValue` is a type that is not known
here, with the function the program reads it by, `to_str`.

A handler runs against one state of the store: the store's calls fail for what the database holds, and not otherwise.
-/

namespace Monitra

/-- The headers that carry a credential. -/
inductive HeaderName where
  | authorization
  | secWebSocketProtocol
  deriving DecidableEq, Repr

/-- The headers of a request, in order. `V` is `HeaderValue`. -/
structure Request (V : Type) where
  headers : List (HeaderName × V)

/-- `HeaderMap::get`: the first value of a name. -/
def Request.get {V : Type} (request : Request V) (name : HeaderName) : Option V :=
  (request.headers.find? fun header => decide (header.1 = name)).map (·.2)

/-- The status codes that the handlers modelled here and their checks answer with. -/
inductive StatusCode where
  | accepted
  | badRequest
  | unauthorized
  | notFound
  | internalServerError
  | serviceUnavailable
  deriving DecidableEq, Repr

def StatusCode.asU16 : StatusCode → Nat
  | .accepted => 202
  | .badRequest => 400
  | .unauthorized => 401
  | .notFound => 404
  | .internalServerError => 500
  | .serviceUnavailable => 503

/-- A response: the status and, for a failure of a handler, the text in the body. A bare status has an empty body. -/
structure Response where
  status : Nat
  error : Option String
  deriving DecidableEq, Repr

def StatusCode.intoResponse (code : StatusCode) : Response := ⟨code.asU16, none⟩

/-- What a handler fails with. -/
inductive ApiError where
  | notFound
  | validation (message : String)
  | provider (e : ProviderError)
  deriving DecidableEq, Repr

def ApiError.ofProviderError : ProviderError → ApiError
  | .notFound _ _ _ => .notFound
  | other => .provider other

def ApiError.intoResponse : ApiError → Response
  | .notFound => ⟨StatusCode.notFound.asU16, some "not found"⟩
  | .validation message => ⟨StatusCode.badRequest.asU16, some message⟩
  | .provider (.unavailable _ detail) => ⟨StatusCode.serviceUnavailable.asU16, some detail⟩
  | .provider other => ⟨StatusCode.internalServerError.asU16, some other.text⟩

/-- The sending end of the channel of pushed results. -/
structure IngestHandle where
  capacity : Nat
  queue : List PushedResult
  deriving DecidableEq, Repr

/-- Never waits: a result that finds the channel full is dropped. -/
def IngestHandle.submit (h : IngestHandle) (result : PushedResult) : IngestHandle :=
  { h with queue := Channel.trySend h.capacity h.queue result }

/-- The parts of the shared state that the handlers modelled here read. -/
structure AppState where
  store : Db
  token : String
  ingest : IngestHandle

end Monitra
