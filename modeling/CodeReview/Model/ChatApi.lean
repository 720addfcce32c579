import CodeReview.Config.Settings
import CodeReview.Model.Provider
import CodeReview.Text.Quoted

/-!
A provider behind an HTTP interface with chat completions and embeddings. Of the exchange only the requests
and the reading of the responses are given here; how a request gets its response is up to a transport,
which may fail.
-/

namespace CodeReview.ChatApi

open Decimal (Single)
open Decode

structure Request where
  url : String
  authorization : String
  contentType : String := "application/json"
  body : Json
  deriving BEq, Repr

structure Response where
  status : Nat
  body : Bytes
  deriving DecidableEq, Repr

abbrev Transport := Request → Except String Response

def unreachable : Transport := fun _ => .error "error sending request"

structure Client where
  apiKey : String
  apiBase : String
  model : String
  embeddingModel : String
  deriving DecidableEq, Repr

namespace Client

def withoutSlashes (url : String) : String :=
  String.ofList (url.toList.reverse.dropWhile (· == '/')).reverse

def ofSettings (s : ProviderSettings) : Except Failure Client :=
  match s.apiKey.filter fun key => !key.isEmpty with
  | none => .error (.missingApiKey "openai")
  | some apiKey =>
      .ok { apiKey, apiBase := withoutSlashes s.apiBase, model := s.model
            embeddingModel := s.embeddingModel }

/-- What a client works with, on one line. The key is not shown. -/
def describe (c : Client) : String :=
  "OpenAiProvider \x7b api_base: " ++ Text.quoted c.apiBase ++ ", model: " ++
    Text.quoted c.model ++ ", embedding_model: " ++ Text.quoted c.embeddingModel ++ ", .. \x7d"

end Client

section Status

def isSuccess (status : Nat) : Bool := 200 ≤ status && status ≤ 299

def reasonPhrase? : Nat → Option String
  | 100 => some "Continue" | 101 => some "Switching Protocols" | 102 => some "Processing"
  | 200 => some "OK" | 201 => some "Created" | 202 => some "Accepted"
  | 203 => some "Non Authoritative Information" | 204 => some "No Content"
  | 205 => some "Reset Content" | 206 => some "Partial Content" | 207 => some "Multi-Status"
  | 208 => some "Already Reported" | 226 => some "IM Used"
  | 300 => some "Multiple Choices" | 301 => some "Moved Permanently" | 302 => some "Found"
  | 303 => some "See Other" | 304 => some "Not Modified" | 305 => some "Use Proxy"
  | 307 => some "Temporary Redirect" | 308 => some "Permanent Redirect"
  | 400 => some "Bad Request" | 401 => some "Unauthorized" | 402 => some "Payment Required"
  | 403 => some "Forbidden" | 404 => some "Not Found" | 405 => some "Method Not Allowed"
  | 406 => some "Not Acceptable" | 407 => some "Proxy Authentication Required"
  | 408 => some "Request Timeout" | 409 => some "Conflict" | 410 => some "Gone"
  | 411 => some "Length Required" | 412 => some "Precondition Failed"
  | 413 => some "Payload Too Large" | 414 => some "URI Too Long"
  | 415 => some "Unsupported Media Type" | 416 => some "Range Not Satisfiable"
  | 417 => some "Expectation Failed" | 418 => some "I'm a teapot"
  | 421 => some "Misdirected Request" | 422 => some "Unprocessable Entity" | 423 => some "Locked"
  | 424 => some "Failed Dependency" | 425 => some "Too Early" | 426 => some "Upgrade Required"
  | 428 => some "Precondition Required" | 429 => some "Too Many Requests"
  | 431 => some "Request Header Fields Too Large"
  | 451 => some "Unavailable For Legal Reasons"
  | 500 => some "Internal Server Error" | 501 => some "Not Implemented" | 502 => some "Bad Gateway"
  | 503 => some "Service Unavailable" | 504 => some "Gateway Timeout"
  | 505 => some "HTTP Version Not Supported" | 506 => some "Variant Also Negotiates"
  | 507 => some "Insufficient Storage" | 508 => some "Loop Detected" | 510 => some "Not Extended"
  | 511 => some "Network Authentication Required"
  | _ => none

def statusText (status : Nat) : String :=
  toString status ++ " " ++ (reasonPhrase? status).getD "<unknown status code>"

end Status

section Exchange

def request (c : Client) (path : String) (body : Json) : Request :=
  { url := c.apiBase ++ path, authorization := "Bearer " ++ c.apiKey, body }

def decoded {α : Type} (what : String) (decode : Decoder α) :
    Except String Response → Except Failure α
  | .error reason => .error (.network reason)
  | .ok r =>
      if !isSuccess r.status then
        .error (.provider (what ++ " API error " ++ statusText r.status ++ ": " ++
          String.ofList (Text.ofUtf8Lossy r.body)))
      else
        let unreadable : Failure := .provider "Failed to parse response: error decoding response body"
        match Text.ofUtf8? r.body with
        | none => .error unreadable
        | some cs => (wholeText decode (String.ofList cs)).mapError fun _ => unreadable

end Exchange

section Chat

def reviewRole : String :=
  "You are a meticulous senior code reviewer. Follow the requested output format exactly."

def testRole : String :=
  "You write deterministic pytest test files. Follow the requested output format exactly."

def chatRequest (c : Client) (role prompt : String) : Request :=
  let message (who content : String) : Json :=
    .object [("role", .text who), ("content", .text content)]
  request c "/chat/completions"
    (.object
      [("messages", .list [message "system" role, message "user" prompt]), ("model", .text c.model),
        ("temperature", .double (.ofNat 0))])

def choices : Decoder (List (Option String)) := fun scan => do
  let content : Decoder (Option String) := fun scan => do
    let r ← record [defaulted "content" (optional text)] scan
    r.getOptional "content" text
  let choice : Decoder (Option String) := fun scan => do
    let r ← record [field "message" content] scan
    r.get "message" content
  let r ← record [field "choices" (listOf choice)] scan
  r.get "choices" (listOf choice)

def chatReply (response : Except String Response) : Reply :=
  match decoded "Chat completion" choices response with
  | .error failure => .failed failure
  | .ok (some content :: _) => .answer content
  | .ok _ => .failed (.provider "No completion returned")

end Chat

section Embeddings

def embeddingRequest (c : Client) (texts : List String) : Request :=
  request c "/embeddings" (.object [("input", .texts texts), ("model", .text c.embeddingModel)])

structure Row where
  index : Option Nat
  embedding : Vector32
  deriving DecidableEq, Repr

def single : Decoder Single
  | .integer n => .ok (if n < 0 then (Single.ofNat n.natAbs).negate else Single.ofNat n.natAbs)
  | .double d => .ok (Single.ofDouble d)
  | scan => mistyped scan

def Row.decode : Decoder Row := fun scan => do
  let index := word
  let r ← record
    [defaulted "index" (optional index), field "embedding" (listOf single)] scan
  return {
    index := ← r.getOptional "index" index
    embedding := ← r.get "embedding" (listOf single) }

def rows : Decoder (List Row) := fun scan => do
  let r ← record [field "data" (listOf Row.decode)] scan
  r.get "data" (listOf Row.decode)

/-- Rows in the order of their numbers; those without one come last. -/
def Row.isBefore (a b : Row) : Bool := a.index.getD (wordLimit - 1) ≤ b.index.getD (wordLimit - 1)

def embeddings (count : Nat) (response : Except String Response) :
    Except Failure (List Vector32) := do
  let found ← decoded "Embedding" rows response
  if found.length ≠ count then
    .error (.provider ("Expected " ++ toString count ++ " embeddings, got " ++
      toString found.length))
  else return (found.mergeSort Row.isBefore).map Row.embedding

end Embeddings

def provider (send : Transport) (c : Client) : Provider :=
  { name := "openai"
    model := c.model
    embedderId := "openai:" ++ c.embeddingModel
    review := fun prompt => chatReply (send (chatRequest c reviewRole prompt))
    tests := fun prompt => chatReply (send (chatRequest c testRole prompt))
    embed := fun texts =>
      if texts.isEmpty then .ok [] else embeddings texts.length (send (embeddingRequest c texts)) }

end CodeReview.ChatApi
