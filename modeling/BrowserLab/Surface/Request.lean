import BrowserLab.Backend
import BrowserLab.Surface.Argument

/-!
# Requests

A request is answered by the backend and announced as an event together with its answer.
-/

namespace BrowserLab.Surface

open Script

/-- A request that is to be made. -/
structure Outgoing where
  method : String
  url : String
  payload : Option Json := none
  headers : Dict Json := []

/-- The payload that a value makes. -/
def payloadOf (v : Option Value) : Eval (Option Json) := do
  match v with
  | some v => if v.isNullish then return none else return some (← Eval.json v)
  | none => return none

/-- The headers that a value makes. -/
def headersOf (v : Option Value) : Eval (Dict Json) := do
  match v with
  | some v =>
    match ← Eval.json v with
    | .obj members => return members
    | _ => return []
  | none => return []

/-- What the backend answers, and the draws that took. -/
def answer (out : Outgoing) : Eval Response :=
  modifyGet fun m =>
    let b := m.browser
    let (r, draws) :=
      Backend.respond out.method out.url out.payload out.headers b.interceptions b.draws
    (r, { m with browser := { b with draws := draws } })

/-- The event of a request and its answer. -/
def Outgoing.event (out : Outgoing) (r : Response) : Event where
  kind := .apiCall
  value := some out.url
  network := some
    { method := out.method, url := out.url, payload := out.payload, status := r.status,
      response := r.body }

/-- Makes a request. -/
def exchange (out : Outgoing) : Eval Response := do
  let r ← answer out
  Eval.emit (out.event r)
  return r

/-- What a page would be answered, without announcing anything. -/
def lookup (url : String) : Eval Response := answer { method := "GET", url }

/-- The methods that name the method of a request. -/
def verbs : List String := ["get", "post", "put", "patch", "delete", "head"]

/-- A method of the object that makes requests. -/
def requestMethod (method : String) (args : List Value) : Eval Reply := do
  if !verbs.contains method && method != "fetch" then fallback .request method args
  else
    let options := argument args 1
    let verb ←
      if method == "fetch" then
        pure ((← textOption? options "method").getD "GET")
      else pure method
    let url ← textArgument args 0
    let payload ← payloadOf (← Eval.option? options "data")
    let headers ← headersOf (← Eval.option? options "headers")
    let r ← exchange { method := Text.asciiUpper verb, url, payload, headers }
    return .value (.handle (.response r))

/-- The text of a body. -/
def bodyText : Json → String
  | .str s => s
  | j => j.compact

/-- The headers of every answer. -/
def answerHeaders : Eval Value :=
  Eval.newObject [("content-type", .string "application/json")]

/-- A method of an answer. -/
def responseMethod (r : Response) (method : String) : Eval Reply := do
  match method with
  | "ok" => return .value (.bool r.ok)
  | "status" => return .value (.number (Float.ofNat r.status))
  | "statusText" => return .value (.string (if r.ok then "OK" else "Error"))
  | "json" => return .value (← Eval.ofJson r.body)
  | "text" => return .value (.string (bodyText r.body))
  | "body" => return .value (.string (bodyText r.body))
  | "headers" => return .value (← answerHeaders)
  | _ => fallback (.response r) method []

/-- The request that a command describes: by options, by method and address, or by address and
payload. -/
def commandRequest (args : List Value) : Eval Outgoing := do
  match argument args 0, argument args 1 with
  | .object ref, _ =>
    let options := Value.object ref
    let method := (← textOption? options "method").getD "GET"
    let body := (← Eval.option? options "body") <|> (← Eval.option? options "data")
    let url := (← textOption? options "url").getD ""
    let payload ← payloadOf body
    let headers ← headersOf (← Eval.option? options "headers")
    return { method := Text.asciiUpper method, url, payload, headers }
  | .string method, .string url =>
    let payload ← payloadOf (some (argument args 2))
    return { method := Text.asciiUpper method, url, payload }
  | address, .undefined => return { method := "GET", url := ← Eval.display address }
  | address, body =>
    let url ← Eval.display address
    let payload ← payloadOf (some body)
    return { method := "POST", url, payload }

/-- Makes a request by a command, which yields a description of the answer. -/
def requestCommand (args : List Value) : Eval Value := do
  let r ← exchange (← commandRequest args)
  let body ← Eval.ofJson r.body
  let headers ← answerHeaders
  let subject ← Eval.newObject
    [("status", .number (Float.ofNat r.status)), ("body", body), ("headers", headers),
      ("isOkStatusCode", .bool r.ok)]
  return .handle (.chain {} subject)

end BrowserLab.Surface
