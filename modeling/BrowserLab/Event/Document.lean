import BrowserLab.Event.Basic
import BrowserLab.Document

/-!
# Events as documents

An absent field and the path of the page itself are left out.
-/

namespace BrowserLab

open Document

/-- A member that is written only when there is a value. -/
def Json.member? {α : Type} (name : String) (write : α → Json) : Option α → List (String × Json)
  | some a => [(name, write a)]
  | none => []

/-- Status codes have 16 bits. -/
def statusBound : Nat := Nat.pow 2 16

namespace Response

def toJson (r : Response) : Json :=
  .obj [("status", .ofNat r.status), ("body", r.body)]

def ofDocument? {δ : Type} [Document δ] (d : δ) : Option Response := do
  let fields ← record? ["status", "body"] d
  let status ← required fields "status" (natural? statusBound)
  let body ← required fields "body" json?
  return { status, body }

end Response

namespace Interception

def toJson (i : Interception) : Json :=
  .obj (("glob", .str i.glob) :: Json.member? "method" Json.str i.method ++
    [("response", i.response.toJson)])

def ofDocument? {δ : Type} [Document δ] (d : δ) : Option Interception := do
  let fields ← record? ["glob", "method", "response"] d
  let glob ← required fields "glob" text?
  let method ← optional fields "method" text?
  let response ← required fields "response" Response.ofDocument?
  return { glob, method, response }

end Interception

namespace Exchange

def toJson (x : Exchange) : Json :=
  .obj ([("method", .str x.method), ("url", .str x.url)] ++ Json.member? "payload" id x.payload ++
    [("status", .ofNat x.status), ("response", x.response)])

def ofDocument? {δ : Type} [Document δ] (d : δ) : Option Exchange := do
  let fields ← record? ["method", "url", "payload", "status", "response"] d
  let method ← required fields "method" text?
  let url ← required fields "url" text?
  let payload ← optional fields "payload" json?
  let status ← required fields "status" (natural? statusBound)
  let response ← required fields "response" json?
  return { method, url, payload, status, response }

end Exchange

namespace FramePath

/-- The member of a path, unless it is that of the page itself. -/
def member? (p : FramePath) : List (String × Json) :=
  if p.isRoot then [] else [("frame_path", .arr (p.segments.map .str))]

def ofDocument? {δ : Type} [Document δ] (d : δ) : Option FramePath :=
  (listOf text? d).map FramePath.mk

end FramePath

namespace Event

def toJson (e : Event) : Json :=
  .obj (("kind", .str e.kind.name) :: Json.member? "selector" Json.str e.selector ++
    Json.member? "label" Json.str e.label ++ Json.member? "value" Json.str e.value ++
    e.frame.member? ++ Json.member? "network" Exchange.toJson e.network ++
    Json.member? "interception" Interception.toJson e.interception)

def ofDocument? {δ : Type} [Document δ] (d : δ) : Option Event := do
  let fields ← record?
    ["kind", "selector", "label", "value", "frame_path", "network", "interception"] d
  let kind ← required fields "kind" (oneOf Kind.byName)
  let selector ← optional fields "selector" text?
  let label ← optional fields "label" text?
  let value ← optional fields "value" text?
  let frame ← withDefault fields "frame_path" FramePath.root FramePath.ofDocument?
  let network ← optional fields "network" Exchange.ofDocument?
  let interception ← optional fields "interception" Interception.ofDocument?
  return { kind, selector, label, value, frame, network, interception }

end Event

end BrowserLab
