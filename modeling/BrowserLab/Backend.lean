import BrowserLab.Draws
import BrowserLab.Event.Basic
import BrowserLab.Glob
import BrowserLab.Json.Reader
import BrowserLab.Text.Case

/-!
# The backend

What a request is answered.  The last interception that covers the request wins; otherwise the
backend hands out tokens, guards a secret with a key, echoes what is posted, and answers everything
else with one record.  Random numbers decide nothing: they only fill in a token and an identifier.
-/

namespace BrowserLab

/-- The value that a text of JSON stands for; anything else is kept. -/
def Json.decoded (body : Json) : Json :=
  match body with
  | .str text =>
    match Json.read text with
    | .ok j => j
    | .error _ => body
  | _ => body

/-- Does the interception answer requests with this method to this address? -/
def Interception.covers (i : Interception) (method url : String) : Bool :=
  (match i.method with
    | some m => Text.eqIgnoreCase m method
    | none => true) && Glob.fits i.glob url

/-- What the interception answers. -/
def Interception.answer (i : Interception) : Response :=
  ⟨i.response.status, i.response.body.decoded⟩

namespace Backend

/-- The last interception that covers the request. -/
def covering? (method url : String) (interceptions : List Interception) : Option Interception :=
  interceptions.reverse.find? fun i => i.covers method url

/-- The header that holds the key to the secret. -/
def keyHeader : String := "x-api-key"

/-- The key to the secret. -/
def key : String := "top-secret-key-123"

/-- The text of the first header with the name, in letters of any case. -/
def header? (headers : Dict Json) (name : String) : Option String :=
  match headers.find? fun (k, _) => Text.eqIgnoreCase k name with
  | some (_, j) => j.text?
  | none => none

/-- The characters of tokens. -/
def tokenAlphabet : List Char := "0123456789abcdefghijklmnopqrstuvwxyz".toList

/-- A token of six random characters. -/
def token (draws : Draws) : String × Draws :=
  let (ns, draws) := draws.manyBelow 36 6
  ("mock_jwt_access_token_" ++ String.ofList (ns.map fun n => tokenAlphabet.getD n '0'), draws)

/-- What a posted body is answered: its own fields and an identifier, unless it has one. -/
def echo (body : Option Json) (id : Nat) : Json :=
  match body.map Json.decoded with
  | some (.obj fields) => .obj (Dict.insertAll [("id", .ofNat id)] fields)
  | _ => .obj [("id", .ofNat id)]

/-- The answer to a request that no interception covers. -/
def serve (method url : String) (body : Option Json) (headers : Dict Json) (draws : Draws) :
    Response × Draws :=
  if Text.contains url "/api/auth/token" then
    let (text, draws) := token draws
    (⟨200, .obj [("access_token", .str text), ("expires_in", .int 3600),
      ("refresh_token", .str "mock_refresh_token"), ("token_type", .str "Bearer")]⟩, draws)
  else if Text.contains url "/api/secure-data" then
    if header? headers keyHeader = some key then
      (⟨200, .obj [("secret", .str "The password is \"blue-falcon\"")]⟩, draws)
    else (⟨401, .obj [("error", .str "Unauthorized: Invalid API Key")]⟩, draws)
  else if Text.eqIgnoreCase method "POST" then
    let (id, draws) := draws.below 1000
    (⟨201, echo body id⟩, draws)
  else
    (⟨200, .obj [("email", .str "john@example.com"), ("id", .int 1), ("name", .str "John Doe")]⟩,
      draws)

/-- The answer to a request. -/
def respond (method url : String) (body : Option Json) (headers : Dict Json)
    (interceptions : List Interception) (draws : Draws) : Response × Draws :=
  match covering? method url interceptions with
  | some i => (i.answer, draws)
  | none => serve method url body headers draws

end Backend

end BrowserLab
