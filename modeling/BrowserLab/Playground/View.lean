import BrowserLab.Event.Document
import BrowserLab.Json.Printer
import BrowserLab.Playground.Basic

/-!
# What a playground shows

The text of the page, line by line, and the state of the page as a document.
-/

namespace BrowserLab

namespace NetworkEntry

def toJson (e : NetworkEntry) : Json :=
  .obj ([("method", .str e.method), ("url", .str e.url)] ++ Json.member? "payload" id e.payload ++
    [("status", .ofNat e.status), ("body", e.body)])

/-- The lines of the network panel for one request. -/
def lines (e : NetworkEntry) : List String :=
  let request :=
    match e.payload with
    | some j => ["    request  " ++ j.compact]
    | none => []
  let response :=
    match e.body with
    | .null => []
    | j => ["    response " ++ j.compact]
  ["  " ++ e.method ++ " " ++ e.url ++ "  " ++ toString e.status] ++ request ++ response

end NetworkEntry

namespace Playground

/-- A text with blanks behind it up to ten characters. -/
def cell (s : String) : String := s ++ "".pushn ' ' (10 - s.length)

/-- The people in the table, with their roles and states. -/
def people : List (String × String × String) :=
  [("Alice", "Admin", "Active"), ("Bob", "Editor", "Inactive"), ("Charlie", "Viewer", "Active"),
    ("Diana", "Manager", "Pending")]

/-- The lines shown only if something holds. -/
def showIf (condition : Bool) (lines : List String) : List String :=
  if condition then lines else []

def networkLines (p : Playground) : List String :=
  "Live Network Logs" ::
    if p.networkLog.isEmpty then ["  Awaiting Requests..."]
    else p.networkLog.flatMap NetworkEntry.lines

/-- What the page says about the data it has fetched. -/
def banner (r : Response) : String :=
  if r.ok then
    match r.body.get? "data" with
    | some (.str s) => s
    | some .null => ""
    | some j => j.compact
    | none => ""
  else "Error: " ++ ((r.body.get? "error").bind Json.text?).getD "Failed"

/-- A line of the inventory. -/
def itemLine (p : Playground) (i : Nat) : String :=
  let marker := if p.selectedItem = some i then "*" else " "
  marker ++ " #ITEM-00" ++ toString i ++ "  Premium Listing " ++ toString i

/-- The lines of the page. -/
def lines (p : Playground) (now : Nat) : List String :=
  match p.kind with
  | .login =>
    ["Member Login", "[Username] " ++ p.username.getD "",
      "[Password] " ++ "".pushn '*' (p.password.getD "").utf8ByteSize, "(Sign In)"] ++
      showIf p.signedIn ["Welcome back!"]
  | .feedbackForm =>
    ["Customer Feedback", "[Tell us what you think...]", "(Submit Feedback)"] ++
      showIf p.feedbackSubmitted ["Thank you!"]
  | .asyncLoading =>
    let button :=
      if p.buttonRevealed now || p.secretRevealed then "(Reveal Secret)"
      else "Authenticating Secure Connection..."
    ["Data Vault", button] ++ showIf p.secretRevealed ["The secret code is 42"]
  | .checkout =>
    ["Shopping Cart", "Playwright Mastery Course  $99.00"] ++
      if p.checkoutComplete then ["Checkout Successful", "Confirmation #XP-9000"]
      else ["(Finalize Checkout)"]
  | .iframeTesting =>
    ["Main Content", "  #my-iframe  IFRAME CONTEXT", "  (Click Me)"] ++
      showIf p.frameClicked ["  Success!"]
  | .nestedIframes =>
    ["Outer Document", "  #outer-iframe  Outer Iframe Body", "    #inner-iframe  (Submit Inner)"] ++
      showIf p.nestedFrameClicked ["    Nested Success!"]
  | .apiConsole => "API Test Environment" :: p.networkLines
  | .apiMock =>
    ["API Test Environment"] ++ p.networkLines ++ ["UI Application  ACTIVE", "(Fetch Data)"] ++
      match p.apiResponse with
      | some r => [banner r]
      | none => []
  | .dropdowns =>
    let choice :=
      match p.selection with
      | some s => if s.isEmpty then "No framework selected" else "Selected: " ++ Text.capitalize s
      | none => "No framework selected"
    ["Framework Settings", "Select Preferred Framework [#framework-select]", choice]
  | .tableData =>
    ["System Users", cell "Name" ++ cell "Role" ++ cell "Status" ++ "Action"] ++
      (people.map fun (name, role, status) => cell name ++ cell role ++ cell status ++ "(View)") ++
      match p.viewedUser with
      | some user => ["Viewing details for " ++ user]
      | none => []
  | .accessibilityTree =>
    ["Semantic UI Preview", "Order Quantity [1]  (Submit Order)",
      "<root role=\"WebArea\" name=\"Semantic UI Preview\">", "  <text name=\"Order Quantity\" />",
      "  <spinbutton name=\"Order Quantity\" value=\"1\" />", "  <button name=\"Submit Order\" />",
      "</root>"] ++
      showIf (0 < p.snapshots) ["Snapshots captured: " ++ toString p.snapshots]
  | .fileUpload =>
    ["Cloud Storage", "Click or drag files here to upload"] ++
      match p.uploadedFile with
      | some file => ["File \"" ++ file ++ "\" uploaded"]
      | none => []
  | .advancedSelectors =>
    let choice :=
      match p.selectedItem with
      | some i => "Premium Item " ++ toString i ++ " selected"
      | none => "No selection made"
    ["Item Inventory"] ++ [1, 2, 3, 4, 5].map p.itemLine ++ [choice]
  | .performance => ["Diagnostics Panel", "Load Event  1240ms", "TTFB        340ms"]
  | .databaseStatus =>
    "Service Health" ::
      if p.databaseReady then ["Database: Ready"]
      else ["Database: Unknown State",
        "Execute your custom database reset command to prepare the environment."]
  | .profileRepair =>
    "Profile Settings" ::
      match p.profileName, p.profileStatus with
      | some name, _ => ["Display Name", name]
      | none, some _ => ["404: User Data Missing", "(Retry Fetch)"]
      | none, none => ["Syncing with Cloud..."]

/-- The text of the page. -/
def view (p : Playground) (now : Nat) : String :=
  String.join ((p.lines now).map (· ++ "\n"))

/-- The state of the page. -/
def toJson (p : Playground) : Json :=
  .obj [
    ("kind", .str p.kind.name),
    ("username", .ofOption .str p.username),
    ("password", .ofOption .str p.password),
    ("signed_in", .bool p.signedIn),
    ("feedback_submitted", .bool p.feedbackSubmitted),
    ("secret_revealed", .bool p.secretRevealed),
    ("checkout_complete", .bool p.checkoutComplete),
    ("iframe_clicked", .bool p.frameClicked),
    ("nested_iframe_clicked", .bool p.nestedFrameClicked),
    ("selection", .ofOption .str p.selection),
    ("uploaded_file", .ofOption .str p.uploadedFile),
    ("selected_premium", .ofOption .ofNat p.selectedItem),
    ("viewing_user", .ofOption .str p.viewedUser),
    ("snapshots", .ofNat p.snapshots),
    ("db_ready", .bool p.databaseReady),
    ("profile_name", .ofOption .str p.profileName),
    ("profile_status", .ofOption .ofNat p.profileStatus),
    ("mock", .ofOption Interception.toJson p.mock),
    ("api_response", .ofOption Response.toJson p.apiResponse),
    ("network_log", .arr (p.networkLog.map NetworkEntry.toJson))]

end Playground

end BrowserLab
