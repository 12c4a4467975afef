import BrowserLab.Proofs.Document
import BrowserLab.Proofs.Progress.Saving
import BrowserLab.Trace.Basic

/-!
# Events and steps that are written and read back

What is read back from the document of an event is the event, but for one thing: a request whose
payload is null is read back without a payload, since a field that is null counts as missing.

* `Event.ofDocument?_toJson`, `Step.ofDocument?_toJson`: what is read back.
* `Event.settled_eq_iff`, `Step.settled_eq_iff`: when it is what was written.
-/

namespace BrowserLab

open Document

/-- A payload, where null is none. -/
def Json.present? : Option Json → Option Json
  | some .null => none
  | payload => payload

/-! ### Exchanges -/

namespace Exchange

/-- The exchange without a payload that is null. -/
def settled (x : Exchange) : Exchange := { x with payload := Json.present? x.payload }

def members (x : Exchange) : List (String × Json) :=
  [("method", .str x.method), ("url", .str x.url)] ++ Json.member? "payload" id x.payload ++
    [("status", .ofNat x.status), ("response", x.response)]

theorem keys_members (x : Exchange) :
    (keys x.members).Sublist ["method", "url", "payload", "status", "response"] := by
  unfold members
  rw [keys_append, keys_append]
  exact ((List.Sublist.refl ["method", "url"]).append (Json.keys_member? _ _ _)).append
    (List.Sublist.refl ["status", "response"])

/-- Null counts as no payload. -/
theorem optional_payload {fields : List (String × Json)} {payload : Option Json}
    (h : Dict.get? fields "payload" = payload) :
    optional fields "payload" json? = some (Json.present? payload) := by
  refine withDefault_of_get? h (fun j hj => ?_) fun hnone => ?_
  · subst hj
    cases j <;> rfl
  · subst hnone
    rfl

theorem ofDocument?_toJson {x : Exchange} (h : x.status < statusBound) :
    ofDocument? x.toJson = some x.settled := by
  have hfields : record? ["method", "url", "payload", "status", "response"] x.toJson =
      some x.members := record?_obj x.keys_members (by decide)
  have hmethod : required x.members "method" text? = some x.method :=
    required_of_get? (d := .str x.method) rfl rfl
  have hurl : required x.members "url" text? = some x.url :=
    required_of_get? (d := .str x.url) rfl rfl
  have hpayload : optional x.members "payload" json? = some (Json.present? x.payload) := by
    refine optional_payload ?_
    simp [members, Dict.get?]
  have hstatus : required x.members "status" (natural? statusBound) = some x.status :=
    required_natural (by simp [members, Dict.get?]) h
  have hresponse : required x.members "response" json? = some x.response := by
    refine required_of_get? (d := x.response) ?_ rfl
    simp [members, Dict.get?]
  unfold ofDocument?
  rw [bind_of_eq_some hfields, bind_of_eq_some hmethod, bind_of_eq_some hurl,
    bind_of_eq_some hpayload, bind_of_eq_some hstatus, bind_of_eq_some hresponse]
  rfl

theorem settled_eq_iff (x : Exchange) : x.settled = x ↔ x.payload ≠ some .null := by
  cases x with
  | mk method url payload status response =>
    rcases payload with - | (_ | _ | _ | _ | _ | _ | _) <;> simp [settled, Json.present?]

end Exchange

/-! ### Interceptions -/

namespace Response

theorem ofDocument?_toJson {r : Response} (h : r.status < statusBound) :
    ofDocument? r.toJson = some r := by
  let members : List (String × Json) := [("status", .ofNat r.status), ("body", r.body)]
  have hfields : record? ["status", "body"] r.toJson = some members :=
    record?_obj (List.Sublist.refl _) (by decide)
  have hstatus : required members "status" (natural? statusBound) = some r.status :=
    required_natural (by simp [members, Dict.get?]) h
  have hbody : required members "body" json? = some r.body :=
    required_of_get? (d := r.body) (by simp [members, Dict.get?]) rfl
  unfold ofDocument?
  rw [bind_of_eq_some hfields, bind_of_eq_some hstatus, bind_of_eq_some hbody]
  rfl

end Response

namespace Interception

def members (i : Interception) : List (String × Json) :=
  ("glob", .str i.glob) :: Json.member? "method" Json.str i.method ++
    [("response", i.response.toJson)]

theorem keys_members (i : Interception) :
    (keys i.members).Sublist ["glob", "method", "response"] := by
  unfold members
  rw [keys_append, keys_cons]
  exact ((Json.keys_member? _ _ _).cons_cons "glob").append (List.Sublist.refl ["response"])

theorem ofDocument?_toJson {i : Interception} (h : i.response.status < statusBound) :
    ofDocument? i.toJson = some i := by
  have hfields : record? ["glob", "method", "response"] i.toJson = some i.members :=
    record?_obj i.keys_members (by decide)
  have hglob : required i.members "glob" text? = some i.glob :=
    required_of_get? (d := .str i.glob) rfl rfl
  have hmethod : optional i.members "method" text? = some i.method :=
    optional_text (by simp [members, Dict.get?])
  have hresponse : required i.members "response" Response.ofDocument? = some i.response := by
    refine required_of_get? (d := i.response.toJson) ?_ (Response.ofDocument?_toJson h)
    simp [members, Dict.get?]
  unfold ofDocument?
  rw [bind_of_eq_some hfields, bind_of_eq_some hglob, bind_of_eq_some hmethod,
    bind_of_eq_some hresponse]
  rfl

end Interception

/-! ### Frame paths and kinds -/

namespace FramePath

theorem keys_member? (p : FramePath) : (keys p.member?).Sublist ["frame_path"] := by
  unfold member?
  split
  · exact List.nil_sublist _
  · exact List.Sublist.refl _

/-- The path of the page itself is left out, and any other is there. -/
@[simp] theorem get?_member? (p : FramePath) (key : String) :
    Dict.get? p.member? key =
      if "frame_path" = key ∧ p.isRoot = false then some (.arr (p.segments.map .str))
      else none := by
  unfold member?
  cases p.isRoot <;> simp [Dict.get?]

theorem ofDocument?_segments (p : FramePath) :
    ofDocument? (Json.arr (p.segments.map .str)) = some p := by
  have hsegments : (p.segments.map Json.str).mapM text? = some p.segments :=
    Progress.mapM_map_of_leftInverse (f := Json.str) (fun _ => rfl) p.segments
  show ((p.segments.map Json.str).mapM text?).map FramePath.mk = some p
  rw [hsegments]
  rfl

/-- A path is read back, also where it was left out. -/
theorem withDefault_member {fields : List (String × Json)} {p : FramePath}
    (h : Dict.get? fields "frame_path" =
      if p.isRoot = false then some (.arr (p.segments.map .str)) else none) :
    withDefault fields "frame_path" root ofDocument? = some p := by
  refine withDefault_of_get? h (fun j hj => ?_) fun hnone => ?_
  · split at hj
    · cases hj
      exact p.ofDocument?_segments
    · cases hj
  · cases p with
    | mk segments =>
      cases segments with
      | nil => rfl
      | cons a rest => cases hnone

end FramePath

theorem Event.Kind.oneOf_name (k : Event.Kind) :
    oneOf Event.Kind.byName (Json.str k.name) = some k := by
  cases k <;> rfl

theorem Step.Status.oneOf_name (s : Step.Status) :
    oneOf Step.Status.byName (Json.str s.name) = some s := by
  cases s <;> rfl

/-! ### Events -/

/-- The status codes are such that 16 bits hold them. -/
structure Event.Fits (e : Event) : Prop where
  network : ∀ x, e.network = some x → x.status < statusBound
  interception : ∀ i, e.interception = some i → i.response.status < statusBound

/-- An exchange that may be missing. -/
theorem optional_exchange {fields : List (String × Json)} {x : Option Exchange}
    (h : Dict.get? fields "network" = x.map Exchange.toJson)
    (hstatus : ∀ y, x = some y → y.status < statusBound) :
    optional fields "network" Exchange.ofDocument? = some (x.map Exchange.settled) :=
  optional_of_get? h (fun _ => rfl) fun y hy => Exchange.ofDocument?_toJson (hstatus y hy)

/-- An interception that may be missing. -/
theorem optional_interception {fields : List (String × Json)} {i : Option Interception}
    (h : Dict.get? fields "interception" = i.map Interception.toJson)
    (hstatus : ∀ j, i = some j → j.response.status < statusBound) :
    optional fields "interception" Interception.ofDocument? = some i := by
  have hread : optional fields "interception" Interception.ofDocument? = some (i.map id) :=
    optional_of_get? h (fun _ => rfl) fun j hj => Interception.ofDocument?_toJson (hstatus j hj)
  rw [hread, Option.map_id]
  rfl

/-- An exchange that is there or not stays as it was unless its payload is null. -/
theorem map_settled_eq_iff (x : Option Exchange) :
    x.map Exchange.settled = x ↔ ∀ y, x = some y → y.payload ≠ some .null := by
  cases x with
  | none => simp
  | some y => simp [Exchange.settled_eq_iff]

namespace Event

/-- The event without a payload that is null. -/
def settled (e : Event) : Event := { e with network := e.network.map Exchange.settled }

def members (e : Event) : List (String × Json) :=
  ("kind", .str e.kind.name) :: Json.member? "selector" Json.str e.selector ++
    Json.member? "label" Json.str e.label ++ Json.member? "value" Json.str e.value ++
    e.frame.member? ++ Json.member? "network" Exchange.toJson e.network ++
    Json.member? "interception" Interception.toJson e.interception

theorem keys_members (e : Event) :
    (keys e.members).Sublist
      ["kind", "selector", "label", "value", "frame_path", "network", "interception"] := by
  unfold members
  simp only [keys_append, keys_cons]
  exact (((((Json.keys_member? _ _ _).cons_cons "kind").append (Json.keys_member? _ _ _)).append
    (Json.keys_member? _ _ _)).append e.frame.keys_member?).append (Json.keys_member? _ _ _)
    |>.append (Json.keys_member? _ _ _)

/-- What is read back from the document of an event. -/
theorem ofDocument?_toJson {e : Event} (h : e.Fits) : ofDocument? e.toJson = some e.settled := by
  have hfields : record?
      ["kind", "selector", "label", "value", "frame_path", "network", "interception"] e.toJson =
        some e.members := record?_obj e.keys_members (by decide)
  have hkind : required e.members "kind" (oneOf Kind.byName) = some e.kind :=
    required_of_get? (d := .str e.kind.name) rfl e.kind.oneOf_name
  have hselector : optional e.members "selector" text? = some e.selector :=
    optional_text (by simp [members, Dict.get?])
  have hlabel : optional e.members "label" text? = some e.label :=
    optional_text (by simp [members, Dict.get?])
  have hvalue : optional e.members "value" text? = some e.value :=
    optional_text (by simp [members, Dict.get?])
  have hframe : withDefault e.members "frame_path" FramePath.root FramePath.ofDocument? =
      some e.frame := FramePath.withDefault_member (by simp [members, Dict.get?])
  have hnetwork : optional e.members "network" Exchange.ofDocument? =
      some (e.network.map Exchange.settled) :=
    optional_exchange (by simp [members, Dict.get?]) h.network
  have hinterception : optional e.members "interception" Interception.ofDocument? =
      some e.interception := optional_interception (by simp [members, Dict.get?]) h.interception
  unfold ofDocument?
  rw [bind_of_eq_some hfields, bind_of_eq_some hkind, bind_of_eq_some hselector,
    bind_of_eq_some hlabel, bind_of_eq_some hvalue, bind_of_eq_some hframe,
    bind_of_eq_some hnetwork, bind_of_eq_some hinterception]
  rfl

theorem settled_eq_iff (e : Event) :
    e.settled = e ↔ ∀ x, e.network = some x → x.payload ≠ some .null := by
  rw [← map_settled_eq_iff]
  cases e
  simp [settled]

end Event

/-! ### Steps -/

namespace Step

/-- The status codes are such that 16 bits hold them, and the other numbers fit into 64. -/
structure Fits (s : Step) : Prop where
  index : s.index < wordBound
  elapsed : s.elapsed < wordBound
  duration : s.duration < wordBound
  network : ∀ x, s.network = some x → x.status < statusBound
  interception : ∀ i, s.interception = some i → i.response.status < statusBound

/-- The step without a payload that is null. -/
def settled (s : Step) : Step := { s with network := s.network.map Exchange.settled }

def members (s : Step) : List (String × Json) :=
  [("index", .ofNat s.index), ("action", .str s.action.name)] ++
    Json.member? "selector" Json.str s.selector ++ Json.member? "label" Json.str s.label ++
    Json.member? "value" Json.str s.value ++ s.frame.member? ++
    [("elapsed_ms", .ofNat s.elapsed), ("duration_ms", .ofNat s.duration),
      ("status", .str s.status.name)] ++
    Json.member? "network" Exchange.toJson s.network ++
    Json.member? "interception" Interception.toJson s.interception

theorem keys_members (s : Step) :
    (keys s.members).Sublist
      ["index", "action", "selector", "label", "value", "frame_path", "elapsed_ms", "duration_ms",
        "status", "network", "interception"] := by
  unfold members
  simp only [keys_append]
  exact (((((List.Sublist.refl ["index", "action"]).append (Json.keys_member? _ _ _)).append
    (Json.keys_member? _ _ _)).append (Json.keys_member? _ _ _)).append s.frame.keys_member?).append
    (List.Sublist.refl ["elapsed_ms", "duration_ms", "status"]) |>.append (Json.keys_member? _ _ _)
    |>.append (Json.keys_member? _ _ _)

/-- What is read back from the document of a step. -/
theorem ofDocument?_toJson {s : Step} (h : s.Fits) : ofDocument? s.toJson = some s.settled := by
  have hfields : record?
      ["index", "action", "selector", "label", "value", "frame_path", "elapsed_ms", "duration_ms",
        "status", "network", "interception"] s.toJson = some s.members :=
    record?_obj s.keys_members (by decide)
  have hindex : required s.members "index" (natural? wordBound) = some s.index :=
    required_natural (by simp [members, Dict.get?]) h.index
  have haction : required s.members "action" (oneOf Event.Kind.byName) = some s.action :=
    required_of_get? (d := .str s.action.name) rfl s.action.oneOf_name
  have hselector : optional s.members "selector" text? = some s.selector :=
    optional_text (by simp [members, Dict.get?])
  have hlabel : optional s.members "label" text? = some s.label :=
    optional_text (by simp [members, Dict.get?])
  have hvalue : optional s.members "value" text? = some s.value :=
    optional_text (by simp [members, Dict.get?])
  have hframe : withDefault s.members "frame_path" FramePath.root FramePath.ofDocument? =
      some s.frame := FramePath.withDefault_member (by simp [members, Dict.get?])
  have helapsed : required s.members "elapsed_ms" (natural? wordBound) = some s.elapsed :=
    required_natural (by simp [members, Dict.get?]) h.elapsed
  have hduration : required s.members "duration_ms" (natural? wordBound) = some s.duration :=
    required_natural (by simp [members, Dict.get?]) h.duration
  have hstatus : required s.members "status" (oneOf Status.byName) = some s.status :=
    required_of_get? (by simp [members, Dict.get?]) s.status.oneOf_name
  have hnetwork : optional s.members "network" Exchange.ofDocument? =
      some (s.network.map Exchange.settled) :=
    optional_exchange (by simp [members, Dict.get?]) h.network
  have hinterception : optional s.members "interception" Interception.ofDocument? =
      some s.interception := optional_interception (by simp [members, Dict.get?]) h.interception
  unfold ofDocument?
  rw [bind_of_eq_some hfields, bind_of_eq_some hindex, bind_of_eq_some haction,
    bind_of_eq_some hselector, bind_of_eq_some hlabel, bind_of_eq_some hvalue,
    bind_of_eq_some hframe, bind_of_eq_some helapsed, bind_of_eq_some hduration,
    bind_of_eq_some hstatus, bind_of_eq_some hnetwork, bind_of_eq_some hinterception]
  rfl

theorem settled_eq_iff (s : Step) :
    s.settled = s ↔ ∀ x, s.network = some x → x.payload ≠ some .null := by
  rw [← map_settled_eq_iff]
  cases s
  simp [settled]

end Step

end BrowserLab
