import BrowserLab.Proofs.Playground.Intercept

/-!
# How a playground reacts

All that one event can do to a page is said once, by `Playground.Reacts`: every change comes with
the kind of page and the kind of event that it takes.  What is true of a page after any events
follows from the cases of that relation.

* `Playground.reacts_hear`: a page reacts in one of these ways.
* `Playground.hear_networkLog`: what an event adds to the network panel.
* `Playground.Coherent`, `Playground.Grows`, `Playground.OfItsKind`: what no event breaks.
* `Playground.invariant_new`: all of it, of a page that has just been opened.
-/

namespace BrowserLab

/-- The line of the network panel that an event brings. -/
def Event.requested? (e : Event) : Option NetworkEntry :=
  if e.kind = .apiCall then
    e.network.map fun x => ⟨Playground.methodOf x, x.url, x.payload, x.status, x.response⟩
  else none

theorem Event.requested?_of_ne {e : Event} (h : e.kind ≠ .apiCall) : e.requested? = none := if_neg h

theorem Event.requested?_of_network {e : Event} (h : e.network = none) : e.requested? = none := by
  unfold Event.requested?
  rw [h]
  exact ite_self none

namespace Playground

/-! ### The page's own requests -/

/-- The page asks for the profile when it hears the event. -/
def FetchesProfile (p : Playground) (e : Event) : Prop :=
  p.kind = .profileRepair ∧ e.kind = .navigate

instance (p : Playground) (e : Event) : Decidable (p.Fetches e) :=
  inferInstanceAs (Decidable (_ ∧ _ ∧ (_ ∨ _)))

instance (p : Playground) (e : Event) : Decidable (p.FetchesProfile e) :=
  inferInstanceAs (Decidable (_ ∧ _))

/-- What the page is answered when it asks for the profile. -/
def profileAnswer (interceptions : List Interception) : Response :=
  match interceptions.reverse.find? fun i => Text.contains i.glob "v2/profile" with
  | some i => i.answer
  | none => ⟨404, .obj [("error", .str "Endpoint not found")]⟩

/-- A line of the network panel for a request of the page's own. -/
def fetchLine (url : String) (r : Response) : NetworkEntry := ⟨"GET", url, none, r.status, r.body⟩

/-- The line that the page adds to the network panel for a request of its own. -/
def fetched? (p : Playground) (e : Event) : Option NetworkEntry :=
  if p.Fetches e then some (fetchLine "/api/data" (dataAnswer p.interceptions))
  else if p.FetchesProfile e then
    some (fetchLine "/api/v2/profile" (profileAnswer p.interceptions))
  else none

theorem fetched?_of_fetches {p : Playground} {e : Event} (h : p.Fetches e) :
    p.fetched? e = some (fetchLine "/api/data" (dataAnswer p.interceptions)) := if_pos h

theorem fetched?_of_fetchesProfile {p : Playground} {e : Event} (h : p.FetchesProfile e) :
    p.fetched? e = some (fetchLine "/api/v2/profile" (profileAnswer p.interceptions)) := by
  have hdata : ¬ p.Fetches e := by
    rintro ⟨hkind, -⟩
    exact absurd (hkind.symm.trans h.1) (by decide)
  rw [fetched?, if_neg hdata, if_pos h]

theorem fetched?_eq_none {p : Playground} {e : Event} (hdata : ¬ p.Fetches e)
    (hprofile : ¬ p.FetchesProfile e) : p.fetched? e = none := by
  rw [fetched?, if_neg hdata, if_neg hprofile]

/-- Only two kinds of page ask for anything. -/
theorem fetched?_of_kind {p : Playground} (hdata : p.kind ≠ .apiMock)
    (hprofile : p.kind ≠ .profileRepair) (e : Event) : p.fetched? e = none :=
  fetched?_eq_none (fun h => hdata h.1) (fun h => hprofile h.1)

/-- The page asks when it is clicked and when it is opened. -/
theorem fetched?_of_event {e : Event} (hclick : e.kind ≠ .click) (hnavigate : e.kind ≠ .navigate)
    (p : Playground) : p.fetched? e = none :=
  fetched?_eq_none (fun h => hclick h.2.1) (fun h => hnavigate h.2)

/-! ### One event -/

/-- What an event can do to a page, with what it takes. -/
inductive Reacts (p : Playground) (e : Event) : Playground → Prop
  | nothing (requested : e.requested? = none) (fetched : p.fetched? e = none) : Reacts p e p
  | selectItem (page : p.kind = .advancedSelectors) (event : e.kind = .click) :
      Reacts p e { p with selectedItem := some 3 }
  | viewUser (page : p.kind = .tableData) (event : e.kind = .click) :
      Reacts p e { p with viewedUser := some "Charlie" }
  | fetchData (fetches : p.Fetches e) : Reacts p e p.fetchData
  | fetchProfile (fetches : p.FetchesProfile e) : Reacts p e p.fetchProfile
  | sendFeedback (page : p.kind = .feedbackForm) (event : e.kind = .click) :
      Reacts p e { p with feedbackSubmitted := true }
  | revealSecret (page : p.kind = .asyncLoading) (event : e.kind = .click) :
      Reacts p e { p with secretRevealed := true }
  | checkOut (page : p.kind = .checkout) (event : e.kind = .click) :
      Reacts p e { p with checkoutComplete := true }
  | clickFrame (page : p.kind = .iframeTesting) (event : e.kind = .click) :
      Reacts p e { p with frameClicked := true }
  | clickNestedFrame (page : p.kind = .nestedIframes) (event : e.kind = .click) :
      Reacts p e { p with nestedFrameClicked := true }
  | signIn (page : p.kind = .login) (event : e.kind = .click) (username : p.username.isSome)
      (password : p.password.isSome) : Reacts p e { p with signedIn := true }
  | enterPassword (page : p.kind = .login) (event : e.kind = .fill) (value : String) :
      Reacts p e { p with password := some value }
  | enterUsername (page : p.kind = .login) (event : e.kind = .fill) (value : String) :
      Reacts p e { p with username := some value }
  | choose (page : p.kind = .dropdowns) (event : e.kind = .select) :
      Reacts p e { p with selection := e.value }
  | upload (page : p.kind = .fileUpload) (event : e.kind = .upload) :
      Reacts p e { p with uploadedFile := e.value }
  | intercept (i : Interception) (event : e.kind = .routeIntercept) :
      Reacts p e { p with interceptions := p.interceptions ++ [i], mock := some i }
  | request (line : NetworkEntry) (ready : Bool) (event : e.kind = .apiCall)
      (requested : e.requested? = some line)
      (before : p.databaseReady = true → ready = true)
      (page : ready = true → p.databaseReady = true ∨ p.kind = .databaseStatus) :
      Reacts p e { p with databaseReady := ready, networkLog := p.networkLog ++ [line] }
  | takeSnapshot (page : p.kind = .accessibilityTree) (event : e.kind = .accessibilitySnapshot) :
      Reacts p e { p with snapshots := p.snapshots + 1 }

section

variable {p q : Playground} {e : Event}

/-- Events of most kinds bring no line to the network panel, unless the page asks for something. -/
theorem Reacts.unchanged (hrequest : e.kind ≠ .apiCall) (hdata : ¬ p.Fetches e)
    (hprofile : ¬ p.FetchesProfile e) : p.Reacts e p :=
  .nothing (Event.requested?_of_ne hrequest) (fetched?_eq_none hdata hprofile)

theorem Reacts.ite {c : Prop} [Decidable c] (hq : c → p.Reacts e q) (hp : ¬ c → p.Reacts e p) :
    p.Reacts e (if c then q else p) := by
  split
  · next h => exact hq h
  · next h => exact hp h

/-- A click is lost on most pages when it meets nothing. -/
theorem Reacts.unclicked (hclick : e.kind = .click) (hpage : p.kind ≠ .apiMock) :
    p.Reacts e p := by
  refine .unchanged (by rw [hclick]; decide) (fun h => hpage h.1) fun h => ?_
  exact absurd (hclick.symm.trans h.2) (by decide)

theorem Reacts.iteClick {kind : Environment} (hclick : e.kind = .click) (hpage : p.kind = kind)
    (hkind : kind ≠ .apiMock) {c : Prop} [Decidable c] (hq : c → p.Reacts e q) :
    p.Reacts e (if c then q else p) :=
  .ite hq fun _ => .unclicked hclick (by rw [hpage]; exact hkind)

theorem reacts_click (h : e.kind = .click) : p.Reacts e (p.click e) := by
  unfold click
  dsimp only
  split
  case h_1 hp => exact .iteClick h hp (by decide) fun _ => .selectItem hp h
  case h_2 hp => exact .iteClick h hp (by decide) fun _ => .viewUser hp h
  case h_3 hp =>
    refine .ite (fun hbutton => .fetchData ⟨hp, h, by simpa using hbutton⟩) fun hbutton => ?_
    refine .unchanged (by rw [h]; decide) (fun hfetch => hbutton ?_) fun hfetch => ?_
    · simpa using hfetch.2.2
    · exact absurd (hp.symm.trans hfetch.1) (by decide)
  case h_4 hp => exact .iteClick h hp (by decide) fun _ => .sendFeedback hp h
  case h_5 hp => exact .iteClick h hp (by decide) fun _ => .revealSecret hp h
  case h_6 hp => exact .iteClick h hp (by decide) fun _ => .checkOut hp h
  case h_7 hp => exact .iteClick h hp (by decide) fun _ => .clickFrame hp h
  case h_8 hp => exact .iteClick h hp (by decide) fun _ => .clickNestedFrame hp h
  case h_9 hp =>
    refine .iteClick h hp (by decide) fun hsubmit => ?_
    rw [Bool.and_eq_true, Bool.and_eq_true] at hsubmit
    exact .signIn hp h hsubmit.1.2 hsubmit.2
  case h_10 => exact .unclicked h (by assumption)

/-- An event that is neither a request nor a reason for one. -/
theorem Reacts.unheard (hrequest : e.kind ≠ .apiCall) (hclick : e.kind ≠ .click)
    (hnavigate : e.kind ≠ .navigate) : p.Reacts e p :=
  .unchanged hrequest (fun h => hclick h.2.1) fun h => hnavigate h.2

theorem reacts_fill (h : e.kind = .fill) : p.Reacts e (p.fill e) := by
  have hnot : p.Reacts e p :=
    .unheard (by rw [h]; decide) (by rw [h]; decide) (by rw [h]; decide)
  unfold fill
  by_cases hp : p.kind = .login
  · rw [if_neg fun hne => hne hp]
    dsimp only
    split
    · exact .enterPassword hp h _
    · exact .ite (fun _ => .enterUsername hp h _) fun _ => hnot
  · rw [if_pos hp]
    exact hnot

theorem reacts_request (h : e.kind = .apiCall) : p.Reacts e (p.request e) := by
  unfold request
  cases hx : e.network with
  | none =>
    refine .nothing (Event.requested?_of_network hx) (fetched?_of_event ?_ ?_ p)
    · rw [h]; decide
    · rw [h]; decide
  | some x =>
    refine .request _ _ h ?_ (fun hready => ?_) fun hready => ?_
    · rw [Event.requested?, if_pos h, hx, Option.map_some]
    · rw [hready, Bool.true_or]
    · rw [Bool.or_eq_true, Bool.and_eq_true, decide_eq_true_eq] at hready
      exact hready.imp_right And.left

theorem reacts_intercept (h : e.kind = .routeIntercept) : p.Reacts e (p.intercept e) := by
  unfold intercept
  split
  · exact .unheard (by rw [h]; decide) (by rw [h]; decide) (by rw [h]; decide)
  · exact .intercept _ h

/-- A page reacts to an event in one of the ways that there are. -/
theorem reacts_hear (p : Playground) (e : Event) : p.Reacts e (p.hear e) := by
  have hnot (hrequest : e.kind ≠ .apiCall) (hclick : e.kind ≠ .click)
      (hnavigate : e.kind ≠ .navigate) : p.Reacts e p := .unheard hrequest hclick hnavigate
  unfold hear
  cases h : e.kind with
  | click => exact reacts_click h
  | fill => exact reacts_fill h
  | routeIntercept => exact reacts_intercept h
  | apiCall => exact reacts_request h
  | select =>
    refine .ite (fun hp => .choose hp h) fun _ => hnot ?_ ?_ ?_ <;> rw [h] <;> decide
  | upload =>
    refine .ite (fun hp => .upload hp h) fun _ => hnot ?_ ?_ ?_ <;> rw [h] <;> decide
  | accessibilitySnapshot =>
    refine .ite (fun hp => .takeSnapshot hp h) fun _ => hnot ?_ ?_ ?_ <;> rw [h] <;> decide
  | navigate =>
    refine .ite (fun hp => .fetchProfile ⟨hp, h⟩) fun hp => ?_
    refine .unchanged (by rw [h]; decide) (fun hfetch => ?_) fun hfetch => hp hfetch.1
    exact absurd (h.symm.trans hfetch.2.1) (by decide)
  | drag | assertVisible | assertValue | assertText =>
    refine hnot ?_ ?_ ?_ <;> rw [h] <;> decide

end

/-! ### The network panel -/

theorem fetchData_networkLog (p : Playground) :
    p.fetchData.networkLog =
      p.networkLog ++ [fetchLine "/api/data" (dataAnswer p.interceptions)] := rfl

theorem fetchProfile_networkLog (p : Playground) :
    p.fetchProfile.networkLog =
      p.networkLog ++ [fetchLine "/api/v2/profile" (profileAnswer p.interceptions)] := rfl

/-- An event adds to the network panel the request that it tells of and the one that the page makes,
of which there is at most one. -/
theorem Reacts.networkLog {p q : Playground} {e : Event} (h : p.Reacts e q) :
    q.networkLog = p.networkLog ++ (e.requested?.toList ++ (p.fetched? e).toList) := by
  have hnone {q' : Playground} (hq : q'.networkLog = p.networkLog) (hr : e.requested? = none)
      (hf : p.fetched? e = none) :
      q'.networkLog = p.networkLog ++ (e.requested?.toList ++ (p.fetched? e).toList) := by
    rw [hq, hr, hf]
    exact (List.append_nil _).symm
  cases h with
  | nothing hr hf => exact hnone rfl hr hf
  | fetchData hf =>
    have hr : e.requested? = none := Event.requested?_of_ne (by rw [hf.2.1]; decide)
    rw [hr, fetched?_of_fetches hf, fetchData_networkLog]
    rfl
  | fetchProfile hf =>
    have hr : e.requested? = none := Event.requested?_of_ne (by rw [hf.2]; decide)
    rw [hr, fetched?_of_fetchesProfile hf, fetchProfile_networkLog]
    rfl
  | request line ready he hr =>
    have hf : p.fetched? e = none :=
      fetched?_of_event (by rw [he]; decide) (by rw [he]; decide) p
    rw [hr, hf]
    rfl
  | selectItem hp he | viewUser hp he | sendFeedback hp he | revealSecret hp he | checkOut hp he
  | clickFrame hp he | clickNestedFrame hp he | signIn hp he | enterPassword hp he
  | enterUsername hp he | choose hp he | upload hp he | takeSnapshot hp he =>
    refine hnone rfl (Event.requested?_of_ne ?_) (fetched?_of_kind ?_ ?_ e)
    · rw [he]; decide
    · rw [hp]; decide
    · rw [hp]; decide
  | intercept i he =>
    refine hnone rfl (Event.requested?_of_ne ?_) (fetched?_of_event ?_ ?_ p) <;> rw [he] <;> decide

theorem hear_networkLog (p : Playground) (e : Event) :
    (p.hear e).networkLog =
      p.networkLog ++ (e.requested?.toList ++ (p.fetched? e).toList) :=
  (p.reacts_hear e).networkLog

/-! ### Who is signed in, and whose profile it is -/

/-- Nobody is signed in without a name and a password, and a profile has been found. -/
structure Coherent (p : Playground) : Prop where
  signedIn : p.signedIn = true → p.username.isSome ∧ p.password.isSome
  profile : p.profileName.isSome → p.profileStatus = some 200

theorem coherent_new (kind : Environment) (now : Nat) : (new kind now).Coherent where
  signedIn h := by cases h
  profile h := by cases h

theorem Coherent.fetchProfile {p : Playground} (h : p.Coherent) : p.fetchProfile.Coherent where
  signedIn := h.signedIn
  profile hname := by
    let r := profileAnswer p.interceptions
    have hif : (if r.status = 200 then (r.body.get? "name").bind Json.text? else none).isSome :=
      hname
    show some r.status = some 200
    split at hif
    · next hok => rw [hok]
    · cases hif

theorem Reacts.coherent {p q : Playground} {e : Event} (hr : p.Reacts e q) (h : p.Coherent) :
    q.Coherent := by
  cases hr with
  | signIn _ _ husername hpassword => exact ⟨fun _ => ⟨husername, hpassword⟩, h.profile⟩
  | enterPassword => exact ⟨fun hs => ⟨(h.signedIn hs).1, rfl⟩, h.profile⟩
  | enterUsername => exact ⟨fun hs => ⟨rfl, (h.signedIn hs).2⟩, h.profile⟩
  | fetchProfile => exact h.fetchProfile
  | nothing | selectItem | viewUser | fetchData | sendFeedback | revealSecret | checkOut
  | clickFrame | clickNestedFrame | choose | upload | intercept | request | takeSnapshot =>
    exact ⟨h.signedIn, h.profile⟩

/-! ### What only grows -/

/-- What has been done stays done, and lines of the network panel stay where they are. -/
structure Grows (p q : Playground) : Prop where
  signedIn : p.signedIn = true → q.signedIn = true
  feedbackSubmitted : p.feedbackSubmitted = true → q.feedbackSubmitted = true
  secretRevealed : p.secretRevealed = true → q.secretRevealed = true
  checkoutComplete : p.checkoutComplete = true → q.checkoutComplete = true
  frameClicked : p.frameClicked = true → q.frameClicked = true
  nestedFrameClicked : p.nestedFrameClicked = true → q.nestedFrameClicked = true
  databaseReady : p.databaseReady = true → q.databaseReady = true
  networkLog : p.networkLog <+: q.networkLog

theorem Grows.refl (p : Playground) : p.Grows p :=
  ⟨id, id, id, id, id, id, id, List.prefix_rfl⟩

theorem Grows.trans {p q r : Playground} (h : p.Grows q) (g : q.Grows r) : p.Grows r where
  signedIn := g.signedIn ∘ h.signedIn
  feedbackSubmitted := g.feedbackSubmitted ∘ h.feedbackSubmitted
  secretRevealed := g.secretRevealed ∘ h.secretRevealed
  checkoutComplete := g.checkoutComplete ∘ h.checkoutComplete
  frameClicked := g.frameClicked ∘ h.frameClicked
  nestedFrameClicked := g.nestedFrameClicked ∘ h.nestedFrameClicked
  databaseReady := g.databaseReady ∘ h.databaseReady
  networkLog := h.networkLog.trans g.networkLog

theorem Reacts.grows {p q : Playground} {e : Event} (h : p.Reacts e q) : p.Grows q := by
  have hlog : p.networkLog <+: q.networkLog := ⟨_, h.networkLog.symm⟩
  have hp : p.Grows p := .refl p
  cases h with
  | sendFeedback => exact { hp with feedbackSubmitted := fun _ => rfl }
  | revealSecret => exact { hp with secretRevealed := fun _ => rfl }
  | checkOut => exact { hp with checkoutComplete := fun _ => rfl }
  | clickFrame => exact { hp with frameClicked := fun _ => rfl }
  | clickNestedFrame => exact { hp with nestedFrameClicked := fun _ => rfl }
  | signIn => exact { hp with signedIn := fun _ => rfl }
  | request _ _ _ _ hbefore => exact { hp with databaseReady := hbefore, networkLog := hlog }
  | nothing | selectItem | viewUser | fetchData | fetchProfile | enterPassword | enterUsername
  | choose | upload | intercept | takeSnapshot => exact { hp with networkLog := hlog }

/-! ### What belongs to pages of another kind -/

/-- What only pages of another kind have is as it was when the page was opened. -/
structure OfItsKind (p : Playground) : Prop where
  credentials : p.kind ≠ .login → p.username = none ∧ p.password = none ∧ p.signedIn = false
  feedback : p.kind ≠ .feedbackForm → p.feedbackSubmitted = false
  secret : p.kind ≠ .asyncLoading → p.secretRevealed = false
  checkout : p.kind ≠ .checkout → p.checkoutComplete = false
  frame : p.kind ≠ .iframeTesting → p.frameClicked = false
  nestedFrame : p.kind ≠ .nestedIframes → p.nestedFrameClicked = false
  selection : p.kind ≠ .dropdowns → p.selection = none
  upload : p.kind ≠ .fileUpload → p.uploadedFile = none
  item : p.kind ≠ .advancedSelectors → p.selectedItem = none
  user : p.kind ≠ .tableData → p.viewedUser = none
  snapshots : p.kind ≠ .accessibilityTree → p.snapshots = 0
  database : p.kind ≠ .databaseStatus → p.databaseReady = false
  profile : p.kind ≠ .profileRepair → p.profileName = none ∧ p.profileStatus = none
  response : p.kind ≠ .apiMock → p.apiResponse = none

theorem ofItsKind_new (kind : Environment) (now : Nat) : (new kind now).OfItsKind where
  credentials _ := ⟨rfl, rfl, rfl⟩
  feedback _ := rfl
  secret _ := rfl
  checkout _ := rfl
  frame _ := rfl
  nestedFrame _ := rfl
  selection _ := rfl
  upload _ := rfl
  item _ := rfl
  user _ := rfl
  snapshots _ := rfl
  database _ := rfl
  profile _ := ⟨rfl, rfl⟩
  response _ := rfl

/-- Each reaction changes what belongs to pages of the kind that it takes, if anything. -/
theorem Reacts.ofItsKind {p q : Playground} {e : Event} (hr : p.Reacts e q) (h : p.OfItsKind) :
    q.OfItsKind := by
  cases hr with
  | nothing => exact h
  | selectItem hp => exact { h with item := fun hne => absurd hp hne }
  | viewUser hp => exact { h with user := fun hne => absurd hp hne }
  | fetchData hf => exact { h with response := fun hne => absurd hf.1 hne }
  | fetchProfile hf => exact { h with profile := fun hne => absurd hf.1 hne }
  | sendFeedback hp => exact { h with feedback := fun hne => absurd hp hne }
  | revealSecret hp => exact { h with secret := fun hne => absurd hp hne }
  | checkOut hp => exact { h with checkout := fun hne => absurd hp hne }
  | clickFrame hp => exact { h with frame := fun hne => absurd hp hne }
  | clickNestedFrame hp => exact { h with nestedFrame := fun hne => absurd hp hne }
  | signIn hp | enterPassword hp | enterUsername hp =>
    exact { h with credentials := fun hne => absurd hp hne }
  | choose hp => exact { h with selection := fun hne => absurd hp hne }
  | upload hp => exact { h with upload := fun hne => absurd hp hne }
  | takeSnapshot hp => exact { h with snapshots := fun hne => absurd hp hne }
  | intercept => exact { h with }
  | request _ ready _ _ _ hready =>
    refine { h with database := fun hne => Bool.eq_false_iff.2 fun htrue => ?_ }
    rcases hready htrue with hbefore | hp
    · exact absurd hbefore (by rw [h.database hne]; decide)
    · exact hne hp

/-! ### Many events -/

section

variable {p : Playground}

/-- What no reaction breaks is true of a page after any events. -/
theorem Reacts.hearAll {Q : Playground → Prop}
    (hstep : ∀ {q r : Playground} {e : Event}, q.Reacts e r → Q q → Q r) (h : Q p)
    (events : List Event) : Q (p.hearAll events) := by
  induction events generalizing p with
  | nil => exact h
  | cons e rest ih => exact ih (hstep (p.reacts_hear e) h)

theorem coherent_hearAll (h : p.Coherent) (events : List Event) : (p.hearAll events).Coherent :=
  Reacts.hearAll Reacts.coherent h events

theorem grows_hearAll (p : Playground) (events : List Event) : p.Grows (p.hearAll events) :=
  Reacts.hearAll (fun hr h => h.trans hr.grows) (.refl p) events

theorem ofItsKind_hearAll (h : p.OfItsKind) (events : List Event) :
    (p.hearAll events).OfItsKind :=
  Reacts.hearAll Reacts.ofItsKind h events

end

/-- **The state of a page.**  Whatever a page of any kind has heard since it was opened: nobody is
signed in without a name and a password, a profile has a name only if it was found, the interception
shown is the last one that was set up, what belongs to pages of another kind is untouched, and
whatever it goes on to hear undoes nothing that was done and adds to the network panel only at its
end. -/
theorem invariant_new (kind : Environment) (now : Nat) (events : List Event) :
    let page := (new kind now).hearAll events
    page.kind = kind ∧ page.Coherent ∧ page.mock = (registered events).getLast? ∧ page.OfItsKind ∧
      ∀ later, page.Grows (page.hearAll later) := by
  intro page
  refine ⟨hearAll_kind _ _, coherent_hearAll (coherent_new kind now) events, ?_,
    ofItsKind_hearAll (ofItsKind_new kind now) events, page.grows_hearAll⟩
  have hnew : (new kind now).Informed := rfl
  have hinformed : page.Informed := informed_hearAll hnew events
  have hheard : page.interceptions = [] ++ registered events := hearAll_interceptions _ events
  rw [hinformed, hheard, List.nil_append]

end Playground

end BrowserLab
