import BrowserLab.Proofs.Playground.Hear
import BrowserLab.Proofs.Trace.Told
import BrowserLab.Session

/-!
# What an announcement does to a session

A bus has at most one listener in each role.  If a playground and the recorder listen, then what a
run announces whose token is the current one is heard by both, in whichever order they came to the
bus, and nothing else of the session changes.

* `Session.announce_of_heard`: any playground and the recorder.
* `Session.announce_of_wired`: in a session it is the active playground.
-/

namespace BrowserLab

/-- A bus with a listener in each role has no others. -/
theorem Bus.listeners_of_roles {σ : Type} {bus : Bus σ} {a b : σ}
    (honce : (bus.listeners.map Prod.fst).Nodup) (ha : bus.listener? .environment = some a)
    (hb : bus.listener? .recorder = some b) :
    bus.listeners = [(.environment, a), (.recorder, b)] ∨
      bus.listeners = [(.recorder, b), (.environment, a)] := by
  unfold listener? at ha hb
  match hlisteners : bus.listeners with
  | [] =>
    rw [hlisteners] at ha
    cases ha
  | [(.environment, x)] =>
    rw [hlisteners] at hb
    cases hb
  | [(.recorder, x)] =>
    rw [hlisteners] at ha
    cases ha
  | [(.environment, x), (.recorder, y)] =>
    rw [hlisteners] at ha hb
    cases ha
    cases hb
    exact .inl rfl
  | [(.recorder, x), (.environment, y)] =>
    rw [hlisteners] at ha hb
    cases ha
    cases hb
    exact .inr rfl
  | (.environment, _) :: (.environment, _) :: _ | (.recorder, _) :: (.recorder, _) :: _
  | (.environment, _) :: (.recorder, _) :: (.environment, _) :: _
  | (.environment, _) :: (.recorder, _) :: (.recorder, _) :: _
  | (.recorder, _) :: (.environment, _) :: (.environment, _) :: _
  | (.recorder, _) :: (.environment, _) :: (.recorder, _) :: _ =>
    rw [hlisteners] at honce
    simp at honce

theorem modify_modify {α : Type} (xs : Array α) (i : Nat) (f g : α → α) :
    (xs.modify i f).modify i g = xs.modify i fun x => g (f x) := by
  ext j hj hj'
  · simp
  · simp only [Array.getElem_modify]
    split <;> rfl

/-- The active playground listens, and after it the recorder. -/
def Session.Wired (s : Session) : Prop :=
  s.bus.listeners = [(.environment, .playground s.active), (.recorder, .recorder)]

/-- A playground and the recorder listen. -/
structure Session.Heard (s : Session) (number : Nat) : Prop where
  once : (s.bus.listeners.map Prod.fst).Nodup
  environment : s.bus.listener? .environment = some (.playground number)
  recorder : s.bus.listener? .recorder = some .recorder

namespace Session

variable {s : Session}

theorem heard_of_wired (h : s.Wired) : s.Heard s.active := by
  refine ⟨?_, ?_, ?_⟩
  · rw [h]
    simp
  · rw [Bus.listener?, h]
    rfl
  · rw [Bus.listener?, h]
    rfl

/-- What a session is after a playground and its recorder have heard a timeline. -/
def hearingBy (s : Session) (number : Nat) (timeline : List (Nat × Event)) : Session :=
  { s with
    playgrounds := s.playgrounds.modify number (·.hearAll (timeline.map Prod.snd))
    recorder := s.recorder.recordAll timeline }

/-- What a session is after its active playground and its recorder have heard a timeline. -/
def hearing (s : Session) (timeline : List (Nat × Event)) : Session :=
  { s with
    playgrounds := s.playgrounds.modify s.active (·.hearAll (timeline.map Prod.snd))
    recorder := s.recorder.recordAll timeline }

theorem hearingBy_nil (s : Session) (number : Nat) : s.hearingBy number [] = s := by
  have hsame : s.playgrounds.modify number (·.hearAll []) = s.playgrounds := by
    ext i hi hi'
    · simp
    · simp [Array.getElem_modify]
  unfold hearingBy
  rw [List.map_nil, hsame]
  rfl

theorem hearingBy_cons (s : Session) (number now : Nat) (e : Event) (rest : List (Nat × Event)) :
    (s.hearingBy number [(now, e)]).hearingBy number rest =
      s.hearingBy number ((now, e) :: rest) := by
  unfold hearingBy
  dsimp only
  rw [modify_modify s.playgrounds number (·.hearAll ([(now, e)].map Prod.snd))
    (·.hearAll (rest.map Prod.snd))]
  rfl

theorem publish_of_heard {number : Nat} (hheard : s.Heard number) {token : Token}
    (htoken : s.bus.isCurrent token = true) (now : Nat) (e : Event) :
    s.publish token now e = (true, s.hearingBy number [(now, e)]) := by
  rcases Bus.listeners_of_roles hheard.once hheard.environment hheard.recorder with h | h
  · have hrecipients : s.bus.recipients token = [.playground number, .recorder] := by
      rw [Bus.recipients, if_pos htoken, h]
      rfl
    rw [publish, hrecipients, htoken]
    rfl
  · have hrecipients : s.bus.recipients token = [.recorder, .playground number] := by
      rw [Bus.recipients, if_pos htoken, h]
      rfl
    rw [publish, hrecipients, htoken]
    rfl

/-- What is announced is heard by the playground and the recorder and changes nothing else. -/
theorem announce_of_heard {number : Nat} {token : Token} (timeline : List (Nat × Event)) :
    ∀ {s : Session}, s.Heard number → s.bus.isCurrent token = true →
      s.announce token timeline = s.hearingBy number timeline := by
  induction timeline with
  | nil =>
    intro s _ _
    exact (s.hearingBy_nil number).symm
  | cons head rest ih =>
    obtain ⟨now, e⟩ := head
    intro s hheard htoken
    have hnext : s.announce token ((now, e) :: rest) =
        (s.hearingBy number [(now, e)]).announce token rest := by
      show (s.publish token now e).2.announce token rest = _
      rw [publish_of_heard hheard htoken]
    have hstill : (s.hearingBy number [(now, e)]).Heard number :=
      ⟨hheard.once, hheard.environment, hheard.recorder⟩
    rw [hnext, ih hstill htoken]
    exact hearingBy_cons s number now e rest

/-- In a session it is the active playground that hears what is announced. -/
theorem announce_of_wired {token : Token} (timeline : List (Nat × Event)) {s : Session}
    (hwired : s.Wired) (htoken : s.bus.isCurrent token = true) :
    s.announce token timeline = s.hearing timeline :=
  announce_of_heard timeline (heard_of_wired hwired) htoken

end Session

end BrowserLab
