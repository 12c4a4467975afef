import BrowserLab.Proofs.Script.Watched
import BrowserLab.Proofs.Script.Run
import BrowserLab.Proofs.Surface.Request

/-!
# The calls of a run

All that a run announces is announced by calls of methods of handles.

* `Browser.Goes b calls b'`: one browser becomes the other by calls, one after the other; in between
  it may draw numbers, but nothing else happens to it.
* `Browser.Goes.requested`: a request that is announced on the way is the one that a call makes,
  with the answer that the browser gives at that moment.
* `exists_goes_runFor`: every run goes by the calls that it has noted.
-/

namespace BrowserLab.Script

/-! ### Calls -/

/-- A call of a method of a handle, and the machine on which it is made. -/
structure Call where
  handle : Handle
  method : String
  args : List Value
  before : Machine

namespace Call

/-- The machine that the call leaves. -/
def after (c : Call) : Machine := ((Surface.invoke c.handle c.method c.args).runOn c.before).2

/-- What is noted of the call. -/
def note (c : Call) : Handle × String := (c.handle, c.method)

/-- The request that the call makes, if it makes one. -/
def request? (c : Call) : Option Surface.Outgoing :=
  c.before.heap.request? c.handle c.method c.args

theorem moves (c : Call) :
    (c.before.noted c.handle c.method).browser.Moves
      (c.handle.Announces c.method) c.after.browser := by
  obtain ⟨r, heap, browser, hrun, hmoves⟩ :=
    Atomic.invoke_moves c.handle c.method c.args c.before
  rw [after, hrun]
  exact hmoves

theorem after_of_request {c : Call} {out : Surface.Outgoing} (h : c.request? = some out) :
    c.after.browser = (c.before.noted c.handle c.method).browser.exchange out := by
  obtain ⟨v, heap, hrun⟩ := exists_runOn_invoke h
  rw [after, hrun]

end Call

/-! ### From one browser to another -/

/-- The first browser becomes the other one by the calls. -/
inductive Browser.Goes (b : Browser) : List Call → Browser → Prop
  | begins : Goes b [] b
  | draws {calls : List Call} {b' : Browser} (n : Nat) (behind : Goes b calls b') :
      Goes b calls { b' with draws := b'.draws.skip n }
  | call {calls : List Call} (c : Call) (behind : Goes b calls c.before.browser) :
      Goes b (calls ++ [c]) c.after.browser

namespace Browser.Goes

variable {b b' b'' : Browser} {calls calls' : List Call}

theorem trans (h : b.Goes calls b') (h' : b'.Goes calls' b'') :
    b.Goes (calls ++ calls') b'' := by
  induction h' with
  | begins => rwa [List.append_nil]
  | draws n _ ih => exact ih.draws n
  | call c _ ih =>
    rw [← List.append_assoc]
    exact .call c ih

/-- All calls are noted, the last one first. -/
theorem noted (h : b.Goes calls b') : b'.calls = (calls.map Call.note).reverse ++ b.calls := by
  induction h with
  | begins => rfl
  | draws n _ ih => exact ih
  | call c _ ih =>
    rw [c.moves.calls, List.map_append, List.reverse_append]
    exact congrArg (c.note :: ·) ih

theorem drawn (h : b.Goes calls b') : ∃ n, b'.draws = b.draws.skip n := by
  induction h with
  | begins => exact ⟨0, rfl⟩
  | draws n _ ih =>
    obtain ⟨k, hk⟩ := ih
    exact ⟨k + n, by rw [hk, Draws.skip_skip]⟩
  | call c _ ih =>
    obtain ⟨k, hk⟩ := ih
    obtain ⟨n, hn⟩ := c.moves.draws
    exact ⟨k + n, hn.trans ((congrArg (·.skip n) hk).trans (Draws.skip_skip _ _ _))⟩

/-- Each event that is announced on the way is one that a call announces. -/
theorem announced (h : b.Goes calls b') (hb : b.timeline = #[]) {now : Nat} {e : Event}
    (he : (now, e) ∈ b'.timeline.toList) : ∃ c ∈ calls, c.handle.Announces c.method e := by
  induction h with
  | begins => simp [hb] at he
  | draws n _ ih => exact ih he
  | @call earlier c _ ih =>
    obtain ⟨es, -, hannounces, htimeline, -⟩ := c.moves.announced
    rw [htimeline, List.mem_append] at he
    rcases he with he | he
    · obtain ⟨d, hd, hannounces⟩ := ih he
      exact ⟨d, List.mem_append_left _ hd, hannounces⟩
    · obtain ⟨e', he', heq⟩ := List.mem_map.mp he
      obtain ⟨-, rfl⟩ := Prod.mk.inj heq
      exact ⟨c, by simp, hannounces e' he'⟩

/-- **Each request that is announced is one that a call makes**, and it is announced with the answer
that the browser gives to it at that moment. -/
theorem requested (h : b.Goes calls b') (hb : b.timeline = #[]) {i now : Nat} {e : Event}
    (hi : b'.timeline.toList[i]? = some (now, e)) (he : e.kind = .apiCall) :
    ∃ c ∈ calls, ∃ earlier out, b.Goes earlier c.before.browser ∧
      c.before.browser.timeline.toList = b'.timeline.toList.take i ∧ c.request? = some out ∧
      e = out.event (c.before.browser.respond out).1 := by
  induction h with
  | begins =>
    rw [hb] at hi
    simp at hi
  | draws n _ ih => exact ih hi
  | @call earlier c behind ih =>
    obtain ⟨es, hlength, hannounces, htimeline, -⟩ := c.moves.announced
    by_cases hlt : i < c.before.browser.timeline.toList.length
    · rw [htimeline, Machine.noted, List.getElem?_append_left hlt] at hi
      obtain ⟨d, hd, earlier', out, hgoes, htake, hout⟩ := ih hi
      refine ⟨d, List.mem_append_left _ hd, earlier', out, hgoes, ?_, hout⟩
      rw [htake, htimeline]
      exact (List.take_append_of_le_length (Nat.le_of_lt hlt)).symm
    · -- it is what this call has announced
      rw [htimeline, Machine.noted, List.getElem?_append_right (Nat.not_lt.mp hlt),
        List.getElem?_map, Option.map_eq_some_iff] at hi
      obtain ⟨e', he', hsaid⟩ := hi
      obtain ⟨-, rfl⟩ := Prod.mk.inj hsaid
      have hmem : e' ∈ es := List.mem_of_getElem? he'
      obtain ⟨out, hout⟩ := Option.isSome_iff_exists.mp
        (Heap.isSome_request?_iff.mpr
          ((hannounces e' hmem).requests he))
      have hfirst : i = c.before.browser.timeline.toList.length := by
        have hpos := (List.getElem?_eq_some_iff.mp he').1
        omega
      have hsame : c.before.browser.timeline.toList ++ es.map (c.before.browser.clock, ·) =
          c.before.browser.timeline.toList ++
            [(c.before.browser.clock, out.event (c.before.browser.respond out).1)] := by
        refine htimeline.symm.trans ?_
        rw [Call.after_of_request hout]
        exact Array.toList_push
      refine ⟨c, by simp, earlier, out, behind, ?_, hout, ?_⟩
      · rw [htimeline, hfirst]
        exact List.take_left.symm
      · have hsaid : (c.before.browser.clock, e') ∈ es.map (c.before.browser.clock, ·) :=
          List.mem_map.mpr ⟨e', hmem, rfl⟩
        rw [List.append_cancel_left hsame] at hsaid
        exact (Prod.mk.inj (List.mem_singleton.mp hsaid)).2

end Browser.Goes

/-! ### Runs -/

/-- Whatever is evaluated, the browser goes by calls. -/
def calling : Passage where
  related m m' := ∃ calls, m.browser.Goes calls m'.browser
  refl _ := ⟨[], .begins⟩
  trans := by
    rintro m m' m'' ⟨_, h⟩ ⟨_, h'⟩
    exact ⟨_, h.trans h'⟩
  heap _ _ := ⟨[], .begins⟩
  opened _ _ := ⟨[], .begins⟩
  declared _ _ _ _ _ := ⟨[], .begins⟩
  counted _ _ := ⟨[], .begins⟩
  written _ _ := ⟨[], .begins⟩
  draw _ n := ⟨[], .draws n .begins⟩
  test _ _ := ⟨[], .begins⟩
  hook _ _ := ⟨[], .begins⟩
  invoke h method args m := by
    have hcall := Browser.Goes.call (b := m.browser) ⟨h, method, args, m⟩ .begins
    dsimp only [Call.after] at hcall
    exact ⟨_, hcall⟩

/-- What machines are watched for holds of those with which runs begin, and outlasts what runs do. -/
structure Watch.Runs (W : Watch) : Prop extends W.Lasts where
  globals : ∀ {b}, W.browser b → Dict.Holds (Value.All W.handles) (styleValues b.style)
  forgets : ∀ m : Machine, W.passage m { m with tests := [] }

theorem Watch.Runs.guarding {W : Watch} (hW : W.Runs) : hW.toLasts.guarding.Runs where
  style := ⟨fun m => W.passage.refl m, fun _ _ hm => .inr ⟨hW.globals hm.browser, hm⟩⟩
  hooks := .of (fun m => W.passage.refl m) fun _ => .hooks
  takeTests := .of (fun m => hW.forgets m) fun _ => .takeTests

/-- What machines are watched for is guarded by programs. -/
theorem Watch.Runs.runProgram {W : Watch} (hW : W.Runs) {c : Prop} (fuel : Nat) (p : Program) :
    Guards W c Anything (runProgram fuel p) :=
  hW.guarding.runProgram (o := none) (Nat.le_refl fuel) p

/-- **A run keeps machines fine**, however many steps it may take, unless it ends on one that is
excused. -/
theorem Watch.Runs.runFor {W : Watch} (hW : W.Runs) (steps : Option Nat) (fuel : Nat)
    (program : Program) {b : Browser} (hb : W.browser b) (hcommands : b.commands = []) :
    W.excused (program.runFor steps fuel b).2 ∨ W.Fine (program.runFor steps fuel b).2 := by
  have hstart : W.Fine { Machine.start b with stepsLeft := steps } :=
    ⟨Machine.all_start (hW.globals hb) (by rw [hcommands]; exact Dict.holds_nil) steps, hb⟩
  have hend := (hW.runProgram (c := True) fuel program).keeps trivial _ hstart
  rw [runFor_eq_ofResult, Ending.snd_ofResult]
  exact hend.imp_right And.right

end BrowserLab.Script
