import BrowserLab.Catalog.Builtin
import BrowserLab.Proofs.Script.Groups
import BrowserLab.Proofs.Script.Import
import BrowserLab.Proofs.Script.Spliced
import BrowserLab.Proofs.Text.Words
import BrowserLab.Session

/-!
# Code that does nothing yet

The skeleton of a scenario is a script with its title, or the slug of it, in single quotes.  The
title is written there as it is, so it must not end the quotes: then the skeleton is the same script
for every title, up to the name of its test or group, and running it succeeds without a step.

* `Skeleton.head`, `Skeleton.tail`: the script around the name, with what it is cut into.
* `compile_skeleton`: the program of a skeleton.
* `Session.run_idle`: a program that leaves the browser alone makes no steps.
* `starterCode_runs`: compiling and running the code to begin with, if it is a skeleton.
-/

namespace BrowserLab

open Script Scan

/-! ### The script around the name -/

namespace Skeleton

/-- The import at the beginning, if there is one. -/
def imports : Style → List Char
  | .playwright => "import \x7b test, expect \x7d from '@playwright/test';".toList
  | .cypress => []

/-- The text behind the import, up to the name. -/
def head : Style → List Char
  | .playwright => "\n\ntest(".toList
  | .cypress => "describe(".toList

/-- The text behind the name. -/
def tail : Style → List Char
  | .playwright =>
    (", async (\x7b page \x7d) => \x7b\n  // Your Playwright code here...\n  \n\x7d);").toList
  | .cypress =>
    (", () => \x7b\n  it('should complete the exercise', () => \x7b\n" ++
      "    // Your code here...\n    \n  \x7d);\n\x7d);").toList

/-- What is read of tokens on one line; do they begin it? -/
def onLine (begins : Bool) : List Token.Kind → List (Token.Kind × Bool)
  | [] => []
  | k :: ks => (k, begins) :: ks.map (·, false)

/-- What is read before the name. -/
def before : Style → List (Token.Kind × Bool)
  | .playwright => onLine true [.word "test", .punct "("]
  | .cypress => onLine false [.word "describe", .punct "("]

/-- What is read behind the name. -/
def behind : Style → List (Token.Kind × Bool)
  | .playwright =>
    onLine false [.punct ",", .word "async", .punct "(", .punct "\x7b", .word "page",
        .punct "\x7d", .punct ")", .punct "=>", .punct "\x7b"] ++
      onLine true [.punct "\x7d", .punct ")", .punct ";", .eof]
  | .cypress =>
    onLine false [.punct ",", .punct "(", .punct ")", .punct "=>", .punct "\x7b"] ++
      onLine true [.word "it", .punct "(", .string "should complete the exercise", .punct ",",
        .punct "(", .punct ")", .punct "=>", .punct "\x7b"] ++
      onLine true [.punct "\x7d", .punct ")", .punct ";"] ++
      onLine true [.punct "\x7d", .punct ")", .punct ";", .eof]

/-- The program with a name. -/
def program : Style → String → Program
  | .playwright, name =>
    ⟨[.expr (.call (.ident "test")
      [.item (.string name), .item (.function (idleTest ["page"]))] false)]⟩
  | .cypress, name =>
    ⟨[.expr (.call (.ident "describe")
      [.item (.string name), .item (.function (idleGroup "should complete the exercise"))] false)]⟩

theorem tokens_head (style : Style) (fuel : Nat) (rest : List Char) :
    ∃ (ts : List Script.Token) (place : Place), ts.map Token.mark = before style ∧
      tokens (fuel + 3) [] ⟨head style ++ '\'' :: rest, .start⟩ =
        tokens (fuel + 1) ts.reverse ⟨'\'' :: rest, place⟩ := by
  cases style with
  | playwright =>
    have hword : tokens (fuel + 3) [] ⟨head .playwright ++ '\'' :: rest, .start⟩ =
        tokens (fuel + 2) [⟨.word "test", ⟨3, 1⟩, true⟩] ⟨'(' :: '\'' :: rest, ⟨3, 5⟩⟩ :=
      tokens_step rfl rfl rfl
    refine ⟨[⟨.word "test", ⟨3, 1⟩, true⟩, ⟨.punct "(", ⟨3, 5⟩, false⟩], ⟨3, 6⟩, rfl, ?_⟩
    rw [hword]
    exact tokens_step rfl rfl rfl
  | cypress =>
    have hword : tokens (fuel + 3) [] ⟨head .cypress ++ '\'' :: rest, .start⟩ =
        tokens (fuel + 2) [⟨.word "describe", .start, false⟩] ⟨'(' :: '\'' :: rest, ⟨1, 9⟩⟩ :=
      tokens_step rfl rfl rfl
    refine ⟨[⟨.word "describe", .start, false⟩, ⟨.punct "(", ⟨1, 9⟩, false⟩], ⟨1, 10⟩, rfl, ?_⟩
    rw [hword]
    exact tokens_step rfl rfl rfl

theorem tokens_tail (style : Style) (fuel : Nat) (place : Place) :
    (tokens (fuel + 60) [] ⟨tail style, place⟩).map (·.map Token.mark) = .ok (behind style) := by
  cases style <;> rfl

theorem program_marks (style : Style) (name : String) (fuel : Nat) (places : Nat → Place) :
    ∃ rest, Parse.program (fuel + 64) (fuel + 64) []
      (placed places (before style ++ (.string name, false) :: behind style)) =
        .ok ((program style name).body, rest) := by
  cases style with
  | playwright => exact ⟨_, rfl⟩
  | cypress => exact ⟨_, rfl⟩

theorem import?_imports (rest : List Char) :
    Script.import? (imports .playwright ++ rest) = some (rest, 0) := rfl

/-- Only the import is taken out of what stands before the name. -/
theorem strips_head (style : Style) {cs left : List Char} (h : Strips false cs left) :
    Strips true (imports style ++ (head style ++ cs)) (head style ++ left) := by
  cases style with
  | playwright =>
    have hline : Strips false ("est(".toList ++ cs) ("est(".toList ++ left) :=
      h.append_line (by decide)
    have hlines : Strips false (head .playwright ++ cs) (head .playwright ++ left) :=
      .keep nofun (.keep (fun _ => rfl) (.keep (fun _ => rfl) hline))
    exact .declaration (import?_imports _) hlines
  | cypress =>
    have hline : Strips false ("escribe(".toList ++ cs) ("escribe(".toList ++ left) :=
      h.append_line (by decide)
    exact .keep (fun _ => rfl) hline

/-- Whatever the name is, behind it no line reads as an import. -/
theorem strips_tail (style : Style) : Strips false (tail style) (tail style) := by
  obtain ⟨left, hleft, hstrips⟩ := strips_stripFrom false [] (Nat.lt_succ_self (tail style).length)
  have hsame : stripFrom ((tail style).length + 1) false [] (tail style) = tail style := by
    cases style <;> decide +kernel
  rw [hsame] at hleft
  obtain rfl : tail style = left := hleft
  exact hstrips

/-- The run of the program leaves the browser alone. -/
theorem run_program {style : Style} {b : Browser} {fuel : Nat} (hstyle : b.style = style)
    (name : String) (hfuel : 16 ≤ fuel) :
    ∃ m, (program style name).run fuel b = (.completed, m) ∧ m.browser = b := by
  cases style with
  | playwright => exact run_idleTest hstyle name ["page"] (Nat.le_trans (by decide) hfuel)
  | cypress => exact run_idleGroup hstyle name _ hfuel

end Skeleton

/-! ### Skeletons of scenarios -/

namespace Scenario

variable {s : Scenario} {style : Style}

/-- What stands in quotes in the skeleton. -/
def quoted (s : Scenario) : Style → String
  | .playwright => s.slug
  | .cypress => s.title

/-- A slug has no line feeds, and quotes and backslashes only from the title. -/
theorem slug_plain (htitle : ∀ d ∈ s.title.toList, d ≠ '\'' ∧ d ≠ '\\') :
    ∀ d ∈ s.slug.toList, d ≠ '\'' ∧ d ≠ '\\' ∧ d ≠ '\n' := by
  intro d hd
  rcases Text.mem_of_mem_intercalate hd with hdash | ⟨word, hword, hd⟩
  · obtain rfl : d = '-' := List.mem_singleton.mp hdash
    decide
  obtain ⟨hlower, hblank⟩ := Text.mem_of_mem_words hword hd
  refine ⟨?_, ?_, ?_⟩
  · rintro rfl
    exact (htitle _ (Text.mem_of_mem_lower (by decide) (by decide) hlower)).1 rfl
  · rintro rfl
    exact (htitle _ (Text.mem_of_mem_lower (by decide) (by decide) hlower)).2 rfl
  · rintro rfl
    cases hblank

theorem toList_skeleton (s : Scenario) (style : Style) :
    (s.skeleton style).toList = Skeleton.imports style ++ (Skeleton.head style ++
      '\'' :: ((s.quoted style).toList ++ '\'' :: Skeleton.tail style)) := by
  cases style with
  | playwright =>
    have hhead : "import \x7b test, expect \x7d from '@playwright/test';\n\ntest('".toList =
        Skeleton.imports .playwright ++ (Skeleton.head .playwright ++ ['\'']) := by decide +kernel
    have htail :
        "', async (\x7b page \x7d) => \x7b\n  // Your Playwright code here...\n  \n\x7d);".toList =
          '\'' :: Skeleton.tail .playwright := by decide +kernel
    unfold skeleton quoted
    simp only [String.toList_append, List.append_assoc, hhead, htail, List.cons_append,
      List.nil_append]
  | cypress =>
    have hhead : "describe('".toList = Skeleton.head .cypress ++ ['\''] := by decide +kernel
    have htail : "', () => \x7b\n  it('should complete the exercise', () => \x7b\n".toList ++
        "    // Your code here...\n    \n  \x7d);\n\x7d);".toList =
          '\'' :: Skeleton.tail .cypress := by decide +kernel
    unfold skeleton quoted Skeleton.imports
    simp only [String.toList_append, List.append_assoc, hhead, htail, List.cons_append,
      List.nil_append]

theorem stripImports_skeleton (hline : '\n' ∉ (s.quoted style).toList) :
    (stripImports (s.skeleton style)).toList = Skeleton.head style ++
      '\'' :: ((s.quoted style).toList ++ '\'' :: Skeleton.tail style) := by
  have hname : Strips false ((s.quoted style).toList ++ '\'' :: Skeleton.tail style)
      ((s.quoted style).toList ++ '\'' :: Skeleton.tail style) :=
    Strips.append_line (Strips.keep nofun (Skeleton.strips_tail style)) hline
  refine stripImports_of_strips ?_
  rw [toList_skeleton]
  exact Skeleton.strips_head style (Strips.keep nofun hname)

/-- The program of a skeleton, if what it has in quotes is not ended or escaped there. -/
theorem compile_skeleton
    (hname : ∀ d ∈ (s.quoted style).toList, d ≠ '\'' ∧ d ≠ '\\' ∧ d ≠ '\n') :
    compile (s.skeleton style) = .ok (Skeleton.program style (s.quoted style)) := by
  have htext := stripImports_skeleton fun hmem => (hname _ hmem).2.2 rfl
  have hlength : 3 + 60 ≤ (Skeleton.head style).length + (Skeleton.tail style).length + 3 := by
    cases style <;> decide
  obtain ⟨ts, hts, hmarks⟩ := tokenize_spliced htext hname (Skeleton.tokens_head style)
    (Skeleton.tokens_tail style) hlength
  rw [String.ofList_toList] at hmarks
  rw [compile, parse_of_marks hts hmarks (Skeleton.program_marks style _)]
  rfl

end Scenario

/-! ### Runs without steps -/

/-- The run of a program that leaves the browser alone succeeds, and no step is written down. -/
theorem Session.run_idle (session : Session) {code : String} {program : Program} {fuel : Nat}
    (hcode : compile code = .ok program)
    (hidle : ∀ b : Browser, b.style = session.style →
      ∃ m, program.run fuel b = (.completed, m) ∧ m.browser = b) :
    (session.runWith fuel code).1.outcome = .success ∧
      (session.runWith fuel code).1.steps = [] := by
  obtain ⟨m, hrun, hbrowser⟩ := hidle session.begin.2.browser rfl
  have hperform : session.begin.2.perform fuel session.begin.1 program =
      (.success, m.console.reverse,
        { session.begin.2 with clock := m.browser.clock, draws := m.browser.draws }) := by
    rw [perform, hrun]
    dsimp only
    rw [hbrowser]
    rfl
  rw [runWith]
  dsimp only
  rw [hcode]
  dsimp only
  rw [hperform]
  exact ⟨rfl, rfl⟩

namespace Scenario

variable {s : Scenario} {style : Style}

/-- **Code to begin with.** A scenario without a text of its own for a style has a skeleton.  If its
title has no quote and no backslash, and in a group no line feed, then the skeleton is a script, and
every run of it in the style succeeds and records no step. -/
theorem starterCode_runs (hnone : s.starter.get? style = none)
    (htitle : ∀ d ∈ s.title.toList, d ≠ '\'' ∧ d ≠ '\\' ∧ (style = .cypress → d ≠ '\n')) :
    (∃ program, compile (s.starterCode style) = .ok program) ∧
      ∀ session : Session, session.style = style →
        (session.run (s.starterCode style)).1.outcome = .success ∧
          (session.run (s.starterCode style)).1.steps = [] := by
  have hname : ∀ d ∈ (s.quoted style).toList, d ≠ '\'' ∧ d ≠ '\\' ∧ d ≠ '\n' := by
    cases style with
    | playwright => exact slug_plain fun d hd => ⟨(htitle d hd).1, (htitle d hd).2.1⟩
    | cypress => exact fun d hd => ⟨(htitle d hd).1, (htitle d hd).2.1, (htitle d hd).2.2 rfl⟩
  have hcode : s.starterCode style = s.skeleton style := by
    rw [starterCode, hnone]
    rfl
  have hcompile := compile_skeleton hname
  rw [hcode]
  refine ⟨⟨_, hcompile⟩, fun session hstyle => session.run_idle hcompile fun b hb => ?_⟩
  exact Skeleton.run_program (hb.trans hstyle) _ (by decide)

/-- The other quotes and what would be a comment do no harm. -/
theorem starterCode_runs_commented :
    let s : Scenario := ⟨"log", "Log \"in\" // out", .webUi, .basic, "", [], {}, {},
      .login, [], none⟩
    let session :=
      ((Session.new .builtin (.standard "lab") .zeros .zeros).select "pw-trace-viewer").2
    s.slug = "log-\"in\"-//-out" ∧
      (∃ program, compile (s.starterCode .playwright) = .ok program) ∧
      (session.run (s.starterCode .playwright)).1.outcome = .success ∧
      (session.run (s.starterCode .playwright)).1.steps = [] := by
  intro s session
  have hstyle : session.style = .playwright := by decide +kernel
  obtain ⟨hcompile, hrun⟩ := @starterCode_runs s .playwright rfl (by simp [s])
  exact ⟨by decide +kernel, hcompile, hrun session hstyle⟩

/-- An apostrophe ends the quotes, and those behind it are not closed. -/
theorem starterCode_broken_by_apostrophe :
    ¬ ∀ (s : Scenario) (style : Style), s.starter.get? style = none →
      ∃ program, compile (s.starterCode style) = .ok program := by
  intro h
  obtain ⟨program, hcompile⟩ := h ⟨"guide", "User's guide", .webUi, .basic, "", [], {}, {},
    .login, [], none⟩ .playwright rfl
  have hsome : (compile (starterCode _ .playwright)).toOption.isSome = true :=
    congrArg (·.toOption.isSome) hcompile
  revert hsome
  decide +kernel

end Scenario

end BrowserLab
