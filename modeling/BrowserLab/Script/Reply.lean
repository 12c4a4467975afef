import BrowserLab.Script.StringMethod

/-!
# Replies

A function that is there from the beginning, or a method of a handle, either has its value at once
or asks for a function to be called first.  What becomes of that function's result is data, so that
it can be reasoned about.
-/

namespace BrowserLab.Script

/-- What a result is turned into. -/
inductive Settle where
  | result
  | undefined
  | cy
  /-- The same chain again. -/
  | sameChain (target : Target) (subject : Value)
  /-- The chain that was returned, or this chain with what was returned as its subject. -/
  | nextChain (target : Target) (subject : Value)

def Settle.apply (s : Settle) (result : Value) : Value :=
  match s with
  | .result => result
  | .undefined => .undefined
  | .cy => .handle .cy
  | .sameChain target subject => .handle (.chain target subject)
  | .nextChain target subject =>
    match result with
    | .handle (.chain t s) => .handle (.chain t s)
    | .undefined => .handle (.chain target subject)
    | .handle .cy => .handle (.chain target subject)
    | other => .handle (.chain target other)

/-- A value, or a call to make and what to do with its result. -/
inductive Reply where
  | value (v : Value)
  | callback (callee : Value) (args : List Value) (settle : Settle)

end BrowserLab.Script
