/-!
# Kinds of playground

Each exercise is solved on one of these pages.
-/

namespace BrowserLab

/-- A page that an exercise is solved on. -/
inductive Environment where
  | login
  | feedbackForm
  | asyncLoading
  | checkout
  | iframeTesting
  | nestedIframes
  | apiConsole
  | apiMock
  | dropdowns
  | tableData
  | accessibilityTree
  | fileUpload
  | advancedSelectors
  | performance
  | databaseStatus
  | profileRepair
  deriving DecidableEq, Repr, Inhabited

namespace Environment

def all : List Environment :=
  [.login, .feedbackForm, .asyncLoading, .checkout, .iframeTesting, .nestedIframes, .apiConsole,
    .apiMock, .dropdowns, .tableData, .accessibilityTree, .fileUpload, .advancedSelectors,
    .performance, .databaseStatus, .profileRepair]

/-- The name in documents, which is also the name shown. -/
def name : Environment → String
  | .login => "login"
  | .feedbackForm => "feedback-form"
  | .asyncLoading => "async-loading"
  | .checkout => "checkout"
  | .iframeTesting => "iframe-testing"
  | .nestedIframes => "nested-iframes"
  | .apiConsole => "api-console"
  | .apiMock => "api-mock"
  | .dropdowns => "dropdowns"
  | .tableData => "table-data"
  | .accessibilityTree => "accessibility-tree"
  | .fileUpload => "file-upload"
  | .advancedSelectors => "advanced-selectors"
  | .performance => "performance"
  | .databaseStatus => "cy-db-status"
  | .profileRepair => "cy-util-repair"

/-- The kinds of playground by name. -/
def byName : List (String × Environment) := all.map fun e => (e.name, e)

end Environment

end BrowserLab
