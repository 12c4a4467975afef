import BrowserLab.Catalog.Maintenance
import BrowserLab.Catalog.Network
import BrowserLab.Catalog.Pages

/-!
# The catalog that comes with the lab
-/

namespace BrowserLab.Catalog

/-- The scenarios that come with the lab. -/
def builtinScenarios : List Scenario := [
  Builtin.maintCyUtilIntercept, Builtin.cyUtilCustomCmd, Builtin.maintBrittleSelectors,
  Builtin.maintAsyncWait, Builtin.maintTextRegression, Builtin.basicAuth, Builtin.basicIframe,
  Builtin.advancedNestedIframe, Builtin.apiKeyAuth, Builtin.pwTraceViewer,
  Builtin.cyCustomCommands, Builtin.apiOauthToken, Builtin.apiBasicGet, Builtin.advApiMocking,
  Builtin.basicDropdowns, Builtin.interTableData, Builtin.advA11yTree, Builtin.interFileUpload,
  Builtin.advSelectorsDeep]

/-- The catalog that comes with the lab. -/
def builtin : Catalog :=
  ⟨builtinScenarios, by simp [builtinScenarios], by decide⟩

end BrowserLab.Catalog
