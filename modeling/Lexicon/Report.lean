import Lexicon.Report.JsonReport
import Lexicon.Report.Markdown
import Lexicon.Report.Plain

/-!
# Reports on the registry

* `Report.render` — the report on the registry that some settings ask for;
* `Report.record` — what is logged about rendering it.
-/

namespace Lexicon.Report

def render (config : Config) : String :=
  match config.format with
  | .plain => Plain.report config registry
  | .markdown => Markdown.report config registry
  | .json => JsonReport.report config registry

/-- What is logged about rendering a report. -/
def record (config : Config) : Record :=
  { event := .rendered (Utf8.encode (render config)).length registry.length
    spans := [.renderRegistry config.format] }

end Lexicon.Report
