/-
Reading the settings of a build.

Settings are accepted only if their rules, enabled or not, may stand together.
-/
import VariantStrip.Json.Document
import VariantStrip.Json.Reader
import VariantStrip.Ron.Document
import VariantStrip.Ron.Reader
import VariantStrip.Rule.Compatibility
import VariantStrip.Rule.Reading
import VariantStrip.Settings

namespace VariantStrip

open Document

namespace Settings

/-- Reads settings from a document. -/
def read? {δ : Type} [Document δ] (d : δ) : Option Settings := do
  let fs ← record? "StripperSettings" ["rules", "log_included_variants", "log_stripped_variants",
    "process_always_included_shaders", "log_path"] d
  let path? (d : δ) : Option (Option Path) := do
    match ← option? d with
    | none => some none
    | some d => (Path.read? d).map some
  return {
    rules := ← optional fs "rules" [] (listOf Rule.read?)
    logIncluded := ← optional fs "log_included_variants" true bool?
    logStripped := ← optional fs "log_stripped_variants" false bool?
    processAlwaysIncluded := ← optional fs "process_always_included_shaders" true bool?
    logPath := ← optional fs "log_path" none path? }

/-- Reads the text of settings, without a look at which rules stand together. -/
def parse? (format : Format) (text : String) : Option Settings :=
  match format with
  | .json => (Json.parse? text.toList).bind read?
  | .ron => (Ron.parse? text.toList).bind fun (exts, v) => read? (Ron.Node.mk exts 0 v)

/-- Accepts settings whose rules may stand together. -/
def validate (s : Settings) : Except LoadError Settings := do
  let _ ← RuleList.ofList s.rules
  return s

/-- Reads the text of settings. -/
def parse (format : Format) (text : String) : Except LoadError Settings :=
  match parse? format text with
  | some s => s.validate
  | none => .error (.malformed format)

end Settings

end VariantStrip
