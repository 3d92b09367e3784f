/-
Rules as the engine sees them.

A `Voter` answers three questions about a variant: whether its shader is in the scope of the rule,
whether the rule votes to keep it and whether it votes to strip it. An answer may fail.
-/
import VariantStrip.Error
import VariantStrip.Host

namespace VariantStrip

/-- Everything that a rule is asked about. -/
structure Context where
  host : Host
  shader : ShaderId
  /-- The name of the shader, empty if the host does not know it. -/
  shaderName : String
  snippet : Snippet
  candidate : Candidate
  /-- Whether a development build is made. -/
  development : Bool

/-- Where the source of the shader lies, if that is known. -/
def Context.path? (c : Context) : Option String := c.host.pathOf? c.shader

/-- A rule that can be asked for its votes. -/
structure Voter where
  kind : RuleKind
  description : String := ""
  inScope : Context → Except StripError Bool := fun _ => .ok true
  votesInclude : Context → Except StripError Bool := fun _ => .ok false
  votesStrip : Context → Except StripError Bool := fun _ => .ok false

/-- What a rule is called: its description, or the title of its kind. -/
def Voter.label (v : Voter) : String :=
  if v.description.isEmpty then v.kind.title else v.description

end VariantStrip
