/-
What a build says while it runs.

`Logged` is a value with the messages that were sent on the way to it, oldest first.
-/
import VariantStrip.Error
import VariantStrip.Pass

namespace VariantStrip

/-- How important a message is. -/
inductive Level where
  | warn
  | info
  | debug
  | trace
  deriving DecidableEq, Repr

/-- The name of a level. -/
def Level.name : Level → String
  | warn => "WARN"
  | info => "INFO"
  | debug => "DEBUG"
  | trace => "TRACE"

/-- A question that the engine asks a rule. -/
inductive Question where
  | scope
  | inclusion
  | stripping
  deriving DecidableEq, Repr

/-- What a question is called in messages. -/
def Question.title : Question → String
  | scope => "scope check"
  | inclusion => "include vote"
  | stripping => "strip vote"

/-- Something that a build says. -/
inductive Message where
  /-- Catalog variants were skipped, since the host does not know their shader. -/
  | variantsSkipped (count : Nat) (shader : String)
  /-- An index of known variants is complete. -/
  | indexBuilt (variants shaders : Nat)
  /-- A catalog entry was dropped, since the host does not know its shader. -/
  | entryDropped (shader : String)
  /-- A variant of a catalog was not valid. -/
  | variantInvalid (shader : String) (passType : PassType) (reason : String)
  /-- Catalogs were merged. -/
  | catalogsMerged (shaders variants repaired : Nat)
  /-- A catalog does not exist. -/
  | catalogMissing (path : Path)
  /-- A rule could not answer. -/
  | questionFailed (label : String) (question : Question) (cause : StripError)
  /-- A candidate was stripped. -/
  | variantStripped (key signature label : String)
  /-- No rule takes part in the build. -/
  | strippingDisabled
  /-- Rules take part in the build. -/
  | strippingEnabled (rules : Nat) (build : String)
  /-- The totals of a build. -/
  | totals (text : String)
  /-- A report was written. -/
  | reportWritten (path : Path)
  /-- A report could not be written. -/
  | reportFailed (folder : Path) (cause : StripError)
  /-- There was nothing to report. -/
  | reportEmpty
  /-- Reports are not asked for. -/
  | reportNotConfigured
  deriving DecidableEq, Repr

namespace Message

/-- How important a message is. -/
def level : Message → Level
  | variantsSkipped .. | entryDropped .. | questionFailed .. | reportFailed .. => .warn
  | catalogsMerged .. | catalogMissing .. | strippingDisabled | strippingEnabled ..
  | totals .. | reportWritten .. => .info
  | indexBuilt .. | variantInvalid .. | reportEmpty | reportNotConfigured => .debug
  | variantStripped .. => .trace

/-- The words of a message. -/
def text : Message → String
  | variantsSkipped count shader =>
    s!"Skipping {count} catalog variants for unknown shader '{shader}'"
  | indexBuilt variants shaders =>
    s!"Reference index holds {variants} variants for {shaders} shaders"
  | entryDropped shader => s!"Dropping catalog entries for unknown shader '{shader}'"
  | variantInvalid shader passType reason =>
    s!"Invalid variant of '{shader}' ({passType.title}): {reason}"
  | catalogsMerged shaders variants repaired =>
    s!"Merged catalog: {shaders} shaders, {variants} variants ({repaired} repaired)"
  | catalogMissing path => s!"Variant catalog {path.text} not found, treating it as empty"
  | questionFailed label question cause =>
    s!"Rule '{label}' failed its {question.title}: {cause.message}"
  | variantStripped key signature label => s!"Stripped {key} [{signature}] by '{label}'"
  | strippingDisabled =>
    "No shader stripping rules are enabled; stripping is disabled for this build"
  | strippingEnabled rules build =>
    s!"Shader stripping enabled with {rules} rule(s) ({build} build)"
  | totals text => text
  | reportWritten path => s!"Shader strip report written to {path.text}"
  | reportFailed folder cause =>
    s!"Could not write shader strip report to {folder.text}: {cause.message}"
  | reportEmpty => "Nothing was logged; skipping report"
  | reportNotConfigured => "No log directory configured; skipping report"

end Message

/-- A value with the messages sent on the way to it. -/
structure Logged (α : Type) where
  value : α
  log : List Message := []
  deriving Repr

namespace Logged

variable {α β : Type}

/-- A value on its own. -/
protected def pure (a : α) : Logged α := ⟨a, []⟩

/-- Continues with a value, and joins the messages. -/
protected def bind (x : Logged α) (f : α → Logged β) : Logged β :=
  let y := f x.value
  ⟨y.value, x.log ++ y.log⟩

instance : Monad Logged where
  pure := Logged.pure
  bind := Logged.bind

/-- Sends a message. -/
def say (m : Message) : Logged Unit := ⟨(), [m]⟩

@[simp] theorem value_pure (a : α) : (pure a : Logged α).value = a := rfl

@[simp] theorem log_pure (a : α) : (pure a : Logged α).log = [] := rfl

@[simp] theorem value_bind (x : Logged α) (f : α → Logged β) :
    (x >>= f).value = (f x.value).value := rfl

@[simp] theorem log_bind (x : Logged α) (f : α → Logged β) :
    (x >>= f).log = x.log ++ (f x.value).log := rfl

theorem value_foldlM (f : β → α → Logged β) (xs : List α) (b : β) :
    (xs.foldlM f b).value = xs.foldl (fun b a => (f b a).value) b := by
  induction xs generalizing b with
  | nil => rfl
  | cons x xs ih => simp only [List.foldlM_cons, value_bind, ih, List.foldl_cons]

end Logged

end VariantStrip
