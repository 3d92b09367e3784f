/-
Lists of rules that may stand together.

`RuleList.canAdd` says whether a rule of some kind may join a list: the first rule that stands
against it is the failure. `RuleList.ofList` adds rules one after the other.
-/
import VariantStrip.Error
import VariantStrip.Rule.Basic

namespace VariantStrip

/-- A list of rules. The operations below keep it free of rules that may not stand together;
replacing a rule in place does not check. -/
structure RuleList where
  rules : List Rule := []
  deriving DecidableEq, Repr, Inhabited

/-- Why a rule of a kind may not stand beside a present one, if so. -/
def RuleKind.conflict? (kind present : RuleKind) : Option LoadError :=
  if present = kind ∧ kind.traits.allowOnce then some (.duplicateRule kind)
  else if kind.excludes present then some (.exclusiveRule kind present)
  else none

namespace RuleList

/-- Whether a rule of a kind may join the list. -/
def canAdd (l : RuleList) (kind : RuleKind) : Except LoadError Unit :=
  match l.rules.findSome? fun r => kind.conflict? r.kind with
  | some e => .error e
  | none => .ok ()

/-- Appends a rule, if it may join the list. -/
def push (l : RuleList) (r : Rule) : Except LoadError RuleList := do
  l.canAdd r.kind
  return ⟨l.rules ++ [r]⟩

/-- The list of some rules, added one after the other. -/
def ofList (rules : List Rule) : Except LoadError RuleList := rules.foldlM push {}

/-- Removes the rule at a position. -/
def remove (l : RuleList) (i : Nat) : Option Rule × RuleList :=
  (l.rules[i]?, ⟨l.rules.eraseIdx i⟩)

/-- Moves the rule at one position to another; the flag tells whether both exist. -/
def move (l : RuleList) (source target : Nat) : Bool × RuleList :=
  match l.rules[source]? with
  | some r =>
    if target < l.rules.length then (true, ⟨(l.rules.eraseIdx source).insertIdx target r⟩)
    else (false, l)
  | none => (false, l)

/-- Replaces the rule at a position, whatever its kind; the flag tells whether it exists. -/
def replace (l : RuleList) (i : Nat) (r : Rule) : Bool × RuleList :=
  (decide (i < l.rules.length), ⟨l.rules.set i r⟩)

/-- The kinds that may join the list, in the order of menus. -/
def availableKinds (l : RuleList) : List RuleKind :=
  RuleKind.menu.filter fun k => (l.canAdd k).isOk

end RuleList

end VariantStrip
