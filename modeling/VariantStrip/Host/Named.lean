/-
Hosts with a table of their names.

A `NamedHost` finds the handle of a name without a search. Handles have 32 bits here. The operations
are those of `Host`, but for the table that they keep up: they read handles from it, and a handle
that leads to no shader is a fault, so that there is no result.
-/
import Std.Data.HashMap
import VariantStrip.Host

namespace VariantStrip

/-- A host with a table of the names that it knows. -/
structure NamedHost extends Host where
  /-- The handle of each name. -/
  byName : Std.HashMap String ShaderId := {}

namespace NamedHost

/-- The handle of a place in the table of shaders. Places beyond 32 bits share the last handle. -/
def handleAt (place : Nat) : ShaderId := ⟨if place < UInt32.size then place else UInt32.size - 1⟩

/-- Registers a shader, and returns its handle. -/
def add? (h : NamedHost) (s : Shader) : Option (ShaderId × NamedHost) :=
  match h.byName[s.name]? with
  | some id =>
    if id.index < h.shaders.length then some (id, { h with shaders := h.shaders.set id.index s })
    else none
  | none =>
    let id := handleAt h.shaders.length
    some (id, { h with shaders := h.shaders ++ [s], byName := h.byName.insert s.name id })

/-- Registers shaders one after the other, and returns the handle that each of them gets. -/
def addAll? (h : NamedHost) : List Shader → Option (List ShaderId × NamedHost)
  | [] => some ([], h)
  | s :: rest => do
    let (id, h) ← h.add? s
    let (ids, h) ← h.addAll? rest
    return (id :: ids, h)

/-- The handle of a name. -/
def find? (h : NamedHost) (name : String) : Option ShaderId := h.byName[name]?

end NamedHost

end VariantStrip
