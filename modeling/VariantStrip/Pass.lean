/-
Types of shader passes.
-/
import VariantStrip.Spelled

namespace VariantStrip

/-- What a pass of a shader is for. -/
inductive PassType where
  | normal
  | vertex
  | vertexLm
  | forwardBase
  | forwardAdd
  | lightPrePassBase
  | lightPrePassFinal
  | shadowCaster
  | deferred
  | metaPass
  | motionVectors
  | scriptableRenderPipeline
  | scriptableRenderPipelineDefaultUnlit
  deriving DecidableEq, Hashable, Repr, Inhabited

namespace PassType

/-- The name in files. -/
def name : PassType → String
  | normal => "Normal"
  | vertex => "Vertex"
  | vertexLm => "VertexLm"
  | forwardBase => "ForwardBase"
  | forwardAdd => "ForwardAdd"
  | lightPrePassBase => "LightPrePassBase"
  | lightPrePassFinal => "LightPrePassFinal"
  | shadowCaster => "ShadowCaster"
  | deferred => "Deferred"
  | metaPass => "Meta"
  | motionVectors => "MotionVectors"
  | scriptableRenderPipeline => "ScriptableRenderPipeline"
  | scriptableRenderPipelineDefaultUnlit => "ScriptableRenderPipelineDefaultUnlit"

/-- The name in reports and messages. -/
def title : PassType → String
  | vertexLm => "VertexLM"
  | p => p.name

instance : Spelled PassType where
  values := [normal, vertex, vertexLm, forwardBase, forwardAdd, lightPrePassBase,
    lightPrePassFinal, shadowCaster, deferred, metaPass, motionVectors, scriptableRenderPipeline,
    scriptableRenderPipelineDefaultUnlit]
  spell := name

end PassType

end VariantStrip
