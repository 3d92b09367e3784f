/-
Platforms that shaders are compiled for, and the tiers of their hardware.
-/
import VariantStrip.Spelled

namespace VariantStrip

/-- A target of the shader compiler. -/
inductive Platform where
  | none
  | d3d
  | gles20
  | gles3x
  | openGLCore
  | metal
  | vulkan
  | ps4
  | ps5
  | xboxOneD3D11
  | xboxOneD3D12
  | gameCoreXboxOne
  | gameCoreXboxSeries
  | switch
  deriving DecidableEq, Repr

/-- A class of graphics hardware. -/
inductive Tier where
  | tier1
  | tier2
  | tier3
  deriving DecidableEq, Repr

/-- The name of a platform in files. -/
def Platform.name : Platform → String
  | none => "None"
  | d3d => "D3D"
  | gles20 => "Gles20"
  | gles3x => "Gles3x"
  | openGLCore => "OpenGLCore"
  | metal => "Metal"
  | vulkan => "Vulkan"
  | ps4 => "PS4"
  | ps5 => "PS5"
  | xboxOneD3D11 => "XboxOneD3D11"
  | xboxOneD3D12 => "XboxOneD3D12"
  | gameCoreXboxOne => "GameCoreXboxOne"
  | gameCoreXboxSeries => "GameCoreXboxSeries"
  | switch => "Switch"

/-- The name of a tier in files. -/
def Tier.name : Tier → String
  | tier1 => "Tier1"
  | tier2 => "Tier2"
  | tier3 => "Tier3"

instance : Spelled Platform where
  values := [.none, .d3d, .gles20, .gles3x, .openGLCore, .metal, .vulkan, .ps4, .ps5,
    .xboxOneD3D11, .xboxOneD3D12, .gameCoreXboxOne, .gameCoreXboxSeries, .switch]
  spell := Platform.name

instance : Spelled Tier where
  values := [.tier1, .tier2, .tier3]
  spell := Tier.name

end VariantStrip
