import Darkroom.Config
import Darkroom.Settings.EnvFile
import Darkroom.Validation.Scalar
/-!
# Settings

What can be set from outside. A value given directly goes before one from the environment, and
that before one from the environment file; names in the last two are in capitals or not. All
settings are checked together.
-/

namespace Darkroom

structure Settings where
  appEnv : String := "dev"
  logLevel : String := "INFO"
  maxBufferPixels : Int := 50000000
  maxDimension : Int := 32767
  maxUploadBytes : Int := 20 * 1024 * 1024
  jpegQuality : Int := 85
  pngOptimize : Bool := true
  resampleFilter : String := "lanczos"
  lossyOpaquePng : Bool := true
  enableRequestLogging : Bool := true
deriving DecidableEq, Repr, Inhabited

namespace Settings

def isProduction (s : Settings) : Bool := s.appEnv == "prod"

/-- How images are decoded and written under these settings. -/
def imageConfig (s : Settings) : Config where
  maxDimension := s.maxDimension
  jpegQuality := s.jpegQuality
  pngOptimize := s.pngOptimize
  resampleFilter := s.resampleFilter
  outputPolicy := ⟨s.lossyOpaquePng⟩

/-! ## Sources -/

def stages : List String := ["dev", "staging", "prod"]

def filters : List String := ["lanczos", "bicubic", "bilinear", "nearest"]

structure Sources where
  given : Attributes := []
  environment : List (String × String) := []
  envFile : String := ""
deriving Inhabited

/-- The last value whose name is the given one in small letters. -/
private def lastNamed? (name : String) (all : List EnvFile.Binding) : Option String :=
  (all.reverse.find? fun b => b.1.map Char.toLower == name).bind (·.2)

/-- A name that stands alone in the file leaves the setting as it is. -/
def Sources.value? (s : Sources) (name : String) : Option Json :=
  let fromEnvironment := lastNamed? name (s.environment.map fun (n, v) => (n, some v))
  let fromFile := lastNamed? name (EnvFile.parse s.environment s.envFile)
  (s.given.get? name).or ((fromEnvironment.or fromFile).map Json.string)

open Validation in
def ofSources (s : Sources) : Checked Settings :=
  let defaults : Settings := {}
  let part {α : Type} (name : String) (rule : Rule α) (default : α) : Checked α :=
    field name rule (s.value? name) (some default)
  Settings.mk
    <$> part "app_env" (oneOf stages) defaults.appEnv
    <*> part "log_level" text defaults.logLevel
    <*> part "max_buffer_pixels" integer defaults.maxBufferPixels
    <*> part "max_dimension" integer defaults.maxDimension
    <*> part "max_upload_bytes" integer defaults.maxUploadBytes
    <*> part "jpeg_quality" integer defaults.jpegQuality
    <*> part "png_optimize" boolean defaults.pngOptimize
    <*> part "resample_filter" (oneOf filters) defaults.resampleFilter
    <*> part "lossy_opaque_png" boolean defaults.lossyOpaquePng
    <*> part "enable_request_logging" boolean defaults.enableRequestLogging

/-! ## Warnings -/

/-- Settings that can be worked with but make the service refuse or spoil images. -/
inductive Risk
  | noPixels
  | moreThanDecoded
  | noAxis
  | quality (q : Int)
deriving DecidableEq, Repr

/-- The greatest budget of pixels that the decoders below would go along with. -/
def decodedPixels : Int := 178956970

def risks (s : Settings) : List Risk :=
  (if s.maxBufferPixels ≤ 0 then [.noPixels]
    else if decodedPixels < s.maxBufferPixels then [.moreThanDecoded] else []) ++
  (if s.maxDimension < 2 then [.noAxis] else []) ++
  (if 1 ≤ s.jpegQuality ∧ s.jpegQuality ≤ 95 then [] else [.quality s.jpegQuality])

def Risk.text : Risk → String
  | noPixels => "max_buffer_pixels <= 0: every image will be rejected as too big."
  | moreThanDecoded => "max_buffer_pixels exceeds Pillow's decompression-bomb limit: " ++
      "Pillow will refuse such images before admission control does."
  | noAxis => "max_dimension < 2: every image will be rejected."
  | quality q => s!"jpeg_quality={q} is outside the useful 1..95 range."

def Risk.line (r : Risk) : String := s!"[WARN][config] {r.text}\n"

end Settings

end Darkroom
