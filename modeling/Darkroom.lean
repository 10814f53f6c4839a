import Darkroom.Admission
import Darkroom.Binary64.Basic
import Darkroom.Binary64.Text
import Darkroom.Bmp
import Darkroom.Bomb
import Darkroom.Bytes
import Darkroom.Compression.Inflate
import Darkroom.Compression.Lzw
import Darkroom.Config
import Darkroom.Container
import Darkroom.Derivation
import Darkroom.Dimensions
import Darkroom.Exif
import Darkroom.Failure
import Darkroom.Format
import Darkroom.Geometry
import Darkroom.Gif
import Darkroom.Handle
import Darkroom.Http.Address
import Darkroom.Http.Application
import Darkroom.Http.Message
import Darkroom.Http.Route
import Darkroom.Jpeg.Image
import Darkroom.Jpeg.Segments
import Darkroom.Json.Basic
import Darkroom.Json.Literal
import Darkroom.Json.Reader
import Darkroom.Json.Writer
import Darkroom.Log
import Darkroom.Log.Context
import Darkroom.Log.Hub
import Darkroom.Log.Line
import Darkroom.Orientation
import Darkroom.Png.Chunks
import Darkroom.Png.Image
import Darkroom.Png.Layout
import Darkroom.Power
import Darkroom.Proofs.Addresses
import Darkroom.Proofs.Admission
import Darkroom.Proofs.Attributes
import Darkroom.Proofs.Crop
import Darkroom.Proofs.Custody
import Darkroom.Proofs.DerivedSize
import Darkroom.Proofs.Deriving
import Darkroom.Proofs.Describing
import Darkroom.Proofs.Division
import Darkroom.Proofs.Exif
import Darkroom.Proofs.Faithful
import Darkroom.Proofs.Faults
import Darkroom.Proofs.Flattening
import Darkroom.Proofs.Framing
import Darkroom.Proofs.Fulfilment
import Darkroom.Proofs.Geometry
import Darkroom.Proofs.Grid
import Darkroom.Proofs.Handlers
import Darkroom.Proofs.Independence
import Darkroom.Proofs.Lifecycle
import Darkroom.Proofs.Lines
import Darkroom.Proofs.Memory
import Darkroom.Proofs.Metadata
import Darkroom.Proofs.Opening
import Darkroom.Proofs.Ownership
import Darkroom.Proofs.ReadingBack
import Darkroom.Proofs.Releasing
import Darkroom.Proofs.Remarks
import Darkroom.Proofs.Reopening
import Darkroom.Proofs.Requests
import Darkroom.Proofs.Resampling
import Darkroom.Proofs.Scaling
import Darkroom.Proofs.ScriptedCodec
import Darkroom.Proofs.Session
import Darkroom.Proofs.Sizes
import Darkroom.Proofs.Stamping
import Darkroom.Proofs.Storage
import Darkroom.Proofs.Symmetry
import Darkroom.Proofs.Thumbnail
import Darkroom.Proofs.Tracing
import Darkroom.Proofs.Transparency
import Darkroom.Proofs.Turning
import Darkroom.Proofs.Upload
import Darkroom.Proofs.Validating
import Darkroom.Proofs.Warnings
import Darkroom.Proofs.Work
import Darkroom.Proofs.Workshop
import Darkroom.Raster.Basic
import Darkroom.Raster.Buffer
import Darkroom.Raster.Codec
import Darkroom.Raster.Convert
import Darkroom.Raster.Encoded
import Darkroom.Raster.Grid
import Darkroom.Raster.Mode
import Darkroom.Raster.Resample
import Darkroom.ScriptedCodec
import Darkroom.Service.Bodies
import Darkroom.Service.Imaging
import Darkroom.Service.Parameters
import Darkroom.Service.Site
import Darkroom.Service.Upload
import Darkroom.Session
import Darkroom.Settings.Basic
import Darkroom.Settings.EnvFile
import Darkroom.Text.Blank
import Darkroom.Text.Number
import Darkroom.Text.Percent
import Darkroom.Text.Printable
import Darkroom.Text.Quoted
import Darkroom.Text.Template
import Darkroom.Text.Utf8
import Darkroom.Validation.Basic
import Darkroom.Validation.Scalar
import Darkroom.Work
