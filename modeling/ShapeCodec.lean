import ShapeCodec.Main
import ShapeCodec.Value.Equality
import ShapeCodec.Value.Path
import ShapeCodec.Proofs.Double.Packing
import ShapeCodec.Proofs.Double.Rounding
import ShapeCodec.Proofs.Double.Arithmetic
import ShapeCodec.Proofs.Shape.Legacy
import ShapeCodec.Proofs.GeoJson.RoundTrip
import ShapeCodec.Proofs.Shape.Failure
import ShapeCodec.Proofs.Shape.Overflow
import ShapeCodec.Proofs.Shape.Escape
import ShapeCodec.Proofs.Double.Decimal
import ShapeCodec.Proofs.Double.Shortest
import ShapeCodec.Proofs.Json.Digits
import ShapeCodec.Proofs.Json.Numbers
import ShapeCodec.Proofs.Json.RoundTrip
import ShapeCodec.Proofs.Shape.PlainForm
import ShapeCodec.Proofs.Shape.Admission
import ShapeCodec.Proofs.CommandLine.Pipe
import ShapeCodec.Proofs.GeoJson.TypeText
import ShapeCodec.Proofs.Shape.Denotation
import ShapeCodec.Proofs.GeoJson.NormalForm
import ShapeCodec.Proofs.Shape.FaultKind
import ShapeCodec.Proofs.Shape.Production
import ShapeCodec.Proofs.CommandLine.Exit
import ShapeCodec.Proofs.Shape.Kept
import ShapeCodec.Proofs.Shape.Agreement
import ShapeCodec.Proofs.Double.Finite
import ShapeCodec.Proofs.GeoJson.Grammar
import ShapeCodec.Proofs.Value.Numbers
import ShapeCodec.Proofs.Json.Standard
import ShapeCodec.Proofs.Shape.Numbers
import ShapeCodec.Proofs.CommandLine.Standard
import ShapeCodec.Proofs.Shape.Centered
import ShapeCodec.Proofs.GeoJson.Pair
import ShapeCodec.Proofs.GeoJson.Wrapper
import ShapeCodec.Proofs.Shape.Delegation
import ShapeCodec.Proofs.Command.Strictness
import ShapeCodec.Proofs.Command.Writers
import ShapeCodec.Proofs.GeoJson.Forgetting
import ShapeCodec.Proofs.Shape.Rows
import ShapeCodec.Proofs.Shape.CircleSphere
import ShapeCodec.Proofs.Shape.NamedFields
import ShapeCodec.Proofs.Shape.EqualDocuments
import ShapeCodec.Proofs.Shape.FirstFault
