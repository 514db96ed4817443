/-
# Query commands

A query names an operator and applies it to a shape. It is written as a document whose single
field is the operator, with a list of arguments: the corners of a box, the center and the radius
in radians of a circle or sphere, the points of a polygon. No other value makes arguments. A
strict writer fails on such a value, a lenient one writes no arguments and gives notice of it.

Key definitions: `GeoCommand`, `Value.arguments?`, `Value.operator?`, `GeoCommand.forShape`,
`GeoCommand.encode`.
-/
import ShapeCodec.Notice
import ShapeCodec.Shape.Coordinates

namespace ShapeCodec

/-- A query operator applied to a shape. -/
structure GeoCommand where
  command : String
  shape : Value

/-- A command as a value. -/
def GeoCommand.toValue (c : GeoCommand) : Value := .geoCommand c.command c.shape

/-- Acceptance as the name of an operator: a text that is not empty. -/
def acceptOperator (v : Value) : Verdict String :=
  match v.text? with
  | some name => if name.isEmpty then .refuse .emptyText else .accepted name
  | none => .refuse .notAText

/-- A command of its two parts. -/
def GeoCommand.ofParts (name shape : Value) : Verdict GeoCommand :=
  ((acceptOperator name).within "command").map fun command => ⟨command, shape⟩

/-- Acceptance as a command. -/
def GeoCommand.accept : Value → Verdict GeoCommand
  | .geoCommand command shape => .accepted ⟨command, shape⟩
  | .document fields =>
    ((acceptField fields "command" acceptOperator).both
      (acceptField fields "shape" Verdict.accepted)).map fun (command, shape) => ⟨command, shape⟩
  | _ => .refuse (.notAnInstance "GeoCommand")

/-- The operator that searches within a shape. -/
def Value.operator? : Value → Option String
  | .box _ => some "$box"
  | .circle _ => some "$center"
  | .sphere _ => some "$centerSphere"
  | .polygon _ => some "$polygon"
  | _ => none

/-- The command that searches within a shape. -/
def GeoCommand.forShape (shape : Value) : Except Fault GeoCommand :=
  match shape.operator? with
  | some command => .ok ⟨command, shape⟩
  | none => .error (.unusableArgument (.unknownShape shape.typeName))

/-- The arguments of a circle or a sphere. -/
def CenteredShape.arguments (s : CenteredShape) : List Value :=
  [s.center.pair, .float s.radius.normalized]

/-- The arguments that a shape makes. -/
def Value.arguments? : Value → Option (List Value)
  | .box b => some [b.first.pair, b.second.pair]
  | .circle c => some c.arguments
  | .sphere s => some s.arguments
  | .polygon p => some (p.points.map Point.pair)
  | _ => none

/-- The notice that a command is written without arguments. -/
def noArgumentsNotice (command found : String) : Notice :=
  ⟨.warning, "geo_converters.convert.command",
    "Writing " ++ command ++ " with no arguments for " ++ found⟩

/-- Writes a command, strictly or not, with the notices it gives. -/
def GeoCommand.encode (strict : Bool) (c : GeoCommand) :
    Except Fault (Document × List Notice) :=
  match c.shape.arguments? with
  | some arguments => .ok ([(c.command, .list arguments)], [])
  | none =>
    if strict then .error (.unusableArgument (.noArguments c.shape.typeName c.command))
    else .ok ([(c.command, .list [])], [noArgumentsNotice c.command c.shape.typeName])

end ShapeCodec
