/-
# Points in documents

A point is stored as a pair `[x, y]` or as a document with exactly the fields `x` and `y`. A
ring is a row of such points. Reading stops at the first element that is no point.

Key definitions: `Point.ofPair`, `Point.ofFields`, `Point.ofNamed`, `Value.elements`,
`Point.ofRingElement`, `readRing`, `Point.pair`, `ringCoordinates`.
-/
import ShapeCodec.Fault
import ShapeCodec.Shape.Accept

namespace ShapeCodec

/-! ### Reading -/

/-- Reads a pair: a list or tuple of exactly two numbers. -/
def Point.ofPair (v : Value) : Except Fault Point :=
  match v.items? with
  | some [x, y] => (Point.ofCoordinates x y).orMalformed "point"
  | _ => .error (.malformedShape .notAPair)

/-- Reads a document of exactly the fields `x` and `y`, both numbers. -/
def Point.ofFields (fields : Document) : Except Fault Point :=
  if fields.length ≠ 2 then .error (.malformedShape .notTwoFields)
  else
    match fields.lookup "x", fields.lookup "y" with
    | some x, some y => (Point.ofCoordinates x y).orMalformed "point"
    | _, _ => .error (.malformedShape .noCoordinates)

/-- Reads a value that should be a document of exactly the fields `x` and `y`. Of anything else
that holds two things it is asked first whether it holds these two names. -/
def Point.ofNamed (v : Value) : Except Fault Point :=
  match v with
  | .document fields => Point.ofFields fields
  | v =>
    match v.members? with
    | none => .error (.noSize v.typeName)
    | some members =>
      if members.length ≠ 2 then .error (.malformedShape .notTwoFields)
      else if members.any (Value.isText "x") && members.any (Value.isText "y") then
        .error (.noNames v.typeName)
      else .error (.malformedShape .noCoordinates)

/-- What a value yields one by one, or the fault that it yields nothing. -/
def Value.elements (v : Value) : Except Fault (List Value) :=
  match v.elements? with
  | some elements => .ok elements
  | none => .error (.noElements v.typeName)

/-- Reads an element of a ring, in either form. -/
def Point.ofRingElement : Value → Except Fault Point
  | .null => .error (.malformedShape .nullElement)
  | .document fields => Point.ofFields fields
  | v => Point.ofPair v

/-- Reads the points of a ring in order, as far as the first fault. -/
def readRing : List Value → Except Fault (List Point)
  | [] => .ok []
  | v :: rest => do
    let p ← Point.ofRingElement v
    let points ← readRing rest
    return p :: points

/-! ### Writing -/

/-- A point as a pair. -/
def Point.pair (p : Point) : Value := .list [.float p.x, .float p.y]

/-- The coordinates of a GeoJSON polygon with a single ring. -/
def ringCoordinates (points : List Point) : Value := .list [.list (points.map Point.pair)]

end ShapeCodec
