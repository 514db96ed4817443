/-
# Paths into values

A path leads into a value step by step: by the name of a field or an attribute, or by a position
in a list or tuple, counted from the end if it is negative. What a path leads to can be looked
up, and in documents and lists it can be replaced or removed.

Key definitions: `Step`, `Value.attribute?`, `Value.follow?`, `Value.putAt?`, `Value.removeAt?`.
-/
import ShapeCodec.GeoJson.Writer

namespace ShapeCodec

/-- One step into a value. -/
inductive Step where
  | name (text : String)
  | position (index : Int)

/-- A position among so many items, counted from the end if it is negative. -/
def positionAmong? (count : Nat) (index : Int) : Option Nat :=
  let place := if index < 0 then index + count else index
  if 0 ≤ place ∧ place < count then some place.toNat else none

/-- Replaces an item where it stands. -/
def putItem? (index : Int) (v : Value) (items : List Value) : Option (List Value) :=
  (positionAmong? items.length index).map fun i => items.set i v

/-- Removes an item. -/
def removeItem? (index : Int) (items : List Value) : Option (List Value) :=
  (positionAmong? items.length index).map fun i => items.eraseIdx i

/-- Removes the field of a name. -/
def removeField (name : String) (fields : Document) : Document :=
  fields.filter fun field => field.1 != name

/-- The attribute of a metric of a name. -/
def Metric.attribute? (m : Metric) : String → Option Value
  | "name" => some (.text m.name)
  | "value" => some (.text m.name)
  | "multiplier" => some (.float m.multiplier)
  | "abbreviation" => some (.text m.abbreviation)
  | _ => none

namespace Value

/-- The item at a position. -/
def item? (v : Value) (index : Int) : Option Value := do
  let items ← v.items?
  let i ← positionAmong? items.length index
  items[i]?

/-- The attribute of a name, or the field of a document. The type of a GeoJSON geometry is
worked out when it is asked for, which can fail. -/
def attribute? (v : Value) (name : String) : Option (Except Fault Value) :=
  match v, name with
  | document fields, name => (fields.lookup name).map .ok
  | foreign _ attributes, name => (attributes.lookup name).map .ok
  | point p, "x" => some (.ok (float p.x))
  | point p, "y" => some (.ok (float p.y))
  | box b, "first" => some (.ok (point b.first))
  | box b, "second" => some (.ok (point b.second))
  | distance d, "value" => some (.ok (float d.value))
  | distance d, "metric" => some (.ok (metric d.metric))
  | distance d, "normalized_value" => some (.ok (float d.normalized))
  | circle c, "center" => some (.ok (point c.center))
  | circle c, "radius" => some (.ok (distance c.radius))
  | sphere s, "center" => some (.ok (point s.center))
  | sphere s, "radius" => some (.ok (distance s.radius))
  | polygon p, "points" => some (.ok (tuple (p.points.map point)))
  | geoJson geometry, "geometry" => some (.ok geometry)
  | geoJson geometry, "type" => some (geometry.geoJsonType.map text)
  | geoCommand command _, "command" => some (.ok (text command))
  | geoCommand _ shape, "shape" => some (.ok shape)
  | metric m, name => (m.attribute? name).map .ok
  | _, _ => none

/-- What one step leads to. -/
def step? (v : Value) : Step → Option (Except Fault Value)
  | .name name => v.attribute? name
  | .position index => (v.item? index).map .ok

/-- What a path leads to: nothing where there is no such part, a fault where the part cannot be
worked out. -/
def follow? (v : Value) : List Step → Option (Except Fault Value)
  | [] => some (.ok v)
  | s :: rest =>
    match v.step? s with
    | some (.ok part) => follow? part rest
    | other => other

/-- The value with a step's target exchanged for another value. -/
def putStep? (v : Value) (s : Step) (part : Value) : Option Value :=
  match v, s with
  | document fields, .name name => some (document (putField name part fields))
  | list items, .position index => (putItem? index part items).map list
  | tuple items, .position index => (putItem? index part items).map tuple
  | _, _ => none

/-- The value without a step's target. -/
def removeStep? (v : Value) (s : Step) : Option Value :=
  match v, s with
  | document fields, .name name => some (document (removeField name fields))
  | list items, .position index => (removeItem? index items).map list
  | tuple items, .position index => (removeItem? index items).map tuple
  | _, _ => none

/-- What one step into plain data leads to. -/
def plainStep? (v : Value) (s : Step) : Option Value :=
  match v, s with
  | document fields, .name name => fields.lookup name
  | v, .position index => v.item? index
  | _, _ => none

/-- The value with a path's target replaced, or a field added at its end. -/
def putAt? (v : Value) (new : Value) : List Step → Option Value
  | [] => some new
  | [s] => v.putStep? s new
  | s :: rest => do
    let part ← v.plainStep? s
    let part ← putAt? part new rest
    v.putStep? s part

/-- The value with a path's target removed. -/
def removeAt? (v : Value) : List Step → Option Value
  | [] => none
  | [s] => v.removeStep? s
  | s :: rest => do
    let part ← v.plainStep? s
    let part ← removeAt? part rest
    v.putStep? s part

end Value

end ShapeCodec
