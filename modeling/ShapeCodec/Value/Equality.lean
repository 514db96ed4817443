/-
# Equality of values

When two values count as the same. Numbers compare by value across their kinds, truth values
being one and zero, and without rounding. A metric is the same as the text of its
name. A list is not a tuple. Documents compare without regard to the order of their fields.
Shapes compare as shapes of one class; shapes of two classes differ. Two objects of other classes
are never the same.

Key definitions: `Value.equal`.
-/
import ShapeCodec.Value
import ShapeCodec.Number.Binary

namespace ShapeCodec

namespace Value

/-- Whether two values without parts are equal. -/
def equalScalars : Value → Value → Bool
  | null, null => true
  | text s, text t => s == t
  | text s, metric n => s == n.name
  | metric m, text t => m.name == t
  | metric m, metric n => m == n
  | bool a, bool b => a == b
  | bool a, int n => (a.toInt : Int) == n
  | bool a, float x => floatEqInt x a.toInt
  | int n, bool b => n == b.toInt
  | int m, int n => m == n
  | int n, float x => floatEqInt x n
  | float x, bool b => floatEqInt x b.toInt
  | float x, int n => floatEqInt x n
  | float x, float y => x == y
  | point p, point q => p == q
  | box a, box b => a == b
  | distance d, distance e => d == e
  | circle c, circle d => c == d
  | sphere s, sphere t => s == t
  | polygon p, polygon q => p == q
  | _, _ => false

mutual

/-- Whether two values are equal. -/
def equal : Value → Value → Bool
  | list a, list b => equalItems a b
  | tuple a, tuple b => equalItems a b
  | document a, document b => a.length == b.length && equalFields a b
  | geoJson a, geoJson b => equal a b
  | geoCommand a v, geoCommand b w => a == b && equal v w
  | v, w => equalScalars v w

/-- Whether two rows of values are equal, item by item. -/
def equalItems : List Value → List Value → Bool
  | [], [] => true
  | v :: vs, w :: ws => equal v w && equalItems vs ws
  | _, _ => false

/-- Whether every field of the first document is, with an equal value, one of the second. -/
def equalFields : List (String × Value) → List (String × Value) → Bool
  | [], _ => true
  | (name, v) :: rest, other =>
    (match other.lookup name with
      | some w => equal v w
      | none => false) && equalFields rest other

end

end Value

end ShapeCodec
