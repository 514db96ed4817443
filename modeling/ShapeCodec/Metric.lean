/-
# Metrics

A distance is measured in kilometers, in miles, or in neither. A metric's multiplier is the
radius of the earth in that metric, so that dividing by it turns a distance on the surface into
radians; the neutral metric counts radians already.

Key definitions: `Metric`, `Metric.multiplier`, `Metric.ofName?`.
-/
namespace ShapeCodec

/-- The metrics a distance can be expressed in. -/
inductive Metric where
  | kilometers
  | miles
  | neutral
deriving DecidableEq

namespace Metric

/-- The name by which documents refer to a metric. -/
def name : Metric → String
  | kilometers => "KILOMETERS"
  | miles => "MILES"
  | neutral => "NEUTRAL"

/-- The earth's mean equatorial radius in the metric. -/
def multiplier : Metric → Float
  | kilometers => 6378.137
  | miles => 3963.191
  | neutral => 1.0

/-- The unit sign. -/
def abbreviation : Metric → String
  | kilometers => "km"
  | miles => "mi"
  | neutral => ""

/-- The metric of a name. Names are exact, in case and in spaces. -/
def ofName? (text : String) : Option Metric :=
  if text = kilometers.name then some kilometers
  else if text = miles.name then some miles
  else if text = neutral.name then some neutral
  else none

theorem ofName?_name (m : Metric) : ofName? m.name = some m := by cases m <;> rfl

end Metric

end ShapeCodec
