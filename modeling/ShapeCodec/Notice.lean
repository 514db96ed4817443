/-
# Notices

What is reported beside a result. A notice has a level, the part of the program that gives it,
and a text. A threshold lets through the notices that are at least as severe.

Key definitions: `Level`, `Level.ofName?`, `Notice`, `Level.passes`.
-/
namespace ShapeCodec

/-- How severe a notice is. -/
inductive Level where
  | unset
  | debug
  | info
  | warning
  | error
  | critical
deriving DecidableEq

namespace Level

/-- The rank of a level among the others. -/
def severity : Level → Nat
  | unset => 0
  | debug => 10
  | info => 20
  | warning => 30
  | error => 40
  | critical => 50

/-- The name under which notices show their level. -/
def name : Level → String
  | unset => "NOTSET"
  | debug => "DEBUG"
  | info => "INFO"
  | warning => "WARNING"
  | error => "ERROR"
  | critical => "CRITICAL"

/-- The level of a name, exact in case. Two levels go by a second name. -/
def ofName? : String → Option Level
  | "NOTSET" => some unset
  | "DEBUG" => some debug
  | "INFO" => some info
  | "WARNING" => some warning
  | "WARN" => some warning
  | "ERROR" => some error
  | "CRITICAL" => some critical
  | "FATAL" => some critical
  | _ => none

end Level

/-- A report beside a result. -/
structure Notice where
  level : Level
  source : String
  text : String
deriving DecidableEq

/-- Whether a notice is shown under a threshold. -/
def Level.passes (threshold : Level) (n : Notice) : Bool :=
  threshold.severity ≤ n.level.severity

end ShapeCodec
