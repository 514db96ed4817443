/-
# Faults

Why a conversion fails. A malformed shape and an unusable argument are told apart, because a
caller reacts to them differently: the first is a fault of stored data, the second of a GeoJSON
value or of what was asked for. A metric that is not known is a fault of its own. Values that
are checked on their own, outside a reader, are rejected with all complaints. A whole number can be
too large for a double, and one with still more digits is not even shown in a message. What has no
size, no elements or no names cannot be looked into at all.

Key definitions: `ShapeFault`, `ArgumentFault`, `Fault`, `digitLimit`, `Fault.message`.
-/
import ShapeCodec.Verdict

namespace ShapeCodec

/-- What is wrong with a document that should hold a shape. -/
inductive ShapeFault where
  /-- Not a document, where a shape of the given kind is read. -/
  | notADocument (kind found : String)
  | notAPair
  | notTwoFields
  | noCoordinates
  | nullElement
  /-- A part that must be there is absent or null. -/
  | nullPart (part : String)
  | pointsNotAList
  | ringTooShort
  /-- The parts are there and do not fit. -/
  | invalid (subject : String) (complaints : List Complaint)

/-- What is wrong with a GeoJSON value or with a request. -/
inductive ArgumentFault where
  | notADocument (found : String)
  | noType
  | notAPair
  | noRing
  | ringNotAList
  | invalid (subject : String) (complaints : List Complaint)
  /-- No GeoJSON type of that name is known, or none for a value of that kind. -/
  | unknownType (type : String)
  /-- No query operator is known for a value of that kind. -/
  | unknownShape (found : String)
  /-- A value of that kind makes no arguments of a command. -/
  | noArguments (found command : String)

/-- Why a conversion fails. -/
inductive Fault where
  | malformedShape (cause : ShapeFault)
  | unusableArgument (cause : ArgumentFault)
  /-- A value, as shown in messages, names no metric. -/
  | unknownMetric (shown : String)
  | rejected (complaints : List Complaint)
  | overflow
  /-- A whole number has too many digits to be shown. -/
  | tooManyDigits
  /-- A polygon without points has no ring. -/
  | emptyPolygon
  /-- An object of another class has no plain form. -/
  | noPlainForm (className : String)
  /-- A value of that kind has no size. -/
  | noSize (found : String)
  /-- A value of that kind yields nothing one by one. -/
  | noElements (found : String)
  /-- What a value of that kind holds goes by position and not by name. -/
  | noNames (found : String)

/-- The most digits with which a whole number is shown. -/
@[irreducible] def digitLimit : Nat := 4300

/-- The wording of a whole number that cannot be shown. -/
def tooManyDigitsText : String :=
  "Exceeds the limit (" ++ toString digitLimit ++ " digits) for integer string conversion; " ++
    "use sys.set_int_max_str_digits() to increase the limit"

/-- The wording of a look by name into what goes by position. -/
def noNamesText (found : String) : String :=
  if found = "str" then "string indices must be integers, not 'str'"
  else found ++ " indices must be integers or slices, not str"

/-- The complaints about the parts of a subject. -/
def invalidText (subject : String) (complaints : List Complaint) : String :=
  "Invalid " ++ subject ++ ": " ++ joined "; " (complaints.map (Complaint.writeUnder subject))

/-- The wording of a pair that is not one. -/
def pairText : String := "Point coordinates need to have x and y value"

/-- The wording of a source that is not a document. -/
def notADocumentText (kind found : String) : String :=
  "Cannot read a " ++ kind ++ " from " ++ found

/-- The wording of a malformed shape. -/
def ShapeFault.message : ShapeFault → String
  | notADocument kind found => notADocumentText kind found
  | notAPair => pairText
  | notTwoFields => "Source must contain 2 elements"
  | noCoordinates => "Source must contain x and y"
  | nullElement => "Point elements of polygon must not be null"
  | nullPart part => part ++ " must not be null"
  | pointsNotAList => "Points must be a list"
  | ringTooShort => "Box polygon must contain at least 3 points"
  | invalid subject complaints => invalidText subject complaints

/-- The wording of an unusable argument. -/
def ArgumentFault.message : ArgumentFault → String
  | notADocument found => notADocumentText "GeoJson" found
  | noType => "GeoJson needs to specify type"
  | notAPair => pairText
  | noRing => "Polygon coordinates need to contain a ring"
  | ringNotAList => "Polygon ring must be a list of points"
  | invalid subject complaints => invalidText subject complaints
  | unknownType type => "Unknown GeoJson type " ++ type
  | unknownShape found => "Unknown shape " ++ found
  | noArguments found command => "Cannot write " ++ found ++ " as " ++ command ++ " arguments"

/-- The wording of complaints about a value as a whole. -/
def complaintsText (complaints : List Complaint) : String :=
  joined "; " (complaints.map Complaint.write)

/-- The wording of a fault. -/
def Fault.message : Fault → String
  | malformedShape cause => cause.message
  | unusableArgument cause => cause.message
  | unknownMetric shown => "Unknown metric " ++ shown
  | rejected complaints => complaintsText complaints
  | overflow => "int too large to convert to float"
  | tooManyDigits => tooManyDigitsText
  | emptyPolygon => "list index out of range"
  | noPlainForm className => "Unable to serialize unknown type: " ++ className
  | noSize found => "object of type '" ++ found ++ "' has no len()"
  | noElements found => "'" ++ found ++ "' object is not iterable"
  | noNames found => noNamesText found

namespace Verdict

variable {α : Type}

/-- Fails with all complaints about a value checked on its own. -/
def orRejected : Verdict α → Except Fault α
  | accepted a => .ok a
  | refused complaints => .error (.rejected complaints)
  | overflow => .error .overflow

/-- Fails with a malformed shape where the parts of the subject do not fit. -/
def orMalformed (subject : String) : Verdict α → Except Fault α
  | accepted a => .ok a
  | refused complaints => .error (.malformedShape (.invalid subject complaints))
  | overflow => .error .overflow

/-- Fails with an unusable argument where the parts of the subject do not fit. -/
def orUnusable (subject : String) : Verdict α → Except Fault α
  | accepted a => .ok a
  | refused complaints => .error (.unusableArgument (.invalid subject complaints))
  | overflow => .error .overflow

end Verdict

end ShapeCodec
