/-
# What the command line asks for

A command line starts with an action: to decode a shape from a document, to encode one, or to
write a command. After it come the arguments of the action, among which its options may stand
anywhere. The arguments are filled from each row of words between two options, as many at once
as the row allows; the file belongs to the same row as the kind of shape. What is left over is
an error, but only after all of the words have been looked at.

Key definitions: `Request`, `Stop`, `Action`, `Intake`, `Request.parse`.
-/
import ShapeCodec.CommandLine.Words
import ShapeCodec.Shape.Kind

namespace ShapeCodec.CommandLine

/-- What a text can be decoded as. -/
inductive Source where
  | shape (kind : ShapeKind)
  | geoJson
deriving DecidableEq

/-- The source of a name. -/
def Source.ofName? (name : String) : Option Source :=
  if name = "geojson" then some .geoJson else (ShapeKind.ofName? name).map Source.shape

/-- What a command line asks for. Without a file the document is read from standard input. -/
inductive Request where
  | decode (source : Source) (file : Option String)
  | encode (kind : ShapeKind) (geoJson : Bool) (file : Option String)
  | command (name : String) (kind : ShapeKind) (lenient : Bool) (file : Option String)
deriving DecidableEq

/-- The file that a request names. -/
def Request.file : Request → Option String
  | decode _ file => file
  | encode _ _ file => file
  | command _ _ _ file => file

/-- Why a command line asks for nothing to be converted. -/
inductive Stop where
  | usage
  | help
  | version
  /-- The words are in order, but the only one of an argument was taken for a separator. -/
  | noValue
deriving DecidableEq

/-! ### Options -/

/-- The flags of an option of one letter and of the letters attached to it, each of which must be
such an option as well. -/
def letterFlags? (options : Options) (flag : Flag) : List Char → Option (List Flag)
  | [] => some [flag]
  | c :: rest => do
    let next ← options.lookup (String.ofList ['-', c])
    let others ← letterFlags? options next rest
    return flag :: others

/-- The flags of an option with what is attached to it. No option takes a value, so that only
letters can be attached, and only to an option of one letter. -/
def optionFlags? (options : Options) (spelling : String) (flag : Flag) :
    Option (List Char) → Option (List Flag)
  | none => some [flag]
  | some attached =>
    if attached.isEmpty || startsWith spelling.toList ['-', '-'] then none
    else letterFlags? options flag attached

/-- Acts on flags in order: help and version stop, the others are kept. -/
def keepFlags (kept : List Flag) : List Flag → Except Stop (List Flag)
  | [] => .ok kept
  | .help :: _ => .error .help
  | .version :: _ => .error .version
  | flag :: rest => keepFlags (kept ++ [flag]) rest

/-- Acts on an option: the flags that are kept. -/
def takeOption (options : Options) (kept : List Flag) (spelling : String) (flag : Flag)
    (attached : Option (List Char)) : Except Stop (List Flag) :=
  match optionFlags? options spelling flag attached with
  | some flags => keepFlags kept flags
  | none => .error .usage

/-! ### Arguments -/

/-- The arguments of an action. -/
inductive Slot where
  | name
  | kind
  | file
deriving DecidableEq

/-- The actions. -/
inductive Action where
  | decode
  | encode
  | command
deriving DecidableEq

/-- The action of a name, exact in case. -/
def Action.ofName? : String → Option Action
  | "decode" => some decode
  | "encode" => some encode
  | "command" => some command
  | _ => none

/-- The arguments of an action, in order. -/
def Action.slots : Action → List Slot
  | decode => [.kind, .file]
  | encode => [.kind, .file]
  | command => [.name, .kind, .file]

/-- The options for help, which are understood everywhere. -/
def helpOptions : Options := [("-h", .help), ("--help", .help)]

/-- The options before the action. -/
def leadingOptions : Options := helpOptions ++ [("--version", .version)]

/-- The options of an action. -/
def Action.options : Action → Options
  | decode => helpOptions
  | encode => helpOptions ++ [("--geojson", .geoJson)]
  | command => helpOptions ++ [("--lenient", .lenient)]

/-- Whether an action can be done with the kind of a name. -/
def Action.accepts (action : Action) (kind : String) : Bool :=
  match action with
  | decode => (Source.ofName? kind).isSome
  | _ => (ShapeKind.ofName? kind).isSome

/-- What has been taken in: the arguments still to be filled, those that are, the flags, and
whether there was a word too many. -/
structure Intake where
  slots : List Slot
  values : List (Slot × String)
  flags : List Flag
  spare : Bool

/-- The words of one argument at the start of a row: a word, and the separator beside it. -/
def takeArgument : List Word → Option (List String × List Word)
  | .separator :: .plain t :: row => some (["--", t], row)
  | .plain t :: .separator :: row => some ([t, "--"], row)
  | .plain t :: row => some ([t], row)
  | _ => none

/-- The value of an argument: its word, once a separator has been left out. -/
def argumentValue? (words : List String) : Option String := (words.erase "--").head?

/-- Fills an argument, if its words leave a value. A kind must be one that the action accepts. -/
def fillSlot (action : Action) (slot : Slot) (words : List String) :
    Except Stop (List (Slot × String)) :=
  match argumentValue? words with
  | none => .ok []
  | some v => if slot = .kind ∧ !action.accepts v then .error .usage else .ok [(slot, v)]

/-- Fills arguments from a row of words, in order, as long as there are words for them. The file
can do without. -/
def fillSlots (action : Action) : List Slot → List (Slot × String) → List Word →
    Except Stop (List Slot × List (Slot × String) × List Word)
  | [], values, row => .ok ([], values, row)
  | slot :: slots, values, row =>
    match takeArgument row with
    | some (words, row) => do
      let value ← fillSlot action slot words
      fillSlots action slots (values ++ value) row
    | none =>
      if slot = .file then fillSlots action slots values row
      else .ok (slot :: slots, values, row)

/-- Takes in a row of words between two options. -/
def Intake.takeRow (i : Intake) (action : Action) (row : List Word) : Except Stop Intake := do
  let (slots, values, rest) ← fillSlots action i.slots i.values row
  return { i with slots := slots, values := values, spare := i.spare || !rest.isEmpty }

/-- Takes in words; `row` holds those since the last option. -/
def Intake.takeAll (i : Intake) (action : Action) (row : List Word) :
    List Word → Except Stop Intake
  | [] => i.takeRow action row
  | .option spelling flag attached :: rest => do
    let i ← i.takeRow action row
    let flags ← takeOption action.options i.flags spelling flag attached
    Intake.takeAll { i with flags := flags } action [] rest
  | .unknownOption :: rest => do
    let i ← i.takeRow action row
    Intake.takeAll { i with spare := true } action [] rest
  | word :: rest => i.takeAll action (row ++ [word]) rest

/-- Takes in the words after an action. All arguments but the file must be filled. -/
def Action.take (action : Action) (words : List String) : Except Stop Intake :=
  match classifyAll action.options words with
  | none => .error .usage
  | some words => do
    let i ← (⟨action.slots, [], [], false⟩ : Intake).takeAll action [] words
    if i.slots.isEmpty then return i else .error .usage

/-! ### Requests -/

/-- The value of an argument that has been filled. -/
def Intake.value? (i : Intake) (slot : Slot) : Option String := i.values.lookup slot

/-- The request that the words after an action make. -/
def Request.ofIntake? (action : Action) (i : Intake) : Option Request := do
  let kind ← i.value? .kind
  let file := i.value? .file
  match action with
  | .decode => return .decode (← Source.ofName? kind) file
  | .encode => return .encode (← ShapeKind.ofName? kind) (i.flags.contains .geoJson) file
  | .command =>
    let name ← i.value? .name
    return .command name (← ShapeKind.ofName? kind) (i.flags.contains .lenient) file

/-- The request of an action with its words, which is none if there was a word too many. -/
def Request.ofAction (action : Action) (spare : Bool) (words : List String) :
    Except Stop Request := do
  let i ← action.take words
  if spare || i.spare then .error .usage
  else
    match Request.ofIntake? action i with
    | some request => return request
    | none => .error .noValue

/-- The request of the words before and after the action. `spare` tells of a word too many. -/
def Request.ofWords (spare : Bool) : List (Word × String) → Except Stop Request
  | [] => .error .usage
  | (.option spelling flag attached, _) :: rest => do
    let _ ← takeOption leadingOptions [] spelling flag attached
    Request.ofWords spare rest
  | (.unknownOption, _) :: rest => Request.ofWords true rest
  | (.separator, _) :: _ => .error .usage
  | (.plain _, name) :: rest =>
    match Action.ofName? name with
    | some action => Request.ofAction action spare (rest.map Prod.snd)
    | none => .error .usage

/-- The request of a command line. -/
def Request.parse (words : List String) : Except Stop Request :=
  match classifyAll leadingOptions words with
  | none => .error .usage
  | some classified => Request.ofWords false (classified.zip words)

end ShapeCodec.CommandLine
