import ClusterArchive.Decimal.Word
import ClusterArchive.Http.Address
import ClusterArchive.Text.Utf8

/-!
# Command lines

How a command line is read: options with one value or none, some of them taken from the environment
where the line lacks them, and commands with options of their own. An option is read in two steps.
It becomes pending when it is met, and its value is looked at when the next known option or the end
of the line is reached; so an unknown argument is reported before a bad value that stands in front
of it.
-/

namespace ClusterArchive.Command

/-- Why a command line is not carried out; a request for help or the version counts as a reason. -/
inductive UsageError
  | unknownArgument
  | invalidSubcommand
  | missingSubcommand
  | invalidValue
  | valueValidation
  | argumentConflict
  | tooManyValues
  | displayHelp
  | displayVersion
  | displayHelpOnMissing
deriving DecidableEq, Repr

/-- What the value of an option has to be. -/
inductive Form
  | text
  | path
  | number
  | address
  | flag
deriving DecidableEq, Repr

/-- The value of an option. -/
inductive Setting
  | text (s : String)
  | number (n : Nat)
  | address (a : Http.Address)
  | flag (b : Bool)
deriving DecidableEq, Repr

/-- An option: its long name, its form and the variable that stands in for it. -/
structure Declared where
  name : String
  form : Form
  variable_ : String
deriving DecidableEq, Repr

/-- The number that a text stands for: digits, a plus sign being allowed in front. -/
def number? (s : String) : Option Nat :=
  let digits := match s.toList with
    | '+' :: rest => rest
    | rest => rest
  let n := Binary64.digitsValue digits
  if digits.isEmpty || !digits.all Char.isDigit || Word.count ≤ n then none else some n

/-- The value of an option, written as a text. -/
def Form.read (f : Form) (s : String) : Except UsageError Setting :=
  match f with
  | text => .ok (.text s)
  | path => if s.isEmpty then .error .invalidValue else .ok (.text s)
  | number =>
    match number? s with
    | some n => .ok (.number n)
    | none => .error .valueValidation
  | address =>
    match Http.Address.ofText? s.toList with
    | some a => .ok (.address a)
    | none => .error .valueValidation
  | flag =>
    match s with
    | "true" => .ok (.flag true)
    | "false" => .ok (.flag false)
    | _ => .error .invalidValue

/-! ### One level of a command line -/

/-- What may stand on a level: its options, the commands below it, and whether it knows its
version. -/
structure Level where
  options : List Declared
  commands : List String
  versioned : Bool

/-- The settings made so far, by the names of their options. -/
abbrev Settings := List (String × Setting)

/-- The setting of an option. -/
def Settings.get? (s : Settings) (name : String) : Option Setting :=
  (s.find? (·.1 == name)).map (·.2)

/-- An option that has been met, with its value if that has been met too. -/
structure Pending where
  option : Declared
  value : Option String

/-- How far a level has been read. -/
structure Progress where
  settings : Settings
  pending : Option Pending

namespace Progress

/-- The beginning of a level. -/
def initial : Progress := ⟨[], none⟩

/-- Makes a setting; the second one for an option is a conflict. -/
def make (p : Progress) (o : Declared) (value : Except UsageError Setting) :
    Except UsageError Progress :=
  if (p.settings.get? o.name).isSome then .error .argumentConflict
  else value.map fun v => { p with settings := p.settings ++ [(o.name, v)] }

/-- Looks at the value of the pending option, which has to have one. -/
def settle (p : Progress) : Except UsageError Progress :=
  match p.pending with
  | none => .ok p
  | some ⟨_, none⟩ => .error .invalidValue
  | some ⟨o, some s⟩ => Progress.make { p with pending := none } o (o.form.read s)

/-- Whether the pending option still lacks its value. -/
def lacksValue (p : Progress) : Bool := p.pending.any fun o => o.value.isNone

/-- Gives the pending option its value. -/
def giveValue (p : Progress) (s : String) : Progress :=
  { p with pending := p.pending.map fun o => { o with value := some s } }

/-- Reads a long option, given without its dashes, in two parts if a value is attached. -/
def long (l : Level) (p : Progress) (name : String) (attached : Option String) :
    Except UsageError Progress :=
  match l.options.find? (·.name == name) with
  | some o =>
    if o.form = .flag then
      if attached.isSome then .error .tooManyValues
      else do (← p.settle).make o (.ok (.flag true))
    else
      match attached with
      | none => do return { (← p.settle) with pending := some ⟨o, none⟩ }
      | some s => do (← p.settle).make o (o.form.read s)
  | none =>
    let special := if name = "help" then some UsageError.displayHelp
      else if name = "version" && l.versioned then some .displayVersion else none
    match special with
    | none => .error .unknownArgument
    | some e =>
      if attached.isSome then .error .tooManyValues
      else do
        let _ ← p.settle
        .error e

/-- Reads short options, given without their dash; each of them ends the reading. -/
def short (l : Level) (p : Progress) (letters : List Char) : UsageError :=
  let special := match letters with
    | 'h' :: _ => some UsageError.displayHelp
    | 'V' :: _ => if l.versioned then some .displayVersion else none
    | _ => none
  match special with
  | none => .unknownArgument
  | some e =>
    match p.settle with
    | .error f => f
    | .ok _ => e

end Progress

/-- What was found on a level: the settings with the last option still pending, and the command
below with the arguments behind it. -/
structure Found where
  progress : Progress
  command : Option (String × List String)

/-- The error for an argument that stands where none may. -/
def Level.stray (l : Level) (escaped : Bool) (argument : String) : UsageError :=
  if l.commands.isEmpty || (escaped && l.commands.contains argument) then .unknownArgument
  else .invalidSubcommand

/-- The parts of a long option before and behind its equality sign. -/
def splitLong (text : List Char) : String × Option String :=
  match text.dropWhile (· != '=') with
  | [] => (String.ofList text, none)
  | _ :: value => (String.ofList (text.takeWhile (· != '=')), some (String.ofList value))

/-- Reads the arguments of a level; behind `--` no options and commands are recognised. -/
def Level.read (l : Level) (p : Progress) : List String → Except UsageError Found
  | [] => .ok ⟨p, none⟩
  | argument :: rest =>
    if !p.lacksValue && l.commands.contains argument then .ok ⟨p, some (argument, rest)⟩
    else
      match argument.toList with
      | ['-', '-'] =>
        match rest with
        | [] => .ok ⟨p, none⟩
        | next :: _ => .error (l.stray true next)
      | '-' :: '-' :: text =>
        let (name, attached) := splitLong text
        match p.long l name attached with
        | .error e => .error e
        | .ok p => l.read p rest
      | '-' :: c :: text => .error (p.short l (c :: text))
      | _ =>
        if p.lacksValue then l.read (p.giveValue argument) rest
        else .error (l.stray false argument)

/-! ### The environment -/

/-- Variables with their values. -/
abbrev Environment := List (String × String)

/-- Settings with those that the environment makes for options that lack one. -/
def addVariables (env : Environment) : List Declared → Settings → Except UsageError Settings
  | [], s => .ok s
  | o :: rest, s =>
    if (s.get? o.name).isSome then addVariables env rest s
    else
      match (env.find? (·.1 == o.variable_)).map (·.2) with
      | none => addVariables env rest s
      | some value =>
        match o.form.read value with
        | .error e => .error e
        | .ok v => addVariables env rest (s ++ [(o.name, v)])

end ClusterArchive.Command
