import CaptureFlow.Command.Options

/-!
# Arguments of the command

Arguments are read from left to right. An option whose value is an argument of
its own waits for that value; values are looked at when the next option or file
is met, so an unknown option behind a bad value is what gets reported.
-/

namespace CaptureFlow.Command

/-- Why arguments are not accepted, or what they ask for instead of a run. -/
inductive UsageError where
  /-- No file is given. -/
  | missingFile
  /-- An option is not known, or a second file is given. -/
  | unknownArgument
  /-- A value is missing, empty or none of those possible. -/
  | invalidValue
  /-- A value is no number in range. -/
  | badNumber
  /-- An option is given twice. -/
  | repeated
  /-- An option without a value is given one. -/
  | unexpectedValue
  /-- The help text is asked for. -/
  | help
  /-- The version is asked for. -/
  | version
  deriving DecidableEq, Repr

/-- The options without a value. -/
inductive Flag where
  /-- Leaves the listing out. -/
  | quiet
  /-- Prints the IP flows. -/
  | flows
  /-- Prints the TCP flows. -/
  | tcp
  /-- Prints the HTTP exchanges. -/
  | http
  /-- Prints filter expressions. -/
  | filters
  /-- Decodes cut frames. -/
  | allowTruncated
  /-- Logs more; it may be repeated. -/
  | verbose
  /-- Asks for the help text. -/
  | help
  /-- Asks for the version. -/
  | version
  deriving DecidableEq, Repr

/-- The arguments with a value. -/
inductive Setting where
  /-- The input. -/
  | file
  /-- The format of the listing. -/
  | format
  /-- The number of frames. -/
  | count
  /-- The port of the servers. -/
  | serverPort
  /-- The archive to write. -/
  | write
  /-- The notes for the archive. -/
  | notes
  /-- The flow to dump. -/
  | dump
  deriving DecidableEq, Repr

/-- Any option. -/
inductive Switch where
  /-- One without a value. -/
  | flag (flag : Flag)
  /-- One with a value. -/
  | setting (setting : Setting)
  deriving DecidableEq, Repr

/-- The options by their long names. -/
def longNames : List (String × Switch) :=
  [("format", .setting .format), ("quiet", .flag .quiet), ("flows", .flag .flows),
    ("tcp", .flag .tcp), ("http", .flag .http), ("filters", .flag .filters),
    ("server-port", .setting .serverPort), ("allow-truncated", .flag .allowTruncated),
    ("notes", .setting .notes), ("dump", .setting .dump), ("verbose", .flag .verbose),
    ("help", .flag .help), ("version", .flag .version)]

/-- The options by their letters. -/
def shortNames : List (Char × Switch) :=
  [('q', .flag .quiet), ('c', .setting .count), ('w', .setting .write), ('v', .flag .verbose),
    ('h', .flag .help), ('V', .flag .version)]

/-- A text that must not be empty. -/
def nonEmpty (value : String) : Except UsageError String :=
  if value.isEmpty then .error .invalidValue else .ok value

/-- A number below a limit. -/
def boundedNumber (limit : Nat) (value : String) : Except UsageError Nat :=
  match Numeral.unsigned? limit value.toList with
  | some n => .ok n
  | none => .error .badNumber

/-- The number of a port, in front of which a sign may stand. -/
def portNumber (value : String) : Except UsageError UInt16 :=
  match Numeral.signed? value.toList with
  | some n =>
    if 0 ≤ n ∧ n < UInt16.size then .ok (UInt16.ofNat n.toNat) else .error .badNumber
  | none => .error .badNumber

/-- The options with a value set. -/
def Setting.set (options : Options) (value : String) : Setting → Except UsageError Options
  | file => do .ok { options with file := ← nonEmpty value }
  | format =>
    match Listing.ofName? value with
    | some listing => .ok { options with format := listing }
    | none => .error .invalidValue
  | count => do .ok { options with count := some (← boundedNumber UInt64.size value) }
  | serverPort => do .ok { options with serverPort := ← portNumber value }
  | write => do .ok { options with write := some (← nonEmpty value) }
  | notes => .ok { options with notes := value }
  | dump => .ok { options with dump := some value }

/-- The options with a flag raised. -/
def Flag.raise (options : Options) : Flag → Except UsageError Options
  | quiet => .ok { options with quiet := true }
  | flows => .ok { options with flows := true }
  | tcp => .ok { options with tcp := true }
  | http => .ok { options with http := true }
  | filters => .ok { options with filters := true }
  | allowTruncated => .ok { options with allowTruncated := true }
  | verbose => .ok { options with
      verbose := UInt8.ofNat (min (options.verbose.toNat + 1) 255) }
  | help => .error .help
  | version => .error .version

/-- The arguments read so far. -/
structure Parse where
  /-- The options that are set. -/
  options : Options := {}
  /-- The options met, those that may be repeated apart. -/
  met : List Switch := []
  /-- The setting not yet looked at, with its value if that is there. -/
  pending : Option (Setting × Option String) := none
  /-- Whether a file was given. -/
  hasFile : Bool := false
  /-- Whether all further arguments are files. -/
  filesOnly : Bool := false

namespace Parse

/-- Notes that an option was met, which must be the first time. -/
def meet (parse : Parse) (switch : Switch) : Except UsageError Parse :=
  if switch = .flag .verbose then .ok parse
  else if switch ∈ parse.met then .error .repeated
  else .ok { parse with met := switch :: parse.met }

/-- Gives a setting its value. -/
def assign (parse : Parse) (setting : Setting) (value : String) : Except UsageError Parse := do
  let parse ← parse.meet (.setting setting)
  .ok { parse with options := ← setting.set parse.options value }

/-- Looks at the setting that is pending. -/
def settle (parse : Parse) : Except UsageError Parse :=
  match parse.pending with
  | none => .ok parse
  | some (_, none) => .error .invalidValue
  | some (setting, some value) => { parse with pending := none }.assign setting value

/-- Raises a flag. -/
def raise (parse : Parse) (flag : Flag) : Except UsageError Parse := do
  let parse ← parse.settle
  let parse ← parse.meet (.flag flag)
  .ok { parse with options := ← flag.raise parse.options }

/-- Starts a setting, whose value may be attached. -/
def start (parse : Parse) (setting : Setting) (attached : Option String) :
    Except UsageError Parse := do
  let parse ← parse.settle
  match attached with
  | some value => parse.assign setting value
  | none => .ok { parse with pending := some (setting, none) }

/-- Reads a file. -/
def file (parse : Parse) (argument : String) : Except UsageError Parse := do
  if parse.hasFile then .error .unknownArgument
  else
    let parse ← parse.settle
    .ok { parse with pending := some (.file, some argument), hasFile := true }

/-- Reads an option by its long name. -/
def long (parse : Parse) (argument : List Char) : Except UsageError Parse :=
  let name := argument.takeWhile (· != '=')
  let attached := match argument.drop name.length with
    | [] => none
    | _ :: value => some (String.ofList value)
  match longNames.lookup (String.ofList name) with
  | none => .error .unknownArgument
  | some (.setting setting) => parse.start setting attached
  | some (.flag flag) => if attached.isSome then .error .unexpectedValue else parse.raise flag

/-- Reads options by their letters; the value of a setting may be attached. -/
def letters (parse : Parse) : List Char → Except UsageError Parse
  | [] => .ok parse
  | letter :: rest =>
    match shortNames.lookup letter with
    | none => .error .unknownArgument
    | some (.setting setting) =>
      parse.start setting (match rest with
        | [] => none
        | '=' :: value => some (String.ofList value)
        | value => some (String.ofList value))
    | some (.flag flag) => do
      let parse ← parse.raise flag
      parse.letters rest

/-- Reads an argument. -/
def step (parse : Parse) (argument : String) : Except UsageError Parse :=
  if parse.filesOnly then parse.file argument
  else match argument.toList with
    | ['-', '-'] => .ok { parse with filesOnly := true }
    | '-' :: '-' :: rest => parse.long rest
    | '-' :: letter :: rest => parse.letters (letter :: rest)
    | _ =>
      match parse.pending with
      | some (setting, none) => .ok { parse with pending := some (setting, some argument) }
      | _ => parse.file argument

end Parse

/-- The options that arguments ask for. -/
def Options.ofArguments (arguments : List String) : Except UsageError Options := do
  let parse ← arguments.foldlM Parse.step {}
  let parse ← parse.settle
  if parse.hasFile then .ok parse.options else .error .missingFile

end CaptureFlow.Command
