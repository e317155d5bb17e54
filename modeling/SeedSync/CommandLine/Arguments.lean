import SeedSync.Invocation.Run

/-!
The arguments of the command line. Options and the control file's URI come in any order; an option
that takes a value takes it from its own word or from the next. An option's value is looked at when
the next option or URI begins, so an unknown option that follows is reported first.
-/

namespace SeedSync

/-- Why the arguments ask for no invocation. -/
inductive UsageStop
  | helpAsked
  | versionAsked
  | unknownArgument
  | missingUri
  | missingValue
  | badValue
  /-- Two options that exclude each other, or one that may come once only. -/
  | conflict
  /-- A value for an option that takes none. -/
  | unneededValue
  deriving DecidableEq, Repr

namespace UsageStop

def exitCode : UsageStop → Nat
  | .helpAsked | .versionAsked => 0
  | _ => 2

def message : UsageStop → String
  | .helpAsked => "help"
  | .versionAsked => "version"
  | .unknownArgument => "unknown argument"
  | .missingUri => "the control file's URI is missing"
  | .missingValue => "an option has no value"
  | .badValue => "an option has a value of the wrong form"
  | .conflict => "options exclude each other"
  | .unneededValue => "an option takes no value"

end UsageStop

inductive LogLevel
  | error
  | info
  | debug
  | trace
  deriving DecidableEq, Repr

structure Arguments where
  uri : String
  inputs : List String
  output : Option String
  url : Option Url
  auth : List (String × Credentials)
  timeout : Option Nat
  verbose : Nat
  quiet : Bool
  json : Bool
  stats : Bool
  deriving DecidableEq, Repr

namespace Arguments

/-! ### Options -/

inductive Valued
  | input
  | output
  | url
  | auth
  | timeout
  deriving DecidableEq, Repr

inductive Switch
  | verbose
  | quiet
  | json
  | stats
  | help
  | version
  deriving DecidableEq, Repr

inductive OptionKind
  | valued (v : Valued)
  | switch (s : Switch)
  deriving DecidableEq, Repr

def long? (name : String) : Option OptionKind :=
  [("input", .valued .input), ("output", .valued .output), ("url", .valued .url),
    ("auth", .valued .auth), ("timeout", .valued .timeout), ("verbose", .switch .verbose),
    ("quiet", .switch .quiet), ("json", .switch .json), ("stats", .switch .stats),
    ("help", .switch .help), ("version", OptionKind.switch .version)].lookup name

def short? (name : Char) : Option OptionKind :=
  [('i', .valued .input), ('o', .valued .output), ('u', .valued .url), ('A', .valued .auth),
    ('v', .switch .verbose), ('q', .switch .quiet), ('h', .switch .help),
    ('V', OptionKind.switch .version)].lookup name

structure Draft where
  uri : Option String
  inputs : List String
  output : Option String
  url : Option Url
  auth : List (String × Credentials)
  timeout : Option Nat
  verbose : Nat
  quiet : Bool
  json : Bool
  stats : Bool
  /-- The last option that takes a value from the next word, with its value if that is known. -/
  pending : Option (Valued × Option String)
  /-- Whether options are over. -/
  plain : Bool

namespace Draft

def empty : Draft := ⟨none, [], none, none, [], none, 0, false, false, false, none, false⟩

def path (value : String) : Except UsageStop String :=
  if value = "" then .error .missingValue else .ok value

def httpUrl (value : String) : Except UsageStop Url :=
  match Url.parse value with
  | .ok url => if url.isHttp then .ok url else .error .badValue
  | .error _ => .error .badValue

def seconds (value : String) : Except UsageStop Nat :=
  match Decimal.below? UInt64.size value.toList with
  | some n => .ok n.val
  | none => .error .badValue

def once {α : Type} (old : Option α) : Except UsageStop Unit :=
  if old.isSome then .error .conflict else .ok ()

def assign (d : Draft) (v : Valued) (value : String) : Except UsageStop Draft :=
  match v with
  | .input => do return { d with inputs := d.inputs ++ [← path value] }
  | .output => do
    once d.output
    return { d with output := some (← path value) }
  | .url => do
    once d.url
    return { d with url := some (← httpUrl value) }
  | .auth =>
    match Credentials.parseForHost value with
    | .ok entry => .ok { d with auth := d.auth ++ [entry] }
    | .error _ => .error .badValue
  | .timeout => do
    once d.timeout
    return { d with timeout := some (← seconds value) }

def settle (d : Draft) : Except UsageStop Draft :=
  match d.pending with
  | none => .ok d
  | some (_, none) => .error .missingValue
  | some (v, some value) => { d with pending := none }.assign v value

def maxVerbose : Nat := 255

def turnOn (d : Draft) : Switch → Except UsageStop Draft
  | .verbose => .ok { d with verbose := min (d.verbose + 1) maxVerbose }
  | .quiet => if d.quiet then .error .conflict else .ok { d with quiet := true }
  | .json => if d.json then .error .conflict else .ok { d with json := true }
  | .stats => if d.stats then .error .conflict else .ok { d with stats := true }
  | .help => .error .helpAsked
  | .version => .error .versionAsked

def addSwitch (d : Draft) (s : Switch) : Except UsageStop Draft := do (← d.settle).turnOn s

/-- An option with the value in its own word, if it is there. -/
def addValued (d : Draft) (v : Valued) : Option String → Except UsageStop Draft
  | some value => do (← d.settle).assign v value
  | none => do return { ← d.settle with pending := some (v, none) }

/-- The word `--name` or `--name=value`. -/
def addLong (d : Draft) (word : List Char) : Except UsageStop Draft :=
  let (name, value) := match Cut.cut? '=' word with
    | none => (word, none)
    | some (name, value) => (name, some (String.ofList value))
  match long? (String.ofList name) with
  | none => .error .unknownArgument
  | some (.valued v) => d.addValued v value
  | some (.switch s) => if value.isSome then .error .unneededValue else d.addSwitch s

/-- What stands behind a short option that takes a value. -/
def attached : List Char → Option String
  | [] => none
  | '=' :: value => some (String.ofList value)
  | value => some (String.ofList value)

/-- Short options in one word; the first that takes a value takes the rest of it. -/
def addShorts (d : Draft) : List Char → Except UsageStop Draft
  | [] => .ok d
  | c :: rest =>
    match short? c with
    | none => .error .unknownArgument
    | some (.valued v) => d.addValued v (attached rest)
    | some (.switch s) => do addShorts (← d.addSwitch s) rest

/-- A word that is no option: the URI, of which there is one. -/
def addUri (d : Draft) (word : String) : Except UsageStop Draft :=
  if d.uri.isSome then .error .unknownArgument
  else do return { ← d.settle with uri := some word }

def addPlain (d : Draft) (word : String) : Except UsageStop Draft :=
  match d.pending with
  | some (v, none) =>
    if d.plain then d.addUri word else .ok { d with pending := some (v, some word) }
  | _ => d.addUri word

def add (d : Draft) (word : String) : Except UsageStop Draft :=
  if d.plain then d.addPlain word
  else
    match word.toList with
    | ['-', '-'] => .ok { d with plain := true }
    | '-' :: '-' :: name => d.addLong name
    | '-' :: c :: rest => d.addShorts (c :: rest)
    | _ => d.addPlain word

def finish (d : Draft) : Except UsageStop Arguments := do
  let d ← d.settle
  if d.quiet ∧ d.verbose ≠ 0 then .error .conflict
  match d.uri with
  | none => .error .missingUri
  | some uri =>
    return ⟨uri, d.inputs, d.output, d.url, d.auth, d.timeout, d.verbose, d.quiet, d.json, d.stats⟩

end Draft

def parse (words : List String) : Except UsageStop Arguments := do
  (← words.foldlM Draft.add Draft.empty).finish

/-! ### What follows from them -/

def logLevel (a : Arguments) : LogLevel :=
  if a.quiet || a.json then .error
  else
    match a.verbose with
    | 0 => .info
    | 1 => .debug
    | _ => .trace

def showsProgress (a : Arguments) : Bool := !a.quiet && !a.json

/-- The settings with what the arguments say in their place. -/
def options (a : Arguments) (s : Settings) : Options where
  inputs := a.inputs
  output := a.output
  url := a.url
  credentials := a.auth.foldl (fun m (host, c) => CredentialMap.insert host c m) s.credentials
  http := { s.http with timeout := if a.timeout.isSome then a.timeout else s.http.timeout }

end Arguments

end SeedSync
