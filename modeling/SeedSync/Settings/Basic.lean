import SeedSync.Files.Tree
import SeedSync.Settings.Toml
import SeedSync.Transfer.Client

/-!
Settings from a configuration file. Every key is optional, and unknown ones are refused, except
beside a user name and password.
-/

namespace SeedSync

structure HttpSettings where
  connectTimeout : Option Nat
  timeout : Option Nat
  userAgent : String
  deriving DecidableEq, Repr

def HttpSettings.standard : HttpSettings := ⟨some 10, some 300, "zsync/0.1.0"⟩

structure Settings where
  http : HttpSettings
  credentials : CredentialMap
  deriving DecidableEq, Repr

namespace CredentialMap

def insert (host : String) (c : Credentials) : CredentialMap → CredentialMap
  | [] => [(host, c)]
  | (h, d) :: rest => if h = host then (host, c) :: rest else (h, d) :: insert host c rest

end CredentialMap

namespace Settings

def standard : Settings := ⟨.standard, []⟩

/-! ### Reading values -/

def text? : Toml → Option String
  | .string s => some s
  | _ => none

def seconds? : Toml → Option Nat
  | .integer n => if 0 ≤ n then some n.toNat else none
  | _ => none

/-- The values of the named fields, by name in a table or by position in an array. Other names are
refused if `closed`. -/
def fields? (names : List String) (closed : Bool) : Toml → Option (List (String × Toml))
  | .table _ es =>
    if closed ∧ es.any fun e => !names.contains e.1 then none else some es
  | .array items => some (names.zip items)
  | .tables items => some (names.zip (items.reverse.map (.table ⟨false, false, false⟩)))
  | _ => none

/-- A field that may be missing, but not of the wrong type. -/
def optional? {α : Type} (read : Toml → Option α) (standard : α) (name : String)
    (fields : List (String × Toml)) : Option α :=
  match fields.lookup name with
  | none => some standard
  | some v => read v

def http? (v : Toml) : Option HttpSettings := do
  let fields ← fields? ["connect_timeout_secs", "timeout_secs", "user_agent"] true v
  let d := HttpSettings.standard
  let seconds (v : Toml) : Option (Option Nat) := (seconds? v).map some
  return {
    connectTimeout := ← optional? seconds d.connectTimeout "connect_timeout_secs" fields
    timeout := ← optional? seconds d.timeout "timeout_secs" fields
    userAgent := ← optional? text? d.userAgent "user_agent" fields }

def credentials? (v : Toml) : Option Credentials := do
  let fields ← fields? ["username", "password"] false v
  return ⟨← (fields.lookup "username").bind text?, ← (fields.lookup "password").bind text?⟩

def credentialMap? : Toml → Option CredentialMap
  | .table _ es => es.mapM fun (host, v) => (credentials? v).map fun c => (host, c)
  | _ => none

def ofEntries? (es : Toml.Entries) : Option Settings :=
  if es.any fun e => e.1 ≠ "http" ∧ e.1 ≠ "credentials" then none
  else do
    return {
      http := ← optional? http? .standard "http" es
      credentials := ← optional? credentialMap? [] "credentials" es }

/-! ### Files -/

def parse (path text : String) : Except ConfigFault Settings :=
  match (Toml.parse? text).bind ofEntries? with
  | some s => .ok s
  | none => .error (.malformed path "not a configuration in TOML")

def loadFrom (files : Tree) (path : String) : Except ConfigFault Settings :=
  match files.read path with
  | .error e => .error (.unreadable path e)
  | .ok bytes =>
    match Utf8.decode? bytes with
    | none => .error (.unreadable path .notUtf8)
    | some text => parse path text

def pathBelow (directory : String) : String :=
  (if directory = "" then "" else directory ++ "/") ++ "zsync/config.toml"

/-- Without a file, the standard settings hold. -/
def load (files : Tree) (directory : String) : Except ConfigFault Settings :=
  let path := pathBelow directory
  if files.exists? path then loadFrom files path else .ok standard

end Settings

end SeedSync
