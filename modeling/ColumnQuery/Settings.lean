import ColumnQuery.Environment
import ColumnQuery.Json.Printer
import ColumnQuery.Metadata.Catalog
import ColumnQuery.Options
import ColumnQuery.Text.Basic
import ColumnQuery.Toml.Reader

/-! Settings: the timeout of queries, how much is logged, and a catalog of names. They are written in
TOML, and everything that is left out has a default. -/
namespace ColumnQuery
open Text

/-- The settings of a run. -/
structure Settings where
  timeoutMillis : UInt64 := 60000
  logLevel : String := "info"
  tables : Keyed String := []
  fields : Keyed String := []
deriving DecidableEq

/-- What is wrong with settings that can be read. -/
inductive SettingsFault
  | noTimeout
  | noLogLevel
  | notAnId (key : String)
deriving DecidableEq

/-- The text of a fault. -/
def SettingsFault.message : SettingsFault → String
  | .noTimeout => "query.timeout_ms must be greater than zero"
  | .noLogLevel => "logging.level must not be empty"
  | .notAnId key => "metadata id '" ++ key ++ "' is not an integer"

/-- Why there are no settings, or no catalog from them. -/
inductive SettingsError
  | fileNotFound (path : String)
  | unreadable (reason : String)
  | unparsable {text : String}
  | missingVariable (name : String)
  | invalid (fault : SettingsFault)
deriving DecidableEq

/-- The text of the reason. What is wrong with a text that is no settings document is said by the reader
of such documents, in its own words. -/
def SettingsError.message (error : SettingsError)
    (documentReason : String → String := fun _ => "") : String :=
  match error with
  | .fileNotFound path => "Config file not found: " ++ path
  | .unreadable reason => "Failed to read config file: " ++ reason
  | @unparsable text => "Failed to parse config file: " ++ documentReason text
  | .missingVariable name => "Missing environment variable: " ++ name
  | .invalid fault => "Invalid configuration: " ++ fault.message

namespace Settings

/-- Entries that are read as a record with named parts. The entries under other names have to be
readable, though nothing is made of them. -/
def record? (names : List String) (entries : Toml.Entries) : Option (List (String × Toml)) :=
  if (entries.filter fun entry => entry.1 ∉ names).all (·.2.isReadable) then some entries else none

/-- The parts of a value that is read as a record: those of a table, or the items of an array one by
one, of which no more than there are names are looked at. A date or a time has no part of that
name. -/
def parts? (names : List String) : Toml → Option (List (String × Toml))
  | .table _ entries => record? names entries
  | .array _ items => some (names.zip items)
  | .moment _ => some []
  | _ => none

/-- Reads a part that may be left out. -/
def part? {α : Type} (parts : List (String × Toml)) (name : String) (absent : α)
    (read : Toml → Option α) : Option α :=
  match parts.lookup name with
  | none => some absent
  | some value => read value

/-- Reads a number of milliseconds, which fits a word. -/
def millis? : Toml → Option UInt64
  | .integer n => if 0 ≤ n ∧ n < UInt64.size then some (UInt64.ofNat n.toNat) else none
  | _ => none

/-- Reads a text. -/
def text? : Toml → Option String
  | .string s => some s
  | _ => none

/-- The name under which a date or a time is held where names are expected. -/
def momentKey : String :=
  "$__toml_private_datetime"

/-- Reads names by their ids, the ids still as texts. -/
def names? : Toml → Option (Keyed String)
  | .table _ entries =>
    (entries.mapM fun entry => (text? entry.2).map (entry.1, ·)).map Keyed.ofList
  | .moment text => some [(momentKey, text)]
  | _ => none

/-- Reads settings from the entries of a document. -/
def ofEntries? (entries : Toml.Entries) : Option Settings := do
  let default : Settings := {}
  let parts ← record? ["query", "logging", "metadata"] entries
  let timeoutMillis ← part? parts "query" default.timeoutMillis fun value => do
    part? (← parts? ["timeout_ms"] value) "timeout_ms" default.timeoutMillis millis?
  let logLevel ← part? parts "logging" default.logLevel fun value => do
    part? (← parts? ["level"] value) "level" default.logLevel text?
  let (tables, fields) ← part? parts "metadata" ([], []) fun value => do
    let parts ← parts? ["tables", "fields"] value
    return (← part? parts "tables" [] names?, ← part? parts "fields" [] names?)
  return { timeoutMillis, logLevel, tables, fields }

/-- Settings that can be worked with: with a timeout and a log level. -/
def validate (settings : Settings) : Except SettingsError Settings :=
  if settings.timeoutMillis = 0 then .error (.invalid .noTimeout)
  else if (trim settings.logLevel).isEmpty then .error (.invalid .noLogLevel)
  else .ok settings

/-- Reads settings from a text. -/
def ofText (text : String) : Except SettingsError Settings :=
  match (Toml.read? text).bind ofEntries? with
  | none => .error (@SettingsError.unparsable text)
  | some settings => settings.validate

/-- The timeout of queries. -/
def timeout (settings : Settings) : Duration :=
  Duration.ofMillis settings.timeoutMillis

/-- The number that decimal digits with a sign or without stand for, if it fits a signed word. -/
def signedWord? (cs : List Char) : Option Int64 :=
  let (negative, digits) :=
    match cs with
    | '-' :: rest => (true, rest)
    | '+' :: rest => (false, rest)
    | _ => (false, cs)
  if digits.isEmpty ∨ digits.any (!·.isDigit) then none
  else
    let magnitude := Int.ofNat (Json.decimalNumber digits)
    let value := if negative then -magnitude else magnitude
    if -0x8000000000000000 ≤ value ∧ value < 0x8000000000000000 then some (Int64.ofInt value) else none

/-- Reads an id, which may have blanks around it. -/
def id (key : String) : Except SettingsError Int64 :=
  match signedWord? (strip isBlank key.toList) with
  | some id => .ok id
  | none => .error (.invalid (.notAnId key))

/-- Reads an id and the name for it, in which variables are replaced. -/
def entry (env : Environment) (named : String × String) : Except SettingsError (Int64 × String) := do
  let id ← Settings.id named.1
  let name ← (Environment.expand env named.2).mapError .missingVariable
  return (id, name)

/-- An order in which the entries of a table without an order of its own are visited, each of them
once. -/
structure Visiting where
  visit : Keyed String → List (String × String)
  all : ∀ entries, (visit entries).Perm entries

/-- The entries in the order of their keys. -/
def Visiting.inKeyOrder : Visiting where
  visit entries := entries
  all entries := .refl entries

/-- Enters names under their ids, one after the other, up to the first that cannot be entered. -/
def enter (add : Catalog → Int64 → String → Catalog) (env : Environment) :
    List (String × String) → Catalog → Except SettingsError Catalog
  | [], catalog => .ok catalog
  | named :: rest, catalog => do
    let (id, name) ← entry env named
    enter add env rest (add catalog id name)

/-- The catalog that the settings describe. Of two names for one id the one that is visited last stays, and
of several faults the one that is visited first is reported. -/
def catalog (settings : Settings) (env : Environment) (tables : Visiting := .inKeyOrder)
    (fields : Visiting := .inKeyOrder) : Except SettingsError Catalog := do
  let named ← enter .addTable env (tables.visit settings.tables) {}
  enter .addField env (fields.visit settings.fields) named

/-- The variables that the names in the settings refer to. -/
def neededVariables (settings : Settings) : List String :=
  (settings.tables ++ settings.fields).flatMap fun named => Environment.referenced named.2.toList

/-- The settings as a JSON object. -/
def toJson (settings : Settings) : Json :=
  let names (entries : Keyed String) := Json.object (entries.map fun e => (e.1, .string e.2))
  .object
    [ ("query", .object [("timeout_ms", .ofWord settings.timeoutMillis)]),
      ("logging", .object [("level", .string settings.logLevel)]),
      ("metadata",
        .object [("tables", names settings.tables), ("fields", names settings.fields)]) ]

end Settings

end ColumnQuery
