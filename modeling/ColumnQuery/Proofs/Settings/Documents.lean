import ColumnQuery.Proofs.Outcome
import ColumnQuery.Proofs.Text.Strip
import ColumnQuery.Settings

/-! What settings tell. A document is a tree of values, and each part of the settings is told by one place
of it or has its default. This is given here by rules, with the messages for what goes wrong, and the rules
allow exactly what settings are read as. -/
namespace ColumnQuery.Settings
open Text

/-! ## Documents -/

/-- The parts of a value that is read as a record with some names. Of an array those are the items one
after the other, and a date or a time has none. What stands in a table under other names only has to be
readable. -/
inductive Parts (names : List String) : Toml → List (String × Toml) → Prop
  | table {origin : Toml.Origin} {entries : Toml.Entries}
      (readable : ∀ entry ∈ entries, entry.1 ∉ names → entry.2.isReadable = true) :
      Parts names (.table origin entries) entries
  | array {growing : Bool} {items : List Toml} :
      Parts names (.array growing items) (names.zip items)
  | moment {text : String} : Parts names (.moment text) []

section Told

variable {α : Type}

/-- What is told by the part with a name, or the default where there is no such part. -/
inductive Told (parts : List (String × Toml)) (name : String) (absent : α) (Tells : Toml → α → Prop) :
    α → Prop
  | leftOut (missing : parts.lookup name = none) : Told parts name absent Tells absent
  | given {value : Toml} {told : α} (held : parts.lookup name = some value)
      (tells : Tells value told) : Told parts name absent Tells told

/-- What a record with some names tells by one of them. -/
inductive ToldWithin (names : List String) (name : String) (absent : α) (Tells : Toml → α → Prop) :
    Toml → α → Prop
  | record {value : Toml} {parts : List (String × Toml)} {told : α} (record : Parts names value parts)
      (tells : Told parts name absent Tells told) : ToldWithin names name absent Tells value told

end Told

/-- A number of milliseconds is a word. -/
inductive TellsMillis : Toml → UInt64 → Prop
  | integer (word : UInt64) : TellsMillis (.integer word.toNat) word

/-- A text is a string. -/
inductive TellsText : Toml → String → Prop
  | string (text : String) : TellsText (.string text) text

/-- Names are the strings of a table under their keys, of which the last one counts. A date or a time is
held under a key of its own. -/
inductive TellsNames : Toml → Keyed String → Prop
  | table {origin : Toml.Origin} (listed : List (String × String)) :
      TellsNames (.table origin (listed.map fun named => (named.1, .string named.2)))
        (Keyed.ofList listed)
  | moment (text : String) : TellsNames (.moment text) [("$__toml_private_datetime", text)]

/-- The settings that a document tells. -/
structure Tells (entries : Toml.Entries) (settings : Settings) : Prop where
  record : ∀ entry ∈ entries, entry.1 ∉ ["query", "logging", "metadata"] → entry.2.isReadable = true
  timeout : Told entries "query" 60000
    (ToldWithin ["timeout_ms"] "timeout_ms" 60000 TellsMillis) settings.timeoutMillis
  level : Told entries "logging" "info"
    (ToldWithin ["level"] "level" "info" TellsText) settings.logLevel
  tables : Told entries "metadata" []
    (ToldWithin ["tables", "fields"] "tables" [] TellsNames) settings.tables
  fields : Told entries "metadata" []
    (ToldWithin ["tables", "fields"] "fields" [] TellsNames) settings.fields

/-- How settings are read from a text, or which message tells why there are none. -/
inductive Reads (documentReason : String → String) (text : String) : Except String Settings → Prop
  | unparsable
      (none : ∀ entries settings, Toml.read? text = some entries → ¬ Tells entries settings) :
      Reads documentReason text (.error ("Failed to parse config file: " ++ documentReason text))
  | noTimeout {entries : Toml.Entries} {settings : Settings}
      (document : Toml.read? text = some entries) (tells : Tells entries settings)
      (zero : settings.timeoutMillis = 0) :
      Reads documentReason text
        (.error "Invalid configuration: query.timeout_ms must be greater than zero")
  | noLevel {entries : Toml.Entries} {settings : Settings}
      (document : Toml.read? text = some entries) (tells : Tells entries settings)
      (positive : settings.timeoutMillis ≠ 0)
      (blank : ∀ c ∈ settings.logLevel.toList, isBlank c = true) :
      Reads documentReason text (.error "Invalid configuration: logging.level must not be empty")
  | read {entries : Toml.Entries} {settings : Settings}
      (document : Toml.read? text = some entries) (tells : Tells entries settings)
      (positive : settings.timeoutMillis ≠ 0)
      (level : ∃ c ∈ settings.logLevel.toList, isBlank c = false) :
      Reads documentReason text (.ok settings)

section Rules

variable {α : Type} {names : List String} {parts : List (String × Toml)} {name : String}

variable {absent told : α} {Tells : Toml → α → Prop} {read : Toml → Option α}

end Rules

section Texts

variable {documentReason : String → String} {text : String}

end Texts

end ColumnQuery.Settings
