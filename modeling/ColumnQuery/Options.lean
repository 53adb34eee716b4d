import ColumnQuery.Json.Basic

/-! Options that travel with a produced query to whatever runs it. Setting an option keeps all others,
and the timeout is one of them. -/
namespace ColumnQuery

/-- A length of time in nanoseconds. -/
structure Duration where
  nanos : Nat
deriving DecidableEq

namespace Duration

/-- Whole seconds with nanoseconds. -/
def ofSeconds (seconds nanos : Nat) : Duration :=
  ⟨seconds * 1000000000 + nanos⟩

/-- Whole milliseconds. -/
def ofMillis (millis : UInt64) : Duration :=
  ⟨millis.toNat * 1000000⟩

/-- The whole milliseconds in it, or as many as a word can count. -/
def millis (d : Duration) : UInt64 :=
  UInt64.ofNat (min (d.nanos / 1000000) (UInt64.size - 1))

end Duration

/-- Options by their keys. -/
structure Options where
  entries : Keyed Json := []

namespace Options

/-- The key of the timeout. -/
def timeoutKey : String :=
  "timeout"

/-- Sets an option and keeps all others. -/
def insert (options : Options) (key : String) (value : Json) : Options :=
  ⟨Keyed.insert key value options.entries⟩

/-- The option under a key. -/
def get? (options : Options) (key : String) : Option Json :=
  Keyed.find? options.entries key

/-- Sets the timeout, in milliseconds. -/
def withTimeout (options : Options) (timeout : Duration) : Options :=
  options.insert timeoutKey (Json.ofWord timeout.millis)

/-- Sets the timeout, if there is one to set. -/
def withTimeout? (options : Options) (timeout : Option Duration) : Options :=
  match timeout with
  | none => options
  | some timeout => options.withTimeout timeout

/-- The timeout, where one is set as a number of milliseconds. -/
def timeout? (options : Options) : Option Duration :=
  ((options.get? timeoutKey).bind Json.word?).map Duration.ofMillis

/-- The number of options. -/
def size (options : Options) : Nat :=
  options.entries.length

/-- Whether no option is set. -/
def isEmpty (options : Options) : Bool :=
  options.entries.isEmpty

/-- The options as a JSON object. -/
def toJson (options : Options) : Json :=
  .object options.entries

/-- The options as the last member of an object, left out when none is set. -/
def member (options : Options) : List (String × Json) :=
  if options.isEmpty then [] else [("options", options.toJson)]

end Options

end ColumnQuery
