/-! The arguments of the command line: the two commands, their options, and how a list of arguments
is read from left to right. -/
namespace ColumnQuery.CommandLine

/-- What is printed: the statement alone, or the whole result as JSON. -/
inductive OutputFormat
  | sql
  | json
deriving DecidableEq

/-- What is done to a file. -/
inductive Action
  | compile
  | substitute (params : Option String)
deriving DecidableEq

/-- A command with its files. -/
structure Command where
  config : Option String
  action : Action
  file : String
  output : OutputFormat
deriving DecidableEq

/-- What the arguments ask for. -/
inductive Request
  | command (command : Command)
  | version
  | help
deriving DecidableEq

/-- The options of the command line. Two of them take no value. -/
inductive Flag
  | config
  | output
  | params
  | help
  | version
deriving DecidableEq

/-- Whether an option takes a value. -/
def Flag.takesValue : Flag → Bool
  | .config | .output | .params => true
  | .help | .version => false

/-- Where arguments are read: before a command, or after the name of one. -/
inductive Scope
  | top
  | compile
  | substitute
deriving DecidableEq

/-- Whether an option may be given in a scope. -/
def Scope.allows : Scope → Flag → Bool
  | _, .config => true
  | _, .help => true
  | .top, .version => true
  | .top, _ => false
  | _, .version => false
  | _, .output => true
  | .substitute, .params => true
  | .compile, .params => false

/-- The option with a long name. -/
def longFlag? (scope : Scope) (name : String) : Option Flag :=
  let flag : Option Flag :=
    match name with
    | "config" => some .config
    | "output" => some .output
    | "params" => some .params
    | "help" => some .help
    | "version" => some .version
    | _ => none
  flag.filter scope.allows

/-- The option with a letter. -/
def shortFlag? (scope : Scope) (letter : Char) : Option Flag :=
  let flag : Option Flag :=
    match letter with
    | 'c' => some .config
    | 'o' => some .output
    | 'p' => some .params
    | 'h' => some .help
    | 'V' => some .version
    | _ => none
  flag.filter scope.allows

/-- One thing that an argument says. An option without its value takes the next argument. -/
inductive Item
  | plain (text : String)
  | option (flag : Flag) (value : Option String)
  | unknown
deriving DecidableEq

/-- The option that an argument with two dashes gives, its value after an equals sign. -/
def longItem (scope : Scope) (body : List Char) : Item :=
  let name := String.ofList (body.takeWhile (· != '='))
  match longFlag? scope name, body.dropWhile (· != '=') with
  | none, _ => .unknown
  | some flag, [] => .option flag none
  | some flag, _ :: value => if flag.takesValue then .option flag (String.ofList value) else .unknown

/-- The option that an argument with one dash gives, its value in the same argument. The first letter
decides: an option without a value is acted on at once. -/
def shortItem (scope : Scope) (letter : Char) (rest : List Char) : Item :=
  match shortFlag? scope letter with
  | none => .unknown
  | some flag =>
    if flag.takesValue then
      match rest with
      | [] => .option flag none
      | '=' :: value => .option flag (String.ofList value)
      | value => .option flag (String.ofList value)
    else .option flag none

/-- What one argument says in a scope. -/
def item (scope : Scope) (argument : String) : Item :=
  match argument.toList with
  | '-' :: '-' :: body => longItem scope body
  | '-' :: letter :: rest => shortItem scope letter rest
  | _ => .plain argument

/-- What has been read so far. -/
structure Reading where
  scope : Scope := .top
  topConfig : Option String := none
  config : Option String := none
  output : Option OutputFormat := none
  params : Option String := none
  file : Option String := none
deriving DecidableEq

/-- An output format by its name. -/
def format? : String → Option OutputFormat
  | "sql" => some .sql
  | "json" => some .json
  | _ => none

namespace Reading

/-- Takes up the value of an option. An option is given once in a scope, and a path is not empty. -/
def setOption (r : Reading) (flag : Flag) (value : String) : Option Reading :=
  match flag with
  | .config =>
    if value.isEmpty then none
    else if r.scope = .top then
      if r.topConfig.isNone then some { r with topConfig := some value } else none
    else if r.config.isNone then some { r with config := some value } else none
  | .output =>
    match r.output, format? value with
    | none, some format => some { r with output := some format }
    | _, _ => none
  | .params =>
    if value.isEmpty ∨ r.params.isSome then none else some { r with params := some value }
  | .help => none
  | .version => none

/-- Takes up a plain argument: the name of a command, and after it the one file. -/
def setPlain (r : Reading) (literal : Bool) (text : String) : Option Reading :=
  match r.scope with
  | .top =>
    if literal then none
    else match text with
      | "compile" => some { r with scope := .compile }
      | "substitute" => some { r with scope := .substitute }
      | _ => none
  | _ => if text.isEmpty ∨ r.file.isSome then none else some { r with file := some text }

/-- The command that was read, if it is complete. The settings file that is given after the command
counts before one given in front of it. -/
def command? (r : Reading) : Option Command :=
  match r.scope, r.file with
  | .compile, some file =>
    some ⟨r.config.or r.topConfig, .compile, file, r.output.getD .sql⟩
  | .substitute, some file =>
    some ⟨r.config.or r.topConfig, .substitute r.params, file, r.output.getD .sql⟩
  | _, _ => none

/-- Takes up plain arguments only, which is what follows two dashes. -/
def takePlain (r : Reading) : List String → Option Reading
  | [] => some r
  | argument :: rest => (r.setPlain true argument).bind fun next => next.takePlain rest

/-- Takes up arguments from left to right. None when one of them cannot be used. -/
def take (r : Reading) : List String → Option Request
  | [] => r.command?.map .command
  | "--" :: rest => (r.takePlain rest).bind fun next => next.command?.map .command
  | argument :: rest =>
    match item r.scope argument with
    | .unknown => none
    | .option .help _ => some .help
    | .option .version _ => some .version
    | .option flag (some value) => (r.setOption flag value).bind fun next => next.take rest
    | .option flag none =>
      match rest with
      | [] => none
      | value :: others =>
        match item r.scope value with
        | .plain text => (r.setOption flag text).bind fun next => next.take others
        | _ => none
    | .plain "help" =>
      if r.scope = .top then some .help
      else (r.setPlain false "help").bind fun next => next.take rest
    | .plain text => (r.setPlain false text).bind fun next => next.take rest

end Reading

/-- What arguments ask for, none when they cannot be used. -/
def request? (arguments : List String) : Option Request :=
  Reading.take {} arguments

end ColumnQuery.CommandLine
