import ColumnQuery.CommandLine.Arguments
import ColumnQuery.Files
import ColumnQuery.Json.Reader
import ColumnQuery.Param.OfJson
import ColumnQuery.Query.Compile
import ColumnQuery.Settings
import ColumnQuery.Template.Substitution

/-! What a run of the program prints and ends with, as a function of the arguments, the environment
and the files, and of what other libraries decide. The settings come first, then the catalog, then the
input files, then the product. -/
namespace ColumnQuery.CommandLine

/-- The variables and the files that a run finds. -/
structure World where
  env : Environment
  files : String → FileEntry

/-- What other libraries decide about a run: in which directory users keep settings, what their readers
say of a text that is no settings document or no JSON, and in which order they visit the entries of an
unordered table. Nothing more is known of their answers. -/
structure Libraries where
  configDirectory : Option String
  documentReason : String → String
  jsonReason : String → String
  tables : Settings.Visiting
  fields : Settings.Visiting

/-- What a run prints on its two outputs and ends with. -/
structure Outcome where
  exitCode : UInt32
  stdout : String
  stderr : String
deriving DecidableEq

/-- A run that succeeds and prints one text. -/
def Outcome.success (text : String) : Outcome :=
  ⟨0, text ++ "\n", ""⟩

/-- A run that fails and prints why. -/
def Outcome.failure (text : String) : Outcome :=
  ⟨1, "", text ++ "\n"⟩

/-- The variable that names a settings file. -/
def configVariable : String :=
  "MBQL_PQL_CONFIG"

/-- The settings file of a working directory. -/
def localConfig : String :=
  "mbql-pql.toml"

/-- A path below a directory. -/
def below (directory path : String) : String :=
  if directory = "" ∨ directory.endsWith "/" then directory ++ path else directory ++ "/" ++ path

/-- The settings file of a user. -/
def userConfig? (libraries : Libraries) : Option String :=
  libraries.configDirectory.map fun directory => below directory "mbql-pql/config.toml"

/-- The settings in a file. -/
def settingsFrom (world : World) (path : String) : Except SettingsError Settings :=
  if (world.files path).exists? then
    match (world.files path).text with
    | .ok text => Settings.ofText text
    | .error fault => .error (.unreadable fault.message)
  else .error (.fileNotFound path)

/-- The settings file that counts, if any: the one that is asked for by option or by variable, even if
there is none there, and else the first of the usual ones that is there. -/
def settingsPath? (libraries : Libraries) (world : World) (config : Option String) : Option String :=
  match config, world.env configVariable with
  | some path, _ => some path
  | none, some path => some path
  | none, none =>
    if (world.files localConfig).exists? then some localConfig
    else (userConfig? libraries).filter fun path => (world.files path).exists?

/-- The settings of a run. -/
def loadSettings (libraries : Libraries) (world : World) (config : Option String) :
    Except SettingsError Settings :=
  match settingsPath? libraries world config with
  | some path => settingsFrom world path
  | none => .ok {}

/-- Why a run fails. -/
inductive RunError
  | settings (cause : SettingsError)
  | catalog (cause : SettingsError)
  | file (path : String) (cause : ReadFault)
  | json (path text : String)
  | params (cause : ParamError)
  | compilation (cause : CompileError)
  | substitution (cause : SubstitutionError)

/-- What is printed when a run fails. -/
def RunError.message (libraries : Libraries) : RunError → String
  | .settings cause => "Error loading settings: " ++ cause.message libraries.documentReason
  | .catalog cause => "Error in metadata settings: " ++ cause.message libraries.documentReason
  | .file path cause => "Error reading file '" ++ path ++ "': " ++ cause.message
  | .json path text => "Invalid JSON in '" ++ path ++ "': " ++ libraries.jsonReason text
  | .params cause => "Error in parameters: " ++ cause.message
  | .compilation cause => "Compilation error: " ++ cause.message
  | .substitution cause => "Substitution error: " ++ cause.message

/-- The text of a file. -/
def readText (world : World) (path : String) : Except RunError String :=
  (world.files path).text.mapError (.file path)

/-- The JSON value in a file. -/
def readJson (world : World) (path : String) : Except RunError Json := do
  let text ← readText world path
  match Json.read? text with
  | some value => .ok value
  | none => .error (.json path text)

/-- The parameters in a file; none without a file. -/
def readParams (world : World) : Option String → Except RunError Params
  | none => .ok []
  | some path => do
    let value ← readJson world path
    (Params.ofJson value).mapError .params

/-- The statement of a result and the whole of it. -/
structure Product where
  sql : String
  whole : Json

/-- What a command produces from its files, with a catalog of names and a timeout. -/
def produce (world : World) (command : Command) (catalog : Catalog) (timeout : Duration) :
    Except RunError Product :=
  match command.action with
  | .compile => do
    let query ← readJson world command.file
    let native ←
      ((Query.compileJson query (some timeout)).run catalog.metadata).result.mapError .compilation
    return ⟨native.statement.sql, native.toJson⟩
  | .substitute paramsFile => do
    let template ← readText world command.file
    let params ← readParams world paramsFile
    let query ←
      ((Template.substituteText template params (some timeout)).run catalog.metadata).result.mapError
        .substitution
    return ⟨query.text, query.toJson⟩

/-- Everything that a command does, from its settings to its product. -/
def execute (libraries : Libraries) (world : World) (command : Command) :
    Except RunError Product := do
  let settings ← (loadSettings libraries world command.config).mapError .settings
  let catalog ←
    (settings.catalog world.env libraries.tables libraries.fields).mapError .catalog
  produce world command catalog settings.timeout

/-- What is printed of a product. -/
def Product.text (product : Product) : OutputFormat → String
  | .sql => product.sql
  | .json => product.whole.pretty

/-- What a command prints and ends with. -/
def perform (libraries : Libraries) (world : World) (command : Command) : Outcome :=
  match execute libraries world command with
  | .ok product => .success (product.text command.output)
  | .error error => .failure (error.message libraries)

/-- The name and the version of the program. -/
def versionText : String :=
  "mbql-pql 0.1.0"

/-- How the program is used. -/
def usageText : String :=
  "Usage: mbql-pql [--config FILE] compile FILE [--output sql|json]\n" ++
    "       mbql-pql [--config FILE] substitute FILE [--params FILE] [--output sql|json]"

/-- The directory in which users keep settings: the one that a variable names by an absolute path, or
else one in the home directory, which is that of the account where no variable names it. -/
def configDirectory? (env : Environment) (accountHome : Option String) : Option String :=
  let named := (env "XDG_CONFIG_HOME").filter (·.startsWith "/")
  let home := ((env "HOME").filter (· ≠ "")).or accountHome
  named.or (home.map fun home => below home ".config")

/-- The libraries of the program as it is built here. Its readers give no reasons, tables are kept in the
order of their keys, and accounts are not looked up. -/
def Libraries.builtIn (env : Environment) : Libraries where
  configDirectory := configDirectory? env none
  documentReason := fun _ => "not a settings document"
  jsonReason := fun _ => "not a JSON text"
  tables := .inKeyOrder
  fields := .inKeyOrder

/-- One run of the program. -/
def run (world : World) (arguments : List String) (libraries : Libraries := .builtIn world.env) :
    Outcome :=
  match request? arguments with
  | none => ⟨2, "", usageText ++ "\n"⟩
  | some .version => .success versionText
  | some .help => .success usageText
  | some (.command command) => perform libraries world command

/-- The files that a command may look at, whatever it finds there. -/
def Command.paths (command : Command) (env : Environment) : List String :=
  command.config.toList ++ (env configVariable).toList ++ [localConfig] ++
    (userConfig? (.builtIn env)).toList ++ [command.file] ++
    match command.action with
    | .compile => []
    | .substitute params => params.toList

/-- The variables that are looked at before any file is. -/
def fixedVariables : List String :=
  [configVariable, "XDG_CONFIG_HOME", "HOME"]

/-- The variables that a command looks at because its settings refer to them. -/
def Command.neededVariables (command : Command) (world : World) : List String :=
  match loadSettings (.builtIn world.env) world command.config with
  | .ok settings => settings.neededVariables
  | .error _ => []

end ColumnQuery.CommandLine
