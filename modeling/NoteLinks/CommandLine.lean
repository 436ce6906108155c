import NoteLinks.Command
import NoteLinks.Provider.Listing

/-!
# The command line

The arguments name a command and its options. An option with a value takes it from the next
argument, unless that looks like an option, or from the same one: `--tree=demo`, `-t=demo` or
`-tdemo`. An option is given once, but those that every command knows may stand before the command
and again after it; the later one counts then. After `--` nothing is an option.
-/

namespace NoteLinks.CommandLine

/-! ### Options -/
section Options

/-- An option. -/
inductive Flag where
  | config
  | profile
  | logLevel
  | version
  | help
  | tree
  | current
  | records
  | rules
  | delimiter
  | path
  | handler
  | module
  | scope
  | clear
deriving DecidableEq, Repr

namespace Flag

def name : Flag → Text
  | config => "config"
  | profile => "profile"
  | logLevel => "log-level"
  | version => "version"
  | help => "help"
  | tree => "tree"
  | current => "current"
  | records => "records"
  | rules => "rules"
  | delimiter => "delimiter"
  | path => "path"
  | handler => "handler"
  | module => "module"
  | scope => "scope"
  | clear => "clear"

/-- The letter of an option after `-`. -/
def letter? : Flag → Option Char
  | config => some 'c'
  | profile => some 'p'
  | version => some 'V'
  | help => some 'h'
  | tree => some 't'
  | records => some 'r'
  | _ => none

def takesValue : Flag → Bool
  | version | help | clear => false
  | _ => true

/-- The value of the option is a path, which is never empty. -/
def takesPath : Flag → Bool
  | config | records | rules => true
  | _ => false

/-- The options that every command knows. -/
def general : List Flag := [config, profile, logLevel, help]

end Flag

/-- A command as it is named. -/
inductive Verb where
  | render
  | expand
  | helpUrl
  | importRules
  | providers
deriving DecidableEq, Repr

namespace Verb

def all : List Verb := [render, expand, helpUrl, importRules, providers]

def name : Verb → Text
  | render => "render"
  | expand => "expand"
  | helpUrl => "help-url"
  | importRules => "import-rules"
  | providers => "providers"

def flags : Verb → List Flag
  | render | expand => Flag.general ++ [.tree, .current, .records]
  | helpUrl => Flag.general ++ [.rules, .delimiter, .path, .handler, .module, .scope]
  | importRules => Flag.general ++ [.rules, .delimiter, .clear]
  | providers => Flag.general

def takesFile : Verb → Bool
  | render | expand | importRules => true
  | helpUrl | providers => false

end Verb

/-- The options known before the command. -/
def leadingFlags : List Flag := .version :: Flag.general

end Options

/-! ### Reading arguments -/
section Arguments

/-- Why the arguments lead to no command. -/
inductive Stop where
  /-- The name and the version of the program are asked for. -/
  | version
  /-- An explanation of the commands is asked for. -/
  | help
  /-- The arguments make no sense. -/
  | usage
deriving DecidableEq, Repr

/-- The options that were given, in their order, and the arguments that are none. -/
structure Given where
  flags : List (Flag × Text)
  files : List Text
deriving DecidableEq, Repr

namespace Given

def empty : Given := ⟨[], []⟩

def value? (g : Given) (f : Flag) : Option Text := (g.flags.find? (·.1 == f)).map (·.2)

/-- The values of an option that may be given several times. -/
def values (g : Given) (f : Flag) : List Text :=
  (g.flags.filter (·.1 == f)).map (·.2)

def addFlag (g : Given) (f : Flag) (value : Text) : Except Stop Given :=
  if f = .version then .error .version
  else if f = .help then .error .help
  else if f.takesPath ∧ value = [] then .error .usage
  else if f ≠ .scope ∧ (g.value? f).isSome then .error .usage
  else .ok { g with flags := g.flags ++ [(f, value)] }

/-- One more argument that is no option; at most `limit` of them make sense, and none is empty. -/
def addFile (limit : Nat) (g : Given) (file : Text) : Except Stop Given :=
  if file = [] ∨ limit ≤ g.files.length then .error .usage
  else .ok { g with files := g.files ++ [file] }

end Given

/-- What an argument looks like. -/
inductive Argument where
  /-- `--`. -/
  | divider
  /-- `--name` or `--name=value`. -/
  | long (name : Text) (value : Option Text)
  /-- One or more letters after `-`. -/
  | short (letters : Text)
  | plain (t : Text)
deriving DecidableEq, Repr

/-- What an argument looks like. -/
def Argument.of : Text → Argument
  | ['-', '-'] => .divider
  | '-' :: '-' :: t =>
    match Text.cutWhere? (· == '=') t with
    | none => .long t none
    | some (name, value) => .long name (some value)
  | '-' :: c :: t => .short (c :: t)
  | t => .plain t

/-- How the last option is to be understood. -/
inductive Pending where
  | nothing
  /-- The option waits for its value. -/
  | value (f : Flag)
deriving DecidableEq, Repr

/-- The options after more letters of a cluster. -/
def readLetters (known : List Flag) (g : Given) : Text → Except Stop (Given × Pending)
  | [] => .ok (g, .nothing)
  | c :: t =>
    match known.find? (·.letter? == some c) with
    | none => .error .usage
    | some f =>
      if f.takesValue then
        match t with
        | [] => .ok (g, .value f)
        | '=' :: value => (g.addFlag f value).map (·, .nothing)
        | value => (g.addFlag f value).map (·, .nothing)
      else do readLetters known (← g.addFlag f []) t

/-- The options after one more argument that looks like an option. -/
def readFlag (known : List Flag) (g : Given) : Argument → Except Stop (Given × Pending)
  | .long name value =>
    match known.find? (·.name == name), value with
    | none, _ => .error .usage
    | some f, none => if f.takesValue then .ok (g, .value f) else (g.addFlag f []).map (·, .nothing)
    | some f, some value =>
      if f.takesValue then (g.addFlag f value).map (·, .nothing) else .error .usage
  | .short letters => readLetters known g letters
  | .divider | .plain _ => .ok (g, .nothing)

/-- What arguments give, where `limit` of them may be no options. -/
def readArguments (known : List Flag) (limit : Nat) (g : Given) :
    Pending → List Text → Except Stop Given
  | .nothing, [] => .ok g
  | .value _, [] => .error .usage
  | pending, a :: as =>
    match Argument.of a, pending with
    | .plain t, .nothing => do readArguments known limit (← g.addFile limit t) .nothing as
    | .plain t, .value f => do readArguments known limit (← g.addFlag f t) .nothing as
    | _, .value _ => .error .usage
    | .divider, .nothing => as.foldlM (Given.addFile limit) g
    | argument, .nothing => do
      let (g, pending) ← readFlag known g argument
      readArguments known limit g pending as

/-- What the arguments after `help` ask for: they name one command or none. -/
def readHelp : List Text → Stop
  | [] => .help
  | [t] => if t == "help" || Verb.all.any (·.name == t) then .help else .usage
  | _ => .usage

/-- The options before the command, the command and the arguments after it. -/
def readLeading (g : Given) : Pending → List Text → Except Stop (Given × Verb × List Text)
  | _, [] => .error .usage
  | pending, a :: as =>
    match Argument.of a, pending with
    | .plain t, .nothing =>
      match Verb.all.find? (·.name == t) with
      | some verb => .ok (g, verb, as)
      | none => .error (if t = "help" then readHelp as else .usage)
    | .plain t, .value f => do readLeading (← g.addFlag f t) .nothing as
    | _, .value _ => .error .usage
    | .divider, .nothing => .error .usage
    | argument, .nothing => do
      let (g, pending) ← readFlag leadingFlags g argument
      readLeading g pending as

end Arguments

/-! ### Invocations -/
section Invocations

/-- The options of commands about a page. -/
structure PageOptions where
  input : Text
  page : Page
  records : Option Text
deriving DecidableEq, Repr

/-- A command with its options. -/
inductive Task where
  | render (options : PageOptions)
  | expand (options : PageOptions)
  | helpUrl (rules delimiter : Text) (route : Help.Route)
  | importRules (sheet rules delimiter : Text) (clear : Bool)
  | providers
deriving DecidableEq, Repr

/-- What the program is asked to do. -/
structure Invocation where
  /-- The file with the settings. -/
  config : Option Text
  profile : Text
  task : Task
deriving DecidableEq, Repr

/-- The options of a command about a page. -/
def pageOptions (g : Given) : PageOptions where
  input := g.files.head?.getD "-"
  page := ⟨(g.value? .tree).getD "tree1", g.value? .current⟩
  records := g.value? .records

/-- The value of an option that must be given. -/
def required (g : Given) (f : Flag) : Except Stop Text :=
  match g.value? f with
  | some t => .ok t
  | none => .error .usage

/-- The command with its options. -/
def readTask (verb : Verb) (g : Given) : Except Stop Task :=
  match verb with
  | .render => .ok (.render (pageOptions g))
  | .expand => .ok (.expand (pageOptions g))
  | .helpUrl => do
    let rules ← required g .rules
    let path ← required g .path
    .ok
      (.helpUrl rules ((g.value? .delimiter).getD ",")
        ⟨path, (g.value? .handler).getD [], g.values .scope, g.value? .module⟩)
  | .importRules => do
    let rules ← required g .rules
    match g.files with
    | sheet :: _ =>
      .ok (.importRules sheet rules ((g.value? .delimiter).getD ",") (g.value? .clear).isSome)
    | [] => .error .usage
  | .providers => .ok .providers

/-- What the arguments ask for. The file that the environment names for the settings counts where
none is given; its path is not empty. -/
def read (configVariable : Option Text) (arguments : List Text) : Except Stop Invocation := do
  let (before, verb, rest) ← readLeading .empty .nothing arguments
  let after ← readArguments verb.flags verb.takesFile.toNat .empty .nothing rest
  let task ← readTask verb after
  if configVariable = some [] ∧ none ∈ [before.value? .config, after.value? .config] then
    .error .usage
  else
    .ok
      { config := after.value? .config <|> before.value? .config <|> configVariable
        profile := (after.value? .profile <|> before.value? .profile).getD "production"
        task := task }

end Invocations

/-! ### Running -/
section Running

/-- What the program leaves behind. -/
structure Outcome where
  exitCode : Nat
  output : Text
  errors : Text
  files : FileSystem
deriving DecidableEq, Repr

def versionLine : Text := "treemark 0.4.2\n"

/-- How the program is used. -/
def usageText : Text :=
  "Usage: treemark [OPTIONS] <COMMAND>\n\n" ++
    "Commands:\n" ++
    "  render        Render annotated Markdown to HTML\n" ++
    "  expand        Expand annotated links in HTML\n" ++
    "  help-url      Print the help URL for a route\n" ++
    "  import-rules  Import help rules from delimited text\n" ++
    "  providers     List link providers with examples\n"

def isStandardInput (path : Text) : Bool :=
  match FileSystem.names path with
  | ['-'] :: names => names.all fun n => n == [] || n == ['.']
  | _ => false

/-- The text that a command is about. -/
def readInput (fs : FileSystem) (stdin : Utf8.Bytes) (path : Text) : Except CommandFault Text :=
  if isStandardInput path then
    match Utf8.decode? stdin with
    | some t => .ok t
    | none => .error (.standardInput .invalidText)
  else (fs.readText path).mapError (.input path)

/-- The line that tells what an import did. -/
def importLine (rules : Text) (summary : Help.ImportSummary) : Text :=
  "Imported " ++ Decimal.write summary.imported ++ " rules into " ++ rules ++
    (if summary.cleared then (" (cleared first)" : Text) else []) ++ "\n"

/-- What a command prints, and the files after it. -/
def perform (registry : MimeRegistry) (fs : FileSystem) (stdin : Utf8.Bytes) (settings : Settings) :
    Task → Except CommandFault (Text × FileSystem)
  | .render o => do
    let store ← Command.loadRecords fs o.records
    let note ← readInput fs stdin o.input
    .ok (Command.render registry fs settings store o.page note, fs)
  | .expand o => do
    let store ←
      match o.records with
      | none => .ok none
      | some path => (Command.loadRecords fs (some path)).map some
    let html ← readInput fs stdin o.input
    .ok (Command.expand settings store o.page html, fs)
  | .helpUrl rules delimiter route => do
    let delimiter ← (Help.readDelimiter delimiter).mapError .failure
    .ok (Command.helpUrl fs settings.help rules delimiter route ++ "\n", fs)
  | .importRules sheet rules delimiter clear => do
    let delimiter ← (Help.readDelimiter delimiter).mapError .failure
    let (fs, summary) ← Command.importRules fs rules sheet delimiter clear
    .ok (importLine rules summary, fs)
  | .providers => .ok (Provider.listing, fs)

def Task.paths : Task → List Text
  | .render o => o.input :: o.records.toList
  | .expand o => o.input :: o.records.toList
  | .helpUrl rules _ _ => [rules]
  | .importRules sheet rules _ _ => [sheet, rules]
  | .providers => []

def Invocation.paths (i : Invocation) : List Text := i.config.toList ++ i.task.paths

/-- The directory of the public files that an invocation may show. -/
def Invocation.sandboxRoot? (fs : FileSystem) (i : Invocation) : Option Text := do
  let profile ← (Settings.readProfile i.profile).toOption
  let settings ← (Command.loadSettings fs i.config profile).toOption
  settings.sandboxRoot

/-- What an invocation prints, and the files after it. -/
def Invocation.run (registry : MimeRegistry) (fs : FileSystem) (stdin : Utf8.Bytes)
    (i : Invocation) : Except CommandFault (Text × FileSystem) := do
  let profile ← (Settings.readProfile i.profile).mapError .failure
  let settings ← Command.loadSettings fs i.config profile
  perform registry fs stdin settings i.task

/-- The program, given its arguments, its input, the files around it and the registry by which their
types are guessed. -/
def run (registry : MimeRegistry) (fs : FileSystem) (configVariable : Option Text)
    (stdin : Utf8.Bytes) (arguments : List Text) : Outcome :=
  match read configVariable arguments with
  | .error .version => ⟨0, versionLine, [], fs⟩
  | .error .help => ⟨0, usageText, [], fs⟩
  | .error .usage => ⟨2, [], usageText, fs⟩
  | .ok invocation =>
    match invocation.run registry fs stdin with
    | .ok (output, files) => ⟨0, output, [], files⟩
    | .error fault => ⟨1, [], fault.report, fs⟩

end Running

end NoteLinks.CommandLine
