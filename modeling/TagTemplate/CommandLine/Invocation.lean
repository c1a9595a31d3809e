import TagTemplate.CommandLine.Arguments
import TagTemplate.Program.Environment

/-! The commands, and which of them the arguments ask for. -/

namespace TagTemplate.CommandLine

structure Overrides where
  config : Option Path
  root : Option Path
  suffix : Option String
  output : Option Path
  templates : List String
  amd : Bool
  runtime : Option String
  compiler : Option String
  compilerArguments : List String
  searchPath : List Path
  sequential : Bool
  timeoutSeconds : Option Nat
deriving DecidableEq, Repr

inductive Command where
  | precompile (overrides : Overrides)
  | render (file : Path) (data : Option Path)
  | helpers (json : Bool)
deriving DecidableEq, Repr

structure Invocation where
  command : Command
  verbose : Bool
deriving DecidableEq, Repr

def verboseFlag : OptionSpec := flag "verbose" (some 'v')

def helpInquiry : OptionSpec := inquiry "help" 'h' .help

def commonOptions : List OptionSpec := [verboseFlag, helpInquiry, inquiry "version" 'V' .version]

def precompileOptions : List OptionSpec :=
  [verboseFlag, helpInquiry, valued "config" (some 'c') .path, valued "root" none .path,
    valued "suffix" none .text, valued "output" (some 'o') .path,
    repeatable "template" (some 't') .text false, flag "amd" none, valued "runtime" none .text,
    valued "compiler" none .text, repeatable "compiler-arg" none .text true,
    repeatable "search-path" none .path false, flag "sequential" none,
    valued "timeout" none .number]

def renderOptions : List OptionSpec := [verboseFlag, helpInquiry, valued "data" (some 'd') .path]

def helpersOptions : List OptionSpec := [verboseFlag, helpInquiry, flag "json" none]

def configVariable : String := "BRACELET_CONFIG"

def compilerVariable : String := "BRACELET_COMPILER"

def configPath? (environment : Environment) (arguments : Arguments) :
    Except Usage (Option Path) :=
  match arguments.path? "config", environment.text? configVariable with
  | some path, _ => .ok (some path)
  | none, none => .ok none
  | none, some text =>
      if ValueKind.path.accepts text.toList then .ok (some (Path.ofString text)) else .error .wrong

def precompile (environment : Environment) (arguments : Arguments) : Except Usage Command := do
  let config ← configPath? environment arguments
  .ok (.precompile
    { config
      root := arguments.path? "root"
      suffix := arguments.text? "suffix"
      output := arguments.path? "output"
      templates := arguments.texts "template"
      amd := arguments.has "amd"
      runtime := arguments.text? "runtime"
      compiler := (arguments.text? "compiler").or (environment.text? compilerVariable)
      compilerArguments := arguments.texts "compiler-arg"
      searchPath := (arguments.values "search-path").map Path.ofText
      sequential := arguments.has "sequential"
      timeoutSeconds := arguments.number? "timeout" })

def render (arguments : Arguments) : Except Usage Command :=
  match arguments.rest with
  | [file] => .ok (.render (Path.ofText file) (arguments.path? "data"))
  | _ => .error .wrong

def helpers (arguments : Arguments) : Command := .helpers (arguments.has "json")

/-- What is asked for with the name of a command behind the word for help. No command has commands
of its own. -/
def helpAbout : List (List Char) → Usage
  | [] => .help
  | [name] =>
      if ["precompile", "render", "helpers", "help"].any (·.toList == name) then .help else .wrong
  | _ => .wrong

def invocation (environment : Environment) (before : Arguments) (name : String)
    (texts : List (List Char)) : Except Usage Invocation := do
  let finish (arguments : Arguments) (command : Command) : Invocation :=
    ⟨command, before.has "verbose" || arguments.has "verbose"⟩
  match name with
  | "precompile" => do
      let arguments ← Arguments.read precompileOptions 0 texts
      return finish arguments (← precompile environment arguments)
  | "render" => do
      let arguments ← Arguments.read renderOptions 1 texts
      return finish arguments (← render arguments)
  | "helpers" => do
      let arguments ← Arguments.read helpersOptions 0 texts
      return finish arguments (helpers arguments)
  | "help" => .error (helpAbout texts)
  | _ => .error .wrong

def readInvocation (environment : Environment) (before : Arguments) :
    List (List Char) → Except Usage Invocation
  | [] => .error .wrong
  | text :: rest =>
      if Arguments.isOption text then
        if text = ['-', '-'] then .error .wrong
        else
          match Arguments.readOne commonOptions 0 before text with
          | .ok before => readInvocation environment before rest
          | .error usage => .error usage
      else invocation environment before (String.ofList text) rest

def Invocation.read (environment : Environment) (texts : List String) : Except Usage Invocation :=
  readInvocation environment Arguments.none (texts.map String.toList)

end TagTemplate.CommandLine
