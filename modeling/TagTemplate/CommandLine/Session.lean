import TagTemplate.CommandLine.Invocation
import TagTemplate.Config.Load
import TagTemplate.Json.Reader
import TagTemplate.Precompile.Run
import TagTemplate.Program.Command
import TagTemplate.Template.Render

/-! What the commands print and write, and the exit code they end with. -/

namespace TagTemplate.CommandLine

structure Ending where
  exitCode : Nat
  output : String
  errors : String
  files : FileTree

def lines (texts : List String) : String := String.join (texts.map (· ++ "\n"))

def failing (exitCode : Nat) (output : String) (causes : List String) (files : FileTree) : Ending :=
  ⟨exitCode, output, "Error: " ++ String.intercalate ": " causes ++ "\n", files⟩

def failed (output : String) (failure : Failure) (files : FileTree) : Ending :=
  failing failure.exitCode output failure.chain files

def helpersJson (names : List String) : String :=
  let items := names.map fun name => "    " ++ Json.quote name
  lines
    ["\x7b", "  \"count\": " ++ toString names.length ++ ",", "  \"helpers\": [",
      String.intercalate ",\n" items, "  ]", "\x7d"]

structure Marks where
  item : String
  warning : String
  success : String

namespace Marks

def plain : Marks := ⟨"→", "!", "✓"⟩

def coloured : Marks := ⟨"\x1b[36m→\x1b[0m", "\x1b[33m!\x1b[0m", "\x1b[32m✓\x1b[0m"⟩

def chosen (environment : Environment) : Marks :=
  match environment.text? "CLICOLOR_FORCE" with
  | none | some "0" => plain
  | some _ => coloured

end Marks

def runHelpers (marks : Marks) (json : Bool) : String :=
  let names := Helper.sorted.map Helper.name
  if json then helpersJson names
  else
    lines
      (names.map (fun name => "  " ++ marks.item ++ " " ++ name) ++
        [marks.success ++ " " ++ toString names.length ++ " standard helpers"])

def runRender (files : FileTree) (file : Path) (data : Option Path) : Ending :=
  match files.readText file with
  | .error cause =>
      failing 1 "" ["Failed to read template " ++ file.display, cause.message] files
  | .ok source =>
      let value : Except (List String) Value :=
        match data with
        | none => .ok (.object [])
        | some path =>
            match files.readText path with
            | .error cause => .error ["Failed to read data " ++ path.display, cause.message]
            | .ok text =>
                match Json.read? text with
                | some value => .ok value
                | none => .error ["Invalid JSON in " ++ path.display]
      match value with
      | .error causes => failing 1 "" causes files
      | .ok value =>
          match TagTemplate.render source value with
          | .ok text => ⟨0, text, "", files⟩
          | .error fault =>
              let failure : Failure := .template fault
              failing failure.exitCode "" (("Failed to render " ++ file.display) :: failure.chain)
                files

def overriddenCompiler (overrides : Overrides) (compiler : Option CompilerConfig) :
    Option CompilerConfig :=
  let named :=
    match overrides.compiler with
    | none => compiler
    | some program =>
        match compiler with
        | some configured => some { configured with program }
        | none => some ⟨program, [], []⟩
  named.map fun configured =>
    { configured with
      args :=
        if overrides.compilerArguments.isEmpty then configured.args
        else overrides.compilerArguments
      searchPath := configured.searchPath ++ overrides.searchPath }

def overridden (overrides : Overrides) (config : Config) : Config :=
  { root := overrides.root.getD config.root
    suffix := overrides.suffix.getD config.suffix
    output := overrides.output.getD config.output
    templates := if overrides.templates.isEmpty then config.templates else overrides.templates
    amd := overrides.amd || config.amd
    runtime := overrides.runtime.getD config.runtime
    parallel := !overrides.sequential && config.parallel
    timeoutSeconds := overrides.timeoutSeconds.or config.timeoutSeconds
    compiler := overriddenCompiler overrides config.compiler }

def configured (files : FileTree) (overrides : Overrides) : Except Failure Config :=
  match Config.find files overrides.config with
  | .error failure => .error failure
  | .ok config => (overridden overrides config).validate

def located (files : FileTree) (environment : Environment) (config : Config) :
    Except Failure CompilerCommand :=
  match config.compiler with
  | none => .error (.compilerNotFound .unconfigured)
  | some compiler =>
      match
        CompilerCommand.locate files environment compiler.program compiler.args compiler.searchPath
      with
      | .ok command => .ok command
      | .error fault => .error (.compilerNotFound fault)

def reported (marks : Marks) (verbose : Bool) (root : Path) (report : Report) : String :=
  let items := if verbose then report.templates else []
  let warnings :=
    if report.templates.isEmpty then
      [marks.warning ++ " No templates found under " ++ root.display]
    else []
  lines
    (items.map (fun name => "  " ++ marks.item ++ " " ++ name) ++ warnings ++
      [marks.success ++ " Precompiled " ++ toString report.templates.length ++
        " template(s) into " ++ report.output.display ++ " (" ++ toString report.bytes ++
        " bytes)"])

def clockLimit : Nat := 9223372036854775807

/-- A number of seconds that the clock has gone beyond when a command is run. -/
def clockReading : Nat := 100000

/-- Whether the time that a run may take ends when the clock can no longer show it. -/
def outlastsClock (config : Config) : Bool :=
  match config.timeoutSeconds with
  | some seconds => decide (clockLimit < clockReading + seconds)
  | none => false

def runPrecompile (files : FileTree) (environment : Environment) (overrides : Overrides)
    (verbose : Bool) : Ending :=
  let marks := Marks.chosen environment
  match configured files overrides with
  | .error failure => failed "" failure files
  | .ok config =>
      match located files environment config with
      | .error failure => failed "" failure files
      | .ok command =>
          let begun :=
            if verbose then
              lines
                [marks.item ++ " Compiling templates under " ++ config.root.display ++ " with " ++
                  command.program.display]
            else ""
          if outlastsClock config then
            ⟨101, begun, "overflow when adding duration to instant\n", files⟩
          else
            let (run, world) :=
              (Run.start config.options false 0).complete (command.compiler environment)
                (fun _ => Interference.none) ⟨files, [], 0⟩
            match run.outcome? with
            | some (.ok report) =>
                ⟨0, begun ++ reported marks verbose config.root report, "", world.files⟩
            | some (.error failure) => failed begun failure world.files
            | none => ⟨1, begun, "", world.files⟩

def Usage.text : Usage → String
  | .help =>
      lines ["Usage: bracelet [OPTIONS] <COMMAND>", "", "Commands:", "  precompile", "  render",
        "  helpers"]
  | .version => "bracelet 0.1.0\n"
  | .wrong => "error: wrong arguments\n"

def run (files : FileTree) (environment : Environment) (texts : List String) : Ending :=
  match Invocation.read environment texts with
  | .error .wrong => ⟨2, "", Usage.wrong.text, files⟩
  | .error usage => ⟨0, usage.text, "", files⟩
  | .ok ⟨command, verbose⟩ =>
      match command with
      | .precompile overrides => runPrecompile files environment overrides verbose
      | .render file data => runRender files file data
      | .helpers json => ⟨0, runHelpers (Marks.chosen environment) json, "", files⟩

end TagTemplate.CommandLine
