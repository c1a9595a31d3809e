import TagTemplate.Precompile.Options
import TagTemplate.Toml.Reader

/-! Configurations: their fields and defaults, how they are read and checked, and how their paths
are anchored at a directory. -/

namespace TagTemplate

structure CompilerConfig where
  program : String
  args : List String
  searchPath : List Path
deriving DecidableEq, Repr

structure Config where
  root : Path
  suffix : String
  output : Path
  templates : List String
  amd : Bool
  runtime : String
  parallel : Bool
  timeoutSeconds : Option Nat
  compiler : Option CompilerConfig
deriving DecidableEq, Repr

namespace Config

def default : Config where
  root := Path.ofString "templates"
  suffix := ".hbs"
  output := Path.ofString "templates.js"
  templates := []
  amd := false
  runtime := "handlebars"
  parallel := true
  timeoutSeconds := none
  compiler := none

def text? : Toml.Item → Option String
  | .text content => some content
  | _ => none

def boolean? : Toml.Item → Option Bool
  | .boolean b => some b
  | _ => none

def path? (item : Toml.Item) : Option Path := (text? item).map Path.ofString

def seconds? : Toml.Item → Option (Option Nat)
  | .integer n => if 0 ≤ n then some (some n.toNat) else none
  | _ => none

def list? {α : Type} (item? : Toml.Item → Option α) : Toml.Item → Option (List α)
  | .array items => items.mapM item?
  | .tables elements => elements.mapM fun entries => item? (.table .header entries)
  | _ => none

/-- The fields of a record, which is a table or lists its fields in their order. A date is a record
of parts that no setting is named for. -/
def fields? (names : List String) : Toml.Item → Option Toml.Entries
  | .table _ entries => some entries
  | .datetime => some []
  | .array items => some (names.zip items)
  | .tables elements => some (names.zip (elements.map (.table .header)))
  | _ => none

def field? {α : Type} (entries : Toml.Entries) (name : String) (value? : Toml.Item → Option α)
    (missing : α) : Option α :=
  match Fields.get? entries name with
  | none => some missing
  | some item => value? item

def compiler? (item : Toml.Item) : Option (Option CompilerConfig) := do
  let entries ← fields? ["program", "args", "search_path"] item
  let program ← (Fields.get? entries "program").bind text?
  let args ← field? entries "args" (list? text?) []
  let searchPath ← field? entries "search_path" (list? path?) []
  return some ⟨program, args, searchPath⟩

def fieldNames : List String :=
  ["root", "suffix", "output", "templates", "amd", "runtime", "parallel", "timeout_secs",
    "compiler"]

def table? (item : Toml.Item) : Option Config := do
  let entries ← fields? fieldNames item
  let root ← field? entries "root" path? default.root
  let suffix ← field? entries "suffix" text? default.suffix
  let output ← field? entries "output" path? default.output
  let templates ← field? entries "templates" (list? text?) default.templates
  let amd ← field? entries "amd" boolean? default.amd
  let runtime ← field? entries "runtime" text? default.runtime
  let parallel ← field? entries "parallel" boolean? default.parallel
  let timeoutSeconds ← field? entries "timeout_secs" seconds? default.timeoutSeconds
  let compiler ← field? entries "compiler" compiler? default.compiler
  return { root, suffix, output, templates, amd, runtime, parallel, timeoutSeconds, compiler }

/-- The configuration in a document. Tables and fields of other names do not count. -/
def ofEntries? (entries : Toml.Entries) : Option Config :=
  field? entries "precompile" table? default

def isBlankText (text : String) : Bool := text.toList.all Unicode.isBlank

/-- The first setting with which no run could succeed. -/
def invalidSetting? (config : Config) : Option InvalidSetting :=
  if config.timeoutSeconds = some 0 then some .zeroTimeout
  else if isBlankText config.runtime then some .blankRuntime
  else if config.suffix.toList.any fun c => c == '/' || c == '\\' then some .suffixSeparator
  else
    match config.templates.find? isBlankText with
    | some name => some (.blankTemplate name)
    | none =>
        if (config.compiler.map fun compiler => isBlankText compiler.program) = some true then
          some .blankProgram
        else none

def validate (config : Config) : Except Failure Config :=
  match config.invalidSetting? with
  | some setting => .error (.configInvalid setting)
  | none => .ok config

def read (text : String) : Except Failure Config :=
  match (Toml.read? text).bind ofEntries? with
  | none => .error (.configUnreadable .malformed)
  | some config => config.validate

def anchoredAt (base : Path) (config : Config) : Config :=
  { config with
    root := base.join config.root
    output := base.join config.output
    compiler := config.compiler.map fun compiler =>
      { compiler with searchPath := compiler.searchPath.map base.join } }

def options (config : Config) : Options where
  root := config.root
  suffix := config.suffix
  output := config.output
  templates := config.templates
  format := if config.amd then .amd config.runtime else .plain
  parallel := config.parallel
  timeout := config.timeoutSeconds.map (· * 1000)
  lockTimeout := defaultLockTimeout

end Config

end TagTemplate
