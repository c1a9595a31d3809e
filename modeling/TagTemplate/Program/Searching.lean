import TagTemplate.Numeral.Digits
import TagTemplate.Program.Sources
import TagTemplate.Regex.Reader

/-! Searching for lines: `grep`. -/

namespace TagTemplate.Searching

structure Request where
  regex : Regex
  inverted : Bool
  parts : Bool
  numbers : Bool
  names : Bool
  most : Option Nat

def plain (dialect : Regex.Dialect) (text : Octets) : Regex :=
  text.foldr (fun c rest => .both (Regex.literal dialect c) rest) .empty

def combined (dialect : Regex.Dialect) (fixed : Bool) (bounded : Regex → Regex) :
    List Octets → Except String (Option Regex)
  | [] => .ok none
  | pattern :: rest => do
      let first ← if fixed then .ok (plain dialect pattern) else Regex.read dialect pattern
      match ← combined dialect fixed bounded rest with
      | none => return some (bounded first)
      | some more => return some (.either (bounded first) more)

def label (text : Octets) : Octets := text ++ [':']

def stretches (regex : Regex) : Nat → Option Char → Octets → List Octets
  | 0, _, _ => []
  | fuel + 1, before, text =>
      match regex.find? before text with
      | none => []
      | some found =>
          match found.text, found.rest with
          | [], [] => []
          | [], c :: rest => stretches regex fuel (some c) rest
          | text, rest => text :: stretches regex fuel text.getLast? rest

def selected (request : Request) (text : Octets) : List (Octets × Nat) :=
  let found := (Octets.lineList text).zipIdx.filter fun (line, _) =>
    request.regex.isIn line != request.inverted
  match request.most with
  | some most => found.take most
  | none => found

def shown (request : Request) (name : Octets) (lines : List (Octets × Nat)) : Octets :=
  lines.flatMap fun (line, index) =>
    let front :=
      (if request.names then label name else []) ++
        (if request.numbers then label (Numeral.decimal (index + 1)) else [])
    let texts :=
      if !request.parts then [line]
      else if request.inverted then []
      else stretches request.regex (line.length + 1) none line
    texts.flatMap fun text => front ++ text ++ ['\n']

def options : OptionTable where
  letters := "EFGivywxclLqsnhHoa"
  valued := "em"
  long :=
    [("extended-regexp", 'E'), ("fixed-strings", 'F'), ("basic-regexp", 'G'), ("ignore-case", 'i'),
      ("invert-match", 'v'), ("word-regexp", 'w'), ("line-regexp", 'x'), ("count", 'c'),
      ("files-with-matches", 'l'), ("files-without-match", 'L'), ("quiet", 'q'), ("silent", 'q'),
      ("no-messages", 's'), ("line-number", 'n'), ("no-filename", 'h'), ("with-filename", 'H'),
      ("only-matching", 'o'), ("text", 'a'), ("regexp", 'e'), ("max-count", 'm')]

def bounded (given : Given) (regex : Regex) : Regex :=
  if given.has 'x' then .both Regex.start (.both regex Regex.finish)
  else if given.has 'w' then
    .both (.place fun before _ => !Regex.isWordChar? before)
      (.both regex (.place fun _ after => !Regex.isWordChar? after))
  else regex

def report (given : Given) (request : Request) (process : Process) (names : List Octets) :
    Outcome :=
  let sources := Sources.read process names
  let found := sources.found.filterMap fun source =>
    source.content.toOption.map fun content =>
      (if source.name = ['-'] then "(standard input)".toList else source.name,
        selected request content)
  let text := found.flatMap fun (name, lines) =>
    if given.has 'q' then []
    else if given.has 'l' then if lines.isEmpty then [] else name ++ ['\n']
    else if given.has 'L' then if lines.isEmpty then name ++ ['\n'] else []
    else if given.has 'c' then
      (if request.names then label name else []) ++ Numeral.decimal lines.length ++ ['\n']
    else shown request name lines
  let outcome :=
    if given.has 's' then Outcome.wrote process text else sources.outcome process plainly text
  let any := found.any fun entry => !entry.2.isEmpty
  { outcome with
    status :=
      .code
        (if !sources.isComplete && !(given.has 'q' && any) then 2 else if any then 0 else 1)
    rest := sources.rest }

def usage (process : Process) : String :=
  let name := Octets.display process.name
  "Usage: " ++ name ++ " [OPTION]... PATTERNS [FILE]...\nTry '" ++ name ++
    " --help' for more information."

def grep (process : Process) : Outcome :=
  let misused (message : String) : Outcome :=
    .complained process 2 (process.remark message ++ "\n" ++ usage process)
  process.withOptionsOr options misused fun given =>
    let (patterns, names) : List Octets × List Octets :=
      match given.values 'e', given.operands with
      | [], pattern :: names => ([pattern], names)
      | patterns, names => (patterns, names)
    let dialect : Regex.Dialect := ⟨given.has 'E', given.has 'i' || given.has 'y'⟩
    if patterns.isEmpty then .complained process 2 (usage process)
    else
      match combined dialect (given.has 'F') (bounded given) (patterns.flatMap Text.lines) with
      | .error message => .complained process 2 (process.remark message)
      | .ok regex =>
          report given
            { regex := regex.getD .empty
              inverted := given.has 'v'
              parts := given.has 'o'
              numbers := given.has 'n'
              names := given.has 'H' || (!given.has 'h' && decide (1 < names.length))
              most := (given.value? 'm').map (Numeral.ofDigits 10) }
            process names

end TagTemplate.Searching
