import TagTemplate.Numeral.Reading
import TagTemplate.Program.Sources

/-! Programs that count: `wc`, `nl` and `seq`. -/

namespace TagTemplate.Counting

def separatesWords (c : Char) : Bool := c == ' ' || (9 ≤ c.toNat && c.toNat ≤ 13)

def words (text : Octets) : Nat :=
  ((Text.pieces separatesWords text).filter fun word => !word.isEmpty).length

def longestLine (text : Octets) : Nat :=
  (Octets.lineList text).foldl
    (fun longest line =>
      max longest
        (line.foldl (fun width c => if c = '\t' then width / 8 * 8 + 8 else width + 1) 0))
    0

def counts (given : Given) (text : Octets) : List Nat :=
  let all := !"lwcmL".toList.any given.has
  (if all || given.has 'l' then [text.count '\n'] else []) ++
    (if all || given.has 'w' then [words text] else []) ++
    (if given.has 'm' then [text.length] else []) ++
    (if all || given.has 'c' then [text.length] else []) ++
    (if given.has 'L' then [longestLine text] else [])

def countLine (width : Nat) (numbers : List Nat) (name : Option Octets) : Octets :=
  List.intercalate [' '] (numbers.map fun n => Octets.rightAligned width (Numeral.decimal n)) ++
    (match name with
      | some name => ' ' :: name
      | none => []) ++ ['\n']

def wc (process : Process) : Outcome :=
  let table : OptionTable :=
    { letters := "lwcmL"
      valued := ""
      long :=
        [("lines", 'l'), ("words", 'w'), ("bytes", 'c'), ("chars", 'm'), ("max-line-length", 'L')] }
  process.withOptions table 1 fun given =>
    let sources := Sources.read process given.operands
    let read := sources.found.filterMap fun source =>
      source.content.toOption.map fun content => (source.name, counts given content, content.length)
    let single := (counts given []).length == 1 && decide (sources.found.length ≤ 1)
    let total := (read.map (·.2.2)).foldl (· + ·) 0
    let width :=
      if single then 1
      else
        max (Numeral.decimal total).length
          (if sources.found.any (·.name == ['-']) then 7 else 1)
    let lines := read.map fun (name, numbers, _) =>
      countLine width numbers (if given.operands.isEmpty then none else some name)
    let sums :=
      if sources.found.length ≤ 1 then []
      else
        let columns := (List.range (counts given []).length).map fun index =>
          (read.map fun entry => entry.2.1[index]?.getD 0).foldl (· + ·) 0
        countLine width columns (some "total".toList)
    sources.outcome process plainly (lines.flatten ++ sums)

def numbered (all : Bool) : Nat → List Octets → Octets
  | _, [] => []
  | count, line :: rest =>
      if line.isEmpty && !all then "       \n".toList ++ numbered all count rest
      else
        Octets.rightAligned 6 (Numeral.decimal count) ++ '\t' :: line ++ '\n' ::
          numbered all (count + 1) rest

def nl (process : Process) : Outcome :=
  process.withOptions ⟨"", "b", [("body-numbering", 'b')]⟩ 1 fun given =>
    let sources := Sources.read process given.operands
    sources.outcome process plainly
      (numbered (given.value? 'b' == some ['a']) 1 (Octets.lineList sources.text))

def progression : Nat → (first step last : Int) → List Int
  | 0, _, _, _ => []
  | fuel + 1, first, step, last =>
      if (0 < step && first ≤ last) || (step < 0 && last ≤ first) then
        first :: progression fuel (first + step) step last
      else []

structure Writing where
  separator : Octets
  aligned : Bool
  operands : List Octets

def writing : Writing → List Octets → Writing
  | found, ['-', 's'] :: text :: rest => writing { found with separator := text } rest
  | found, ('-' :: 's' :: text) :: rest => writing { found with separator := text } rest
  | found, ['-', 'w'] :: rest => writing { found with aligned := true } rest
  | found, words => { found with operands := words }

def filled (width : Nat) (n : Int) : Octets :=
  let digits := Numeral.signedDecimal n
  let zeros : Octets := List.replicate (width - digits.length) '0'
  if n < 0 then '-' :: (zeros ++ digits.tail) else zeros ++ digits

def seq (process : Process) : Outcome :=
  let given := writing ⟨['\n'], false, []⟩ process.arguments
  match given.operands.find? fun text => (Numeral.readInt64? text).isNone with
  | some wrong => process.misused 1 ("invalid floating point argument: " ++ Octets.quoted wrong)
  | none =>
      let write (first step last : Int) : Outcome :=
        let values := progression ((last - first).natAbs + 1) first step last
        let width :=
          if given.aligned then
            max (Numeral.signedDecimal first).length (Numeral.signedDecimal last).length
          else 0
        let text := List.intercalate given.separator (values.map (filled width))
        .wrote process (if values.isEmpty then [] else text ++ ['\n'])
      match given.operands.filterMap Numeral.readInt64?, given.operands with
      | [last], _ => write 1 1 last
      | [first, last], _ => write first 1 last
      | [first, step, last], _ =>
          if step = 0 then
            process.misused 1
              ("invalid Zero increment value: " ++ Octets.quoted (given.operands[1]?.getD []))
          else write first step last
      | _, _ :: _ :: _ :: extra :: _ => process.misused 1 ("extra operand " ++ Octets.quoted extra)
      | _, _ => process.misused 1 "missing operand"

end TagTemplate.Counting
