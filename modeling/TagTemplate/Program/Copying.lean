import TagTemplate.FileTree.Change
import TagTemplate.Numeral.Digits
import TagTemplate.Program.Sources

/-! Programs that copy what they read: `cat` and `tee`. -/

namespace TagTemplate.Copying

structure Marking where
  numberAll : Bool
  numberFull : Bool
  squeeze : Bool
  ends : Bool
  tabs : Bool
  controls : Bool

def shownPlain (marking : Marking) (c : Char) : Octets :=
  if c = '\t' then if marking.tabs then ['^', 'I'] else [c]
  else if !marking.controls then [c]
  else if c.toNat < 32 then ['^', Char.ofNat (c.toNat + 64)]
  else if c.toNat = 127 then ['^', '?']
  else [c]

def shown (marking : Marking) (c : Char) : Octets :=
  if c.toNat < 128 || !marking.controls then shownPlain marking c
  else
    "M-".toList ++
      shownPlain { marking with tabs := true } (Char.ofNat (c.toNat - 128))

def marked (marking : Marking) (ended : Bool) :
    (count : Nat) → (blank : Bool) → List Octets → Octets
  | _, _, [] => []
  | count, blank, line :: rest =>
      if marking.squeeze && blank && line.isEmpty then marked marking ended count blank rest
      else
        let numbered := if marking.numberFull then !line.isEmpty else marking.numberAll
        let count := if numbered then count + 1 else count
        let number :=
          if numbered then Octets.rightAligned 6 (Numeral.decimal count) ++ ['\t'] else []
        let ending :=
          if rest.isEmpty && !ended then [] else if marking.ends then ['$', '\n'] else ['\n']
        number ++ line.flatMap (shown marking) ++ ending ++
          marked marking ended count line.isEmpty rest

def catOptions : OptionTable where
  letters := "AbeEnstTuv"
  valued := ""
  long :=
    [("show-all", 'A'), ("number-nonblank", 'b'), ("show-ends", 'E'), ("number", 'n'),
      ("squeeze-blank", 's'), ("show-tabs", 'T'), ("show-nonprinting", 'v')]

def cat (process : Process) : Outcome :=
  process.withOptions catOptions 1 fun given =>
    let sources := Sources.read process given.operands
    let marking : Marking :=
      { numberAll := given.has 'n'
        numberFull := given.has 'b'
        squeeze := given.has 's'
        ends := given.has 'E' || given.has 'e' || given.has 'A'
        tabs := given.has 'T' || given.has 't' || given.has 'A'
        controls := given.has 'v' || given.has 'e' || given.has 't' || given.has 'A' }
    if given.options.all (·.1 == 'u') then sources.copied process plainly
    else
      let (lines, ended) := Octets.lines sources.text
      sources.outcome process plainly (marked marking ended 0 false lines)

def tee (process : Process) : Outcome :=
  process.withOptions ⟨"aip", "", [("append", 'a')]⟩ 1 fun given =>
    given.operands.foldl
      (fun outcome name =>
        let path := Path.ofText name.toText
        let before :=
          if given.has 'a' then (outcome.files.read path).toOption.getD ByteArray.empty
          else ByteArray.empty
        let content := before ++ ⟨process.input.toBytes.toArray⟩
        match outcome.files.write path content false with
        | .ok files => { outcome with files }
        | .error cause =>
            outcome.complaining 1
              (process.remark (Octets.display name ++ ": " ++ cause.reason)))
      (Outcome.made process process.input)

end TagTemplate.Copying
