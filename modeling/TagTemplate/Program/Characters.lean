import TagTemplate.Numeral.Digits
import TagTemplate.Program.Printing
import TagTemplate.Program.Sources
import TagTemplate.Shell.Pattern

/-! Replacing and deleting single characters: `tr`. -/

namespace TagTemplate.Characters

def character? (text : Octets) : Option (Char × Bool × Octets) :=
  match text with
  | [] => none
  | ['\\'] => some ('\\', false, [])
  | '\\' :: 'e' :: rest => some ('e', true, rest)
  | '\\' :: rest =>
      match Printing.escape false rest with
      | (['\\', c], after) => some (c, true, after)
      | ([c], after) => some (c, true, after)
      | (_, after) => some ('\\', true, after)
  | c :: rest => some (c, false, rest)

def classMembers (name : Octets) : Octets :=
  ((List.range 256).map Char.ofNat).filter (Shell.Pattern.isInClass name)

def classNames : List String :=
  ["alnum", "alpha", "blank", "cntrl", "digit", "graph", "lower", "print", "punct", "space",
    "upper", "xdigit"]

def members : Nat → (length : Nat) → Octets → Except String Octets
  | 0, _, _ => .ok []
  | _, _, [] => .ok []
  | fuel + 1, length, '[' :: ':' :: text =>
      match Shell.Pattern.className? text with
      | some (name, after) =>
          if classNames.any (·.toList == name) then do
            let more ← members fuel length after
            .ok (classMembers name ++ more)
          else .error ("invalid character class " ++ Octets.quoted name)
      | none => do
          let more ← members fuel length (':' :: text)
          .ok ('[' :: more)
  | fuel + 1, length, text =>
      let single : Except String Octets :=
        match character? text with
        | none => .ok []
        | some (low, _, after) =>
            match after with
            | '-' :: next =>
                match character? next with
                | none => do
                    let more ← members fuel length after
                    .ok (low :: more)
                | some (high, _, after) =>
                    if high.toNat < low.toNat then
                      .error ("range-endpoints of '" ++ String.ofList [low, '-', high] ++
                        "' are in reverse collating sequence order")
                    else do
                      let more ← members fuel length after
                      .ok ((List.range (high.toNat - low.toNat + 1)).map
                        (fun n => Char.ofNat (low.toNat + n)) ++ more)
            | after => do
                let more ← members fuel length after
                .ok (low :: more)
      match text with
      | '[' :: inner =>
          match character? inner with
          | some (c, _, '*' :: after) =>
              let digits := after.takeWhile Char.isDigit
              match after.dropWhile Char.isDigit with
              | ']' :: after => do
                  let more ← members fuel length after
                  let base := if digits.head? = some '0' then 8 else 10
                  let count := Numeral.ofDigits base digits
                  let count := if count = 0 then length - more.length else count
                  .ok (List.replicate count c ++ more)
              | _ => single
          | some ('=', _, c :: '=' :: ']' :: after) => do
              let more ← members fuel length after
              .ok (c :: more)
          | _ => single
      | _ => single

def set (length : Nat) (text : Octets) : Except String Octets :=
  members (text.length + 1) length text

def complement (set : Octets) : Octets :=
  ((List.range 256).map Char.ofNat).filter fun c => !set.contains c

def extended (length : Nat) (set : Octets) : Octets :=
  set ++ List.replicate (length - set.length) (set.getLast?.getD ' ')

/-- The character in place of another one: the last place of that in the first set decides. -/
def replaced (first second : Octets) (c : Char) : Char :=
  match (first.zip second).reverse.find? (·.1 == c) with
  | some (_, other) => other
  | none => c

def squeezed (set : Octets) : Octets → Octets
  | [] => []
  | [c] => [c]
  | c :: d :: rest =>
      if c = d ∧ set.contains c then squeezed set (d :: rest) else c :: squeezed set (d :: rest)

def tr (process : Process) : Outcome :=
  let table : OptionTable :=
    { letters := "cCdst"
      valued := ""
      long :=
        [("complement", 'c'), ("delete", 'd'), ("squeeze-repeats", 's'), ("truncate-set1", 't')] }
  process.withOptions table 1 fun given =>
    let deletes := given.has 'd'
    let squeezes := given.has 's'
    let turns := given.has 'c' || given.has 'C'
    let made (run : Except String Octets) : Outcome :=
      match run with
      | .ok output => Outcome.made process output
      | .error message => Outcome.complained process 1 (process.remark message)
    let first (text : Octets) : Except String Octets :=
      (set 0 text).map fun set => if turns then complement set else set
    match given.operands with
    | [] => process.misused 1 "missing operand"
    | [one] =>
        if deletes && squeezes then
          process.misused 1
            ("missing operand after " ++ Octets.quoted one ++
              "\nTwo strings must be given when both deleting and squeezing repeats.")
        else if deletes then
          made ((first one).map fun set => process.input.filter fun c => !set.contains c)
        else if squeezes then made ((first one).map fun set => squeezed set process.input)
        else
          process.misused 1
            ("missing operand after " ++ Octets.quoted one ++
              "\nTwo strings must be given when translating.")
    | [one, two] =>
        if deletes && !squeezes then
          process.misused 1
            ("extra operand " ++ Octets.quoted two ++
              "\nOnly one string may be given when deleting without squeezing repeats.")
        else
          made do
            let first ← first one
            let second ← set first.length two
            if deletes then
              .ok (squeezed second (process.input.filter fun c => !first.contains c))
            else if second.isEmpty && !given.has 't' then
              .error "when not truncating set1, string2 must be non-empty"
            else
              let second := if given.has 't' then second else extended first.length second
              let text := process.input.map (replaced first second)
              .ok (if squeezes then squeezed second text else text)
    | _ :: _ :: extra :: _ => process.misused 1 ("extra operand " ++ Octets.quoted extra)

end TagTemplate.Characters
