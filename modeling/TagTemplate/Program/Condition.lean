import TagTemplate.FileTree.Place
import TagTemplate.Numeral.Reading
import TagTemplate.Program.Octets
import TagTemplate.Text.Pieces

/-! Conditions on texts, numbers and files, as `test` decides them. -/

namespace TagTemplate.Condition

def number? (text : Octets) : Option Int := Numeral.readInt64? (Text.trim text)

def number (text : Octets) : Except String Int :=
  match number? text with
  | some n => .ok n
  | none => .error ("Illegal number: " ++ Octets.display text)

def nodeAt (files : FileTree) (text : Octets) : Option FileNode :=
  (files.find? (Path.ofText text.toText)).map (·.2)

def unary? (files : FileTree) (sign operand : Octets) : Option Bool :=
  let node := nodeAt files operand
  match String.ofList sign with
  | "-n" => some (!operand.isEmpty)
  | "-z" => some operand.isEmpty
  | "-e" | "-r" | "-w" | "-a" => some node.isSome
  | "-f" => some (match node with | some (.file _ _) => true | _ => false)
  | "-d" => some (match node with | some .directory => true | _ => false)
  | "-x" =>
      some (match node with | some (.file _ executable) => executable | found => found.isSome)
  | "-s" =>
      some (match node with | some (.file content _) => 0 < content.size | found => found.isSome)
  | "-h" | "-L" =>
      some
        (match files.place .entry (Path.ofText operand.toText) with
        | .ok (.found _ (.link _)) => true
        | _ => false)
  | "-b" | "-c" | "-p" | "-S" | "-g" | "-u" | "-k" | "-t" => some false
  | _ => none

def compared (first second : Octets) (holds : Int → Int → Bool) : Except String Bool := do
  return holds (← number first) (← number second)

def binary? (sign first second : Octets) : Option (Except String Bool) :=
  match String.ofList sign with
  | "=" | "==" => some (.ok (first == second))
  | "!=" => some (.ok (first != second))
  | "<" => some (.ok (!Text.isAtMost second first))
  | "-nt" | "-ot" => some (.ok false)
  | ">" => some (.ok (!Text.isAtMost first second))
  | "-eq" => some (compared first second fun a b => a == b)
  | "-ne" => some (compared first second fun a b => a != b)
  | "-lt" => some (compared first second fun a b => decide (a < b))
  | "-le" => some (compared first second fun a b => !decide (b < a))
  | "-gt" => some (compared first second fun a b => decide (b < a))
  | "-ge" => some (compared first second fun a b => !decide (a < b))
  | _ => none

abbrev Decision := Except String (Bool × List Octets)

def primary (files : FileTree) (whole : List Octets → Decision) : List Octets → Decision
  | [] => .error "argument expected"
  | first :: rest =>
      let simple : Decision :=
        match first, rest with
        | ['('], rest => do
            match ← whole rest with
            | (decided, [')'] :: after) => .ok (decided, after)
            | _ => .error "closing paren expected"
        | sign, operand :: after =>
            match unary? files sign operand with
            | some decided => .ok (decided, after)
            | none => .ok (!sign.isEmpty, operand :: after)
        | text, [] => .ok (!text.isEmpty, [])
      match rest with
      | sign :: second :: after =>
          match binary? sign first second with
          | some decided => decided.map fun holds => (holds, after)
          | none => simple
      | _ => simple

def decideFrom (files : FileTree) : Nat → List Octets → Decision
  | 0, _ => .error "argument expected"
  | fuel + 1, words => do
      let (first, rest) ← conjunction fuel words
      match rest with
      | ['-', 'o'] :: rest => do
          let (second, rest) ← decideFrom files fuel rest
          .ok (first || second, rest)
      | rest => .ok (first, rest)
where
  conjunction : Nat → List Octets → Decision
    | 0, _ => .error "argument expected"
    | fuel + 1, words => do
        let (first, rest) ← negation fuel words
        match rest with
        | ['-', 'a'] :: rest => do
            let (second, rest) ← conjunction fuel rest
            .ok (first && second, rest)
        | rest => .ok (first, rest)
  negation : Nat → List Octets → Decision
    | 0, _ => .error "argument expected"
    | fuel + 1, ['!'] :: next :: rest => do
        let (decided, rest) ← negation fuel (next :: rest)
        .ok (!decided, rest)
    | fuel + 1, words => primary files (decideFrom files fuel) words

def verdict (files : FileTree) (words : List Octets) : Except String Bool :=
  match words with
  | [] => .ok false
  | [word] => .ok (!word.isEmpty)
  | [['!'], word] => .ok word.isEmpty
  | words => do
      match ← decideFrom files (3 * words.length + 3) words with
      | (decided, []) => .ok decided
      | (_, next :: _) =>
          .error (Octets.display (words.head?.getD next) ++ ": unexpected operator")

end TagTemplate.Condition
