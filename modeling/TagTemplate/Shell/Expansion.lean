import TagTemplate.Shell.Arithmetic
import TagTemplate.Shell.Pattern
import TagTemplate.Shell.Session

/-! What words come to when a script runs: parameters and the output of commands are put in, the
result is split into words, and patterns become the names of files. -/

namespace TagTemplate.Shell

/-- Where a character of a word is from. Only what is put in outside quotes is split. -/
inductive Origin where
  | written
  | inserted
  | quoted
deriving DecidableEq, Repr

inductive Piece where
  | char (c : Char) (origin : Origin)
  | quotes
  | border
  | vanishing
deriving DecidableEq, Repr

abbrev Substitution := Octets → Session → Octets × Session

namespace Expansion

def inserted (inQuotes : Bool) (text : Octets) : List Piece :=
  text.map fun c => .char c (if inQuotes then .quoted else .inserted)

def eachArgument (inQuotes : Bool) : List Octets → List Piece
  | [] => [.vanishing]
  | [last] => inserted inQuotes last
  | first :: rest => inserted inQuotes first ++ .border :: eachArgument inQuotes rest

def splittable : Piece → Piece
  | .char c .written => .char c .inserted
  | piece => piece

def textOf (pieces : List Piece) : Octets :=
  pieces.filterMap fun piece =>
    match piece with
    | .char c _ => some c
    | .border => some ' '
    | _ => none

def patternOf (pieces : List Piece) : Pattern :=
  pieces.filterMap fun piece =>
    match piece with
    | .char c origin => some (c, origin != .quoted)
    | _ => none

def parameterPieces (session : Session) (inQuotes : Bool) (name : Octets) : List Piece :=
  if name = ['@'] then eachArgument inQuotes session.arguments
  else if name = ['*'] && !inQuotes then eachArgument false session.arguments
  else inserted inQuotes ((session.value? name).getD [])

def isSet (session : Session) (nonempty : Bool) (name : Octets) : Bool :=
  match session.value? name with
  | some value => !nonempty || !value.isEmpty
  | none => false

def missing (session : Session) (name : Octets) (nonempty : Bool) (message : Octets) : Session :=
  let standard := if nonempty then "parameter not set or null" else "parameter not set"
  session.fail (name ++ ": ".toList ++ if message.isEmpty then standard.toList else message) 2

def withHome (session : Session) (chars : Octets) : Octets :=
  match chars with
  | ['~'] => (session.value? "HOME".toList).getD ['~']
  | '~' :: '/' :: rest =>
      match session.value? "HOME".toList with
      | some home => home ++ '/' :: rest
      | none => chars
  | _ => chars

/-- What a word comes to. The last part of a word is known to be so, and its first one as well. -/
def pieces (substitute : Substitution) : Nat → (first : Bool) → Word → Session →
    List Piece × Session
  | 0, _, _, session => ([], session)
  | _, _, [], session => ([], session)
  | fuel + 1, first, part :: rest, session =>
      let (now, session) : List Piece × Session :=
        match part with
        | .text chars =>
            let chars :=
              if first && (rest.isEmpty || chars.contains '/') then withHome session chars
              else chars
            (chars.map fun c => .char c .written, session)
        | .quoted chars => (.quotes :: chars.map fun c => .char c .quoted, session)
        | .command inQuotes script =>
            let (output, session) := substitute script session
            (inserted inQuotes (Text.dropEndWhile (· == '\n') output), session)
        | .arithmetic inQuotes expression =>
            let (found, session) := pieces substitute fuel false expression session
            let text := textOf found
            match Expression.compute session.value? text with
            | .ok (n, assigned) =>
                let session := assigned.reverse.foldl
                  (fun session entry => session.assign entry.1 (Numeral.signedDecimal entry.2))
                  session
                (inserted inQuotes (Numeral.signedDecimal n), session)
            | .error reason =>
                let message :=
                  ("arithmetic expression: " ++ reason ++ ": \"").toList ++ text ++ ['"']
                ([], session.fail message 2)
        | .parameter inQuotes name use argument =>
            let inner (session : Session) : List Piece × Session :=
              let (found, session) := pieces substitute fuel (!inQuotes) argument session
              (if inQuotes then found else found.map splittable, session)
            let plain (session : Session) : List Piece × Session :=
              let isList := name == ['@'] || name == ['*']
              if (session.value? name).isNone && session.has 'u' && !isList then
                ([], missing session name false [])
              else (parameterPieces session inQuotes name, session)
            match use with
            | .value => plain session
            | .length =>
                let (_, after) := plain session
                let length := ((session.value? name).getD []).length
                (inserted inQuotes (Numeral.decimal length), after)
            | .orElse nonempty =>
                if isSet session nonempty name then plain session else inner session
            | .instead nonempty =>
                if isSet session nonempty name then inner session else ([], session)
            | .assign nonempty =>
                if isSet session nonempty name then plain session
                else
                  let (found, session) := inner session
                  if name.head?.any isNameStart then
                    let session := session.assign name (textOf found)
                    (inserted inQuotes (textOf found), session)
                  else ([], session.fail (name ++ ": bad variable name".toList) 2)
            | .require nonempty =>
                if isSet session nonempty name then plain session
                else
                  let (found, session) := inner session
                  ([], missing session name nonempty (textOf found))
            | .withoutStart longest =>
                let (found, session) := inner session
                let value := (session.value? name).getD []
                (inserted inQuotes (Pattern.withoutStart (patternOf found) longest value), session)
            | .withoutEnd longest =>
                let (found, session) := inner session
                let value := (session.value? name).getD []
                (inserted inQuotes (Pattern.withoutEnd (patternOf found) longest value), session)
            | .unreadable => ([], session.fail "Bad substitution".toList 2)
      let (more, session) := pieces substitute fuel false rest session
      (now ++ more, session)

structure Splitting where
  chars : Pattern
  quotes : Bool
  vanishing : Bool
  /-- Whether a blank has just ended a word, so that one more separator belongs to it. -/
  blank : Bool

def fieldsFrom (separators : Octets) : Splitting → List Piece → List Pattern
  | state, [] =>
      if state.chars.isEmpty && (state.vanishing || !state.quotes) then []
      else [state.chars.reverse]
  | state, piece :: rest =>
      let isEmpty := state.chars.isEmpty && (state.vanishing || !state.quotes)
      let begun : Splitting := ⟨[], false, false, false⟩
      match piece with
      | .quotes => fieldsFrom separators { state with quotes := true, blank := false } rest
      | .vanishing => fieldsFrom separators { state with vanishing := true } rest
      | .border =>
          if isEmpty then fieldsFrom separators begun rest
          else state.chars.reverse :: fieldsFrom separators begun rest
      | .char c origin =>
          if origin = .inserted ∧ separators.contains c then
            if c = ' ' ∨ c = '\t' ∨ c = '\n' then
              if isEmpty then fieldsFrom separators state rest
              else
                state.chars.reverse :: fieldsFrom separators { begun with blank := true } rest
            else if state.blank then fieldsFrom separators begun rest
            else state.chars.reverse :: fieldsFrom separators begun rest
          else
            fieldsFrom separators
              { state with chars := (c, origin != .quoted) :: state.chars, blank := false } rest

def fields (separators : Octets) (pieces : List Piece) : List Pattern :=
  fieldsFrom separators ⟨[], false, false, false⟩ pieces

def acceptsName (pattern : Pattern) (name : Octets) : Bool :=
  (name.head? != some '.' || pattern.head?.any (·.1 == '.')) && pattern.accepts name

def pathsFrom (files : FileTree) : (beginning : Octets) → List Pattern → List Octets
  | beginning, [] => [beginning]
  | beginning, pattern :: rest =>
      let slash (text : Octets) : Octets := if rest.isEmpty then text else text ++ ['/']
      if pattern.isGeneral then
        let directory := if beginning.isEmpty then ['.'] else beginning
        match files.find? (Session.pathOf directory) with
        | some (location, .directory) =>
            let names := (files.namesIn location).map Octets.ofText
            (names.filter (acceptsName pattern)).flatMap fun name =>
              if rest.isEmpty || files.isDirectory (Session.pathOf (beginning ++ name)) then
                pathsFrom files (slash (beginning ++ name)) rest
              else []
        | _ => []
      else
        let path := beginning ++ pattern.text
        if !rest.isEmpty || (files.find? (Session.pathOf path)).isSome then
          pathsFrom files (slash path) rest
        else []

def components (pattern : Pattern) : List Pattern :=
  match pattern with
  | [] => [[]]
  | (c, general) :: rest =>
      if c = '/' then [] :: components rest
      else (components rest).modifyHead ((c, general) :: ·)

def paths (session : Session) (field : Pattern) : List Octets :=
  if field.isGeneral && !session.has 'f' then
    match pathsFrom session.files [] (components field) with
    | [] => [field.text]
    | found => found.mergeSort Text.isAtMost
  else [field.text]

def words (substitute : Substitution) (fuel : Nat) (word : Word) (session : Session) :
    List Octets × Session :=
  let (found, session) := pieces substitute fuel true word session
  ((fields session.separators found).flatMap (paths session), session)

def allWords (substitute : Substitution) (fuel : Nat) : List Word → Session → List Octets × Session
  | [], session => ([], session)
  | word :: rest, session =>
      let (first, session) := words substitute fuel word session
      let (more, session) := allWords substitute fuel rest session
      (first ++ more, session)

def text (substitute : Substitution) (fuel : Nat) (word : Word) (session : Session) :
    Octets × Session :=
  let (found, session) := pieces substitute fuel true word session
  (textOf found, session)

end Expansion

end TagTemplate.Shell
