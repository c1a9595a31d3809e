import TagTemplate.Toml.Scalar

/-! Reading TOML documents: keys, arrays, tables in braces, headers and assignments. -/

namespace TagTemplate.Toml

def nestingLimit : Nat := 79

def isBareKeyChar (c : Char) : Bool :=
  c.isAlphanum || c == '-' || c == '_'

def keyPart? (text : List Char) : Option (String × List Char) :=
  match text with
  | '"' :: rest => (basicText? text.length rest).map fun (key, rest) => (String.ofList key, rest)
  | '\'' :: rest => (literalText? rest).map fun (key, rest) => (String.ofList key, rest)
  | _ =>
      let key := text.takeWhile isBareKeyChar
      if key.isEmpty then none else some (String.ofList key, text.dropWhile isBareKeyChar)

def key? : Nat → List Char → Option (List String × List Char)
  | 0, _ => none
  | fuel + 1, text => do
      let (part, rest) ← keyPart? (text.dropWhile isSpace)
      match rest.dropWhile isSpace with
      | '.' :: after => (key? fuel after).map fun (parts, rest) => (part :: parts, rest)
      | other => some ([part], other)

def skipComment (text : List Char) : List Char :=
  match text with
  | '#' :: rest => rest.dropWhile isPlain
  | other => other

def skipBlank : Nat → List Char → List Char
  | 0, text => text
  | fuel + 1, text =>
      let text := skipComment (text.dropWhile isSpace)
      match lineEnd? text with
      | some rest => skipBlank fuel rest
      | none => text

def splitKey? (parts : List String) : Option (List String × String) :=
  if nestingLimit < parts.length then none
  else parts.getLast?.map fun last => (parts.dropLast, last)

mutual

def value? : Nat → Nat → List Char → Option (Item × List Char)
  | 0, _, _ => none
  | fuel + 1, depth, text =>
      match text with
      | '[' :: rest =>
          if nestingLimit ≤ depth then none
          else (items? fuel (depth + 1) rest).map fun (items, rest) => (.array items, rest)
      | '\x7b' :: rest =>
          if nestingLimit ≤ depth then none
          else
            match rest.dropWhile isSpace with
            | '\x7d' :: after => some (.table .inline [], after)
            | other =>
                (pairs? fuel (depth + 1) [] other).map fun (entries, rest) =>
                  (.table .inline entries, rest)
      | c :: _ =>
          if c = '"' ∨ c = '\'' then
            (quoted? text).map fun (content, rest) => (.text (String.ofList content), rest)
          else plainScalar? text
      | [] => none

def items? : Nat → Nat → List Char → Option (List Item × List Char)
  | 0, _, _ => none
  | fuel + 1, depth, text =>
      match skipBlank text.length text with
      | ']' :: rest => some ([], rest)
      | other => do
          let (item, rest) ← value? fuel depth other
          match skipBlank rest.length rest with
          | ',' :: after => (items? fuel depth after).map fun (items, rest) => (item :: items, rest)
          | ']' :: after => some ([item], after)
          | _ => none

def pairs? : Nat → Nat → Entries → List Char → Option (Entries × List Char)
  | 0, _, _, _ => none
  | fuel + 1, depth, entries, text => do
      let (parts, rest) ← key? text.length text
      let (path, key) ← splitKey? parts
      let rest ← after? '=' rest
      let (item, rest) ← value? fuel depth (rest.dropWhile isSpace)
      let entries ← assign path key item .inline entries
      match rest.dropWhile isSpace with
      | ',' :: after => pairs? fuel depth entries after
      | '\x7d' :: after => some (entries, after)
      | _ => none

end

structure Document where
  root : Entries
  path : List String

def Document.assign? (document : Document) (path : List String) (key : String) (item : Item) :
    Option Document :=
  (changeAt false (fun kind entries => assign path key item kind entries) document.path .header
    document.root).map fun root => { document with root := root }

def header? (document : Document) (text : List Char) : Option (Document × List Char) :=
  match text with
  | '[' :: rest => do
      let (parts, rest) ← key? rest.length rest
      let (path, key) ← splitKey? parts
      let rest ← after? ']' rest
      let rest ← after? ']' rest
      let root ← defineElement path key document.root
      some (⟨root, parts⟩, rest)
  | _ => do
      let (parts, rest) ← key? text.length text
      let (path, key) ← splitKey? parts
      let rest ← after? ']' rest
      let root ← defineTable path key document.root
      some (⟨root, parts⟩, rest)

def line? (document : Document) (text : List Char) : Option (Document × List Char) :=
  match text with
  | '[' :: rest => header? document rest
  | c :: _ =>
      if c = '#' ∨ c = '\n' ∨ c = '\r' then some (document, text)
      else do
        let (parts, rest) ← key? text.length text
        let (path, key) ← splitKey? parts
        let rest ← after? '=' rest
        let (item, rest) ← value? (2 * text.length + 2) 0 (rest.dropWhile isSpace)
        let document ← document.assign? path key item
        some (document, rest)
  | [] => some (document, [])

def lines? : Nat → Document → List Char → Option Entries
  | 0, _, _ => none
  | fuel + 1, document, text => do
      let (document, rest) ← line? document (text.dropWhile isSpace)
      match skipComment (rest.dropWhile isSpace) with
      | [] => some document.root
      | other => do
          let rest ← lineEnd? other
          lines? fuel document rest

/-- The entries of a document; a byte order mark at its start does not count. -/
def read? (text : String) : Option Entries :=
  let body :=
    match text.toList with
    | '\ufeff' :: rest => rest
    | other => other
  lines? (body.length + 1) ⟨[], []⟩ body

end TagTemplate.Toml
