import TagTemplate.Numeral.Digits
import TagTemplate.Shell.Word

/-! The tokens of scripts, with the texts that follow the lines they are announced in. -/

namespace TagTemplate.Shell

inductive Token where
  | word (word : Word)
  | descriptor (number : Nat)
  | sign (text : String)
  | fault (message : String)
  | finish

structure Located where
  line : Nat
  token : Token

/-- A text that is announced: whether tabs at the start of its lines do not count, whether it is
taken as it is, and the line that ends it. -/
structure Announcement where
  stripTabs : Bool
  literal : Bool
  delimiter : Octets

def signs : List String :=
  ["&&", "||", ";;", "<<-", "<<", "<&", "<>", ">>", ">&", ">|", "&", ";", "|", "<", ">", "(", ")"]

def sign? (text : Octets) : Option (String × Octets) :=
  (signs.find? fun sign => sign.toList.isPrefixOf text).map fun sign =>
    (sign, text.drop sign.length)

def descriptor? (text : Octets) : Option (Nat × Octets) :=
  let number := text.takeWhile Char.isDigit
  let rest := text.dropWhile Char.isDigit
  if !number.isEmpty && (rest.head? == some '<' || rest.head? == some '>') then
    some (Numeral.ofDigits 10 number, rest)
  else none

def linesBetween (text rest : Octets) : Nat :=
  (text.take (text.length - rest.length)).count '\n'

def plainText : Word → Octets × Bool
  | [] => ([], false)
  | part :: rest =>
      let (text, quoted) := plainText rest
      match part with
      | .text chars => (chars ++ text, quoted)
      | .quoted chars => (chars ++ text, true)
      | _ => (text, quoted)

def announcedText (announcement : Announcement) : Nat → Octets → Octets × Octets
  | 0, text => ([], text)
  | _, [] => ([], [])
  | fuel + 1, text =>
      let line := text.takeWhile (· != '\n')
      let after := (text.dropWhile (· != '\n')).drop 1
      let line := if announcement.stripTabs then line.dropWhile (· == '\t') else line
      if line = announcement.delimiter then ([], after)
      else
        let (more, rest) := announcedText announcement fuel after
        (line ++ '\n' :: more, rest)

def announced : List Announcement → Octets → List Word × Octets
  | [], text => ([], text)
  | announcement :: more, text =>
      let (content, rest) := announcedText announcement (text.length + 1) text
      let word : Word :=
        if announcement.literal then [.quoted content]
        else
          match parts (content.length + 1) .document content with
          | .ok (word, _) => word
          | .error _ => []
      let (words, rest) := announced more rest
      (word :: words, rest)

/-- The tokens of a text from a line on, and the texts announced in it. The last sign may have
announced one, with tabs that do not count. -/
def tokensFrom : Nat → (line : Nat) → (awaited : Option Bool) → List Announcement → Octets →
    List Located × List Word
  | 0, line, _, _, _ => ([⟨line, .finish⟩], [])
  | fuel + 1, line, awaited, announcements, text =>
      match text.dropWhile isSpace with
      | [] => ([⟨line, .finish⟩], (announced announcements []).1)
      | '\\' :: '\n' :: rest => tokensFrom fuel (line + 1) awaited announcements rest
      | '#' :: rest =>
          tokensFrom fuel line awaited announcements (rest.dropWhile (· != '\n'))
      | '\n' :: rest =>
          let (words, after) := announced announcements rest
          let next := line + 1 + linesBetween rest after
          let (tokens, more) := tokensFrom fuel next none [] after
          (⟨line, .sign "\n"⟩ :: tokens, words ++ more)
      | text =>
          let go (token : Token) (awaited : Option Bool) (announcements : List Announcement)
              (rest : Octets) : List Located × List Word :=
            let line := line + linesBetween text rest
            let (tokens, words) := tokensFrom fuel line awaited announcements rest
            (⟨line, token⟩ :: tokens, words)
          match sign? text with
          | some (sign, rest) =>
              let awaited :=
                if sign = "<<" then some false else if sign = "<<-" then some true else none
              go (.sign sign) awaited announcements rest
          | none =>
              match descriptor? text with
              | some (number, rest) => go (.descriptor number) none announcements rest
              | none =>
                  match readWord text with
                  | .error message =>
                      ([⟨line + text.count '\n', .fault message⟩], [])
                  | .ok (word, rest) =>
                      let (delimiter, literal) := plainText word
                      let announcements :=
                        match awaited with
                        | some stripTabs =>
                            announcements ++ [⟨stripTabs, literal, delimiter⟩]
                        | none => announcements
                      go (.word word) none announcements rest

def tokens (text : Octets) : List Located × List Word :=
  tokensFrom (text.length + 1) 1 none [] text

end TagTemplate.Shell
