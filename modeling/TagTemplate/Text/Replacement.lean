import TagTemplate.Text.Pieces
import TagTemplate.Unicode.Casing
import TagTemplate.Unicode.Letter

/-! Changing parts of a text: occurrences of a target, tags, capitals, and what a slug leaves out. -/

namespace TagTemplate.Text

/-- Every occurrence of a target replaced. After an occurrence the search goes on behind it; an
empty target has no occurrences. -/
def replaceAll (target replacement : List Char) (text : List Char) : List Char :=
  match text with
  | [] => []
  | c :: rest =>
      if target ≠ [] ∧ target.isPrefixOf (c :: rest) then
        replacement ++ replaceAll target replacement (rest.drop (target.length - 1))
      else c :: replaceAll target replacement rest
termination_by text.length
decreasing_by
  · simp only [List.length_drop, List.length_cons]
    omega
  · simp

def stripTags (text : List Char) : List Char :=
  match text with
  | [] => []
  | c :: rest =>
      if c = '<' ∧ '>' ∈ rest then stripTags ((rest.dropWhile (· != '>')).drop 1)
      else c :: stripTags rest
termination_by text.length
decreasing_by
  · have := (List.dropWhile_sublist (· != '>') (l := rest)).length_le
    simp only [List.length_drop, List.length_cons]
    omega
  · simp

def capitalizeFirst : List Char → List Char
  | [] => []
  | c :: rest => Unicode.upperChar c ++ rest

/-- The rest of a text with the first character of every word in upper case and, if `fully`, the
others in lower case; `start` tells whether the next character begins a word. -/
def capitalizeFrom (fully : Bool) (start : Bool) : List Char → List Char
  | [] => []
  | c :: rest =>
      if Unicode.isBlank c then c :: capitalizeFrom fully true rest
      else
        (if start then Unicode.upperChar c
        else if fully then Unicode.lowerChar c
        else [c]) ++ capitalizeFrom fully false rest

def capitalize (fully : Bool) (text : List Char) : List Char := capitalizeFrom fully true text

def hyphenate (text : List Char) : List Char :=
  match text with
  | [] => []
  | c :: rest =>
      if Unicode.isLetterOrNumber c then c :: hyphenate rest
      else '-' :: hyphenate (rest.dropWhile fun d => !Unicode.isLetterOrNumber d)
termination_by text.length
decreasing_by
  · simp
  · have := (List.dropWhile_sublist (fun d => !Unicode.isLetterOrNumber d) (l := rest)).length_le
    simp only [List.length_cons]
    omega

def slugify (text : List Char) : List Char := hyphenate (Unicode.toLower (trim text))

end TagTemplate.Text
