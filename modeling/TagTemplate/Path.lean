import TagTemplate.Text.Pieces

/-! File paths: their text, their components, and the paths around them. -/

namespace TagTemplate

/-- A path as its text between slashes. A slash at the start makes it absolute and is not among the
segments; repeated slashes show as empty segments. -/
structure Path where
  absolute : Bool
  segments : List (List Char)
deriving DecidableEq, Repr, Inhabited

inductive Component where
  | root
  | current
  | parent
  | normal (name : List Char)
deriving DecidableEq, Repr

namespace Path

def ofText (text : List Char) : Path :=
  match text with
  | '/' :: rest => ⟨true, Text.pieces (· == '/') rest⟩
  | other => ⟨false, Text.pieces (· == '/') other⟩

def ofString (text : String) : Path := ofText text.toList

def text (path : Path) : List Char :=
  (if path.absolute then ['/'] else []) ++ List.intercalate ['/'] path.segments

def display (path : Path) : String := String.ofList path.text

def current : Path := ⟨false, [['.']]⟩

def isEmpty (path : Path) : Bool := path.text.isEmpty

/-- Whether a segment stands for a component: empty segments do not, and a single point does only at
the start of a relative path. -/
def names (first : Bool) (segment : List Char) : Bool :=
  !segment.isEmpty && (first || segment != ['.'])

def component (segment : List Char) : Component :=
  if segment = ['.'] then .current else if segment = ['.', '.'] then .parent else .normal segment

def componentsOf (first : Bool) : List (List Char) → List Component
  | [] => []
  | segment :: rest =>
      if names first segment then component segment :: componentsOf false rest
      else componentsOf false rest

/-- The components of a path. Paths with equal components are the same path. -/
def components (path : Path) : List Component :=
  (if path.absolute then [.root] else []) ++ componentsOf (!path.absolute) path.segments

def trimReversed (absolute : Bool) : List (List Char) → List (List Char)
  | [] => []
  | last :: before =>
      if names (!absolute && before.isEmpty) last then last :: before
      else trimReversed absolute before

def trimSegments (absolute : Bool) (segments : List (List Char)) : List (List Char) :=
  (trimReversed absolute segments.reverse).reverse

def fileName? (path : Path) : Option (List Char) :=
  match path.components.getLast? with
  | some (.normal name) => some name
  | _ => none

/-- The path without its last component; the root and the empty path have no parent. -/
def parent? (path : Path) : Option Path :=
  match trimSegments path.absolute path.segments with
  | [] => none
  | segment :: rest =>
      match trimSegments path.absolute ((segment :: rest).dropLast) with
      | [] => some ⟨path.absolute, [[]]⟩
      | kept => some ⟨path.absolute, kept⟩

/-- A path seen from a base: an absolute path stays, any other is put behind the base with one slash
between, unless the base is empty or ends in a slash. -/
def join (base path : Path) : Path :=
  if path.absolute then path
  else
    ⟨base.absolute,
      (if base.segments.getLast? = some [] then base.segments.dropLast else base.segments) ++
        path.segments⟩

/-- A path with its last component, if that is a name, replaced by another name; else with the name
added. -/
def withFileName (path : Path) (name : List Char) : Path :=
  let base := if path.fileName?.isSome then path.parent?.getD path else path
  base.join ⟨false, [name]⟩

def ancestorsWithin : Nat → Path → List Path
  | 0, path => [path]
  | fuel + 1, path =>
      path ::
        match path.parent? with
        | some parent => ancestorsWithin fuel parent
        | none => []

def ancestors (path : Path) : List Path := ancestorsWithin path.segments.length path

def endsInSlash (path : Path) : Bool := path.segments.getLast? == some [] && !path.isEmpty

def endsInDirection (path : Path) : Bool :=
  match path.segments.reverse.dropWhile List.isEmpty with
  | [] => true
  | last :: _ => last == ['.'] || last == ['.', '.']

theorem text_ofText (text : List Char) : (ofText text).text = text := by
  unfold ofText
  split <;> simp [Path.text, Text.intercalate_pieces]

end Path

end TagTemplate
