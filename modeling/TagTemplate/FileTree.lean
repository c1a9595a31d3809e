import TagTemplate.IoError
import TagTemplate.Path

/-! File systems as trees of named nodes. -/

namespace TagTemplate

abbrev Name := List Char

abbrev Location := List Name

inductive FileNode where
  | directory
  | file (content : ByteArray) (executable : Bool)
  | link (target : Path)

structure FileTree where
  entries : List (Location × FileNode)
  here : Location

namespace FileTree

def node? (tree : FileTree) (location : Location) : Option FileNode :=
  if location = [] then some .directory
  else (tree.entries.find? fun entry => entry.1 == location).map (·.2)

def put (tree : FileTree) (location : Location) (node : FileNode) : FileTree :=
  { tree with
    entries := (location, node) :: tree.entries.filter fun entry => entry.1 != location }

def erase (tree : FileTree) (location : Location) : FileTree :=
  { tree with entries := tree.entries.filter fun entry => entry.1 != location }

def eraseBelow (tree : FileTree) (location : Location) : FileTree :=
  { tree with entries := tree.entries.filter fun entry => !location.isPrefixOf entry.1 }

def nameIn? (directory location : Location) : Option Name :=
  if location.dropLast = directory then location.getLast? else none

def namesIn (tree : FileTree) (directory : Location) : List Name :=
  (tree.entries.filterMap fun entry => nameIn? directory entry.1).mergeSort
    Text.isAtMost

theorem find?_filter_ne (entries : List (Location × FileNode)) {location other : Location}
    (different : location ≠ other) :
    (entries.filter fun entry => entry.1 != location).find? (fun entry => entry.1 == other) =
      entries.find? fun entry => entry.1 == other := by
  induction entries with
  | nil => rfl
  | cons entry rest ih =>
      by_cases here : entry.1 = location
      · have elsewhere : entry.1 ≠ other := here ▸ different
        rw [List.filter_cons_of_neg (by simpa using here), ih,
          List.find?_cons_of_neg (by simpa using elsewhere)]
      · rw [List.filter_cons_of_pos (by simpa using here), List.find?_cons, List.find?_cons, ih]

theorem node?_put (tree : FileTree) (location other : Location) (node : FileNode)
    (below : location ≠ []) :
    (tree.put location node).node? other =
      if location = other then some node else tree.node? other := by
  by_cases same : location = other
  · subst same
    simp [node?, put, below]
  · by_cases root : other = []
    · simp [node?, root, below]
    · simp only [node?, put, root, same, ↓reduceIte]
      rw [List.find?_cons_of_neg (by simpa using same), find?_filter_ne _ same]

theorem node?_erase (tree : FileTree) (location other : Location) (below : location ≠ []) :
    (tree.erase location).node? other =
      if location = other then none else tree.node? other := by
  by_cases same : location = other
  · subst same
    have gone : (tree.entries.filter fun entry => entry.1 != location).find?
        (fun entry => entry.1 == location) = none := by
      simp
    simp [node?, erase, below, gone]
  · by_cases root : other = []
    · simp [node?, root, below]
    · simp only [node?, erase, root, same, ↓reduceIte, find?_filter_ne _ same]

end FileTree

end TagTemplate
