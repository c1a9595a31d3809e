import TagTemplate.Config
import TagTemplate.FileTree.Place

/-! Configurations in files, whose relative paths start from the directory of the file. -/

namespace TagTemplate.Config

def load (files : FileTree) (path : Path) : Except Failure Config :=
  match files.readText path with
  | .error cause => .error (.configUnreadable (.unreadable path cause))
  | .ok text =>
      match read text with
      | .error failure => .error failure
      | .ok config =>
          match path.parent? with
          | some base => .ok (config.anchoredAt base)
          | none => .ok config

def defaultFile : Path := Path.ofString "bracelet.toml"

def find (files : FileTree) (named : Option Path) : Except Failure Config :=
  match named with
  | some path => load files path
  | none => if files.isFile defaultFile then load files defaultFile else .ok default

end TagTemplate.Config
