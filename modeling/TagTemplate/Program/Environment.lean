import TagTemplate.Path
import TagTemplate.Program.Octets

/-! The variables that programs are started with. -/

namespace TagTemplate

abbrev Environment := List (Octets × Octets)

namespace Environment

def ofList (bindings : List (String × String)) : Environment :=
  bindings.map fun entry => (Octets.ofString entry.1, Octets.ofString entry.2)

def get? (environment : Environment) (name : String) : Option Octets :=
  (environment.find? fun entry => entry.1 == Octets.ofString name).map (·.2)

def text? (environment : Environment) (name : String) : Option String :=
  (environment.get? name).map Octets.display

def put (environment : Environment) (name value : Octets) : Environment :=
  (name, value) :: environment.filter fun entry => entry.1 != name

def erase (environment : Environment) (name : Octets) : Environment :=
  environment.filter fun entry => entry.1 != name

def system : Environment :=
  ofList
    [("PATH", "/usr/local/sbin:/usr/local/bin:/usr/sbin:/usr/bin:/sbin:/bin"), ("HOME", "/root")]

def searchPath (environment : Environment) : Octets :=
  (environment.get? "PATH").getD "/bin:/usr/bin".toList

def searchDirectories (environment : Environment) : List Path :=
  (Text.pieces (· == ':') environment.searchPath).map fun text => Path.ofText (Octets.toText text)

def home (environment : Environment) : Path :=
  Path.ofText ((environment.get? "HOME").getD "/root".toList).toText

end Environment

end TagTemplate
