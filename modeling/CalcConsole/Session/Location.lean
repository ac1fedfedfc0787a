import CalcConsole.Disk
/-! # The file of a session

Each session name has a file of its own.  The name keeps letters, digits, `-` and `_`, and every other character gives
way to `_`, so that no name leads out of the folder. -/
namespace CalcConsole
namespace SessionFile

def isNameChar (c : Char) : Bool := c.isAlphanum || c == '-' || c == '_'

def safeName (name : String) : String :=
  if name = "" then "default" else String.ofList (name.toList.map fun c => if isNameChar c then c else '_')

def defaultFolder (home : String) : String := Path.join (Path.join home ".daec") "sessions"

/-- The file of the session `name`, in the given folder or else in the one at home. -/
def path (home : String) (folder : Option String) (name : String) : String :=
  Path.join (folder.getD (defaultFolder home)) (safeName name ++ ".json")

end SessionFile
end CalcConsole
