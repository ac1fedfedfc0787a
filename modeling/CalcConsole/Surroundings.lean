import CalcConsole.Disk
/-! # The surroundings of a run

The home of the user, the working folder and the variables of the environment. -/
namespace CalcConsole

structure Surroundings where
  home : String
  /-- The working folder, by its path from the root. -/
  folder : String
  environment : List (String × String)

namespace Surroundings

def lookup (s : Surroundings) (name : String) : Option String := (s.environment.find? (·.1 = name)).map (·.2)

/-- The place from which relative paths start. -/
def place (s : Surroundings) : Place := Path.segments s.folder

/-- The file of settings for all that a user does. -/
def globalFile (s : Surroundings) : String := Path.join (Path.join s.home ".daec") "config.toml"

/-- The file of settings for one folder. -/
def projectFile (s : Surroundings) : String := Path.join s.folder ".daec.toml"

end Surroundings
end CalcConsole
