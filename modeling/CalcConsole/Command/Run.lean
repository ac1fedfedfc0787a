import CalcConsole.Command.Visit
/-! # Running a command

An action takes place in a visit, and goes to its view before anything is asked of the service.  What is done to the
settings needs neither session nor service. -/
namespace CalcConsole

namespace Action

def act (screen : Screen) : Action → Visit → Console Disk → Result × Console Disk
  | .«open» _ => Visit.showActive screen
  | .listExpressions => Visit.showExpressions screen
  | .submit text => Visit.submit screen text
  | .listOperations => Visit.showOperations screen
  | .setCost operationType cost => Visit.setCost screen operationType cost
  | .listAgents => Visit.showAgents screen
  | .login credentials => Visit.account screen .login credentials
  | .register credentials => Visit.account screen .registration credentials
  | .logout => Visit.logout screen
  | .status => Visit.status screen

def run (screen : Screen) (a : Action) (v : Visit) (k : Console Disk) : Result × Console Disk :=
  match a.destination? with
  | none => a.act screen v k
  | some view =>
    match v.goTo view k with
    | (.error e, k) => (.error e, k)
    | (.ok v, k) => a.act screen v k

end Action

namespace ConfigAction

def sourceLine (s : Screen) (name : String) (present : Bool) : String :=
  if present then "  " ++ s.paint .found "✓" ++ " " ++ s.paint .faint name
  else "  " ++ s.paint .faint "·" ++ " " ++ s.paint .faint (name ++ " (not found)")

def presentation (s : Surroundings) (screen : Screen) (text : String) (d : Disk) : List String :=
  Visit.title screen "Effective daec Configuration" ++ [text,
    screen.paint .faint "Sources (highest priority last):",
    "  " ++ screen.paint .faint "·" ++ " built-in defaults",
    sourceLine screen "~/.daec/config.toml" (d.contains s.place s.globalFile),
    sourceLine screen ".daec.toml" (d.contains s.place s.projectFile),
    "  " ++ screen.paint .faint "·" ++ " " ++ screen.paint .faint "DAEC_* environment variables"]

/-- Keeps the disk that a change leaves, and prints a line if the change was made. -/
def settle (screen : Screen) (changed : Except ConfigError Unit × Disk) (line : String) (k : Console Disk) :
    Result × Console Disk :=
  match changed with
  | (.error e, d) => (.error (.config e), { k with store := d })
  | (.ok (), d) => (.ok .success, { k with store := d }.printLine (screen.paint .good "✓" ++ " " ++ line))

def run (s : Surroundings) (screen : Screen) (c : Config) (a : ConfigAction) (k : Console Disk) :
    Result × Console Disk :=
  match a with
  | .present =>
    match c.effective with
    | .error e => (.error (.config e), k)
    | .ok text => (.ok .success, printLines k (presentation s screen text k.store))
  | .init force => settle screen (Config.init s force k.store) ("Config written to " ++ s.globalFile) k
  | .set key value =>
    settle screen (Config.setValue s key value k.store) ("Set " ++ screen.paint .strong key ++ " = " ++ value) k
  | .reset => settle screen (Config.reset s k.store) ("Config reset to defaults at " ++ s.globalFile) k

end ConfigAction

def Command.run (s : Surroundings) (screen : Screen) (c : Config) (cmd : Command) (k : Console Disk) :
    Result × Console Disk :=
  match cmd with
  | .config a => a.run s screen c k
  | .visit a =>
    let (v, k) := Visit.start s c k
    a.run screen v k

end CalcConsole
