import CalcConsole.Command.Listing
import CalcConsole.Session.Location
import CalcConsole.Views.Auth
/-! # Visits

A visit is what every action needs: the settings, a client for the service, and the session with its active view.  What
the actions do in it follows, each with what it prints. -/
namespace CalcConsole

structure Visit where
  config : Config
  client : Client
  session : Session Disk
  router : Router

namespace Visit

def start (s : Surroundings) (c : Config) (k : Console Disk) : Visit × Console Disk :=
  let path := SessionFile.path s.home c.sessionFolder c.sessionName
  let (session, k) := Session.«open» (Storage.file s.place path) (k.note (.openingSession path))
  let (router, k) := Router.restore session k
  (⟨c, Client.make c.baseUrl c.timeoutMs, session, router⟩, k)

def goTo (v : Visit) (view : ViewName) (k : Console Disk) : Except CommandError Visit × Console Disk :=
  match v.router.navigate v.session view k with
  | (.error e, _, _, k) => (.error (.recordView e), k)
  | (.ok _, router, session, k) => (.ok { v with session, router }, k)

/-- The names of all views, with the active one underlined. -/
def header (s : Screen) (v : Visit) : String :=
  "  ".intercalate (ViewName.all.map fun w => s.paint (if w = v.router.active then .active else .faint) w.name)

def printHeader (s : Screen) (v : Visit) (k : Console Disk) : Console Disk := printLines k [header s v, ""]

def reportFailure (s : Screen) (e : ServiceError) (k : Console Disk) : Result × Console Disk :=
  let k := printNotice s.asTable (.failure e.message) k
  (.ok .failure,
    if e.isAuth then
      k.printAside ("  " ++ s.paint .faint "Hint:" ++ " log in with `daec login --email <EMAIL> --password <PASSWORD>`")
    else k)

def headed (s : Screen) (v : Visit) (k : Console Disk) : Console Disk :=
  if s.format = .table then v.printHeader s k else k

def afterNotice (s : Screen) (n : Notice) (listing : Console Disk → Console Disk) (k : Console Disk) :
    Result × Console Disk :=
  let k := printNotice s n k
  if n.isFailure then (.ok .failure, k) else (.ok .success, listing k)

/-! ## Expressions -/

def showExpressions (s : Screen) (v : Visit) (k : Console Disk) : Result × Console Disk :=
  match (ExpressionsView.new v.config.clearInput).refresh v.client v.session.token k with
  | (.error e, _, k) => reportFailure s e k
  | (.ok _, view, k) => (.ok .success, Listing.expressions s view.rows (v.headed s k))

/-- Submits an expression and shows the list that then holds it.  The list is fetched before too, and it is no harm if
that fails. -/
def submit (s : Screen) (text : String) (v : Visit) (k : Console Disk) : Result × Console Disk :=
  let (r, view, k) := (ExpressionsView.new v.config.clearInput).refresh v.client v.session.token k
  let k := match r with
    | .error e => k.note (.submittingWithoutList e.message)
    | .ok _ => k
  match ExpressionsView.submit { view with input := text } v.client v.session.token k with
  | (none, _, k) => (.ok .failure, printNotice s (.failure "Enter an expression to calculate") k)
  | (some n, view, k) => afterNotice s n (Listing.expressions s view.rows) k

/-! ## Operations -/

def showOperations (s : Screen) (v : Visit) (k : Console Disk) : Result × Console Disk :=
  match OperationsView.new.refresh v.client v.session.token k with
  | (.error e, _, k) => reportFailure s e k
  | (.ok _, view, k) => (.ok .success, Listing.operations s view.rows (v.headed s k))

def unknownType (operationType : String) (rows : List OperationRow) : String :=
  "Unknown operation type '" ++ operationType ++ "' (known: " ++
    ", ".intercalate (rows.map (·.operation.operationType)) ++ ")"

/-- Sets the cost of an operation, if it is another one than before. -/
def setCost (s : Screen) (operationType : String) (cost : Nat) (v : Visit) (k : Console Disk) :
    Result × Console Disk :=
  match OperationsView.new.refresh v.client v.session.token k with
  | (.error e, _, k) => reportFailure s e k
  | (.ok _, view, k) =>
    match view.edit operationType cost with
    | (false, view) => (.ok .failure, printNotice s (.failure (unknownType operationType view.rows)) k)
    | (true, view) =>
      match view.save v.client v.session.token operationType k with
      | (none, view, k) =>
        let message := operationType ++ " already takes " ++ toString cost ++ "s, nothing to save"
        afterNotice s (.success message) (Listing.operations s view.rows) k
      | (some n, view, k) => afterNotice s n (Listing.operations s view.rows) k

/-! ## Agents -/

def showAgents (s : Screen) (v : Visit) (k : Console Disk) : Result × Console Disk :=
  match AgentsView.new.refresh v.client v.session.token k with
  | (.error e, _, k) => reportFailure s e k
  | (.ok _, view, k) => (.ok .success, Listing.agents s view.rows (v.headed s k))

/-! ## Accounts -/

def account (s : Screen) (mode : AuthMode) (c : Credentials) (v : Visit) (k : Console Disk) : Result × Console Disk :=
  let form := ((AuthView.new.switchMode mode).setEmail c.email).setPassword c.password
  match form.submit v.client v.session k with
  | (none, _, _, k) => (.ok .failure, printNotice s.asTable (.failure "Email and password are both required") k)
  | (some n, form, _, k) =>
    afterNotice s.asTable n (fun k =>
      if form.mode = .login ∧ mode = .registration then
        k.printLine ("  " ++ s.paint .faint "Next:" ++ " Log in with `daec login --email " ++ c.email ++ "`")
      else k) k

def notLoggedIn (s : Screen) : String := "  " ++ s.paint .faint "·" ++ " Not logged in"

def logout (s : Screen) (v : Visit) (k : Console Disk) : Result × Console Disk :=
  match v.session.change .clearToken k with
  | (.error e, _, k) => (.error (.clearToken e), k)
  | (.ok (), _, k) =>
    (.ok .success,
      if v.session.state.isAuthenticated then printNotice s.asTable (.success "Logged out") k
      else k.printLine (notLoggedIn s))

/-- The view of the login has no list, and says what a user can do. -/
def showLogin (s : Screen) (v : Visit) (k : Console Disk) : Result × Console Disk :=
  let lines := if v.session.state.isAuthenticated then
      ["  " ++ s.paint .good "✓" ++ " Logged in",
        "    " ++ s.paint .faint "Run `daec logout` to drop the token."]
    else [notLoggedIn s]
  (.ok .success, printLines (v.printHeader s k) (lines ++ ["",
    "  " ++ s.paint .strong "Login:" ++ " daec login --email <EMAIL> --password <PASSWORD>",
    "  " ++ s.paint .strong "Registration:" ++ " daec register --email <EMAIL> --password <PASSWORD>"]))

/-! ## The whole -/

def showActive (s : Screen) (v : Visit) (k : Console Disk) : Result × Console Disk :=
  match v.router.active with
  | .expressions => v.showExpressions s k
  | .operations => v.showOperations s k
  | .agents => v.showAgents s k
  | .login => v.showLogin s k

def statusLine (s : Screen) (name : String) (fine : Bool) (detail : String) : String :=
  "  " ++ (if fine then s.paint .good "✓" else s.paint .bad "✗") ++ " " ++ Text.fillRight 15 name ++ " " ++
    s.paint .faint detail

def title (s : Screen) (text : String) : List String := [s.paint .heading text, Listing.rule 50 '=', ""]

def status (s : Screen) (v : Visit) (k : Console Disk) : Result × Console Disk :=
  let authenticated := v.session.state.isAuthenticated
  let k := printLines k (title s "daec Status" ++ [
    statusLine s "Session" true v.session.storage.location,
    statusLine s "Active view" true v.router.active.name,
    statusLine s "Token" authenticated (if authenticated then "present" else "not logged in")])
  match v.client.listAgents v.session.token k with
  | (.ok agents, k) =>
    let detail := v.client.baseUrl ++ " (" ++ toString agents.length ++ " agents)"
    (.ok .success, k.printLine (statusLine s "Service" true detail))
  | (.error e, k) =>
    (.ok .failure, k.printLine (statusLine s "Service" false (v.client.baseUrl ++ " (" ++ e.message ++ ")")))

end Visit
end CalcConsole
