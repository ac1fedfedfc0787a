import CalcConsole.Json.Reader
import CalcConsole.Text.Digits
/-! # Requests and answers

The console asks one question at a time.  A `Network` is what answers: a script of outcomes for the requests to come,
one outcome for all that follow them, and the requests that have arrived so far.  There is one outcome for each call of
the library, which may have to send a request a second time where it reuses a connection that has been closed. -/
namespace CalcConsole

structure Request where
  method : String
  /-- With the query, as it is sent. -/
  path : String
  authorization : Option String
  accept : Option String
  contentType : Option String
  body : String
deriving DecidableEq, Repr

/-- The bytes of a body that come, and whether they are all of it. -/
structure Body where
  bytes : ByteArray
  whole : Bool

instance : Coe ByteArray Body := ⟨fun bytes => ⟨bytes, true⟩⟩

namespace Body

/-- The longest body that is taken for a text, in bytes. -/
def maxText : Nat := 10 * 1024 * 1024

/-- The body as a text, which is empty where the body breaks off or is too long. -/
def text (b : Body) : String := if b.whole && b.bytes.size ≤ maxText then Text.lossy b.bytes else ""

/-- The body as a value, of which nothing can be the end where the body breaks off. -/
def document (b : Body) : Json.Document := { Json.readBytes b.bytes with ended := (Json.readBytes b.bytes).ended && b.whole }

end Body

/-- An answer with a head that can be read. -/
structure Reply where
  status : Nat
  reason : String
  body : Body

/-- What becomes of a request: it is answered, or it arrives and the connection is closed, or it never arrives. -/
inductive Outcome where
  | answered (reply : Reply)
  | dropped
  | refused

structure Network where
  script : List Outcome
  afterwards : Outcome
  received : List Request

namespace Network

def next (n : Network) : Outcome := n.script.headD n.afterwards

def send (n : Network) (r : Request) : Outcome × Network :=
  match n.next with
  | .refused => (.refused, { n with script := n.script.tail })
  | o => (o, { n with script := n.script.tail, received := n.received ++ [r] })

end Network

/-! ## Addresses -/

structure Url where
  host : String
  path : String
deriving DecidableEq, Repr

namespace Url

open Text (hexUpper)

/-- ASCII as it is, and every other character as its bytes behind percent signs. -/
def encoded (s : String) : String :=
  String.ofList (s.toList.flatMap fun c =>
    if c.toNat < 0x80 then [c]
    else (String.singleton c).toUTF8.toList.flatMap fun b => ['%', hexUpper (b.toNat / 16), hexUpper (b.toNat % 16)])

def isHostEnd (c : Char) : Bool := c == '/' || c == '?' || c == '#'

def afterScheme? (cs : List Char) : Option (List Char) :=
  if (cs.take 7).map Char.toLower = "http://".toList then some (cs.drop 7)
  else if (cs.take 8).map Char.toLower = "https://".toList then some (cs.drop 8)
  else none

/-- An absolute address of the web, with a host. -/
def read? (s : String) : Option Url :=
  match afterScheme? s.toList with
  | none => none
  | some rest =>
    let host := rest.takeWhile (!isHostEnd ·)
    let path := (rest.dropWhile (!isHostEnd ·)).takeWhile (· ≠ '#')
    if host.isEmpty || host.any (fun c => c.toNat ≤ 0x20) then none
    else
      let path := if path.head? = some '/' then path else '/' :: path
      some ⟨String.ofList host, encoded (String.ofList path)⟩

end Url

/-- Whether a header may hold the value: tabs and the printable characters of ASCII. -/
def isHeaderValue (s : String) : Bool := s.toList.all fun c => c == '\t' || (0x20 ≤ c.toNat && c.toNat ≤ 0x7e)

def isHeaderBlank (c : Char) : Bool := c == ' ' || c == '\t'

/-- The value as it is sent, without blanks at its end. -/
def sentHeader (s : String) : String := String.ofList (s.toList.reverse.dropWhile isHeaderBlank).reverse

end CalcConsole
