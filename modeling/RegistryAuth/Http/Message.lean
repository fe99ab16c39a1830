import RegistryAuth.Codec.Bytes
import RegistryAuth.Json.Printer
import RegistryAuth.Text.Split

/-! # Requests and responses

The parts of the messages that the server reads and writes. Header names are in
lower case. A target is cut into a path and a query; nothing is decoded in the
path.
-/

namespace RegistryAuth.Http

structure Request where
  method : String
  target : String
  headers : List (String × Bytes)
  body : Bytes

inductive Body where
  | empty
  | text (value : String)
  | json (value : Json)
  | html
deriving Repr

structure Response where
  status : Nat
  headers : List (String × String)
  body : Body
deriving Repr

namespace Request

/-- The value of the first header of a name. -/
def header? (request : Request) (name : String) : Option Bytes :=
  request.headers.lookup name

/-- The target without the scheme and the host that it may begin with. -/
def localTarget (target : List Char) : List Char :=
  match target with
  | '/' :: _ => target
  | _ =>
    match Text.splitFirst? ':' target with
    | some (_, '/' :: '/' :: rest) => rest.dropWhile fun c => c != '/' && c != '?' && c != '#'
    | _ => target

def withoutFragment (target : List Char) : List Char := target.takeWhile (· != '#')

def path (request : Request) : String :=
  String.ofList
    ((withoutFragment (localTarget request.target.toList)).takeWhile (· != '?'))

def query (request : Request) : Bytes :=
  match Text.splitFirst? '?' (withoutFragment (localTarget request.target.toList)) with
  | some (_, query) => Bytes.ofText (String.ofList query)
  | none => []

end Request

/-- A header value as text, if it holds nothing but visible characters, spaces and tabs. -/
def visibleText? (value : Bytes) : Option (List Char) :=
  if value.all fun b => (32 ≤ b && b < 127) || b == 9 then
    some (value.map fun b => Char.ofNat b.toNat)
  else none

/-- Whether a text can be sent as a header value. -/
def isHeaderValue (text : String) : Bool :=
  text.toList.all fun c => (32 ≤ c.toNat && c.toNat ≠ 127) || c == '\t'

namespace Response

def plain (status : Nat) (text : String) : Response :=
  ⟨status, [("content-type", "text/plain; charset=utf-8")], .text text⟩

def ofJson (status : Nat) (value : Json) : Response :=
  ⟨status, [("content-type", "application/json")], .json value⟩

def ofHtml : Response := ⟨200, [("content-type", "text/html; charset=utf-8")], .html⟩

def bare (status : Nat) (headers : List (String × String)) : Response := ⟨status, headers, .empty⟩

def withHeaders (response : Response) (headers : List (String × String)) : Response :=
  { response with headers := response.headers ++ headers }

def withoutBody (response : Response) : Response := { response with body := .empty }

end Response

end RegistryAuth.Http
