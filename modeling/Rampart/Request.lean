import Rampart.Address
import Rampart.Anchored
import Rampart.Transform.Percent

/-!
# Requests

What is known of one request: where it came from, its line, its headers and its body, and the
arguments and cookies taken from them. Each value remembers where its bytes stand: arguments in the
query string or in the body, headers and cookies in the block of lines `name: value`.

A body is read for arguments once, as soon as both the body and a header that declares a form are
there, whichever comes first.
-/

namespace Rampart

/-- A decoded pair of a key and a value, with the place of the written value. -/
structure Pair where
  key : String
  text : String
  origin : Origin
  deriving DecidableEq, Repr

/-- The pair that one part of an encoded text stands for, where the part starts at an offset. Without
an equals sign the value is empty and stands at the end of the part. -/
def Pair.ofPart (offset : Nat) (part : List Char) : Pair :=
  let decoded (cs : List Char) := String.ofList (Percent.decode cs)
  match Text.cutAt? (· == '=') part with
  | some (key, text) =>
    ⟨decoded key, decoded text, ⟨offset + Text.byteLength key + 1, Text.byteLength text⟩⟩
  | none => ⟨decoded part, "", ⟨offset + Text.byteLength part, 0⟩⟩

/-- The pairs of parts that stand one after the other with one byte between them. Blank parts are
passed over. -/
def Pair.ofParts (offset : Nat) : List (List Char) → List Pair
  | [] => []
  | part :: parts =>
    let rest := ofParts (offset + Text.byteLength part + 1) parts
    if (Text.trimChars part).isEmpty then rest else ofPart offset part :: rest

/-- The pairs of an encoded text. -/
def Pair.ofText (separator : Char) (s : String) : List Pair :=
  ofParts 0 (Text.splitAt separator s.toList)

/-- Adds pairs to a set, each moved by an offset. -/
def AnchoredSet.pushPairs (s : AnchoredSet) (offset : Nat) (pairs : List Pair) : AnchoredSet :=
  pairs.foldl (fun s p => s.push p.key p.text ⟨offset + p.origin.offset, p.origin.length⟩) s

/-- What is known of one request. -/
structure Request where
  id : String
  client : Option Address
  /-- The seconds since the start of 1970 at which the request came. -/
  time : Int
  uri : Anchor
  method : Anchor
  query : Anchor
  body : Anchor
  remote : Anchor
  args : AnchoredSet
  argsGet : AnchoredSet
  headers : AnchoredSet
  cookies : AnchoredSet
  /-- The bytes of the header lines so far. -/
  headerBytes : Nat
  /-- The body has been read for arguments. -/
  bodyRead : Bool

namespace Request

/-- A request of which nothing is known but when it came. -/
def new (id : String) (time : Int) : Request where
  id := id
  client := none
  time := time
  uri := .unset "REQUEST_URI"
  method := .unset "REQUEST_METHOD"
  query := .unset "QUERY_STRING"
  body := .unset "REQUEST_BODY"
  remote := .unset "REMOTE_ADDR"
  args := .empty "ARGS"
  argsGet := .empty "ARGS_GET"
  headers := .empty "REQUEST_HEADERS"
  cookies := .empty "REQUEST_COOKIES"
  headerBytes := 0
  bodyRead := false

/-- The request with a method. -/
def withMethod (r : Request) (method : String) : Request := { r with method := r.method.set method 0 }

/-- The request with an address of the resource. -/
def withUri (r : Request) (uri : String) : Request := { r with uri := r.uri.set uri 0 }

/-- The request with a query string and its arguments. -/
def withQuery (r : Request) (query : String) : Request :=
  let pairs := Pair.ofText '&' query
  { r with
    query := r.query.set query 0
    args := r.args.pushPairs 0 pairs
    argsGet := r.argsGet.pushPairs 0 pairs }

/-- The first content type of the request declares a form. -/
def declaresForm (r : Request) : Bool :=
  match r.headers.first? "content-type" with
  | some s =>
    let small := (Text.trimLeft s.toList).map Char.toLower
    "application/x-www-form-urlencoded".toList.isPrefixOf small
  | none => false

/-- Takes the arguments from the body, if it has not been read and declares a form. -/
def readBody (r : Request) : Request :=
  if r.bodyRead then r
  else
    match r.body.text? with
    | none => r
    | some body =>
      if r.declaresForm then
        { r with args := r.args.pushPairs 0 (Pair.ofText '&' body), bodyRead := true }
      else r

/-- The request with one more header. A header with cookies adds them too. -/
def withHeader (r : Request) (name value : String) : Request :=
  let offset := r.headerBytes + Text.size name + 2
  let cookies :=
    if Text.sameText name "cookie" then
      r.cookies.pushPairs offset
        ((Pair.ofText ';' value).map fun p => { p with key := Text.trimStart p.key })
    else r.cookies
  readBody
    { r with
      headers := r.headers.pushWhole name value offset
      cookies := cookies
      headerBytes := offset + Text.size value + 1 }

/-- The request with a body. -/
def withBody (r : Request) (body : String) : Request :=
  readBody { r with body := r.body.set body 0, bodyRead := false }

/-- The request with the address it came from. -/
def withClient (r : Request) (a : Address) : Request :=
  { r with client := some a, remote := r.remote.set a.text 0 }

end Request

end Rampart
