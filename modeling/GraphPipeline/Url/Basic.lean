import GraphPipeline.Url.Host

/-!
# URLs

An URL is a scheme, an authority if it has one, a path, a query and a fragment.
Some schemes are special: the web knows their default ports, they always have a
host, and a backslash in them is as good as a slash.
-/

namespace GraphPipeline.Url

structure Authority where
  username : String
  password : String
  host : Host
  port : Option Nat
  deriving DecidableEq

/-- A path is a list of segments, or plain text when an URL has neither an
authority nor a slash after its scheme. -/
inductive Path where
  | segments (segments : List String)
  | plain (text : String)
  deriving DecidableEq

structure Address where
  scheme : String
  authority : Option Authority
  path : Path
  query : Option String
  fragment : Option String
  deriving DecidableEq

/-- The special schemes with their default ports. -/
def specialSchemes : List (String × Option Nat) :=
  [("http", some 80), ("https", some 443), ("ws", some 80), ("wss", some 443),
    ("ftp", some 21), ("file", none)]

def isSpecial (scheme : String) : Bool :=
  specialSchemes.any (·.1 == scheme)

def defaultPort? (scheme : String) : Option Nat :=
  ((specialSchemes.find? (·.1 == scheme)).map Prod.snd).join

namespace Authority

/-- The user name and the password in front of the host, if there are any. -/
def credentials (authority : Authority) : String :=
  if authority.username.isEmpty && authority.password.isEmpty then ""
  else
    authority.username ++
      (if authority.password.isEmpty then "" else ":" ++ authority.password) ++
        "@"

def render (authority : Authority) : String :=
  "//" ++ authority.credentials ++ authority.host.render ++
    (match authority.port with
      | some port => ":" ++ toString port
      | none => "")

end Authority

def Path.render : Path → String
  | .segments parts => joined "" (parts.map fun part => "/" ++ part)
  | .plain text => text

namespace Address

/-- A mark in front of a path that would otherwise be taken for an authority. -/
def pathMark (address : Address) : String :=
  match address.authority, address.path with
  | none, .segments ("" :: _ :: _) => "/."
  | _, _ => ""

def optionalPart (mark : String) : Option String → String
  | some text => mark ++ text
  | none => ""

/-- The text of the URL. -/
def render (address : Address) : String :=
  address.scheme ++ ":" ++
    (match address.authority with
      | some authority => authority.render
      | none => "") ++
    address.pathMark ++ address.path.render ++ optionalPart "?" address.query ++
    optionalPart "#" address.fragment

end Address

end GraphPipeline.Url
