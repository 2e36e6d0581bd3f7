import UrlHandoff.Url.Address

namespace UrlHandoff

namespace Url

inductive Host
  | name (text : List Char)
  | address4 (number : Nat)
  | address6 (groups : List Nat)
  deriving DecidableEq, Repr

def Host.chars : Host → List Char
  | name text => text
  | address4 number => address4Text number
  | address6 groups => '[' :: address6Text groups ++ [']']

structure Authority where
  user : List Char := []
  password : List Char := []
  host : Host
  port : Option Nat := none
  deriving DecidableEq, Repr

def Authority.chars (authority : Authority) : List Char :=
  let password := if authority.password = [] then [] else ':' :: authority.password
  let login := authority.user ++ password
  (if login = [] then [] else login ++ ['@']) ++ authority.host.chars ++
    (match authority.port with
      | none => []
      | some port => ':' :: decimal port)

inductive UrlPath
  | opaqueText (text : List Char)
  | segments (segments : List (List Char))
  deriving DecidableEq, Repr

def segmentChars (segments : List (List Char)) : List Char :=
  segments.flatMap fun segment => '/' :: segment

end Url

structure Url where
  scheme : List Char
  authority : Option Url.Authority
  path : Url.UrlPath
  query : Option (List Char)
  fragment : Option (List Char)
  deriving DecidableEq, Repr

namespace Url

/-- A path that would be taken for an authority is set off by a dot. -/
def UrlPath.chars (hasAuthority : Bool) : UrlPath → List Char
  | opaqueText text => text
  | segments parts =>
    match hasAuthority, parts with
    | false, [] :: _ :: _ => ['/', '.'] ++ segmentChars parts
    | _, _ => segmentChars parts

def optional (mark : Char) : Option (List Char) → List Char
  | none => []
  | some text => mark :: text

def chars (url : Url) : List Char :=
  url.scheme ++ ':' ::
    (match url.authority with
      | none => []
      | some authority => '/' :: '/' :: authority.chars) ++
    url.path.chars url.authority.isSome ++ optional '?' url.query ++ optional '#' url.fragment

def text (url : Url) : String := String.ofList url.chars

end Url

end UrlHandoff
