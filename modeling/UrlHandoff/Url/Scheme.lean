namespace UrlHandoff.Url

inductive SchemeKind
  | web
  | file
  | other
  deriving DecidableEq, Repr

def usualPorts : List (String × Nat) :=
  [("http", 80), ("https", 443), ("ws", 80), ("wss", 443), ("ftp", 21)]

def usualPort? (scheme : List Char) : Option Nat := usualPorts.lookup (String.ofList scheme)

def schemeKind (scheme : List Char) : SchemeKind :=
  if (usualPort? scheme).isSome then .web
  else if scheme = "file".toList then .file
  else .other

def SchemeKind.isSpecial (kind : SchemeKind) : Bool := kind != .other

def isSlash (kind : SchemeKind) (c : Char) : Bool := c == '/' || (kind.isSpecial && c == '\\')

def endsAuthority (kind : SchemeKind) (c : Char) : Bool :=
  isSlash kind c || c == '?' || c == '#'

def isDropped (c : Char) : Bool := c == '\t' || c == '\n' || c == '\r'

def kept (s : List Char) : List Char := s.filter fun c => !isDropped c

def nextKept? : List Char → Option (Char × List Char)
  | [] => none
  | c :: rest => if isDropped c then nextKept? rest else some (c, rest)

def isSchemeChar (c : Char) : Bool := c.isAlphanum || c == '+' || c == '-' || c == '.'

def splitScheme (s : List Char) : Option (List Char × List Char) :=
  let name := kept (s.takeWhile (· ≠ ':'))
  match name, s.dropWhile (· ≠ ':') with
  | first :: _, _ :: rest =>
    if first.isAlpha ∧ name.all isSchemeChar then some (name.map Char.toLower, rest) else none
  | _, _ => none

end UrlHandoff.Url
