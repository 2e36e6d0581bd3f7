import UrlHandoff.Url.Basic
import UrlHandoff.Url.Domain
import UrlHandoff.Url.Path

namespace UrlHandoff.Url

def isBlankOrControl (c : Char) : Bool := decide (c.toNat ≤ 0x20)

def trimmed (s : List Char) : List Char :=
  ((s.dropWhile isBlankOrControl).reverse.dropWhile isBlankOrControl).reverse

def login (s : List Char) : List Char × List Char :=
  let user := s.takeWhile (· ≠ ':')
  let password := (s.dropWhile (· ≠ ':')).drop 1
  (percentEncode userSet user, percentEncode userSet password)

def splitPort : Bool → List Char → List Char × Option (List Char)
  | _, [] => ([], none)
  | bracketed, c :: rest =>
    if c = ':' ∧ !bracketed then ([], some rest)
    else
      let bracketed := if c = '[' then true else if c = ']' then false else bracketed
      let (host, port) := splitPort bracketed rest
      (c :: host, port)

def bracketedHost (s : List Char) : Option Host :=
  if s.getLast? = some ']' then (address6 (s.drop 1).dropLast).map .address6 else none

def domainHost (s : List Char) : Option Host :=
  if s.head? = some '[' then bracketedHost s
  else do
    let decoded ← (percentDecode s).text?
    let ascii ← domainToAscii decoded.toList
    if ascii = [] then none
    else if endsInNumber ascii then (address4 ascii).map .address4
    else some (.name ascii)

def isForbiddenInHost (c : Char) : Bool := "\x00\t\n\r #/:<>?@[\\]^|".toList.contains c

def plainHost (s : List Char) : Option Host :=
  if s.head? = some '[' then bracketedHost s
  else if s.any isForbiddenInHost then none
  else some (.name (percentEncode isC0OrDelete s))

def portNumber (usual : Option Nat) (s : List Char) : Option (Option Nat) :=
  if s = [] then some none
  else if s.all Char.isDigit then
    let port := s.foldl (fun n c => n * 10 + (c.toNat - '0'.toNat)) 0
    if port > 65535 then none
    else if usual = some port then some none
    else some (some port)
  else none

def readAuthority (kind : SchemeKind) (scheme s : List Char) : Option (Authority × List Char) := do
  let text := s.takeWhile fun c => !endsAuthority kind c
  let after := s.drop text.length
  let hostPart := (text.reverse.takeWhile (· ≠ '@')).reverse
  let (user, password) := login (text.take (text.length - hostPart.length - 1))
  let (hostText, portText) := splitPort false hostPart
  let portDigits := (portText.getD []).takeWhile (· ≠ '\\')
  let portRest := (portText.getD []).drop portDigits.length
  if text = ['@'] ∧ after ≠ [] then none
  else if hostText = [] ∧ (kind.isSpecial ∨ user ≠ [] ∨ password ≠ [] ∨ portText.isSome) then none
  else
    let host ← if kind.isSpecial then domainHost hostText else plainHost hostText
    let port ← portNumber (usualPort? scheme) portDigits
    some (⟨user, password, host, port⟩, portRest ++ after)

def splitTail (s : List Char) : List Char × Option (List Char) × Option (List Char) :=
  let beforeFragment := s.takeWhile (· ≠ '#')
  let fragment := if s.contains '#' then some ((s.dropWhile (· ≠ '#')).drop 1) else none
  let path := beforeFragment.takeWhile (· ≠ '?')
  let query :=
    if beforeFragment.contains '?' then some ((beforeFragment.dropWhile (· ≠ '?')).drop 1)
    else none
  (path, query, fragment)

def finish (kind : SchemeKind) (scheme : List Char) (authority : Option Authority)
    (path : UrlPath) (query fragment : Option (List Char)) : Url where
  scheme := scheme
  authority := authority
  path := path
  query := query.map fun text =>
    percentEncode (if kind.isSpecial then specialQuerySet else querySet) (kept text)
  fragment := fragment.map fun text => percentEncode fragmentSet (kept text)

def readRemote (kind : SchemeKind) (scheme s : List Char) : Option Url := do
  let (authority, rest) ← readAuthority kind scheme s
  let (path, query, fragment) := splitTail rest
  let segments :=
    if kind == .other && path == [] then [] else (walkFromSlash kind path).segments
  some (finish kind scheme (some authority) (.segments segments) query fragment)

def thisMachine : Authority := { host := .name [] }

def finishFile (scheme : List Char) (authority : Authority) (walk : Walk)
    (query fragment : Option (List Char)) : Url :=
  let segments := withoutLeadingEmpty walk.segments
  finish .file scheme (some authority) (.segments segments) query fragment

/-- The host of a file and what follows it. A drive letter in the place of the host belongs to the
path, and a drive at the start of the path puts the host out of force. -/
def readFileHost (scheme s : List Char) : Option Url := do
  let hostText := s.takeWhile fun c => !endsAuthority .file c
  let afterHost := if isDriveLetter (kept hostText) then s else s.drop hostText.length
  let (path, query, fragment) := splitTail afterHost
  let host ←
    if kept hostText = [] ∨ isDriveLetter (kept hostText) then some (.name [])
    else domainHost (kept hostText)
  if host = .name [] ∨ host = .name "localhost".toList then
    some (finishFile scheme thisMachine (walkFrom .file path) query fragment)
  else
    let walk := walkFromSlash .file path
    let authority : Authority := if walk.onDrive then thisMachine else { host := host }
    some (finishFile scheme authority walk query fragment)

def readFile (scheme s : List Char) : Option Url :=
  let slash? (s : List Char) : Option (List Char) :=
    (nextKept? s).bind fun (c, rest) => if isSlash .file c then some rest else none
  match (slash? s).bind slash? with
  | some rest => readFileHost scheme rest
  | none =>
    let (path, query, fragment) := splitTail s
    some (finishFile scheme thisMachine (walkFromSlash .file path) query fragment)

def readOther (scheme s : List Char) : Option Url :=
  match s with
  | '/' :: '/' :: rest => readRemote .other scheme rest
  | '/' :: rest =>
    let (path, query, fragment) := splitTail rest
    some (finish .other scheme none (.segments (walkFrom .other path).segments) query fragment)
  | _ =>
    let (path, query, fragment) := splitTail s
    some (finish .other scheme none (.opaqueText (percentEncode isC0OrDelete path)) query fragment)

def parse? (s : List Char) : Option Url :=
  (splitScheme (trimmed s)).bind fun (scheme, rest) =>
    match schemeKind scheme with
    | .web => readRemote .web scheme ((kept rest).dropWhile (isSlash .web))
    | .file => readFile scheme rest
    | .other => readOther scheme (kept rest)

def components (s : List Char) : List (List Char) :=
  (s.splitOn '/').filter fun part => part ≠ [] ∧ part ≠ ['.']

def ofFile (s : List Char) : Url where
  scheme := "file".toList
  authority := some thisMachine
  path := .segments
    (match components s with
      | [] => [[]]
      | parts => parts.map (percentEncode componentSet))
  query := none
  fragment := none

def ofText (s : String) : Url := (parse? s.toList).getD (ofFile s.toList)

end UrlHandoff.Url
