import UrlHandoff.Url.Percent
import UrlHandoff.Url.Scheme

namespace UrlHandoff.Url

/-- Where a walk has come to: the segments entered, the last one first, and whether the first one is
a drive that takes the place of a host. -/
structure Walk where
  trail : List (List Char) := []
  onDrive : Bool := false
  deriving DecidableEq, Repr

def isDriveLetter : List Char → Bool
  | [c, d] => c.isAlpha && (d == ':' || d == '|')
  | _ => false

def isRoot : List Char → Bool
  | [c, d] => isDriveLetter [c, d]
  | c :: d :: '\\' :: _ => isDriveLetter [c, d]
  | _ => false

def plainDots : List Char → List Char
  | '%' :: '2' :: 'e' :: rest => '.' :: plainDots rest
  | '%' :: '2' :: 'E' :: rest => '.' :: plainDots rest
  | c :: rest => c :: plainDots rest
  | [] => []

def isSingleDot (segment : List Char) : Bool := plainDots segment == ['.']

def isDoubleDot (segment : List Char) : Bool := plainDots segment == ['.', '.']

def detachedDrive? (piece : List Char) : Option (List Char × List Char) := do
  let (c, rest) ← nextKept? piece
  let (d, rest) ← nextKept? rest
  if c.isAlpha ∧ d = ':' ∧ (rest.head?.map isDropped).getD false ∧ kept rest ≠ [] then
    some ([c, d], kept rest)
  else none

namespace Walk

def leave (walk : Walk) : Walk :=
  if (walk.trail.head?.map isRoot).getD false then walk
  else { walk with trail := walk.trail.drop 1 }

def enter (walk : Walk) (segment : List Char) : Walk :=
  { walk with trail := percentEncode pathSet segment :: walk.trail }

def take (kind : SchemeKind) (isLast : Bool) (walk : Walk) (piece : List Char) : Walk :=
  let stay (walk : Walk) := if isLast then walk.enter [] else walk
  let atStart := kind == .file && walk.trail == []
  match if atStart then detachedDrive? piece else none with
  | some (drive, rest) => (walk.enter drive).enter rest
  | none =>
    let segment := kept piece
    if isDoubleDot segment then stay walk.leave
    else if isSingleDot segment then stay walk
    else if atStart && isDriveLetter segment then
      { walk.enter (segment.take 1 ++ [':']) with onDrive := true }
    else walk.enter segment

def takeAll (kind : SchemeKind) (walk : Walk) : List (List Char) → Walk
  | [] => walk
  | [last] => walk.take kind true last
  | piece :: rest => takeAll kind (walk.take kind false piece) rest

def segments (walk : Walk) : List (List Char) := walk.trail.reverse

end Walk

def withoutLeadingEmpty : List (List Char) → List (List Char)
  | [] :: next :: rest => withoutLeadingEmpty (next :: rest)
  | path => path

def walkFrom (kind : SchemeKind) (s : List Char) : Walk :=
  Walk.takeAll kind {} (s.splitOnP (isSlash kind))

def walkFromSlash (kind : SchemeKind) (s : List Char) : Walk :=
  match nextKept? s with
  | some (c, rest) => walkFrom kind (if isSlash kind c then rest else s)
  | none => walkFrom kind s

end UrlHandoff.Url
