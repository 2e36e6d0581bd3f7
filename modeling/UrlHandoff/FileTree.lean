import UrlHandoff.SystemError
import UrlHandoff.Text.Octets

/-!
The files a program can reach. A path is text for the system to follow: it is split at slashes,
empty parts and single dots stay where they are, and two dots go back up. Relative paths start at
the root. There are no links, so a place has one path without dots. Failures are error numbers of
the operating system.
-/

namespace UrlHandoff

abbrev Path := Octets

namespace Path

def slash : UInt8 := 0x2F

def ofText (s : String) : Path := Octets.ofText s

def join (base : Path) (name : String) : Path :=
  if base = [] ∨ base.getLast? = some slash then base ++ ofText name
  else base ++ slash :: ofText name

def parts (path : Path) : List Octets := path.splitOn slash

def isAbsolute (path : Path) : Bool := path.head? == some slash

def here : Octets := [0x2E]

def parent : Octets := [0x2E, 0x2E]

def names (path : Path) : List Octets :=
  path.parts.filter fun part => part != [] && part != here

def above (path : Path) : Path := path.names.dropLast.flatMap fun name => slash :: name

def longestName : Nat := 255

def longest : Nat := 4095

end Path

inductive FileEntry
  | directory
  | file (content : Octets)
  | program (status : Nat)
  | refused (number : Nat)
  deriving DecidableEq, Repr

structure FileTree where
  entries : List (List Octets × FileEntry) := []
  /-- Directories in which nothing new can be made. -/
  sealed : List (List Octets) := []
  deriving DecidableEq, Repr

namespace FileTree

def noSuchFile : Nat := 2
def permissionDenied : Nat := 13
def alreadyThere : Nat := 17
def notDirectory : Nat := 20
def isDirectory : Nat := 21
def invalidArgument : Nat := 22
def nameTooLong : Nat := 36

def fault? (path : Path) : Option Nat :=
  if path.contains 0 then some invalidArgument
  else if path.length > Path.longest then some nameTooLong
  else none

def at? (tree : FileTree) (place : List Octets) : Option FileEntry :=
  if place = [] then some .directory else tree.entries.lookup place

def put (tree : FileTree) (place : List Octets) (entry : FileEntry) : FileTree :=
  { tree with entries := (place, entry) :: tree.entries.filter fun old => old.1 != place }

def remove (tree : FileTree) (place : List Octets) : FileTree :=
  { tree with entries := tree.entries.filter fun old => !place.isPrefixOf old.1 }

/-- The place that the parts of a path lead to from a place. All but the last part have to lead
through directories that exist. -/
def follow (tree : FileTree) : List Octets → List Octets → Except Nat (List Octets)
  | place, [] => .ok place
  | place, part :: rest =>
    match tree.at? place with
    | none => .error noSuchFile
    | some .directory =>
      if part = [] ∨ part = Path.here then follow tree place rest
      else if part = Path.parent then follow tree place.dropLast rest
      else if part.length > Path.longestName then .error nameTooLong
      else follow tree (place ++ [part]) rest
    | some _ => .error notDirectory

def locate (tree : FileTree) (path : Path) : Except Nat (List Octets) :=
  match fault? path with
  | some number => .error number
  | none => tree.follow [] path.parts

def find (tree : FileTree) (path : Path) : Except Nat (List Octets × FileEntry) :=
  match tree.locate path with
  | .error number => .error number
  | .ok place =>
    match tree.at? place with
    | none => .error noSuchFile
    | some entry => .ok (place, entry)

def contains (tree : FileTree) (path : Path) : Bool := (tree.find path).toOption.isSome

def read (tree : FileTree) (path : Path) : Except Nat Octets :=
  match tree.find path with
  | .error number => .error number
  | .ok (_, .file content) => .ok content
  | .ok (_, .program _) => .ok []
  | .ok (_, .refused number) => .error number
  | .ok (_, .directory) => .error isDirectory

def makeDirectory (tree : FileTree) (start : List Octets) (parts : List Octets) :
    Except Nat (FileTree × List Octets) :=
  match tree.follow start parts with
  | .error number => .error number
  | .ok place =>
    if (tree.at? place).isSome then .error alreadyThere
    else
      match tree.at? place.dropLast with
      | none => .error noSuchFile
      | some .directory =>
        if place.dropLast ∈ tree.sealed then .error permissionDenied
        else .ok (tree.put place .directory, place)
      | some _ => .error notDirectory

def directoryOr (tree : FileTree) (start : List Octets) (parts : List Octets) (number : Nat) :
    Except Nat (List Octets) :=
  match tree.follow start parts with
  | .error _ => .error number
  | .ok place => if tree.at? place = some .directory then .ok place else .error number

/-- Makes a directory and those above it that are missing; the names come last one first. The tree
afterwards, and the place of the directory. What has been made stays when the rest fails. -/
def makeDirectoriesUp (tree : FileTree) :
    List Octets → FileTree × Except Nat (List Octets)
  | [] => (tree, .ok [])
  | name :: above =>
    let parts := (name :: above).reverse
    match tree.makeDirectory [] parts with
    | .ok (made, place) => (made, .ok place)
    | .error number =>
      if number = noSuchFile then
        match tree.makeDirectoriesUp above with
        | (made, .error number) => (made, .error number)
        | (made, .ok start) =>
          match made.makeDirectory start [name] with
          | .ok (last, place) => (last, .ok place)
          | .error number => (made, made.directoryOr start [name] number)
      else (tree, tree.directoryOr [] parts number)

def makeDirectories (tree : FileTree) (path : Path) : FileTree × Option Nat :=
  match fault? path with
  | some number => (tree, some number)
  | none =>
    match tree.makeDirectoriesUp path.names.reverse with
    | (made, .ok _) => (made, none)
    | (made, .error number) => (made, some number)

def update (tree : FileTree) (path : Path) (change : Octets → Octets) : Except Nat FileTree :=
  match tree.locate path with
  | .error number => .error number
  | .ok place =>
    match tree.at? place with
    | some .directory => .error isDirectory
    | some (.file content) => .ok (tree.put place (.file (change content)))
    | some (.program _) => .ok (tree.put place (.file (change [])))
    | some (.refused number) => .error number
    | none =>
      match tree.at? place.dropLast with
      | none => .error noSuchFile
      | some .directory =>
        if place.dropLast ∈ tree.sealed then .error permissionDenied
        else .ok (tree.put place (.file (change [])))
      | some _ => .error notDirectory

def append (tree : FileTree) (path : Path) (content : Octets) : Except Nat FileTree :=
  tree.update path (· ++ content)

def write (tree : FileTree) (path : Path) (content : Octets) : Except Nat FileTree :=
  tree.update path fun _ => content

theorem at?_root (tree : FileTree) : tree.at? [] = some .directory := rfl

theorem at?_put (tree : FileTree) (place : List Octets) (entry : FileEntry)
    (h : place ≠ []) : (tree.put place entry).at? place = some entry := by
  simp [at?, put, h]

end FileTree

end UrlHandoff
