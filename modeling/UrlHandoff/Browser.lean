import UrlHandoff.Environment
import UrlHandoff.FileTree
import UrlHandoff.Session
import UrlHandoff.Url.Reading

/-!
The default browser of the system. A variable lists commands, separated by colons, that are tried
in order until one ends well. In a command `%s` stands for the URL, `%c` for a colon and `%%` for a
percent sign; a command without `%s` gets the URL as its last argument. Where no command ends well
the desktop is asked.
-/

namespace UrlHandoff.Browser

abbrev Call := List String

def expandWord (url : List Char) : List Char → List Char × Bool
  | '%' :: 's' :: rest => (url ++ (expandWord url rest).1, true)
  | '%' :: 'c' :: rest =>
    let (word, found) := expandWord url rest
    (':' :: word, found)
  | '%' :: '%' :: rest =>
    let (word, found) := expandWord url rest
    ('%' :: word, found)
  | c :: rest =>
    let (word, found) := expandWord url rest
    (c :: word, found)
  | [] => ([], false)

def isBreak (c : Char) : Bool := [' ', '\t', '\n', '\x0c', '\r'].contains c

def splitWords (s : List Char) : List (List Char) :=
  (s.splitOnP isBreak).filter (· ≠ [])

def commandWords (command url : List Char) : List (List Char) :=
  let expanded := (splitWords command).map (expandWord url)
  expanded.map (·.1) ++ if expanded.any (·.2) then [] else [url]

def commands (env : Environment) : List (List Char) :=
  (((env.text? "BROWSER").getD "").toList.splitOn ':').filter (· ≠ [])

def searchPath (env : Environment) : List Path :=
  match env.text? "PATH" with
  | none => []
  | some path => (path.toList.splitOn ':').map fun part => Path.ofText (String.ofList part)

def programPaths (directories : List Path) (name : String) : List Path :=
  if '/' ∈ name.toList then [Path.ofText name]
  else directories.map fun directory => directory.join name

def programAt? (files : FileTree) (path : Path) : Option (String × Nat) :=
  match files.find path with
  | .ok (place, .program status) => some ((place.getLast?.getD []).lossyText, status)
  | _ => none

def runCommand (directories : List Path) (files : FileTree) (url command : List Char) :
    Option (Call × Nat) :=
  if splitWords command = [] then none
  else
    match (commandWords command url).map String.ofList with
    | [] => none
    | name :: arguments =>
      ((programPaths directories name).findSome? (programAt? files)).map fun (called, status) =>
        (called :: arguments, status)

def tryCommands (directories : List Path) (files : FileTree) (url : List Char) :
    List (List Char) → List Call × Bool
  | [] => ([], false)
  | command :: rest =>
    match runCommand directories files url command with
    | some (call, 0) => ([call], true)
    | some (call, _) =>
      let (calls, success) := tryCommands directories files url rest
      (call :: calls, success)
    | none => tryCommands directories files url rest

def noBrowser : SystemError :=
  .described .notFound
    "No valid browsers detected. You can specify one in BROWSER environment variable"

abbrev Desktop := Environment → FileTree → String → List Call × Bool

def noDesktop : Desktop := fun _ _ _ => ([], false)

/-- A directory that is listed again is not looked into again. -/
def attempt (desktop : Desktop) (env : Environment) (files : FileTree) (url : String) :
    List Call × Bool :=
  match tryCommands (searchPath env).eraseDups files (Url.ofText url).chars (commands env) with
  | (calls, true) => (calls, true)
  | (calls, false) =>
    let (more, success) := desktop env files url
    (calls ++ more, success)

structure Reception where
  opening : Opening
  calls : List Call
  deriving DecidableEq, Repr

abbrev Facility := Environment → FileTree → String → Reception

def system (desktop : Desktop) : Facility := fun env files url =>
  let (calls, success) := attempt desktop env files url
  ⟨if success then .succeeds else .fails noBrowser, calls⟩

def calls (env : Environment) (files : FileTree) (url : String) : List Call :=
  (system noDesktop env files url).calls

def opening (env : Environment) (files : FileTree) (url : String) : Opening :=
  (system noDesktop env files url).opening

def placesPerSecond : Nat := 10000000

def searchSeconds (env : Environment) : Nat :=
  (commands env).length * (searchPath env).length / placesPerSecond

end UrlHandoff.Browser
