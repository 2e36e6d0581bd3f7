import UrlHandoff.BaseDirectory
import UrlHandoff.Settings

namespace UrlHandoff.Settings

inductive Flaw
  | unreadable (cause : SystemError)
  | malformed
  | misshapen (fault : Fault) (text : List Char)
  deriving DecidableEq, Repr

structure LoadError where
  path : String
  flaw : Flaw
  deriving DecidableEq, Repr

def notUtf8 : SystemError := .described .invalidData "stream did not contain valid UTF-8"

def ofText (text : List Char) : Except Flaw Settings :=
  match Document.parse text with
  | none => .error .malformed
  | some entries =>
    match decode entries with
    | .error fault => .error (.misshapen fault text)
    | .ok settings => .ok settings

def ofOctets (octets : Octets) : Except Flaw Settings :=
  match octets.text? with
  | none => .error (.unreadable notUtf8)
  | some text => ofText text.toList

def ofFile (content : Except SystemError Octets) : Except Flaw Settings :=
  match content with
  | .error cause => .error (.unreadable cause)
  | .ok octets => ofOctets octets

namespace LoadError

def context (error : LoadError) : String :=
  (match error.flaw with
    | .unreadable _ => "reading config "
    | .malformed => "parsing config "
    | .misshapen _ _ => "parsing config ") ++ error.path

def cause (error : LoadError) : String :=
  match error.flaw with
  | .unreadable cause => cause.message
  | .malformed => "TOML parse error\n"
  | .misshapen fault text => String.ofList (fault.report text)

def message (error : LoadError) : String := error.context ++ ": " ++ error.cause

end LoadError

def loadFrom (files : FileTree) (path : Path) : Except LoadError Settings :=
  match ofFile ((files.read path).mapError fun number : Nat => .numbered number) with
  | .ok settings => .ok settings
  | .error flaw => .error ⟨path.lossyText, flaw⟩

/-- The settings of the file that is used, or the standard ones where there is no file. A file of
less weight never stands in for one that cannot be read. -/
def load (env : Environment) (files : FileTree) : Except LoadError Settings :=
  match BaseDirectory.settingsPath? env files with
  | none => .ok {}
  | some path => loadFrom files path

theorem load_of_no_file {env : Environment} {files : FileTree}
    (h : BaseDirectory.settingsPath? env files = none) : load env files = .ok {} := by
  simp [load, h]

end UrlHandoff.Settings
