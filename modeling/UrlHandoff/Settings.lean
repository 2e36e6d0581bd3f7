import UrlHandoff.Catalog
import UrlHandoff.Document.Text
import UrlHandoff.Settings.Fault

namespace UrlHandoff

structure Settings where
  defaultUrl : Option String := none
  graceSeconds : Nat := 10
  translations : Tables := ∅
  deriving DecidableEq

namespace Settings

def describe (settings : Settings) : String :=
  "LauncherConfig \x7b default_url: " ++ Text.quoteOption settings.defaultUrl ++
    ", exit_grace_secs: " ++ toString settings.graceSeconds ++
    ", translations: " ++ settings.translations.describe ++ " \x7d"

open Document

def placeOf (key : Key) (node : Node) : Span := node.span?.getD key.span

def wrongShape {α : Type} (key : Key) (node : Node) (requirement : Requirement) :
    Except Fault α :=
  .error ⟨.ofNode node, requirement, placeOf key node⟩

def decodeText (key : Key) (node : Node) : Except Fault String :=
  match node with
  | .scalar (.text value) _ => .ok value
  | _ => wrongShape key node .text

def decodeSeconds (key : Key) (node : Node) : Except Fault Nat :=
  match node with
  | .scalar (.integer (.ofNat value)) _ => .ok value
  | _ => wrongShape key node .seconds

/-- The key under which a date or time that stands for a table holds its text. -/
def momentKey : String := "$__toml_private_datetime"

def decodeEntries {α : Type} (decode : Key → Node → Except Fault α) (entries : Entries) :
    Except Fault (Dictionary α) :=
  entries.foldlM
    (fun (done : Dictionary α) entry =>
      (decode entry.1 entry.2).map fun value => done.insert entry.1.name value)
    ∅

/-- The translations for one locale. A date or time counts as a table of one entry. -/
def decodeTable (key : Key) (node : Node) : Except Fault (Dictionary String) :=
  match node with
  | .table _ entries => decodeEntries decodeText entries
  | .scalar (.moment value) _ => .ok (Dictionary.ofList [(momentKey, value.text)])
  | _ => wrongShape key node .table

def decodeTables (key : Key) (node : Node) : Except Fault Tables :=
  match node with
  | .table _ entries => decodeEntries decodeTable entries
  | .scalar (.moment value) span => .error ⟨.text value.text, .table, span⟩
  | _ => wrongShape key node .table

def decodeSetting (settings : Settings) (entry : Key × Node) : Except Fault Settings :=
  match entry.1.name with
  | "default_url" =>
    (decodeText entry.1 entry.2).map fun url => { settings with defaultUrl := some url }
  | "exit_grace_secs" =>
    (decodeSeconds entry.1 entry.2).map fun seconds => { settings with graceSeconds := seconds }
  | "translations" =>
    (decodeTables entry.1 entry.2).map fun tables => { settings with translations := tables }
  | _ => .ok settings

def decode (entries : Entries) : Except Fault Settings := entries.foldlM decodeSetting {}

end Settings

end UrlHandoff
