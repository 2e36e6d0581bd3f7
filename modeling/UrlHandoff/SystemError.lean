import UrlHandoff.NumberedFailure
import UrlHandoff.Text.Quoted

namespace UrlHandoff

inductive SystemError
  | described (kind : FailureKind) (text : String)
  | plain (kind : FailureKind)
  | numbered (number : Int)
  deriving DecidableEq, Repr

namespace SystemError

def kind : SystemError → FailureKind
  | described kind _ => kind
  | plain kind => kind
  | numbered number => (NumberedFailure.ofNumber number).kind

def message : SystemError → String
  | described _ text => text
  | plain kind => kind.phrase
  | numbered number =>
    (NumberedFailure.ofNumber number).text ++ " (os error " ++ toString number ++ ")"

def describe : SystemError → String
  | described kind text =>
    "Custom \x7b kind: " ++ kind.name ++ ", error: " ++ Text.quote text ++ " \x7d"
  | plain kind => "Kind(" ++ kind.name ++ ")"
  | numbered number =>
    "Os \x7b code: " ++ toString number ++ ", kind: " ++
      (NumberedFailure.ofNumber number).kind.name ++ ", message: " ++
      Text.quote (NumberedFailure.ofNumber number).text ++ " \x7d"

end SystemError

structure LaunchError where
  url : String
  source : SystemError
  deriving DecidableEq, Repr

namespace LaunchError

def message (error : LaunchError) : String :=
  "failed to open " ++ Text.quote error.url ++ " in default browser: " ++ error.source.message

def describe (error : LaunchError) : String :=
  "Browser \x7b url: " ++ Text.quote error.url ++ ", source: " ++ error.source.describe ++ " \x7d"

end LaunchError

end UrlHandoff
