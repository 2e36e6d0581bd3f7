import UrlHandoff.Program

/-!
The command. It looks up the variables and files that a run may need, opens the log, and leaves all
decisions to `Program.output`. Starting the browser is left to the caller of the command: program
and arguments are printed, one to a line.
-/

namespace UrlHandoff.Main

def consulted : List String :=
  ["HOME", "PATH", "BROWSER", "LANGUAGE", "LC_ALL", "LC_MESSAGES", "LANG", "RUST_LOG",
   "XDG_CONFIG_HOME", "XDG_CONFIG_DIRS", "XDG_STATE_HOME", "CLICOLOR_FORCE", "NO_COLOR"]

def environment : IO Environment := do
  let entries ← consulted.filterMapM fun name => do
    return (← IO.getEnv name).map fun value => (name, Octets.ofText value)
  return ⟨entries⟩

def errorNumber : IO.Error → Nat
  | .alreadyExists _ code _ => code.toNat
  | .noFileOrDirectory _ code _ => code.toNat
  | .noSuchThing _ code _ => code.toNat
  | .inappropriateType _ code _ => code.toNat
  | .permissionDenied _ code _ => code.toNat
  | .invalidArgument _ code _ => code.toNat
  | .resourceExhausted _ code _ => code.toNat
  | .otherError code _ => code.toNat
  | _ => 5

def octets (content : ByteArray) : Octets := content.data.toList

def settingsEntry (path : Path) : IO (Option FileEntry) := do
  try
    return some (.file (octets (← IO.FS.readBinFile path.lossyText)))
  catch error =>
    let number := errorNumber error
    if number = FileTree.isDirectory then return some .directory
    try
      let _ ← IO.FS.realPath path.lossyText
      return some (.refused number)
    catch _ => return none

def programEntry (path : Path) : IO (Option FileEntry) := do
  try
    let _ ← IO.FS.Handle.mk path.lossyText .read
    return some (.program 0)
  catch _ => return none

def programCandidates (env : Environment) : List Path :=
  let directories := Browser.searchPath env
  (Browser.commands env).flatMap fun command =>
    match Browser.splitWords command with
    | [] => []
    | name :: _ => Browser.programPaths directories (String.ofList (Browser.expandWord [] name).1)

def withEntry (files : FileTree) (path : Path) (entry : Option FileEntry) : FileTree :=
  match entry with
  | none => files
  | some entry =>
    (files.makeDirectories path.above).1.put path.names entry

def snapshot (env : Environment) : IO FileTree := do
  let mut files : FileTree := {}
  for path in BaseDirectory.settingsCandidates env do
    files := withEntry files path (← settingsEntry path)
  for path in programCandidates env do
    files := withEntry files path (← programEntry path)
  return files

def openLog (env : Environment) : IO (Except Nat IO.FS.Handle) := do
  try
    IO.FS.createDirAll (BaseDirectory.logDirectory env).lossyText
    return .ok (← IO.FS.Handle.mk (BaseDirectory.logPath env).lossyText .append)
  catch error => return .error (errorNumber error)

def execute (arguments : List String) : IO UInt32 := do
  let env ← environment
  let log ← openLog env
  let files ← snapshot env
  let argv := (CommandLine.defaultName :: arguments).map Octets.ofText
  match log with
  | .ok handle =>
    let output := Program.output .standard env files argv none
    handle.putStr output.logged
    finish output
  | .error number => finish (Program.output .standard env files argv (some number))
where
  finish (output : Program.Output) : IO UInt32 := do
    (← IO.getStdout).putStr output.stdout
    (← IO.getStderr).putStr output.stderr
    for call in output.calls do
      for word in call do
        IO.println word
    return output.status.toUInt32

end UrlHandoff.Main

def main (arguments : List String) : IO UInt32 := UrlHandoff.Main.execute arguments
