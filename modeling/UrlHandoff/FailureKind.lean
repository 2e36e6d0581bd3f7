namespace UrlHandoff

inductive FailureKind
  | notFound | permissionDenied | connectionRefused | connectionReset | connectionAborted
  | notConnected | addrInUse | addrNotAvailable | brokenPipe | alreadyExists | wouldBlock
  | notADirectory | isADirectory | invalidInput | invalidData | timedOut | writeZero
  | interrupted | unsupported | unexpectedEof | outOfMemory | invalidFilename | hostUnreachable
  | networkUnreachable | networkDown | directoryNotEmpty | readOnlyFilesystem | filesystemLoop
  | staleNetworkFileHandle | storageFull | notSeekable | quotaExceeded | fileTooLarge
  | resourceBusy | executableFileBusy | deadlock | crossesDevices | tooManyLinks
  | argumentListTooLong | inProgress | other | uncategorized
  deriving DecidableEq, Repr

namespace FailureKind

def name : FailureKind → String
  | notFound => "NotFound"
  | permissionDenied => "PermissionDenied"
  | connectionRefused => "ConnectionRefused"
  | connectionReset => "ConnectionReset"
  | connectionAborted => "ConnectionAborted"
  | notConnected => "NotConnected"
  | addrInUse => "AddrInUse"
  | addrNotAvailable => "AddrNotAvailable"
  | brokenPipe => "BrokenPipe"
  | alreadyExists => "AlreadyExists"
  | wouldBlock => "WouldBlock"
  | notADirectory => "NotADirectory"
  | isADirectory => "IsADirectory"
  | invalidInput => "InvalidInput"
  | invalidData => "InvalidData"
  | timedOut => "TimedOut"
  | writeZero => "WriteZero"
  | interrupted => "Interrupted"
  | unsupported => "Unsupported"
  | unexpectedEof => "UnexpectedEof"
  | outOfMemory => "OutOfMemory"
  | invalidFilename => "InvalidFilename"
  | hostUnreachable => "HostUnreachable"
  | networkUnreachable => "NetworkUnreachable"
  | networkDown => "NetworkDown"
  | directoryNotEmpty => "DirectoryNotEmpty"
  | readOnlyFilesystem => "ReadOnlyFilesystem"
  | filesystemLoop => "FilesystemLoop"
  | staleNetworkFileHandle => "StaleNetworkFileHandle"
  | storageFull => "StorageFull"
  | notSeekable => "NotSeekable"
  | quotaExceeded => "QuotaExceeded"
  | fileTooLarge => "FileTooLarge"
  | resourceBusy => "ResourceBusy"
  | executableFileBusy => "ExecutableFileBusy"
  | deadlock => "Deadlock"
  | crossesDevices => "CrossesDevices"
  | tooManyLinks => "TooManyLinks"
  | argumentListTooLong => "ArgumentListTooLong"
  | inProgress => "InProgress"
  | other => "Other"
  | uncategorized => "Uncategorized"

def phrase : FailureKind → String
  | notFound => "entity not found"
  | permissionDenied => "permission denied"
  | connectionRefused => "connection refused"
  | connectionReset => "connection reset"
  | connectionAborted => "connection aborted"
  | notConnected => "not connected"
  | addrInUse => "address in use"
  | addrNotAvailable => "address not available"
  | brokenPipe => "broken pipe"
  | alreadyExists => "entity already exists"
  | wouldBlock => "operation would block"
  | notADirectory => "not a directory"
  | isADirectory => "is a directory"
  | invalidInput => "invalid input parameter"
  | invalidData => "invalid data"
  | timedOut => "timed out"
  | writeZero => "write zero"
  | interrupted => "operation interrupted"
  | unsupported => "unsupported"
  | unexpectedEof => "unexpected end of file"
  | outOfMemory => "out of memory"
  | invalidFilename => "invalid filename"
  | hostUnreachable => "host unreachable"
  | networkUnreachable => "network unreachable"
  | networkDown => "network down"
  | directoryNotEmpty => "directory not empty"
  | readOnlyFilesystem => "read-only filesystem or storage medium"
  | filesystemLoop => "filesystem loop or indirection limit (e.g. symlink loop)"
  | staleNetworkFileHandle => "stale network file handle"
  | storageFull => "no storage space"
  | notSeekable => "seek on unseekable file"
  | quotaExceeded => "quota exceeded"
  | fileTooLarge => "file too large"
  | resourceBusy => "resource busy"
  | executableFileBusy => "executable file busy"
  | deadlock => "deadlock"
  | crossesDevices => "cross-device link or rename"
  | tooManyLinks => "too many links"
  | argumentListTooLong => "argument list too long"
  | inProgress => "in progress"
  | other => "other error"
  | uncategorized => "uncategorized error"

def all : List FailureKind :=
  [notFound, permissionDenied, connectionRefused, connectionReset, connectionAborted,
   notConnected, addrInUse, addrNotAvailable, brokenPipe, alreadyExists, wouldBlock,
   notADirectory, isADirectory, invalidInput, invalidData, timedOut, writeZero, interrupted,
   unsupported, unexpectedEof, outOfMemory, invalidFilename, hostUnreachable, networkUnreachable,
   networkDown, directoryNotEmpty, readOnlyFilesystem, filesystemLoop, staleNetworkFileHandle,
   storageFull, notSeekable, quotaExceeded, fileTooLarge, resourceBusy, executableFileBusy,
   deadlock, crossesDevices, tooManyLinks, argumentListTooLong, inProgress, other, uncategorized]

def ofName? (text : String) : Option FailureKind := all.find? fun kind => kind.name == text

end FailureKind

end UrlHandoff
