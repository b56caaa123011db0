/-
Errors of input and output: a kind, and a text. The text is the error's own, or that of its kind, or that of the
system's number for it.

- `IoError.isDisconnect`: the other side went away;
- `ErrorKind.name`, `ErrorKind.message`: how a kind is named, and the words for it.
-/
import CallFeed.Text.Numeral

namespace CallFeed

open CallFeed.Text (decimal)

inductive ErrorKind where
  | notFound
  | permissionDenied
  | connectionRefused
  | connectionReset
  | hostUnreachable
  | networkUnreachable
  | connectionAborted
  | notConnected
  | addrInUse
  | addrNotAvailable
  | networkDown
  | brokenPipe
  | alreadyExists
  | wouldBlock
  | invalidInput
  | invalidData
  | timedOut
  | writeZero
  | storageFull
  | interrupted
  | unsupported
  | unexpectedEof
  | outOfMemory
  | inputOutputError
  | other
  | uncategorized
deriving DecidableEq, Repr

namespace ErrorKind

def all : List ErrorKind :=
  [notFound, permissionDenied, connectionRefused, connectionReset, hostUnreachable, networkUnreachable,
   connectionAborted, notConnected, addrInUse, addrNotAvailable, networkDown, brokenPipe, alreadyExists, wouldBlock,
   invalidInput, invalidData, timedOut, writeZero, storageFull, interrupted, unsupported, unexpectedEof, outOfMemory,
   inputOutputError, other, uncategorized]

def name : ErrorKind → String
  | notFound => "NotFound"
  | permissionDenied => "PermissionDenied"
  | connectionRefused => "ConnectionRefused"
  | connectionReset => "ConnectionReset"
  | hostUnreachable => "HostUnreachable"
  | networkUnreachable => "NetworkUnreachable"
  | connectionAborted => "ConnectionAborted"
  | notConnected => "NotConnected"
  | addrInUse => "AddrInUse"
  | addrNotAvailable => "AddrNotAvailable"
  | networkDown => "NetworkDown"
  | brokenPipe => "BrokenPipe"
  | alreadyExists => "AlreadyExists"
  | wouldBlock => "WouldBlock"
  | invalidInput => "InvalidInput"
  | invalidData => "InvalidData"
  | timedOut => "TimedOut"
  | writeZero => "WriteZero"
  | storageFull => "StorageFull"
  | interrupted => "Interrupted"
  | unsupported => "Unsupported"
  | unexpectedEof => "UnexpectedEof"
  | outOfMemory => "OutOfMemory"
  | inputOutputError => "InputOutputError"
  | other => "Other"
  | uncategorized => "Uncategorized"

def message : ErrorKind → String
  | notFound => "entity not found"
  | permissionDenied => "permission denied"
  | connectionRefused => "connection refused"
  | connectionReset => "connection reset"
  | hostUnreachable => "host unreachable"
  | networkUnreachable => "network unreachable"
  | connectionAborted => "connection aborted"
  | notConnected => "not connected"
  | addrInUse => "address in use"
  | addrNotAvailable => "address not available"
  | networkDown => "network down"
  | brokenPipe => "broken pipe"
  | alreadyExists => "entity already exists"
  | wouldBlock => "operation would block"
  | invalidInput => "invalid input parameter"
  | invalidData => "invalid data"
  | timedOut => "timed out"
  | writeZero => "write zero"
  | storageFull => "no storage space"
  | interrupted => "operation interrupted"
  | unsupported => "unsupported"
  | unexpectedEof => "unexpected end of file"
  | outOfMemory => "out of memory"
  | inputOutputError => "input/output error"
  | other => "other error"
  | uncategorized => "uncategorized error"

/-- the kind of a name -/
def ofName? (s : String) : Option ErrorKind := all.find? fun k => k.name == s

theorem mem_all (k : ErrorKind) : k ∈ all := by cases k <;> decide

theorem ofName?_name (k : ErrorKind) : ofName? k.name = some k := by cases k <;> decide

/-- the other side of a connection went away -/
def isDisconnect : ErrorKind → Bool
  | brokenPipe => true
  | connectionReset => true
  | connectionAborted => true
  | _ => false

end ErrorKind

/-- an error of input or output -/
structure IoError where
  kind : ErrorKind
  text : Text
deriving DecidableEq, Repr

namespace IoError

/-- an error of a kind, with the kind's words -/
def ofKind (k : ErrorKind) : IoError := ⟨k, k.message.toList⟩

/-- the system's error numbers: number, kind and words -/
def systemErrors : List (Nat × ErrorKind × String) :=
  [(1, .permissionDenied, "Operation not permitted"),
   (2, .notFound, "No such file or directory"),
   (4, .interrupted, "Interrupted system call"),
   (5, .inputOutputError, "Input/output error"),
   (11, .wouldBlock, "Resource temporarily unavailable"),
   (12, .outOfMemory, "Cannot allocate memory"),
   (13, .permissionDenied, "Permission denied"),
   (17, .alreadyExists, "File exists"),
   (22, .invalidInput, "Invalid argument"),
   (28, .storageFull, "No space left on device"),
   (32, .brokenPipe, "Broken pipe"),
   (98, .addrInUse, "Address already in use"),
   (99, .addrNotAvailable, "Cannot assign requested address"),
   (100, .networkDown, "Network is down"),
   (101, .networkUnreachable, "Network is unreachable"),
   (103, .connectionAborted, "Software caused connection abort"),
   (104, .connectionReset, "Connection reset by peer"),
   (107, .notConnected, "Transport endpoint is not connected"),
   (110, .timedOut, "Connection timed out"),
   (111, .connectionRefused, "Connection refused"),
   (113, .hostUnreachable, "No route to host")]

/-- the system's error of a number -/
def ofNumber (n : Nat) : IoError :=
  let (kind, words) := match systemErrors.find? fun e => e.1 == n with
    | some e => (e.2.1, e.2.2.toList)
    | none => (.uncategorized, "Unknown error ".toList ++ decimal n)
  ⟨kind, words ++ " (os error ".toList ++ decimal n ++ [')']⟩

def isDisconnect (e : IoError) : Bool := e.kind.isDisconnect

/-- nothing was taken of what was offered -/
def writeZero : IoError := ofKind .writeZero

end IoError

end CallFeed
