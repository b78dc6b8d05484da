/-! # Classes of errors

The classes that host code raises, with their names and where they live. Two of them are requests to
stop the program rather than errors, and are never held back. A system error becomes one of its special
classes by its number.
-/

namespace EventHub

/-- The special classes of system errors. -/
inductive SystemClass where
  | general
  | blocking
  | childProcess
  | brokenPipe
  | connectionAborted
  | connectionRefused
  | connectionReset
  | fileExists
  | fileNotFound
  | interrupted
  | isDirectory
  | notDirectory
  | permission
  | processLookup
  | timeout
deriving DecidableEq, Repr

namespace SystemClass

/-- The name of a class. -/
def label : SystemClass → String
  | .general => "OSError"
  | .blocking => "BlockingIOError"
  | .childProcess => "ChildProcessError"
  | .brokenPipe => "BrokenPipeError"
  | .connectionAborted => "ConnectionAbortedError"
  | .connectionRefused => "ConnectionRefusedError"
  | .connectionReset => "ConnectionResetError"
  | .fileExists => "FileExistsError"
  | .fileNotFound => "FileNotFoundError"
  | .interrupted => "InterruptedError"
  | .isDirectory => "IsADirectoryError"
  | .notDirectory => "NotADirectoryError"
  | .permission => "PermissionError"
  | .processLookup => "ProcessLookupError"
  | .timeout => "TimeoutError"

/-- The class of a system error with a given number. -/
def ofNumber (n : Int) : SystemClass :=
  match n with
  | 1 => .permission
  | 2 => .fileNotFound
  | 3 => .processLookup
  | 4 => .interrupted
  | 10 => .childProcess
  | 11 => .blocking
  | 13 => .permission
  | 17 => .fileExists
  | 20 => .notDirectory
  | 21 => .isDirectory
  | 32 => .brokenPipe
  | 103 => .connectionAborted
  | 104 => .connectionReset
  | 108 => .brokenPipe
  | 110 => .timeout
  | 111 => .connectionRefused
  | 114 => .blocking
  | 115 => .blocking
  | _ => .general

end SystemClass

/-- The classes of errors that host code raises. The last three belong to the host application: an
ordinary one, one that cannot be turned into text, and one that has no literal form either. -/
inductive ErrorClass where
  | exception
  | valueError
  | typeError
  | keyError
  | indexError
  | runtimeError
  | zeroDivision
  | lookupError
  | attributeError
  | overflow
  | system (c : SystemClass)
  | keyboardInterrupt
  | systemExit
  | application
  | unprintable
  | unrenderable
deriving DecidableEq, Repr

namespace ErrorClass

/-- The name of a class. -/
def label : ErrorClass → String
  | .exception => "Exception"
  | .valueError => "ValueError"
  | .typeError => "TypeError"
  | .keyError => "KeyError"
  | .indexError => "IndexError"
  | .runtimeError => "RuntimeError"
  | .zeroDivision => "ZeroDivisionError"
  | .lookupError => "LookupError"
  | .attributeError => "AttributeError"
  | .overflow => "OverflowError"
  | .system c => c.label
  | .keyboardInterrupt => "KeyboardInterrupt"
  | .systemExit => "SystemExit"
  | .application => "AppError"
  | .unprintable => "Unprintable"
  | .unrenderable => "Unrenderable"

/-- The module of a class of the host application; the other classes are known everywhere. -/
def home? : ErrorClass → Option String
  | .application => some "app"
  | .unprintable => some "app"
  | .unrenderable => some "app"
  | _ => none

/-- Whether a class asks the program to stop. -/
def isInterrupt : ErrorClass → Bool
  | .keyboardInterrupt => true
  | .systemExit => true
  | _ => false

end ErrorClass

end EventHub
