/-!
# Faults

What can go wrong, by cause, and the one line that reports it. Only an unavailable reading is
expected to pass by itself; everything else wants somebody's attention.
-/

namespace LinkWatch

/-- Why the operating system refused a request on a file or a program. -/
inductive OsError where
  | notFound
  | noDevice
  | badDescriptor
  | noMemory
  | permissionDenied
  | exists
  | notDirectory
  | isDirectory
  | noSpace
  | readOnly
  | nameTooLong
  | notEmpty
  | brokenPipe
  | notPermitted
  | listTooLong
  | notExecutable
  | busy
  | invalid
  | noTerminal
  | noSeek
  | tooManyLinks
  deriving DecidableEq, Repr

/-- The system's number for the error. -/
def OsError.code : OsError → Nat
  | .notPermitted => 1
  | .notFound => 2
  | .noDevice => 6
  | .listTooLong => 7
  | .notExecutable => 8
  | .badDescriptor => 9
  | .noMemory => 12
  | .permissionDenied => 13
  | .busy => 16
  | .exists => 17
  | .notDirectory => 20
  | .isDirectory => 21
  | .invalid => 22
  | .noTerminal => 25
  | .noSpace => 28
  | .noSeek => 29
  | .readOnly => 30
  | .brokenPipe => 32
  | .nameTooLong => 36
  | .notEmpty => 39
  | .tooManyLinks => 40

/-- The system's words for the error. -/
def OsError.words : OsError → String
  | .notFound => "No such file or directory"
  | .noDevice => "No such device or address"
  | .badDescriptor => "Bad file descriptor"
  | .noMemory => "Cannot allocate memory"
  | .permissionDenied => "Permission denied"
  | .exists => "File exists"
  | .notDirectory => "Not a directory"
  | .isDirectory => "Is a directory"
  | .noSpace => "No space left on device"
  | .readOnly => "Read-only file system"
  | .nameTooLong => "File name too long"
  | .notEmpty => "Directory not empty"
  | .brokenPipe => "Broken pipe"
  | .notPermitted => "Operation not permitted"
  | .listTooLong => "Argument list too long"
  | .notExecutable => "Exec format error"
  | .busy => "Device or resource busy"
  | .invalid => "Invalid argument"
  | .noTerminal => "Inappropriate ioctl for device"
  | .noSeek => "Illegal seek"
  | .tooManyLinks => "Too many levels of symbolic links"

/-- The cause of a failed read, write or start of a program. -/
inductive IoCause where
  | system (e : OsError)
  | notText
  | nulByte
  | nulInName
  | described (text : String)
  deriving DecidableEq, Repr

/-- The text of an input or output error. -/
def IoCause.message : IoCause → String
  | .system e => e.words ++ " (os error " ++ toString e.code ++ ")"
  | .notText => "stream did not contain valid UTF-8"
  | .nulByte => "nul byte found in provided data"
  | .nulInName => "file name contained an unexpected NUL byte"
  | .described text => text

/-- A fault of any part of the program. -/
inductive Fault where
  /-- A file or program could not be used. -/
  | io (cause : IoCause)
  /-- The counters could not be read this time. -/
  | unavailable (text : String)
  /-- A document could not be read. -/
  | parse (text : String)
  /-- Settings could not be written. -/
  | settings (text : String)
  /-- A program failed or took too long. -/
  | command (text : String)
  /-- Anything else. -/
  | other (text : String)
  deriving DecidableEq, Repr

/-- The line that reports a fault. -/
def Fault.message : Fault → String
  | .io cause => "I/O error: " ++ cause.message
  | .unavailable text => "Snapshot unavailable: " ++ text
  | .parse text => "Parse error: " ++ text
  | .settings text => "Configuration error: " ++ text
  | .command text => "Command failed: " ++ text
  | .other text => text

/-- Whether the caller should simply try again at the next reading. -/
def Fault.isTransient : Fault → Bool
  | .unavailable _ => true
  | _ => false

/-- A system error as a fault. -/
def Fault.ofSystem (e : OsError) : Fault :=
  .io (.system e)

end LinkWatch
