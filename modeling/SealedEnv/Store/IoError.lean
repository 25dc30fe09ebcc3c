import SealedEnv.Text.Quoted

/-!
Contract: failures of file, socket and process operations.

Owns:
- `Errno`, the refusals of the operating system with their numbers and texts;
- `IoError`, which adds the refusals that are made before the system is asked.

Does not own: which operation fails when.
-/

namespace SealedEnv

inductive Errno where
  | notPermitted
  | noEntry
  | ioFault
  | noDevice
  | listTooLong
  | notExecutable
  | accessDenied
  | busy
  | alreadyExists
  | crossDevice
  | notDirectory
  | isDirectory
  | invalidArgument
  | noSpace
  | nameTooLong
  | notEmpty
  | tooManyLinks
  | addressInUse
  | connectionRefused
deriving DecidableEq, Repr

namespace Errno

def number : Errno → Nat
  | notPermitted => 1
  | noEntry => 2
  | ioFault => 5
  | noDevice => 6
  | listTooLong => 7
  | notExecutable => 8
  | accessDenied => 13
  | busy => 16
  | alreadyExists => 17
  | crossDevice => 18
  | notDirectory => 20
  | isDirectory => 21
  | invalidArgument => 22
  | noSpace => 28
  | nameTooLong => 36
  | notEmpty => 39
  | tooManyLinks => 40
  | addressInUse => 98
  | connectionRefused => 111

def text : Errno → String
  | notPermitted => "Operation not permitted"
  | noEntry => "No such file or directory"
  | ioFault => "Input/output error"
  | noDevice => "No such device or address"
  | listTooLong => "Argument list too long"
  | notExecutable => "Exec format error"
  | accessDenied => "Permission denied"
  | busy => "Device or resource busy"
  | alreadyExists => "File exists"
  | crossDevice => "Invalid cross-device link"
  | notDirectory => "Not a directory"
  | isDirectory => "Is a directory"
  | invalidArgument => "Invalid argument"
  | noSpace => "No space left on device"
  | nameTooLong => "File name too long"
  | notEmpty => "Directory not empty"
  | tooManyLinks => "Too many levels of symbolic links"
  | addressInUse => "Address already in use"
  | connectionRefused => "Connection refused"

def message (errno : Errno) : String := s!"{errno.text} (os error {errno.number})"

end Errno

inductive IoError where
  /-- The system refused. -/
  | os (errno : Errno)
  /-- A file that was to be read as text is not UTF-8. -/
  | notUtf8
  /-- A path holds a zero byte. -/
  | interiorZero
  /-- A socket address holds a zero byte. -/
  | interiorZeroInAddress
  /-- A socket address is too long for the system. -/
  | addressTooLong
  /-- An argument or a variable of a command holds a zero byte. -/
  | interiorZeroInCommand
  /-- A command has no program. -/
  | emptyCommand
  /-- A cause at a path that the caller did not name. -/
  | at (cause : IoError) (path : Bytes)
  /-- A cause that another party put into words. -/
  | reported (text : String)
deriving DecidableEq, Repr

def IoError.message : IoError → String
  | os errno => errno.message
  | notUtf8 => "stream did not contain valid UTF-8"
  | interiorZero => "file name contained an unexpected NUL byte"
  | interiorZeroInAddress => "paths must not contain interior null bytes"
  | addressTooLong => "path must be shorter than SUN_LEN"
  | interiorZeroInCommand => "nul byte found in provided data"
  | emptyCommand => "empty command"
  | .at cause path => s!"{cause.message} at path {Text.quotedBytes path}"
  | reported text => text

end SealedEnv
