import MatchedLines.Text
/-!
The system's reasons for refusing an operation, each with its code and its wording.
-/

namespace MatchedLines

inductive Errno where
  | noEntry
  | accessDenied
  | notPermitted
  | notDirectory
  | isDirectory
  | alreadyExists
  | notEmpty
  | noBuffers
  | nameTooLong
  | argumentsTooLong
  | badFormat
  | badDescriptor
  | noDevice
  | noSpace
  | noMemory
  | tooManyLinks
  | invalidArgument
  | busy
  | noProcess
  /-- A reason without a name here, known by its code and its wording. -/
  | labelled (code wording : Text)
  deriving DecidableEq, Repr

namespace Errno

/-- The code, as shown in a failure of the system. -/
def code : Errno → Text
  | noEntry => "ENOENT".toList
  | accessDenied => "EACCES".toList
  | notPermitted => "EPERM".toList
  | notDirectory => "ENOTDIR".toList
  | isDirectory => "EISDIR".toList
  | alreadyExists => "EEXIST".toList
  | notEmpty => "ENOTEMPTY".toList
  | noBuffers => "ENOBUFS".toList
  | nameTooLong => "ENAMETOOLONG".toList
  | argumentsTooLong => "E2BIG".toList
  | badFormat => "ENOEXEC".toList
  | badDescriptor => "EBADF".toList
  | noDevice => "ENXIO".toList
  | noSpace => "ENOSPC".toList
  | noMemory => "ENOMEM".toList
  | tooManyLinks => "ELOOP".toList
  | invalidArgument => "EINVAL".toList
  | busy => "EBUSY".toList
  | noProcess => "ESRCH".toList
  | labelled code _ => code

/-- The wording, as commands show it. -/
def wording : Errno → Text
  | noEntry => "No such file or directory".toList
  | accessDenied => "Permission denied".toList
  | notPermitted => "Operation not permitted".toList
  | notDirectory => "Not a directory".toList
  | isDirectory => "Is a directory".toList
  | alreadyExists => "File exists".toList
  | notEmpty => "Directory not empty".toList
  | noBuffers => "No buffer space available".toList
  | nameTooLong => "File name too long".toList
  | argumentsTooLong => "Argument list too long".toList
  | badFormat => "Exec format error".toList
  | badDescriptor => "Bad file descriptor".toList
  | noDevice => "No such device or address".toList
  | noSpace => "No space left on device".toList
  | noMemory => "Cannot allocate memory".toList
  | tooManyLinks => "Too many levels of symbolic links".toList
  | invalidArgument => "Invalid argument".toList
  | busy => "Device or resource busy".toList
  | noProcess => "No such process".toList
  | labelled _ wording => wording

end Errno
end MatchedLines
