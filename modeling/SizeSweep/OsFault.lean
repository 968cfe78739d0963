/-!
The faults that the operating system reports about files and programs.
-/

namespace SizeSweep

/-- A refused operation on a file or program. -/
inductive OsFault where
  | notFound
  | permissionDenied
  | alreadyExists
  | notDirectory
  | isDirectory
  | nameTooLong
  | zeroInName
  | zeroInArgument
  | invalidText
deriving DecidableEq

namespace OsFault

/-- What is wrong, in words. -/
def reason : OsFault → String
  | notFound => "No such file or directory"
  | permissionDenied => "Permission denied"
  | alreadyExists => "File exists"
  | notDirectory => "Not a directory"
  | isDirectory => "Is a directory"
  | nameTooLong => "File name too long"
  | zeroInName => "file name contained an unexpected NUL byte"
  | zeroInArgument => "nul byte found in provided data"
  | invalidText => "stream did not contain valid UTF-8"

/-- The number of a fault that the operating system has numbered. -/
def number? : OsFault → Option Nat
  | notFound => some 2
  | permissionDenied => some 13
  | alreadyExists => some 17
  | notDirectory => some 20
  | isDirectory => some 21
  | nameTooLong => some 36
  | zeroInName | zeroInArgument | invalidText => none

def message (fault : OsFault) : String :=
  match fault.number? with
  | some n => s!"{fault.reason} (os error {n})"
  | none => fault.reason

end OsFault

end SizeSweep
