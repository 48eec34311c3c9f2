/-!
# Problems with files
-/

namespace SampleRecorder.Files

/-- Why an operation on files fails. -/
inductive Problem where
  | notFound
  | notDirectory
  | isDirectory
  | alreadyExists
  | nameTooLong
  | badName
  | notText
  | other (report : String) (number : Option Nat)
  deriving DecidableEq, Repr

namespace Problem

/-- The wording of a cause. -/
def report : Problem → String
  | notFound => "No such file or directory"
  | notDirectory => "Not a directory"
  | isDirectory => "Is a directory"
  | alreadyExists => "File exists"
  | nameTooLong => "File name too long"
  | badName => "file name contained an unexpected NUL byte"
  | notText => "stream did not contain valid UTF-8"
  | other report _ => report

/-- The number under which the system knows a cause. -/
def number? : Problem → Option Nat
  | notFound => some 2
  | notDirectory => some 20
  | isDirectory => some 21
  | alreadyExists => some 17
  | nameTooLong => some 36
  | badName => none
  | notText => none
  | other _ number => number

/-- The wording of a cause, with its number. -/
def message (p : Problem) : String :=
  match p.number? with
  | some n => p.report ++ s!" (os error {n})"
  | none => p.report

end Problem

end SampleRecorder.Files
