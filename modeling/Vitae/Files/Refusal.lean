/-!
# Refused File Operations

Why an operation on files fails. Most refusals come from the operating system,
which gives each a name and a number; a few are raised before it is asked. The
one that matters to decisions is that something is not there.

## Main definitions

* `Refusal`: Why an operation on files fails.
* `Refusal.message`: A refusal in words.
-/

namespace Vitae

/-- Why an operation on files fails. -/
inductive Refusal where
  | notThere
  | alreadyThere
  | notAFolder
  | isAFolder
  | nameTooLong
  | inUse
  | badArgument
  /-- The contents are not text. -/
  | notText
  /-- The path holds a zero byte. -/
  | zeroByte
  /-- Any other reason, in words. -/
  | other (reason : String)
deriving DecidableEq, Repr

def Refusal.message : Refusal → String
  | .notThere => "No such file or directory (os error 2)"
  | .alreadyThere => "File exists (os error 17)"
  | .notAFolder => "Not a directory (os error 20)"
  | .isAFolder => "Is a directory (os error 21)"
  | .nameTooLong => "File name too long (os error 36)"
  | .inUse => "Device or resource busy (os error 16)"
  | .badArgument => "Invalid argument (os error 22)"
  | .notText => "stream did not contain valid UTF-8"
  | .zeroByte => "file name contained an unexpected NUL byte"
  | .other reason => reason

end Vitae
