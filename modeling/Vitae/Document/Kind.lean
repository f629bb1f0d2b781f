/-!
# Kinds of Documents

A run compiles at most one document of each kind. The kind decides the file a
document is written to and the title it carries.

## Main definitions

* `Kind`: A curriculum vitae or a cover letter.
* `Kind.code`: The short name used in logs and file names.
* `Kind.fileName`: The name of the compiled file.
* `Kind.title`: The title of the compiled document.

## Theorems

* `Kind.fileName_injective`: Documents of two kinds never share a file.
-/

namespace Vitae

/-- The kinds of document a run can compile, in order of reporting. -/
inductive Kind where
  | cv
  | coverLetter
deriving DecidableEq, Repr

namespace Kind

/-- Every kind, in order of reporting. -/
def all : List Kind := [.cv, .coverLetter]

def code : Kind → String
  | .cv => "cv"
  | .coverLetter => "cl"

def fileName (kind : Kind) : String :=
  kind.code ++ ".pdf"

def title : Kind → String
  | .cv => "Curriculum Vitae"
  | .coverLetter => "Cover Letter"

theorem fileName_injective {a b : Kind} (h : a.fileName = b.fileName) : a = b := by
  revert h
  cases a <;> cases b <;> decide

end Kind

end Vitae
