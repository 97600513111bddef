import LineBudget.Text.Literal

/-! How a file system refuses a request. -/
namespace LineBudget.Files

inductive Reason where
  | notFound
  | permissionDenied
  | exists
  | notDirectory
  | isDirectory
  | nameTooLong
  | tooManyLinks
  deriving DecidableEq, Repr

def Reason.number : Reason → Nat
  | .notFound => 2
  | .permissionDenied => 13
  | .exists => 17
  | .notDirectory => 20
  | .isDirectory => 21
  | .nameTooLong => 36
  | .tooManyLinks => 40

def Reason.text : Reason → String
  | .notFound => "No such file or directory"
  | .permissionDenied => "Permission denied"
  | .exists => "File exists"
  | .notDirectory => "Not a directory"
  | .isDirectory => "Is a directory"
  | .nameTooLong => "File name too long"
  | .tooManyLinks => "Too many levels of symbolic links"

def Reason.kind : Reason → String
  | .notFound => "FileNotFoundError"
  | .permissionDenied => "PermissionError"
  | .exists => "FileExistsError"
  | .notDirectory => "NotADirectoryError"
  | .isDirectory => "IsADirectoryError"
  | .nameTooLong | .tooManyLinks => "OSError"

/-- Reasons for which a test of existence or type answers no; the other ones leave it without an
answer. -/
def Reason.answersNo : Reason → Bool
  | .notFound | .notDirectory | .tooManyLinks => true
  | _ => false

structure Refusal where
  reason : Reason
  path : String
  deriving DecidableEq, Repr

def Refusal.message (r : Refusal) : String :=
  s!"[Errno {r.reason.number}] {r.reason.text}: {Text.literal r.path}"

end LineBudget.Files
