import AdmissionGate.Text.Quoted

/-!
# Failures of input and output

Why a file or a socket could not be used.  A failure that the system reports has a number; others have a text of their own
or only a kind.
-/

namespace AdmissionGate

/-- Why a file or a socket could not be used. -/
inductive IoError where
  /-- Reported by the system under a number, with a reason in words. -/
  | system (code : Nat) (kind reason : String)
  /-- With a text of its own. -/
  | custom (kind text : String)
  /-- Known by its kind alone, which is told in words. -/
  | simple (kind description : String)
deriving DecidableEq, Repr

namespace IoError

def notFound : IoError := system 2 "NotFound" "No such file or directory"

/-- A part of the path before the last one is no directory. -/
def notADirectory : IoError := system 20 "NotADirectory" "Not a directory"

def isADirectory : IoError := system 21 "IsADirectory" "Is a directory"

def nameTooLong : IoError := system 36 "InvalidFilename" "File name too long"

def addressInUse : IoError := system 98 "AddrInUse" "Address already in use"

def message : IoError → String
  | system code _ reason => reason ++ " (os error " ++ toString code ++ ")"
  | custom _ text => text
  | simple _ description => description

def record : IoError → String
  | system code kind reason =>
    "Os \x7b code: " ++ toString code ++ ", kind: " ++ kind ++ ", message: " ++ Text.quoted reason ++ " \x7d"
  | custom kind text => "Custom \x7b kind: " ++ kind ++ ", error: " ++ Text.quoted text ++ " \x7d"
  | simple kind _ => "Kind(" ++ kind ++ ")"

end IoError

end AdmissionGate
