import HttpExchange.File.Path
import HttpExchange.Io.Error

/-! What can go wrong with a body. -/

namespace HttpExchange

/-- Why a body was not transferred or stored. -/
inductive BodyError where
  /-- The target is a directory and no header names a file in it. -/
  | noFileName (directory : Path)
  /-- The target has no file name. -/
  | notAFile (path : Path)
  /-- The body ended early, after `count` bytes. -/
  | endedEarly (count : Nat) (cause : IoError)
  | io (cause : IoError)
  /-- The complete body could not be moved from `temporary` to `final`. -/
  | notMoved (temporary final : Path) (cause : IoError)
  deriving DecidableEq, Repr

namespace BodyError

/-- The wording of an error. -/
def message : BodyError → Text
  | noFileName directory =>
    "can't get file name from [Content-Disposition] for directory ".toList
      ++ directory
  | notAFile path => "invalid download target: ".toList ++ path
  | endedEarly count cause =>
    "transport truncated after ".toList ++ Text.ofNat count
      ++ " bytes: ".toList ++ cause.text
  | io cause => "io error: ".toList ++ cause.text
  | notMoved temporary final cause =>
    "failed to rename ".toList ++ temporary ++ " to ".toList ++ final
      ++ ": ".toList ++ cause.text

/-- Whether the body ended early. -/
def isEarlyEnd : BodyError → Bool
  | endedEarly _ _ => true
  | _ => false

end BodyError

end HttpExchange
