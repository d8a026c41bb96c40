import OverlayNet.Os.Errno

set_option autoImplicit false

/-! # Causes of failed system operations -/

namespace OverlayNet.Os

inductive Cause where
  /-- The system refused with an error number. -/
  | refused (errno : Errno)
  /-- A path holds a NUL character, which no path of the system can. -/
  | nulInPath
  /-- A file that was read as text is not valid UTF-8. -/
  | notText
  /-- What was to be copied is not a regular file. -/
  | notRegular
  /-- A failure with a text of its own. -/
  | other (text : String)
deriving DecidableEq, Repr

def Cause.text : Cause → String
  | .refused errno => errno.systemText
  | .nulInPath => "file name contained an unexpected NUL byte"
  | .notText => "stream did not contain valid UTF-8"
  | .notRegular => "the source path is neither a regular file nor a symlink to a regular file"
  | .other text => text

end OverlayNet.Os
