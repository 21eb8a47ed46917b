/-!
# DueDispatch — paths of sockets

A server on the same machine may listen on a socket, which has a path in the
file system. Not every text can be such a path: it ends at a null character, and
the system has little room for it.
-/

namespace DueDispatch.SocketPath

/-- Why a text is no path of a socket. -/
inductive Fault
  | holdsNull
  | tooLong
deriving DecidableEq

/-- The wording of a fault. -/
def Fault.message : Fault → String
  | .holdsNull => "paths must not contain interior null bytes"
  | .tooLong => "path must be shorter than SUN_LEN"

/-- The bytes that the system has room for, the null at the end among them. -/
def room : Nat := 108

/-- Why this text is no path of a socket, if it is none. -/
def fault? (path : String) : Option Fault :=
  if path.toList.contains '\x00' then some .holdsNull
  else if room ≤ path.utf8ByteSize then some .tooLong
  else none

end DueDispatch.SocketPath
