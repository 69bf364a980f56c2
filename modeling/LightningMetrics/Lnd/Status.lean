import LightningMetrics.Text.Quoted

set_option autoImplicit false

namespace LightningMetrics.Lnd

structure Status where
  code : Int
  message : String
  /-- The headers that came with the failure. -/
  headers : List (String × String)
deriving DecidableEq, Repr

namespace Status

/-- The names of the codes, from 1 on. -/
def names : List String :=
  ["Cancelled", "Unknown", "InvalidArgument", "DeadlineExceeded", "NotFound", "AlreadyExists",
    "PermissionDenied", "ResourceExhausted", "FailedPrecondition", "Aborted", "OutOfRange",
    "Unimplemented", "Internal", "Unavailable", "DataLoss", "Unauthenticated"]

/-- A code without a name of its own is unknown. -/
def name (code : Int) : String :=
  if code ≤ 0 then "Unknown" else names.getD (code.toNat - 1) "Unknown"

def headersText (headers : List (String × String)) : String :=
  let entries := headers.map fun header => Text.quoted header.1 ++ ": " ++ Text.quoted header.2
  "\x7b" ++ ", ".intercalate entries ++ "\x7d"

def text (status : Status) : String :=
  "status: " ++ name status.code ++ ", message: " ++ Text.quoted status.message ++
    ", details: [], metadata: MetadataMap \x7b headers: " ++ headersText status.headers ++ " \x7d"

/-- A call that the node itself refused. -/
def ofCall (code : Int) (message : String) : Status :=
  ⟨code, message, [("content-type", "application/grpc")]⟩

/-- A stream that failed after it was opened. -/
def ofStream (code : Int) (message : String) : Status :=
  ⟨code, message, []⟩

/-- A call that did not reach the node. -/
def unreachable : Status :=
  ⟨2, "client error (Connect)", []⟩

/-- A call that had nowhere to go, since the address of the node names no host. -/
def hostless : Status :=
  ⟨2, "client error (UserAbsoluteUriRequired)", []⟩

end Status

end LightningMetrics.Lnd
