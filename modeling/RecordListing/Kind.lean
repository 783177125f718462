import RecordListing.Text.Blank
import RecordListing.Text.Lowercase

namespace RecordListing

/-!
# Kinds of records
-/

inductive Kind where
  | volume
  | snapshot
  | accessHost
  | subnet
  | hardware
  | user
  | virtualServer
  | hostGuest
  deriving DecidableEq

namespace Kind

def all : List Kind :=
  [.volume, .snapshot, .accessHost, .subnet, .hardware, .user, .virtualServer, .hostGuest]

theorem mem_all (k : Kind) : k ∈ all := by cases k <;> decide

def name : Kind → String
  | .volume => "volume"
  | .snapshot => "snapshot"
  | .accessHost => "access_host"
  | .subnet => "subnet"
  | .hardware => "hardware"
  | .user => "user"
  | .virtualServer => "virtual_server"
  | .hostGuest => "host_guest"

/-- The kind with a name; `vs` is short for virtual servers. -/
def ofName? (s : String) : Option Kind :=
  if s = "vs" then some .virtualServer else all.find? (·.name = s)

/-- Blanks around the name, the case of its letters and the choice between hyphens
and underscores do not matter. -/
def ofText? (text : String) : Option Kind :=
  ofName? (.ofList
    ((Text.lowerAscii (Text.trim text)).toList.map fun c => if c = '-' then '_' else c))

def unknownMessage (text : String) : String :=
  "unknown entity kind '" ++ text ++
    "' (expected one of: volume, snapshot, access-host, subnet, " ++
    "hardware, user, virtual-server, host-guest)"

end Kind

end RecordListing
