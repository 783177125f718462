import RecordListing.Catalogue

namespace RecordListing

/-!
# The registry

One entity for every kind of records: the catalogue's, with the overrides of the
settings applied.
-/

structure Registry where
  volume : Entity
  snapshot : Entity
  accessHost : Entity
  subnet : Entity
  hardware : Entity
  user : Entity
  virtualServer : Entity
  hostGuest : Entity

namespace Registry

def entity (r : Registry) : Kind → Entity
  | .volume => r.volume
  | .snapshot => r.snapshot
  | .accessHost => r.accessHost
  | .subnet => r.subnet
  | .hardware => r.hardware
  | .user => r.user
  | .virtualServer => r.virtualServer
  | .hostGuest => r.hostGuest

/-- The entity of a kind under an override. -/
def configured (kind : Kind) (o : Option Override) : Except EntityError Entity :=
  match Entity.ofDeclaration (Catalogue.declaration kind) with
  | .error e => .error e
  | .ok entity => o.elim (.ok entity) fun o => (entity.override o).toExcept

/-- The registry under overrides, or the first error in the order of kinds. -/
def withOverrides (overrides : Kind → Option Override) : Except EntityError Registry := do
  let volume ← configured .volume (overrides .volume)
  let snapshot ← configured .snapshot (overrides .snapshot)
  let accessHost ← configured .accessHost (overrides .accessHost)
  let subnet ← configured .subnet (overrides .subnet)
  let hardware ← configured .hardware (overrides .hardware)
  let user ← configured .user (overrides .user)
  let virtualServer ← configured .virtualServer (overrides .virtualServer)
  let hostGuest ← configured .hostGuest (overrides .hostGuest)
  return { volume, snapshot, accessHost, subnet, hardware, user, virtualServer, hostGuest }

end Registry

end RecordListing
