import RecordListing.Sorter
import RecordListing.Source

namespace RecordListing

/-!
# Listings

A request is planned first: checked, and turned into a selection and a mask. Only a
planned request is fetched, once; its records are then sorted, projected and
rendered.
-/

structure Request where
  kind : Kind
  columns : List ColumnName := []
  /-- Without one, the entity's default order. -/
  sortKey : Option SortKey := none
  form : OutputForm := .table

structure Plan where
  selection : Selection
  mask : Mask

def Plan.event (kind : Kind) (p : Plan) : Event :=
  .planned kind p.selection.columns.length p.selection.sortKey p.mask

inductive ListingError where
  | request (e : RequestError)
  | source (kind : Kind) (e : SourceError)

def ListingError.message : ListingError → String
  | .request e => e.message
  | .source kind e => "Failed to list " ++ kind.name ++ " records: " ++ e.message

/-- What happens in a run, in order. -/
inductive Entry where
  | report (e : Event)
  | fetch (kind : Kind) (mask : Mask)

structure Run (ε : Type) where
  journal : List Entry
  outcome : Except ε String

namespace Registry

def plan (r : Registry) (q : Request) : Except RequestError Plan :=
  let e := r.entity q.kind
  match e.select (q.sortKey.getD e.defaultSort) q.columns with
  | .error err => .error err
  | .ok selection => .ok ⟨selection, .ofSelection e selection⟩

/-- The text of a planned listing of records. -/
def present (r : Registry) (style : TableStyle) (q : Request) (s : Selection)
    (records : List Json) : String :=
  let e := r.entity q.kind
  let sorted := (Sorter.ofRegistry r).sort q.kind s.sortKey records
  render style q.form e s.columns (sorted.map (Row.project e s.columns))

/-- What is reported from the arrival of records on. -/
def presentEvents (r : Registry) (q : Request) (s : Selection) (count : Nat) : List Event :=
  let sorting := match s.sortKey with
    | some name =>
      if (Sorter.ofRegistry r).supports q.kind name then [.sorting q.kind name count] else []
    | none => []
  .fetched q.kind count :: sorting ++ [.rendering q.kind q.form count]

/-- The run of a planned request from the answer of its source on. -/
def conclude (r : Registry) (style : TableStyle) (q : Request) (p : Plan) (answer : Fetched) :
    Run ListingError :=
  let journal := .report (p.event q.kind) :: .fetch q.kind p.mask :: answer.events.map .report
  match answer.records with
  | .error e => ⟨journal, .error (.source q.kind e)⟩
  | .ok records =>
    ⟨journal ++ (presentEvents r q p.selection records.length).map .report,
      .ok (r.present style q p.selection records)⟩

def list (r : Registry) (style : TableStyle) (q : Request) (source : Source) :
    Run ListingError :=
  match r.plan q with
  | .error e => ⟨[], .error (.request e)⟩
  | .ok p => r.conclude style q p (source q.kind p.mask)

end Registry

end RecordListing
