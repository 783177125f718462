import RecordListing.CommandLine.Execution
import RecordListing.Proofs.Planning

namespace RecordListing

/-!
# How a listing consults its source

A request is planned before its source is consulted, and the mask command makes the
same plan. A refused request is not fetched; a planned one is fetched once, with
the mask of the plan, and from there on only the source can fail.
-/

def Entry.fetch? : Entry → Option (Kind × Mask)
  | .report _ => none
  | .fetch kind mask => some (kind, mask)

/-- What a run asked of its source, in order. -/
def Run.fetches {ε : Type} (run : Run ε) : List (Kind × Mask) :=
  run.journal.filterMap Entry.fetch?

@[simp] theorem filterMap_fetch?_map_report (events : List Event) :
    (events.map Entry.report).filterMap Entry.fetch? = [] := by
  induction events with
  | nil => rfl
  | cons event events ih => simp [Entry.fetch?]

namespace Registry

variable (r : Registry) (style : TableStyle) (q : Request) (p : Plan) (answer : Fetched)

theorem fetches_conclude : (r.conclude style q p answer).fetches = [(q.kind, p.mask)] := by
  unfold conclude
  cases answer.records with
  | error cause => simp [Run.fetches, List.filterMap_cons, Entry.fetch?]
  | ok records => simp [Run.fetches, List.filterMap_cons, Entry.fetch?]

theorem conclude_eq_error_iff {e : ListingError} :
    (r.conclude style q p answer).outcome = .error e ↔
      ∃ cause, answer.records = .error cause ∧ e = .source q.kind cause := by
  unfold conclude
  cases answer.records with
  | error cause => simp [eq_comm]
  | ok records => simp

end Registry

theorem mapError_eq_error_iff {ε ε' α : Type} {f : ε → ε'} {x : Except ε α} {e' : ε'} :
    x.mapError f = .error e' ↔ ∃ e, x = .error e ∧ f e = e' := by
  constructor
  · intro h
    cases x with
    | error e => exact ⟨e, rfl, Except.error.inj h⟩
    | ok a => cases h
  · rintro ⟨e, rfl, rfl⟩
    rfl

namespace CommandLine

section Listing

variable (s : Settings) {r : Registry} {kind : Kind} {p : Projection} (form : Option OutputForm)

/-- The form of the output has no part in the plan, so the mask command makes it too. -/
theorem plan_request (form' : Option OutputForm) :
    r.plan (request s kind p form) = r.plan (request s kind p form') :=
  rfl

theorem showMask_eq_error_iff {e : RunError} :
    (showMask s r kind p).outcome = .error e ↔
      ∃ cause, r.plan (request s kind p form) = .error cause ∧ e = .listing (.request cause) := by
  unfold showMask
  rw [plan_request s form none]
  cases r.plan (request s kind p none) with
  | error cause => simp [eq_comm]
  | ok plan => simp

theorem showMask_eq_ok_iff {text : String} :
    (showMask s r kind p).outcome = .ok text ↔
      ∃ plan, r.plan (request s kind p form) = .ok plan ∧ plan.mask.toText = text := by
  unfold showMask
  rw [plan_request s form none]
  cases r.plan (request s kind p none) with
  | error cause => simp
  | ok plan => simp

theorem listFrom_of_refused {cause : RequestError}
    (h : r.plan (request s kind p form) = .error cause) (source : Source) :
    listFrom s r kind p form source = ⟨[], .error (.listing (.request cause))⟩ := by
  unfold listFrom
  rw [Registry.list_of_refused _ h]
  rfl

variable {s form} {plan : Plan} (h : r.plan (request s kind p form) = .ok plan) (source : Source)
include h

theorem fetches_listFrom : (listFrom s r kind p form source).fetches = [(kind, plan.mask)] := by
  have hlist := Registry.list_of_plan s.output.tableStyle h source
  exact (congrArg Run.fetches hlist).trans (Registry.fetches_conclude _ _ _ plan _)

theorem listFrom_eq_error_iff {e : RunError} :
    (listFrom s r kind p form source).outcome = .error e ↔
      ∃ cause, (source kind plan.mask).records = .error cause ∧
        e = .listing (.source kind cause) := by
  unfold listFrom
  rw [mapError_eq_error_iff, Registry.list_of_plan _ h]
  constructor
  · rintro ⟨err, herr, rfl⟩
    obtain ⟨cause, hcause, rfl⟩ := (Registry.conclude_eq_error_iff _ _ _ _ _).mp herr
    exact ⟨cause, hcause, rfl⟩
  · rintro ⟨cause, hcause, rfl⟩
    exact ⟨_, (Registry.conclude_eq_error_iff _ _ _ _ _).mpr ⟨cause, hcause, rfl⟩, rfl⟩

/-- Of a source nothing counts but its answer to the one question that is asked. -/
theorem listFrom_congr {source' : Source}
    (hanswer : source kind plan.mask = source' kind plan.mask) :
    listFrom s r kind p form source = listFrom s r kind p form source' := by
  have hanswer' : source (request s kind p form).kind plan.mask =
      source' (request s kind p form).kind plan.mask := hanswer
  unfold listFrom
  rw [Registry.list_of_plan _ h, Registry.list_of_plan _ h, hanswer']

end Listing

/-- What is listed is what the mask command shows. If it refuses a request, the listing
fails with the same error and leaves the source alone; if it shows a mask, the listing
fetches once, with that mask, and fails only if the source does. -/
theorem listFrom_consults (s : Settings) (r : Registry) (kind : Kind) (p : Projection)
    (form : Option OutputForm) (source : Source) (sources : String → Source) :
    (∀ e, ((Command.mask kind p).run s r sources).outcome = .error e →
      listFrom s r kind p form source = ⟨[], .error e⟩ ∧ e.exitCode = 2 ∧
        (listFrom s r kind p form source).fetches = []) ∧
    (∀ text, ((Command.mask kind p).run s r sources).outcome = .ok text →
      ∃ mask, mask.toText = text ∧
        (listFrom s r kind p form source).fetches = [(kind, mask)] ∧
        (∀ source', source kind mask = source' kind mask →
          listFrom s r kind p form source = listFrom s r kind p form source') ∧
        (∀ e, (listFrom s r kind p form source).outcome = .error e ↔
          ∃ cause, (source kind mask).records = .error cause ∧ e = .listing (.source kind cause)) ∧
        ∀ e, (listFrom s r kind p form source).outcome = .error e → e.exitCode = 1) ∧
    ∀ form', r.plan (request s kind p form) = r.plan (request s kind p form') ∧
      (listFrom s r kind p form source).fetches = (listFrom s r kind p form' source).fetches ∧
      ∀ e, (listFrom s r kind p form source).outcome = .error e ↔
        (listFrom s r kind p form' source).outcome = .error e := by
  refine ⟨?_, ?_, ?_⟩
  · intro e he
    obtain ⟨cause, hplan, rfl⟩ := (showMask_eq_error_iff s form).mp he
    rw [listFrom_of_refused s form hplan]
    exact ⟨rfl, rfl, rfl⟩
  · intro text htext
    obtain ⟨plan, hplan, hmask⟩ := (showMask_eq_ok_iff s form).mp htext
    refine ⟨plan.mask, hmask, fetches_listFrom hplan source, ?_, ?_, ?_⟩
    · intro source' hanswer
      exact listFrom_congr hplan source hanswer
    · intro e
      exact listFrom_eq_error_iff hplan source
    · intro e he
      obtain ⟨cause, -, rfl⟩ := (listFrom_eq_error_iff hplan source).mp he
      rfl
  · intro form'
    refine ⟨plan_request s form form', ?_⟩
    cases hplan : r.plan (request s kind p form) with
    | error cause =>
        have hplan' : r.plan (request s kind p form') = .error cause :=
          plan_request s form' form ▸ hplan
        rw [listFrom_of_refused s form hplan, listFrom_of_refused s form' hplan']
        exact ⟨rfl, fun _ => Iff.rfl⟩
    | ok plan =>
        have hplan' : r.plan (request s kind p form') = .ok plan :=
          plan_request s form' form ▸ hplan
        refine ⟨(fetches_listFrom hplan source).trans (fetches_listFrom hplan' source).symm, ?_⟩
        intro e
        exact (listFrom_eq_error_iff hplan source).trans
          (listFrom_eq_error_iff hplan' source).symm

end CommandLine

end RecordListing
