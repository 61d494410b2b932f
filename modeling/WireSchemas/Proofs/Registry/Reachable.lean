import WireSchemas.Proofs.Registry.Requests
import WireSchemas.Proofs.Resolution.Coherence

/-!
# What registries come to

Requests of all kinds, to any number of registries that share one store, keep every invariant of
bindings in every interleaving, and each answers for the record it returns: `World.kept_run_of`.  So
all caches are coherent with the store.
-/

namespace WireSchemas

open Remote Resolution

/-- How a request accounts for the response to it by the exchanges of its task. -/
def Request.Accounts : Request → List Exchange → Response → Prop
  | .register .., xs, .record (.ok r) => Made xs r
  | .find info, xs, .record (.ok r) =>
    ∃ found, xs = [.found info (.ok found)] ∧ r = foundRecord info found
  | .findOrRegister .., xs, .record (.ok r) => FoundOrMade xs r
  | .list .., xs, .records (.ok rs) => List.Forall₂ Found xs rs
  | _, _, _ => True

/-- The law of a request: it creates one schema at most, and accounts for its response. -/
def Request.law (request : Request) : Law Store Response :=
  fun _ xs result => CreatesLast xs ∧ ∀ response, result = some response →
    request.Accounts xs response

variable {clock : Nat → Timestamp} {I : Store → TypeCache → Prop} {s : Store} {c : TypeCache}

/-! ### Single requests -/

theorem Remote.Operation.keeps_map {α β : Type} {Q : Law Store α} {R : Law Store β}
    {op : Operation α} {form : α → β} {xs : List Exchange}
    (h : (op c).Keeps (.inMemory clock) I Q s xs)
    (hR : ∀ t ys r, Q t ys r → R t ys (r.map form)) :
  (op.map form c).Keeps (.inMemory clock) I R s xs
  := by
  apply h.bind
  · intro t ys hys
    apply hR t ys none hys
  · intro t c ys a hc hys
    exact ⟨hc, hR t ys (some a) hys⟩

/-- A request keeps its law if it accounts for the successes of its operation, and need not
account for failures. -/
theorem Request.law_map {α : Type} {request : Request} {form : Except Failure α → Response}
    {always : List Exchange → Prop} {success : Store → List Exchange → α → Prop} {t : Store}
    {ys : List Exchange} {r : Option (Except Failure α)}
    (h : Law.onSuccess always success t ys r) (halways : always ys → CreatesLast ys)
    (hfailure : ∀ f, request.Accounts ys (form (.error f)))
    (hsuccess : ∀ a, success t ys a → request.Accounts ys (form (.ok a))) :
  request.law t ys (r.map form)
  := by
  refine ⟨halways h.1, ?_⟩
  intro response hresponse
  obtain ⟨result, rfl, rfl⟩ := Option.map_eq_some_iff.1 hresponse
  cases result with
  | error f => apply hfailure
  | ok a => apply hsuccess a (h.2 a rfl)

/-- A serializer creates one schema at most. -/
theorem Codec.keeps_serialize (hI : Invariant clock I) (codec : Codec) (o : Options)
    (catalog : Catalog) (m : Option Message) (headers : Headers) (hc : I s c) :
  (codec.serialize o catalog m headers c).Keeps (.inMemory clock) I
    (fun _ xs _ => CreatesLast xs) s []
  := by
  simp only [serialize]
  split
  · exact ⟨hc, lookupsOnly_nil.createsLast⟩
  · split
    · exact ⟨hc, lookupsOnly_nil.createsLast⟩
    · split
      · exact ⟨hc, lookupsOnly_nil.createsLast⟩
      · apply (keeps_findOrRegister hI o _ _ hc).bind (fun _ _ h => h.1)
        intro t c ys result hc hys
        cases result <;> exact ⟨hc, hys.1⟩

theorem Registry.keeps_serialize (hI : Invariant clock I) (r : Registry) (m : Option Message)
    (headers : Headers) (hc : I s c) :
  (r.serialize m headers c).Keeps (.inMemory clock) I (fun _ xs _ => CreatesLast xs) s []
  := by
  simp only [serialize]
  cases r.codec (SchemaInfo.ofHeaders headers).format with
  | error f => exact ⟨hc, lookupsOnly_nil.createsLast⟩
  | ok codec => apply codec.keeps_serialize hI r.options r.catalog m headers hc

theorem Request.keeps_operation (hI : Invariant clock I) (o : Options) (request : Request)
    (hc : I s c) :
  (request.operation o c).Keeps (.inMemory clock) I request.law s []
  := by
  cases request with
  | register info definition type =>
    apply Operation.keeps_map (keeps_register hI o info definition type hc lookupsOnly_nil)
    intro t ys r hr
    refine law_map hr (fun h => h) (fun _ => trivial) (fun _ h => h.made)
  | find info =>
    apply Operation.keeps_map (keeps_find info hc lookupsOnly_nil)
    intro t ys r hr
    refine law_map hr (fun h => h.createsLast) (fun _ => trivial) ?_
    rintro a ⟨-, found, hys, ha, -⟩
    exact ⟨found, hys, ha⟩
  | findOrRegister info type =>
    apply Operation.keeps_map (keeps_findOrRegister hI o info type hc)
    intro t ys r hr
    refine law_map hr (fun h => h) (fun _ => trivial) (fun _ h => h)
  | list type format =>
    apply Operation.keeps_map (keeps_findAll (c.schemasOf type format) hc lookupsOnly_nil)
    intro t ys r hr
    refine law_map hr (fun h => h.createsLast) (fun _ => trivial) ?_
    rintro rs ⟨zs, rfl, hzs⟩
    apply hzs
  | serialize codecs catalog message headers =>
    apply Operation.keeps_map (Registry.keeps_serialize hI _ message headers hc)
    intro t ys r hr
    refine ⟨hr, ?_⟩
    intro response hresponse
    obtain ⟨serialized, -, rfl⟩ := Option.map_eq_some_iff.1 hresponse
    trivial
  | serializeBy codec catalog message headers =>
    apply Operation.keeps_map (codec.keeps_serialize hI o catalog message headers hc)
    intro t ys r hr
    refine ⟨hr, ?_⟩
    intro response hresponse
    obtain ⟨serialized, -, rfl⟩ := Option.map_eq_some_iff.1 hresponse
    trivial

/-! ### Interleavings -/

/-- The law of the task at a position. -/
def jobLaw {registries : Nat} (jobs : List (Job registries)) (i : Nat) : Law Store Response :=
  fun _ xs result => CreatesLast xs ∧ ∀ job, jobs[i]? = some job →
    ∀ response, result = some response → job.request.Accounts xs response

namespace Remote.World

variable {settings : List Options} {jobs : List (Job settings.length)}

theorem lasting_jobLaw (client : Client Store) (i : Nat) :
  (jobLaw jobs i).Lasting client
  := ⟨fun _ _ _ _ _ h => h, fun _ _ _ h => ⟨h.1, by simp⟩⟩

/-- What requests keep one by one, all their interleavings keep. -/
theorem kept_run_of {law : Nat → Law Store Response} (hI : Invariant clock I)
    (hlaw : ∀ i, (law i).Lasting (.inMemory clock))
    (hjobs : ∀ i (job : Job settings.length), jobs[i]? = some job → ∀ s c, I s c →
      (job.request.operation (settings.get job.owner) c).Keeps (.inMemory clock) I (law i) s [])
    (moves : List Move) :
  ((start settings jobs).run (.inMemory clock) moves).Kept (.inMemory clock) I law
    ((start settings jobs).history (.inMemory clock) moves)
  := by
  refine Kept.run hlaw hI.leads ?_ moves
  constructor
  · intro owner
    rw [cacheOf_start]
    apply hI.empty
  · intro i t ht
    obtain ⟨job, hjob, rfl⟩ := tasks_start ht
    constructor
    · apply (hjobs i job hjob .empty .empty (hI.empty _)).law (hlaw i)
    · intro s c _ hc
      apply hjobs i job hjob s c hc

theorem keeps_jobLaw (hI : Invariant clock I) {i : Nat} {job : Job settings.length}
    (hjob : jobs[i]? = some job) (hc : I s c) :
  (job.request.operation (settings.get job.owner) c).Keeps (.inMemory clock) I (jobLaw jobs i) s []
  := by
  apply (job.request.keeps_operation hI _ hc).imp
  intro s xs r hr
  refine ⟨hr.1, fun job' hjob' => ?_⟩
  obtain rfl : job = job' := by simpa [hjob] using hjob'
  apply hr.2

/-- In every interleaving of requests all caches are coherent with the store, and every task obeys
the law of its request. -/
theorem kept_run (clock : Nat → Timestamp) (settings : List Options)
    (jobs : List (Job settings.length)) (moves : List Move) :
  ((start settings jobs).run (.inMemory clock) moves).Kept (.inMemory clock) Coherent (jobLaw jobs)
    ((start settings jobs).history (.inMemory clock) moves)
  := kept_run_of (Coherent.invariant clock) (lasting_jobLaw _)
    (fun _ _ hjob _ _ => keeps_jobLaw (Coherent.invariant clock) hjob) moves

theorem identified_run (clock : Nat → Timestamp) (settings : List Options)
    (jobs : List (Job settings.length)) (moves : List Move) :
  ((start settings jobs).run (.inMemory clock) moves).remote.Identified
  := Client.identified_of_leads (leads_run _ moves) Store.identified_empty

end Remote.World

end WireSchemas
