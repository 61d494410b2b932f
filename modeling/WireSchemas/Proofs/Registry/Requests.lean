import WireSchemas.Proofs.Remote.Guarantee
import WireSchemas.Registry

/-!
# Requests to registries

Everything that a registry does with its cache or with the remote registry is one of the requests
here.  `World.start` is the world of several registries over one empty store, with any requests
that are not begun; the worlds that its moves lead to are all that registries come to.
-/

namespace WireSchemas

open Remote

/-- An operation with another form of its result. -/
def Remote.Operation.map {α β : Type} (f : α → β) (op : Operation α) : Operation β :=
  fun cache => (op cache).bind fun a c => .done c (f a)

/-- What a registry is asked to do. -/
inductive Request where
  | register (info : SchemaInfo) (definition : String) (type : MessageType)
  | find (info : SchemaInfo)
  | findOrRegister (info : SchemaInfo) (type : MessageType)
  | list (type : MessageType) (format : DataFormat)
  /-- Serialize with the serializer of the format in the headers. -/
  | serialize (codecs : SortedMap DataFormat Codec) (catalog : Catalog) (message : Option Message)
      (headers : Headers)
  /-- Serialize with a given serializer. -/
  | serializeBy (codec : Codec) (catalog : Catalog) (message : Option Message) (headers : Headers)

/-- What a request comes to. -/
inductive Response where
  | record (result : Except Failure RegisteredSchema)
  | records (result : Except Failure (List RegisteredSchema))
  | serialized (result : Serialized)

/-- The operation of a request to a registry with given settings. -/
def Request.operation (o : Options) : Request → Operation Response
  | register info definition type => (Resolution.register o info definition type).map .record
  | find info => (Resolution.find info).map .record
  | findOrRegister info type => (Resolution.findOrRegister o info type).map .record
  | list type format => (Resolution.list type format).map .records
  | serialize codecs catalog message headers =>
    (Registry.serialize ⟨o, catalog, codecs, .empty⟩ message headers).map .serialized
  | serializeBy codec catalog message headers =>
    (codec.serialize o catalog message headers).map .serialized

/-- A request to one of several registries. -/
structure Job (registries : Nat) where
  /-- The number of the registry. -/
  owner : Fin registries
  request : Request

namespace Remote.World

/-- Registries with given settings and empty caches over an empty store, and requests to them that
are not begun. -/
def start (settings : List Options) (jobs : List (Job settings.length)) :
    World Store Response where
  remote := .empty
  caches := settings.map fun _ => .empty
  tasks := jobs.map fun j => ⟨j.owner, .fresh (j.request.operation (settings.get j.owner))⟩
  calls := []

/-- The result of a task that is finished. -/
def result? {σ α : Type} (w : World σ α) (i : Nat) : Option α :=
  w.tasks[i]?.bind fun t => t.stage.result?

variable {settings : List Options} {jobs : List (Job settings.length)}

theorem cacheOf_start (owner : Nat) :
  (start settings jobs).cacheOf owner = .empty
  := by
  simp only [cacheOf, start, List.getD_eq_getElem?_getD, List.getElem?_map]
  cases settings[owner]? <;> rfl

theorem tasks_start {i : Nat} {t : Task Response} (h : (start settings jobs).tasks[i]? = some t) :
  ∃ job, jobs[i]? = some job ∧
    t = ⟨job.owner, .fresh (job.request.operation (settings.get job.owner))⟩
  := by
  simp only [start, List.getElem?_map] at h
  obtain ⟨job, hjob, rfl⟩ := Option.map_eq_some_iff.1 h
  use job, hjob

end Remote.World

end WireSchemas
