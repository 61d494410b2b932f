import Mathlib.Tactic.Use
import WireSchemas.Remote.Interleaving

/-!
# Histories of interleavings

The history of an interleaving lists the calls that were carried out, each with its task and its
answer.  A move changes at most one task, in one of the seven ways of `Stage.Advance`; what such
changes keep, every interleaving keeps.
-/

namespace WireSchemas.Remote

/-- A call that was carried out, with its answer. -/
inductive Exchange where
  | created (request : CreateRequest) (answer : Except Failure Revision)
  | found (schema : SchemaInfo) (answer : Except Failure (Option StoredSchema))

/-- An exchange of one of several tasks. -/
structure Event where
  /-- The position of the task. -/
  task : Nat
  exchange : Exchange

/-- The exchanges of one task. -/
def exchangesOf (i : Nat) (history : List Event) : List Exchange :=
  history.filterMap fun e => if e.task = i then some e.exchange else none

theorem exchangesOf_append (i : Nat) (h h' : List Event) :
  exchangesOf i (h ++ h') = exchangesOf i h ++ exchangesOf i h'
  := List.filterMap_append

theorem exchangesOf_map_self (i : Nat) (xs : List Exchange) :
  exchangesOf i (xs.map (Event.mk i)) = xs
  := by
  induction xs with
  | nil => rfl
  | cons x xs ih =>
    have hx : exchangesOf i [⟨i, x⟩] = [x] := by simp [exchangesOf]
    calc exchangesOf i ((x :: xs).map (Event.mk i))
      _ = exchangesOf i [⟨i, x⟩] ++ exchangesOf i (xs.map (Event.mk i)) :=
        exchangesOf_append i [⟨i, x⟩] _
      _ = x :: xs := by rw [hx, ih, List.singleton_append]

theorem exchangesOf_map_of_ne {i j : Nat} (h : j ≠ i) (xs : List Exchange) :
  exchangesOf i (xs.map (Event.mk j)) = []
  := by
  simp [exchangesOf, h]

theorem mem_exchangesOf {i : Nat} {x : Exchange} {h : List Event} :
  x ∈ exchangesOf i h ↔ ⟨i, x⟩ ∈ h
  := by
  simp only [exchangesOf, List.mem_filterMap, Option.ite_none_right_eq_some, Option.some.injEq]
  constructor
  · rintro ⟨⟨j, y⟩, hmem, rfl, rfl⟩
    apply hmem
  · intro hmem
    use ⟨i, x⟩, hmem

variable {σ α : Type} (client : Client σ)

namespace World

/-- The exchange that a move brings about, if any. -/
def carriedOut (w : World σ α) : Move → List Event
  | .carryOut i =>
    match w.tasks[i]? with
    | some ⟨_, .creating request _⟩ => [⟨i, .created request (client.create request w.remote).1⟩]
    | some ⟨_, .lookingUp schema _⟩ => [⟨i, .found schema (client.lookup schema w.remote).1⟩]
    | _ => []
  | .proceed _ => []
  | .cancel _ => []

/-- The exchanges that a list of moves brings about, in order. -/
def history (w : World σ α) : List Move → List Event
  | [] => []
  | m :: ms => w.carriedOut client m ++ (w.step client m).history ms

end World

/-! ### The ways of a task -/

/-- How a task goes on at a state of the remote registry and with a cache: to another stage, state
and cache, by some exchanges. -/
inductive Stage.Advance (s : σ) (c : TypeCache) :
    Stage α → Stage α → σ → TypeCache → List Exchange → Prop
  | begin (op : Operation α) : Advance s c (.fresh op) (op c).stage s (op c).cache []
  | resume (taken lost : Operation α) :
    Advance s c (.answered taken lost) (taken c).stage s (taken c).cache []
  | create (request : CreateRequest) (resume : Except Failure Revision → Operation α) :
    Advance s c (.creating request resume)
      (.answered (resume (client.create request s).1) (resume (.error .cancelled)))
      (client.create request s).2 c [.created request (client.create request s).1]
  | lookup (schema : SchemaInfo)
      (resume : Except Failure (Option StoredSchema) → Operation α) :
    Advance s c (.lookingUp schema resume)
      (.answered (resume (client.lookup schema s).1) (resume (.error .cancelled)))
      (client.lookup schema s).2 c [.found schema (client.lookup schema s).1]
  | cutCreate (request : CreateRequest) (resume : Except Failure Revision → Operation α) :
    Advance s c (.creating request resume)
      (.answered (resume (.error .cancelled)) (resume (.error .cancelled))) s c []
  | cutLookup (schema : SchemaInfo)
      (resume : Except Failure (Option StoredSchema) → Operation α) :
    Advance s c (.lookingUp schema resume)
      (.answered (resume (.error .cancelled)) (resume (.error .cancelled))) s c []
  | cutAnswer (taken lost : Operation α) :
    Advance s c (.answered taken lost) (.answered lost lost) s c []

namespace World

theorem set_cacheOf (w : World σ α) (owner : Nat) :
  w.caches.set owner (w.cacheOf owner) = w.caches
  := by
  apply List.ext_getElem?
  intro j
  rw [List.getElem?_set]
  grind [cacheOf]

/-- A move does nothing, or it lets one task advance with the cache of its registry. -/
theorem step_cases (w : World σ α) (m : Move) :
  w.step client m = w ∧ w.carriedOut client m = [] ∨
    ∃ i owner stage stage' s' c' xs, w.tasks[i]? = some ⟨owner, stage⟩ ∧
      Stage.Advance client w.remote (w.cacheOf owner) stage stage' s' c' xs ∧
      (w.step client m).remote = s' ∧
      (w.step client m).caches = w.caches.set owner c' ∧
      (w.step client m).tasks = w.tasks.set i ⟨owner, stage'⟩ ∧
      w.carriedOut client m = xs.map (Event.mk i)
  := by
  cases m with
  | proceed i =>
    cases ht : w.tasks[i]? with
    | none => simp [step, carriedOut, ht]
    | some t =>
      obtain ⟨owner, stage⟩ := t
      cases stage with
      | fresh op =>
        right
        refine ⟨i, owner, _, _, _, _, _, ht, .begin op, ?_⟩
        simp [step, carriedOut, ht, advance]
      | answered taken lost =>
        right
        refine ⟨i, owner, _, _, _, _, _, ht, .resume taken lost, ?_⟩
        simp [step, carriedOut, ht, advance]
      | _ => simp [step, carriedOut, ht]
  | carryOut i =>
    cases ht : w.tasks[i]? with
    | none => simp [step, carriedOut, ht]
    | some t =>
      obtain ⟨owner, stage⟩ := t
      cases stage with
      | creating request resume =>
        right
        refine ⟨i, owner, _, _, _, _, _, ht, .create request resume, ?_⟩
        simp [step, carriedOut, ht, set_cacheOf]
      | lookingUp schema resume =>
        right
        refine ⟨i, owner, _, _, _, _, _, ht, .lookup schema resume, ?_⟩
        simp [step, carriedOut, ht, set_cacheOf]
      | _ => simp [step, carriedOut, ht]
  | cancel i =>
    cases ht : w.tasks[i]? with
    | none => simp [step, carriedOut, ht]
    | some t =>
      obtain ⟨owner, stage⟩ := t
      cases stage with
      | creating request resume =>
        right
        refine ⟨i, owner, _, _, _, _, _, ht, .cutCreate request resume, ?_⟩
        simp [step, carriedOut, ht, cut, set_cacheOf]
      | lookingUp schema resume =>
        right
        refine ⟨i, owner, _, _, _, _, _, ht, .cutLookup schema resume, ?_⟩
        simp [step, carriedOut, ht, cut, set_cacheOf]
      | answered taken lost =>
        right
        refine ⟨i, owner, _, _, _, _, _, ht, .cutAnswer taken lost, ?_⟩
        simp [step, carriedOut, ht, cut, set_cacheOf]
      | _ => simp [step, carriedOut, ht]

variable {client}

/-- What each move keeps true of a world and the history that led to it, any list of moves
does. -/
theorem run_keeps {P : World σ α → List Event → Prop}
    (hstep : ∀ w h m, P w h → P (w.step client m) (h ++ w.carriedOut client m))
    {w : World σ α} {h : List Event} (hw : P w h) (moves : List Move) :
  P (w.run client moves) (h ++ w.history client moves)
  := by
  induction moves generalizing w h with
  | nil => simpa [run, history] using hw
  | cons m ms ih =>
    have hms := ih (hstep w h m hw)
    rw [List.append_assoc] at hms
    apply hms

end World

end WireSchemas.Remote
