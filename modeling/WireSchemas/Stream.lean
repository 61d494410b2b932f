import WireSchemas.Failure

/-!
# Streams

A stream of the event log has a name, and the part of it before the first hyphen is its
category: `user` for `user-123abc`.  The empty name stands for no stream.
-/

namespace WireSchemas

/-- The identifier of a stream. -/
structure StreamId where
  text : String
deriving Repr, DecidableEq, Inhabited

namespace StreamId

/-- No stream. -/
def none : StreamId :=
  ⟨""⟩

/-- Whether there is no stream. -/
def isNone (s : StreamId) : Bool :=
  s.text.isEmpty

/-- The stream of a name that is not blank. -/
def parse (s : String) : Except Failure StreamId :=
  if Text.Blank s then .error (.invalidInput (.blank "stream_id")) else .ok ⟨s⟩

instance : Ord StreamId := ⟨compareOn StreamId.text⟩

end StreamId

/-- The part of a stream name before its first hyphen. -/
def categoryOf (streamName : String) : String :=
  String.ofList (streamName.toList.takeWhile (· != '-'))

/-- The category of a stream. -/
def StreamId.category (s : StreamId) : String :=
  categoryOf s.text

end WireSchemas
