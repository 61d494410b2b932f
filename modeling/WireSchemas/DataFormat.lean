/-!
# Data formats

The wire encoding families of a message body, numbered from zero and ordered by number.
-/

namespace WireSchemas

/-- The wire encoding family of a message body. -/
inductive DataFormat where
  | unspecified
  | json
  | protobuf
  | avro
  | bytes
deriving Repr, DecidableEq, Inhabited

namespace DataFormat

/-- All formats by number. -/
def all : List DataFormat :=
  [unspecified, json, protobuf, avro, bytes]

/-- The number of a format. -/
def number : DataFormat → Nat
  | unspecified => 0
  | json => 1
  | protobuf => 2
  | avro => 3
  | bytes => 4

/-- The lower-case name used in headers and in configuration. -/
def name : DataFormat → String
  | unspecified => "unspecified"
  | json => "json"
  | protobuf => "protobuf"
  | avro => "avro"
  | bytes => "bytes"

/-- The format of a lower-case name. -/
def ofName? (name : String) : Option DataFormat :=
  all.find? fun f => f.name == name

/-- The format written by a lower-case name or by the digit of its number. -/
def ofNameOrNumber? (s : String) : Option DataFormat :=
  all.find? fun f => s == f.name || s == toString f.number

/-- The media type of a body; bytes of no stated format are plain octets. -/
def contentType : DataFormat → String
  | json => "application/json"
  | protobuf => "application/vnd.google.protobuf"
  | avro => "application/vnd.apache.avro+json"
  | bytes => "application/octet-stream"
  | unspecified => "application/octet-stream"

/-- The format of a media type, unspecified when it is none of the known ones. -/
def ofContentType (contentType : String) : DataFormat :=
  if contentType = json.contentType then json
  else if contentType = protobuf.contentType then protobuf
  else if contentType = avro.contentType then avro
  else if contentType = bytes.contentType then bytes
  else unspecified

/-! ### Order -/

instance : Ord DataFormat := ⟨compareOn number⟩

theorem number_injective {f g : DataFormat} (h : f.number = g.number) :
  f = g
  := by
  cases f <;> cases g <;> simp_all [number]

instance : Std.TransOrd DataFormat :=
  inferInstanceAs (Std.TransCmp (compareOn number))

instance : Std.LawfulEqOrd DataFormat where
  compare_self {f} := (Std.ReflCmp.compare_self : compare f.number f.number = .eq)
  eq_of_compare {f g} h :=
    number_injective (Std.LawfulEqCmp.eq_of_compare (show compare f.number g.number = .eq from h))

end DataFormat

end WireSchemas
