import WireSchemas.Message.Form

/-!
# Laws of message codecs

The codec of a kind writes and reads messages of that kind alone.  Whether it restores what it
writes is up to its form, and so is whether it writes defaults.
-/

namespace WireSchemas

variable {kind : Kind} {m : Message} {data : Bytes}

namespace Message

/-- A message is a value of a kind just when it is made of that value. -/
theorem value?_eq_some_iff {value : kind.Value} :
  m.value? kind = some value ↔ m = .of kind value
  := by
  simp only [value?]
  constructor
  · intro h
    split at h
    · next hkind =>
      subst hkind
      obtain rfl := Option.some.inj h
      cases m <;> rfl
    · cases h
  · rintro rfl
    cases kind <;> exact dif_pos rfl

theorem of_inj {value value' : kind.Value} :
  of kind value = of kind value' ↔ value = value'
  := by
  rw [← value?_eq_some_iff, value?_eq_some_iff.2 rfl, Option.some.injEq]

@[simp]
theorem kind_of (kind : Kind) (value : kind.Value) :
  (of kind value).kind = kind
  := by
  cases kind <;> rfl

@[simp]
theorem type_of (kind : Kind) (value : kind.Value) :
  (of kind value).type = kind.type
  := by
  rw [type, kind_of]

/-- The message of a kind with nothing in it. -/
def default (kind : Kind) : Message :=
  .of kind kind.default

end Message

namespace MessageCodec

variable {c : MessageCodec}

/-- What is written is the form of a value of the kind. -/
theorem encode_eq_ok_iff :
  c.encode m = .ok data ↔ ∃ value, m = .of c.kind value ∧ c.form.write value = .ok data
  := by
  simp only [encode, ← Message.value?_eq_some_iff]
  cases m.value? c.kind with
  | none => simp
  | some value =>
    simp only [Option.some.injEq, exists_eq_left']
    cases c.form.write value with
    | error text => exact ⟨nofun, nofun⟩
    | ok data' =>
      change Except.ok data' = .ok data ↔ _
      simp

/-- What is read is a value of the kind. -/
theorem decode_eq_ok_iff :
  c.decode data = .ok m ↔ ∃ value, m = .of c.kind value ∧ c.form.read data = .ok value
  := by
  rw [decode]
  cases c.form.read data with
  | error text => exact ⟨nofun, nofun⟩
  | ok value =>
    change Except.ok (Message.of c.kind value) = .ok m ↔ _
    simp [eq_comm]

theorem kind_of_encode (h : c.encode m = .ok data) :
  m.kind = c.kind
  := by
  obtain ⟨value, rfl, -⟩ := encode_eq_ok_iff.1 h
  apply Message.kind_of

/-- The codec reads back what it writes of a message. -/
def Restores (c : MessageCodec) (m : Message) : Prop :=
  ∀ data, c.encode m = .ok data → c.decode data = .ok m

theorem restores_of {value : c.kind.Value}
    (h : ∀ data, c.form.write value = .ok data → c.form.read data = .ok value) :
  c.Restores (.of c.kind value)
  := by
  intro data hdata
  obtain ⟨value', hm, hwrite⟩ := encode_eq_ok_iff.1 hdata
  obtain rfl := Message.of_inj.1 hm
  exact decode_eq_ok_iff.2 ⟨value, rfl, h data hwrite⟩

/-- Defaults are not written, so nothing is written of the message with nothing in it. -/
def OmitsDefaults (c : MessageCodec) : Prop :=
  c.encode (.default c.kind) = .ok []

/-- When defaults are not written, nothing is written of the default message alone. -/
theorem OmitsDefaults.eq_nil_iff (h : c.OmitsDefaults) (hm : c.Restores m)
    (hdefault : c.Restores (.default c.kind)) (hdata : c.encode m = .ok data) :
  data = [] ↔ m = .default c.kind
  := by
  constructor
  · rintro rfl
    -- both are read from nothing
    exact Except.ok.inj ((hm [] hdata).symm.trans (hdefault [] h))
  · rintro rfl
    exact Except.ok.inj (hdata.symm.trans h)

end MessageCodec

end WireSchemas
