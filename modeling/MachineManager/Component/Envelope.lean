import MachineManager.Component.Backend
import MachineManager.Lib.Cbor
import MachineManager.Lib.Delimited

/-!
# The header of a streamed envelope

A SUIT envelope is a CBOR map, which may stand under a tag. Its entries with integer keys are the
header; those with text keys are payloads, which are not to be held in memory. The parser goes
through the map once, keeps the header entries, notes the key and the length of every payload, and
leaves the bytes of the payloads in the stream, from which the caller reads them afterwards.

The parser goes on with the next entry right after the length of a payload. So it is right exactly
for the envelopes whose bytes can also be read with all payloads moved to the end
(`streamed_header_iff`), in particular if at most the last entry is a payload that is not empty.
-/

namespace ComponentMgr

open Call Cbor Head List

/-- A payload that is still in the stream. -/
structure PendingPayload where
  key : String
  len : Nat
deriving DecidableEq

def earlyEof : BackendError :=
  .internal "I/O error: early eof"

/-- The number of a head, with the bytes that it takes after the first one. -/
def readCborUint : UInt8 → Call (List UInt8) BackendError (Nat × List UInt8) :=
  readUint earlyEof fun a =>
    .internal ("unsupported CBOR additional info: " ++ toString a.toNat)

def readCborKeyRest (keyMajor keyAdd : UInt8) : Call (List UInt8) BackendError (List UInt8) :=
  if keyMajor = 0 ∨ keyMajor = 1 then do
    let (_, raw) ← readCborUint keyAdd
    return raw
  else if keyMajor = 2 then do
    let (len, raw) ← readCborUint keyAdd
    let data ← readExact earlyEof len
    return raw ++ data
  else if keyMajor = 6 then do
    let (_, raw) ← readCborUint keyAdd
    let inner ← readByte earlyEof
    if major inner = 0 ∨ major inner = 1 then
      let (_, raw') ← readCborUint (additional inner)
      return raw ++ inner :: raw'
    else return raw ++ [inner]
  else fail (.internal ("unexpected CBOR key major type " ++ toString keyMajor.toNat))

/-- The rest of a value, after its first byte. Only strings have content here. -/
def readCborValueRest (valMajor valAdd : UInt8) : Call (List UInt8) BackendError (List UInt8) := do
  let (len, raw) ← readCborUint valAdd
  if valMajor = 2 ∨ valMajor = 3 then
    let data ← readExact earlyEof len
    return raw ++ data
  else return raw

/-- The rest of a payload's entry, after the first byte of its key, up to the length of the
payload. -/
def readPayloadRest (lossy : List UInt8 → String) (keyAdd : UInt8) :
    Call (List UInt8) BackendError PendingPayload := do
  let (keyLen, _) ← readCborUint keyAdd
  let keyStr ← readExact earlyEof keyLen
  let val ← readByte earlyEof
  if major val ≠ 2 then
    fail (.internal ("expected byte string for " ++ lossy keyStr ++ " payload"))
  else
    let (payloadLen, _) ← readCborUint (additional val)
    return { key := lossy keyStr, len := payloadLen }

/-- The rest of a header entry, after the first byte of its key, with that byte in front. -/
def readFieldRest (key : UInt8) : Call (List UInt8) BackendError (List UInt8) := do
  let keyRest ← readCborKeyRest (major key) (additional key)
  let val ← readByte earlyEof
  let valRest ← readCborValueRest (major val) (additional val)
  return key :: (keyRest ++ val :: valRest)

/-- An entry of the map: the bytes of a header entry, or the key and the length of a payload. The
decoding of a key replaces what is not a text. -/
def readEntry (lossy : List UInt8 → String) :
    Call (List UInt8) BackendError (List UInt8 ⊕ PendingPayload) := do
  let key ← readByte earlyEof
  if major key = 3 then
    let pending ← readPayloadRest lossy (additional key)
    return .inr pending
  else
    let raw ← readFieldRest key
    return .inl raw

def readEntries (lossy : List UInt8 → String) :
    Nat → Call (List UInt8) BackendError (List (List UInt8 ⊕ PendingPayload))
  | 0 => return []
  | n + 1 => do
    let entry ← readEntry lossy
    let entries ← readEntries lossy n
    return entry :: entries

def fieldBytes (entries : List (List UInt8 ⊕ PendingPayload)) : List UInt8 :=
  (entries.filterMap Sum.getLeft?).flatten

def pendingPayloads (entries : List (List UInt8 ⊕ PendingPayload)) : List PendingPayload :=
  entries.filterMap Sum.getRight?

/-- The head of the map, with its tag, and the number of entries. -/
def readFront : Call (List UInt8) BackendError (List UInt8 × Nat) := do
  let initial ← readByte earlyEof
  if major initial = 6 then
    let (_, tag) ← readCborUint (additional initial)
    let mapByte ← readByte earlyEof
    if major mapByte ≠ 5 then fail (.internal "expected CBOR map in envelope")
    else
      let (count, raw) ← readCborUint (additional mapByte)
      return (initial :: (tag ++ mapByte :: raw), count)
  else if major initial = 5 then
    let (count, raw) ← readCborUint (additional initial)
    return (initial :: raw, count)
  else
    fail (.internal ("expected CBOR map or tag, got major type " ++ toString (major initial).toNat))

/-- The number of bytes that a head takes after its first byte. -/
def headRest (first : UInt8) : Nat :=
  (extraBytes (additional first)).getD 0

def rewriteMapCount (raw : List UInt8) (newCount : Nat) :
    Call (List UInt8) BackendError (List UInt8) :=
  match raw with
  | [] => stop
  | first :: rest =>
    if major first = 6 then
      match rest.drop (headRest first) with
      | [] => stop
      | mapByte :: rest' =>
        pure (first :: (rest.take (headRest first) ++
          (encodeUint 5 newCount ++ rest'.drop (headRest mapByte))))
    else if major first = 5 then
      pure (encodeUint 5 newCount ++ rest.drop (headRest first))
    else fail (.internal "unexpected header structure")

/-- The header of an envelope, the payloads that are left in the stream, and the number of entries
of the map. -/
def parseEnvelopeHeader (lossy : List UInt8 → String) :
    Call (List UInt8) BackendError (List UInt8 × List PendingPayload × Nat) := do
  let (front, count) ← readFront
  let entries ← readEntries lossy count
  let pending := pendingPayloads entries
  let allBytes := front ++ fieldBytes entries
  if pending.isEmpty then return (allBytes, pending, count)
  else
    let header ← rewriteMapCount allBytes (count - pending.length)
    return (header, pending, count)

/-- A payload is read from the stream up to its length, or to the end. -/
def readPayload (pending : PendingPayload) : Call (List UInt8) BackendError (List UInt8) :=
  fun s => (.ok (s.take pending.len), s.drop pending.len)

def readPayloads : List PendingPayload → Call (List UInt8) BackendError (List (List UInt8))
  | [] => return []
  | p :: rest => do
    let payload ← readPayload p
    let payloads ← readPayloads rest
    return payload :: payloads

/-! ### Envelopes -/

/-- A header entry: an integer key and a byte string. -/
structure Field where
  negative : Bool
  key : Head
  size : Head
  value : List UInt8
  sized : size.value = value.length

def Field.encode (f : Field) : List UInt8 :=
  f.key.encode (if f.negative then 1 else 0) ++ (f.size.encode 2 ++ f.value)

/-- A payload: a text key and a byte string. -/
structure Payload where
  key : String
  keySize : Head
  size : Head
  content : List UInt8
  keySized : keySize.value = key.toUTF8.toList.length
  sized : size.value = content.length

/-- The bytes of a payload's entry up to the length of the payload. -/
def Payload.head (p : Payload) : List UInt8 :=
  p.keySize.encode 3 ++ (p.key.toUTF8.toList ++ p.size.encode 2)

def Payload.pending (p : Payload) : PendingPayload :=
  { key := p.key, len := p.content.length }

/-- An entry of an envelope. -/
inductive EnvelopeEntry
  | field (f : Field)
  | payload (p : Payload)

namespace EnvelopeEntry

def encode : EnvelopeEntry → List UInt8
  | field f => f.encode
  | payload p => p.head ++ p.content

def field? : EnvelopeEntry → Option Field
  | field f => some f
  | payload _ => none

def payload? : EnvelopeEntry → Option Payload
  | field _ => none
  | payload p => some p

end EnvelopeEntry

/-- An envelope: a map with header entries and payloads in any order, which may have a tag. -/
structure Envelope where
  tag : Option Head
  count : Head
  entries : List EnvelopeEntry
  counted : count.value = entries.length

namespace Envelope

def tagBytes (e : Envelope) : List UInt8 :=
  e.tag.elim [] (encode 6)

def body (e : Envelope) : List UInt8 :=
  e.entries.flatMap EnvelopeEntry.encode

def encode (e : Envelope) : List UInt8 :=
  e.tagBytes ++ (e.count.encode 5 ++ e.body)

def fields (e : Envelope) : List Field :=
  e.entries.filterMap EnvelopeEntry.field?

def payloads (e : Envelope) : List Payload :=
  e.entries.filterMap EnvelopeEntry.payload?

/-- Every entry is a header entry or a payload. -/
theorem length_entries (e : Envelope) :
  e.fields.length + e.payloads.length = e.entries.length
  := by
  unfold fields payloads
  induction e.entries with
  | nil => rfl
  | cons entry =>
    cases entry with
    | field | payload =>
      simp only [filterMap_cons, EnvelopeEntry.field?, EnvelopeEntry.payload?, length_cons]
      omega

theorem length_fields_lt (e : Envelope) :
  e.fields.length < 2 ^ 64
  := by
  have all := e.length_entries
  have small := e.count.value_lt
  rw [e.counted] at small
  omega

/-- The map without its payloads. The head of a map that has any is rewritten in the shortest
form. -/
def stripped (e : Envelope) : Envelope where
  tag := e.tag
  count := if e.payloads.isEmpty then e.count else .shortest e.fields.length
  entries := e.fields.map .field
  counted := by
    rw [length_map]
    split
    next none =>
      have all := e.length_entries
      rw [isEmpty_iff.mp none, length_nil, Nat.add_zero] at all
      rw [e.counted, all]
    · exact value_shortest e.length_fields_lt

/-- Parsing the stream and reading the payloads afterwards yields the map without its payloads, the
keys and lengths of the payloads, and the payloads. -/
def Streams (lossy : List UInt8 → String) (e : Envelope) : Prop :=
  ∃ rest rest', parseEnvelopeHeader lossy e.encode =
      (.ok (e.stripped.encode, e.payloads.map Payload.pending, e.entries.length), rest) ∧
    readPayloads (e.payloads.map Payload.pending) rest =
      (.ok (e.payloads.map Payload.content), rest')

end Envelope

/-- An entry as the parser takes it from the stream: all bytes of a header entry, or those of a
payload up to its length. -/
inductive EntryHead
  | field (bytes : List UInt8)
  | payload (key : List UInt8) (keySize size : Head) (keySized : keySize.value = key.length)

namespace EntryHead

def code : EntryHead → List UInt8
  | field bytes => bytes
  | payload key keySize size _ => keySize.encode 3 ++ (key ++ size.encode 2)

def entry (lossy : List UInt8 → String) : EntryHead → List UInt8 ⊕ PendingPayload
  | field bytes => .inl bytes
  | payload key _ size _ => .inr { key := lossy key, len := size.value }

end EntryHead

open EntryHead

/-- The bytes of the entries can also be read with the payloads moved to the end: as the header
entries of the envelope and heads of payloads with the keys and lengths of its payloads, in some
order in which each kind is in the order of the envelope, followed by the contents of the
payloads. -/
def Envelope.Separable (lossy : List UInt8 → String) (e : Envelope) : Prop :=
  ∃ (heads : List EntryHead) (rest : List UInt8),
    e.body = heads.flatMap code ++ (e.payloads.flatMap Payload.content ++ rest) ∧
    (heads.map (entry lossy)).filterMap Sum.getLeft? = e.fields.map Field.encode ∧
    pendingPayloads (heads.map (entry lossy)) = e.payloads.map Payload.pending

/-! ### What the parser takes from the stream -/

variable {lossy : List UInt8 → String} {entries : List (List UInt8 ⊕ PendingPayload)}

section Reading

variable {m a : UInt8} (tag : Option Head) {t s raw : List UInt8}

theorem readCborUint_head (h : Head) (rest : List UInt8) :
  readCborUint h.additional (h.extra ++ rest) = (.ok (h.value, h.extra), rest)
  := readUint_head h rest

/-- An integer key is taken as a whole. -/
theorem readCborKeyRest_int (isInt : m = 0 ∨ m = 1) (h : Head) (rest : List UInt8) :
  readCborKeyRest m h.additional (h.extra ++ rest) = (.ok h.extra, rest)
  := by
  rw [readCborKeyRest, if_pos isInt]
  exact run_bind_ok (readCborUint_head h _) _

/-- A byte string is taken as a whole. -/
theorem readCborValueRest_bytes {size : Head} {value : List UInt8}
    (sized : size.value = value.length) (rest : List UInt8) :
  readCborValueRest 2 size.additional (size.extra ++ (value ++ rest)) =
    (.ok (size.extra ++ value), rest)
  := by
  rw [readCborValueRest, run_bind_ok (readCborUint_head size _)]
  dsimp only
  rw [if_pos (Or.inl rfl), sized]
  exact run_bind_ok (readExact_append value rest) _

/-- A header entry of an envelope is taken as a whole. -/
theorem readEntry_field (f : Field) (rest : List UInt8) :
  readEntry lossy (f.encode ++ rest) = (.ok (.inl f.encode), rest)
  := by
  let m : UInt8 := if f.negative then 1 else 0
  have isInt : m = 0 ∨ m = 1 := by
    cases negative : f.negative <;> simp [m, negative]
  obtain ⟨small, notText⟩ : m < 8 ∧ m ≠ 3 := by
    rcases isInt with h | h <;> rw [h] <;> decide
  obtain ⟨keyMajor, keyAdd⟩ := f.key.parts small
  obtain ⟨valMajor, valAdd⟩ := f.size.parts (m := 2) (by decide)
  have shape : f.encode ++ rest = f.key.first m :: (f.key.extra ++
      (f.size.first 2 :: (f.size.extra ++ (f.value ++ rest)))) := by
    simp only [Field.encode, encode, cons_append, append_assoc, m]
  have taken : readFieldRest (f.key.first m) (f.key.extra ++
      (f.size.first 2 :: (f.size.extra ++ (f.value ++ rest)))) = (.ok f.encode, rest) := by
    rw [readFieldRest, keyMajor, keyAdd, run_bind_ok (readCborKeyRest_int isInt f.key _),
      run_readByte_bind, valMajor, valAdd]
    exact run_bind_ok (readCborValueRest_bytes f.sized rest) _
  rw [shape, readEntry, run_readByte_bind, keyMajor, if_neg notText]
  exact run_bind_ok taken _

/-- The head of a payload is taken up to the length of the payload. -/
theorem readEntry_payload {key : List UInt8} {keySize size : Head}
    (keySized : keySize.value = key.length) (rest : List UInt8) :
  readEntry lossy ((payload key keySize size keySized).code ++ rest) =
    (.ok (.inr { key := lossy key, len := size.value }), rest)
  := by
  obtain ⟨keyMajor, keyAdd⟩ := keySize.parts (m := 3) (by decide)
  obtain ⟨valMajor, valAdd⟩ := size.parts (m := 2) (by decide)
  have tail : readPayloadRest lossy keySize.additional
      (keySize.extra ++ (key ++ (size.encode 2 ++ rest))) =
        (.ok { key := lossy key, len := size.value }, rest) := by
    rw [readPayloadRest, run_bind_ok (readCborUint_head keySize _)]
    dsimp only
    rw [keySized, run_bind_ok (readExact_append key _), encode, cons_append,
      run_readByte_bind, valMajor, valAdd, if_neg (by decide)]
    exact run_bind_ok (readCborUint_head size rest) _
  have shape : (payload key keySize size keySized).code ++ rest =
      keySize.first 3 :: (keySize.extra ++ (key ++ (size.encode 2 ++ rest))) := by
    simp only [code, encode, cons_append, append_assoc]
  rw [shape, readEntry, run_readByte_bind, keyMajor, if_pos rfl, keyAdd]
  exact run_bind_ok tail _

/-! ### What was taken from the stream -/

theorem local_readCborUint (a : UInt8) :
  IsLocal (readCborUint a)
  := local_readUint a

theorem local_readCborKeyRest (m a : UInt8) :
  IsLocal (readCborKeyRest m a)
  := by
  unfold readCborKeyRest
  split
  · exact local_bind (local_readCborUint a) fun _ => local_pure _
  · split
    · refine local_bind (local_readCborUint a) fun _ => ?_
      exact local_bind (local_readExact _ _) fun _ => local_pure _
    · split
      · refine local_bind (local_readCborUint a) fun _ => ?_
        refine local_bind (local_readByte _) fun inner => ?_
        split
        · exact local_bind (local_readCborUint _) fun _ => local_pure _
        · apply local_pure
      · apply local_fail

theorem local_readCborValueRest (m a : UInt8) :
  IsLocal (readCborValueRest m a)
  := by
  refine local_bind (local_readCborUint a) fun _ => ?_
  dsimp only
  split
  · exact local_bind (local_readExact _ _) fun _ => local_pure _
  · apply local_pure

theorem local_readEntry :
  IsLocal (readEntry lossy)
  := by
  refine local_bind (local_readByte _) fun key => ?_
  split
  · refine local_bind ?_ fun _ => local_pure _
    refine local_bind (local_readCborUint _) fun _ => ?_
    refine local_bind (local_readExact _ _) fun _ => ?_
    refine local_bind (local_readByte _) fun val => ?_
    split
    · apply local_fail
    · exact local_bind (local_readCborUint _) fun _ => local_pure _
  · refine local_bind ?_ fun _ => local_pure _
    refine local_bind (local_readCborKeyRest _ _) fun _ => ?_
    refine local_bind (local_readByte _) fun val => ?_
    exact local_bind (local_readCborValueRest _ _) fun _ => local_pure _

/-- The number of a head is followed in the stream by what is left. -/
theorem eq_of_readCborUint {v : Nat} (call : readCborUint a s = (.ok (v, raw), t)) :
  s = raw ++ t
  := by
  obtain ⟨-, -, -, -, eq⟩ := exists_head_of_readUint call
  exact eq

/-- The bytes of a key that are kept are those that were taken. -/
theorem eq_of_readCborKeyRest (call : readCborKeyRest m a s = (.ok raw, t)) :
  s = raw ++ t
  := by
  unfold readCborKeyRest at call
  split at call
  · obtain ⟨⟨v, _⟩, _, read, returned⟩ := ok_of_bind call
    cases returned
    exact eq_of_readCborUint read
  · split at call
    · obtain ⟨⟨_, _⟩, _, read, call⟩ := ok_of_bind call
      obtain ⟨_, _, readData, returned⟩ := ok_of_bind call
      cases returned
      rw [eq_of_readCborUint read, (readExact_eq_ok readData).1, append_assoc]
    · split at call
      · obtain ⟨⟨v, _⟩, _, read, call⟩ := ok_of_bind call
        obtain ⟨_, _, readInner, call⟩ := ok_of_bind call
        rw [eq_of_readCborUint read, readByte_eq_ok readInner]
        dsimp only at call
        split at call
        · obtain ⟨⟨_, _⟩, _, read₂, returned⟩ := ok_of_bind call
          cases returned
          rw [eq_of_readCborUint read₂, append_assoc, cons_append]
        · cases call
          rw [append_assoc, cons_append, nil_append]
      · cases call

/-- The bytes of a value that are kept are those that were taken. -/
theorem eq_of_readCborValueRest (call : readCborValueRest m a s = (.ok raw, t)) :
  s = raw ++ t
  := by
  obtain ⟨⟨_, _⟩, _, read, call⟩ := ok_of_bind call
  dsimp only at call
  rw [eq_of_readCborUint read]
  split at call
  · obtain ⟨_, _, readData, returned⟩ := ok_of_bind call
    cases returned
    rw [(readExact_eq_ok readData).1, append_assoc]
  · cases call
    rfl

/-- The bytes of a header entry that are kept are those that were taken. -/
theorem eq_of_readFieldRest {key : UInt8} (call : readFieldRest key s = (.ok raw, t)) :
  key :: s = raw ++ t
  := by
  obtain ⟨_, _, readKey, call⟩ := ok_of_bind call
  obtain ⟨_, _, readVal, call⟩ := ok_of_bind call
  obtain ⟨_, _, readRest, returned⟩ := ok_of_bind call
  cases returned
  rw [eq_of_readCborKeyRest readKey, readByte_eq_ok readVal, eq_of_readCborValueRest readRest,
    cons_append, append_assoc, cons_append]

/-- What is noted of a payload is the end of the head of a payload. -/
theorem exists_head_of_readPayloadRest {first : UInt8} {p : PendingPayload}
    (isText : major first = 3) (call : readPayloadRest lossy (additional first) s = (.ok p, t)) :
  ∃ (key : List UInt8) (keySize size : Head) (keySized : keySize.value = key.length),
    first :: s = (payload key keySize size keySized).code ++ t ∧
      p = { key := lossy key, len := size.value }
  := by
  obtain ⟨⟨_, _⟩, _, readKeyLen, call⟩ := ok_of_bind call
  obtain ⟨key, _, readKey, call⟩ := ok_of_bind call
  obtain ⟨val, _, readVal, call⟩ := ok_of_bind call
  dsimp only at call
  split at call
  · cases call
  next isBytes =>
    obtain ⟨⟨_, _⟩, _, readLen, returned⟩ := ok_of_bind call
    cases returned
    obtain ⟨keySize, keyAdd, rfl, rfl, rfl⟩ := exists_head_of_readUint readKeyLen
    obtain ⟨rfl, keySized⟩ := readExact_eq_ok readKey
    obtain rfl := readByte_eq_ok readVal
    obtain ⟨size, sizeAdd, rfl, rfl, rfl⟩ := exists_head_of_readUint readLen
    have keyFirst : keySize.first 3 = first := by
      rw [Head.first, keyAdd, ← isText, major_or_additional]
    have sizeFirst : size.first 2 = val := by
      rw [Head.first, sizeAdd, ← not_not.mp isBytes, major_or_additional]
    refine ⟨key, keySize, size, keySized.symm, ?_, rfl⟩
    simp only [code, encode, keyFirst, sizeFirst, cons_append, append_assoc]

/-! ### Entries in a row -/

/-- The bytes are one header entry for the parser, whatever follows. -/
def IsField (lossy : List UInt8 → String) (bytes : List UInt8) : Prop :=
  ∀ rest, readEntry lossy (bytes ++ rest) = (.ok (.inl bytes), rest)

/-- Two header entries that begin the same stream are the same. -/
theorem delimited_isField :
  Delimited (IsField lossy) id
  := by
  intro a b ha hb s t same
  have read := ha s
  rw [show a ++ s = b ++ t from same, hb t] at read
  cases read
  exact ⟨rfl, rfl⟩

def EntryHead.Readable (lossy : List UInt8 → String) : EntryHead → Prop
  | field bytes => IsField lossy bytes
  | payload .. => True

theorem readEntry_code {h : EntryHead} (readable : h.Readable lossy) (rest : List UInt8) :
  readEntry lossy (h.code ++ rest) = (.ok (h.entry lossy), rest)
  := by
  cases h with
  | field => exact readable rest
  | payload _ _ _ keySized => exact readEntry_payload keySized rest

theorem exists_head_of_readEntry {x : List UInt8 ⊕ PendingPayload}
    (call : readEntry lossy s = (.ok x, t)) :
  ∃ h : EntryHead, h.Readable lossy ∧ s = h.code ++ t ∧ x = h.entry lossy
  := by
  obtain ⟨taken, eq, again⟩ := local_readEntry s x t call
  obtain ⟨_, _, readKey, served⟩ := ok_of_bind call
  obtain rfl := readByte_eq_ok readKey
  split at served
  next isText =>
    obtain ⟨p, _, readRest, returned⟩ := ok_of_bind served
    cases returned
    obtain ⟨name, keySize, size, keySized, eq, rfl⟩ :=
      exists_head_of_readPayloadRest isText readRest
    exact ⟨.payload name keySize size keySized, trivial, eq, rfl⟩
  · obtain ⟨raw, _, readRest, returned⟩ := ok_of_bind served
    cases returned
    have kept := eq_of_readFieldRest readRest
    obtain rfl : taken = raw := append_cancel_right (eq.symm.trans kept)
    exact ⟨.field taken, again, eq, rfl⟩

theorem readEntries_code {heads : List EntryHead} (readable : ∀ h ∈ heads, h.Readable lossy)
    (rest : List UInt8) :
  readEntries lossy heads.length (heads.flatMap code ++ rest) =
    (.ok (heads.map (entry lossy)), rest)
  := by
  induction heads with
  | nil => rfl
  | cons h _ ih =>
    rw [flatMap_cons, append_assoc, length_cons, readEntries,
      run_bind_ok (readEntry_code (readable h mem_cons_self) _)]
    exact run_bind_ok (ih fun h' listed => readable h' (mem_cons_of_mem h listed)) _

theorem exists_heads_of_readEntries {n : Nat} (call : readEntries lossy n s = (.ok entries, t)) :
  ∃ heads : List EntryHead, heads.length = n ∧ (∀ h ∈ heads, h.Readable lossy) ∧
    s = heads.flatMap code ++ t ∧ entries = heads.map (entry lossy)
  := by
  induction n generalizing s entries with
  | zero =>
    cases call
    exact ⟨[], rfl, nofun, rfl, rfl⟩
  | succ _ ih =>
    obtain ⟨x, _, first, call⟩ := ok_of_bind call
    obtain ⟨_, _, later, returned⟩ := ok_of_bind call
    cases returned
    obtain ⟨h, readable, rfl, rfl⟩ := exists_head_of_readEntry first
    obtain ⟨heads, rfl, allReadable, rfl, rfl⟩ := ih later
    refine ⟨h :: heads, rfl, ?_, ?_, rfl⟩
    · intro h' listed
      rcases mem_cons.mp listed with rfl | listed
      · exact readable
      · exact allReadable h' listed
    · rw [flatMap_cons, append_assoc]

/-! ### The front of the map -/

theorem readFront_front (count : Head) (rest : List UInt8) :
  readFront (tag.elim [] (encode 6) ++ (count.encode 5 ++ rest)) =
    (.ok (tag.elim [] (encode 6) ++ count.encode 5, count.value), rest)
  := by
  obtain ⟨mapMajor, mapAdd⟩ := count.parts (m := 5) (by decide)
  cases tag with
  | none =>
    rw [Option.elim_none, nil_append, nil_append, encode, cons_append, readFront,
      run_readByte_bind, mapMajor, mapAdd, if_neg (by decide), if_pos rfl]
    exact run_bind_ok (readCborUint_head count rest) _
  | some tag =>
    obtain ⟨tagMajor, tagAdd⟩ := tag.parts (m := 6) (by decide)
    rw [Option.elim_some, encode, encode, cons_append, cons_append,
      cons_append, readFront, run_readByte_bind, tagMajor, tagAdd, if_pos rfl,
      run_bind_ok (readCborUint_head tag _)]
    dsimp only
    rw [run_readByte_bind, mapMajor, mapAdd, if_neg (by decide)]
    exact run_bind_ok (readCborUint_head count rest) _

theorem headRest_first (h : Head) (hm : m < 8) :
  headRest (h.first m) = h.extra.length
  := by rw [headRest, (h.parts hm).2, h.sized, Option.getD_some]

theorem rewriteMapCount_front (count : Head) (fields : List UInt8) (n : Nat) (s : List UInt8) :
  rewriteMapCount (tag.elim [] (encode 6) ++ count.encode 5 ++ fields) n s =
    (.ok (tag.elim [] (encode 6) ++ (encodeUint 5 n ++ fields)), s)
  := by
  obtain ⟨mapMajor, -⟩ := count.parts (m := 5) (by decide)
  have mapRest := headRest_first count (m := 5) (by decide)
  cases tag with
  | none =>
    rw [Option.elim_none, nil_append, nil_append, encode, cons_append,
      rewriteMapCount, mapMajor, if_neg (by decide), if_pos rfl, mapRest, drop_left]
    rfl
  | some tag =>
    obtain ⟨tagMajor, -⟩ := tag.parts (m := 6) (by decide)
    have tagRest := headRest_first tag (m := 6) (by decide)
    rw [Option.elim_some, encode, encode, cons_append, cons_append,
      cons_append, append_assoc, cons_append, rewriteMapCount, tagMajor, if_pos rfl,
      tagRest, drop_left, take_left]
    dsimp only
    rw [mapRest, drop_left]
    rfl

end Reading

/-! ### Whole envelopes -/

/-- The payloads are read from a stream in which they come one after the other. -/
theorem readPayloads_eq_ok_iff (payloads : List Payload) (s t : List UInt8) :
  readPayloads (payloads.map Payload.pending) s = (.ok (payloads.map Payload.content), t) ↔
    s = payloads.flatMap Payload.content ++ t
  := by
  induction payloads generalizing s with
  | nil =>
    constructor
    · rintro ⟨⟩
      rfl
    · rintro rfl
      rfl
  | cons p payloads ih =>
    rw [flatMap_cons, append_assoc]
    constructor
    · intro call
      obtain ⟨content, _, first, call⟩ := ok_of_bind call
      obtain ⟨_, _, later, returned⟩ := ok_of_bind call
      obtain ⟨contentsEq, rfl⟩ := Prod.mk.inj returned
      obtain ⟨rfl, laterEq⟩ := cons.inj (Ending.ok.inj contentsEq)
      obtain ⟨contentEq, rfl⟩ := Prod.mk.inj first
      rw [laterEq] at later
      rw [← (ih _).mp later, ← Ending.ok.inj contentEq]
      exact (take_append_drop p.content.length s).symm
    · rintro rfl
      have first : readPayload p.pending (p.content ++ (payloads.flatMap Payload.content ++ t)) =
          (.ok p.content, payloads.flatMap Payload.content ++ t) := by
        rw [readPayload, Payload.pending, take_left, drop_left]
      rw [map_cons, readPayloads, run_bind_ok first, run_bind_ok ((ih _).mpr rfl)]
      rfl

/-- The header entries and the payloads of a list of heads add up. -/
theorem length_heads (lossy : List UInt8 → String) (heads : List EntryHead) :
  ((heads.map (entry lossy)).filterMap Sum.getLeft?).length +
    (pendingPayloads (heads.map (entry lossy))).length = heads.length
  := by
  unfold pendingPayloads
  induction heads with
  | nil => rfl
  | cons h =>
    cases h with
    | field | payload =>
      simp only [map_cons, entry, filterMap_cons, Sum.getLeft?, Sum.getRight?, length_cons]
      omega

variable {heads : List EntryHead}

/-- An entry that is no payload comes from the head of a header entry. -/
theorem mem_heads_of_mem_fields {bytes : List UInt8}
    (listed : bytes ∈ (heads.map (entry lossy)).filterMap Sum.getLeft?) :
  .field bytes ∈ heads
  := by
  obtain ⟨x, mem, isField⟩ := mem_filterMap.mp listed
  obtain ⟨h, there, rfl⟩ := mem_map.mp mem
  cases h with
  | field =>
    cases isField
    exact there
  | payload => cases isField

namespace Envelope

variable (e : Envelope)

/-- The header that is put together from the entries that were read. -/
def assembled (entries : List (List UInt8 ⊕ PendingPayload)) : List UInt8 :=
  if (pendingPayloads entries).isEmpty then e.tagBytes ++ e.count.encode 5 ++ fieldBytes entries
  else
    e.tagBytes ++ (encodeUint 5 (e.entries.length - (pendingPayloads entries).length) ++
      fieldBytes entries)

/-- The parser puts the header together from what it makes of the entries. -/
theorem parse_encode :
  parseEnvelopeHeader lossy e.encode =
    (do
      let entries ← readEntries lossy e.entries.length
      return (e.assembled entries, pendingPayloads entries, e.entries.length)) e.body
  := by
  have front := readFront_front e.tag e.count e.body
  rw [e.counted] at front
  rw [parseEnvelopeHeader, encode, tagBytes, run_bind_ok front]
  dsimp only
  rcases entries : readEntries lossy e.entries.length e.body with ⟨read | _ | _, rest⟩
  · rw [run_bind_ok entries, run_bind_ok entries]
    unfold assembled
    cases none : (pendingPayloads read).isEmpty with
    | true => rfl
    | false => exact run_bind_ok (rewriteMapCount_front e.tag e.count _ _ rest) _
  · rw [run_bind_err entries, run_bind_err entries]
  · rw [run_bind_stopped entries, run_bind_stopped entries]

/-- The header is the map without its payloads if the entries that were read are its header entries,
and there are as many payloads. -/
theorem assembled_eq_iff (pending : pendingPayloads entries = e.payloads.map Payload.pending) :
  e.assembled entries = e.stripped.encode ↔ fieldBytes entries = e.fields.flatMap Field.encode
  := by
  have body : e.stripped.body = e.fields.flatMap Field.encode := by
    rw [Envelope.body, stripped, flatMap_map]
    rfl
  have total := e.length_entries
  have fieldCount : e.entries.length - e.payloads.length = e.fields.length := by omega
  rw [encode, body, assembled, pending, length_map, fieldCount, isEmpty_map]
  have tag : e.stripped.tagBytes = e.tagBytes := rfl
  rw [tag]
  cases none : e.payloads.isEmpty with
  | true =>
    have count : e.stripped.count = e.count := if_pos none
    rw [if_pos rfl, count, append_assoc, append_cancel_left_eq, append_cancel_left_eq]
  | false =>
    have count : e.stripped.count = .shortest e.fields.length :=
      if_neg (by rw [none]; exact Bool.false_ne_true)
    rw [if_neg Bool.false_ne_true, count, encodeUint_eq_encode, append_cancel_left_eq,
      append_cancel_left_eq]

/-- The header entries and the payloads of an envelope are what the parser is to read. -/
theorem streams_iff_readEntries :
  e.Streams lossy ↔ ∃ entries rest, readEntries lossy e.entries.length e.body =
      (.ok entries, e.payloads.flatMap Payload.content ++ rest) ∧
    fieldBytes entries = e.fields.flatMap Field.encode ∧
    pendingPayloads entries = e.payloads.map Payload.pending
  := by
  constructor
  · rintro ⟨left, rest, parsed, payloads⟩
    rw [parse_encode] at parsed
    obtain ⟨entries, s₁, read, returned⟩ := ok_of_bind parsed
    obtain ⟨outcome, rfl⟩ := Prod.mk.inj returned
    obtain ⟨header, outcome⟩ := Prod.mk.inj (Ending.ok.inj outcome)
    obtain ⟨pending, -⟩ := Prod.mk.inj outcome
    obtain rfl := (readPayloads_eq_ok_iff e.payloads s₁ rest).mp payloads
    exact ⟨entries, rest, read, (e.assembled_eq_iff pending).mp header, pending⟩
  · rintro ⟨entries, rest, read, fields, pending⟩
    refine ⟨_, rest, ?_, (readPayloads_eq_ok_iff e.payloads _ rest).mpr rfl⟩
    rw [parse_encode, run_bind_ok read, (e.assembled_eq_iff pending).mpr fields, pending]
    rfl

/-- As many header entries as the envelope has, with the same bytes in a row, are those of the
envelope. -/
theorem fields_eq (readable : ∀ h ∈ heads, h.Readable lossy)
    (length : ((heads.map (entry lossy)).filterMap Sum.getLeft?).length = e.fields.length)
    (same : fieldBytes (heads.map (entry lossy)) = e.fields.flatMap Field.encode) :
  (heads.map (entry lossy)).filterMap Sum.getLeft? = e.fields.map Field.encode
  := by
  have isField : ∀ bytes ∈ (heads.map (entry lossy)).filterMap Sum.getLeft?, IsField lossy bytes :=
    fun bytes listed => readable (.field bytes) (mem_heads_of_mem_fields listed)
  have isField' : ∀ bytes ∈ e.fields.map Field.encode, IsField lossy bytes := by
    intro bytes listed
    obtain ⟨f, -, rfl⟩ := mem_map.mp listed
    exact readEntry_field f
  have inARow : ((heads.map (entry lossy)).filterMap Sum.getLeft?).flatMap id ++ [] =
      (e.fields.map Field.encode).flatMap id ++ [] := by
    rw [flatMap_id, flatMap_id, ← fieldBytes, same, flatMap_def]
  exact (delimited_isField.flatMap_of_length isField isField'
    (length.trans (length_map _).symm) inARow).1

/-- Streaming an envelope works exactly if its bytes can also be read with the payloads moved to the
end. -/
theorem streamed_header_iff (lossy : List UInt8 → String) (e : Envelope) :
  e.Streams lossy ↔ e.Separable lossy
  := by
  rw [streams_iff_readEntries]
  constructor
  · rintro ⟨entries, rest, read, fields, pending⟩
    obtain ⟨heads, _, readable, body, rfl⟩ := exists_heads_of_readEntries read
    have length := length_heads lossy heads
    have total := e.length_entries
    rw [pending, length_map] at length
    exact ⟨heads, rest, body, e.fields_eq readable (by omega) fields, pending⟩
  · rintro ⟨heads, rest, body, fields, pending⟩
    have readable : ∀ h ∈ heads, h.Readable lossy := by
      intro h listed
      cases h with
      | field bytes =>
        have mem : bytes ∈ (heads.map (entry lossy)).filterMap Sum.getLeft? :=
          mem_filterMap.mpr ⟨.inl bytes, mem_map_of_mem (f := entry lossy) listed, rfl⟩
        rw [fields] at mem
        obtain ⟨f, -, rfl⟩ := mem_map.mp mem
        exact readEntry_field f
      | payload => trivial
    have length := length_heads lossy heads
    rw [fields, pending, length_map, length_map, e.length_entries] at length
    refine ⟨heads.map (entry lossy), rest, ?_, ?_, pending⟩
    · rw [body, length]
      exact readEntries_code readable _
    · rw [fieldBytes, fields, flatMap_def]

end Envelope

/-- A map whose first entry is a payload of one byte, and whose second entry has the key 2. -/
def payloadFirst : Envelope where
  tag := none
  count := .shortest 2
  entries :=
    [.payload
      { key := "#firmware", keySize := .shortest 9, size := .shortest 1, content := [0xFF],
        keySized := by decide +kernel, sized := rfl },
     .field
      { negative := false, key := .shortest 2, size := .shortest 0, value := [], sized := rfl }]
  counted := rfl

/-- The byte of the payload is read as the key of the next entry. -/
theorem payload_read_as_key :
  ∃ e : Envelope, e.payloads.length = 1 ∧ e.fields.length = 1 ∧ ∀ lossy : List UInt8 → String,
      (parseEnvelopeHeader lossy e.encode).1 = .err (.internal "unexpected CBOR key major type 7") ∧
      ¬ e.Streams lossy
  := by
  refine ⟨payloadFirst, rfl, rfl, ?_⟩
  intro lossy
  have bytes : payloadFirst.encode = [0xA2, 0x69, 0x23, 0x66, 0x69, 0x72, 0x6D, 0x77, 0x61, 0x72,
      0x65, 0x41, 0xFF, 0x02, 0x40] := by decide +kernel
  have failed : (parseEnvelopeHeader lossy payloadFirst.encode).1 =
      .err (.internal "unexpected CBOR key major type 7") := by
    rw [bytes]
    rfl
  refine ⟨failed, ?_⟩
  rintro ⟨rest, rest', parsed, -⟩
  rw [parsed] at failed
  cases failed

/-! ### Payloads at the end -/

def EnvelopeEntry.noted : EnvelopeEntry → List UInt8 ⊕ PendingPayload
  | field f => .inl f.encode
  | payload p => .inr p.pending

theorem fields_noted (e : Envelope) :
  (e.entries.map EnvelopeEntry.noted).filterMap Sum.getLeft? = e.fields.map Field.encode
  := by
  rw [filterMap_map, Envelope.fields, map_filterMap]
  congr 1
  funext entry
  cases entry <;> rfl

theorem pendingPayloads_noted (e : Envelope) :
  pendingPayloads (e.entries.map EnvelopeEntry.noted) = e.payloads.map Payload.pending
  := by
  rw [pendingPayloads, filterMap_map, Envelope.payloads, map_filterMap]
  congr 1
  funext entry
  cases entry <;> rfl

section Last

variable (decodes : ∀ key : String, lossy key.toUTF8.toList = key)
include decodes

/-- The parser stops before the content of a payload. -/
theorem readEntry_encode (entry : EnvelopeEntry) (rest : List UInt8) :
  readEntry lossy (entry.encode ++ rest) =
    (.ok entry.noted, entry.payload?.elim [] Payload.content ++ rest)
  := by
  cases entry with
  | field f => exact readEntry_field f rest
  | payload p =>
    rw [EnvelopeEntry.encode, append_assoc]
    apply (readEntry_payload p.keySized (p.content ++ rest)).trans
    rw [decodes, p.sized]
    rfl

/-- If only the last entry has a payload that is not empty, the content of no payload is read as an
entry. -/
theorem readEntries_of_last {entries : List EnvelopeEntry}
    (earlier : ∀ p, .payload p ∈ entries.dropLast → p.content = []) :
  readEntries lossy entries.length (entries.flatMap EnvelopeEntry.encode) =
    (.ok (entries.map EnvelopeEntry.noted),
      (entries.filterMap EnvelopeEntry.payload?).flatMap Payload.content)
  := by
  induction entries with
  | nil => rfl
  | cons entry rest ih =>
    rw [flatMap_cons, length_cons, readEntries, run_bind_ok (readEntry_encode decodes entry _)]
    cases rest with
    | nil => cases entry <;> rfl
    | cons next rest =>
      have later := ih fun p listed => earlier p (mem_cons_of_mem entry listed)
      cases entry with
      | field => exact run_bind_ok later _
      | payload p =>
        have empty : p.content = [] := earlier p mem_cons_self
        have contents : ((EnvelopeEntry.payload p :: next :: rest).filterMap
          EnvelopeEntry.payload?).flatMap
            Payload.content = ((next :: rest).filterMap EnvelopeEntry.payload?).flatMap
              Payload.content :=
          congrArg (· ++ _) empty
        rw [contents, EnvelopeEntry.payload?, Option.elim_some, empty]
        exact run_bind_ok later _

section

variable {e : Envelope} (earlier : ∀ p, .payload p ∈ e.entries.dropLast → p.content = [])
include earlier

theorem separable_of_last :
  e.Separable lossy
  := by
  obtain ⟨heads, _, -, body, noted⟩ := exists_heads_of_readEntries
    (readEntries_of_last decodes earlier)
  refine ⟨heads, [], ?_, ?_, ?_⟩
  · rw [append_nil]
    exact body
  · rw [← noted, fields_noted]
  · rw [← noted, pendingPayloads_noted]

/-- An envelope in which only the last entry has a payload that is not empty is streamed. -/
theorem streams_of_last :
  e.Streams lossy
  := by
  rw [e.streams_iff_readEntries]
  refine ⟨_, [], ?_, ?_, pendingPayloads_noted e⟩
  · rw [append_nil]
    exact readEntries_of_last decodes earlier
  · rw [fieldBytes, fields_noted, flatMap_def]

end

end Last

/-- The payload is moved behind the other entry. -/
theorem payload_last_streams :
  ∃ e : Envelope, e.payloads = payloadFirst.payloads ∧ e.fields = payloadFirst.fields ∧
    e.Streams fun key => (String.fromUTF8? ⟨key.toArray⟩).getD ""
  := by
  refine ⟨{ payloadFirst with entries := payloadFirst.entries.reverse, counted := rfl }, rfl, rfl,
    ?_⟩
  apply streams_of_last
  · intro key
    rw [Utf8.fromUTF8?_toUTF8]
    rfl
  · intro p listed
    cases mem_singleton.mp listed

end ComponentMgr
