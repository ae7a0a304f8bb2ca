import NftExchange.Json.Codec

/-!
# Records

A record is written as an object with its fields in the order of its table. It is read from an
object with members in any order, where unknown members are passed over, or from an array of the
fields in order. The table of a record is a `Fields`; the one function `fill` finds a field by name
for both readers.
-/

namespace NftExchange

open Json (Reader skipBlank)

/-- A field of a record: its name, its codec, what stands for it where it is missing, and which
values of it are not written. -/
structure Field (α : Type) where
  name : String
  codec : Codec α
  /-- The value if an object lacks the field. -/
  whenMissing : Option α
  /-- The value if an array ends before the field. -/
  whenShort : Option α
  omitted : α → Bool

namespace Field

variable {α : Type}

/-- A field that has to be there. -/
def required (name : String) (codec : Codec α) : Field α :=
  ⟨name, codec, none, none, fun _ => false⟩

/-- A field that may be `null` or missing from an object. -/
def optional (name : String) (codec : Codec α) : Field (Option α) :=
  ⟨name, codec.nullable, some none, none, fun _ => false⟩

/-- A field with a value for when it is missing. -/
def defaulted (name : String) (codec : Codec α) (value : α) : Field α :=
  ⟨name, codec, some value, some value, fun _ => false⟩

/-- A field that may be `null` or missing, and is not written if it has no value. -/
def sparse (name : String) (codec : Codec α) : Field (Option α) :=
  ⟨name, codec.nullable, some none, some none, Option.isNone⟩

end Field

/-- The fields of a record in order; the index lists their types. -/
inductive Fields : List Type → Type 1 where
  | nil : Fields []
  | cons {α : Type} {αs : List Type} (field : Field α) (rest : Fields αs) : Fields (α :: αs)

/-- A value for each field. -/
@[reducible] def Row : List Type → Type
  | [] => Unit
  | α :: αs => α × Row αs

/-- The fields found so far. -/
@[reducible] def Slots : List Type → Type
  | [] => Unit
  | α :: αs => Option α × Slots αs

namespace Fields

variable {αs : List Type}

/-- No field found yet. -/
def noSlots : {αs : List Type} → Fields αs → Slots αs
  | _, nil => ()
  | _, cons _ rest => (none, rest.noSlots)

/-- Gets the field named `key` with `get` and puts it into its slot; no result if there is no such
field, an error if it was found before. -/
def fill {ρ : Type} (key : String) (get : (α : Type) → Codec α → Except JsonError (α × ρ)) :
    {αs : List Type} → Fields αs → Slots αs → Option (Except JsonError (Slots αs × ρ))
  | _, nil, _ => none
  | _, cons (α := α) field rest, (slot, slots) =>
    if key = field.name then
      match slot with
      | some _ => some (.error (.duplicateField key))
      | none => some do
        let (a, r) ← get α field.codec
        return ((some a, slots), r)
    else
      (rest.fill key get slots).map fun result => do
        let (slots, r) ← result
        return ((slot, slots), r)

/-- A value for each field, in order; the first that is missing and has no stand-in is an error. -/
def finish : {αs : List Type} → Fields αs → Slots αs → Except JsonError (Row αs)
  | _, nil, _ => .ok ()
  | _, cons field rest, (slot, slots) =>
    match slot <|> field.whenMissing with
    | none => .error (.missingField field.name)
    | some a => do return (a, ← rest.finish slots)

/-- The members that are written. -/
def members : {αs : List Type} → Fields αs → Row αs → List (String × Json)
  | _, nil, _ => []
  | _, cons field rest, (a, row) =>
    if field.omitted a then rest.members row
    else (field.name, field.codec.encode a) :: rest.members row

/-- The values of an array that ended before these fields. -/
def shortRow : {αs : List Type} → Fields αs → Except JsonError (Row αs)
  | _, nil => .ok ()
  | _, cons field rest =>
    match field.whenShort with
    | none => .error .mismatch
    | some a => do return (a, ← rest.shortRow)

/-- Reads the fields as the items of an array, up to its end. -/
def readItems (depth : Nat) :
    {αs : List Type} → Fields αs → (first : Bool) → Reader (Row αs)
  | _, nil, first, input => do
    match ← Json.nextItem 0x5d first input with
    | .closed rest => return ((), rest)
    | .item _ => .error .mismatch
  | _, cons field fields, first, input => do
    match ← Json.nextItem 0x5d first input with
    | .closed rest => return (← shortRow (cons field fields), rest)
    | .item input =>
      let (a, rest) ← field.codec.read depth input
      let (row, rest) ← fields.readItems depth false rest
      return ((a, row), rest)

/-- Decodes the fields from the items of an array. -/
def decodeItems : {αs : List Type} → Fields αs → List Json → Except JsonError (Row αs)
  | _, nil, [] => .ok ()
  | _, nil, _ :: _ => .error .mismatch
  | _, cons field fields, [] => shortRow (cons field fields)
  | _, cons field fields, value :: values => do
    let a ← field.codec.decode value
    return (a, ← fields.decodeItems values)

/-- Reads one member into its slot, or passes over it. -/
def readMember (fields : Fields αs) (depth : Nat) (slots : Slots αs) (key : String) :
    Reader (Slots αs) := fun input =>
  match fields.fill key (fun _ codec => codec.read depth input) slots with
  | some result => result
  | none => do return (slots, ← Json.skipValue input)

/-- Decodes one member into its slot, or passes over it. -/
def decodeMember (fields : Fields αs) (slots : Slots αs) (member : String × Json) :
    Except JsonError (Slots αs) :=
  match fields.fill member.1 (fun _ codec => (·, ()) <$> codec.decode member.2) slots with
  | some result => Prod.fst <$> result
  | none => .ok slots

end Fields

/-- The codec of a record with the given fields. -/
def Codec.record {σ : Type} {αs : List Type} (fields : Fields αs) (toRow : σ → Row αs)
    (ofRow : Row αs → σ) : Codec σ where
  encode s := .obj (fields.members (toRow s))
  read depth input :=
    match skipBlank input, depth with
    | 0x7b :: _, 0 | 0x5b :: _, 0 => .error .tooDeep
    | 0x7b :: rest, depth + 1 => do
      let (slots, rest) ← Json.readMembers Json.exactText (fields.readMember depth)
        (rest.length + 1) true fields.noSlots rest
      return (ofRow (← fields.finish slots), rest)
    | 0x5b :: rest, depth + 1 => do
      let (row, rest) ← fields.readItems depth true rest
      return (ofRow row, rest)
    | _, _ => .error .mismatch
  decode
    | .obj members => do
      return ofRow (← fields.finish (← members.foldlM fields.decodeMember fields.noSlots))
    | .arr items => ofRow <$> fields.decodeItems items
    | _ => .error .mismatch

end NftExchange
