import MetricWatch.Json.Skip
import MetricWatch.Json.Typed

/-!
Reading records: objects whose members have fixed names, or lists of the members' values in their
order. The members are gathered in a draft, in whatever order they come.
-/

namespace MetricWatch.Json

/-- A member of a record that is gathered in drafts of type `σ`. -/
structure Field (σ : Type) where
  name : String
  /-- Whether the draft has the member already. -/
  given : σ → Bool
  /-- Reads the member's value into the draft. -/
  read : σ → Reader σ
  /-- Whether a list may end before the member. -/
  mayEnd : Bool := false

/-- A member whose value is read as a whole and then put into the draft. -/
def Field.storing {σ α : Type} (name : String) (given : σ → Bool) (reader : Reader α)
    (store : σ → α → σ) (mayEnd : Bool := false) : Field σ where
  name := name
  given := given
  read := fun draft input => (reader input).map fun (x, rest) => (store draft x, rest)
  mayEnd := mayEnd

/-- A kind of record. -/
structure Record (σ : Type) where
  name : String
  fields : List (Field σ)

namespace Record

variable {σ τ : Type}

/-- Reads what follows a key. A member that the record does not know is passed over, and one that
the draft has already is a fault. -/
def readMember (record : Record σ) (key : String) (draft : σ) : Reader σ := fun input =>
  match record.fields.find? fun field => field.name = key with
  | some field =>
    if field.given draft then .error (.unfit (.duplicateField key))
    else do
      let rest ← colon input
      field.read draft rest
  | none => do
    let rest ← colon input
    let ((), rest) ← skip rest
    .ok (draft, rest)

/-- Whether a list has another item, and the text from that item on. -/
def nextItem (first : Bool) (input : List Symbol) : Except Fault (Option (List Symbol)) :=
  match skipSpace input with
  | [] => .error .truncated
  | s :: rest =>
    if s = some ']' then .ok none
    else if first then .ok (some (s :: rest))
    else if s = some ',' then
      match skipSpace rest with
      | [] => .error .truncated
      | s :: rest => if s = some ']' then .error .malformed else .ok (some (s :: rest))
    else .error .malformed

/-- Reads the values of the remaining fields from a list, in their order. -/
def readItems (record : Record σ) : List (Field σ) → Nat → σ → Reader σ
  | [], _, draft, input => .ok (draft, input)
  | field :: fields, index, draft, input => do
    match ← nextItem (index = 0) input with
    | some rest =>
      let (draft, rest) ← field.read draft rest
      readItems record fields (index + 1) draft rest
    | none =>
      if field.mayEnd then readItems record fields (index + 1) draft input
      else
        .error (.unfit (.invalidLength index (.elements record.name record.fields.length)))

/-- Reads the bracket that ends a list. -/
def listEnd (input : List Symbol) : Except Fault (List Symbol) :=
  match skipSpace input with
  | [] => .error .truncated
  | s :: rest => if s = some ']' then .ok rest else .error .malformed

/-- Reads a record, starting from an empty draft; `finish` says which member is missing. -/
def read (record : Record σ) (empty : σ) (finish : σ → Except Problem τ) : Reader τ :=
    fun input =>
  let finished (draft : σ) : Except Fault τ :=
    match finish draft with
    | .ok x => .ok x
    | .error problem => .error (.unfit problem)
  match skipSpace input with
  | [] => .error .truncated
  | s :: rest =>
    if s = some '[' then do
      let (draft, rest) ← readItems record record.fields 0 empty rest
      let x ← finished draft
      let rest ← listEnd rest
      .ok (x, rest)
    else if s = some '\x7b' then do
      let (draft, rest) ← members textBody record.readMember (rest.length + 1) true empty rest
      let x ← finished draft
      .ok (x, rest)
    else .error (mismatch (.record record.name) (s :: rest))

end Record

/-- A member that a draft must have. -/
def require {α : Type} (name : String) : Option α → Except Problem α
  | some x => .ok x
  | none => .error (.missingField name)

end MetricWatch.Json
