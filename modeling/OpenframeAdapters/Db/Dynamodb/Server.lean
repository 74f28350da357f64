import Mathlib.Logic.Function.Basic
import OpenframeAdapters.Db.Dynamodb.Repository
import OpenframeAdapters.Db.Server

/-!
# A DynamoDB table

The table behind a `DynamoDBRepository`, as far as the calls that address one item go.

## The model

Items are kept by the value of their partition key. `PutItem` replaces the item as a whole, unless
there is a condition and it fails. An item without a partition key, and a key under another name, is
a `ValidationException`.
-/

namespace OpenframeAdapters.Db.Dynamodb

open Python OpenframeAdapters.Core

/-- A `botocore.exceptions.ClientError` with that code in its text. -/
def clientError (code : String) : PyExc :=
  { Exc.of [.botoClientError, .exception] (by decide) with text := code }

/-- The items of a table, by the value of the partition key. -/
abbrev Items (V : Type) := V → Option (Dict String V)

variable {V : Type} [DecidableEq V]

/-- The item is stored, in place of the one with the same key. -/
def Items.put (items : Items V) (key : V) (item : Dict String V) : Items V :=
  Function.update items key (some item)

/-- The condition of a `PutItem` holds of the item that is there. -/
def condition (old : Option (Dict String V)) : Option String → Bool
  | none => true
  | some name => (old.bind fun item => item.get? name).isSome

/-- The server. -/
def answer (idColumn : String) :
    (q : (commands V).Call) → Items V → Except PyExc ((commands V).Reply q) × Items V
  | .getItem _ key, items =>
    if key.1 = idColumn then (.ok (items key.2), items)
    else (.error (clientError "ValidationException"), items)
  | .putItem _ item attributeExists, items =>
    match item.get? idColumn with
    | some key =>
      if condition (items key) attributeExists then (.ok (), items.put key item)
      else (.error (clientError "ConditionalCheckFailedException"), items)
    | none => (.error (clientError "ValidationException"), items)
  | .deleteItem _ key, items =>
    if key.1 = idColumn then (.ok (items key.2), Function.update items key.2 none)
    else (.error (clientError "ValidationException"), items)

/-- A `PutItem` without a condition stores the item. -/
theorem answer_putItem {idColumn : String} {item : Dict String V} {key : V}
    (hkey : item.get? idColumn = some key) (table : ℕ) (items : Items V) :
    answer idColumn (.putItem table item none) items = (.ok (), items.put key item) := by
  rw [answer, hkey]
  rfl

end OpenframeAdapters.Db.Dynamodb
