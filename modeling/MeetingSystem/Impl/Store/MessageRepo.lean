import MeetingSystem.Impl.Store.Users

/-!
# The message repository

`signaling/store/message_repo.go`: chat messages by the number of their
meeting, in memory or in the table `messages`. `storage` is the map of the
in-memory repository, or the rows of the table in the order they were
inserted, and `nextID` its counter, or the table's `AUTO_INCREMENT`. A column
may keep less of a time than it is given. Whether a statement succeeds is an
argument; times are in nanoseconds, with 0 for Go's zero time.
-/

namespace MeetingSystem.Impl.Store

open MeetingSystem.Framework

/-! ## White space -/

/-- `unicode.IsSpace`. -/
def isSpace (c : Char) : Bool :=
  let n := c.toNat
  (9 ≤ n && n ≤ 13) || n = 0x20 || n = 0x85 || n = 0xA0 || n = 0x1680 ||
    (0x2000 ≤ n && n ≤ 0x200A) || n = 0x2028 || n = 0x2029 || n = 0x202F || n = 0x205F ||
    n = 0x3000

/-- `strings.TrimSpace`. -/
def trimSpace (s : String) : String :=
  String.ofList ((s.toList.dropWhile isSpace).reverse.dropWhile isSpace).reverse

/-! ## Rows -/

/-- `model.Message`. -/
structure MessageRow where
  id : UInt64
  meetingID : UInt64
  senderID : UInt64
  type : Int
  content : String
  replyToID : Option UInt64
  createdAt : Int
  deriving DecidableEq, Repr

/-- Where the messages are; `keep` is what the column keeps of a time. -/
inductive Backing where
  | memory
  | database (keep : Int → Int)

/-- What is stored of a time. -/
def Backing.storedTime : Backing → Int → Int
  | .memory, t => t
  | .database keep, t => keep t

structure MessageRepo where
  backing : Backing
  nextID : UInt64
  storage : UInt64 → List MessageRow

def newMessageRepo (backing : Backing) : MessageRepo :=
  { backing, nextID := 1, storage := fun _ => [] }

namespace MessageRepo

variable (r : MessageRepo)

/-- The id and the time the message is given. -/
def complete (message : MessageRow) (now : Int) : MessageRow :=
  { message with
    id := if message.id = 0 then r.nextID else message.id
    createdAt := if message.createdAt = 0 then now else message.createdAt }

/-- `Save`: the repository and the message as they are afterwards. -/
def save (message : MessageRow) (now : Int) (ok : Bool) : MessageRepo × Option MessageRow :=
  if message.meetingID = 0 ∨ message.senderID = 0 ∨ trimSpace message.content = "" then (r, none)
  else
    match r.backing, ok with
    | .database _, false => (r, none)
    | backing, _ =>
      let message' := r.complete message now
      let row := { message' with createdAt := backing.storedTime message'.createdAt }
      ({ r with nextID := if message.id = 0 then r.nextID + 1 else r.nextID
                storage := Function.update r.storage row.meetingID
                  (r.storage row.meetingID ++ [row]) },
        some message')

/-- The rows with a time before the cursor, which is in milliseconds and counts
when it is positive. -/
def before (beforeTimestampMs : Int) (rows : List MessageRow) : List MessageRow :=
  if beforeTimestampMs > 0
    then rows.filter fun row => row.createdAt < beforeTimestampMs * 1000000
    else rows

/-- The order of the query, and of the sort after it. -/
def notAfter (a b : MessageRow) : Bool :=
  a.createdAt < b.createdAt || (a.createdAt = b.createdAt && a.id ≤ b.id)

/-- `ListByMeeting`. -/
def listByMeeting (meetingID : UInt64) (limit beforeTimestampMs : Int) (ok : Bool) :
    Option (List MessageRow) :=
  if meetingID = 0 then none
  else
    let limit := if limit ≤ 0 then 100 else limit.toNat
    let filtered := before beforeTimestampMs (r.storage meetingID)
    match r.backing, ok with
    | .memory, _ => some (filtered.drop (filtered.length - limit))
    | .database _, false => none
    | .database _, true =>
      let out := (filtered.mergeSort fun a b => notAfter b a).take limit
      some (out.mergeSort notAfter)

end MessageRepo

end MeetingSystem.Impl.Store
