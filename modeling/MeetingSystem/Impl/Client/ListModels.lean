import Mathlib.Data.Finset.Insert
import Mathlib.Data.String.Basic

/-!
# The list models of the meeting window

`ParticipantListModel` and `ChatMessageListModel` of `plasma-hawking/src/app`.
A `QString` is the `String` of its characters. The signals that tell the views
what has changed are left out.
-/

namespace MeetingSystem.Impl.Client

/-- `QChar::isSpace`. -/
def qcharIsSpace (c : Char) : Bool :=
  let ucs4 := c.toNat
  ucs4 = 0x20 || (9 ≤ ucs4 && ucs4 ≤ 0xD) || ucs4 = 0x85 || ucs4 = 0xA0 || ucs4 = 0x1680 ||
    (0x2000 ≤ ucs4 && ucs4 ≤ 0x200A) || ucs4 = 0x2028 || ucs4 = 0x2029 || ucs4 = 0x202F ||
    ucs4 = 0x205F || ucs4 = 0x3000

/-- `QString::trimmed`. -/
def trimmed (s : String) : String :=
  String.ofList (((s.toList.dropWhile qcharIsSpace).reverse.dropWhile qcharIsSpace).reverse)

/-! ## Participants -/

structure ParticipantItem where
  userId : String
  displayName : String
  avatarUrl : String
  role : Int32 := 0
  audioOn : Bool := true
  videoOn : Bool := true
  sharing : Bool := false
  host : Bool := false
  audioSsrc : UInt32 := 0
  videoSsrc : UInt32 := 0
  deriving DecidableEq

structure ParticipantListModel where
  items : List ParticipantItem
  hostUserId : String
  deriving DecidableEq

/-- The arguments of `upsertParticipant`. -/
structure UpsertArgs where
  userId : String
  displayName : String
  avatarUrl : String := ""
  role : Int32 := 0
  audioOn : Bool := true
  videoOn : Bool := true
  sharing : Bool := false
  audioSsrc : UInt32 := 0
  videoSsrc : UInt32 := 0
  deriving DecidableEq

inductive ParticipantOp where
  | clearParticipants
  | replaceParticipants (participants : List ParticipantItem)
  | upsertParticipant (args : UpsertArgs)
  | removeParticipant (userId : String)
  | setHostUserId (userId : String)
  deriving DecidableEq

namespace ParticipantListModel

def new : ParticipantListModel := { items := [], hostUserId := "" }

variable (m : ParticipantListModel)

/-- The first row with the user id, `none` for -1. -/
def indexOf (userId : String) : Option Nat :=
  let trimmedUserId := trimmed userId
  m.items.findIdx? fun item => item.userId = trimmedUserId

def clearParticipants : ParticipantListModel :=
  if m.items.isEmpty ∧ m.hostUserId = "" then m else new

def replaceParticipants (participants : List ParticipantItem) : ParticipantListModel :=
  let hostUserId :=
    match participants.find? fun item => item.host ∨ item.role = 1 with
    | some item => item.userId
    | none => ""
  { items := participants.map fun item =>
      { item with host := hostUserId ≠ "" ∧ item.userId = hostUserId }
    hostUserId }

def setHostUserId (userId : String) : ParticipantListModel :=
  let trimmedUserId := trimmed userId
  if m.hostUserId = trimmedUserId then m else { m with hostUserId := trimmedUserId }

/-- The item that `upsertParticipant` makes. -/
def upsertedItem (args : UpsertArgs) : ParticipantItem :=
  let trimmedUserId := trimmed args.userId
  { userId := trimmedUserId
    displayName := if trimmed args.displayName = "" then trimmedUserId else trimmed args.displayName
    avatarUrl := args.avatarUrl
    role := args.role
    audioOn := args.audioOn
    videoOn := args.videoOn
    sharing := args.sharing
    host := trimmedUserId = m.hostUserId ∨ args.role = 1
    audioSsrc := args.audioSsrc
    videoSsrc := args.videoSsrc }

def upsertParticipant (args : UpsertArgs) : ParticipantListModel :=
  let trimmedUserId := trimmed args.userId
  if trimmedUserId = "" then m
  else
    let item := m.upsertedItem args
    let items :=
      match m.indexOf trimmedUserId with
      | some row => m.items.set row item
      | none => m.items ++ [item]
    if args.role = 1 ∨ item.host then { m with items }.setHostUserId trimmedUserId
    else { m with items }

def removeParticipant (userId : String) : ParticipantListModel :=
  match m.indexOf (trimmed userId) with
  | none => m
  | some row =>
    let removedHost := m.items[row]?.any fun item => item.userId = m.hostUserId
    { items := m.items.eraseIdx row
      hostUserId := if removedHost then "" else m.hostUserId }

def step : ParticipantOp → ParticipantListModel
  | .clearParticipants => m.clearParticipants
  | .replaceParticipants participants => replaceParticipants participants
  | .upsertParticipant args => m.upsertParticipant args
  | .removeParticipant userId => m.removeParticipant userId
  | .setHostUserId userId => m.setHostUserId userId

end ParticipantListModel

/-! ## Chat messages -/

/-- `MessageRepository::MessageRecord`. -/
structure MessageRecord where
  id : Int64 := 0
  meetingId : String
  senderId : String
  senderName : String
  content : String
  remoteMessageId : String
  messageType : Int32 := 0
  replyToId : String
  sentAt : Int64 := 0
  isLocal : Bool := false
  deriving DecidableEq

/-- `stableMessageKey`, empty for a record without an id. -/
def stableMessageKey (record : MessageRecord) : String :=
  if trimmed record.remoteMessageId ≠ "" then
    record.meetingId ++ "|" ++ trimmed record.remoteMessageId
  else if 0 < record.id then record.meetingId ++ "|" ++ toString record.id.toInt
  else ""

structure ChatMessageListModel where
  messages : List MessageRecord
  seenMessageKeys : Finset String
  deriving DecidableEq

inductive ChatOp where
  | clear
  | replaceMessages (records : List MessageRecord)
  | appendMessages (records : List MessageRecord)
  | prependMessages (records : List MessageRecord)
  | appendMessage (record : MessageRecord)
  deriving DecidableEq

namespace ChatMessageListModel

def new : ChatMessageListModel := { messages := [], seenMessageKeys := ∅ }

variable (m : ChatMessageListModel)

/-- Whether a message is left out. -/
def seen (record : MessageRecord) : Bool :=
  stableMessageKey record ≠ "" ∧ stableMessageKey record ∈ m.seenMessageKeys

/-- The key of a record goes into the set, if it has one. -/
def insertKey (keys : Finset String) (record : MessageRecord) : Finset String :=
  if stableMessageKey record ≠ "" then insert (stableMessageKey record) keys else keys

def clear : ChatMessageListModel :=
  if m.messages.isEmpty ∧ m.seenMessageKeys = ∅ then m else new

/-- `appendMessage`, with whether the record is shown. -/
def appendMessage (record : MessageRecord) : ChatMessageListModel × Bool :=
  if m.seen record then (m, false)
  else
    ({ messages := m.messages ++ [record]
       seenMessageKeys := insertKey m.seenMessageKeys record }, true)

/-- `replaceMessages`, whose loop does with a record what `appendMessage` does. -/
def replaceMessages (records : List MessageRecord) : ChatMessageListModel :=
  records.foldl (fun m record => (m.appendMessage record).1) new

/-- The first loop of `appendMessages` and of `prependMessages`. -/
def pending (records : List MessageRecord) : List MessageRecord :=
  records.filter fun record => !m.seen record

def appendMessages (records : List MessageRecord) : ChatMessageListModel × Nat :=
  let pending := m.pending records
  ({ messages := m.messages ++ pending
     seenMessageKeys := pending.foldl insertKey m.seenMessageKeys }, pending.length)

/-- The second loop goes from the last record to the first, each put in front. -/
def prependMessages (records : List MessageRecord) : ChatMessageListModel × Nat :=
  let pending := m.pending records
  ({ messages := pending.foldr List.cons m.messages
     seenMessageKeys := pending.foldr (fun record keys => insertKey keys record) m.seenMessageKeys },
    pending.length)

def step : ChatOp → ChatMessageListModel
  | .clear => m.clear
  | .replaceMessages records => replaceMessages records
  | .appendMessages records => (m.appendMessages records).1
  | .prependMessages records => (m.prependMessages records).1
  | .appendMessage record => (m.appendMessage record).1

end ChatMessageListModel

end MeetingSystem.Impl.Client
