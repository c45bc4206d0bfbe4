import MeetingSystem.Framework.Assoc
import MeetingSystem.Impl.Sfu.Endpoint

/-!
# Rooms

`Publisher`, `Subscriber`, `Room` and `RoomManager` of the SFU. The tables of
a room are iterated, so they have an order; where an operation adds an entry
the caller says at which place. A publisher or subscriber that is changed
through its shared pointer is changed in its room's table.
-/

namespace MeetingSystem.Impl.Sfu

open MeetingSystem.Framework

structure Publisher where
  userId : String
  audioSsrc : UInt32
  videoSsrc : UInt32
  deriving DecidableEq

structure Subscriber where
  userId : String
  endpoint : String
  audioEndpoint : String
  videoEndpoint : String
  audioSsrc : UInt32
  videoSsrc : UInt32
  deriving DecidableEq

structure Room where
  meetingId : String
  maxPublishers : Nat
  publishers : AList fun _ : String => Publisher
  subscribers : AList fun _ : String => Subscriber

namespace Publisher

/-- Whether the publisher sends with this SSRC. -/
def hasSsrc (p : Publisher) (ssrc : UInt32) : Bool :=
  p.audioSsrc = ssrc ∨ p.videoSsrc = ssrc

end Publisher

namespace Room

def new (meetingId : String) (maxPublishers : Nat) : Room :=
  { meetingId, maxPublishers, publishers := ∅, subscribers := ∅ }

def addPublisher (room : Room) (place : Nat) (publisher : Publisher) : Option Room :=
  if publisher.userId = "" then none
  else if publisher.userId ∉ room.publishers ∧ room.maxPublishers ≠ 0 ∧
      room.maxPublishers ≤ room.publishers.keys.length then none
  else some { room with publishers := assign place publisher.userId publisher room.publishers }

def getPublisher (room : Room) (userId : String) : Option Publisher :=
  if userId = "" then none else room.publishers.lookup userId

def removePublisher (room : Room) (userId : String) : Option Room :=
  if userId = "" ∨ userId ∉ room.publishers then none
  else some { room with publishers := room.publishers.erase userId }

/-- The first publisher with this SSRC, under the user id it is stored at. -/
def findPublisherBySsrc (room : Room) (ssrc : UInt32) : Option (String × Publisher) :=
  if ssrc = 0 then none
  else (room.publishers.entries.find? fun x => x.2.hasSsrc ssrc).map fun x => (x.1, x.2)

def snapshotPublishers (room : Room) : List Publisher :=
  room.publishers.entries.map fun x => x.2

def addSubscriber (room : Room) (place : Nat) (subscriber : Subscriber) : Option Room :=
  if subscriber.userId = "" then none
  else some { room with subscribers := assign place subscriber.userId subscriber room.subscribers }

def getSubscriber (room : Room) (userId : String) : Option Subscriber :=
  if userId = "" then none else room.subscribers.lookup userId

def removeSubscriber (room : Room) (userId : String) : Option Room :=
  if userId = "" ∨ userId ∉ room.subscribers then none
  else some { room with subscribers := room.subscribers.erase userId }

def snapshotSubscribers (room : Room) : List Subscriber :=
  room.subscribers.entries.map fun x => x.2

def subscriberCount (room : Room) : Nat := room.subscribers.keys.length

end Room

structure RoomManager where
  rooms : AList fun _ : String => Room

/-- `RoomManager::PublisherLocation`, without the room itself. -/
structure PublisherLocation where
  meetingId : String
  userId : String
  publisher : Publisher
  deriving DecidableEq

namespace RoomManager

def new : RoomManager := { rooms := ∅ }

def createRoom (m : RoomManager) (place : Nat) (meetingId : String) (maxPublishers : Nat) :
    RoomManager :=
  if meetingId = "" ∨ maxPublishers = 0 then m
  else { m with rooms := emplace place meetingId (.new meetingId maxPublishers) m.rooms }

def destroyRoom (m : RoomManager) (meetingId : String) : RoomManager :=
  if meetingId = "" then m else { m with rooms := m.rooms.erase meetingId }

def getRoomShared (m : RoomManager) (meetingId : String) : Option Room :=
  if meetingId = "" then none else m.rooms.lookup meetingId

/-- What a change made through a room's shared pointer does. -/
def setRoom (m : RoomManager) (meetingId : String) (room : Room) : RoomManager :=
  { m with rooms := m.rooms.replace meetingId room }

def findPublisherBySsrc (m : RoomManager) (ssrc : UInt32) : Option PublisherLocation :=
  m.rooms.entries.findSome? fun x =>
    (x.2.findPublisherBySsrc ssrc).map fun (userId, publisher) =>
      { meetingId := x.1, userId, publisher }

end RoomManager

end MeetingSystem.Impl.Sfu
