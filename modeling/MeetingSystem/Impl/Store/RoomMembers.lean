import MeetingSystem.Impl.Store.MemoryStore
import MeetingSystem.Impl.Store.RoomStore

/-!
# The members of the rooms in Redis

The functions of `signaling/store/redis.go` that write the set `room_members:` of
a meeting and the hashes `room_member:` of its members, with Redis enabled. Every
call is one step. A meeting id has no colon, so that the keys of two members are
different.
-/

namespace MeetingSystem.Impl.Store

/-- The fields of a hash with their values. -/
abbrev HashFields := List (String × String)

/-- `HSET` of one field. -/
def HashFields.hset (hash : HashFields) (field : String × String) : HashFields :=
  hash.filter (fun f => f.1 ≠ field.1) ++ [field]

/-- The keys, and beside them the fields of the hashes of the members. -/
structure RoomKeys where
  redis : Redis
  memberFields : String → String → HashFields

def boolToInt (v : Bool) : String := if v then "1" else "0"

/-- The loss is the text that `FormatFloat` gives. -/
structure ParticipantQuality where
  packetLoss : String
  rttMs : UInt32
  jitterMs : UInt32
  bitrateKbps : UInt32
  updatedAtUnix : Int64
  deriving DecidableEq

namespace RoomKeys

def empty : RoomKeys := { redis := .empty, memberFields := fun _ _ => [] }

variable (k : RoomKeys)

/-- `HSET` of fields of a member. -/
def hsetMember (meetingID userID : String) (fields : HashFields) : RoomKeys :=
  { redis := { k.redis with
      roomMember := fun m u => (m = meetingID && u = userID) || k.redis.roomMember m u }
    memberFields := fun m u =>
      if m = meetingID ∧ u = userID then fields.foldl .hset (k.memberFields m u)
      else k.memberFields m u }

/-- `DEL` of the hashes of members. -/
def delMembers (meetingID : String) (userIDs : List String) : RoomKeys :=
  { redis := { k.redis with
      roomMember := fun m u => k.redis.roomMember m u && !(m = meetingID && u ∈ userIDs) }
    memberFields := fun m u => if m = meetingID ∧ u ∈ userIDs then [] else k.memberFields m u }

def addMember (meetingID : String) : Option Participant → RoomKeys
  | none => k
  | some p =>
    let members := k.redis.roomMembers meetingID
    { k with redis := { k.redis with
        roomMembers := Function.update k.redis.roomMembers meetingID
          (if p.userId ∈ members then members else members ++ [p.userId]) } }.hsetMember
      meetingID p.userId
      [("display_name", p.displayName), ("role", toString p.role.toInt),
        ("is_audio_on", boolToInt p.isAudioOn), ("is_video_on", boolToInt p.isVideoOn),
        ("is_sharing", boolToInt p.isSharing), ("audio_ssrc", toString p.audioSsrc.toNat),
        ("video_ssrc", toString p.videoSsrc.toNat)]

def removeMember (meetingID userID : String) : RoomKeys :=
  { k with redis := { k.redis with
      roomMembers := Function.update k.redis.roomMembers meetingID
        ((k.redis.roomMembers meetingID).filter (· ≠ userID)) } }.delMembers meetingID [userID]

def setParticipantMediaMuted (meetingID userID : String) (mediaType : Int32) (muted : Bool) :
    RoomKeys :=
  if mediaType = 0 then k.hsetMember meetingID userID [("is_audio_on", boolToInt !muted)]
  else if mediaType = 1 then k.hsetMember meetingID userID [("is_video_on", boolToInt !muted)]
  else k

def setParticipantSharing (meetingID userID : String) (sharing : Bool) : RoomKeys :=
  k.hsetMember meetingID userID [("is_sharing", boolToInt sharing)]

def setParticipantMediaSsrc (meetingID userID : String) (audioSsrc videoSsrc : UInt32) :
    RoomKeys :=
  if meetingID = "" ∨ userID = "" then k
  else
    let fields :=
      (if audioSsrc ≠ 0 then [("audio_ssrc", toString audioSsrc.toNat)] else []) ++
        (if videoSsrc ≠ 0 then [("video_ssrc", toString videoSsrc.toNat)] else [])
    if fields = [] then k else k.hsetMember meetingID userID fields

/-- `unixTime` is the time of day. -/
def reportParticipantQuality (meetingID userID : String) (quality : ParticipantQuality)
    (unixTime : Int64) : RoomKeys :=
  if meetingID = "" ∨ userID = "" then k
  else
    let updatedAtUnix := if quality.updatedAtUnix = 0 then unixTime else quality.updatedAtUnix
    k.hsetMember meetingID userID
      [("quality_packet_loss", quality.packetLoss),
        ("quality_rtt_ms", toString quality.rttMs.toNat),
        ("quality_jitter_ms", toString quality.jitterMs.toNat),
        ("quality_bitrate_kbps", toString quality.bitrateKbps.toNat),
        ("quality_updated_at", toString updatedAtUnix.toInt)]

/-- `DeleteRoom` with its reads. -/
def deleteRoom (meetingID : String) : RoomKeys :=
  let nodeID := if meetingID ≠ "" then k.redis.sfuNodeIDOf meetingID else ""
  let members := k.redis.roomMembers meetingID
  { k.delMembers meetingID members with redis := k.redis.deleteTx meetingID nodeID members }

/-- `UpsertRoom` with its read. -/
def upsertRoom (meetingID hostUserID sfuNodeID sfuAddr : String) (unixTime : Int) : RoomKeys :=
  let prevNodeID := if meetingID ≠ "" then k.redis.sfuNodeIDOf meetingID else ""
  { k with
    redis := k.redis.upsertTx meetingID hostUserID sfuNodeID sfuAddr prevNodeID unixTime }

end RoomKeys

inductive MemberCall where
  | addMember (meetingID : String) (p : Option Participant)
  | removeMember (meetingID userID : String)
  | setParticipantMediaMuted (meetingID userID : String) (mediaType : Int32) (muted : Bool)
  | setParticipantSharing (meetingID userID : String) (sharing : Bool)
  | setParticipantMediaSsrc (meetingID userID : String) (audioSsrc videoSsrc : UInt32)
  | reportParticipantQuality (meetingID userID : String) (quality : ParticipantQuality)
      (unixTime : Int64)
  | deleteRoom (meetingID : String)
  | upsertRoom (meetingID hostUserID sfuNodeID sfuAddr : String) (unixTime : Int)

def RoomKeys.step (k : RoomKeys) : MemberCall → RoomKeys
  | .addMember meetingID p => k.addMember meetingID p
  | .removeMember meetingID userID => k.removeMember meetingID userID
  | .setParticipantMediaMuted meetingID userID mediaType muted =>
    k.setParticipantMediaMuted meetingID userID mediaType muted
  | .setParticipantSharing meetingID userID sharing =>
    k.setParticipantSharing meetingID userID sharing
  | .setParticipantMediaSsrc meetingID userID audioSsrc videoSsrc =>
    k.setParticipantMediaSsrc meetingID userID audioSsrc videoSsrc
  | .reportParticipantQuality meetingID userID quality unixTime =>
    k.reportParticipantQuality meetingID userID quality unixTime
  | .deleteRoom meetingID => k.deleteRoom meetingID
  | .upsertRoom meetingID hostUserID sfuNodeID sfuAddr unixTime =>
    k.upsertRoom meetingID hostUserID sfuNodeID sfuAddr unixTime

end MeetingSystem.Impl.Store
