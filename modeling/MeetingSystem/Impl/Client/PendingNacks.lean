import MeetingSystem.Framework.Assoc

/-!
# The pending NACKs of a receiver

The table of `ScreenShareSessionTransport::recvLoop` that gathers the sequence
numbers missing in each stream, with the three functions that change it. A
`std::unordered_map` is an association list in the order of its iteration; a
rehash can change this order between two calls.

Times are milliseconds, which are compared and subtracted but not added to, so
a natural number does for a `uint64_t`. What happens to the packets (building,
protecting and sending them) leaves the table as it is, and is left out.
-/

namespace MeetingSystem.Impl.Client

open MeetingSystem.Framework

def kNackRetryIntervalMs : Nat := 60
def kNackPliFallbackMs : Nat := 1000
def kNackAttemptsBeforePli : UInt32 := 3
def kMaxPendingNackRequests : Nat := 64

structure PendingNackRequest where
  remoteMediaSsrc : UInt32 := 0
  missingSequences : List UInt16 := []
  firstRequestedAtMs : Nat := 0
  lastSentAtMs : Nat := 0
  attempts : UInt32 := 0

abbrev PendingNackRequests := AList fun _ : UInt32 => PendingNackRequest

/-- The loop of `enqueueNackRequest` over the new numbers. -/
def appendMissing (missingSequences : List UInt16) : List UInt16 → List UInt16
  | [] => missingSequences
  | sequenceNumber :: rest =>
    if sequenceNumber ∈ missingSequences then appendMissing missingSequences rest
    else
      let missingSequences := missingSequences ++ [sequenceNumber]
      if 32 ≤ missingSequences.length then missingSequences
      else appendMissing missingSequences rest

/-- The entry after `enqueueNackRequest` has found or made it. -/
def PendingNackRequest.enqueue (request : PendingNackRequest) (nowMs : Nat)
    (remoteMediaSsrc : UInt32) (missingSequences : List UInt16) : PendingNackRequest :=
  { request with
    remoteMediaSsrc
    firstRequestedAtMs :=
      if request.firstRequestedAtMs = 0 then nowMs else request.firstRequestedAtMs
    missingSequences := appendMissing request.missingSequences missingSequences }

/-- A new entry goes to the given place of the iteration. -/
def enqueueNackRequest (pendingNackRequests : PendingNackRequests) (place nowMs : Nat)
    (remoteMediaSsrc : UInt32) (missingSequences : List UInt16) : PendingNackRequests :=
  if remoteMediaSsrc = 0 ∨ missingSequences.isEmpty then pendingNackRequests
  else
    let pendingNackRequests :=
      if kMaxPendingNackRequests ≤ pendingNackRequests.keys.length ∧
          remoteMediaSsrc ∉ pendingNackRequests then eraseBegin pendingNackRequests
      else pendingNackRequests
    let request := (pendingNackRequests.lookup remoteMediaSsrc).getD {}
    assign place remoteMediaSsrc (request.enqueue nowMs remoteMediaSsrc missingSequences)
      pendingNackRequests

def clearPendingNackRequest (pendingNackRequests : PendingNackRequests)
    (remoteMediaSsrc : UInt32) : PendingNackRequests :=
  if remoteMediaSsrc = 0 then pendingNackRequests
  else pendingNackRequests.erase remoteMediaSsrc

/-- What `flushPendingNackRequests` does with an entry. -/
inductive FlushAction where
  | erase
  | fallback
  | send
  | keep
  deriving DecidableEq

def PendingNackRequest.flushAction (request : PendingNackRequest) (nowMs : Nat) : FlushAction :=
  if request.remoteMediaSsrc = 0 ∨ request.missingSequences.isEmpty then .erase
  else if kNackAttemptsBeforePli ≤ request.attempts ∧ request.firstRequestedAtMs ≤ nowMs ∧
      kNackPliFallbackMs ≤ nowMs - request.firstRequestedAtMs then .fallback
  else if request.attempts = 0 ∨
      (request.lastSentAtMs ≤ nowMs ∧ kNackRetryIntervalMs ≤ nowMs - request.lastSentAtMs) then
    .send
  else .keep

/-- The entry after the loop has passed it. -/
def PendingNackRequest.flush (request : PendingNackRequest) (nowMs : Nat) :
    Option PendingNackRequest :=
  match request.flushAction nowMs with
  | .erase | .fallback => none
  | .send => some { request with lastSentAtMs := nowMs, attempts := request.attempts + 1 }
  | .keep => some request

structure NackSendRequest where
  remoteMediaSsrc : UInt32
  missingSequences : List UInt16
  deriving DecidableEq

structure Flushed where
  pendingNackRequests : PendingNackRequests
  nackSends : List NackSendRequest
  fallbackKeyFrames : List UInt32

def flushPendingNackRequests (pendingNackRequests : PendingNackRequests) (nowMs : Nat) :
    Flushed where
  pendingNackRequests := filterMapValues (fun _ request => request.flush nowMs) pendingNackRequests
  nackSends := pendingNackRequests.entries.filterMap fun ⟨_, request⟩ =>
    if request.flushAction nowMs = .send then
      some { remoteMediaSsrc := request.remoteMediaSsrc
             missingSequences := request.missingSequences }
    else none
  fallbackKeyFrames := pendingNackRequests.entries.filterMap fun ⟨_, request⟩ =>
    if request.flushAction nowMs = .fallback then some request.remoteMediaSsrc else none

inductive NackOp where
  | enqueue (place nowMs : Nat) (remoteMediaSsrc : UInt32) (missingSequences : List UInt16)
  | clear (remoteMediaSsrc : UInt32)
  | flush (nowMs : Nat)
  /-- The iteration begins with another stream. -/
  | rehash (remoteMediaSsrc : UInt32)

namespace NackOp

/-- The time the operation reads. -/
def nowMs? : NackOp → Option Nat
  | enqueue _ nowMs _ _ | flush nowMs => some nowMs
  | clear _ | rehash _ => none

def flushed (pendingNackRequests : PendingNackRequests) : NackOp → Flushed
  | enqueue place nowMs remoteMediaSsrc missingSequences =>
    ⟨enqueueNackRequest pendingNackRequests place nowMs remoteMediaSsrc missingSequences, [], []⟩
  | clear remoteMediaSsrc => ⟨clearPendingNackRequest pendingNackRequests remoteMediaSsrc, [], []⟩
  | flush nowMs => flushPendingNackRequests pendingNackRequests nowMs
  | rehash remoteMediaSsrc => ⟨toFront remoteMediaSsrc pendingNackRequests, [], []⟩

end NackOp

end MeetingSystem.Impl.Client
