import MeetingSystem.Framework.Mailbox
import MeetingSystem.Impl.Client.MeetingController
import MeetingSystem.Proof.Client.ParticipantList

/-!
# What a client shows of its meeting

`MeetingView` is what is left of a `MeetingController` without the media: the meeting that
the client is in, who is on its list with which role, and the host.

* `viewOf_handlePayload`: a message changes the view as `MeetingView.take` says, if it fits
  the state it is read in (`Fits`);
* `viewOf_act`: what the user does meanwhile changes nothing, but that a client whose own
  item has the host's role takes itself for the host again (`Sim`);
* `Sim.take`: no message makes more of that difference.
-/

namespace MeetingSystem.Proof.Client

open MeetingSystem.Framework MeetingSystem.Impl.Store MeetingSystem.Impl.Signaling
open MeetingSystem.Impl.Client

/-! ## Lists of users with their roles -/

/-- The first entry of the user is replaced, or a new one is added. -/
def place (l : List (String × Int32)) (x : String × Int32) : List (String × Int32) :=
  match l.findIdx? fun y => y.1 = x.1 with
  | some k => l.set k x
  | none => l ++ [x]

/-- The first entry of the user is struck out. -/
def strike (l : List (String × Int32)) (u : String) : List (String × Int32) :=
  l.eraseP fun y => y.1 = u

/-- The role in the first entry of the user. -/
def roleOf (l : List (String × Int32)) (u : String) : Option Int32 :=
  (l.find? fun y => y.1 = u).map (·.2)

section Lists

variable {l : List (String × Int32)} {u v : String} {x y : String × Int32}

@[simp] theorem roleOf_nil (u : String) : roleOf [] u = none := rfl

theorem roleOf_cons : roleOf (y :: l) u = if y.1 = u then some y.2 else roleOf l u := by
  unfold roleOf
  rw [List.find?_cons]
  split <;> simp_all

@[simp] theorem place_nil (x : String × Int32) : place [] x = [x] := rfl

theorem place_cons : place (y :: l) x = if y.1 = x.1 then x :: l else y :: place l x := by
  unfold place
  rw [List.findIdx?_cons]
  cases hfind : l.findIdx? fun y => y.1 = x.1 <;> by_cases h : y.1 = x.1 <;> simp [h]

@[simp] theorem roleOf_place_self (l : List (String × Int32)) (x : String × Int32) :
    roleOf (place l x) x.1 = some x.2 := by
  induction l with
  | nil => simp [roleOf_cons]
  | cons y l ih =>
    rw [place_cons]
    split
    case isTrue => simp [roleOf_cons]
    case isFalse h => rw [roleOf_cons, if_neg h, ih]

theorem roleOf_place_ne (h : x.1 ≠ u) : roleOf (place l x) u = roleOf l u := by
  induction l with
  | nil => simp [roleOf_cons, h]
  | cons y l ih =>
    rw [place_cons]
    split
    case isTrue hy => rw [roleOf_cons, roleOf_cons, if_neg h, if_neg (hy ▸ h)]
    case isFalse => rw [roleOf_cons, roleOf_cons, ih]

theorem place_of_roleOf {r : Int32} (h : roleOf l u = some r) : place l (u, r) = l := by
  induction l with
  | nil => simp at h
  | cons y l ih =>
    rw [roleOf_cons] at h
    rw [place_cons]
    by_cases hy : y.1 = u
    · rw [if_pos hy, Option.some.injEq] at h
      rw [if_pos hy, ← hy, ← h]
    · rw [if_neg hy] at h
      rw [if_neg hy, ih h]

theorem roleOf_strike_ne (h : v ≠ u) : roleOf (strike l u) v = roleOf l v := by
  induction l with
  | nil => rfl
  | cons y l ih =>
    unfold strike at ih ⊢
    by_cases hy : y.1 = u
    · rw [List.eraseP_cons_of_pos (by simpa using hy), roleOf_cons, hy, if_neg h.symm]
    · rw [List.eraseP_cons_of_neg (by simpa using hy), roleOf_cons, roleOf_cons, ih]

end Lists

def rolesOf (participants : List Participant) : List (String × Int32) :=
  participants.map fun p => (p.userId, p.role)

def listed (m : ParticipantListModel) : List (String × Int32) :=
  m.items.map fun item => (item.userId, item.role)

theorem roleOf_listed (m : ParticipantListModel) (u : String) :
    roleOf (listed m) u = (m.items.find? fun item => item.userId = u).map (·.role) := by
  simp [roleOf, listed, List.find?_map, Function.comp_def]

/-! ## The model of the list -/

section Model

variable (m : ParticipantListModel)

theorem items_setHostUserId (u : String) : (m.setHostUserId u).items = m.items := by
  simp only [ParticipantListModel.setHostUserId]
  split <;> rfl

theorem listed_setHostUserId (u : String) : listed (m.setHostUserId u) = listed m := by
  simp only [listed, items_setHostUserId]

theorem hostUserId_setHostUserId (u : String) : (m.setHostUserId u).hostUserId = trimmed u := by
  simp only [ParticipantListModel.setHostUserId]
  split
  case isTrue h => exact h
  case isFalse => rfl

theorem listed_upsertParticipant {args : UpsertArgs} (hu : trimmed args.userId = args.userId)
    (hne : args.userId ≠ "") :
    listed (m.upsertParticipant args) = place (listed m) (args.userId, args.role) := by
  have hindex : m.indexOf args.userId = (listed m).findIdx? fun y => y.1 = args.userId := by
    simp [ParticipantListModel.indexOf, listed, List.findIdx?_map, hu, Function.comp_def]
  have hitem : ((m.upsertedItem args).userId, (m.upsertedItem args).role) =
      (args.userId, args.role) := by
    simp [ParticipantListModel.upsertedItem, hu]
  have hitems : (m.upsertParticipant args).items =
      (m.indexOf args.userId).elim (m.items ++ [m.upsertedItem args])
        fun row => m.items.set row (m.upsertedItem args) := by
    simp only [ParticipantListModel.upsertParticipant, hu, hne, if_false]
    cases m.indexOf args.userId <;>
    · split
      · exact items_setHostUserId _ _
      · rfl
  rw [listed, hitems, place, ← hindex]
  cases m.indexOf args.userId with
  | none => simp [listed, hitem]
  | some row => simp [listed, List.map_set, hitem]

theorem listed_removeParticipant {u : String} (hu : trimmed u = u) :
    listed (m.removeParticipant u) = strike (listed m) u := by
  have herase : strike (listed m) u =
      (m.items.eraseP fun item => item.userId = u).map fun item => (item.userId, item.role) := by
    rw [strike, listed, List.eraseP_map]
    rfl
  rw [herase, List.eraseP_eq_eraseIdx]
  have hindex : m.indexOf u = m.items.findIdx? fun item => item.userId = u := by
    simp [ParticipantListModel.indexOf, hu]
  simp only [ParticipantListModel.removeParticipant, hu, ← hindex]
  cases m.indexOf u <;> rfl

theorem hostUserId_removeParticipant {u : String} (hu : trimmed u = u) :
    (m.removeParticipant u).hostUserId =
      if (roleOf (listed m) u).isSome ∧ u = m.hostUserId then "" else m.hostUserId := by
  have hrole : (roleOf (listed m) u).isSome = (m.indexOf u).isSome := by
    rw [roleOf_listed, Option.isSome_map, List.isSome_find?, ParticipantListModel.indexOf, hu,
      List.findIdx?_isSome]
  rw [hrole]
  rcases indexOf_cases m u with ⟨hrow, -⟩ | ⟨before, old, after, hsplit, hold, hrow⟩
  · simp [ParticipantListModel.removeParticipant, hu, hrow]
  · simp [ParticipantListModel.removeParticipant, hu, hrow, hsplit, hold]

theorem listed_replaceParticipants (items : List ParticipantItem) :
    listed (.replaceParticipants items) = items.map fun item => (item.userId, item.role) := by
  simp [listed, ParticipantListModel.replaceParticipants, Function.comp_def]

theorem clearParticipants_eq_new : m.clearParticipants = .new := by
  unfold ParticipantListModel.clearParticipants
  split
  case isTrue h => exact congrArg₂ ParticipantListModel.mk (by simpa using h.1) h.2
  case isFalse => rfl

end Model

/-! ## The view -/

@[ext] structure MeetingView where
  userId : String
  inMeeting : Bool
  meetingId : String
  currentMeetingHost : Bool
  listed : List (String × Int32)
  hostUserId : String

def viewOf (c : MeetingController) : MeetingView :=
  { userId := c.userId, inMeeting := c.inMeeting, meetingId := c.meetingId
    currentMeetingHost := c.currentMeetingHost, listed := listed c.participantModel
    hostUserId := c.participantModel.hostUserId }

namespace MeetingView

variable (v : MeetingView)

/-- The client takes its own user for the host. -/
def Hosting : Prop := v.currentMeetingHost = true ∨ roleOf v.listed v.userId = some 1

instance : Decidable v.Hosting := inferInstanceAs (Decidable (_ ∨ _))

/-- After the item of the local user has been written again. -/
def claim : MeetingView := if v.Hosting then { v with hostUserId := v.userId } else v

/-- Out of the meeting. -/
def reset : MeetingView :=
  { userId := v.userId, inMeeting := false, meetingId := "", currentMeetingHost := false
    listed := [], hostUserId := "" }

/-- The list with the local user, who has the host's role if `host`. -/
def withSelf (l : List (String × Int32)) (u : String) (host : Bool) : List (String × Int32) :=
  if host ∨ (roleOf l u).isNone then place l (u, if host then 1 else 0) else l

def take : MeetingMessage → MeetingView
  | .authLoginRsp success userId => if success then { v with userId } else v
  | .authKickNotify => { v.reset with userId := "" }
  | .meetCreateRsp success meetingId =>
    if success then
      { v with inMeeting := true, meetingId, currentMeetingHost := true
               listed := [(v.userId, 1)], hostUserId := v.userId }
    else v
  | .meetJoinRsp success meetingId _ participants =>
    let host : Bool := hostOf participants ≠ "" ∧ hostOf participants = v.userId
    if success then
      { v with
        inMeeting := true, meetingId, currentMeetingHost := host
        listed := withSelf (participants.map fun p => ((itemFromDescriptor (descriptorOf p)).userId,
          0)) v.userId host
        hostUserId := trimmed (hostOf participants) }
    else v
  | .meetLeaveRsp success => if success then v.reset else v
  | .meetKickRsp _ | .meetMuteAllRsp _ | .mediaAnswer .. => v
  | .meetMuteAllReq _ => if v.inMeeting then v.claim else v
  | .meetStateSync meetingId _ hostId participants =>
    let host : Bool := hostId ≠ "" ∧ hostId = v.userId
    { v with
      inMeeting := true, meetingId, currentMeetingHost := host
      listed := withSelf (rolesOf participants) v.userId host
      hostUserId := trimmed hostId }.claim
  | .meetParticipantJoin p =>
    { v with
      inMeeting := true, listed := place v.listed (p.userId, p.role)
      currentMeetingHost := p.role ≠ 1 ∧ v.currentMeetingHost
      hostUserId := if p.role = 1 then p.userId else v.hostUserId }
  | .meetParticipantLeave userId _ =>
    if userId = v.userId then v.reset
    else
      { v with
        listed := strike v.listed userId
        hostUserId := if (roleOf v.listed userId).isSome ∧ userId = v.hostUserId then ""
          else v.hostUserId }
  | .meetHostChanged newHostId _ =>
    { v with
      hostUserId := trimmed newHostId
      currentMeetingHost := newHostId ≠ "" ∧ newHostId = v.userId }

end MeetingView

/-- A user id that the client's list takes as it is. -/
def Plain (u : String) : Prop := trimmed u = u ∧ u ≠ ""

/-- What a client that is in a meeting or in none shows. -/
structure ViewOk (v : MeetingView) : Prop where
  out : v.inMeeting = false → v.meetingId = "" ∧ v.currentMeetingHost = false ∧ v.listed = [] ∧
    v.hostUserId = ""
  plain : v.inMeeting = true → Plain v.userId
  self : v.inMeeting = true → roleOf v.listed v.userId ≠ none

/-- The message fits the state in which it is read. -/
def Fits (v : MeetingView) : MeetingMessage → Prop
  | .authLoginRsp success _ => success = true → v.inMeeting = false
  | .meetCreateRsp success _ | .meetJoinRsp success .. => success = true → Plain v.userId
  | .meetStateSync .. => Plain v.userId
  | .meetParticipantJoin p => v.inMeeting = true ∧ Plain p.userId ∧ p.userId ≠ v.userId
  | .meetParticipantLeave userId _ => Plain userId ∧ (userId = v.userId → v.inMeeting = true)
  | .meetHostChanged .. => v.inMeeting = true
  | _ => True

section Views

variable {v w : MeetingView} {c : MeetingController}

theorem ViewOk.not_hosting (h : ViewOk v) (hout : v.inMeeting = false) : ¬ v.Hosting := by
  obtain ⟨-, hhost, hlisted, -⟩ := h.out hout
  simp [MeetingView.Hosting, hhost, hlisted]

theorem ViewOk.reset_eq (h : ViewOk v) (hout : v.inMeeting = false) : v.reset = v := by
  obtain ⟨hid, hhost, hlisted, hhostId⟩ := h.out hout
  ext1 <;> simp [MeetingView.reset, hid, hhost, hlisted, hhostId, hout]

theorem claim_inMeeting (v : MeetingView) (inMeeting : Bool) :
    { v.claim with inMeeting } = { v with inMeeting }.claim := by
  by_cases h : v.Hosting
  · have h' : { v with inMeeting }.Hosting := h
    rw [MeetingView.claim, MeetingView.claim, if_pos h, if_pos h']
  · have h' : ¬ { v with inMeeting }.Hosting := h
    rw [MeetingView.claim, MeetingView.claim, if_neg h, if_neg h']

theorem roleOf_withSelf (l : List (String × Int32)) (u : String) (host : Bool) :
    roleOf (MeetingView.withSelf l u host) u =
      if host then some 1 else some ((roleOf l u).getD 0) := by
  unfold MeetingView.withSelf
  cases host <;> cases h : roleOf l u <;> simp [h, roleOf_place_self l (u, _)]

end Views

/-! ## What the controller does to it -/

section Controller

variable {c : MeetingController}

theorem viewOf_userId (c : MeetingController) : (viewOf c).userId = c.userId := rfl

theorem viewOf_inMeeting (c : MeetingController) (inMeeting : Bool) :
    viewOf { c with inMeeting } = { viewOf c with inMeeting } := rfl

@[simp] theorem userId_upsertParticipant (c : MeetingController) (args : UpsertArgs) :
    (c.upsertParticipant args).userId = c.userId := rfl

theorem viewOf_setHostUserId (c : MeetingController) (u : String) :
    viewOf (c.setHostUserId u) = { viewOf c with hostUserId := trimmed u } := by
  simp only [viewOf, MeetingController.setHostUserId, listed_setHostUserId,
    hostUserId_setHostUserId]

theorem viewOf_upsertParticipant (c : MeetingController) {args : UpsertArgs}
    (h : Plain args.userId) :
    viewOf (c.upsertParticipant args) = { viewOf c with
      listed := place (viewOf c).listed (args.userId, args.role)
      hostUserId := if args.role = 1 then args.userId else (viewOf c).hostUserId } := by
  have hhost := upsertParticipant_hostUserId (m := c.participantModel) (h.1.symm ▸ h.2)
  simp only [viewOf, MeetingController.upsertParticipant, listed_upsertParticipant _ h.1 h.2,
    hhost, h.1]

theorem roleOf_viewOf (c : MeetingController) :
    roleOf (viewOf c).listed c.userId = c.localItem.map (·.role) :=
  roleOf_listed c.participantModel c.userId

theorem viewOf_ensureLocalParticipant (c : MeetingController) (h : Plain c.userId) (host : Bool) :
    viewOf (c.ensureLocalParticipant host) = { viewOf c with
      listed := MeetingView.withSelf (viewOf c).listed c.userId host
      hostUserId := if host then c.userId else (viewOf c).hostUserId } := by
  have hrole := roleOf_viewOf c
  unfold MeetingController.ensureLocalParticipant
  rw [if_neg h.2]
  cases hitem : c.localItem with
  | none =>
    rw [hitem, Option.map_none] at hrole
    cases host <;>
      simp [viewOf_upsertParticipant, viewOf_setHostUserId, MeetingView.withSelf, h, hrole, h.1]
  | some item =>
    rw [hitem, Option.map_some] at hrole
    cases host
    · simp [MeetingView.withSelf, hrole]
    · by_cases hitemRole : item.role = 1
      · have hplace := place_of_roleOf (hitemRole ▸ hrole)
        simp [viewOf_setHostUserId, MeetingView.withSelf, hitemRole, hplace, h.1]
      · simp [viewOf_upsertParticipant, viewOf_setHostUserId, MeetingView.withSelf, h, hitemRole,
          h.1]

/-- The own item is written again with the role that it has. -/
theorem viewOf_writeLocalItem (c : MeetingController) {args : UpsertArgs} (h : Plain c.userId)
    (hid : args.userId = c.userId)
    (hrole : roleOf (viewOf c).listed c.userId = some args.role) :
    viewOf (c.writeLocalItem args) = (viewOf c).claim := by
  have hplain : Plain args.userId := hid.symm ▸ h
  have hplace := place_of_roleOf (hid ▸ hrole)
  have hhosting : (viewOf c).Hosting ↔ c.currentMeetingHost = true ∨ args.role = 1 := by
    rw [MeetingView.Hosting, viewOf_userId, hrole, Option.some.injEq]
    rfl
  unfold MeetingView.claim MeetingController.writeLocalItem
  by_cases hhost : c.currentMeetingHost = true ∨ args.role = 1
  · rw [if_pos hhost, if_pos (hhosting.mpr hhost)]
    simp [viewOf_setHostUserId, viewOf_upsertParticipant, viewOf_userId, hplain, hplace, h.1]
  · rw [if_neg hhost, if_neg (mt hhosting.mp hhost)]
    have hguest : args.role ≠ 1 := fun heq => hhost (.inr heq)
    simp [viewOf_upsertParticipant, hplain, hplace, hguest]

theorem viewOf_syncLocal (h : ViewOk (viewOf c)) (hin : c.inMeeting = true) :
    viewOf c.syncLocalParticipantMediaState = (viewOf c).claim := by
  have hplain : Plain c.userId := h.plain hin
  have hself : roleOf (viewOf c).listed c.userId ≠ none := h.self hin
  have hrole := roleOf_viewOf c
  obtain ⟨role, hitem⟩ := Option.ne_none_iff_exists'.mp (hrole ▸ hself)
  unfold MeetingController.syncLocalParticipantMediaState
  rw [if_neg (by simp [hplain.2, hin])]
  refine viewOf_writeLocalItem c hplain rfl ?_
  rw [hrole, hitem, Option.getD_some]

theorem viewOf_resetMeetingState (h : ViewOk (viewOf c)) :
    viewOf c.resetMeetingState = (viewOf c).reset := by
  unfold MeetingController.resetMeetingState
  simp only
  split
  case isTrue hout =>
    rw [h.reset_eq hout.1]
    rfl
  case isFalse =>
    rw [clearParticipants_eq_new]
    rfl

theorem connected_resetMeetingState (c : MeetingController) :
    c.resetMeetingState.connected = c.connected := by
  unfold MeetingController.resetMeetingState
  simp only
  split <;> rfl

theorem trimmed_empty : trimmed "" = "" := by decide

theorem viewOf_createMeetingFinished (h : Plain c.userId) (meetingId : String) :
    viewOf (c.createMeetingFinished true meetingId) =
      (viewOf c).take (.meetCreateRsp true meetingId) := by
  unfold MeetingController.createMeetingFinished
  simp only [if_true]
  refine (viewOf_ensureLocalParticipant _ (by exact h) true).trans ?_
  simp [viewOf, MeetingController.enter, clearParticipants_eq_new, listed,
    ParticipantListModel.new, MeetingView.withSelf, MeetingView.take]

theorem itemFromDescriptor_guest (text : String) :
    (itemFromDescriptor text).role = 0 ∧ (itemFromDescriptor text).host = false := by
  unfold itemFromDescriptor
  simp only
  split
  · split <;> exact ⟨rfl, rfl⟩
  · exact ⟨rfl, rfl⟩

/-- The list of a reply names no host. -/
theorem hostUserId_displayList (texts : List String) :
    (ParticipantListModel.replaceParticipantsFromDisplayList texts).hostUserId = "" := by
  have hnone : (texts.map itemFromDescriptor).find? (fun item => item.host ∨ item.role = 1) =
      none := by
    simp [List.find?_eq_none, itemFromDescriptor_guest]
  simp only [ParticipantListModel.replaceParticipantsFromDisplayList,
    ParticipantListModel.replaceParticipants, hnone]

theorem viewOf_joinMeetingFinished (h : Plain c.userId) (meetingId title : String)
    (participants : List Participant) :
    viewOf (c.joinMeetingFinished true meetingId title (participants.map descriptorOf)
        (hostOf participants)) =
      (viewOf c).take (.meetJoinRsp true meetingId title participants) := by
  unfold MeetingController.joinMeetingFinished
  simp only [if_true]
  refine (viewOf_ensureLocalParticipant _ (by split <;> exact h) _).trans ?_
  have hlisted : listed (ParticipantListModel.replaceParticipantsFromDisplayList
      (participants.map descriptorOf)) =
      participants.map fun p => ((itemFromDescriptor (descriptorOf p)).userId, 0) := by
    rw [ParticipantListModel.replaceParticipantsFromDisplayList, listed_replaceParticipants]
    simp [itemFromDescriptor_guest]
  by_cases hhost : hostOf participants = ""
  · simp [viewOf, MeetingView.take, MeetingController.enter, hhost, hlisted,
      hostUserId_displayList, trimmed_empty]
  · by_cases hself : hostOf participants = c.userId
    · simp [viewOf, MeetingView.take, MeetingController.enter, MeetingController.setHostUserId,
        listed_setHostUserId, hself, h.1, h.2, hlisted]
    · simp [viewOf, MeetingView.take, MeetingController.enter, MeetingController.setHostUserId,
        listed_setHostUserId, hostUserId_setHostUserId, hhost, hself, hlisted]

/-- The loop writes the local user's item again. -/
theorem viewOf_syncLocalItem (c : MeetingController) {item : ParticipantItem} (h : Plain c.userId)
    (hitem : c.localItem = some item) : viewOf (c.syncLocalItem item) = (viewOf c).claim := by
  have hrole : roleOf (viewOf c).listed c.userId = some item.role := by
    rw [roleOf_viewOf, hitem, Option.map_some]
  exact viewOf_writeLocalItem { c with
    audioMuted := if c.audioMuteLocallyControlled then c.audioMuted else !item.audioOn
    videoMuted := if c.videoMuteLocallyControlled then c.videoMuted else !item.videoOn }
    h rfl hrole

theorem viewOf_meetStateSync (h : Plain c.userId) (meetingId title hostId : String)
    (participants : List Participant) :
    viewOf (c.meetStateSync meetingId title hostId participants) =
      (viewOf c).take (.meetStateSync meetingId title hostId participants) := by
  let host : Bool := hostId ≠ "" ∧ hostId = c.userId
  let c₀ : MeetingController := { c with
    participantModel := (ParticipantListModel.replaceParticipants
      (participants.map fromProto)).setHostUserId hostId
    meetingId, meetingTitle := title, waitingLeaveResponse := false, currentMeetingHost := host }
  have hplain : Plain c₀.userId := h
  have hensure : viewOf (c₀.ensureLocalParticipant host) = { viewOf c with
      meetingId, currentMeetingHost := host
      listed := MeetingView.withSelf (rolesOf participants) c.userId host
      hostUserId := trimmed hostId } := by
    have hlisted : (viewOf c₀).listed = rolesOf participants := by
      simp only [c₀, viewOf, listed_setHostUserId, listed_replaceParticipants, rolesOf,
        List.map_map]
      rfl
    have hhost : (viewOf c₀).hostUserId = trimmed hostId := hostUserId_setHostUserId _ _
    have hself : (if host then c₀.userId else trimmed hostId) = trimmed hostId := by
      by_cases hc : host = true
      · rw [if_pos hc, (of_decide_eq_true hc).2]
        exact h.1.symm
      · rw [if_neg hc]
    rw [viewOf_ensureLocalParticipant _ hplain, hlisted, hhost, hself]
    rfl
  have huser : (c₀.ensureLocalParticipant host).userId = c.userId :=
    congrArg MeetingView.userId hensure
  have hrole := roleOf_viewOf (c₀.ensureLocalParticipant host)
  rw [hensure, huser, roleOf_withSelf] at hrole
  cases hitem : (c₀.ensureLocalParticipant host).localItem with
  | none =>
    rw [hitem] at hrole
    split at hrole <;> simp at hrole
  | some item =>
    have hsync := viewOf_syncLocalItem _ (huser.symm ▸ h) hitem
    have hmeet : c.meetStateSync meetingId title hostId participants =
        { (c₀.ensureLocalParticipant host).syncLocalItem item with inMeeting := true } := by
      unfold MeetingController.meetStateSync
      dsimp only
      rw [hitem]
    rw [hmeet, viewOf_inMeeting, hsync, hensure, claim_inMeeting, MeetingView.take]
    rfl

theorem viewOf_meetParticipantJoin {p : Participant} (h : Fits (viewOf c) (.meetParticipantJoin p)) :
    viewOf (c.meetParticipantJoin p) = (viewOf c).take (.meetParticipantJoin p) := by
  obtain ⟨-, hplain, hne⟩ := h
  rw [viewOf_userId] at hne
  have hid : (fromProto p).userId = p.userId := rfl
  have hitem : (fromProto p).role = p.role := rfl
  have hplain' : Plain (upsertArgs (fromProto p)).userId := hplain
  have hupsert := viewOf_upsertParticipant c hplain'
  by_cases hrole : p.role = 1
  · have hcode : c.meetParticipantJoin p =
        { (c.upsertParticipant (upsertArgs (fromProto p))).setHostUserId p.userId with
          currentMeetingHost := false, inMeeting := true } := by
      simp [MeetingController.meetParticipantJoin, hid, hitem, hrole, hne,
        MeetingController.setHostUserId]
    have hview : ∀ d : MeetingController,
        viewOf { d with currentMeetingHost := false, inMeeting := true } =
          { viewOf d with currentMeetingHost := false, inMeeting := true } := fun _ => rfl
    rw [hcode, hview, viewOf_setHostUserId, hupsert]
    simp [MeetingView.take, hrole, hplain.1, upsertArgs, fromProto]
  · have hcode : c.meetParticipantJoin p =
        { c.upsertParticipant (upsertArgs (fromProto p)) with inMeeting := true } := by
      simp [MeetingController.meetParticipantJoin, hid, hitem, hrole, hne]
    rw [hcode, viewOf_inMeeting, hupsert]
    simp [MeetingView.take, hrole, upsertArgs, fromProto]

theorem viewOf_meetParticipantLeave {u reason : String} (hok : ViewOk (viewOf c))
    (h : Fits (viewOf c) (.meetParticipantLeave u reason)) :
    viewOf (c.meetParticipantLeave u) = (viewOf c).take (.meetParticipantLeave u reason) := by
  obtain ⟨hplain, -⟩ := h
  rw [MeetingController.meetParticipantLeave, MeetingView.take, viewOf_userId]
  by_cases hself : u = c.userId
  · rw [if_pos ⟨hself ▸ hplain.2, hself⟩, if_pos hself, viewOf_resetMeetingState hok]
  · rw [if_neg fun h => hself h.2, if_neg hself]
    simp only [viewOf, listed_removeParticipant _ hplain.1, hostUserId_removeParticipant _ hplain.1]
    congr

theorem viewOf_handlePayload {m : MeetingMessage} (h : ViewOk (viewOf c))
    (hfits : Fits (viewOf c) m) : viewOf (c.handlePayload m) = (viewOf c).take m := by
  cases m with
  | authLoginRsp success userId => cases success <;> rfl
  | authKickNotify =>
    have hreset := viewOf_resetMeetingState (c := { c with
      waitingLeaveResponse := false, pendingMeetingTitle := "" }) h
    exact congrArg (fun v : MeetingView => { v with userId := "" }) hreset
  | meetCreateRsp success meetingId =>
    cases success with
    | false => rfl
    | true => exact viewOf_createMeetingFinished (hfits rfl) meetingId
  | meetJoinRsp success meetingId title participants =>
    cases success with
    | false => rfl
    | true => exact viewOf_joinMeetingFinished (hfits rfl) meetingId title participants
  | meetLeaveRsp success =>
    have hreset := viewOf_resetMeetingState (c := { c with waitingLeaveResponse := false }) h
    cases success with
    | false => rfl
    | true =>
      rw [MeetingController.handlePayload, MeetingController.leaveMeetingFinished]
      simp only
      split
      case isTrue hout =>
        have hout : c.inMeeting = false := by
          simp only [Bool.true_eq_false, false_or] at hout
          exact hout.2
        exact (h.reset_eq hout).symm
      case isFalse => exact hreset
  | meetKickRsp success => rfl
  | meetMuteAllReq mute =>
    rw [MeetingController.handlePayload, MeetingController.meetMuteAll, MeetingView.take]
    by_cases hin : c.inMeeting = true
    · have hsync := viewOf_syncLocal (c := { c with
        audioMuted := mute
        audioMuteLocallyControlled := c.audioMuteLocallyControlled || c.audioMuted != mute })
        h hin
      rw [if_pos hin, hsync]
      exact (if_pos hin).symm
    · rw [if_neg hin]
      exact (if_neg hin).symm
  | meetMuteAllRsp success => rfl
  | meetStateSync meetingId title hostId participants =>
    exact viewOf_meetStateSync hfits meetingId title hostId participants
  | meetParticipantJoin p => exact viewOf_meetParticipantJoin hfits
  | meetParticipantLeave userId reason => exact viewOf_meetParticipantLeave h hfits
  | meetHostChanged newHostId newHostName =>
    have hhost := viewOf_setHostUserId c newHostId
    exact congrArg (fun v : MeetingView => { v with
      currentMeetingHost := newHostId ≠ "" ∧ newHostId = c.userId }) hhost
  | mediaAnswer meetingId audioSsrc videoSsrc =>
    rw [MeetingController.handlePayload, MeetingController.handleMediaTransportAnswer]
    split <;> rfl

end Controller

/-! ## Reading and acting -/

/-- The same view, but that a client that is the host may have claimed the meeting. -/
def Sim (v w : MeetingView) : Prop := w = v ∨ w = v.claim

section Sims

variable {v w : MeetingView} {m : MeetingMessage}

theorem MeetingView.claim_of_hosting (h : v.Hosting) :
    v.claim = { v with hostUserId := v.userId } := if_pos h

theorem MeetingView.claim_claim (v : MeetingView) : v.claim.claim = v.claim := by
  by_cases h : v.Hosting
  · have h' : { v with hostUserId := v.userId }.Hosting := h
    rw [MeetingView.claim_of_hosting h, MeetingView.claim_of_hosting h']
  · rw [show v.claim = v from if_neg h]
    exact if_neg h

/-- A view in the meeting, which the local user's item is in. -/
theorem ViewOk.of_in (hin : v.inMeeting = true) (hplain : Plain v.userId)
    (hself : roleOf v.listed v.userId ≠ none) : ViewOk v where
  out h := nomatch hin.symm.trans h
  plain _ := hplain
  self _ := hself

/-- A view of no meeting. -/
theorem ViewOk.of_out (hout : v.inMeeting = false)
    (h : v.meetingId = "" ∧ v.currentMeetingHost = false ∧ v.listed = [] ∧ v.hostUserId = "") :
    ViewOk v where
  out _ := h
  plain hin := nomatch hin.symm.trans hout
  self hin := nomatch hin.symm.trans hout

theorem ViewOk.claim (h : ViewOk v) : ViewOk v.claim := by
  by_cases hh : v.Hosting
  · rw [MeetingView.claim_of_hosting hh]
    by_cases hin : v.inMeeting = true
    · exact .of_in hin (h.plain hin) (h.self hin)
    · exact absurd hh (h.not_hosting (Bool.eq_false_of_not_eq_true hin))
  · rw [show v.claim = v from if_neg hh]
    exact h

theorem roleOf_withSelf_ne (l : List (String × Int32)) (u : String) (host : Bool) :
    roleOf (MeetingView.withSelf l u host) u ≠ none := by
  rw [roleOf_withSelf]
  split <;> simp

theorem ViewOk.take (hfits : Fits v m) (h : ViewOk v) : ViewOk (v.take m) := by
  cases m with
  | authLoginRsp success userId =>
    cases success with
    | false => exact h
    | true =>
      have hout := hfits rfl
      exact .of_out hout (h.out hout)
  | authKickNotify => exact .of_out rfl ⟨rfl, rfl, rfl, rfl⟩
  | meetCreateRsp success meetingId =>
    cases success with
    | false => exact h
    | true => exact .of_in rfl (hfits rfl) (by simp [MeetingView.take, roleOf_cons])
  | meetJoinRsp success meetingId title participants =>
    cases success with
    | false => exact h
    | true => exact .of_in rfl (hfits rfl) (roleOf_withSelf_ne _ _ _)
  | meetLeaveRsp success =>
    cases success with
    | false => exact h
    | true => exact .of_out rfl ⟨rfl, rfl, rfl, rfl⟩
  | meetKickRsp | meetMuteAllRsp | mediaAnswer => exact h
  | meetMuteAllReq mute =>
    rw [MeetingView.take]
    split
    · exact h.claim
    · exact h
  | meetStateSync meetingId title hostId participants =>
    exact ViewOk.claim (.of_in rfl hfits (roleOf_withSelf_ne _ _ _))
  | meetParticipantJoin p =>
    obtain ⟨hin, -, hne⟩ := hfits
    refine .of_in rfl (h.plain hin) ?_
    rw [MeetingView.take, roleOf_place_ne hne]
    exact h.self hin
  | meetParticipantLeave userId reason =>
    rw [MeetingView.take]
    split
    · exact .of_out rfl ⟨rfl, rfl, rfl, rfl⟩
    · rename_i hne
      by_cases hin : v.inMeeting = true
      · refine .of_in hin (h.plain hin) ?_
        rw [roleOf_strike_ne (Ne.symm hne)]
        exact h.self hin
      · have hout := Bool.eq_false_of_not_eq_true hin
        obtain ⟨hid, hhost, hlisted, hhostId⟩ := h.out hout
        exact .of_out hout ⟨hid, hhost, by simp [hlisted, strike], by simp [hlisted, hhostId]⟩
  | meetHostChanged newHostId newHostName => exact .of_in hfits (h.plain hfits) (h.self hfits)

theorem Sim.ok (h : Sim v w) (hok : ViewOk v) : ViewOk w := by
  rcases h with rfl | rfl
  · exact hok
  · exact hok.claim

theorem Sim.fits (h : Sim v w) (hfits : Fits v m) : Fits w m := by
  rcases h with rfl | rfl
  · exact hfits
  · unfold MeetingView.claim
    split
    · cases m <;> exact hfits
    · exact hfits

/-- A message that leaves the local user's item and the host alone. -/
theorem claim_of_same {v' : MeetingView} (h : v.Hosting) (huser : v'.userId = v.userId)
    (hhost : v'.currentMeetingHost = v.currentMeetingHost)
    (hrole : roleOf v'.listed v.userId = roleOf v.listed v.userId) :
    v'.claim = { v' with hostUserId := v.userId } := by
  have h' : v'.Hosting := by
    rw [MeetingView.Hosting, hhost, huser, hrole]
    exact h
  rw [MeetingView.claim_of_hosting h', huser]

/-- Most messages do not depend on the host that is shown; the others leave it alone. -/
theorem Sim.take (h : Sim v w) (hok : ViewOk v) (hfits : Fits v m) :
    Sim (v.take m) (w.take m) := by
  rcases h with rfl | rfl
  · exact .inl rfl
  by_cases hh : v.Hosting
  · have hclaim := MeetingView.claim_of_hosting hh
    cases m with
    | authLoginRsp success userId =>
      cases success with
      | false => exact .inr rfl
      | true => exact absurd hh (hok.not_hosting (hfits rfl))
    | meetCreateRsp success | meetJoinRsp success | meetLeaveRsp success =>
      cases success with
      | false => exact .inr rfl
      | true =>
        rw [hclaim]
        exact .inl rfl
    | meetKickRsp | meetMuteAllRsp | mediaAnswer => exact .inr rfl
    | authKickNotify | meetStateSync | meetHostChanged =>
      rw [hclaim]
      exact .inl rfl
    | meetMuteAllReq mute =>
      refine .inl ?_
      have hin : v.claim.inMeeting = v.inMeeting := by rw [hclaim]
      rw [MeetingView.take, MeetingView.take, hin, v.claim_claim]
      by_cases h : v.inMeeting = true
      · rw [if_pos h, if_pos h]
      · exact absurd hh (hok.not_hosting (Bool.eq_false_of_not_eq_true h))
    | meetParticipantJoin p =>
      rw [hclaim]
      by_cases hrole : p.role = 1
      · exact .inl (by simp [MeetingView.take, hrole])
      · refine .inr ?_
        have htake : v.take (.meetParticipantJoin p) = { v with
            inMeeting := true, listed := place v.listed (p.userId, p.role) } := by
          simp [MeetingView.take, hrole]
        rw [htake]
        refine Eq.trans ?_ (claim_of_same hh ?_ ?_ ?_).symm
        · simp [MeetingView.take, hrole]
        · rfl
        · rfl
        · exact roleOf_place_ne hfits.2.2
    | meetParticipantLeave userId reason =>
      rw [hclaim]
      by_cases hself : userId = v.userId
      · exact .inl (by simp [MeetingView.take, hself, MeetingView.reset])
      · refine .inr ?_
        have htake : v.take (.meetParticipantLeave userId reason) = { v with
            listed := strike v.listed userId
            hostUserId := if (roleOf v.listed userId).isSome ∧ userId = v.hostUserId then ""
              else v.hostUserId } := if_neg hself
        rw [htake]
        refine Eq.trans ?_ (claim_of_same hh ?_ ?_ ?_).symm
        · simp [MeetingView.take, hself]
        · rfl
        · rfl
        · exact roleOf_strike_ne (Ne.symm hself)
  · rw [show v.claim = v from if_neg hh]
    exact .inl rfl

end Sims

/-- What the local user does, in three ways: the client disconnects, nothing in the view
changes, or the own item is written again besides. -/
theorem act_cases (c : MeetingController) (a : MeetingAct) :
    (c.act a).connected = false ∨ ∃ d : MeetingController,
      (c.act a = d ∨ (c.inMeeting = true ∧ c.act a = d.syncLocalParticipantMediaState)) ∧
        viewOf d = viewOf c ∧ d.connected = c.connected := by
  cases a with
  | createMeeting | joinMeeting =>
    simp only [MeetingController.act]
    split
    · exact .inr ⟨_, .inl rfl, rfl, rfl⟩
    · exact .inr ⟨c, .inl rfl, rfl, rfl⟩
  | leaveMeeting =>
    simp only [MeetingController.act, MeetingController.leaveMeeting]
    split
    case isTrue => exact .inr ⟨c, .inl rfl, rfl, rfl⟩
    case isFalse =>
      split
      case isTrue => exact .inr ⟨_, .inl rfl, rfl, rfl⟩
      case isFalse hoff =>
        refine .inl ?_
        rw [connected_resetMeetingState]
        exact Bool.eq_false_of_not_eq_true hoff
  | toggleAudio | toggleVideo =>
    simp only [MeetingController.act]
    split
    case isTrue hin => exact .inr ⟨_, .inr ⟨hin, rfl⟩, rfl, rfl⟩
    case isFalse => exact .inr ⟨c, .inl rfl, rfl, rfl⟩
  | toggleScreenSharing first second =>
    simp only [MeetingController.act, MeetingController.toggleScreenSharing]
    split
    case isTrue => exact .inr ⟨c, .inl rfl, rfl, rfl⟩
    case isFalse hin =>
      have hin := Bool.eq_true_of_not_eq_false hin
      split
      · split
        · exact .inr ⟨c, .inl rfl, rfl, rfl⟩
        · split
          · exact .inr ⟨_, .inr ⟨hin, rfl⟩, rfl, rfl⟩
          · exact .inr ⟨_, .inl rfl, rfl, rfl⟩
      · split
        · exact .inr ⟨_, .inr ⟨hin, rfl⟩, rfl, rfl⟩
        · exact .inr ⟨c, .inl rfl, rfl, rfl⟩
  | videoSessionError =>
    simp only [MeetingController.act]
    split
    case isTrue => exact .inr ⟨c, .inl rfl, rfl, rfl⟩
    case isFalse hin =>
      exact .inr ⟨_, .inr ⟨by simpa using fun hout => hin (.inl hout), rfl⟩, rfl, rfl⟩
  | logout | disconnected => exact .inl rfl

theorem connected_writeLocalItem (c : MeetingController) (args : UpsertArgs) :
    (c.writeLocalItem args).connected = c.connected := by
  have hset : ∀ (d : MeetingController) (u : String), (d.setHostUserId u).connected = d.connected :=
    fun _ _ => rfl
  have hupsert : (c.upsertParticipant args).connected = c.connected := rfl
  unfold MeetingController.writeLocalItem
  split
  · rw [hset, hupsert]
  · exact hupsert

theorem connected_syncLocal (c : MeetingController) :
    c.syncLocalParticipantMediaState.connected = c.connected := by
  unfold MeetingController.syncLocalParticipantMediaState
  split
  · rfl
  · exact connected_writeLocalItem c _

variable {c : MeetingController} {a : MeetingAct}

theorem connected_act (h : (c.act a).connected = true) : c.connected = true := by
  rcases act_cases c a with hoff | ⟨d, hact, -, hconn⟩
  · exact absurd h (by rw [hoff]; exact Bool.false_ne_true)
  · have hsame : (c.act a).connected = d.connected := by
      rcases hact with hact | ⟨-, hact⟩
      · rw [hact]
      · rw [hact, connected_syncLocal]
    rw [← hconn, ← hsame, h]

/-- While the client stays connected, the view changes at most by a claim. -/
theorem viewOf_act (h : ViewOk (viewOf c)) (hconn : (c.act a).connected = true) :
    Sim (viewOf c) (viewOf (c.act a)) := by
  rcases act_cases c a with hoff | ⟨d, hact | ⟨hin, hact⟩, hview, -⟩
  · exact absurd hconn (by rw [hoff]; exact Bool.false_ne_true)
  · rw [hact, hview]
    exact .inl rfl
  · have hok : ViewOk (viewOf d) := hview.symm ▸ h
    have hdin : d.inMeeting = true := (congrArg MeetingView.inMeeting hview).trans hin
    rw [hact, viewOf_syncLocal hok hdin, hview]
    exact .inr rfl

end MeetingSystem.Proof.Client
