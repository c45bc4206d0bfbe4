import MeetingSystem.Proof.Client.MeetingView
import MeetingSystem.Proof.Store.Names

/-!
# The node and the views of its clients

What holds of a node and its clients between two handlers (`NodeOk none`), and inside a
handler that has changed a meeting and has yet to tell (`NodeOk (some m)`).

* `Exact`: the view shows a meeting as the store has it;
* `NodeOk.store`, `.modify`, `.broadcast`: the rules for the steps that handlers consist of;
* `NodeOk.sync`: after the state has been sent to the meeting, everybody is up to date;
* `NodeOk.announceLeft`: so they are after a departure has been announced.
-/

namespace MeetingSystem.Proof.Client

open MeetingSystem.Framework MeetingSystem.Impl.Store MeetingSystem.Impl.Signaling
open MeetingSystem.Impl.Client MeetingSystem.Proof.Store

/-! ## Meetings and views -/

/-- A user whom the client finds again in the list of a reply to a join. -/
structure Displayable (user : User) : Prop where
  plain : Plain user.id
  descriptor : ∀ p : Participant, p.userId = user.id → p.displayName = user.displayName →
    (itemFromDescriptor (descriptorOf p)).userId = user.id

structure DirectoryOk (s : MemoryStore) : Prop where
  store : StoreOk s
  names : NamesOk s
  users : ∀ u user, s.userByID u = some user → Displayable user

/-- What the record of a meeting and its participants satisfy. -/
structure RoomOk (mt : Meeting) (ps : Members) : Prop where
  role : ∀ u p, ps.lookup u = some p → (p.role = 1 ↔ u = mt.hostUserID)
  member : ∀ u p, ps.lookup u = some p → p.userId = u
  plain : ∀ u ∈ ps, Plain u
  host : mt.hostUserID ∈ ps

/-- The view shows the meeting as it is. -/
structure Exact (v : MeetingView) (mt : Meeting) (ps : Members) : Prop where
  meetingId : v.meetingId = mt.id
  hostUserId : v.hostUserId = mt.hostUserID
  host : v.currentMeetingHost = true ↔ mt.hostUserID = v.userId
  listed : v.listed = rolesOf (participantsToList ps)

section Rooms

variable {s s' : MemoryStore} {m u : String} {mt : Meeting} {ps : Members} {v : MeetingView}

theorem DirectoryOk.plain (h : DirectoryOk s) (hu : s.userByID u ≠ none) : Plain u := by
  obtain ⟨user, huser⟩ := Option.ne_none_iff_exists'.mp hu
  rw [← h.names.users u user huser]
  exact (h.users u user huser).plain

theorem DirectoryOk.room (h : DirectoryOk s) (hm : s.meetings m = some mt) :
    RoomOk mt (s.membersOf m) := by
  obtain ⟨ps, jo, -, -, hps, -, hok⟩ := h.store.rep.live hm
  refine ⟨hps ▸ hok.role, h.names.member m, fun u hu => ?_, hps ▸ hok.host_mem⟩
  exact h.plain (h.names.known m u hu)

theorem roleOf_entries (l : List (Sigma fun _ : String => Participant)) (u : String) :
    roleOf (l.map fun e => (e.1, e.2.role)) u = (l.dlookup u).map (·.role) := by
  induction l with
  | nil => rfl
  | cons e l ih =>
    obtain ⟨k, p⟩ := e
    rw [List.map_cons, roleOf_cons]
    by_cases hk : k = u
    · subst hk
      rw [if_pos rfl, List.dlookup_cons_eq]
      rfl
    · rw [if_neg hk, List.dlookup_cons_ne _ _ (Ne.symm hk), ih]

theorem roleOf_members (h : RoomOk mt ps) (u : String) :
    roleOf (rolesOf (participantsToList ps)) u = (ps.lookup u).map (·.role) := by
  have hkeys : rolesOf (participantsToList ps) = ps.entries.map fun e => (e.1, e.2.role) := by
    rw [rolesOf, participantsToList, List.map_map]
    refine List.map_congr_left fun e he => ?_
    have hid := h.member e.1 e.2 (mem_entries.mp he)
    simp [hid]
  rw [hkeys]
  exact roleOf_entries ps.entries u

/-- Who is in the meeting has the host's role if they are the host. -/
theorem RoomOk.roleOf_one (h : RoomOk mt ps) (hu : u ∈ ps) :
    roleOf (rolesOf (participantsToList ps)) u = some 1 ↔ mt.hostUserID = u := by
  obtain ⟨p, hp⟩ := lookup_of_mem hu
  rw [roleOf_members h, hp, Option.map_some, Option.some.injEq, h.role u p hp, eq_comm]

theorem Exact.hosting (he : Exact v mt ps) (h : RoomOk mt ps) (hu : v.userId ∈ ps) :
    v.Hosting ↔ mt.hostUserID = v.userId := by
  rw [MeetingView.Hosting, he.host, he.listed, h.roleOf_one hu, or_self]

/-- A host who claims the meeting is the one who is shown. -/
theorem Exact.claim (he : Exact v mt ps) (h : RoomOk mt ps) (hu : v.userId ∈ ps) :
    v.claim = v := by
  unfold MeetingView.claim
  split
  case isFalse => rfl
  case isTrue hh =>
    have hhost : v.hostUserId = v.userId := he.hostUserId.trans ((he.hosting h hu).mp hh)
    ext1 <;> simp [hhost]

theorem rolesOf_hydrateParticipants (hashes : String → HashFields)
    (participants : List Participant) :
    rolesOf (hydrateParticipants hashes participants) = rolesOf participants := by
  rw [rolesOf, rolesOf, hydrateParticipants, List.map_map]
  rfl

theorem withSelf_of_roleOf {l : List (String × Int32)} {host : Bool} (h : roleOf l u ≠ none)
    (hhost : host = true → roleOf l u = some 1) : MeetingView.withSelf l u host = l := by
  unfold MeetingView.withSelf
  cases host with
  | false =>
    obtain ⟨r, hr⟩ := Option.ne_none_iff_exists'.mp h
    simp [hr]
  | true => simpa using place_of_roleOf (hhost rfl)

/-- After the state of the meeting has been read, the view is exact. -/
theorem RoomOk.exact_sync (h : RoomOk mt ps) (hu : v.userId ∈ ps)
    (hashes : String → HashFields) :
    Exact (v.take (.meetStateSync mt.id mt.title mt.hostUserID
      (hydrateParticipants hashes (participantsToList ps)))) mt ps := by
  have hrole := h.roleOf_one hu
  have hself : roleOf (rolesOf (participantsToList ps)) v.userId ≠ none := by
    obtain ⟨p, hp⟩ := lookup_of_mem hu
    simp [roleOf_members h, hp]
  have hhost : (decide (mt.hostUserID ≠ "" ∧ mt.hostUserID = v.userId)) = true ↔
      mt.hostUserID = v.userId := by
    simp [(h.plain _ h.host).2]
  have hlisted := withSelf_of_roleOf hself fun hd => hrole.mpr (hhost.mp hd)
  simp only [MeetingView.take, rolesOf_hydrateParticipants, hlisted]
  have hexact : Exact { v with
      inMeeting := true, meetingId := mt.id
      currentMeetingHost := decide (mt.hostUserID ≠ "" ∧ mt.hostUserID = v.userId)
      listed := rolesOf (participantsToList ps), hostUserId := trimmed mt.hostUserID } mt ps :=
    ⟨rfl, (h.plain _ h.host).1, hhost, rfl⟩
  rw [hexact.claim h hu]
  exact hexact

/-- So it is for the host of a new meeting, after the two replies. -/
theorem exact_created {host : Participant} {user : User} (hd : Displayable user)
    (hid : host.userId = user.id) (hname : host.displayName = user.displayName)
    (hrole : host.role = 1) (hv : v.userId = user.id) (hmt : mt.hostUserID = user.id)
    (hashes : String → HashFields) :
    Exact ((v.take (.meetCreateRsp true mt.id)).take (.meetJoinRsp true mt.id mt.title
      (hydrateParticipants hashes [host]))) mt (AList.insert user.id host ∅) := by
  have hitem : (itemFromDescriptor (descriptorOf (hydrateParticipant (hashes host.userId)
      host))).userId = user.id := hd.descriptor _ hid hname
  have hhost : hostOf (hydrateParticipants hashes [host]) = user.id := by
    simp [hostOf, hydrateParticipants, hydrateParticipant, hrole, hid]
  have hlist : rolesOf (participantsToList (AList.insert user.id host ∅)) = [(user.id, 1)] := by
    simp [rolesOf, participantsToList, AList.insert_of_notMem, AList.notMem_empty, hid, hrole]
  constructor
  · simp [MeetingView.take]
  · simp [MeetingView.take, hhost, hmt, hd.plain.1]
  · simp [MeetingView.take, hhost, hmt, hv, hd.plain.2]
  · rw [hlist]
    simp only [MeetingView.take, hhost, hv]
    simp [MeetingView.withSelf, hydrateParticipants, hitem, place_cons, hd.plain.2]

end Rooms

/-! ## A session and its client -/

/-- What the view shows once the client has read everything, for a session with the user `u`
in the meeting `m`. Nothing is said about the members of a meeting that is `stale`. -/
structure Shows (stale : Option String) (s : MemoryStore) (u m : String) (v : MeetingView) :
    Prop where
  user : u ≠ "" → v.userId = u
  out : m = "" → v.inMeeting = false
  within : m ≠ "" → v.inMeeting = true
  exact : m ≠ "" → stale ≠ some m → IsMember s m u →
    ∀ mt, s.meetings m = some mt → Exact v mt (s.membersOf m)

/-- As long as the session is open and the client connected. -/
def Follow (conn : Conn) (c : MeetingController) (P : MeetingView → Prop) : Prop :=
  conn.closed = false → c.connected = true →
    Framework.Follows MeetingView.take ViewOk Fits (viewOf c) conn.inbox P

/-- What the handlers rely on, for a session with the number `i`. -/
structure SessionOk (manager : SessionManager) (accepted : Prop) (i : Nat)
    (conn : Impl.Signaling.Session) : Prop where
  plain : conn.meetingID ≠ "" → Plain conn.userID
  state : conn.closed = false → (conn.state = .inMeeting ↔ conn.meetingID ≠ "")
  live : conn.closed = false → conn.state ≠ .disconnected
  room : conn.closed = false → accepted ∨ conn.meetingID ≠ "" → manager.sessions i = true
  bound : conn.closed = false → conn.userID ≠ "" → manager.byUser conn.userID = some i

section Sessions

variable {conn : Conn} {c : MeetingController} {P Q : MeetingView → Prop} {msg : MeetingMessage}

theorem send_open (h : (conn.send msg).closed = false) :
    conn.closed = false ∧ (conn.send msg).toSession = conn.toSession ∧
      (conn.send msg).inbox = conn.inbox ++ [msg] := by
  unfold Conn.send at h ⊢
  split
  case isTrue hclosed =>
    rw [if_pos hclosed] at h
    exact nomatch hclosed.symm.trans h
  case isFalse hopen =>
    rw [if_neg hopen] at h
    split
    case isTrue hfull =>
      rw [if_pos hfull] at h
      exact nomatch (Session.close_closed _).symm.trans h
    case isFalse => exact ⟨Bool.eq_false_of_not_eq_true hopen, rfl, rfl⟩

@[simp] theorem send_userID : (conn.send msg).userID = conn.userID := by
  unfold Conn.send
  split
  · rfl
  split
  · exact Session.close_userID _
  · rfl

@[simp] theorem send_meetingID : (conn.send msg).meetingID = conn.meetingID := by
  unfold Conn.send
  split
  · rfl
  split
  · exact Session.close_meetingID _
  · rfl

theorem Follow.mono (h : Follow conn c P) (hPQ : conn.closed = false → ∀ v, P v → Q v) :
    Follow conn c Q :=
  fun hopen hconn => (h hopen hconn).mono (hPQ hopen)

theorem Follow.send (h : Follow conn c P)
    (hmsg : conn.closed = false → ∀ v, ViewOk v → P v → Fits v msg ∧ Q (v.take msg)) :
    Follow (conn.send msg) c Q := by
  intro hopen hconn
  obtain ⟨hopen', -, hinbox⟩ := send_open hopen
  rw [hinbox]
  exact (h hopen' hconn).send (fun _ _ hfits hok => hok.take hfits) (hmsg hopen')

theorem Follow.of_closed (h : conn.closed = true) : Follow conn c P :=
  fun hopen => nomatch h.symm.trans hopen

variable {manager : SessionManager} {accepted : Prop} {i : Nat}
  {s : Impl.Signaling.Session}

theorem SessionOk.of_closed (h : s.closed = true) (hplain : s.meetingID ≠ "" → Plain s.userID) :
    SessionOk manager accepted i s where
  plain := hplain
  state hopen := nomatch h.symm.trans hopen
  live hopen := nomatch h.symm.trans hopen
  room hopen := nomatch h.symm.trans hopen
  bound hopen := nomatch h.symm.trans hopen

theorem SessionOk.close (h : SessionOk manager accepted i s) :
    SessionOk manager accepted i s.close :=
  .of_closed (Session.close_closed s) (by simpa using h.plain)

theorem SessionOk.send (h : SessionOk manager accepted i conn.toSession) (msg : MeetingMessage) :
    SessionOk manager accepted i (conn.send msg).toSession := by
  by_cases hopen : (conn.send msg).closed = false
  · rw [(send_open hopen).2.1]
    exact h
  · exact .of_closed (Bool.eq_true_of_not_eq_false hopen) (by simpa using h.plain)

end Sessions

section

variable {stale : Option String} {s : MemoryStore} {m u : String} {v : MeetingView}

/-- Who is not in the meeting need not be told. -/
theorem Shows.fresh {m' : String} (h : Shows (some m') s u m v)
    (hx : m = m' → ¬ IsMember s m u) : Shows none s u m v where
  user := h.user
  out := h.out
  within := h.within
  exact hm _ hu mt hmt := by
    by_cases heq : m = m'
    · exact absurd hu (hx heq)
    · exact h.exact hm (by simpa using Ne.symm heq) hu mt hmt

theorem Shows.of_none (h : Shows none s u m v) (m' : String) : Shows (some m') s u m v where
  user := h.user
  out := h.out
  within := h.within
  exact hm _ := h.exact hm nofun

/-- A message that leaves the client in the meeting, when the meeting is stale. -/
theorem Shows.of_stale {w : MeetingView} (h : Shows (some m) s u m v) (huser : w.userId = v.userId)
    (hin : w.inMeeting = v.inMeeting) : Shows (some m) s u m w where
  user hu := huser.trans (h.user hu)
  out hm := hin.trans (h.out hm)
  within hm := hin.trans (h.within hm)
  exact _ hne := absurd rfl hne

end

/-! ## The node -/

structure NodeOk (stale : Option String) (clients : Nat → MeetingController) (n : MeetingNode) :
    Prop where
  store : DirectoryOk n.store
  index : ∀ u ≠ "", ∀ k, n.manager.byUser u = some k → (n.sessions k).userID = u
  session : ∀ i, SessionOk n.manager (n.Accepted i) i (n.sessions i).toSession
  follow : ∀ i, Follow (n.sessions i) (clients i)
    (Shows stale n.store (n.sessions i).userID (n.sessions i).meetingID)

section Rules

variable {stale stale' : Option String} {clients : Nat → MeetingController} {n : MeetingNode}
  {m u : String} {i : Nat}

@[simp] theorem modify_self (n : MeetingNode) (i : Nat) (f : Conn → Conn) :
    (n.modify i f).sessions i = f (n.sessions i) := Function.update_self _ _ _

theorem modify_of_ne (n : MeetingNode) {i j : Nat} (h : j ≠ i) (f : Conn → Conn) :
    (n.modify i f).sessions j = n.sessions j := Function.update_of_ne h _ _

theorem modify_modify (n : MeetingNode) (i : Nat) (f g : Conn → Conn) :
    (n.modify i f).modify i g = n.modify i fun c => g (f c) := by
  simp [MeetingNode.modify]

/-- The users of open sessions are different. -/
theorem NodeOk.unique (h : NodeOk stale clients n) {j : Nat} (hi : (n.sessions i).closed = false)
    (hj : (n.sessions j).closed = false) (hu : (n.sessions i).userID ≠ "")
    (heq : (n.sessions j).userID = (n.sessions i).userID) : j = i := by
  have hbi := (h.session i).bound hi hu
  have hbj := (h.session j).bound hj (heq ▸ hu)
  rw [heq, hbi, Option.some.injEq] at hbj
  exact hbj.symm

/-- The store has changed what it says of `m`. -/
theorem NodeOk.store_elsewhere (h : NodeOk (some m) clients n) {s' : MemoryStore}
    (hs : DirectoryOk s') (he : Elsewhere n.store s' m) :
    NodeOk (some m) clients { n with store := s' } where
  store := hs
  index := h.index
  session := h.session
  follow i := by
    refine (h.follow i).mono fun _ v hv => ⟨hv.user, hv.out, hv.within, fun hm hne hu mt hmt => ?_⟩
    have hm' : (n.sessions i).meetingID ≠ m := fun heq => hne (by rw [heq])
    have hmembers := he.membersOf hm'
    rw [IsMember, hmembers] at hu
    rw [hmembers]
    exact hv.exact hm hne hu mt ((he.meetings _ hm').symm.trans hmt)

theorem NodeOk.restale (h : NodeOk stale clients n)
    (hrest : ∀ j, (n.sessions j).closed = false → ∀ v,
      Shows stale n.store (n.sessions j).userID (n.sessions j).meetingID v →
      Shows stale' n.store (n.sessions j).userID (n.sessions j).meetingID v) :
    NodeOk stale' clients n where
  store := h.store
  index := h.index
  session := h.session
  follow j := (h.follow j).mono (hrest j)

theorem NodeOk.of_none (h : NodeOk none clients n) (m : String) : NodeOk (some m) clients n :=
  h.restale fun _ _ _ hv => hv.of_none m

/-- Nobody is in a meeting that is gone. -/
theorem NodeOk.fresh (h : NodeOk (some m) clients n) (hm : n.store.meetings m = none) :
    NodeOk none clients n := by
  refine h.restale fun j _ v hv => hv.fresh fun heq hu => ?_
  obtain ⟨mt, hmt⟩ := h.store.store.live hu
  rw [heq, hm] at hmt
  cases hmt

/-- A session and what its client has to read are changed. -/
theorem NodeOk.modify (h : NodeOk stale clients n) {f : Conn → Conn}
    (huser : (f (n.sessions i)).userID = (n.sessions i).userID)
    (hsession : SessionOk n.manager (n.Accepted i) i (f (n.sessions i)).toSession)
    (hfollow : Follow (f (n.sessions i)) (clients i)
      (Shows stale' n.store (n.sessions i).userID (f (n.sessions i)).meetingID))
    (hrest : ∀ j ≠ i, (n.sessions j).closed = false → ∀ v,
      Shows stale n.store (n.sessions j).userID (n.sessions j).meetingID v →
      Shows stale' n.store (n.sessions j).userID (n.sessions j).meetingID v) :
    NodeOk stale' clients (n.modify i f) where
  store := h.store
  index v hv k hk := by
    have hold := h.index v hv k hk
    by_cases hki : k = i
    · subst hki
      rw [modify_self, huser]
      exact hold
    · rw [modify_of_ne n hki]
      exact hold
  session j := by
    by_cases hj : j = i
    · subst hj
      rw [modify_self]
      exact hsession
    · rw [modify_of_ne n hj]
      exact h.session j
  follow j := by
    by_cases hj : j = i
    · subst hj
      rw [modify_self, huser]
      exact hfollow
    · rw [modify_of_ne n hj]
      exact (h.follow j).mono (hrest j hj)

/-- A message to a session. -/
theorem NodeOk.send (h : NodeOk stale clients n) {msg : MeetingMessage}
    (hmsg : (n.sessions i).closed = false → ∀ v, ViewOk v →
      Shows stale n.store (n.sessions i).userID (n.sessions i).meetingID v →
      Fits v msg ∧ Shows stale n.store (n.sessions i).userID (n.sessions i).meetingID
        (v.take msg)) : NodeOk stale clients (n.send i msg) := by
  refine h.modify send_userID ((h.session i).send msg) ?_ fun _ _ _ _ hv => hv
  rw [send_meetingID]
  exact (h.follow i).send hmsg

/-- A session is closed, whatever it is sent. -/
theorem NodeOk.close (h : NodeOk stale clients n) {f : Conn → Conn}
    (hclosed : (f (n.sessions i)).closed = true)
    (huser : (f (n.sessions i)).userID = (n.sessions i).userID)
    (hmeeting : (f (n.sessions i)).meetingID = (n.sessions i).meetingID) :
    NodeOk stale clients (n.modify i f) :=
  h.modify huser (.of_closed hclosed (by rw [huser, hmeeting]; exact (h.session i).plain))
    (.of_closed hclosed) fun _ _ _ _ hv => hv

/-- `BindUser` and `HandleMessage` tell a client that it is kicked, and close its session. -/
theorem NodeOk.kick (h : NodeOk stale clients n) (i : Nat) :
    NodeOk stale clients ((n.send i .authKickNotify).modify i .close) := by
  rw [MeetingNode.send, modify_modify]
  refine h.close (Session.close_closed _) ?_ ?_
  · exact (Session.close_userID _).trans send_userID
  · exact (Session.close_meetingID _).trans send_meetingID

/-! ## Broadcasts -/

/-- The session is not among those that a broadcast to the meeting goes to. -/
def Skipped (conn : Impl.Signaling.Session) (m excludeUserID : String) : Prop :=
  conn.meetingID ≠ m ∨ (excludeUserID ≠ "" ∧ conn.userID = excludeUserID)

theorem broadcastToRoom_skipped {excludeUserID : String} (msg : MeetingMessage)
    (h : Skipped (n.sessions i).toSession m excludeUserID) :
    (n.broadcastToRoom m msg excludeUserID).sessions i = n.sessions i := by
  have hroom : n.inRoom m excludeUserID i = false := by
    unfold MeetingNode.inRoom
    rcases h with h | h
    · simp [h]
    · simp [h.1, h.2]
  simp [MeetingNode.broadcastToRoom, hroom]

theorem NodeOk.broadcast (h : NodeOk stale clients n) {excludeUserID : String}
    {msg : MeetingMessage} (hm : m ≠ "")
    (hmsg : ∀ j, (n.sessions j).meetingID = m → ¬ Skipped (n.sessions j).toSession m excludeUserID →
      ∀ v, ViewOk v → Shows stale n.store (n.sessions j).userID m v →
        Fits v msg ∧ Shows stale' n.store (n.sessions j).userID m (v.take msg))
    (hrest : ∀ j, (n.sessions j).closed = false →
      Skipped (n.sessions j).toSession m excludeUserID → ∀ v,
        Shows stale n.store (n.sessions j).userID (n.sessions j).meetingID v →
        Shows stale' n.store (n.sessions j).userID (n.sessions j).meetingID v) :
    NodeOk stale' clients (n.broadcastToRoom m msg excludeUserID) := by
  have hcases : ∀ j, (n.broadcastToRoom m msg excludeUserID).sessions j =
      if n.inRoom m excludeUserID j then (n.sessions j).send msg else n.sessions j := fun _ => rfl
  have hin : ∀ j, n.inRoom m excludeUserID j = true → (n.sessions j).meetingID = m ∧
      ¬ Skipped (n.sessions j).toSession m excludeUserID := by
    intro j hj
    simp only [MeetingNode.inRoom, Bool.and_eq_true, decide_eq_true_eq, Bool.not_eq_true',
      decide_eq_false_iff_not, Bool.and_eq_false_iff] at hj
    refine ⟨hj.1.2, ?_⟩
    rintro (hne | ⟨hne, hu⟩)
    · exact hne hj.1.2
    · simp [hne, hu] at hj
  have hout : ∀ j, (n.sessions j).closed = false → n.inRoom m excludeUserID j = false →
      Skipped (n.sessions j).toSession m excludeUserID := by
    intro j hopen hj
    by_cases hmj : (n.sessions j).meetingID = m
    · have htable := (h.session j).room hopen (.inr (hmj ▸ hm))
      simp only [MeetingNode.inRoom, htable, hmj] at hj
      exact .inr (by simpa using hj)
    · exact .inl hmj
  refine ⟨h.store, fun v hv k hk => ?_, fun j => ?_, fun j => ?_⟩
  · rw [hcases]
    split
    · exact send_userID.trans (h.index v hv k hk)
    · exact h.index v hv k hk
  · rw [hcases]
    split
    · exact (h.session j).send msg
    · exact h.session j
  · rw [hcases]
    split
    · rename_i hj
      obtain ⟨hmj, hskip⟩ := hin j hj
      rw [send_userID, send_meetingID, hmj]
      refine Follow.send (hmj ▸ h.follow j) fun _ v hok hv => hmsg j hmj hskip v hok hv
    · rename_i hj
      exact (h.follow j).mono fun hopen v hv =>
        hrest j hopen (hout j hopen (Bool.eq_false_of_not_eq_true hj)) v hv

/-- To a meeting that is stale anything can be said that keeps the clients in it. -/
theorem NodeOk.announce (h : NodeOk (some m) clients n) {excludeUserID : String}
    {msg : MeetingMessage} (hm : m ≠ "")
    (hmsg : ∀ v, v.inMeeting = true → (excludeUserID ≠ "" → v.userId ≠ excludeUserID) →
      Fits v msg ∧ (v.take msg).userId = v.userId ∧ (v.take msg).inMeeting = true) :
    NodeOk (some m) clients (n.broadcastToRoom m msg excludeUserID) := by
  refine h.broadcast hm (fun j hmj hskip v _ hv => ?_) fun _ _ _ _ hv => hv
  have hplain := (h.session j).plain (hmj ▸ hm)
  have huser := hv.user hplain.2
  have hin := hv.within hm
  obtain ⟨hfits, huser', hin'⟩ := hmsg v hin fun hne heq => hskip (.inr ⟨hne, huser ▸ heq⟩)
  exact ⟨hfits, hv.of_stale huser' (hin'.trans hin.symm)⟩

/-- After the state of a meeting has been sent to it, its members are up to date. -/
theorem NodeOk.sync (h : NodeOk (some m) clients n) (hashes : String → HashFields) (hm : m ≠ "")
    {excludeUserID : String} (hexclude : ¬ IsMember n.store m excludeUserID) :
    NodeOk none clients (n.broadcastMeetingStateSync hashes m excludeUserID) := by
  unfold MeetingNode.broadcastMeetingStateSync MemoryStore.snapshotMeeting
  cases hmt : n.store.meetings m with
  | none => exact h.fresh hmt
  | some mt =>
    obtain ⟨ps, -, hps, -, hmembers, -, -⟩ := h.store.store.rep.live hmt
    have hroom := h.store.room hmt
    rw [hmembers] at hroom
    simp only [hps]
    refine h.broadcast hm (fun j hmj _ v _ hv => ?_) fun j _ hskip v hv => hv.fresh fun hmj hu => ?_
    · have hplain := (h.session j).plain (hmj ▸ hm)
      have huser := hv.user hplain.2
      have hfits : Plain v.userId := huser.symm ▸ hplain
      have hkeep : (v.take (.meetStateSync mt.id mt.title mt.hostUserID
          (hydrateParticipants hashes (participantsToList ps)))).userId = v.userId ∧
          (v.take (.meetStateSync mt.id mt.title mt.hostUserID
            (hydrateParticipants hashes (participantsToList ps)))).inMeeting = true := by
        simp only [MeetingView.take, MeetingView.claim]
        split <;> exact ⟨rfl, rfl⟩
      refine ⟨hfits, fun _ => hkeep.1.trans huser, fun h => absurd h hm,
        fun _ => hkeep.2, fun _ _ hu mt' hmt' => ?_⟩
      rw [hmt, Option.some.injEq] at hmt'
      rw [IsMember, hmembers, ← huser] at hu
      rw [← hmt', hmembers]
      exact hroom.exact_sync hu hashes
    · rcases hskip with hne | ⟨-, heq⟩
      · exact hne hmj
      · exact hexclude (heq ▸ hmj ▸ hu)

/-- A departure is announced to the meeting. -/
theorem NodeOk.announceLeft (h : NodeOk (some m) clients n) (hm : m ≠ "") (hu : Plain u)
    (hnot : ¬ IsMember n.store m u) {result : LeaveResult}
    (hgone : result.remaining = 0 → n.store.meetings m = none) (reason excludeHost : String)
    (hashes : String → HashFields) :
    NodeOk none clients (n.announceLeft m u reason excludeHost result hashes) := by
  have hleft : NodeOk (some m) clients
      (n.broadcastToRoom m (.meetParticipantLeave u reason) u) := by
    refine h.announce hm fun v hin hne => ?_
    have hne := (hne hu.2).symm
    refine ⟨⟨hu, fun _ => hin⟩, ?_⟩
    rw [MeetingView.take, if_neg hne]
    exact ⟨rfl, hin⟩
  have hhost : ∀ host : Participant, NodeOk (some m) clients
      ((n.broadcastToRoom m (.meetParticipantLeave u reason) u).broadcastToRoom m
        (.meetHostChanged host.userId host.displayName) excludeHost) :=
    fun host => hleft.announce hm fun v hin _ => ⟨hin, rfl, hin⟩
  have hend : ∀ n' : MeetingNode, n'.store = n.store → NodeOk (some m) clients n' →
      NodeOk none clients
        (if 0 < result.remaining then n'.broadcastMeetingStateSync hashes m u else n') := by
    intro n' hstore h'
    split
    case isTrue => exact h'.sync hashes hm (hstore ▸ hnot)
    case isFalse hzero => exact h'.fresh (hstore ▸ hgone (by omega))
  unfold MeetingNode.announceLeft
  obtain ⟨hostChanged, newHost, remaining⟩ := result
  cases hostChanged with
  | false => exact hend _ rfl hleft
  | true =>
    cases newHost with
    | none => exact hend _ rfl hleft
    | some host => exact hend _ rfl (hhost host)

/-- Who has left is told nothing of it. -/
theorem announceLeft_self (hself : (n.sessions i).userID = u) (hu : u ≠ "")
    (reason : String) (result : LeaveResult) (hashes : String → HashFields) :
    (n.announceLeft m u reason u result hashes).sessions i = n.sessions i := by
  have hskip : Skipped (n.sessions i).toSession m u := .inr ⟨hu, hself⟩
  have hleft := broadcastToRoom_skipped (.meetParticipantLeave u reason) hskip
  have hhost : ∀ host : Participant,
      ((n.broadcastToRoom m (.meetParticipantLeave u reason) u).broadcastToRoom m
        (.meetHostChanged host.userId host.displayName) u).sessions i = n.sessions i := by
    intro host
    rw [broadcastToRoom_skipped _ (by rw [hleft]; exact hskip), hleft]
  have hend : ∀ n' : MeetingNode, n'.sessions i = n.sessions i →
      (if 0 < result.remaining then n'.broadcastMeetingStateSync hashes m u else n').sessions i =
        n.sessions i := by
    intro n' h'
    split
    case isTrue =>
      unfold MeetingNode.broadcastMeetingStateSync
      split
      · exact h'
      · rw [broadcastToRoom_skipped _ (by rw [h']; exact hskip), h']
    case isFalse => exact h'
  unfold MeetingNode.announceLeft
  obtain ⟨hostChanged, newHost, remaining⟩ := result
  cases hostChanged with
  | false => exact hend _ hleft
  | true =>
    cases newHost with
    | none => exact hend _ hleft
    | some host => exact hend _ (hhost host)

end Rules

end MeetingSystem.Proof.Client
