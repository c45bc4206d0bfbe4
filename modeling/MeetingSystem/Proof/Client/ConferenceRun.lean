import MeetingSystem.Proof.Client.Conference
import MeetingSystem.Proof.Signaling.SessionManager

/-!
# Clients that show their meetings

Every handler keeps `NodeOk none`, and so does everything else that happens between a node
and its clients. A client that is connected and has read what there is to read therefore
shows the meeting that its session is in, or none.

* `NodeOk.handleLogin`, `.handleCreate`, `.handleJoin`, `.leave`, `.handleKick`, …: the
  handlers;
* `conference_step`: a step of a node and its clients;
* `shown_run`: what a client shows, after any run.
-/

namespace MeetingSystem.Proof.Client

open MeetingSystem.Framework MeetingSystem.Impl.Store MeetingSystem.Impl.Signaling
open MeetingSystem.Impl.Client MeetingSystem.Proof.Store

/-! ## The store -/

section Directory

variable {s s' : MemoryStore} {m : String}

theorem DirectoryOk.of_elsewhere (h : DirectoryOk s) (hs : StoreOk s') (hn : NamesOk s')
    (he : Elsewhere s s' m) : DirectoryOk s' := ⟨hs, hn, he.users ▸ h.users⟩

theorem DirectoryOk.createMeeting (h : DirectoryOk s) (title password u : String)
    (maxParticipants : Int) (r : Fin 9000) (now : Int) :
    DirectoryOk (s.createMeeting title password u maxParticipants r now).1 :=
  h.of_elsewhere (createMeeting_spec h.store title password u maxParticipants r now).1
    (createMeeting_namesOk h.names title password u maxParticipants r now)
    (createMeeting_elsewhere s title password u maxParticipants r now)

theorem DirectoryOk.joinMeeting (h : DirectoryOk s) (m password u : String) :
    DirectoryOk (s.joinMeeting m password u).1 :=
  h.of_elsewhere (joinMeeting_spec h.store m password u).1 (joinMeeting_namesOk h.names m password u)
    (joinMeeting_elsewhere s m password u)

theorem DirectoryOk.leaveMeeting (h : DirectoryOk s) (m u : String) :
    DirectoryOk (s.leaveMeeting m u).1 :=
  h.of_elsewhere (leaveMeeting_spec h.store m u).1 (leaveMeeting_namesOk h.names m u)
    (leaveMeeting_elsewhere s m u)

theorem DirectoryOk.updateParticipant (h : DirectoryOk s) (m u : String)
    {f : Participant → Participant} (hrole : ∀ p, (f p).role = p.role)
    (hid : ∀ p, (f p).userId = p.userId) : DirectoryOk (s.updateParticipant m u f).1 :=
  h.of_elsewhere (updateParticipant_storeOk h.store m u hrole) (updateParticipant_namesOk h.names m u hid)
    (updateParticipant_elsewhere s m u f)

theorem DirectoryOk.not_empty (h : DirectoryOk s) (m : String) : ¬ IsMember s m "" :=
  fun hu => (h.plain (h.names.known m "" hu)).2 rfl

theorem newMemoryStore_directoryOk (hash : String → String) :
    DirectoryOk (newMemoryStore hash) := by
  refine ⟨newMemoryStore_storeOk hash, newMemoryStore_namesOk hash, fun u user huser => ?_⟩
  have hdisplayable : ∀ raw ∈ defaultUsers, Plain raw.1 ∧
      (itemFromDescriptor (raw.2.2.2 ++ " (" ++ raw.1 ++ ")")).userId = raw.1 := by
    unfold Plain
    decide +kernel
  have hraw : ∃ raw ∈ defaultUsers, user.id = raw.1 ∧ user.displayName = raw.2.2.2 := by
    simp only [newMemoryStore, seedDefaultUsers, defaultUsers, List.foldl_cons, List.foldl_nil,
      seedUser, Function.update_apply] at huser
    simp only [defaultUsers, List.mem_cons, List.not_mem_nil, or_false, exists_eq_or_imp,
      exists_eq_left]
    split at huser
    · cases huser
      exact .inr (.inr ⟨rfl, rfl⟩)
    · split at huser
      · cases huser
        exact .inr (.inl ⟨rfl, rfl⟩)
      · split at huser
        · cases huser
          exact .inl ⟨rfl, rfl⟩
        · cases huser
  obtain ⟨raw, hmem, hid, hname⟩ := hraw
  obtain ⟨hplain, hitem⟩ := hdisplayable raw hmem
  refine ⟨hid ▸ hplain, fun p hp hpname => ?_⟩
  rw [descriptorOf, hp, hpname, hid, hname]
  exact hitem

end Directory

section Handlers

variable {clients : Nat → MeetingController} {n : MeetingNode} {m u : String} {i : Nat}

/-- A reply that no view depends on. -/
theorem NodeOk.reply {stale : Option String} (h : NodeOk stale clients n) {msg : MeetingMessage}
    (hmsg : ∀ v, Fits v msg ∧ v.take msg = v) : NodeOk stale clients (n.send i msg) :=
  h.send fun _ v _ hv => ⟨(hmsg v).1, (hmsg v).2.symm ▸ hv⟩

/-! ## Logging in -/

/-- Another session of the user has been kicked. -/
def displaced (n : MeetingNode) (i : Nat) (userID : String) : MeetingNode :=
  match n.manager.byUser userID with
  | some k => if k = i then n else (n.send k .authKickNotify).modify k .close
  | none => n

theorem bindUser_eq (n : MeetingNode) (i : Nat) (userID : String) :
    n.bindUser i userID =
      ({ displaced n i userID with manager := (n.manager.bindUser i userID).1 }.modify i
        fun c => { c with userID }) := by
  unfold MeetingNode.bindUser displaced SessionManager.bindUser
  cases n.manager.byUser userID with
  | none => rfl
  | some k =>
    by_cases hk : k = i
    · simp [hk]
    · simp only [ne_eq, hk, not_false_iff, if_true, if_false, MeetingNode.send, modify_modify]
      simp [MeetingNode.modify, Function.update_of_ne hk, Function.update_of_ne (Ne.symm hk),
        Function.update_comm (Ne.symm hk)]

theorem NodeOk.displaced (h : NodeOk none clients n) (i : Nat) (userID : String) :
    NodeOk none clients (displaced n i userID) := by
  unfold Client.displaced
  split
  · split
    · exact h
    · exact h.kick _
  · exact h

theorem displaced_manager (n : MeetingNode) (i : Nat) (userID : String) :
    (displaced n i userID).manager = n.manager ∧ (displaced n i userID).nextID = n.nextID ∧
      (displaced n i userID).sessions i = n.sessions i ∧ ∀ k ≠ i, n.manager.byUser userID = some k →
        ((displaced n i userID).sessions k).closed = true := by
  unfold displaced
  cases hk : n.manager.byUser userID with
  | none => exact ⟨rfl, rfl, rfl, nofun⟩
  | some k =>
    by_cases hki : k = i
    · dsimp only
      rw [if_pos hki]
      refine ⟨rfl, rfl, rfl, fun k' hne heq => ?_⟩
      cases heq
      exact absurd hki hne
    · dsimp only
      rw [if_neg hki]
      refine ⟨rfl, rfl, ?_, fun k' _ heq => ?_⟩
      · rw [modify_of_ne _ (Ne.symm hki), MeetingNode.send, modify_of_ne _ (Ne.symm hki)]
      · cases heq
        rw [modify_self]
        exact Session.close_closed _

/-- A session in no meeting is bound to a user. -/
theorem NodeOk.bind (h : NodeOk none clients n) (haccepted : n.Accepted i)
    (hopen : (n.sessions i).closed = false) (hmeeting : (n.sessions i).meetingID = "")
    (hown : (n.sessions i).userID = "" ∨ (n.sessions i).userID = u)
    (hothers : ∀ k ≠ i, n.manager.byUser u = some k → (n.sessions k).closed = true) :
    NodeOk none clients ({ n with manager := (n.manager.bindUser i u).1 }.modify i fun c =>
      { c with userID := u, state := .authenticated, meetingID := "" }.send
        (.authLoginRsp true u)) where
  store := h.store
  index v hv k hk := by
    have hk : Function.update n.manager.byUser u (some i) v = some k := hk
    by_cases hvu : v = u
    · rw [hvu, Function.update_self, Option.some.injEq] at hk
      rw [← hk, modify_self, send_userID, hvu]
    · rw [Function.update_of_ne hvu] at hk
      have hold := h.index v hv k hk
      have hki : k ≠ i := by
        rintro rfl
        rcases hown with hown | hown
        · exact hv (hold.symm.trans hown)
        · exact hvu (hold.symm.trans hown)
      rw [modify_of_ne _ hki]
      exact hold
  session j := by
    by_cases hj : j = i
    · subst hj
      rw [modify_self]
      have hbound : SessionOk { n.manager with
          byUser := Function.update n.manager.byUser u (some j) } (n.Accepted j) j
          { (n.sessions j).toSession with
            userID := u, state := .authenticated, meetingID := "" } :=
        ⟨fun hne => absurd rfl hne, fun _ => by simp, fun _ => nofun,
          fun _ _ => (h.session j).room hopen (.inl haccepted),
          fun _ _ => Function.update_self _ _ _⟩
      exact hbound.send _
    · rw [modify_of_ne _ hj]
      have hold := h.session j
      refine ⟨hold.plain, hold.state, hold.live, hold.room, fun hopenj hne => ?_⟩
      have hbound := hold.bound hopenj hne
      have huj : (n.sessions j).userID ≠ u := by
        intro heq
        exact nomatch (hothers j hj (heq ▸ hbound)).symm.trans hopenj
      exact (Function.update_of_ne huj _ _).trans hbound
  follow j := by
    by_cases hj : j = i
    · subst hj
      rw [modify_self, send_userID, send_meetingID]
      have hold := h.follow j
      rw [hmeeting] at hold
      refine Follow.send (P := Shows none n.store (n.sessions j).userID "") hold fun _ v _ hv => ?_
      exact ⟨fun _ => hv.out rfl, fun _ => rfl, fun _ => hv.out rfl, fun hne => absurd rfl hne,
        fun hne => absurd rfl hne⟩
    · rw [modify_of_ne _ hj]
      exact h.follow j

theorem NodeOk.handleLogin (h : NodeOk none clients n) (haccepted : n.Accepted i)
    (hopen : (n.sessions i).closed = false) (hmeeting : (n.sessions i).meetingID = "")
    {user : Option String}
    (hown : ∀ u, user = some u → (n.sessions i).userID = "" ∨ (n.sessions i).userID = u) :
    NodeOk none clients (n.handleLogin i user) := by
  cases user with
  | none => exact h.reply fun v => ⟨nofun, rfl⟩
  | some u =>
    obtain ⟨hmanager, hnext, hsession, hclosed⟩ := displaced_manager n i u
    have hbind := NodeOk.bind (h.displaced i u) (i := i) (u := u)
      (by unfold MeetingNode.Accepted; rw [hnext]; exact haccepted) (by rw [hsession]; exact hopen)
      (by rw [hsession]; exact hmeeting) (by rw [hsession]; exact hown u rfl)
      (by rw [hmanager]; exact hclosed)
    rw [hmanager] at hbind
    rw [MeetingNode.handleLogin, bindUser_eq, MeetingNode.setState, MeetingNode.setMeetingID,
      MeetingNode.send, modify_modify, modify_modify, modify_modify]
    exact hbind

/-! ## Creating and joining -/

theorem SessionOk.enter {manager : SessionManager} {accepted : Prop} {s : Impl.Signaling.Session}
    (h : SessionOk manager accepted i s) (haccepted : accepted) (hopen : s.closed = false)
    (hm : m ≠ "") (hplain : Plain s.userID) :
    SessionOk manager accepted i { s with meetingID := m, state := .inMeeting } :=
  ⟨fun _ => hplain, fun _ => iff_of_true rfl hm, fun _ => nofun,
    fun _ _ => h.room hopen (.inl haccepted), h.bound⟩

/-- A meeting is the caller's own, also where another one has had its number. -/
theorem NodeOk.created (h : NodeOk none clients n) (haccepted : n.Accepted i)
    (hopen : (n.sessions i).closed = false) (hmeeting : (n.sessions i).meetingID = "")
    {title password : String} {maxParticipants : Int} {r : Fin 9000} {now : Int}
    {s' : MemoryStore} {meeting : Meeting} {host : Participant}
    (hcreate : n.store.createMeeting title password (n.sessions i).userID maxParticipants r now =
      (s', .ok (meeting, host))) (hashes : String → HashFields) :
    NodeOk none clients ({ n with store := s' }.modify i fun c =>
      ({ c with meetingID := meeting.id, state := .inMeeting }.send
        (.meetCreateRsp true meeting.id)).send (.meetJoinRsp true meeting.id meeting.title
          (hydrateParticipants hashes [host]))) := by
  have hdir := h.store.createMeeting title password (n.sessions i).userID maxParticipants r now
  have helse := createMeeting_elsewhere n.store title password (n.sessions i).userID
    maxParticipants r now
  obtain ⟨hid, hhost, hmt, hps, user, huser, hhostId, hname, hrole⟩ :=
    createMeeting_created hcreate
  rw [hcreate] at hdir helse
  have huserId := h.store.names.users _ user huser
  have hdisplay := h.store.users _ user huser
  have hplain : Plain (n.sessions i).userID := huserId ▸ hdisplay.plain
  have hm : meeting.id ≠ "" := by
    intro heq
    rw [heq] at hmt
    exact nomatch hdir.store.meeting_ne.symm.trans hmt
  have hmember : ∀ v, IsMember s' meeting.id v ↔ v = (n.sessions i).userID := by
    intro v
    rw [IsMember, hps]
    exact newMembers_mem _ _ _
  have hstale : NodeOk (some meeting.id) clients { n with store := s' } :=
    (h.of_none _).store_elsewhere hdir (hid ▸ helse)
  have hsession := (h.session i).enter haccepted hopen hm hplain
  refine hstale.modify ?_ ?_ ?_ fun j hj hopenj v hv => hv.fresh fun heq hu => ?_
  · exact send_userID.trans send_userID
  · refine SessionOk.send ?_ _
    exact SessionOk.send (by exact hsession) _
  · rw [send_meetingID, send_meetingID]
    have hfollow := h.follow i
    rw [hmeeting] at hfollow
    refine Follow.send (P := fun w => ∃ v : MeetingView, v.userId = (n.sessions i).userID ∧
      w = v.take (.meetCreateRsp true meeting.id)) ?_ ?_
    · refine Follow.send (P := Shows none n.store (n.sessions i).userID "") hfollow
        fun _ v _ hv => ?_
      have hv := hv.user hplain.2
      exact ⟨fun _ => hv.symm ▸ hplain, v, hv, rfl⟩
    · rintro - w - ⟨v, hv, rfl⟩
      have hv' : (v.take (.meetCreateRsp true meeting.id)).userId = (n.sessions i).userID := hv
      refine ⟨fun _ => hv'.symm ▸ hplain, fun _ => hv, fun heq => absurd heq hm, fun _ => rfl,
        fun _ _ _ mt hmt' => ?_⟩
      obtain rfl : meeting = mt := Option.some.inj (hmt.symm.trans hmt')
      have hexact := exact_created hdisplay hhostId hname hrole (hv.trans huserId.symm)
        (hhost.trans huserId.symm) hashes
      rw [huserId] at hexact
      exact hps ▸ hexact
  · rw [heq, hmember] at hu
    exact hj (h.unique hopen hopenj hplain.2 hu)

theorem NodeOk.handleCreate (h : NodeOk none clients n) (haccepted : n.Accepted i)
    (hopen : (n.sessions i).closed = false) (hmeeting : (n.sessions i).meetingID = "")
    (title password : String) (maxParticipants : Int) (r : Fin 9000) (now : Int) (routed : Bool)
    (hashes : String → HashFields) :
    NodeOk none clients (n.handleCreate i title password maxParticipants r now routed hashes) := by
  have hfails : ∀ n' : MeetingNode, NodeOk none clients n' →
      NodeOk none clients (n'.send i (.meetCreateRsp false "")) :=
    fun n' h' => h'.reply fun v => ⟨nofun, rfl⟩
  unfold MeetingNode.handleCreate
  split
  · exact hfails n h
  dsimp only
  have hdir := h.store.createMeeting title password (n.sessions i).userID maxParticipants r now
  have helse := createMeeting_elsewhere n.store title password (n.sessions i).userID
    maxParticipants r now
  rcases hcreate : n.store.createMeeting title password (n.sessions i).userID maxParticipants r
    now with ⟨s', result⟩
  rw [hcreate] at hdir helse
  cases result with
  | error e =>
    have helse := createMeeting_error (congrArg Prod.snd hcreate) ""
    rw [hcreate] at helse
    have hstale := (h.of_none "").store_elsewhere hdir helse
    exact hfails _ (hstale.fresh hdir.store.meeting_ne)
  | ok created =>
    obtain ⟨meeting, host⟩ := created
    cases routed with
    | true =>
      simp only [MeetingNode.setMeetingID, MeetingNode.setState, MeetingNode.send, modify_modify,
        if_true]
      exact h.created haccepted hopen hmeeting hcreate hashes
    | false =>
      obtain ⟨hid, hhost, hmt, hps, -⟩ := createMeeting_created hcreate
      have hstale := (h.of_none _).store_elsewhere hdir (hid ▸ helse)
      have hrolledBack := hstale.store_elsewhere
        (hdir.leaveMeeting meeting.id (n.sessions i).userID)
        (leaveMeeting_elsewhere s' meeting.id (n.sessions i).userID)
      exact hfails _ (hrolledBack.fresh (leaveMeeting_alone hmt hps))

/-- A change to the caller's meeting, of which the meeting is told. -/
theorem NodeOk.tell (h : NodeOk none clients n) (hm : m ≠ "") {s' : MemoryStore}
    (hs : DirectoryOk s') (he : Elsewhere n.store s' m) (hashes : String → HashFields) :
    NodeOk none clients ({ n with store := s' }.broadcastMeetingStateSync hashes m "") :=
  ((h.of_none m).store_elsewhere hs he).sync hashes hm (hs.not_empty m)

/-- A host who claims the meeting is shown as its host already. -/
theorem Shows.claim {s : MemoryStore} {v : MeetingView} (h : Shows none s u m v)
    (hd : DirectoryOk s) (hplain : m ≠ "" → Plain u) : Shows none s u m v.claim := by
  have hkeep : v.claim.userId = v.userId ∧ v.claim.inMeeting = v.inMeeting := by
    unfold MeetingView.claim
    split <;> exact ⟨rfl, rfl⟩
  refine ⟨fun hu => hkeep.1.trans (h.user hu), fun hm => hkeep.2.trans (h.out hm),
    fun hm => hkeep.2.trans (h.within hm), fun hm hne hu mt hmt => ?_⟩
  have he := h.exact hm hne hu mt hmt
  have huser := h.user (hplain hm).2
  rw [he.claim (hd.room hmt) (huser.symm ▸ hu)]
  exact he

theorem Shows.muteAll {s : MemoryStore} {v : MeetingView} (h : Shows none s u m v)
    (hd : DirectoryOk s) (hplain : m ≠ "" → Plain u) (mute : Bool) :
    Fits v (.meetMuteAllReq mute) ∧ Shows none s u m (v.take (.meetMuteAllReq mute)) := by
  refine ⟨trivial, ?_⟩
  rw [MeetingView.take]
  split
  · exact h.claim hd hplain
  · exact h

theorem NodeOk.handleJoin (h : NodeOk none clients n) (haccepted : n.Accepted i)
    (hopen : (n.sessions i).closed = false) (hmeeting : (n.sessions i).meetingID = "")
    (meetingID password : String) (reads : JoinReads) :
    NodeOk none clients (n.handleJoin i meetingID password reads) := by
  unfold MeetingNode.handleJoin
  split
  · exact h.reply fun v => ⟨nofun, rfl⟩
  dsimp only
  have hdir := h.store.joinMeeting meetingID password (n.sessions i).userID
  have helse := joinMeeting_elsewhere n.store meetingID password (n.sessions i).userID
  have hspec := (joinMeeting_spec h.store.store meetingID password (n.sessions i).userID).2
  have hjoined := @joinMeeting_joined n.store h.store.names meetingID password
    (n.sessions i).userID
  rcases hjoin : n.store.joinMeeting meetingID password (n.sessions i).userID with ⟨s', result⟩
  rw [hjoin] at hdir helse hspec hjoined
  cases result with
  | error e =>
    obtain rfl : s' = n.store := hspec
    exact h.reply fun v => ⟨nofun, rfl⟩
  | ok joined =>
    obtain ⟨meeting, participants, joined⟩ := joined
    obtain ⟨hid, hm, hmember⟩ := hspec
    have hjoined : joined.userId = (n.sessions i).userID := hjoined rfl
    have hplain : Plain (n.sessions i).userID :=
      hdir.plain (hdir.names.known meetingID _ ((hmember _ _).mpr (.inr ⟨rfl, rfl⟩)))
    have hstale := (h.of_none meetingID).store_elsewhere hdir helse
    have hin : NodeOk (some meetingID) clients ({ n with store := s' }.modify i fun c =>
        { c with meetingID, state := .inMeeting }.send (.meetJoinRsp true meetingID meeting.title
          (hydrateParticipants reads.joined participants))) := by
      refine hstale.modify send_userID ?_ ?_ fun _ _ _ _ hv => hv
      · have hsession := (h.session i).enter haccepted hopen hm hplain
        exact SessionOk.send (by exact hsession) _
      · have hfollow := h.follow i
        rw [hmeeting] at hfollow
        rw [send_meetingID]
        refine Follow.send (P := Shows none n.store (n.sessions i).userID "") hfollow
          fun _ v _ hv => ?_
        exact ⟨fun _ => (hv.user hplain.2).symm ▸ hplain, hv.user, fun heq => absurd heq hm,
          fun _ => rfl, fun _ hne => absurd rfl hne⟩
    have hannounced : NodeOk (some meetingID) clients (MeetingNode.broadcastToRoom _ meetingID
        (.meetParticipantJoin joined) (n.sessions i).userID) :=
      hin.announce hm fun v hv hne =>
        ⟨⟨hv, hjoined.symm ▸ hplain, fun heq => hne hplain.2 (heq.symm.trans hjoined)⟩, rfl, rfl⟩
    have hsynced := hannounced.sync reads.synced hm (hdir.not_empty meetingID)
    simp only [MeetingNode.setMeetingID, MeetingNode.setState, MeetingNode.send, modify_modify, hid]
    cases reads.muteAll with
    | false => exact hsynced
    | true => exact hsynced.send fun _ v _ hv => hv.muteAll hsynced.store (hsynced.session i).plain true

/-! ## Leaving -/

/-- A closed session is in no meeting any more. -/
theorem NodeOk.left_closed (h : NodeOk none clients n) (hclosed : (n.sessions i).closed = true) :
    NodeOk none clients (n.setMeetingID i "") ∧
      ((n.setMeetingID i "").sessions i).closed = true := by
  have hout : SessionOk n.manager (n.Accepted i) i { (n.sessions i).toSession with meetingID := "" } :=
    .of_closed hclosed fun hne => absurd rfl hne
  refine ⟨h.modify rfl hout (.of_closed hclosed) fun _ _ _ _ hv => hv, ?_⟩
  rw [MeetingNode.setMeetingID, modify_self]
  exact hclosed

/-- An open one is not either, once its client has been told. -/
theorem NodeOk.exit {stale : Option String} (h : NodeOk stale clients n) {msg : MeetingMessage}
    (hmsg : ∀ v, ViewOk v →
      Shows stale n.store (n.sessions i).userID (n.sessions i).meetingID v →
        Fits v msg ∧ v.take msg = v.reset) :
    NodeOk stale clients (((n.setMeetingID i "").setState i .authenticated).send i msg) := by
  have hold := h.session i
  have hout : SessionOk n.manager (n.Accepted i) i
      { (n.sessions i).toSession with meetingID := "", state := .authenticated } :=
    ⟨fun hne => absurd rfl hne, fun _ => by simp, fun _ => nofun,
      fun hopen haccepted => hold.room hopen (haccepted.imp_right fun hne => absurd rfl hne),
      hold.bound⟩
  rw [MeetingNode.setMeetingID, MeetingNode.setState, MeetingNode.send, modify_modify,
    modify_modify]
  refine h.modify send_userID (SessionOk.send (by exact hout) _) ?_ fun _ _ _ _ hv => hv
  rw [send_meetingID]
  refine Follow.send (P := Shows stale n.store (n.sessions i).userID (n.sessions i).meetingID)
    (h.follow i) fun _ v hok hv => ?_
  obtain ⟨hfits, htake⟩ := hmsg v hok hv
  rw [htake]
  exact ⟨hfits, hv.user, fun _ => rfl, fun hne => absurd rfl hne, fun hne => absurd rfl hne⟩

theorem NodeOk.leave (h : NodeOk none clients n) {reply : Bool}
    (hreply : (n.sessions i).closed = !reply) (reason : String) (hashes : String → HashFields) :
    NodeOk none clients (n.leave i reply reason hashes) ∧
      (reply = false → ((n.leave i reply reason hashes).sessions i).closed = true) := by
  unfold MeetingNode.leave
  dsimp only
  split
  case isTrue hnone =>
    cases reply with
    | false => exact ⟨h, fun _ => hreply⟩
    | true =>
      refine ⟨h.send fun _ v hok hv => ⟨trivial, ?_⟩, nofun⟩
      rw [show v.take (.meetLeaveRsp true) = v from hok.reset_eq (hv.out hnone)]
      exact hv
  case isFalse hm =>
    have hplain := (h.session i).plain hm
    have hdir := h.store.leaveMeeting (n.sessions i).meetingID (n.sessions i).userID
    have helse := leaveMeeting_elsewhere n.store (n.sessions i).meetingID (n.sessions i).userID
    have hspec := (leaveMeeting_spec h.store.store (n.sessions i).meetingID
      (n.sessions i).userID).2
    have hgone := @leaveMeeting_gone n.store (n.sessions i).meetingID (n.sessions i).userID
    rcases hleave : n.store.leaveMeeting (n.sessions i).meetingID (n.sessions i).userID with
      ⟨s', result⟩
    rw [hleave] at hdir helse hspec hgone
    cases result with
    | error e =>
      obtain rfl : s' = n.store := hspec.2 e rfl
      cases reply with
      | false => exact ⟨h, fun _ => hreply⟩
      | true => exact ⟨h.reply fun v => ⟨trivial, rfl⟩, nofun⟩
    | ok result =>
      have hnot : ¬ IsMember s' (n.sessions i).meetingID (n.sessions i).userID :=
        fun hu => ((hspec.1 _ _).mp hu).2 ⟨rfl, rfl⟩
      have hstale := (h.of_none _).store_elsewhere hdir helse
      have hleft := hstale.announceLeft hm hplain hnot (fun hzero => hgone rfl hzero) reason
        (n.sessions i).userID hashes
      have hself := announceLeft_self (n := { n with store := s' }) (i := i)
        (m := (n.sessions i).meetingID) rfl hplain.2 reason result hashes
      dsimp only at hleft ⊢
      generalize { n with store := s' }.announceLeft (n.sessions i).meetingID (n.sessions i).userID
        reason (n.sessions i).userID result hashes = left at hleft hself ⊢
      have hself : left.sessions i = n.sessions i := hself
      cases reply with
      | false =>
        have hclosed := hleft.left_closed (by rw [hself]; exact hreply)
        simp only [Bool.false_eq_true, and_false, if_false, forall_const]
        exact hclosed
      | true =>
        have hlive : ((left.setMeetingID i "").sessions i).state ≠ .disconnected := by
          rw [MeetingNode.setMeetingID, modify_self, hself]
          exact (h.session i).live hreply
        rw [if_pos rfl, if_pos ⟨hlive, rfl⟩]
        exact ⟨hleft.exit fun _ _ _ => ⟨trivial, rfl⟩, nofun⟩

theorem isMember_of_hasParticipant {s : MemoryStore} (h : s.hasParticipant m u = .ok true) :
    IsMember s m u := by
  unfold MemoryStore.hasParticipant at h
  cases hps : s.participants m with
  | none => simp [hps] at h
  | some ps =>
    rw [hps] at h
    simp only [Except.ok.injEq] at h
    rw [IsMember, MemoryStore.membersOf, hps]
    exact AList.lookup_isSome.mp h

/-- The target is told before the others are. -/
theorem NodeOk.kicked (h : NodeOk (some m) clients n) (hm : m ≠ "") (hu : Plain u) {k : Nat}
    (hk : n.manager.byUser u = some k) (hkm : (n.sessions k).meetingID = m) (reason : String) :
    NodeOk (some m) clients (((n.setMeetingID k "").setState k .authenticated).send k
      (.meetParticipantLeave u reason)) := by
  have hkuser := h.index u hu.2 k hk
  refine h.exit fun v _ hv => ?_
  have huser : u = v.userId := by
    rw [hv.user (hkuser.symm ▸ hu.2), hkuser]
  refine ⟨⟨hu, fun _ => hv.within (hkm.symm ▸ hm)⟩, ?_⟩
  rw [MeetingView.take, if_pos huser]

theorem NodeOk.handleKick (h : NodeOk none clients n) (targetUserID : String)
    (hashes : String → HashFields) : NodeOk none clients (n.handleKick i targetUserID hashes) := by
  have hfails : NodeOk none clients (n.send i (.meetKickRsp false)) :=
    h.reply fun v => ⟨trivial, rfl⟩
  unfold MeetingNode.handleKick
  dsimp only
  split
  · exact hfails
  rename_i hargs
  have hm : (n.sessions i).meetingID ≠ "" := fun heq => hargs (.inr (.inl heq))
  split
  · rename_i hhost htarget
    have hmember := isMember_of_hasParticipant htarget
    have hplain := h.store.plain (h.store.names.known _ _ hmember)
    have hdir := h.store.leaveMeeting (n.sessions i).meetingID targetUserID
    have helse := leaveMeeting_elsewhere n.store (n.sessions i).meetingID targetUserID
    have hspec := (leaveMeeting_spec h.store.store (n.sessions i).meetingID targetUserID).2
    have hgone := @leaveMeeting_gone n.store (n.sessions i).meetingID targetUserID
    rcases hleave : n.store.leaveMeeting (n.sessions i).meetingID targetUserID with ⟨s', result⟩
    rw [hleave] at hdir helse hspec hgone
    cases result with
    | error e =>
      obtain rfl : s' = n.store := hspec.2 e rfl
      exact hfails
    | ok result =>
      have hnot : ¬ IsMember s' (n.sessions i).meetingID targetUserID :=
        fun hu => ((hspec.1 _ _).mp hu).2 ⟨rfl, rfl⟩
      have hstale := (h.of_none _).store_elsewhere hdir helse
      dsimp only
      have hstore : ∀ n' : MeetingNode, n'.store = s' →
          NodeOk (some (n.sessions i).meetingID) clients n' →
          NodeOk none clients ((n'.announceLeft (n.sessions i).meetingID targetUserID
            "被主持人移出会议" "" result hashes).send i (.meetKickRsp true)) := by
        intro n' hs' h'
        refine (h'.announceLeft hm hplain (hs'.symm ▸ hnot) (fun hzero => ?_) _ _ _).reply
          fun v => ⟨trivial, rfl⟩
        rw [hs']
        exact hgone rfl hzero
      cases hk : n.manager.getByUser targetUserID with
      | none => exact hstore _ rfl hstale
      | some k =>
        dsimp only
        split
        case isFalse => exact hstore _ rfl hstale
        case isTrue hkm => exact hstore _ rfl (hstale.kicked hm hplain hk hkm _)
  · exact hfails

/-! ## Media -/

theorem NodeOk.handleMuteAll (h : NodeOk none clients n) (mute saved : Bool) :
    NodeOk none clients (n.handleMuteAll i mute saved) := by
  have hreply : ∀ (n' : MeetingNode) (success : Bool), NodeOk none clients n' →
      NodeOk none clients (n'.send i (.meetMuteAllRsp success)) :=
    fun n' success h' => h'.reply fun v => ⟨trivial, rfl⟩
  unfold MeetingNode.handleMuteAll
  dsimp only
  split
  · rename_i hhost
    have hm : (n.sessions i).meetingID ≠ "" := by
      intro heq
      simp [MemoryStore.isMeetingHost, heq, h.store.store.meeting_ne] at hhost
    split
    · refine hreply _ true (h.broadcast hm (fun j hmj _ v _ hv => ?_) fun _ _ _ _ hv => hv)
      exact hv.muteAll h.store (fun hne => (h.session j).plain (hmj ▸ hne)) mute
    · exact hreply n false h
  · exact hreply n false h

theorem NodeOk.handleMuteToggle (h : NodeOk none clients n) (mediaType : Int32) (muted : Bool)
    (hashes : String → HashFields) :
    NodeOk none clients (n.handleMuteToggle i mediaType muted hashes) := by
  unfold MeetingNode.handleMuteToggle
  dsimp only
  split
  · exact h
  · rename_i hargs
    exact h.tell (fun heq => hargs (.inl heq))
      (h.store.updateParticipant _ _ (setMediaMuted_role mediaType muted)
        (setMediaMuted_userId mediaType muted)) (updateParticipant_elsewhere _ _ _ _) hashes

theorem NodeOk.handleScreenShare (h : NodeOk none clients n) (sharing : Bool)
    (hashes : String → HashFields) :
    NodeOk none clients (n.handleScreenShare i sharing hashes) := by
  unfold MeetingNode.handleScreenShare
  dsimp only
  split
  · exact h
  · rename_i hargs
    exact h.tell (fun heq => hargs (.inl heq))
      (h.store.updateParticipant (f := setSharing sharing) _ _ (fun _ => rfl) fun _ => rfl)
      (updateParticipant_elsewhere _ _ _ _) hashes

theorem NodeOk.handleOffer (h : NodeOk none clients n) (meetingID : String)
    (answer : Option (UInt32 × UInt32)) (hashes : String → HashFields) :
    NodeOk none clients (n.handleOffer i meetingID answer hashes) := by
  unfold MeetingNode.handleOffer
  dsimp only
  split
  · exact h
  rename_i hargs
  have hm : meetingID ≠ "" := by
    intro heq
    exact hargs (.inr (.inr fun hmeeting => hargs (.inl (hmeeting ▸ heq))))
  cases answer with
  | none => exact h
  | some ssrcs =>
    obtain ⟨audioSsrc, videoSsrc⟩ := ssrcs
    have hanswer : NodeOk none clients
        (n.send i (.mediaAnswer meetingID audioSsrc videoSsrc)) :=
      h.reply fun v => ⟨trivial, rfl⟩
    dsimp only
    split
    · exact hanswer.tell hm h.store (.refl _ _) hashes
    · exact hanswer.tell hm
        (h.store.updateParticipant _ _ (setMediaSsrc_role audioSsrc videoSsrc)
          (setMediaSsrc_userId audioSsrc videoSsrc)) (updateParticipant_elsewhere _ _ _ _) hashes

/-! ## The router and the connections -/

/-- The session of a request is open, and has its meeting exactly in the state for it. -/
theorem NodeOk.handle (h : NodeOk none clients n) (haccepted : n.Accepted i)
    (hopen : (n.sessions i).closed = false) {req : MeetingNode.Request}
    (hstate : MeetingNode.isStateAllowed (n.sessions i).state req = true)
    (hown : ∀ u, req = .login (some u) →
      (n.sessions i).userID = "" ∨ (n.sessions i).userID = u) :
    NodeOk none clients (n.handle i req) := by
  have hout : (n.sessions i).state ≠ .inMeeting → (n.sessions i).meetingID = "" := by
    intro hne
    by_contra hm
    exact hne (((h.session i).state hopen).mpr hm)
  cases req with
  | login user =>
    have hmeeting := hout fun heq => by simp [MeetingNode.isStateAllowed, heq] at hstate
    exact h.handleLogin haccepted hopen hmeeting fun u hu => hown u (by rw [hu])
  | logout =>
    exact h.close (f := Conn.close) (Session.close_closed _) (Session.close_userID _)
      (Session.close_meetingID _)
  | create title password maxParticipants r now routed hashes =>
    have hmeeting := hout fun heq => by simp [MeetingNode.isStateAllowed, heq] at hstate
    exact h.handleCreate haccepted hopen hmeeting title password maxParticipants r now routed hashes
  | join meetingID password reads =>
    have hmeeting := hout fun heq => by simp [MeetingNode.isStateAllowed, heq] at hstate
    exact h.handleJoin haccepted hopen hmeeting meetingID password reads
  | leave hashes => exact (h.leave hopen "主动离开" hashes).1
  | kick targetUserID hashes => exact h.handleKick targetUserID hashes
  | muteAll mute saved => exact h.handleMuteAll mute saved
  | muteToggle mediaType muted hashes => exact h.handleMuteToggle mediaType muted hashes
  | screenShare sharing hashes => exact h.handleScreenShare sharing hashes
  | offer meetingID answer hashes => exact h.handleOffer meetingID answer hashes

theorem NodeOk.handleMessage (h : NodeOk none clients n) {req : MeetingNode.Request}
    (hown : ∀ u, req = .login (some u) →
      (n.sessions i).userID = "" ∨ (n.sessions i).userID = u) :
    NodeOk none clients (n.handleMessage i req) := by
  unfold MeetingNode.handleMessage
  split
  case isFalse => exact h
  case isTrue hopen =>
    split
    case isTrue hstate => exact h.handle hopen.1 hopen.2 hstate hown
    case isFalse => exact h.kick i

theorem NodeOk.remove (h : NodeOk none clients n) (hclosed : (n.sessions i).closed = true)
    (u : String) : NodeOk none clients { n with manager := n.manager.remove i u } where
  store := h.store
  index v hv k hk := h.index v hv k (Signaling.byUser_of_remove hk).1
  session j := by
    have hold := h.session j
    by_cases hj : j = i
    · subst hj
      exact .of_closed hclosed hold.plain
    · exact ⟨hold.plain, hold.state, hold.live,
        fun hopen haccepted => (Signaling.sessions_remove _ u hj).trans (hold.room hopen haccepted),
        fun hopen hu => Signaling.byUser_remove (hold.bound hopen hu) hj⟩
  follow := h.follow

theorem NodeOk.onSessionClosed (h : NodeOk none clients n) (i : Nat) (reason : String)
    (hashes : String → HashFields) : NodeOk none clients (n.onSessionClosed i reason hashes) := by
  unfold MeetingNode.onSessionClosed
  split
  case isFalse => exact h
  case isTrue hclosed =>
    have hreply : (n.sessions i).closed = !false := hclosed.1
    obtain ⟨hleft, hstays⟩ := h.leave hreply reason hashes
    exact hleft.remove (hstays rfl) _

theorem NodeOk.accept (h : NodeOk none clients n) : NodeOk none clients n.accept where
  store := h.store
  index := h.index
  session j := by
    have hold := h.session j
    refine ⟨hold.plain, hold.state, hold.live, fun hopen haccepted => ?_, hold.bound⟩
    show Function.update n.manager.sessions (n.nextID + 1) true j = true
    by_cases hj : j = n.nextID + 1
    · rw [hj, Function.update_self]
    · rw [Function.update_of_ne hj]
      refine hold.room hopen (haccepted.imp_left fun hacc => ?_)
      obtain ⟨hpos, hle⟩ := hacc
      have hle : j ≤ n.nextID + 1 := hle
      exact ⟨hpos, by omega⟩
  follow := h.follow

end Handlers

/-! ## The node and its clients -/

def ConferenceOk (s : Conference) : Prop := NodeOk none s.clients s.node

/-- Nobody logs in on a session that has been another user's. -/
def LoginsOnce (s : Conference) : ConferenceOp → Prop
  | .request i (.login (some userID)) =>
    (s.node.sessions i).userID = "" ∨ (s.node.sessions i).userID = userID
  | _ => True

instance (s : Conference) (op : ConferenceOp) : Decidable (LoginsOnce s op) := by
  cases op with
  | request i req =>
    cases req with
    | login user =>
      cases user with
      | none => exact .isTrue trivial
      | some userID => exact inferInstanceAs (Decidable (_ ∨ _))
    | _ => exact .isTrue trivial
  | _ => exact .isTrue trivial

theorem conference_new (hash : String → String) (writeQueueSize : Nat)
    (accounts : Nat → Account) (startVideoMuted : Bool) :
    ConferenceOk (.new hash writeQueueSize accounts startVideoMuted) where
  store := newMemoryStore_directoryOk hash
  index _ _ _ hk := nomatch hk
  session i := by
    refine ⟨fun hne => absurd rfl hne, fun _ => ⟨nofun, fun hne => absurd rfl hne⟩, fun _ => nofun,
      fun _ haccepted => ?_, fun _ hne => absurd rfl hne⟩
    rcases haccepted with ⟨hpos, hle⟩ | hne
    · have hle : i ≤ 0 := hle
      omega
    · exact absurd rfl hne
  follow i := by
    refine fun _ _ => .start (.of_out rfl ⟨rfl, rfl, rfl, rfl⟩) ?_
    exact ⟨fun hne => absurd rfl hne, fun _ => rfl, fun hne => absurd rfl hne,
      fun hne => absurd rfl hne⟩

variable {s : Conference}

/-- The next message is read. -/
theorem ConferenceOk.read (h : ConferenceOk s) {i : Nat} (hconn : (s.clients i).connected = true) :
    ConferenceOk (s.read i) := by
  unfold Conference.read
  split
  case h_1 => exact h
  case h_2 msg rest hinbox =>
    have hfollow : Follow { s.node.sessions i with inbox := rest }
        ((s.clients i).handlePayload msg)
        (Shows none s.node.store (s.node.sessions i).userID (s.node.sessions i).meetingID) := by
      intro hopen _
      have hold := h.follow i hopen hconn
      rw [hinbox] at hold
      have hview := viewOf_handlePayload hold.ok hold.fits.1
      rw [hview]
      exact hold.read fun _ _ hfits hok => hok.take hfits
    refine ⟨h.store, fun u hu k hk => ?_, fun j => ?_, fun j => ?_⟩
    · by_cases hki : k = i
      · subst hki
        rw [modify_self]
        exact h.index u hu k hk
      · rw [modify_of_ne _ hki]
        exact h.index u hu k hk
    · by_cases hj : j = i
      · subst hj
        rw [modify_self]
        exact h.session j
      · rw [modify_of_ne _ hj]
        exact h.session j
    · dsimp only
      by_cases hj : j = i
      · subst hj
        rw [modify_self, Function.update_self]
        exact hfollow
      · rw [modify_of_ne _ hj, Function.update_of_ne hj]
        exact h.follow j

/-- The local user acts. -/
theorem ConferenceOk.act (h : ConferenceOk s) (i : Nat) (a : MeetingAct) :
    ConferenceOk { s with clients := Function.update s.clients i ((s.clients i).act a) } where
  store := h.store
  index := h.index
  session := h.session
  follow j := by
    dsimp only
    by_cases hj : j = i
    · subst hj
      rw [Function.update_self]
      intro hopen hconn
      have hold := h.follow j hopen (connected_act hconn)
      refine hold.act (fun _ _ hsim hok => hsim.ok hok) (fun _ _ hfits hok => hok.take hfits)
        (fun _ _ _ _ hsim hfits => hsim.fits hfits) (fun _ _ _ hok hsim hfits => hsim.take hok hfits)
        (fun v w _ hsim hv => ?_) (viewOf_act hold.ok hconn)
      rcases hsim with rfl | rfl
      · exact hv
      · exact hv.claim h.store (h.session j).plain
    · rw [Function.update_of_ne hj]
      exact h.follow j

theorem conference_step {writeQueueSize : Nat} {op : ConferenceOp} (hop : LoginsOnce s op)
    (h : ConferenceOk s) : ConferenceOk (s.step writeQueueSize op) := by
  cases op with
  | accept => exact NodeOk.accept h
  | request i req =>
    refine NodeOk.handleMessage h fun u hu => ?_
    subst hu
    exact hop
  | close i =>
    unfold Conference.step
    dsimp only
    split
    · exact NodeOk.close h (f := Conn.close) (Session.close_closed _) (Session.close_userID _)
        (Session.close_meetingID _)
    · exact h
  | closed i reason hashes => exact NodeOk.onSessionClosed h i reason hashes
  | written i =>
    exact NodeOk.modify h (i := i) (f := fun c => { c with free := min writeQueueSize (c.free + 1) })
      rfl (h.session i) (h.follow i) fun _ _ _ _ hv => hv
  | read i =>
    unfold Conference.step
    dsimp only
    split
    case isTrue hconn => exact h.read hconn
    case isFalse => exact h
  | act i a => exact h.act i a

/-- The client shows the meeting with these participants, in whatever order. -/
structure ShowsMeeting (c : MeetingController) (meeting : Meeting)
    (participants : List Participant) : Prop where
  meetingId : c.meetingId = meeting.id
  currentMeetingHost : c.currentMeetingHost = true ↔ meeting.hostUserID = c.userId
  hostUserId : c.participantModel.hostUserId = meeting.hostUserID
  items : (c.participantModel.items.map fun item => (item.userId, item.role)).Perm
    (participants.map fun p => (p.userId, p.role))

/-- A client that is connected and has read everything is in the meeting of its session, or in
none as its session is. If its user is in that meeting, it shows it as it is. -/
theorem shown_run {hash : String → String} {writeQueueSize : Nat} {accounts : Nat → Account}
    {startVideoMuted : Bool} {ops : List ConferenceOp}
    (hops : Along (Conference.step writeQueueSize) LoginsOnce
      (.new hash writeQueueSize accounts startVideoMuted) ops)
    (hs : run (Conference.step writeQueueSize) (.new hash writeQueueSize accounts startVideoMuted)
      ops = s) {i : Nat} (hopen : (s.node.sessions i).closed = false)
    (hconn : (s.clients i).connected = true) (hread : (s.node.sessions i).inbox = []) :
    ((s.node.sessions i).meetingID = "" → (s.clients i).inMeeting = false ∧
        (s.clients i).meetingId = "" ∧ (s.clients i).participantModel.items = []) ∧
      ((s.node.sessions i).meetingID ≠ "" → (s.clients i).inMeeting = true ∧
        (s.clients i).userId = (s.node.sessions i).userID ∧
        ∀ meeting participants,
          s.node.store.snapshotMeeting (s.node.sessions i).meetingID = .ok (meeting, participants) →
          (s.node.sessions i).userID ∈ participants.map (·.userId) →
            ShowsMeeting (s.clients i) meeting participants) := by
  have h : ConferenceOk s := hs ▸ hops.inv (fun _ _ hop h => conference_step hop h)
    (conference_new hash writeQueueSize accounts startVideoMuted)
  have hfollow := h.follow i hopen hconn
  rw [hread] at hfollow
  have hv := hfollow.of_read
  constructor
  · intro hm
    have hin := hv.out hm
    obtain ⟨hid, -, hlisted, -⟩ := hfollow.ok.out hin
    exact ⟨hin, hid, List.map_eq_nil_iff.mp hlisted⟩
  · intro hm
    have huser := hv.user ((h.session i).plain hm).2
    refine ⟨hv.within hm, huser, fun meeting participants hsnap hmem => ?_⟩
    unfold MemoryStore.snapshotMeeting at hsnap
    cases hmt : s.node.store.meetings (s.node.sessions i).meetingID with
    | none => simp [hmt] at hsnap
    | some mt =>
      obtain ⟨ps, -, hps, -, hmembers, -⟩ := h.store.store.rep.live hmt
      simp only [hmt, hps, Except.ok.injEq, Prod.mk.injEq] at hsnap
      obtain ⟨rfl, rfl⟩ := hsnap
      have hroom := hmembers ▸ h.store.room hmt
      have hmember : (s.node.sessions i).userID ∈ ps := by
        obtain ⟨p, hp, hpu⟩ := List.mem_map.mp hmem
        obtain ⟨e, he, rfl⟩ := List.mem_map.mp hp
        have hlookup := mem_entries.mp he
        rw [← hpu, hroom.member _ _ hlookup]
        exact mem_of_lookup hlookup
      have hexact := hv.exact hm nofun (by rw [IsMember, hmembers]; exact hmember) mt hmt
      rw [hmembers] at hexact
      exact ⟨hexact.meetingId, hexact.host, hexact.hostUserId, .of_eq hexact.listed⟩

theorem zero_lt_draws : 0 < 9000 := by decide

/-- A host and a guest, who mutes the microphone before the state of the meeting is read. -/
def twoClients : List ConferenceOp :=
  let login i u : List ConferenceOp := [.accept, .request i (.login (some u)), .read i]
  login 1 "u1001" ++
    [.request 1 (.create "Daily" "" 0 ⟨0, zero_lt_draws⟩ 0 true fun _ => []), .read 1, .read 1] ++
    login 2 "u1002" ++
    [.request 2 (.join "101001" "" { joined := fun _ => [], synced := fun _ => [], muteAll := true }),
      .read 2, .act 2 .toggleAudio, .read 2, .read 2, .read 1, .read 1]

/-- The node and its clients after that. -/
def afterTwoClients : Conference :=
  run (Conference.step 8) (.new id 8 (fun _ => ⟨"", "", ""⟩) false) twoClients

theorem shown_twoClients :
    (afterTwoClients.clients 2).inMeeting = true ∧ (afterTwoClients.clients 2).userId = "u1002" ∧
      ∀ meeting participants,
        afterTwoClients.node.store.snapshotMeeting "101001" = .ok (meeting, participants) →
          "u1002" ∈ participants.map (·.userId) →
            ShowsMeeting (afterTwoClients.clients 2) meeting participants := by
  have hsession : (afterTwoClients.node.sessions 2).toSession =
      ⟨"u1002", "101001", .inMeeting, false⟩ ∧ (afterTwoClients.clients 2).connected = true ∧
        (afterTwoClients.node.sessions 2).inbox = [] := by decide +kernel
  obtain ⟨hsession, hconn, hread⟩ := hsession
  have hops : Along (Conference.step 8) LoginsOnce (.new id 8 (fun _ => ⟨"", "", ""⟩) false)
      twoClients := by decide +kernel
  have hopen : (afterTwoClients.node.sessions 2).closed = false := congrArg Session.closed hsession
  have hshown := (shown_run (s := afterTwoClients) (i := 2) hops rfl hopen hconn hread).2
  rw [hsession] at hshown
  exact hshown (by decide)

end MeetingSystem.Proof.Client
