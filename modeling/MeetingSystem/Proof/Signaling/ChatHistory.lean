import MeetingSystem.Impl.Signaling.Chat
import MeetingSystem.Proof.Store.Membership
import MeetingSystem.Proof.Store.Users

/-!
# The chat history

`Trace` keeps beside the server what was notified in each meeting since it was
created, and `HistoryAgrees` compares the history with it. The two part where
a number is given to a new meeting while the repository still has messages of
an older one under it, and where the text of a reply-to id is not that of a
number (`Fits` excludes both).

* `parseNumericID_formatUint`, `parseNumericID_user`: ids and row numbers;
* `ChatOk`: the rows under a live meeting's number are the messages notified
  in it, kept by every step that fits (`chatOk_step`);
* `history_agrees`: so the history agrees after every such run;
* `reused_number`: a run whose history does not.
-/

namespace MeetingSystem.Proof.Signaling

open MeetingSystem.Framework MeetingSystem.Impl.Store MeetingSystem.Impl.Signaling
open MeetingSystem.Proof.Store

/-! ## Ids -/

theorem isSpace_of_isDigit {c : Char} (h : c.isDigit = true) : isSpace c = false := by
  simp only [Char.isDigit, Bool.and_eq_true, decide_eq_true_eq, ge_iff_le, UInt32.le_iff_toNat_le]
    at h
  have h48 : 48 ≤ c.toNat := h.1
  have h57 : c.toNat ≤ 57 := h.2
  simp only [isSpace, Bool.or_eq_false_iff, Bool.and_eq_false_iff, decide_eq_false_iff_not]
  omega

/-- A text without white space is not changed. -/
theorem trimSpace_eq_self {s : String} (h : ∀ c ∈ s.toList, isSpace c = false) :
    trimSpace s = s := by
  have hdrop : ∀ l : List Char, (∀ c ∈ l, isSpace c = false) → l.dropWhile isSpace = l := by
    intro l hl
    cases l with
    | nil => rfl
    | cons c l => rw [List.dropWhile_cons_of_neg (by simp [hl c (by simp)])]
  rw [trimSpace, hdrop _ h, hdrop _ (by simpa using h), List.reverse_reverse,
    String.ofList_toList]

theorem isDigit_of_mem_formatUint {n : UInt64} {c : Char} (h : c ∈ (formatUint n).toList) :
    c.isDigit = true := by
  rw [formatUint, Nat.toString_eq_ofList_toDigits, String.toList_ofList] at h
  exact Nat.isDigit_of_mem_toDigits (by decide) (by decide) h

@[simp] theorem trimSpace_formatUint (n : UInt64) : trimSpace (formatUint n) = formatUint n :=
  trimSpace_eq_self fun _ hc => isSpace_of_isDigit (isDigit_of_mem_formatUint hc)

theorem userIDFromUint64_eq (n : UInt64) : userIDFromUint64 n = "u" ++ formatUint n := rfl

@[simp] theorem trimSpace_user (n : UInt64) :
    trimSpace (userIDFromUint64 n) = userIDFromUint64 n := by
  apply trimSpace_eq_self
  intro c hc
  rw [userIDFromUint64_eq, String.toList_append, List.mem_append] at hc
  rcases hc with hc | hc
  · obtain rfl : c = 'u' := by simpa using hc
    decide
  · exact isSpace_of_isDigit (isDigit_of_mem_formatUint hc)

theorem parseNumericID_formatUint {n : UInt64} (h : 0 < n) :
    parseNumericID (formatUint n) = some n := by
  obtain ⟨c, l, hl, hc⟩ := natBytes_eq_cons n.toNat
  have hu : c ≠ 117 := by
    intro he
    rw [he] at hc
    exact absurd hc (by decide)
  have hU : c ≠ 85 := by
    intro he
    rw [he] at hc
    exact absurd hc (by decide)
  have hparse := parseUint64_natBytes n
  have hbytes : utf8 (trimSpace (formatUint n)) = c :: l := by
    rw [trimSpace_formatUint, formatUint, utf8_toString, hl]
  rw [hl] at hparse
  have hdigits : ¬(l ≠ [] ∧ (c = 117 ∨ c = 85)) := fun hprefix => hprefix.2.elim hu hU
  delta parseNumericID
  dsimp only
  rw [hbytes]
  dsimp only
  rw [if_neg hdigits, hparse]
  exact if_pos h

theorem parseNumericID_user {n : UInt64} (h : 0 < n) :
    parseNumericID (userIDFromUint64 n) = some n := by
  have hbytes : utf8 (trimSpace (userIDFromUint64 n)) = 117 :: natBytes n.toNat := by
    rw [trimSpace_user, utf8_userIDFromUint64]
  delta parseNumericID
  dsimp only
  rw [hbytes]
  dsimp only
  rw [if_pos ⟨natBytes_ne_nil _, .inl rfl⟩, parseUint64_natBytes]
  exact if_pos h

theorem formatUserID_eq {n : UInt64} (h : 0 < n) : formatUserID n = userIDFromUint64 n := by
  rw [formatUserID, if_neg]
  · rfl
  · intro he
    rw [he] at h
    exact absurd h (by decide)

/-- The ids the server gives to meetings. -/
def IsNumber (m : String) : Prop := ∃ n : UInt64, 0 < n ∧ m = formatUint n

theorem isNumber_generateMeetingID (s : MemoryStore) (r : Fin 9000) :
    IsNumber (s.generateMeetingIDLocked r).2 := by
  have hr := r.isLt
  have hlt : 101000 + (s.meetingSeq + 1).toNat % 10000 + r.val < 2 ^ 64 := by omega
  rw [generateMeetingIDLocked_eq]
  refine ⟨(101000 + (s.meetingSeq + 1).toNat % 10000 + r.val).toUInt64, ?_, ?_⟩
  · rw [UInt64.lt_iff_toNat_lt, Nat.toUInt64_eq, UInt64.toNat_ofNat', Nat.mod_eq_of_lt hlt]
    show 0 < _
    omega
  · rw [formatUint, Nat.toUInt64_eq, UInt64.toNat_ofNat', Nat.mod_eq_of_lt hlt]

theorem IsNumber.ne_empty {m : String} (h : IsNumber m) : m ≠ "" := by
  obtain ⟨n, -, rfl⟩ := h
  intro he
  have hb : natBytes n.toNat = [] := by
    rw [← utf8_toString]
    exact congrArg utf8 he
  exact natBytes_ne_nil _ hb

theorem IsNumber.trimSpace {m : String} (h : IsNumber m) : trimSpace m = m := by
  obtain ⟨n, -, rfl⟩ := h
  exact trimSpace_formatUint n

/-! ## What was sent -/

/-- What a message is known by: its id, sender, type, content and reply-to id. -/
structure MessageKey where
  messageId : String
  senderId : String
  type : Int32
  content : String
  replyToId : String
  deriving DecidableEq

def messageKey (n : ChatRecvNotify) : MessageKey :=
  { messageId := n.messageId, senderId := n.senderId, type := n.type, content := n.content,
    replyToId := n.replyToId }

/-- A notification, with the time stored with its message. -/
structure Sent where
  notify : ChatRecvNotify
  storedAt : Int

/-- The server, and what was notified in each meeting since it was created. -/
structure Trace where
  server : ChatServer
  sent : String → List Sent

def opTime : ChatOp → Int
  | .create _ _ _ _ _ now _ => now
  | .send _ _ now _ => now
  | .join _ _ _ => 0
  | .leave _ => 0

def Trace.step (t : Trace) (o : ChatOp) : Trace :=
  match t.server.stepEvent o with
  | (server, .none) => { t with server }
  | (server, .created m) => { server, sent := Function.update t.sent m [] }
  | (server, .notified m notify) =>
    { server
      sent := Function.update t.sent m (t.sent m ++
        [{ notify, storedAt := t.server.messageRepo.backing.storedTime (opTime o) }]) }

/-- The messages a request's cursor asks for. -/
def eligible (beforeTimestampMs : Int) (log : List Sent) : List Sent :=
  if beforeTimestampMs > 0
    then log.filter fun e => e.storedAt < beforeTimestampMs * 1000000
    else log

/-- A history request of a session in the live meeting `m` is answered with
messages notified in `m` since it was created, each once, as many as the limit
allows; from the in-memory repository with the last of them. -/
def HistoryAgrees (t : Trace) : Prop :=
  ∀ i req, t.server.store.meetings (t.server.sessions i).meetingID ≠ none →
    (trimSpace req.meetingId = "" ∨ trimSpace req.meetingId = (t.server.sessions i).meetingID) →
    let log := eligible req.beforeTimestamp (t.sent (t.server.sessions i).meetingID)
    let limit := (ChatServer.historyLimit req).toNat
    ∃ messages rest, t.server.handleHistory i req true = .ok messages ∧
      (messages.map messageKey ++ rest).Perm (log.map fun e => messageKey e.notify) ∧
      messages.length = min limit log.length ∧
      (t.server.messageRepo.backing = .memory →
        messages.map messageKey = (log.drop (log.length - limit)).map fun e => messageKey e.notify)

/-- The text of a reply-to id that is read back from its row. -/
def replyText (replyToId : String) : String :=
  match parseNumericID replyToId with
  | some n => formatUint n
  | none => ""

/-- The repository has no message under the number `m`. -/
def NoMessages (repo : MessageRepo) (m : String) : Prop :=
  ∀ n, parseNumericID m = some n → repo.storage n = []

theorem noMessages_iff (repo : MessageRepo) (m : String) :
    (parseNumericID m).all (fun n => (repo.storage n).isEmpty) = true ↔ NoMessages repo m := by
  rw [NoMessages]
  cases parseNumericID m with
  | none => simp
  | some n => simp

instance (repo : MessageRepo) (m : String) : Decidable (NoMessages repo m) :=
  decidable_of_iff _ (noMessages_iff repo m)

/-- A meeting is created under a number without messages, and a reply-to id is
empty or the decimal text of a positive 64-bit number. -/
def Fits (t : Trace) : ChatOp → Prop
  | .create _ _ _ _ r _ routed =>
    routed = true → NoMessages t.server.messageRepo (t.server.store.generateMeetingIDLocked r).2
  | .send _ req _ _ => replyText req.replyToId = req.replyToId
  | .join _ _ _ => True
  | .leave _ => True

instance (t : Trace) : (o : ChatOp) → Decidable (Fits t o)
  | .create _ _ _ _ _ _ _ => inferInstanceAs (Decidable (_ → _))
  | .send _ _ _ _ => inferInstanceAs (Decidable (_ = _))
  | .join _ _ _ => .isTrue trivial
  | .leave _ => .isTrue trivial

/-! ## The rows of a meeting -/

def rowKey (row : MessageRow) : MessageKey :=
  { messageId := formatUint row.id, senderId := formatUserID row.senderID
    type := Int32.ofInt row.type, content := row.content
    replyToId := match row.replyToID with
      | some replyTo => formatUint replyTo
      | none => "" }

/-- The rows are the messages of the log, in order. -/
def RowsAgree (rows : List MessageRow) (log : List Sent) : Prop :=
  rows.map (fun row => (rowKey row, row.createdAt)) =
    log.map fun e => (messageKey e.notify, e.storedAt)

theorem RowsAgree.append {rows : List MessageRow} {log : List Sent} (h : RowsAgree rows log)
    {row : MessageRow} {e : Sent} (hkey : rowKey row = messageKey e.notify)
    (htime : row.createdAt = e.storedAt) : RowsAgree (rows ++ [row]) (log ++ [e]) := by
  unfold RowsAgree at h ⊢
  rw [List.map_append, List.map_append, h]
  simp [hkey, htime]

theorem RowsAgree.before {rows : List MessageRow} {log : List Sent} (h : RowsAgree rows log)
    (b : Int) : RowsAgree (MessageRepo.before b rows) (eligible b log) := by
  unfold RowsAgree MessageRepo.before eligible at *
  split
  · have hrows := congrArg (List.filter fun x : MessageKey × Int => decide (x.2 < b * 1000000)) h
    rw [List.filter_map, List.filter_map] at hrows
    exact hrows
  · exact h

theorem RowsAgree.keys {rows : List MessageRow} {log : List Sent} (h : RowsAgree rows log) :
    rows.map rowKey = log.map fun e => messageKey e.notify := by
  have hfst := congrArg (List.map Prod.fst) h
  rw [List.map_map, List.map_map] at hfst
  exact hfst

theorem RowsAgree.length_eq {rows : List MessageRow} {log : List Sent} (h : RowsAgree rows log) :
    rows.length = log.length := by
  have hlen := congrArg List.length h
  rw [List.length_map, List.length_map] at hlen
  exact hlen

/-! ## Reading -/

/-- What `listByMeeting` returns, from either kind of repository. -/
theorem listByMeeting_spec (r : MessageRepo) {n : UInt64} (hn : n ≠ 0) {limit : Int}
    (hlimit : 0 < limit) (b : Int) :
    ∃ out rest, r.listByMeeting n limit b true = some out ∧
      (out ++ rest).Perm (MessageRepo.before b (r.storage n)) ∧
      out.length = min limit.toNat (MessageRepo.before b (r.storage n)).length ∧
      (r.backing = .memory →
        out = (MessageRepo.before b (r.storage n)).drop
          ((MessageRepo.before b (r.storage n)).length - limit.toNat)) := by
  unfold MessageRepo.listByMeeting
  rw [if_neg hn, if_neg (by omega)]
  generalize MessageRepo.before b (r.storage n) = rows
  cases hb : r.backing with
  | memory =>
    refine ⟨_, rows.take (rows.length - limit.toNat), rfl, ?_, ?_, fun _ => rfl⟩
    · exact List.perm_append_comm.trans (List.Perm.of_eq (List.take_append_drop _ _))
    · rw [List.length_drop]
      omega
  | database keep =>
    have hsort := List.mergeSort_perm rows fun a b => MessageRepo.notAfter b a
    refine ⟨_, (rows.mergeSort fun a b => MessageRepo.notAfter b a).drop limit.toNat, rfl, ?_, ?_,
      fun h => by cases h⟩
    · refine ((List.mergeSort_perm _ _).append_right _).trans ?_
      rw [List.take_append_drop]
      exact hsort
    · rw [(List.mergeSort_perm _ _).length_eq, List.length_take, hsort.length_eq]

theorem historyLimit_pos (req : ChatHistoryReq) : 0 < ChatServer.historyLimit req := by
  unfold ChatServer.historyLimit
  split
  · decide
  · omega

/-! ## The invariant -/

/-- A session in a meeting has a number for its meeting and a known user. -/
def SessionOk (userByID : String → Option User) (x : Session) : Prop :=
  x.meetingID = "" ∨ (IsNumber x.meetingID ∧ userByID x.userID ≠ none)

structure ChatOk (t : Trace) : Prop where
  store : StoreOk t.server.store
  user : ∀ u, t.server.store.userByID u ≠ none → ∃ n : UInt64, 0 < n ∧ u = userIDFromUint64 n
  member : ∀ m u, IsMember t.server.store m u → IsNumber m ∧ t.server.store.userByID u ≠ none
  session : ∀ i, SessionOk t.server.store.userByID (t.server.sessions i)
  rows : ∀ m u, IsMember t.server.store m u → ∀ n, parseNumericID m = some n →
    RowsAgree (t.server.messageRepo.storage n) (t.sent m)

/-- The history of a live meeting, from the invariant. -/
theorem ChatOk.historyAgrees {t : Trace} (h : ChatOk t) : HistoryAgrees t := by
  intro i req hlive hreq log limit
  obtain ⟨u, hu⟩ := (h.store.live_iff _).mp hlive
  obtain ⟨n, hn, hm⟩ := (h.member _ u hu).1
  have hnumber : IsNumber (t.server.sessions i).meetingID := ⟨n, hn, hm⟩
  have hparse : parseNumericID (t.server.sessions i).meetingID = some n := by
    rw [hm]
    exact parseNumericID_formatUint hn
  have hn0 : n ≠ 0 := by
    intro he
    rw [he] at hn
    exact absurd hn (by decide)
  have hrows := (h.rows _ u hu n hparse).before req.beforeTimestamp
  obtain ⟨out, rest, hlist, hperm, hlen, hmem⟩ := listByMeeting_spec t.server.messageRepo hn0
    (historyLimit_pos req) req.beforeTimestamp
  have hkeys : (out.map t.server.notifyOfRow).map messageKey = out.map rowKey := by
    rw [List.map_map]
    rfl
  refine ⟨out.map t.server.notifyOfRow, rest.map rowKey, ?_, ?_, ?_, ?_⟩
  · have hid : (if trimSpace req.meetingId = "" then (t.server.sessions i).meetingID
        else trimSpace req.meetingId) = (t.server.sessions i).meetingID := by
      split
      · rfl
      · rename_i hne
        exact hreq.resolve_left hne
    have hmatch : ¬((t.server.sessions i).meetingID = "" ∨
        (t.server.sessions i).meetingID ≠ (t.server.sessions i).meetingID) :=
      not_or.mpr ⟨hnumber.ne_empty, not_not_intro rfl⟩
    have hmessages : t.server.listMessages (t.server.sessions i).meetingID
        (ChatServer.historyLimit req) req.beforeTimestamp true =
          some (out.map t.server.notifyOfRow) := by
      delta ChatServer.listMessages
      rw [hparse]
      dsimp only
      rw [hlist]
      rfl
    unfold ChatServer.handleHistory
    dsimp only
    rw [hnumber.trimSpace, hid, if_neg hmatch, hmessages]
  · rw [hkeys, ← List.map_append, ← hrows.keys]
    exact hperm.map _
  · rw [List.length_map, hlen, hrows.length_eq]
  · intro hbacking
    rw [hkeys, hmem hbacking, List.map_drop, List.map_drop, hrows.keys, hrows.length_eq]

/-! ## Steps that send nothing -/

/-- A step after which the members are among the users of meetings that were
live, and that leaves the repository alone. -/
theorem ChatOk.move {t : Trace} (h : ChatOk t) {server : ChatServer}
    (hrepo : server.messageRepo = t.server.messageRepo) (hstore : StoreOk server.store)
    (huser : server.store.userByID = t.server.store.userByID)
    (hmember : ∀ m u, IsMember server.store m u →
      (∃ v, IsMember t.server.store m v) ∧
        (IsMember t.server.store m u ∨ t.server.store.userByID u ≠ none))
    (hsession : ∀ i, SessionOk t.server.store.userByID (server.sessions i)) :
    ChatOk { t with server } where
  store := hstore
  user u hu := h.user u (huser ▸ hu)
  member m u hu := by
    obtain ⟨⟨v, hv⟩, hor⟩ := hmember m u hu
    refine ⟨(h.member m v hv).1, ?_⟩
    show server.store.userByID u ≠ none
    rw [huser]
    rcases hor with hmem | hknown
    · exact (h.member m u hmem).2
    · exact hknown
  session i := by
    show SessionOk server.store.userByID _
    rw [huser]
    exact hsession i
  rows m u hu n hn := by
    obtain ⟨⟨v, hv⟩, -⟩ := hmember m u hu
    show RowsAgree (server.messageRepo.storage n) _
    rw [hrepo]
    exact h.rows m v hv n hn

theorem ChatOk.setSession {t : Trace} (h : ChatOk t) (i : Nat) {session : Session}
    (hs : SessionOk t.server.store.userByID session) (j : Nat) :
    SessionOk t.server.store.userByID (Function.update t.server.sessions i session j) := by
  by_cases hj : j = i
  · subst hj
    rw [Function.update_self]
    exact hs
  · rw [Function.update_of_ne hj]
    exact h.session j

theorem leaveMeeting_users (s : MemoryStore) (m u : String) :
    (s.leaveMeeting m u).1.userByID = s.userByID := (step_users s (.leaveMeeting m u)).2

theorem ChatOk.leave {t : Trace} (h : ChatOk t) (i : Nat) (reply : Bool) :
    ChatOk { t with server := t.server.leave i reply } := by
  unfold ChatServer.leave
  dsimp only
  split
  · exact h
  · obtain ⟨hok, hmem, -⟩ := leaveMeeting_spec h.store (t.server.sessions i).meetingID
      (t.server.sessions i).userID
    have husers := leaveMeeting_users t.server.store (t.server.sessions i).meetingID
      (t.server.sessions i).userID
    split
    · rename_i store e hl
      rw [hl] at hok hmem husers
      refine h.move rfl hok husers (fun m u hu => ?_) h.session
      have hu' := ((hmem m u).mp hu).1
      exact ⟨⟨u, hu'⟩, .inl hu'⟩
    · rename_i store result hl
      rw [hl] at hok hmem husers
      refine h.move rfl hok husers (fun m u hu => ?_) (h.setSession i (.inl rfl))
      have hu' := ((hmem m u).mp hu).1
      exact ⟨⟨u, hu'⟩, .inl hu'⟩

theorem ChatOk.refuse {t : Trace} (h : ChatOk t) (i : Nat) :
    ChatOk { t with server := t.server.refuse i } := by
  unfold ChatServer.refuse
  split
  · exact h
  · have hs : ChatOk { t with server := t.server.setSession i (t.server.sessions i).close } := by
      refine h.move rfl h.store rfl (fun m u hu => ⟨⟨u, hu⟩, .inl hu⟩) (h.setSession i ?_)
      unfold SessionOk
      rw [Session.close_meetingID, Session.close_userID]
      exact h.session i
    exact hs.leave i false

theorem joinMeeting_users (s : MemoryStore) (m password u : String) :
    (s.joinMeeting m password u).1.userByID = s.userByID :=
  (step_users s (.joinMeeting m password u)).2

theorem ChatOk.join {t : Trace} (h : ChatOk t) (i : Nat) (meetingID password : String) :
    ChatOk { t with server := t.server.handleJoin i meetingID password } := by
  unfold ChatServer.handleJoin
  dsimp only
  split
  · exact h
  · obtain ⟨hok, hspec⟩ := joinMeeting_spec h.store meetingID password (t.server.sessions i).userID
    have husers := joinMeeting_users t.server.store meetingID password (t.server.sessions i).userID
    split
    · rename_i store e hj
      rw [hj] at hok hspec husers
      obtain rfl : store = t.server.store := hspec
      exact h
    · rename_i store meeting participants joined hj
      have hwho := joinMeeting_ok (congrArg Prod.snd hj)
      rw [hj] at hok hspec husers
      obtain ⟨hid, -, hmem⟩ := hspec
      obtain ⟨v, hv⟩ := (h.store.live_iff meetingID).mp hwho.1
      have hknown : t.server.store.userByID (t.server.sessions i).userID ≠ none := by
        rcases hwho.2 with hu | hu
        · exact (h.member _ _ hu).2
        · exact hu
      refine h.move rfl hok husers (fun m u hu => ?_)
        (h.setSession i (.inr ⟨hid ▸ (h.member _ _ hv).1, hknown⟩))
      rcases (hmem m u).mp hu with hu | ⟨rfl, rfl⟩
      · exact ⟨⟨u, hu⟩, .inl hu⟩
      · exact ⟨⟨v, hv⟩, .inr hknown⟩

/-! ## Creating a meeting -/

theorem createMeeting_users (s : MemoryStore) (title password u : String) (maxParticipants : Int)
    (r : Fin 9000) (now : Int) :
    (s.createMeeting title password u maxParticipants r now).1.userByID = s.userByID :=
  (step_users s (.createMeeting title password u maxParticipants r now)).2

theorem ChatOk.create {t : Trace} (h : ChatOk t) (i : Nat) (title password : String)
    (maxParticipants : Int) (r : Fin 9000) (now : Int) (routed : Bool)
    (hfits : Fits t (.create i title password maxParticipants r now routed)) :
    ChatOk (match t.server.handleCreate i title password maxParticipants r now routed with
      | (server, some m) => { server, sent := Function.update t.sent m [] }
      | (server, none) => { t with server }) := by
  unfold ChatServer.handleCreate
  by_cases htitle : title = ""
  · rw [if_pos htitle]
    exact h
  rw [if_neg htitle]
  dsimp only
  obtain ⟨hok, hspec⟩ := createMeeting_spec h.store title password (t.server.sessions i).userID
    maxParticipants r now
  have husers := createMeeting_users t.server.store title password (t.server.sessions i).userID
    maxParticipants r now
  generalize t.server.store.createMeeting title password (t.server.sessions i).userID
    maxParticipants r now = created at hok hspec husers
  obtain ⟨store, result⟩ := created
  cases result with
  | error e =>
    show ChatOk { t with server := { t.server with store } }
    refine h.move rfl hok husers (fun m u hu => ?_) h.session
    have hu' := (hspec m u).mp hu
    exact ⟨⟨u, hu'⟩, .inl hu'⟩
  | ok result =>
    obtain ⟨meeting, host⟩ := result
    obtain ⟨hid, hknown, hmem⟩ := hspec
    have hnumber : IsNumber meeting.id := hid ▸ isNumber_generateMeetingID _ r
    cases routed with
    | false =>
      obtain ⟨hok', hmem', -⟩ := leaveMeeting_spec hok meeting.id (t.server.sessions i).userID
      have husers' := leaveMeeting_users store meeting.id (t.server.sessions i).userID
      show ChatOk { t with server := { t.server with
        store := (store.leaveMeeting meeting.id (t.server.sessions i).userID).1 } }
      refine h.move rfl hok' (husers'.trans husers) (fun m u hu => ?_) h.session
      obtain ⟨hu, hne⟩ := (hmem' m u).mp hu
      rcases (hmem m u).mp hu with hnew | ⟨-, hu⟩
      · exact absurd hnew hne
      · exact ⟨⟨u, hu⟩, .inl hu⟩
    | true =>
      dsimp only at husers hok hmem
      refine ⟨hok, fun u hu => h.user u (husers ▸ hu), fun m u hu => ?_, fun j => ?_,
        fun m u hu n hn => ?_⟩
      · show _ ∧ store.userByID u ≠ none
        rw [husers]
        rcases (hmem m u).mp hu with ⟨rfl, rfl⟩ | ⟨-, hu⟩
        · exact ⟨hnumber, hknown⟩
        · exact h.member m u hu
      · show SessionOk store.userByID _
        rw [husers]
        have hnew : SessionOk t.server.store.userByID
            { t.server.sessions i with meetingID := meeting.id, state := .inMeeting } :=
          .inr ⟨hnumber, hknown⟩
        exact h.setSession i hnew j
      · show RowsAgree (t.server.messageRepo.storage n) (Function.update t.sent meeting.id [] m)
        rcases (hmem m u).mp hu with ⟨rfl, -⟩ | ⟨hne, hu⟩
        · rw [Function.update_self, hfits rfl n (hid ▸ hn)]
          rfl
        · rw [Function.update_of_ne hne]
          exact h.rows m u hu n hn

/-! ## Sending -/

/-- The row of a saved message says what its notification says. -/
theorem save_newMessage {r r' : MessageRepo} {n k : UInt64} {req : ChatSendReq} {now : Int}
    {ok : Bool} {message : MessageRow}
    (h : r.save (ChatServer.newMessage n k req) now ok = (r', some message)) :
    ∃ row, r'.storage = Function.update r.storage n (r.storage n ++ [row]) ∧
      rowKey row = { messageId := formatUint message.id, senderId := formatUserID k,
                     type := req.type, content := message.content,
                     replyToId := replyText req.replyToId } ∧
      row.createdAt = r.backing.storedTime now := by
  unfold MessageRepo.save at h
  split at h
  · cases h
  · split at h
    · cases h
    · obtain ⟨rfl, hmessage⟩ := Prod.mk.inj h
      obtain rfl := Option.some.inj hmessage
      refine ⟨_, rfl, ?_, rfl⟩
      have htype : Int32.ofInt req.type.toInt = req.type := Int32.ofInt_toInt _
      delta replyText rowKey MessageRepo.complete ChatServer.newMessage
      dsimp only
      rw [htype]

theorem ChatOk.send {t : Trace} (h : ChatOk t) (i : Nat) (req : ChatSendReq) (now : Int) (ok : Bool)
    (hreply : replyText req.replyToId = req.replyToId) :
    ChatOk (match t.server.handleSend i req now ok with
      | (server, .ok notify) =>
        { server
          sent := Function.update t.sent (t.server.sessions i).meetingID
            (t.sent (t.server.sessions i).meetingID ++
              [{ notify, storedAt := t.server.messageRepo.backing.storedTime now }]) }
      | (server, .error _) => { t with server }) := by
  unfold ChatServer.handleSend
  dsimp only
  by_cases hbad : trimSpace req.content = "" ∨ trimSpace (t.server.sessions i).meetingID = ""
  · rw [if_pos hbad]
    exact h
  rw [if_neg hbad]
  by_cases hlong : (utf8 req.content).length > t.server.maxMessageLen
  · rw [if_pos hlong]
    exact h
  rw [if_neg hlong]
  -- the session is in a meeting, so both ids are numbers
  obtain ⟨⟨n, hn, hm⟩, hknown⟩ := (h.session i).resolve_left fun he => hbad (.inr (by rw [he]; rfl))
  obtain ⟨k, hk, hu⟩ := h.user _ hknown
  unfold ChatServer.saveMessage
  simp only [hm, hu, trimSpace_formatUint, trimSpace_user, parseNumericID_formatUint hn,
    parseNumericID_user hk]
  cases hsave : t.server.messageRepo.save (ChatServer.newMessage n k req) now ok with
  | mk r' result =>
    cases result with
    | none => exact h
    | some message =>
      obtain ⟨row, hstorage, hkey, htime⟩ := save_newMessage hsave
      refine ⟨h.store, h.user, h.member, h.session, fun m u hmem n' hn' => ?_⟩
      show RowsAgree (r'.storage n') (Function.update t.sent (formatUint n) _ m)
      rw [hstorage]
      obtain ⟨l, hl, rfl⟩ := (h.member m u hmem).1
      obtain rfl : l = n' := Option.some.inj ((parseNumericID_formatUint hl).symm.trans hn')
      by_cases hnl : l = n
      · subst hnl
        rw [Function.update_self, Function.update_self]
        refine (h.rows _ u hmem l hn').append ?_ htime
        rw [hkey, hreply, formatUserID_eq hk]
        rfl
      · have hne : formatUint l ≠ formatUint n := by
          intro he
          have hparse := parseNumericID_formatUint hl
          rw [he, parseNumericID_formatUint hn] at hparse
          exact hnl (Option.some.inj hparse).symm
        rw [Function.update_of_ne hnl, Function.update_of_ne hne]
        exact h.rows _ u hmem l hn'

/-! ## Runs -/

theorem chatOk_step (t : Trace) (o : ChatOp) (hfits : Fits t o) (h : ChatOk t) :
    ChatOk (t.step o) := by
  unfold Trace.step ChatServer.stepEvent
  cases o with
  | create i title password maxParticipants r now routed =>
    dsimp only
    by_cases hadmit : t.server.admits i .authenticated = true
    · rw [if_pos hadmit]
      have hcreate := h.create i title password maxParticipants r now routed hfits
      generalize t.server.handleCreate i title password maxParticipants r now routed = x at hcreate ⊢
      obtain ⟨s', created⟩ := x
      cases created <;> exact hcreate
    · rw [if_neg hadmit]
      exact h.refuse i
  | join i meetingID password =>
    dsimp only
    by_cases hadmit : t.server.admits i .authenticated = true
    · rw [if_pos hadmit]
      exact h.join i meetingID password
    · rw [if_neg hadmit]
      exact h.refuse i
  | leave i =>
    dsimp only
    by_cases hadmit : t.server.admits i .inMeeting = true
    · rw [if_pos hadmit]
      exact h.leave i true
    · rw [if_neg hadmit]
      exact h.refuse i
  | send i req now ok =>
    dsimp only
    by_cases hadmit : t.server.admits i .inMeeting = true
    · rw [if_pos hadmit]
      have hsend := h.send i req now ok hfits
      generalize t.server.handleSend i req now ok = x at hsend ⊢
      obtain ⟨s', sent⟩ := x
      cases sent <;> exact hsend
    · rw [if_neg hadmit]
      exact h.refuse i

/-- A server with sessions of any users and no meetings. -/
def Trace.init (maxMessageLen : Nat) (userRepo : Option UserAuthRepo) (hash : String → String)
    (backing : Backing) (users : Nat → String) : Trace :=
  { server := .init maxMessageLen userRepo hash backing users, sent := fun _ => [] }

theorem newMemoryStore_user (hash : String → String) (u : String)
    (h : (newMemoryStore hash).userByID u ≠ none) :
    ∃ n : UInt64, 0 < n ∧ u = userIDFromUint64 n := by
  have hids : ∀ raw ∈ defaultUsers, raw.1 = userIDFromUint64 1001 ∨
      raw.1 = userIDFromUint64 1002 ∨ raw.1 = userIDFromUint64 1003 := by decide
  obtain ⟨user, huser⟩ := Option.ne_none_iff_exists'.mp h
  obtain ⟨raw, hraw, rfl, -⟩ := newMemoryStore_row hash huser
  obtain hid | hid | hid := hids raw hraw
  · exact ⟨1001, by decide, hid⟩
  · exact ⟨1002, by decide, hid⟩
  · exact ⟨1003, by decide, hid⟩

theorem chatOk_init (maxMessageLen : Nat) (userRepo : Option UserAuthRepo) (hash : String → String)
    (backing : Backing) (users : Nat → String) :
    ChatOk (.init maxMessageLen userRepo hash backing users) where
  store := newMemoryStore_storeOk hash
  user u hu := newMemoryStore_user hash u hu
  member m u hu := by
    obtain ⟨mt, hmt⟩ := (newMemoryStore_storeOk hash).live hu
    cases hmt
  session i := .inl rfl
  rows m u hu := by
    obtain ⟨mt, hmt⟩ := (newMemoryStore_storeOk hash).live hu
    cases hmt

/-- In every run in which meetings are created under numbers without messages
and reply-to ids are texts of numbers, from either kind of repository and after
every step, the history agrees with what was sent. -/
theorem history_agrees (maxMessageLen : Nat) (userRepo : Option UserAuthRepo)
    (hash : String → String) (backing : Backing) (users : Nat → String) (os : List ChatOp)
    (h : Along Trace.step Fits (.init maxMessageLen userRepo hash backing users) os) :
    HistoryAgrees (run Trace.step (.init maxMessageLen userRepo hash backing users) os) :=
  (Along.inv chatOk_step (chatOk_init maxMessageLen userRepo hash backing users) h).historyAgrees

/-- Session `i` is of the user with number 1000 + `i`. -/
def demoUsers (i : Nat) : String := "u" ++ toString (1000 + i)

def chatInit : Trace := .init 5000 none (fun raw => raw) .memory demoUsers

/-- A meeting with a reply, and a second one under another number. -/
def replyRun : List ChatOp :=
  [.create 1 "a" "" 0 ⟨5, by decide⟩ 0 true, .join 2 "101006" "", .send 1 ⟨0, "hi", ""⟩ 5000000 true,
   .send 2 ⟨0, "hello", "1"⟩ 6000000 true, .create 3 "b" "" 0 ⟨7, by decide⟩ 8000000 true]

theorem history_agrees_replyRun :
    HistoryAgrees (run Trace.step chatInit replyRun) ∧
      ((run Trace.step chatInit replyRun).sent "101006").map (fun e => e.notify.content) =
        ["hi", "hello"] :=
  ⟨history_agrees 5000 none (fun raw => raw) .memory demoUsers replyRun (by decide +kernel),
    by decide +kernel⟩

/-- The meeting 101006 ends after a message, and its number is drawn again. -/
def reuseRun : List ChatOp :=
  [.create 1 "a" "" 0 ⟨5, by decide⟩ 0 true, .send 1 ⟨0, "hi", ""⟩ 5000000 true, .leave 1,
   .create 2 "b" "" 0 ⟨4, by decide⟩ 7000000 true]

/-- The new meeting's history has the old one's message. -/
theorem reused_number : ¬ HistoryAgrees (run Trace.step chatInit reuseRun) := by
  intro h
  have hlive : (run Trace.step chatInit reuseRun).server.store.meetings
      ((run Trace.step chatInit reuseRun).server.sessions 2).meetingID ≠ none := by
    decide +kernel
  obtain ⟨messages, rest, hok, -, hlen, -⟩ := h 2 ⟨"", 0, 0⟩ hlive (.inl rfl)
  have hlog : (eligible 0 ((run Trace.step chatInit reuseRun).sent
      ((run Trace.step chatInit reuseRun).server.sessions 2).meetingID)).length = 0 := by
    decide +kernel
  have hread : ((run Trace.step chatInit reuseRun).server.handleHistory 2 ⟨"", 0, 0⟩ true).toOption.map
      (fun messages => messages.map (·.content)) = some ["hi"] := by
    decide +kernel
  rw [hok] at hread
  have hone : messages.length = 1 := by
    have hlist := congrArg List.length (Option.some.inj hread)
    rw [List.length_map] at hlist
    exact hlist
  rw [hone, hlog, Nat.min_zero] at hlen
  cases hlen

/-- A reply-to id that is not a number is in the notification, but not in the
history. -/
example : ((run Trace.step chatInit [.create 1 "a" "" 0 5 0 true,
      .send 1 ⟨0, "hi", "m7"⟩ 5000000 true]).server.handleHistory 1 ⟨"", 0, 0⟩ true).toOption.map
      (fun messages => messages.map (·.replyToId)) = some [""] ∧
    ((run Trace.step chatInit [.create 1 "a" "" 0 5 0 true,
      .send 1 ⟨0, "hi", "m7"⟩ 5000000 true]).sent "101006").map (·.notify.replyToId) = ["m7"] := by
  decide +kernel

end MeetingSystem.Proof.Signaling
