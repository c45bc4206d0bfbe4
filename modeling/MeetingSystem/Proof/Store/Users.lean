import MeetingSystem.Impl.Store.Users
import MeetingSystem.Framework.Run

/-!
# Finding users

The in-memory maps are filled once and hold every user under its own name and
id (`UsersOk`), and the user table is searched by the number in an id.

* `getUserByID_id`: a user found by an id the server wrote has that id;
* `authenticate_eq_ok`: a password is accepted only against the hash stored
  with the name it was presented for.
-/

namespace MeetingSystem.Proof.Store

open MeetingSystem.Framework MeetingSystem.Impl.Store

/-! ## The in-memory maps -/

structure UsersOk (s : MemoryStore) : Prop where
  username : ∀ name u, s.users name = some u → u.username = name
  id : ∀ id u, s.userByID id = some u → u.id = id

theorem UsersOk.seedUser {s : MemoryStore} (h : UsersOk s) (hash : String → String)
    (raw : String × String × String × String) : UsersOk (seedUser hash s raw) where
  username name u hu := by
    by_cases hn : name = raw.2.1
    · subst hn
      obtain rfl := Option.some.inj ((Function.update_self raw.2.1 _ s.users).symm.trans hu)
      rfl
    · exact h.username name u ((Function.update_of_ne hn _ _).symm.trans hu)
  id id u hu := by
    by_cases hn : id = raw.1
    · subst hn
      obtain rfl := Option.some.inj ((Function.update_self raw.1 _ s.userByID).symm.trans hu)
      rfl
    · exact h.id id u ((Function.update_of_ne hn _ _).symm.trans hu)

theorem newMemoryStore_usersOk (hash : String → String) : UsersOk (newMemoryStore hash) := by
  have hempty : UsersOk
      { users := fun _ => none, userByID := fun _ => none, meetings := fun _ => none,
        participants := fun _ => none, joinOrder := fun _ => none, meetingMsgs := fun _ => [],
        meetingSeq := 0, messageSeq := 0, joinSeq := 0 } :=
    ⟨fun _ _ h => (Option.some_ne_none _ h.symm).elim,
      fun _ _ h => (Option.some_ne_none _ h.symm).elim⟩
  exact List.foldlRecOn defaultUsers _ hempty fun s hs raw _ => hs.seedUser hash raw

/-- The users of a new store are those of the table. -/
theorem newMemoryStore_row (hash : String → String) {u : String} {user : User}
    (h : (newMemoryStore hash).userByID u = some user) :
    ∃ raw ∈ defaultUsers, u = raw.1 ∧ user.displayName = raw.2.2.2 := by
  revert u user
  refine List.foldlRecOn defaultUsers (seedUser hash)
    (motive := fun s => ∀ {u user}, s.userByID u = some user →
      ∃ raw ∈ defaultUsers, u = raw.1 ∧ user.displayName = raw.2.2.2) ?_ ?_
  · intro u user h
    cases h
  · intro s hs raw hraw u user h
    by_cases hu : u = raw.1
    · subst hu
      obtain rfl := Option.some.inj ((Function.update_self raw.1 _ s.userByID).symm.trans h)
      exact ⟨raw, hraw, rfl, rfl⟩
    · exact hs ((Function.update_of_ne hu _ _).symm.trans h)

theorem updateParticipant_users (s : MemoryStore) (meetingID userID : String)
    (f : Participant → Participant) :
    (s.updateParticipant meetingID userID f).1.users = s.users ∧
      (s.updateParticipant meetingID userID f).1.userByID = s.userByID := by
  unfold MemoryStore.updateParticipant
  split
  · exact ⟨rfl, rfl⟩
  · split <;> exact ⟨rfl, rfl⟩

/-- No operation touches the users. -/
theorem step_users (s : MemoryStore) (o : Op) :
    (s.step o).users = s.users ∧ (s.step o).userByID = s.userByID := by
  cases o with
  | createMeeting title password hostUserID maxParticipants r now =>
    simp only [MemoryStore.step, MemoryStore.createMeeting, MemoryStore.createMeetingAt]
    split <;> exact ⟨rfl, rfl⟩
  | joinMeeting meetingID password userID =>
    simp only [MemoryStore.step, MemoryStore.joinMeeting]
    split
    · exact ⟨rfl, rfl⟩
    · split
      · exact ⟨rfl, rfl⟩
      · split
        · exact ⟨rfl, rfl⟩
        · split
          · exact ⟨rfl, rfl⟩
          · split <;> exact ⟨rfl, rfl⟩
  | leaveMeeting meetingID userID =>
    simp only [MemoryStore.step, MemoryStore.leaveMeeting]
    split
    · exact ⟨rfl, rfl⟩
    · split
      · exact ⟨rfl, rfl⟩
      · split
        · split <;> exact ⟨rfl, rfl⟩
        · exact ⟨rfl, rfl⟩
  | setParticipantMediaSsrc meetingID userID audioSsrc videoSsrc =>
    exact updateParticipant_users s meetingID userID _
  | setParticipantMediaMuted meetingID userID mediaType muted =>
    exact updateParticipant_users s meetingID userID _
  | setParticipantSharing meetingID userID sharing =>
    exact updateParticipant_users s meetingID userID _
  | saveMessage meetingID senderID msgType content replyToID nowMs => exact ⟨rfl, rfl⟩

theorem run_usersOk (hash : String → String) (os : List Op) :
    UsersOk (run MemoryStore.step (newMemoryStore hash) os) := by
  apply run_inv _ (newMemoryStore_usersOk hash)
  intro s o hs
  obtain ⟨husers, hbyID⟩ := step_users s o
  exact ⟨by rw [husers]; exact hs.username, by rw [hbyID]; exact hs.id⟩

/-! ## The user table -/

theorem parseUint64_natBytes (n : UInt64) : parseUint64 (natBytes n.toNat) = some n := by
  rw [parseUint64, parseNat_natBytes]
  show (if n.toNat < 2 ^ 64 then some n.toNat.toUInt64 else none) = _
  rw [if_pos n.toNat_lt]
  simp

theorem utf8_userIDFromUint64 (n : UInt64) :
    utf8 (userIDFromUint64 n) = 117 :: natBytes n.toNat := by
  rw [userIDFromUint64, utf8_append, utf8_toString]
  rfl

@[simp] theorem userIDToUint64_fromUint64 (n : UInt64) :
    userIDToUint64 (userIDFromUint64 n) = some n := by
  rw [userIDToUint64, utf8_userIDFromUint64]
  exact parseUint64_natBytes n

theorem loadUserByIDFromRepo_id {repo : UserAuthRepo} {n : UInt64} {user : User}
    (h : loadUserByIDFromRepo repo (userIDFromUint64 n) = .ok (some user)) :
    user.id = userIDFromUint64 n := by
  rw [loadUserByIDFromRepo, userIDToUint64_fromUint64] at h
  dsimp only at h
  split at h
  · cases h
  · rename_i row hfind
    obtain ⟨row, rfl, rfl⟩ := Option.map_eq_some_iff.mp (Except.ok.inj h)
    rw [UserRow.toUser, repo.findByID_id n row hfind]

theorem getUserByID_id {s : MemoryStore} (hs : UsersOk s) {userRepo : Option UserAuthRepo}
    {n : UInt64} {user : User} (h : s.getUserByID userRepo (userIDFromUint64 n) = some user) :
    user.id = userIDFromUint64 n := by
  unfold MemoryStore.getUserByID at h
  split at h
  · exact hs.id _ _ h
  · rename_i repo
    split at h
    · split at h
      · exact hs.id _ _ h
      · cases h
    · rename_i repoUser hload
      obtain rfl := Option.some.inj h
      exact loadUserByIDFromRepo_id hload
    · exact hs.id _ _ h

/-! ## Passwords -/

/-- `user` is the record stored with the name `name`: the table's, if it has
one, else that of the in-memory map. -/
inductive StoredUnder (s : MemoryStore) : Option UserAuthRepo → String → User → Prop where
  | table {repo : UserAuthRepo} {name : String} {row : UserRow}
      (h : repo.findByUsername name = .ok (some row)) : StoredUnder s (some repo) name row.toUser
  | memory {userRepo : Option UserAuthRepo} {name : String} {user : User}
      (hrepo : ∀ repo row, userRepo = some repo → repo.findByUsername name ≠ .ok (some row))
      (h : s.users name = some user) : StoredUnder s userRepo name user

theorem authenticateLocal_eq_ok {s : MemoryStore} {idKey : IDKey} {name password : String}
    {user : User} (h : s.authenticateLocal idKey name password = .ok user) :
    s.users name = some user ∧ verifyPassword idKey user.passwordHash password = true := by
  unfold MemoryStore.authenticateLocal at h
  split at h
  · cases h
  · rename_i localUser hlocal
    split at h
    · rename_i hverify
      obtain rfl := Except.ok.inj h
      exact ⟨hlocal, hverify⟩
    · cases h

theorem authenticate_eq_ok {s : MemoryStore} {userRepo : Option UserAuthRepo} {idKey : IDKey}
    {name password : String} {user : User}
    (h : s.authenticate userRepo idKey name password = .ok user) :
    StoredUnder s userRepo name user ∧ verifyPassword idKey user.passwordHash password = true := by
  unfold MemoryStore.authenticate at h
  split at h
  · obtain ⟨huser, hverify⟩ := authenticateLocal_eq_ok h
    exact ⟨.memory (by simp) huser, hverify⟩
  · rename_i repo
    rw [loadUserByUsernameFromRepo] at h
    cases hfind : repo.findByUsername name with
    | error err =>
      rw [hfind] at h
      dsimp only at h
      split at h
      · obtain ⟨huser, hverify⟩ := authenticateLocal_eq_ok h
        refine ⟨.memory ?_ huser, hverify⟩
        intro repo' row hrepo
        obtain rfl := Option.some.inj hrepo
        rw [hfind]
        intro he
        cases he
      · cases h
    | ok row =>
      rw [hfind] at h
      cases row with
      | none =>
        obtain ⟨huser, hverify⟩ := authenticateLocal_eq_ok h
        refine ⟨.memory ?_ huser, hverify⟩
        intro repo' row hrepo
        obtain rfl := Option.some.inj hrepo
        rw [hfind]
        intro he
        cases he
      | some row =>
        dsimp only [Option.map_some] at h
        split at h
        · rename_i hverify
          obtain rfl := Except.ok.inj h
          exact ⟨.table hfind, hverify⟩
        · cases h

end MeetingSystem.Proof.Store
