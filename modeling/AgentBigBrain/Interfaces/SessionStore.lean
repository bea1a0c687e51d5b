import AgentBigBrain.Interfaces.SessionMerging
import AgentBigBrain.Interfaces.SessionMutations

/-!
# The session store

The two backends of the interface session store. The JSON backend keeps one file, rereads it
on every write and merges the written session into the stored one. The SQLite backend
replaces the row of the session and normalizes a row when it is read.
-/
namespace AgentBigBrain.Interfaces

open AgentBigBrain.Js AgentBigBrain.Core AgentBigBrain.Lib

variable (platform : Platform) (sha : Sha256)

/-! ## Lookup in records -/

lemma lookup_filter_ne {β : Type*} (entries : List (String × β)) (removed key : String) :
    (entries.filter fun entry => decide (entry.1 ≠ removed)).lookup key =
      if key = removed then none else entries.lookup key := by
  induction entries with
  | nil => simp
  | cons entry entries ih =>
      obtain ⟨k, value⟩ := entry
      by_cases hremoved : k = removed
      · subst hremoved
        rw [List.filter_cons_of_neg (by simp), ih]
        by_cases hkey : key = k
        · simp [hkey]
        · have hbeq : (key == k) = false := by simpa using hkey
          simp [List.lookup_cons, hbeq, hkey]
      · rw [List.filter_cons_of_pos (by simpa using hremoved), List.lookup_cons, ih,
          List.lookup_cons]
        by_cases hkey : key = k
        · subst hkey
          simp [hremoved]
        · have hbeq : (key == k) = false := by simpa using hkey
          simp [hbeq]

lemma lookup_map_snd {β γ : Type*} (f : β → γ) (entries : List (String × β)) (key : String) :
    (entries.map fun entry => (entry.1, f entry.2)).lookup key = (entries.lookup key).map f := by
  induction entries with
  | nil => rfl
  | cons entry entries ih =>
      rw [List.map_cons, List.lookup_cons, List.lookup_cons, ih]
      cases key == entry.1 <;> rfl

/-! ## Conversations -/

/-- Sessions under their conversation ids. Only sessions whose time is a date get in, so reading
them back never fails. -/
structure Conversations where
  entries : List (String × ConversationSession)
  dated : ∀ entry ∈ entries, isDate platform entry.2.updatedAt = true

namespace Conversations

variable {platform}

def empty : Conversations platform where
  entries := []
  dated := by simp

def find (conversations : Conversations platform) (conversationId : String) :
    Option ConversationSession :=
  conversations.entries.lookup conversationId

def remove (conversations : Conversations platform) (conversationId : String) :
    Conversations platform where
  entries := conversations.entries.filter fun entry => decide (entry.1 ≠ conversationId)
  dated entry h := conversations.dated entry (List.mem_of_mem_filter h)

def put (conversations : Conversations platform) (session : ConversationSession)
    (hdate : isDate platform session.updatedAt = true) : Conversations platform where
  entries := (session.conversationId, session) ::
    (conversations.remove session.conversationId).entries
  dated entry h := by
    rcases List.mem_cons.mp h with rfl | h
    · exact hdate
    · exact (conversations.remove session.conversationId).dated entry h

/-- What reading the file makes of its sessions. -/
def reload (sha : Sha256) (conversations : Conversations platform) : Conversations platform where
  entries := conversations.entries.map fun entry =>
    (entry.1, normalizedSession platform sha entry.2)
  dated entry h := by
    obtain ⟨source, hsource, rfl⟩ := List.mem_map.mp h
    exact conversations.dated source hsource

lemma isDate_of_find {conversations : Conversations platform} {conversationId : String}
    {session : ConversationSession} (h : conversations.find conversationId = some session) :
    isDate platform session.updatedAt = true :=
  conversations.dated _ (mem_of_lookup h)

@[simp] lemma find_empty (conversationId : String) :
    (empty : Conversations platform).find conversationId = none := rfl

lemma find_remove (conversations : Conversations platform) (removed conversationId : String) :
    (conversations.remove removed).find conversationId =
      if conversationId = removed then none else conversations.find conversationId :=
  lookup_filter_ne conversations.entries removed conversationId

@[simp] lemma find_put (conversations : Conversations platform) (session : ConversationSession)
    (hdate : isDate platform session.updatedAt = true) (conversationId : String) :
    (conversations.put session hdate).find conversationId =
      if conversationId = session.conversationId then some session
      else conversations.find conversationId := by
  have hrest := conversations.find_remove session.conversationId conversationId
  unfold find put
  by_cases hid : conversationId = session.conversationId
  · subst hid
    simp
  · rw [if_neg hid] at hrest ⊢
    have hbeq : (conversationId == session.conversationId) = false := by simpa using hid
    rw [List.lookup_cons, hbeq]
    exact hrest

@[simp] lemma find_reload (conversations : Conversations platform) (conversationId : String) :
    (conversations.reload sha).find conversationId =
      (conversations.find conversationId).map (normalizedSession platform sha) :=
  lookup_map_snd (normalizedSession platform sha) conversations.entries conversationId

end Conversations

/-! ## The JSON backend -/

/-- The state file and what the store has loaded of it. -/
structure JsonStore where
  file : Conversations platform
  loaded : Option (Conversations platform)

namespace JsonStore

variable {platform}

def new : JsonStore platform where
  file := .empty
  loaded := none

/-- What is in memory once the file has been read. -/
def state (store : JsonStore platform) : Conversations platform :=
  store.loaded.getD (store.file.reload sha)

def ensureLoaded (store : JsonStore platform) : JsonStore platform :=
  { store with loaded := some (store.state sha) }

def getSession (store : JsonStore platform) (conversationId : String) :
    Option ConversationSession :=
  (store.state sha).find conversationId

def persist (conversations : Conversations platform) : JsonStore platform where
  file := conversations
  loaded := some conversations

/-- A session that is no valid payload leaves the store as it was. -/
def setSession (store : JsonStore platform) (session : ConversationSession) :
    JsonStore platform :=
  if hdate : isDate platform session.updatedAt = true then
    let normalized := normalizedSession platform sha session
    let state := store.file.reload sha
    have hnormalized : isDate platform normalized.updatedAt = true := hdate
    match hfind : state.find normalized.conversationId with
    | none => persist (state.put normalized hnormalized)
    | some existing =>
        have hmerged : isDate platform
            (mergedSession platform sha existing normalized).updatedAt = true := by
          change isDate platform (mergedUpdatedAt existing normalized) = true
          rcases mergedUpdatedAt_cases existing normalized with h | h
          · rw [h]
            exact Conversations.isDate_of_find hfind
          · rw [h]
            exact hnormalized
        persist (state.put (mergedSession platform sha existing normalized) hmerged)
  else
    store

def deleteSession (store : JsonStore platform) (conversationId : String) : JsonStore platform :=
  persist ((store.file.reload sha).remove conversationId)

/-- What a write leaves under an id: the written session is normalized, and merged with the
stored one where there is one. -/
lemma getSession_setSession (store : JsonStore platform) {session : ConversationSession}
    (hdate : isDate platform session.updatedAt = true) (conversationId : String) :
    (store.setSession sha session).getSession sha conversationId =
      if conversationId = session.conversationId then
        some (((store.file.find session.conversationId).map (normalizedSession platform sha)).elim
          (normalizedSession platform sha session) fun existing =>
            mergedSession platform sha existing (normalizedSession platform sha session))
      else
        (store.file.find conversationId).map (normalizedSession platform sha) := by
  have hid : (normalizedSession platform sha session).conversationId = session.conversationId := rfl
  have hmergedId : ∀ existing, (mergedSession platform sha existing
      (normalizedSession platform sha session)).conversationId = session.conversationId :=
    fun _ => rfl
  unfold setSession
  rw [dif_pos hdate]
  dsimp only
  split
  · rename_i hnone
    rw [Conversations.find_reload, hid] at hnone
    rw [hnone, getSession, state, persist, Option.getD_some]
    refine (Conversations.find_put _ _ _ conversationId).trans ?_
    rw [hid, Conversations.find_reload]
    rfl
  · rename_i existing hsome
    rw [Conversations.find_reload, hid] at hsome
    rw [hsome, getSession, state, persist, Option.getD_some]
    refine (Conversations.find_put _ _ _ conversationId).trans ?_
    rw [hmergedId, Conversations.find_reload]
    rfl

end JsonStore

/-! ## The SQLite backend -/

structure SqliteStore where
  rows : Conversations platform

namespace SqliteStore

variable {platform}

def new : SqliteStore platform where
  rows := .empty

def getSession (store : SqliteStore platform) (conversationId : String) :
    Option ConversationSession :=
  (store.rows.find conversationId).bind (normalizeSession platform sha)

def setSession (store : SqliteStore platform) (session : ConversationSession) :
    SqliteStore platform :=
  if hdate : isDate platform session.updatedAt = true then
    have hnormalized : isDate platform (normalizedSession platform sha session).updatedAt = true :=
      hdate
    { rows := store.rows.put (normalizedSession platform sha session) hnormalized }
  else
    store

def deleteSession (store : SqliteStore platform) (conversationId : String) :
    SqliteStore platform where
  rows := store.rows.remove conversationId

/-- A row reads as the normalization of what was written. -/
lemma getSession_eq (store : SqliteStore platform) (conversationId : String) :
    store.getSession sha conversationId =
      (store.rows.find conversationId).map (normalizedSession platform sha) := by
  unfold getSession
  cases hfind : store.rows.find conversationId with
  | none => rfl
  | some session =>
      rw [Option.bind_some, normalizeSession, if_pos (Conversations.isDate_of_find hfind),
        Option.map_some]

end SqliteStore

end AgentBigBrain.Interfaces
