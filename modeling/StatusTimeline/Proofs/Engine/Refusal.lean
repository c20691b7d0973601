import StatusTimeline.Proofs.Engine.Stepwise
import StatusTimeline.Proofs.Lock.Settled

/-!
This module contains what comes of serving requests while others hold locks and wait for them. A request that is
refused, for whatever reason, leaves intervals, pointers and claims as they are, and the reasons are few.
-/

namespace StatusTimeline

/--
Whether an error tells of a request that is wrong, or of a lock that others hold.
-/
def Error.isRefusal : Error → Bool
  | validation _ => true
  | notFound _ => true
  | lockTimeout _ _ => true
  | _ => false

namespace Memory

/--
Intervals, pointers and claims are as they were; the slots that nobody claims may have gone.
-/
structure Spared (m m' : Memory) : Prop where
  store : m'.store = m.store
  board : m'.board = m.board
  claims : m'.locks.claims = m.locks.claims

variable {e : Engine} {m m' : Memory} {stamp : Stamp} {α : Type}

theorem Spared.refl (m : Memory) : m.Spared m := ⟨rfl, rfl, rfl⟩

theorem settled_answer (h : m.locks.Settled) (c : Call) : (m.answer stamp c).2.locks.Settled := by
  cases c with
  | lock key =>
    simp only [answer]
    split
    . exact h.enter key
    . exact (h.enter key).giveUp key _
  | release token =>
    simp only [answer]
    split
    . unfold giveUp
      split
      . exact h.giveUp token.key _
      . exact h
    . exact h
  | _ => exact h

/--
An operation under a lock does what it does without, or it does not get the lock. All claims are then as they were.
-/
theorem perform_locked_settled (h : m.locks.Settled) (monitor : Uuid) {body : Operation α} {result : Except Error α}
    (hbody : ∀ locks, { m with locks }.perform stamp body = (result, { m' with locks })) :
    ∃ locks, locks.claims = m.locks.claims ∧
      (m.perform stamp (Engine.locked monitor body) = (result, { m' with locks }) ∨
        m.perform stamp (Engine.locked monitor body) =
          (.error (.lockTimeout (Engine.lockKey monitor) .simulated), { m with locks })) := by
  refine ⟨_, h.claims_giveUp_enter (Engine.lockKey monitor), ?_⟩
  unfold Engine.locked
  rw [perform_bind, perform_call]
  by_cases hgranted : (m.locks.enter (Engine.lockKey monitor)).2.granted (m.locks.enter (Engine.lockKey monitor)).1 = true
  . left
    simp only [answer, hgranted, if_true, perform_finish, hbody, giveUp]
  . right
    simp only [answer, hgranted, Bool.false_eq_true, if_false]

/--
While nobody claims the key of the monitor the operation gets the lock, and all claims are then as they were.
-/
theorem perform_locked_free (h : m.locks.Settled) {monitor : Uuid}
    (hfree : ∀ c ∈ m.locks.claims, c.key ≠ Engine.lockKey monitor) {body : Operation α} {result : Except Error α}
    (hbody : ∀ locks, { m with locks }.perform stamp body = (result, { m' with locks })) :
    ∃ locks, locks.Settled ∧ locks.claims = m.locks.claims ∧
      m.perform stamp (Engine.locked monitor body) = (result, { m' with locks }) := by
  refine ⟨_, (h.enter _).giveUp _ _, h.claims_giveUp_enter (Engine.lockKey monitor), ?_⟩
  have hgranted := h.sound.free hfree
  unfold Engine.locked
  rw [perform_bind, perform_call]
  simp only [answer, hgranted, if_true, perform_finish, hbody, giveUp]

theorem perform_recordLocked_locks (e : Engine) (m : Memory) (stamp : Stamp) (monitor status : Uuid)
    (r : ChangeRequest) (locks : Slots) :
    { m with locks }.perform stamp (e.recordLocked monitor status r) =
      ((m.succeedWhole stamp (Engine.opening monitor status r (m.rootCause e r))).1,
        { (m.succeedWhole stamp (Engine.opening monitor status r (m.rootCause e r))).2 with locks }) := by
  rw [Engine.recordLocked_eq, perform_bind, perform_rootCause]
  simp only [perform_succeed_any]
  exact succeedWhole_locks ..

theorem perform_deleteLocked_locks (e : Engine) (m : Memory) (stamp : Stamp) (id : Uuid) (locks : Slots) :
    { m with locks }.perform stamp (e.deleteLocked id) =
      ((m.deleteWhole id).1, { (m.deleteWhole id).2 with locks }) := by
  rw [perform_deleteLocked_any]
  exact deleteWhole_locks ..

theorem succeedWhole_isOk (m : Memory) (stamp : Stamp) (new : NewInterval) :
    ∃ change, (m.succeedWhole stamp new).1 = .ok change := by
  have hlatest : ∀ prior, (Row.latest? new.monitorId m.store.rows).map (·.id) = some prior →
      m.store.contains prior = true := fun _ => Store.contains_latest
  obtain ⟨created, store, happ, _⟩ := m.store.append_ok stamp new hlatest
  unfold succeedWhole
  dsimp only
  rw [happ]
  exact ⟨_, rfl⟩

theorem deleteWhole_refused {id : Uuid} {err : Error} (h : (m.deleteWhole id).1 = .error err) :
    (m.deleteWhole id).2 = m ∧ err.isRefusal = true := by
  unfold deleteWhole at h ⊢
  cases hfind : m.store.find? id with
  | none =>
    simp only [hfind] at h
    cases h
    exact ⟨rfl, rfl⟩
  | some row =>
    simp only [hfind] at h ⊢
    split at h
    . next honly =>
      cases h
      rw [if_pos honly]
      exact ⟨rfl, rfl⟩
    . obtain ⟨store, happ⟩ := m.store.applyDeletion_ok
        (.restitch row.interval (Row.neighbors row.interval.monitorId row.interval.startsAt m.store.rows))
        (Store.contains_find? hfind) fun _ => Store.contains_repair
      simp only [cutOutWhole, happ] at h
      cases h

theorem serve_record_refused (h : m.locks.Settled) {r : ChangeRequest} {err : Error}
    (herr : (serve e m stamp (.record r)).1 = .error err) :
    m.Spared (serve e m stamp (.record r)).2 ∧ err.isRefusal = true := by
  have hserve : serve e m stamp (.record r) = m.perform stamp (e.record r) := rfl
  rw [hserve] at herr ⊢
  unfold Engine.record at herr ⊢
  cases hmonitor : r.monitorId with
  | none =>
    simp only [hmonitor] at herr
    cases herr
    exact ⟨.refl m, rfl⟩
  | some monitor =>
    cases hstatus : r.statusId with
    | none =>
      simp only [hmonitor, hstatus] at herr
      cases herr
      exact ⟨.refl m, rfl⟩
    | some status =>
      simp only [hmonitor, hstatus] at herr ⊢
      obtain ⟨locks, hclaims, hdone | hdenied⟩ :=
        perform_locked_settled h monitor (perform_recordLocked_locks e m stamp monitor status r)
      . obtain ⟨change, hok⟩ := succeedWhole_isOk m stamp (Engine.opening monitor status r (m.rootCause e r))
        rw [hdone, hok] at herr
        cases herr
      . rw [hdenied] at herr ⊢
        cases herr
        exact ⟨⟨rfl, rfl, hclaims⟩, rfl⟩

theorem serve_delete_refused (h : m.locks.Settled) {id : Uuid} {err : Error}
    (herr : (serve e m stamp (.delete id)).1 = .error err) :
    m.Spared (serve e m stamp (.delete id)).2 ∧ err.isRefusal = true := by
  have hserve : serve e m stamp (.delete id) = m.perform stamp (e.delete id) := rfl
  rw [hserve] at herr ⊢
  unfold Engine.delete at herr ⊢
  rw [perform_bind, perform_get] at herr ⊢
  cases hfind : m.store.find? id with
  | none =>
    simp only [hfind] at herr
    cases herr
    exact ⟨.refl m, rfl⟩
  | some row =>
    simp only [hfind] at herr ⊢
    obtain ⟨locks, hclaims, hdone | hdenied⟩ :=
      perform_locked_settled h row.interval.monitorId (perform_deleteLocked_locks e m stamp id)
    . rw [hdone] at herr ⊢
      obtain ⟨hsame, hrefusal⟩ := deleteWhole_refused herr
      rw [hsame]
      exact ⟨⟨rfl, rfl, hclaims⟩, hrefusal⟩
    . rw [hdenied] at herr ⊢
      cases herr
      exact ⟨⟨rfl, rfl, hclaims⟩, rfl⟩

/--
A request that is refused leaves everything as it was.
-/
theorem serve_refused (h : m.locks.Settled) (r : Request) {err : Error} (herr : (serve e m stamp r).1 = .error err) :
    m.Spared (serve e m stamp r).2 ∧ err.isRefusal = true := by
  cases r with
  | record r => exact serve_record_refused h herr
  | delete id => exact serve_delete_refused h herr
  | get id =>
    rw [serve_get] at herr ⊢
    cases hfind : m.store.find? id with
    | none =>
      rw [hfind] at herr
      cases herr
      exact ⟨.refl m, rfl⟩
    | some row =>
      rw [hfind] at herr
      cases herr
  | _ => cases herr

end Memory

end StatusTimeline
