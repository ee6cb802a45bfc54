import FrameExchange.Proofs.Invariant

/-!
# Locks, releases and reads, looked at closely

`Effect` says what a call can do to the region. Here is what it did, and why, for the three kinds of
calls where that matters: whoever is refused a guard has a reason, a guard that is given back has a
phase to be given back in, and a read fails in one way only, by waiting for somebody else.

- `Exchange.step_lock`, `Exchange.step_release` — such a step, with how its operation ended.
- `Client.Rests` — a reader without guards is where it can begin.
- `Reader.captureOrEmpty_error` and its like — reads that fail.
-/

namespace FrameExchange

open Act

/-! ## Locks and releases -/

namespace Exchange

variable {x y : Exchange} {caller : Thread} {id : Nat} {answer : Answer}

/-- A living thread's call that did not have to wait ends as its operation does. -/
theorem step_ends {call : Call} (h : x.step caller (.call id call) = some (answer, y)) :
    caller ∉ x.dead ∧ ∃ c operation, x.clients.get? id = some c ∧
      (call.underGuard = true → c.GuardOf caller) ∧ c.operation call = some operation ∧
      x.Ends id c call (operation (x.site caller c.book)) answer y := by
  rw [step.eq_def] at h
  split at h
  · cases h
  · next halive => exact ⟨halive, call_ends h⟩

/-- An operation that leaves the object as it is answers with what it comes to. -/
theorem Ends.answering {c : Client} {call : Call} {α : Type} {operation : Act α}
    {reply : α → Answer} {s : Site}
    (h : x.Ends id c call (Act.answering c.body operation reply s) answer y) :
    ∃ s', y = (x.leave s').put id ⟨c.body, s'.book, c.tokenAfter call answer s'.book⟩ ∧
      ((∃ a, operation s = .ok a s' ∧ answer = reply a) ∨
        ∃ failure, failure ≠ .blocked ∧ operation s = .error failure s' ∧
          answer = .failed failure) := by
  cases hresult : operation s with
  | ok a s' =>
    rw [Act.answering_ok hresult] at h
    cases h with
    | ok => exact ⟨s', rfl, .inl ⟨a, rfl, rfl⟩⟩
  | error failure s' =>
    rw [Act.answering, bind_error hresult] at h
    cases h with
    | error hwaited => exact ⟨s', rfl, .inr ⟨failure, hwaited, rfl, rfl⟩⟩

/-- The answer of a living thread's call that leaves the object as it is, if it gets one. -/
theorem step_answer {c : Client} {call : Call} {α : Type} {operation : Act α} {reply : α → Answer}
    (halive : caller ∉ x.dead) (hclient : x.clients.get? id = some c)
    (hguard : call.underGuard = true → c.GuardOf caller)
    (hoperation : c.operation call = some (Act.answering c.body operation reply)) :
    (x.step caller (.call id call)).map Prod.fst =
      match operation (x.site caller c.book) with
      | .ok a _ => some (reply a)
      | .error .blocked _ => none
      | .error failure _ => some (.failed failure) := by
  rw [step, if_neg halive]
  show (x.call caller id call).map Prod.fst = _
  rw [call_eq_settle hclient hguard hoperation]
  cases hresult : operation (x.site caller c.book) with
  | ok a s' =>
    rw [Act.answering_ok hresult]
    rfl
  | error failure s' =>
    rw [Act.answering, bind_error hresult]
    cases failure <;> rfl

/-- A lock that did not have to wait, with the reason for its answer. -/
theorem step_lock {mode : LockMode} (h : x.step caller (.call id (.lock mode)) = some (answer, y)) :
    ∃ c s' result, x.clients.get? id = some c ∧
      y = (x.leave s').put id ⟨c.body, s'.book, c.tokenAfter (.lock mode) answer s'.book⟩ ∧
      Asks mode (c.body.adapter x.header) (x.site caller c.book) result ∧
      ((∃ acquired, result = .ok acquired s' ∧ answer = .ofAcquired acquired) ∨
        ∃ failure, failure ≠ .blocked ∧ result = .error failure s' ∧
          answer = .failed failure) := by
  obtain ⟨-, c, operation, hclient, -, hoperation, hends⟩ := step_ends h
  obtain ⟨lock, hlock, hasks⟩ := c.operation_lock mode
  rw [hlock] at hoperation
  cases hoperation
  obtain ⟨s', hy, hresult⟩ := hends.answering
  exact ⟨c, s', _, hclient, hy, hasks (x.site caller c.book), hresult⟩

/-- A guard that goes, with how that ended. -/
theorem step_release {unwinding : Bool}
    (h : x.step caller (.call id (.release unwinding)) = some (answer, y)) :
    ∃ c s' result, x.clients.get? id = some c ∧ c.GuardOf caller ∧
      y = (x.leave s').put id ⟨c.body, s'.book, c.tokenAfter (.release unwinding) answer s'.book⟩ ∧
      Releases unwinding (x.site caller c.book) result ∧
      ((result = .ok () s' ∧ answer = .done) ∨
        ∃ failure, result = .error failure s' ∧ answer = .failed failure) := by
  obtain ⟨-, c, operation, hclient, hguard, hoperation, hends⟩ := step_ends h
  cases hoperation
  obtain ⟨s', hy, hresult⟩ := hends.answering
  refine ⟨c, s', _, hclient, hguard rfl, hy, Act.releases _ _, ?_⟩
  rcases hresult with ⟨a, hok, hanswer⟩ | ⟨failure, -, herror, hanswer⟩
  · exact .inl ⟨hok, hanswer⟩
  · exact .inr ⟨failure, herror, hanswer⟩

/-- What is under a number after one object was replaced. -/
theorem get?_put (x : Exchange) (id other : Nat) (c : Client) :
    (x.put id c).clients.get? other = if id = other then some c else x.clients.get? other :=
  Table.get?_insert ..

end Exchange

/-- Guards that no other thread has are those of the caller. -/
theorem Client.Settled.guardOf {c : Client} {caller : Thread} (hsettled : c.Settled)
    (hdepth : 0 < c.book.depth) (hmine : c.book.heldElsewhere caller = false) :
    c.GuardOf caller := by
  refine ⟨hdepth, ?_⟩
  obtain ⟨thread, hholder⟩ := Option.ne_none_iff_exists'.mp (hsettled.held hdepth)
  rw [LockBook.heldElsewhere, hholder] at hmine
  rw [hholder]
  simpa using hmine

/-! ## Readers at rest -/

/-- A reader without guards is in the phase in which it can begin to take the lock. -/
def Client.Rests (c : Client) : Prop :=
  c.body.role = .reader → c.book.depth = 0 → c.book.machine.phase = .unlocked

/-- Objects that were just opened rest. -/
theorem Client.rests_opened (body : Body) : (Client.opened body).Rests := fun _ _ => rfl

namespace Exchange

variable {x y : Exchange} {caller : Thread} {move : Move} {answer : Answer}

/-- A reader that gives back its last guard is where it began. -/
theorem rests_release {id : Nat} {unwinding : Bool} {c : Client}
    (hsettled : ∀ id c, x.clients.get? id = some c → c.Settled)
    (h : x.step caller (.call id (.release unwinding)) = some (answer, y))
    (hclient : y.clients.get? id = some c) : c.Rests := by
  obtain ⟨before, s', result, hbefore, hguard, rfl, hreleases, hresult⟩ := step_release h
  rw [get?_put, if_pos rfl] at hclient
  cases hclient
  intro hreader hzero
  show s'.book.machine.phase = .unlocked
  have hphase : before.book.machine.phase = .locked :=
    (hsettled id before hbefore).reading hreader hguard.1
  rcases hresult with ⟨rfl, -⟩ | ⟨failure, rfl, -⟩
  · cases hreleases with
    | inner hmany =>
      have hleft : before.book.depth - 1 = 0 := hzero
      have hmany : 1 < before.book.depth := hmany
      omega
    | freed => rfl
    | kept => rfl
  · cases hreleases with
    | refused _ _ hother => exact absurd hphase hother

/-- Every step leaves readers without guards at rest. -/
theorem rests_step (hlen : Header.byteSize ≤ x.memory.length)
    (hsettled : ∀ id c, x.clients.get? id = some c → c.Settled)
    (hrests : ∀ id c, x.clients.get? id = some c → c.Rests)
    (h : x.step caller move = some (answer, y)) (id : Nat) (c : Client)
    (hclient : y.clients.get? id = some c) : c.Rests := by
  have hhappens := (happens hsettled hlen h).2
  cases hhappens.comes hclient with
  | kept hbefore => exact hrests id c hbefore
  | @called before call body s' hmove hbefore hguard heffect hbecomes =>
    subst hmove
    have hrebooks := Client.rebooks heffect
    have hkind := Client.role_becomes hbecomes
    intro hrole hzero
    have hreader : before.body.role = .reader := hkind ▸ hrole
    have hwriter {w : Writer} (hbody : before.body = .writer w) : False := by
      rw [hbody] at hreader
      cases hreader
    have hzero : s'.book.depth = 0 := hzero
    show s'.book.machine.phase = .unlocked
    generalize s'.book = book at hrebooks hzero hclient
    cases hrebooks with
    | same => exact hrests id before hbefore hreader hzero
    | deeper => exact absurd hzero (Nat.succ_ne_zero _)
    | first => exact absurd hzero Nat.one_ne_zero
    | shallower hmany =>
      have hmany : 1 < before.book.depth := hmany
      have hleft : before.book.depth - 1 = 0 := hzero
      omega
    | last phase => exact rests_release hsettled h hclient hrole hzero
    | begun _ hbody => exact (hwriter hbody).elim
    | submitted hbody => exact (hwriter hbody).elim
  | attached => exact Client.rests_opened _
  | openedReader => exact Client.rests_opened _
  | openedCached => exact Client.rests_opened _

end Exchange

/-! ## Reads that fail -/

/-- Who is in the way does not depend on the log. -/
theorem Site.Still.elsewhere {s s' : Site} (h : s.Still s') (helsewhere : s'.Elsewhere) :
    s.Elsewhere := by
  rw [h.rest] at helsewhere
  rcases helsewhere with hguards | ⟨⟨hdepth, hmine, hphase⟩, hheld, howner⟩
  · exact .inl hguards
  · exact .inr ⟨⟨hdepth, hmine, hphase⟩, hheld, howner⟩

namespace Reader

variable {s s' : Site} {mode : LockMode} {failure : Failure}

/-- A tidy reader that, without guards, is where it can begin. -/
structure Resting (s : Site) : Prop extends Tidy s where
  rested : s.book.depth = 0 → s.book.machine.phase = .unlocked

theorem Resting.still (hresting : Resting s) (hstill : s.Still s') : Resting s' := by
  refine ⟨hresting.toTidy.still hstill, ?_⟩
  rw [hstill.book]
  exact hresting.rested

/-- The header under a guard that can be given back. -/
theorem guarded_metadata {t : Site} (hrole : s.book.machine.role = .reader)
    (hphase : s.book.machine.phase = .locked) (hrelease : release false s = .ok () t) :
    guarded metadata s = .ok (Memory.load s.memory) t :=
  guarded_ok (metadata_ok hrole hphase) hrelease

/-- A header that is found under the lock of a dead owner is one of a new session. -/
theorem header_recovers (mode : LockMode) (hresting : Resting s) (hready : s.Ready)
    (horphaned : s.mutex.holding = .orphaned) : ∃ s',
    header mode s = .ok (some (Memory.load s'.memory)) s' ∧
      s.Restarted (Memory.load s.memory).gpu s' := by
  obtain ⟨t, hlock, hrenewed⟩ := (Reader.asks mode s).inherits hready horphaned
  have hrelease := release_gained false hready (hresting.idle hready.depth) hrenewed.book
    hrenewed.mutex hrenewed.caller
  have hmetadata := guarded_metadata (s := t) (by rw [hrenewed.book]; exact hresting.role)
    (by rw [hrenewed.book]; rfl) hrelease
  refine ⟨_, ?_, .of_gained horphaned hrenewed⟩
  rw [header_eq_underLock, underLock, bind_ok hlock]
  exact bind_ok hmetadata

/-- A header is refused only by somebody else, or because the caller has the lock itself. -/
theorem header_error (hresting : Resting s) (h : header mode s = .error failure s') :
    (failure = .blocked ∧ mode = .blocking ∧ s.Elsewhere) ∨ ∃ error, failure = .error error := by
  have hfound {t u : Site} {abandoned : Bool} (hlock : lock mode s = .ok (.held abandoned) t)
      (hmetadata : guarded metadata t = .ok (Memory.load t.memory) u) : False := by
    rw [header_eq_underLock, underLock, bind_ok hlock] at h
    cases (bind_ok hmetadata).symm.trans h
  have hasks := Reader.asks mode s
  generalize hlock : lock mode s = result at hasks hfound
  cases hasks with
  | busy =>
    rw [header_eq_underLock, underLock, bind_ok hlock] at h
    cases h
  | blocked hmode helsewhere =>
    rw [header_eq_underLock, underLock, bind_error hlock] at h
    cases h
    exact .inl ⟨rfl, hmode, helsewhere⟩
  | deadlock =>
    rw [header_eq_underLock, underLock, bind_error hlock] at h
    cases h
    exact .inr ⟨_, rfl⟩
  | stuck hdepth hphase => exact absurd (hresting.rested hdepth) hphase
  | nested hdepth =>
    exact (hfound rfl (guarded_metadata hresting.role (hresting.locked hdepth)
      (release_nested false hdepth rfl))).elim
  | gained hready =>
    exact (hfound rfl (guarded_metadata hresting.role rfl
      (release_gained false hready (hresting.idle hready.depth) rfl rfl rfl))).elim
  | recovered hready _ hrenewed =>
    have hrelease := release_gained false hready (hresting.idle hready.depth) hrenewed.book
      hrenewed.mutex hrenewed.caller
    exact (hfound rfl (guarded_metadata (by rw [hrenewed.book]; exact hresting.role)
      (by rw [hrenewed.book]; rfl) hrelease)).elim

/-- Only without a header there is nothing to capture. -/
theorem capture_error {r : Reader} (h : r.capture mode s = .error failure s') :
    header mode s = .error failure s' := by
  cases hheader : header mode s with
  | error other t =>
    rw [capture, bind_error hheader] at h
    cases h
    rfl
  | ok found t =>
    cases found with
    | none =>
      rw [capture, bind_ok hheader] at h
      cases h
    | some seen =>
      obtain ⟨u, -, ⟨-, hcapture⟩ | ⟨-, hcapture⟩⟩ := r.capture_seen hheader
      · rw [hcapture] at h
        cases h
      · rw [hcapture] at h
        cases h

/-- The copy of the header for a read fails only by waiting for somebody else. -/
theorem captureOrEmpty_error {r : Reader} (hresting : Resting s)
    (h : r.captureOrEmpty mode s = .error failure s') :
    failure = .blocked ∧ mode = .blocking ∧ s.Elsewhere := by
  cases hcapture : r.capture mode s with
  | ok captured t =>
    rw [captureOrEmpty, bind_ok (attempt_ok hcapture)] at h
    cases h
  | error other t =>
    rw [captureOrEmpty, bind_ok (attempt_error hcapture)] at h
    rcases header_error hresting (capture_error hcapture) with ⟨rfl, hwaits⟩ | ⟨error, rfl⟩
    · cases h
      exact ⟨rfl, hwaits⟩
    · cases h

/-- A read with pixels fails only by waiting for somebody else. -/
theorem read_error {r : Reader} {kind : ConsumerKind} {gpu : UInt64} {target : Nat}
    {copier : Copier} (hresting : Resting s)
    (h : r.read kind gpu target copier s = .error failure s') :
    failure = .blocked ∧ s.Elsewhere := by
  have hsee := see_still kind s
  rw [read, bind_ok (see_ok kind s)] at h
  cases hcapture : r.captureOrEmpty .blocking { s with host := s.host.see s.caller.pid kind } with
  | error other t =>
    rw [bind_error hcapture] at h
    cases h
    obtain ⟨hwaits, -, helsewhere⟩ := captureOrEmpty_error (hresting.still hsee) hcapture
    exact ⟨hwaits, hsee.elsewhere helsewhere⟩
  | ok captured t =>
    -- once the header is there, nothing fails
    rw [bind_ok hcapture] at h
    obtain ⟨capture, reader⟩ := captured
    cases capture with
    | busy => cases h
    | empty => cases h
    | frame seen =>
      obtain ⟨snapshot, r', copier', u, -, -, hrest⟩ := reader.resolves gpu seen target copier t
      cases hrest.symm.trans h

/-- A read without pixels fails only by waiting for somebody else. -/
theorem metadataSnapshot_error {r : Reader} {kind : ConsumerKind} (hresting : Resting s)
    (h : (do see kind; r.metadataSnapshot mode) s = .error failure s') :
    failure = .blocked ∧ mode = .blocking ∧ s.Elsewhere := by
  have hsee := see_still kind s
  rw [bind_ok (see_ok kind s), metadataSnapshot] at h
  cases hcapture : r.captureOrEmpty mode { s with host := s.host.see s.caller.pid kind } with
  | error other t =>
    rw [bind_error hcapture] at h
    cases h
    obtain ⟨hwaits, hmode, helsewhere⟩ := captureOrEmpty_error (hresting.still hsee) hcapture
    exact ⟨hwaits, hmode, hsee.elsewhere helsewhere⟩
  | ok captured t =>
    rw [bind_ok hcapture] at h
    obtain ⟨capture, reader⟩ := captured
    cases capture <;> cases h

end Reader

namespace CachedReader

variable {s s' : Site} {failure : Failure}

/-- Once there is a header, the rest of a read through a cache does not fail. -/
theorem look_error {c : CachedReader} {copier : Copier}
    (h : c.look copier s = .error failure s') :
    c.reader.captureOrEmpty .attempt s = .error failure s' := by
  cases hcapture : c.reader.captureOrEmpty .attempt s with
  | error other t =>
    rw [look, captureFrame, bind_error (bind_error hcapture)] at h
    cases h
    rfl
  | ok captured t =>
    obtain ⟨capture, reader⟩ := captured
    have hnone (hno : ∀ seen, capture ≠ .frame seen) : False := by
      rw [look, bind_ok (c.captureFrame_none hcapture hno)] at h
      cases h
    cases capture with
    | busy => exact (hnone fun seen heq => by cases heq).elim
    | empty => exact (hnone fun seen heq => by cases heq).elim
    | frame seen =>
      obtain ⟨snapshot, reader', ring, copier', u, -, -, hlook⟩ := c.look_frame copier hcapture
      cases hlook.symm.trans h

/-- A read through a cache waits for nobody, so that it never fails. -/
theorem get_ok (c : CachedReader) (copier : Copier) (hresting : Reader.Resting s) :
    ∃ a s', c.get copier s = .ok a s' := by
  cases hget : c.get copier s with
  | ok a s' => exact ⟨a, s', rfl⟩
  | error failure s' =>
    have hpeek : peekAttached s = .ok (Memory.peekAttached s.memory) s := rfl
    rw [get, bind_ok hpeek] at hget
    by_cases hattached : (!Memory.peekAttached s.memory) = true
    · rw [if_pos hattached] at hget
      cases hget
    · rw [if_neg hattached] at hget
      by_cases hring : c.ring.isEmpty = true
      · rw [if_pos hring] at hget
        cases hget
      · rw [if_neg hring] at hget
        have hkey : Reader.key c.kind s = .ok (Memory.peekKey s.memory)
            { s with host := s.host.see s.caller.pid c.kind } := rfl
        rw [bind_ok hkey] at hget
        by_cases hhit : (c.cache.isValid && c.cache.key == Memory.peekKey s.memory) = true
        · rw [if_pos hhit] at hget
          cases hget
        · rw [if_neg hhit] at hget
          -- a lock that is only tried for is refused without a failure
          have hcapture := look_error (c := c) hget
          have hwaits := Reader.captureOrEmpty_error (hresting.still (Reader.see_still c.kind s))
            hcapture
          cases hwaits.2.1

end CachedReader

end FrameExchange
