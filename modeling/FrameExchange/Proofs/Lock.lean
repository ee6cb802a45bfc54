import FrameExchange.Region.Lock

/-!
# How taking and releasing the lock can end

The two operations that every other one is made of, each with all the ways in which it can end
and what the site looks like then. Whoever is refused leaves the site as it was.

- `Acquires`, `Act.acquires` — a guard is refused, nested, the first on a free lock, or the first
  on a lock whose owner died.
- `Releases`, `Act.releases` — a guard was not the last, gives the lock back, or breaks a rule.
- `Act.guarded_ok`, `Act.guarded_error` — an operation between the two.
-/

namespace FrameExchange

/-- The site with the machine of the object in another phase. -/
def Site.rephase (s : Site) (phase : Phase) : Site :=
  { s with book := { s.book with machine := { s.book.machine with phase } } }

/-- The phase in which a machine is changes nothing. -/
theorem Site.rephase_self {s : Site} {phase : Phase} (h : s.book.machine.phase = phase) :
    s.rephase phase = s := by
  subst h
  rfl

/-- Both roles make the moves to take the lock and to give it back. -/
theorem Role.allows_of_mem {role : Role} {source target : Phase}
    (h : (source, target) ∈ lockMoves) : role.allows source target = true := by
  rw [Role.allows, List.contains_iff_mem]
  cases role with
  | writer => exact List.mem_append_left _ h
  | reader => exact List.mem_append_left _ h

namespace Act

variable {α β : Type}

/-! ## Running operations -/

theorem bind_ok {operation : Act α} {next : α → Act β} {s s' : Site} {a : α}
    (h : operation s = .ok a s') : (operation >>= next) s = next a s' := by
  show EStateM.bind operation next s = _
  rw [EStateM.bind, h]

theorem bind_error {operation : Act α} {next : α → Act β} {s s' : Site} {failure : Failure}
    (h : operation s = .error failure s') : (operation >>= next) s = .error failure s' := by
  show EStateM.bind operation next s = _
  rw [EStateM.bind, h]

/-- What came to an answer did so step by step. -/
theorem of_bind {operation : Act α} {next : α → Act β} {s s'' : Site} {b : β}
    (h : (operation >>= next) s = .ok b s'') :
    ∃ a s', operation s = .ok a s' ∧ next a s' = .ok b s'' := by
  cases hfirst : operation s with
  | ok a s' => exact ⟨a, s', rfl, (bind_ok hfirst).symm.trans h⟩
  | error failure s' => cases (bind_error hfirst).symm.trans h

theorem attempt_ok {body : Act α} {s s' : Site} {a : α} (h : body s = .ok a s') :
    attempt body s = .ok (.ok a) s' := by
  rw [attempt, h]

theorem attempt_error {body : Act α} {s s' : Site} {failure : Failure}
    (h : body s = .error failure s') : attempt body s = .ok (.error failure) s' := by
  rw [attempt, h]

theorem get_ok (s : Site) : (get : Act Site) s = .ok s s := rfl

theorem modify_ok (f : Site → Site) (s : Site) : (modify f : Act Unit) s = .ok () (f s) := rfl

theorem load_ok (s : Site) : load s = .ok (Memory.load s.memory) s := rfl

theorem store_ok (h : Header) (s : Site) :
    store h s = .ok () { s with memory := Memory.store s.memory h } := rfl

theorem update_ok (f : Header → Header) (s : Site) : update f s =
    .ok () { s with memory := Memory.store s.memory (f (Memory.load s.memory)) } := rfl

theorem newHeader_ok (gpu : UInt64) (s : Site) : newHeader gpu s =
    .ok (.ofSession gpu (s.host.newSession s.caller.pid).1)
      { s with host := (s.host.newSession s.caller.pid).2 } := rfl

/-- A move of the table that begins where the machine is. -/
theorem move_ok {s : Site} {source : Phase} (target : Phase)
    (hallowed : s.book.machine.role.allows source target = true)
    (hphase : s.book.machine.phase = source) :
    move source target s = .ok () (s.rephase target) := by
  have hmove : s.book.machine.move source target =
      .ok { s.book.machine with phase := target } := by
    rw [PhaseMachine.move, hallowed, if_neg (by decide), if_neg (fun hne => hne hphase)]
  rw [move, bind_ok (get_ok s), hmove]
  rfl

/-- A move of the table that begins elsewhere breaks a rule, and changes nothing. -/
theorem move_elsewhere {s : Site} {source : Phase} (target : Phase)
    (hallowed : s.book.machine.role.allows source target = true)
    (hphase : s.book.machine.phase ≠ source) :
    move source target s =
      .error (.violation (.move (.elsewhere s.book.machine.phase source target))) s := by
  have hmove : s.book.machine.move source target =
      .error (.elsewhere s.book.machine.phase source target) := by
    rw [PhaseMachine.move, hallowed, if_neg (by decide), if_pos hphase]
  rw [move, bind_ok (get_ok s), hmove]
  rfl

/-- A move to the phase that the machine once had puts the old book back. -/
theorem move_back {s t : Site} {source target : Phase}
    (hallowed : s.book.machine.role.allows source target = true)
    (hphase : s.book.machine.phase = target) (hbook : t.book = (s.rephase source).book) :
    move source target t = .ok () { t with book := s.book } := by
  have hmove : move source target t = .ok () (t.rephase target) :=
    move_ok target (by rw [hbook]; exact hallowed) (by rw [hbook]; rfl)
  have hback : (t.rephase target).book = s.book := by
    show { t.book with machine := { t.book.machine with phase := target } } = s.book
    rw [hbook, ← hphase]
    rfl
  rw [hmove, ← hback]
  rfl

end Act

/-! ## Taking the lock -/

/-- The site of a caller who has taken the shared lock for a first guard. -/
def Site.gained (s : Site) : Site :=
  { s with
    book := ⟨{ s.book.machine with phase := .locked }, 1, some s.caller⟩
    mutex := { s.mutex with holding := .held s.caller } }

/-- The site of a caller with one guard more. -/
def Site.nested (s : Site) : Site := { s with book := { s.book with depth := s.book.depth + 1 } }

/-- What it takes to begin with a first guard: no guard is there, neither of another thread nor of
this one, and the machine is where it begins. -/
structure Site.Ready (s : Site) : Prop where
  depth : s.book.depth = 0
  mine : s.book.heldElsewhere s.caller = false
  phase : s.book.machine.phase = .unlocked

/-- How asking for a guard can end. -/
inductive Acquires (mode : LockMode) (s : Site) : EStateM.Result Failure Site Acquired → Prop where
  /-- Another thread has the lock or the object's guards, and the caller does not wait. -/
  | busy : mode = .attempt → Acquires mode s (.ok .busy s)
  | blocked : mode = .blocking → Acquires mode s (.error .blocked s)
  /-- The caller has the lock through another object. -/
  | deadlock : s.Ready → s.mutex.knowsOwner s.caller = true →
      Acquires mode s (.error (.error (.notLocked mode s.names.lock .wouldDeadlock)) s)
  /-- The object was left in a phase in which it cannot begin to take the lock. -/
  | stuck : s.book.depth = 0 → s.book.machine.phase ≠ .unlocked → Acquires mode s
      (.error (.violation (.move (.elsewhere s.book.machine.phase .unlocked .tryLock))) s)
  | nested : 0 < s.book.depth → s.book.heldElsewhere s.caller = false →
      Acquires mode s (.ok (.held false) s.nested)
  | gained : s.Ready → s.mutex.holding = .free → Acquires mode s (.ok (.held false) s.gained)
  /-- The last owner died holding the lock. -/
  | inherited : s.Ready → s.mutex.holding = .orphaned → Acquires mode s
      (.ok (.held true) { s.gained with host := s.host.report (.ownerDied s.names.lock) })

namespace Act

/-- Whoever is in the way is waited for, or not. -/
theorem wait_acquires (mode : LockMode) (s : Site) : Acquires mode s (wait mode s) := by
  cases mode with
  | attempt => exact .busy rfl
  | blocking => exact .blocked rfl

/-- The end of taking the lock: the machine arrives and the guard is counted. -/
theorem enter_ok (s : Site) (mutex : Mutex) (host : Host) (abandoned : Bool) :
    (do move .tryLock .locked
        modify fun t => { t with book := { t.book with depth := 1, holder := some t.caller } }
        return Acquired.held abandoned : Act Acquired)
      { s.rephase .tryLock with mutex, host } =
      .ok (.held abandoned) { s with
        book := ⟨{ s.book.machine with phase := .locked }, 1, some s.caller⟩, mutex, host } := by
  have hlocked : move .tryLock .locked { s.rephase .tryLock with mutex, host } =
      .ok () ({ s.rephase .tryLock with mutex, host }.rephase .locked) :=
    move_ok _ (Role.allows_of_mem (by decide)) rfl
  exact (bind_ok hlocked).trans rfl

/-- One guard more, for the thread that has the others. -/
theorem acquire_nested (mode : LockMode) {s : Site} (hdepth : 0 < s.book.depth)
    (hmine : s.book.heldElsewhere s.caller = false) :
    acquire mode s = .ok (.held false) s.nested := by
  refine (bind_ok (get_ok s)).trans ?_
  rw [if_neg (by rw [hmine]; decide), if_pos hdepth]
  rfl

/-- Without a guard the lock itself is asked for. -/
theorem acquire_first (mode : LockMode) {s : Site} (hdepth : s.book.depth = 0)
    (hmine : s.book.heldElsewhere s.caller = false) : acquire mode s = acquireFirst mode s := by
  refine (bind_ok (get_ok s)).trans ?_
  rw [if_neg (by rw [hmine]; decide), if_neg (by omega)]

/-- The first move for a first guard. -/
theorem try_ok {s : Site} (hready : s.Ready) :
    move .unlocked .tryLock s = .ok () (s.rephase .tryLock) :=
  move_ok _ (Role.allows_of_mem (by decide)) hready.phase

/-- A lock that nobody has. -/
theorem acquireFirst_free (mode : LockMode) {s : Site} (hready : s.Ready)
    (hfree : s.mutex.holding = .free) : acquireFirst mode s = .ok (.held false) s.gained := by
  have htake : s.mutex.take s.caller =
      .ok (.acquired, { s.mutex with holding := .held s.caller }) := by
    rw [Mutex.take, hfree]
  refine (bind_ok (get_ok s)).trans ?_
  refine (bind_ok (try_ok hready)).trans ?_
  rw [htake]
  refine (bind_ok (modify_ok _ _)).trans ?_
  rw [if_neg (by decide)]
  exact enter_ok s { s.mutex with holding := .held s.caller } s.host false

/-- A lock whose owner died holding it. -/
theorem acquireFirst_orphaned (mode : LockMode) {s : Site} (hready : s.Ready)
    (horphaned : s.mutex.holding = .orphaned) : acquireFirst mode s =
      .ok (.held true) { s.gained with host := s.host.report (.ownerDied s.names.lock) } := by
  have htake : s.mutex.take s.caller =
      .ok (.abandoned, { s.mutex with holding := .held s.caller }) := by
    rw [Mutex.take, horphaned]
  refine (bind_ok (get_ok s)).trans ?_
  refine (bind_ok (try_ok hready)).trans ?_
  rw [htake]
  refine (bind_ok (modify_ok _ _)).trans ?_
  rw [if_pos rfl]
  refine (bind_ok (modify_ok _ _)).trans ?_
  exact enter_ok s { s.mutex with holding := .held s.caller }
    (s.host.report (.ownerDied s.names.lock)) true

/-- A lock that the caller has already, through another object: to wait for oneself would never
end. -/
theorem acquireFirst_owner (mode : LockMode) {s : Site} (hready : s.Ready)
    (howner : s.mutex.knowsOwner s.caller = true) : acquireFirst mode s =
      .error (.error (.notLocked mode s.names.lock .wouldDeadlock)) s := by
  have hholding : s.mutex.holding = .held s.caller := by
    rw [Mutex.knowsOwner, Bool.and_eq_true, decide_eq_true_iff, decide_eq_true_iff] at howner
    exact howner.2
  have htake : s.mutex.take s.caller = .error .wouldDeadlock := by
    rw [Mutex.take, hholding]
    exact if_pos howner
  have hback : move .tryLock .unlocked (s.rephase .tryLock) = .ok () (s.rephase .unlocked) :=
    move_ok _ (Role.allows_of_mem (by decide)) rfl
  rw [Site.rephase_self hready.phase] at hback
  refine (bind_ok (get_ok s)).trans ?_
  refine (bind_ok (try_ok hready)).trans ?_
  rw [htake]
  exact bind_ok hback

/-- A lock that somebody else has. -/
theorem acquireFirst_held (mode : LockMode) {s : Site} {owner : Thread} (hready : s.Ready)
    (hheld : s.mutex.holding = .held owner) (howner : s.mutex.knowsOwner s.caller = false) :
    acquireFirst mode s = wait mode s := by
  have htake : s.mutex.take s.caller = .ok (.busy, s.mutex) := by
    rw [Mutex.take, hheld]
    exact if_neg (by rw [howner]; decide)
  refine (bind_ok (get_ok s)).trans ?_
  refine (bind_ok (try_ok hready)).trans ?_
  rw [htake]
  exact bind_ok rfl

/-- An object that was left in the middle of something. -/
theorem acquireFirst_stuck (mode : LockMode) {s : Site}
    (hphase : s.book.machine.phase ≠ .unlocked) : acquireFirst mode s =
      .error (.violation (.move (.elsewhere s.book.machine.phase .unlocked .tryLock))) s := by
  refine (bind_ok (get_ok s)).trans ?_
  exact bind_error (move_elsewhere (s := s) .tryLock (Role.allows_of_mem (by decide)) hphase)

/-- An object whose guards another thread has. -/
theorem acquire_elsewhere (mode : LockMode) {s : Site}
    (helsewhere : s.book.heldElsewhere s.caller = true) : acquire mode s = wait mode s := by
  refine (bind_ok (get_ok s)).trans ?_
  rw [if_pos helsewhere]

/-- Asking for a first guard with the machine where it begins. -/
theorem acquireFirst_ready (mode : LockMode) {s : Site} (hready : s.Ready) :
    Acquires mode s (acquireFirst mode s) := by
  cases hholding : s.mutex.holding with
  | free =>
    rw [acquireFirst_free mode hready hholding]
    exact .gained hready hholding
  | orphaned =>
    rw [acquireFirst_orphaned mode hready hholding]
    exact .inherited hready hholding
  | held owner =>
    cases howner : s.mutex.knowsOwner s.caller with
    | true =>
      rw [acquireFirst_owner mode hready howner]
      exact .deadlock hready howner
    | false =>
      rw [acquireFirst_held mode hready hholding howner]
      exact wait_acquires mode s

/-- Every way in which asking for a guard can end. -/
theorem acquires (mode : LockMode) (s : Site) : Acquires mode s (acquire mode s) := by
  -- guards of other threads count first, then those of the caller, and then the phase
  by_cases hmine : s.book.heldElsewhere s.caller = false
  · by_cases hdepth : 0 < s.book.depth
    · rw [acquire_nested mode hdepth hmine]
      exact .nested hdepth hmine
    · have hzero : s.book.depth = 0 := Nat.eq_zero_of_not_pos hdepth
      rw [acquire_first mode hzero hmine]
      by_cases hphase : s.book.machine.phase = .unlocked
      · exact acquireFirst_ready mode ⟨hzero, hmine, hphase⟩
      · rw [acquireFirst_stuck mode hphase]
        exact .stuck hzero hphase
  · rw [acquire_elsewhere mode (Bool.of_not_eq_false hmine)]
    exact wait_acquires mode s

end Act

/-- Somebody else has the object's guards, or the lock that a first guard would need. -/
def Site.Elsewhere (s : Site) : Prop :=
  s.book.heldElsewhere s.caller = true ∨
    s.Ready ∧ (∃ owner, s.mutex.holding = .held owner) ∧ s.mutex.knowsOwner s.caller = false

/-- Nobody is waited for but those who have what is asked for. -/
theorem Site.elsewhere_of_wait {mode : LockMode} {s : Site}
    (h : Act.acquire mode s = .ok .busy s ∨ Act.acquire mode s = .error .blocked s) :
    s.Elsewhere := by
  have hnot {result : EStateM.Result Failure Site Acquired}
      (hresult : Act.acquire mode s = result) (hbusy : result ≠ .ok .busy s)
      (hblocked : result ≠ .error .blocked s) : False := by
    rw [hresult] at h
    exact h.elim hbusy hblocked
  by_cases hmine : s.book.heldElsewhere s.caller = false
  · by_cases hdepth : 0 < s.book.depth
    · exact (hnot (Act.acquire_nested mode hdepth hmine) (by simp) (by simp)).elim
    · have hzero : s.book.depth = 0 := Nat.eq_zero_of_not_pos hdepth
      have hfirst := Act.acquire_first mode hzero hmine
      by_cases hphase : s.book.machine.phase = .unlocked
      · have hready : s.Ready := ⟨hzero, hmine, hphase⟩
        cases hholding : s.mutex.holding with
        | free =>
          have hresult := hfirst.trans (Act.acquireFirst_free mode hready hholding)
          exact (hnot hresult (by simp) (by simp)).elim
        | orphaned =>
          have hresult := hfirst.trans (Act.acquireFirst_orphaned mode hready hholding)
          exact (hnot hresult (by simp) (by simp)).elim
        | held owner =>
          cases howner : s.mutex.knowsOwner s.caller with
          | false => exact .inr ⟨hready, ⟨owner, hholding⟩, howner⟩
          | true =>
            have hresult := hfirst.trans (Act.acquireFirst_owner mode hready howner)
            exact (hnot hresult (by simp) (by simp)).elim
      · have hresult := hfirst.trans (Act.acquireFirst_stuck mode hphase)
        exact (hnot hresult (by simp) (by simp)).elim
  · exact .inl (Bool.of_not_eq_false hmine)

/-- The caller gets a guard, and not from a dead owner. -/
def Site.Obtains (mode : LockMode) (s : Site) : Prop :=
  ∃ inside, Act.acquire mode s = .ok (.held false) inside

/-- A guard is there for a thread that has one, or when the object can begin and the lock is
free. -/
theorem Site.obtains_iff {mode : LockMode} {s : Site} : s.Obtains mode ↔
    s.book.heldElsewhere s.caller = false ∧
      (0 < s.book.depth ∨ s.Ready ∧ s.mutex.holding = .free) := by
  constructor
  · rintro ⟨inside, hheld⟩
    have hacquires := Act.acquires mode s
    rw [hheld] at hacquires
    cases hacquires with
    | nested hdepth hmine => exact ⟨hmine, .inl hdepth⟩
    | gained hready hfree => exact ⟨hready.mine, .inr ⟨hready, hfree⟩⟩
  · rintro ⟨hmine, hdepth | ⟨hready, hfree⟩⟩
    · exact ⟨_, Act.acquire_nested mode hdepth hmine⟩
    · exact ⟨_, (Act.acquire_first mode hready.depth hmine).trans
        (Act.acquireFirst_free mode hready hfree)⟩

/-- Where somebody else is in the way the caller gets no guard. -/
theorem Site.Elsewhere.not_obtains {mode : LockMode} {s : Site} (h : s.Elsewhere) :
    ¬s.Obtains mode := by
  rw [obtains_iff]
  rintro ⟨hmine, hguards⟩
  rcases h with helsewhere | ⟨hready, ⟨owner, hheld⟩, -⟩
  · rw [hmine] at helsewhere
    cases helsewhere
  · rcases hguards with hdepth | ⟨-, hfree⟩
    · exact absurd hready.depth (Nat.pos_iff_ne_zero.mp hdepth)
    · rw [hheld] at hfree
      cases hfree

/-! ## Giving the lock back -/

/-- The site of a caller with one guard less. -/
def Site.unnested (s : Site) : Site := { s with book := { s.book with depth := s.book.depth - 1 } }

/-- The site of an object whose last guard is gone. -/
def Site.bare (s : Site) : Site := { s with book := ⟨s.book.machine, 0, none⟩ }

/-- The site after the last guard of an object gave the shared lock back. -/
def Site.freed (s : Site) : Site :=
  { s.bare.rephase .unlocked with mutex := { s.mutex with holding := .free } }

/-- How giving back a guard can end. -/
inductive Releases (unwinding : Bool) (s : Site) : EStateM.Result Failure Site Unit → Prop where
  | inner : 1 < s.book.depth → Releases unwinding s (.ok () s.unnested)
  | freed : s.book.depth ≤ 1 → unwinding = true ∨ s.book.machine.phase = .locked →
      s.mutex.release s.caller = .ok { s.mutex with holding := .free } →
      Releases unwinding s (.ok () s.freed)
  /-- The lock is not the caller's to give back. -/
  | kept (reason : OsError) : s.book.depth ≤ 1 →
      unwinding = true ∨ s.book.machine.phase = .locked →
      s.mutex.release s.caller = .error reason → Releases unwinding s
        (.ok () { s.bare.rephase .unlocked with
          host := s.host.report (.notReleased s.names.lock (.notUnlocked s.names.lock reason)) })
  /-- The object is in the middle of something, and nothing excuses it. -/
  | refused : s.book.depth ≤ 1 → unwinding = false → s.book.machine.phase ≠ .locked →
      Releases unwinding s
        (.error (.violation (.move (.elsewhere s.book.machine.phase .locked .unlocked))) s.bare)

/-- A lock that is given back is free. -/
theorem Mutex.release_ok {m m' : Mutex} {caller : Thread} (h : m.release caller = .ok m') :
    m' = { m with holding := .free } := by
  rw [Mutex.release] at h
  split at h
  · cases h
    rfl
  · cases h

namespace Act

/-- The end of giving the lock back, once the machine has arrived. -/
theorem hand_back {unwinding : Bool} {s : Site} (hdepth : s.book.depth ≤ 1)
    (hphase : unwinding = true ∨ s.book.machine.phase = .locked) :
    Releases unwinding s ((do
      let t ← get
      match t.mutex.release t.caller with
      | .ok mutex => set { t with mutex }
      | .error reason => report (.notReleased t.names.lock (.notUnlocked t.names.lock reason)) :
        Act Unit) (s.bare.rephase .unlocked)) := by
  rw [bind_ok (get_ok _)]
  show Releases unwinding s ((match s.mutex.release s.caller with
    | .ok mutex => set { s.bare.rephase .unlocked with mutex }
    | .error reason => report (.notReleased s.names.lock (.notUnlocked s.names.lock reason)) :
      Act Unit) (s.bare.rephase .unlocked))
  cases hrelease : s.mutex.release s.caller with
  | ok mutex =>
    have hfree := Mutex.release_ok hrelease
    subst hfree
    exact .freed hdepth hphase hrelease
  | error reason => exact .kept reason hdepth hphase hrelease

/-- Every way in which giving back a guard can end. -/
theorem releases (unwinding : Bool) (s : Site) : Releases unwinding s (release unwinding s) := by
  by_cases hdepth : 1 < s.book.depth
  · have hinner : release unwinding s = .ok () s.unnested := by
      refine (bind_ok (get_ok s)).trans ?_
      rw [if_pos hdepth]
      rfl
    rw [hinner]
    exact .inner hdepth
  · have hlast : s.book.depth ≤ 1 := Nat.not_lt.mp hdepth
    have hrelease : release unwinding s = releaseLast unwinding s := by
      refine (bind_ok (get_ok s)).trans ?_
      rw [if_neg hdepth]
    rw [hrelease, releaseLast, bind_ok (modify_ok _ _)]
    cases unwinding with
    | true =>
      rw [if_pos rfl, bind_ok (modify_ok _ _)]
      exact hand_back hlast (.inl rfl)
    | false =>
      rw [if_neg (by decide)]
      show Releases false s ((move .locked .unlocked >>= _) s.bare)
      by_cases hphase : s.book.machine.phase = .locked
      · have hback : move .locked .unlocked s.bare = .ok () (s.bare.rephase .unlocked) :=
          move_ok _ (Role.allows_of_mem (by decide)) hphase
        rw [bind_ok hback]
        exact hand_back hlast (.inr hphase)
      · have hback := move_elsewhere (s := s.bare) .unlocked (Role.allows_of_mem (by decide)) hphase
        rw [bind_error hback]
        exact .refused hlast rfl hphase

/-! ## An operation under a guard -/

/-- An operation that came to an answer, and gave back its guard. -/
theorem guarded_ok {body : Act α} {s s' s'' : Site} {a : α} (hbody : body s = .ok a s')
    (hrelease : release false s' = .ok () s'') : guarded body s = .ok a s'' := by
  rw [guarded, bind_ok (attempt_ok hbody)]
  show (release false >>= _) s' = _
  rw [bind_ok hrelease]
  rfl

/-- What came to an answer under a guard has given the guard back. -/
theorem of_guarded {body : Act α} {s s'' : Site} {a : α} (h : guarded body s = .ok a s'') :
    ∃ s', body s = .ok a s' ∧ release false s' = .ok () s'' := by
  rw [guarded] at h
  obtain ⟨outcome, s', hattempt, hrest⟩ := of_bind h
  cases hbody : body s with
  | ok b t =>
    rw [attempt_ok hbody] at hattempt
    cases hattempt
    obtain ⟨⟨⟩, t', hrelease, hlast⟩ := of_bind hrest
    cases hlast
    exact ⟨s', rfl, hrelease⟩
  | error failure t =>
    rw [attempt_error hbody] at hattempt
    cases hattempt
    obtain ⟨_, _, _, hlast⟩ := of_bind hrest
    cases hlast

/-- An operation that failed fails with what went wrong in it, whatever comes of its guard. -/
theorem guarded_error {body : Act α} {s s' s'' : Site} {failure : Failure}
    {outcome : Except Failure Unit} (hbody : body s = .error failure s')
    (hrelease : attempt (release (unwinds failure)) s' = .ok outcome s'') :
    guarded body s = .error failure s'' := by
  rw [guarded, bind_ok (attempt_error hbody)]
  show (attempt (release (unwinds failure)) >>= _) s' = _
  rw [bind_ok hrelease]
  rfl

end Act

end FrameExchange
