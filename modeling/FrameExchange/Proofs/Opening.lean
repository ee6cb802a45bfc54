import Mathlib.Logic.Function.Iterate
import FrameExchange.Proofs.Rendezvous

/-!
# Opening a lock that somebody may have left unfinished

Whoever creates a lock can die before it is set up. What it leaves is a file that is too short or
whose first word is not set, and nobody else will ever finish it. Who opens the lock then waits,
takes the name away and begins once more; a lock that was finished is never taken away from those
who have it.

- `System.Recovers`, `System.openLock_recovers` — what becomes of a name, in one step.
- `Opening` — the same in small steps, each with one look at the file; `Opening.reaches` shows that
  they come to the same end, and when.
- `Circle` — everybody who has opened a lock; `Circle.InOrder.run` follows them.
- `Circle.Governed` — one of them has the lock at a time, and whoever asks gets it in turn.
- `System.lockRecovers` — all of it about one call.
- `System.openLock_vacant` — where there is nothing under the name, nothing is taken away.
-/

namespace FrameExchange

open SharedStore

/-! ## What becomes of the name -/

namespace System

variable {s s' : System} {names : RegionNames} {name : String} {timeout : Duration}
  {id unlinked : Nat}

/-- There is nothing under the name, or a file. -/
def Regular (s : System) (name : String) : Prop :=
  s.store.entries.get? name = none ∨ ∃ id, s.store.entries.get? name = some (.file id)

/-- The store after a new lock was made under the name. -/
def withLock (store : SharedStore) (name : String) : SharedStore :=
  (store.createFile name freshLock).2

/-- How opening a lock ends: how often its name was taken away, which file was opened, and what the
system is like then. -/
inductive Recovers (names : RegionNames) (name : String) (timeout : Duration) (s : System) :
    Nat → Nat → System → Prop where
  | made : s.store.entries.get? name = none →
      Recovers names name timeout s 0 s.store.next { s with store := withLock s.store name }
  /-- The lock was finished. -/
  | attached {id : Nat} : s.store.entries.get? name = some (.file id) →
      isReady (s.store.file id).bytes = true → Recovers names name timeout s 0 id s
  /-- The lock was not finished in time, and is not the one that is opened. -/
  | replaced {id : Nat} : s.store.entries.get? name = some (.file id) →
      isReady (s.store.file id).bytes = false → Recovers names name timeout s 1 s.store.next
        { store := withLock { s.store with entries := s.store.entries.erase name } name
          host := (s.host.sleep timeout.toNanoseconds).report (.lockRecreated names.lock) }

/-- A file can be taken away from its name. -/
theorem unlink_file {store : SharedStore} (hname : osName names.lock = .ok name)
    (hfile : store.entries.get? name = some (.file id)) :
    store.unlink names.lock = .ok { store with entries := store.entries.erase name } := by
  rcases store.unlink_cases names.lock with
    ⟨e, herror, -⟩ | ⟨flat, hflat, ⟨hdirectory, -⟩ | ⟨-, hunlink⟩⟩
  · cases herror.symm.trans hname
  · cases hflat.symm.trans hname
    cases hdirectory.symm.trans hfile
  · cases hflat.symm.trans hname
    exact hunlink

theorem openLockOnce_none (names : RegionNames) (timeout : Duration)
    (hnone : s.store.entries.get? name = none) : s.openLockOnce names name timeout =
      (.ok s.store.next, { s with store := withLock s.store name }) := by
  rw [openLockOnce, hnone]
  rfl

theorem openLockOnce_file (names : RegionNames) (timeout : Duration)
    (hfile : s.store.entries.get? name = some (.file id)) : s.openLockOnce names name timeout =
      if isReady (s.store.file id).bytes then (.ok id, s)
      else (.error (.neverReady names.lock),
        { s with host := s.host.sleep timeout.toNanoseconds }) := by
  rw [openLockOnce, hfile]

/-- Opening a lock always succeeds where nothing but a file stands under its name. -/
theorem openLock_recovers (timeout : Duration) (hname : osName names.lock = .ok name)
    (hregular : s.Regular name) : ∃ unlinked id s',
      s.openLock names timeout = (.ok id, s') ∧ Recovers names name timeout s unlinked id s' := by
  rw [openLock, hname]
  dsimp only
  rcases hregular with hnone | ⟨id, hfile⟩
  · rw [openLockOnce_none names timeout hnone]
    exact ⟨0, _, _, rfl, .made hnone⟩
  · rw [openLockOnce_file names timeout hfile]
    cases hready : isReady (s.store.file id).bytes with
    | true =>
      rw [if_pos rfl]
      exact ⟨0, _, _, rfl, .attached hfile hready⟩
    | false =>
      rw [if_neg (by decide)]
      dsimp only
      rw [unlink_file hname hfile]
      dsimp only
      have hgone : (s.store.entries.erase name).get? name = none := by
        rw [Table.get?_erase, if_pos rfl]
      rw [openLockOnce_none names timeout hgone]
      exact ⟨1, _, _, rfl, .replaced hfile hready⟩

/-! ## The lock that was opened -/

/-- A finished lock stands under the name. -/
structure Standing (name : String) (lock : Nat) (s : System) : Prop where
  entry : s.store.entries.get? name = some (.file lock)
  ready : isReady (s.store.file lock).bytes = true

/-- Who opens the lock then attaches to it, and changes nothing. -/
theorem Standing.openLock (h : Standing name id s) (hname : osName names.lock = .ok name)
    (timeout : Duration) : s.openLock names timeout = (.ok id, s) := by
  rw [System.openLock, hname]
  dsimp only
  rw [openLockOnce_file names timeout h.entry, if_pos h.ready]

/-- A new lock stands under its name, ready and free. -/
theorem standing_withLock (s : System) (name : String) :
    Standing name s.store.next { s with store := withLock s.store name } ∧
      (withLock s.store name).file s.store.next = freshLock := by
  have hfile : (withLock s.store name).file s.store.next = freshLock := by
    unfold withLock SharedStore.createFile SharedStore.file
    rw [Table.get?_insert, if_pos rfl]
    rfl
  refine ⟨⟨?_, ?_⟩, hfile⟩
  · exact (Table.get?_insert s.store.entries name name (SharedEntry.file s.store.next)).trans
      (if_pos rfl)
  · show isReady ((withLock s.store name).file s.store.next).bytes = true
    rw [hfile]
    decide +kernel

/-- Whatever was opened stands under the name. -/
theorem Recovers.standing (h : Recovers names name timeout s unlinked id s') :
    Standing name id s' := by
  cases h with
  | made => exact (standing_withLock s name).1
  | attached hfile hready => exact ⟨hfile, hready⟩
  | replaced =>
    have hstanding := (standing_withLock
      { s with store := { s.store with entries := s.store.entries.erase name } } name).1
    exact ⟨hstanding.entry, hstanding.ready⟩

/-- A new lock is no other file, and leaves all files as they are. -/
theorem file_withLock (store : SharedStore) (name : String) {number : Nat}
    (hold : number < store.next) : (withLock store name).file number = store.file number := by
  unfold withLock SharedStore.createFile SharedStore.file
  rw [Table.get?_insert, if_neg (by omega)]

end System

/-! ## Small steps -/

/-- The host at another time. -/
def Host.atTime (h : Host) (clock : Nat) : Host := { h with clock }

/-- To have slept before does not matter then. -/
theorem Host.atTime_sleep (h : Host) (ns clock : Nat) (event : Event) :
    ((h.sleep ns).report event).atTime clock = (h.atTime clock).report event := rfl

/-- Where somebody who opens a lock is. -/
inductive Stage where
  /-- About to make the file, unless the name is taken. -/
  | creates
  /-- About to open the file that has the name. -/
  | attaches
  /-- The file is open, and may be too short. -/
  | awaitsLength (id : Nat)
  /-- The file is long enough, and its first word may not be set. -/
  | awaitsReady (id : Nat)
  | ends (result : Except RegionError Nat)

/-- The opening of a lock, between two steps. -/
structure Opening where
  system : System
  stage : Stage
  /-- When this round ceases to wait. -/
  deadline : Nat
  /-- How many rounds were begun. -/
  rounds : Nat
  /-- How often the name was taken away. -/
  unlinked : Nat

namespace Opening

/-- The nanoseconds between two looks at a file that is not finished. -/
def pollInterval : Nat := 1000000

/-- The beginning of the first round. -/
def start (timeout : Duration) (s : System) : Opening :=
  ⟨s, .creates, s.host.clock + timeout.toNanoseconds, 1, 0⟩

/-- The same moment, but for the clock. -/
def atTime (o : Opening) (clock : Nat) : Opening :=
  { o with system := { o.system with host := o.system.host.atTime clock } }

/-- The end of a round that has waited for too long: of the first one another begins. -/
def expire (names : RegionNames) (timeout : Duration) (o : Opening) : Opening :=
  if o.rounds < 2 then
    let host := o.system.host.report (.lockRecreated names.lock)
    match o.system.store.unlink names.lock with
    | .error error => { o with system := ⟨o.system.store, host⟩, stage := .ends (.error error) }
    | .ok store =>
      ⟨⟨store, host⟩, .creates, host.clock + timeout.toNanoseconds, o.rounds + 1, o.unlinked + 1⟩
  else { o with stage := .ends (.error (.neverReady names.lock)) }

/-- Sleep until the next look, unless the deadline has come. -/
def wait (names : RegionNames) (timeout : Duration) (o : Opening) : Opening :=
  if o.deadline ≤ o.system.host.clock then o.expire names timeout
  else o.atTime (o.system.host.clock + pollInterval)

/-- One call of the system, and what is made of its result. -/
def step (names : RegionNames) (name : String) (timeout : Duration) (o : Opening) : Opening :=
  match o.stage with
  | .creates =>
    match o.system.store.entries.get? name with
    | none =>
      { o with
        system := { o.system with store := System.withLock o.system.store name }
        stage := .ends (.ok o.system.store.next) }
    | some _ => { o with stage := .attaches }
  | .attaches =>
    match o.system.store.entries.get? name with
    -- the name was taken away in between
    | none =>
      if o.deadline ≤ o.system.host.clock then o.expire names timeout
      else { o with stage := .creates }
    | some (.file id) => { o with stage := .awaitsLength id }
    | some .directory => { o with stage := .ends (.error (.notOpened names.lock .invalidArgument)) }
    | some .link => { o with stage := .ends (.error (.notOpened names.lock .linkLoop)) }
  | .awaitsLength id =>
    if lockSize ≤ (o.system.store.file id).bytes.length then { o with stage := .awaitsReady id }
    else o.wait names timeout
  | .awaitsReady id =>
    if Memory.word32 (o.system.store.file id).bytes 0 = lockReady then
      { o with stage := .ends (.ok id) }
    else o.wait names timeout
  | .ends _ => o

section Steps

variable (names : RegionNames) (name : String) (timeout : Duration)

/-- Some number of steps leads from one moment to another. -/
def Reaches (o o' : Opening) : Prop := ∃ n, (step names name timeout)^[n] o = o'

variable {names name timeout} {o o' o'' : Opening} {id unlinked : Nat} {s s' : System}

theorem Reaches.refl (o : Opening) : Reaches names name timeout o o := ⟨0, rfl⟩

theorem Reaches.trans (first : Reaches names name timeout o o')
    (second : Reaches names name timeout o' o'') : Reaches names name timeout o o'' := by
  obtain ⟨n, rfl⟩ := first
  obtain ⟨m, rfl⟩ := second
  exact ⟨m + n, Function.iterate_add_apply _ _ _ _⟩

theorem Reaches.of_step (h : o.step names name timeout = o') : Reaches names name timeout o o' :=
  ⟨1, h⟩

/-- There are two rounds at most, and the name was taken away between them. -/
def Counted (o : Opening) : Prop := o.rounds ≤ 2 ∧ o.unlinked + 1 = o.rounds

theorem Counted.expire (h : o.Counted) : (o.expire names timeout).Counted := by
  unfold Opening.expire
  split
  · next hfirst =>
    dsimp only
    split
    · exact h
    · exact ⟨hfirst, congrArg (· + 1) h.2⟩
  · exact h

theorem Counted.wait (h : o.Counted) : (o.wait names timeout).Counted := by
  unfold Opening.wait
  split
  · exact h.expire
  · exact h

theorem Counted.step (h : o.Counted) : (o.step names name timeout).Counted := by
  unfold Opening.step
  split
  · -- about to make the file
    split
    · exact h
    · exact h
  · -- about to open it
    split
    · split
      · exact h.expire
      · exact h
    · exact h
    · exact h
    · exact h
  · -- waiting for its length
    split
    · exact h
    · exact h.wait
  · -- waiting for its first word
    split
    · exact h
    · exact h.wait
  · exact h

theorem counted (n : Nat) (s : System) :
    ((Opening.step names name timeout)^[n] (start timeout s)).Counted := by
  induction n with
  | zero => exact ⟨Nat.le_succ 1, rfl⟩
  | succ n ih =>
    rw [Function.iterate_succ_apply']
    exact ih.step

/-! ## Waiting -/

/-- Whenever the file is looked at, it is not finished. -/
def Stuck (names : RegionNames) (name : String) (timeout : Duration) (o : Opening) : Prop :=
  ∀ clock, (o.atTime clock).step names name timeout = (o.atTime clock).wait names timeout

/-- Nobody else finishes the file, so the deadline comes; it is missed by less than the time between
two looks. -/
theorem Stuck.expires (hstuck : Stuck names name timeout o) {clock : Nat}
    (hclock : clock ≤ o.deadline) : ∃ late, o.deadline ≤ late ∧
      late < o.deadline + pollInterval ∧
      Reaches names name timeout (o.atTime clock) ((o.atTime late).expire names timeout) := by
  have hpoll : 0 < pollInterval := by decide
  induction hleft : o.deadline - clock using Nat.strongRecOn generalizing clock with
  | ind left ih =>
    have hstep := hstuck clock
    by_cases hcome : o.deadline ≤ clock
    · refine ⟨clock, hcome, by omega, .of_step ?_⟩
      rw [hstep, wait]
      exact if_pos hcome
    · have hsleep : Reaches names name timeout (o.atTime clock)
          (o.atTime (clock + pollInterval)) := by
        refine .of_step ?_
        rw [hstep, wait]
        exact if_neg hcome
      by_cases hnext : clock + pollInterval ≤ o.deadline
      · obtain ⟨late, hcome', hlate, hreaches⟩ := ih _ (by omega) hnext rfl
        exact ⟨late, hcome', hlate, hsleep.trans hreaches⟩
      · refine ⟨clock + pollInterval, by omega, by omega, hsleep.trans (.of_step ?_)⟩
        rw [hstuck, wait]
        exact if_pos (show o.deadline ≤ clock + pollInterval by omega)

theorem stuck_of_short (hstage : o.stage = .awaitsLength id)
    (hshort : ¬lockSize ≤ (o.system.store.file id).bytes.length) :
    Stuck names name timeout o := by
  intro clock
  obtain ⟨system, stage, deadline, rounds, unlinked⟩ := o
  cases hstage
  exact if_neg hshort

theorem stuck_of_unset (hstage : o.stage = .awaitsReady id)
    (hunset : ¬Memory.word32 (o.system.store.file id).bytes 0 = lockReady) :
    Stuck names name timeout o := by
  intro clock
  obtain ⟨system, stage, deadline, rounds, unlinked⟩ := o
  cases hstage
  exact if_neg hunset

/-- A file that is finished is long enough, and its first word is set. -/
theorem isReady_eq_true_iff {bytes : Bytes} : isReady bytes = true ↔
    lockSize ≤ bytes.length ∧ Memory.word32 bytes 0 = lockReady := by
  rw [isReady, Bool.and_eq_true, decide_eq_true_iff, beq_iff_eq]

/-! ## Rounds -/

variable {store : SharedStore} {host : Host} {deadline rounds : Nat}

/-- A round that finds nothing under the name makes a new lock. -/
theorem reaches_made (hnone : store.entries.get? name = none) :
    Reaches names name timeout ⟨⟨store, host⟩, .creates, deadline, rounds, unlinked⟩
      ⟨⟨System.withLock store name, host⟩, .ends (.ok store.next), deadline, rounds, unlinked⟩ := by
  refine .of_step ?_
  unfold step
  dsimp only
  rw [hnone]

/-- From the beginning of a round to the first look at the file. -/
theorem reaches_attached (hfile : store.entries.get? name = some (.file id)) :
    Reaches names name timeout ⟨⟨store, host⟩, .creates, deadline, rounds, unlinked⟩
      ⟨⟨store, host⟩, .awaitsLength id, deadline, rounds, unlinked⟩ := by
  have hfirst : step names name timeout ⟨⟨store, host⟩, .creates, deadline, rounds, unlinked⟩ =
      ⟨⟨store, host⟩, .attaches, deadline, rounds, unlinked⟩ := by
    unfold step
    dsimp only
    rw [hfile]
  have hsecond : step names name timeout ⟨⟨store, host⟩, .attaches, deadline, rounds, unlinked⟩ =
      ⟨⟨store, host⟩, .awaitsLength id, deadline, rounds, unlinked⟩ := by
    unfold step
    dsimp only
    rw [hfile]
  exact (Reaches.of_step hfirst).trans (.of_step hsecond)

/-- A round that finds a finished lock ends with it. -/
theorem reaches_ready (hready : isReady (store.file id).bytes = true) :
    Reaches names name timeout ⟨⟨store, host⟩, .awaitsLength id, deadline, rounds, unlinked⟩
      ⟨⟨store, host⟩, .ends (.ok id), deadline, rounds, unlinked⟩ := by
  obtain ⟨hlong, hset⟩ := isReady_eq_true_iff.mp hready
  have hfirst : step names name timeout
      ⟨⟨store, host⟩, .awaitsLength id, deadline, rounds, unlinked⟩ =
      ⟨⟨store, host⟩, .awaitsReady id, deadline, rounds, unlinked⟩ := if_pos hlong
  have hsecond : step names name timeout
      ⟨⟨store, host⟩, .awaitsReady id, deadline, rounds, unlinked⟩ =
      ⟨⟨store, host⟩, .ends (.ok id), deadline, rounds, unlinked⟩ := if_pos hset
  exact (Reaches.of_step hfirst).trans (.of_step hsecond)

/-- A round that finds a lock that was never finished waits until its deadline, in one of two
ways. -/
theorem reaches_expired (hready : isReady (store.file id).bytes = false)
    (hclock : host.clock ≤ deadline) : ∃ late stage, deadline ≤ late ∧
      late < deadline + pollInterval ∧
      Reaches names name timeout ⟨⟨store, host⟩, .awaitsLength id, deadline, rounds, unlinked⟩
        (expire names timeout
          ⟨⟨store, host.atTime late⟩, stage, deadline, rounds, unlinked⟩) := by
  by_cases hlong : lockSize ≤ (store.file id).bytes.length
  · have hunset : ¬Memory.word32 (store.file id).bytes 0 = lockReady := by
      intro hset
      rw [isReady_eq_true_iff.mpr ⟨hlong, hset⟩] at hready
      cases hready
    have hfirst : Reaches names name timeout
        ⟨⟨store, host⟩, .awaitsLength id, deadline, rounds, unlinked⟩
        ⟨⟨store, host⟩, .awaitsReady id, deadline, rounds, unlinked⟩ := .of_step (if_pos hlong)
    have hstuck : Stuck names name timeout
        ⟨⟨store, host⟩, .awaitsReady id, deadline, rounds, unlinked⟩ := stuck_of_unset rfl hunset
    obtain ⟨late, hcome, hlate, hwaits⟩ := hstuck.expires hclock
    exact ⟨late, _, hcome, hlate, hfirst.trans hwaits⟩
  · have hstuck : Stuck names name timeout
        ⟨⟨store, host⟩, .awaitsLength id, deadline, rounds, unlinked⟩ := stuck_of_short rfl hlong
    obtain ⟨late, hcome, hlate, hwaits⟩ := hstuck.expires hclock
    exact ⟨late, _, hcome, hlate, hwaits⟩

/-- The end of the first round takes the name of a file away. -/
theorem expire_first {stage : Stage} (hname : osName names.lock = .ok name)
    (hfile : store.entries.get? name = some (.file id)) :
    expire names timeout ⟨⟨store, host⟩, stage, deadline, 1, unlinked⟩ =
      ⟨⟨{ store with entries := store.entries.erase name },
          host.report (.lockRecreated names.lock)⟩,
        .creates, host.clock + timeout.toNanoseconds, 2, unlinked + 1⟩ := by
  rw [expire, if_pos (Nat.lt_succ_self 1)]
  dsimp only
  rw [System.unlink_file hname hfile]
  rfl

/-- The small steps come to the end that the whole call has, some time between its moment and the
next look. -/
theorem reaches (hname : osName names.lock = .ok name)
    (h : System.Recovers names name timeout s unlinked id s') : ∃ clock deadline,
      s'.host.clock ≤ clock ∧ clock < s'.host.clock + pollInterval ∧
      Reaches names name timeout (start timeout s)
        ⟨⟨s'.store, s'.host.atTime clock⟩, .ends (.ok id), deadline, unlinked + 1, unlinked⟩ := by
  have hpoll : 0 < pollInterval := by decide
  cases h with
  | made hnone =>
    exact ⟨s.host.clock, _, Nat.le_refl _, Nat.lt_add_of_pos_right hpoll, reaches_made hnone⟩
  | attached hfile hready =>
    exact ⟨s.host.clock, _, Nat.le_refl _, Nat.lt_add_of_pos_right hpoll,
      (reaches_attached hfile).trans (reaches_ready hready)⟩
  | @replaced id hfile hready =>
    have hattached : Reaches names name timeout (start timeout s)
        ⟨s, .awaitsLength id, s.host.clock + timeout.toNanoseconds, 1, 0⟩ := reaches_attached hfile
    obtain ⟨late, stage, hcome, hlate, hexpired⟩ := reaches_expired hready
      (Nat.le_add_right s.host.clock timeout.toNanoseconds)
    have hgone : (s.store.entries.erase name).get? name = none := by
      rw [Table.get?_erase, if_pos rfl]
    rw [expire_first hname hfile] at hexpired
    refine ⟨late, late + timeout.toNanoseconds, hcome, hlate, ?_⟩
    dsimp only
    rw [Host.atTime_sleep]
    exact (hattached.trans hexpired).trans (reaches_made hgone)

end Steps

end Opening

/-! ## Everybody who has opened the lock -/

/-- The objects that have opened one lock, by number, on a system some of whose threads have
died. -/
structure Circle where
  system : System
  members : Table Nat OpenRegion
  dead : List Thread

namespace Circle

/-- The object with this number has guards, and this thread has them. -/
def Guards (c : Circle) (id : Nat) (thread : Thread) : Prop :=
  ∃ r, c.members.get? id = some r ∧ 0 < r.book.depth ∧ r.book.holder = some thread

/-- What the objects do, and what is done around them. Whoever is not one of them leaves name and
file of the lock alone; so do the objects while they use the mapping. -/
inductive Step (names : RegionNames) (name : String) (lock : Nat) (c : Circle) : Circle → Prop where
  | opens {id file : Nat} {s' : System} (timeout : Duration) (role : Role) (mapping : Nat) :
      c.members.get? id = none → c.system.openLock names timeout = (.ok file, s') →
      Step names name lock c
        ⟨s', c.members.insert id ⟨names, mapping, file, .fresh role⟩, c.dead⟩
  | locks {id : Nat} {r r' : OpenRegion} {s' : System} {outcome : Except Failure Acquired}
      (caller : Thread) (mode : LockMode) : c.members.get? id = some r → caller ∉ c.dead →
      c.system.act caller r (Act.acquire mode) = (outcome, r', s') →
      Step names name lock c ⟨s', c.members.insert id r', c.dead⟩
  /-- A guard is given back by the thread that has it. -/
  | releases {id : Nat} {r r' : OpenRegion} {s' : System} {outcome : Except Failure Unit}
      (caller : Thread) (unwinding : Bool) : c.members.get? id = some r → caller ∉ c.dead →
      0 < r.book.depth → r.book.holder = some caller →
      c.system.act caller r (Act.release unwinding) = (outcome, r', s') →
      Step names name lock c ⟨s', c.members.insert id r', c.dead⟩
  | closes {id : Nat} {r : OpenRegion} : c.members.get? id = some r → r.book.depth = 0 →
      Step names name lock c ⟨c.system, c.members.erase id, c.dead⟩
  | dies (thread : Thread) :
      Step names name lock c ⟨c.system.threadDies thread, c.members, thread :: c.dead⟩
  | aside {s' : System} : s'.store.entries.get? name = c.system.store.entries.get? name →
      s'.store.file lock = c.system.store.file lock → Step names name lock c ⟨s', c.members, c.dead⟩

/-- All of them have the same lock, which stands under its name; whoever is alive and has guards has
the lock, and no two of them have it at once. -/
structure InOrder (name : String) (lock : Nat) (c : Circle) : Prop where
  standing : c.system.Standing name lock
  shared : ∀ id r, c.members.get? id = some r → r.lock = lock
  owned : ∀ id r, c.members.get? id = some r → 0 < r.book.depth → r.book.holder ≠ none
  held : ∀ id thread, c.Guards id thread → thread ∉ c.dead →
    (c.system.store.file lock).mutex.holding = .held thread
  alone : ∀ id id' thread, c.Guards id thread → c.Guards id' thread → thread ∉ c.dead → id = id'

variable {names : RegionNames} {name : String} {lock : Nat} {c c' : Circle} {id : Nat}
  {r r' : OpenRegion} {caller thread : Thread}

/-- Living threads have guards of one object at most. -/
theorem InOrder.excludes (h : c.InOrder name lock) {id id' : Nat} {thread thread' : Thread}
    (hguards : c.Guards id thread) (hguards' : c.Guards id' thread') (halive : thread ∉ c.dead)
    (halive' : thread' ∉ c.dead) : id = id' ∧ thread = thread' := by
  have hheld := h.held id thread hguards halive
  have hheld' := h.held id' thread' hguards' halive'
  cases hheld.symm.trans hheld'
  exact ⟨h.alone id id' thread hguards hguards' halive, rfl⟩

/-- A change of one object concerns the guards of this one. -/
theorem guards_insert {s : System} {dead : List Thread} {other : Nat} :
    Guards ⟨s, c.members.insert id r', dead⟩ other thread ↔
      id = other ∧ 0 < r'.book.depth ∧ r'.book.holder = some thread ∨
        id ≠ other ∧ c.Guards other thread := by
  have hget : (c.members.insert id r').get? other =
      if id = other then some r' else c.members.get? other := Table.get?_insert _ _ _ _
  by_cases heq : id = other
  · rw [if_pos heq] at hget
    constructor
    · rintro ⟨r, hmember, hguards⟩
      cases hget.symm.trans hmember
      exact .inl ⟨heq, hguards⟩
    · rintro (⟨-, hguards⟩ | ⟨hne, -⟩)
      · exact ⟨r', hget, hguards⟩
      · exact absurd heq hne
  · rw [if_neg heq] at hget
    constructor
    · rintro ⟨r, hmember, hguards⟩
      exact .inr ⟨heq, r, hget.symm.trans hmember, hguards⟩
    · rintro (⟨hsame, -⟩ | ⟨-, r, hmember, hguards⟩)
      · exact absurd hsame heq
      · exact ⟨r, hget.trans hmember, hguards⟩

/-! ## What an object does -/

/-- An operation that writes no memory leaves the files as they are, but for one lock. -/
theorem file_leave {s : System} {site : Site}
    (hmemory : site.memory = (s.store.file r.mapping).bytes) (number : Nat) :
    (s.leave r site).store.file number = if r.lock = number
      then { s.store.file number with mutex := site.mutex } else s.store.file number := by
  have hmapped (other : Nat) : (s.store.setFile r.mapping
      { s.store.file r.mapping with bytes := site.memory }).file other = s.store.file other := by
    rw [SharedStore.file_setFile, hmemory]
    split
    · next heq => rw [heq]
    · rfl
  show (SharedStore.setFile _ r.lock _).file number = _
  rw [SharedStore.file_setFile, hmapped, hmapped]
  split
  · next heq => rw [heq]
  · rfl

/-- An object whose guards have changed, with the lock that goes with them. -/
theorem InOrder.update (h : c.InOrder name lock) (hmember : c.members.get? id = some r)
    {site : Site} (hmemory : site.memory = (c.system.store.file r.mapping).bytes)
    (howned : 0 < site.book.depth → site.book.holder ≠ none)
    (hheld : ∀ thread, thread ∉ c.dead → 0 < site.book.depth →
      site.book.holder = some thread → site.mutex.holding = .held thread)
    (hothers : ∀ other thread, id ≠ other → c.Guards other thread → thread ∉ c.dead →
      site.mutex.holding = .held thread ∧
        ¬(0 < site.book.depth ∧ site.book.holder = some thread)) :
    InOrder name lock ⟨c.system.leave r site,
      c.members.insert id { r with book := site.book }, c.dead⟩ := by
  have hlock := h.shared id r hmember
  have hfile : (c.system.leave r site).store.file lock =
      { c.system.store.file lock with mutex := site.mutex } := by
    rw [file_leave hmemory, if_pos hlock]
  have hget (other : Nat) : (c.members.insert id { r with book := site.book }).get? other =
      if id = other then some { r with book := site.book } else c.members.get? other :=
    Table.get?_insert _ _ _ _
  constructor
  · refine ⟨h.standing.entry, ?_⟩
    rw [hfile]
    exact h.standing.ready
  · intro other r' hr'
    replace hr' := (hget other).symm.trans hr'
    split at hr'
    · cases hr'
      exact hlock
    · exact h.shared other r' hr'
  · intro other r' hr'
    replace hr' := (hget other).symm.trans hr'
    split at hr'
    · cases hr'
      exact howned
    · exact h.owned other r' hr'
  · intro other thread hguards halive
    show ((c.system.leave r site).store.file lock).mutex.holding = _
    rw [hfile]
    rcases guards_insert.mp hguards with ⟨-, hdepth, hholder⟩ | ⟨hne, hbefore⟩
    · exact hheld thread halive hdepth hholder
    · exact (hothers other thread hne hbefore halive).1
  · intro other other' thread hguards hguards' halive
    rcases guards_insert.mp hguards with ⟨rfl, hhas⟩ | ⟨hne, hbefore⟩ <;>
      rcases guards_insert.mp hguards' with ⟨rfl, hhas'⟩ | ⟨hne', hbefore'⟩
    · rfl
    · exact absurd hhas (hothers other' thread hne' hbefore' halive).2
    · exact absurd hhas' (hothers other thread hne hbefore halive).2
    · exact h.alone other other' thread hbefore hbefore' halive

/-- The lock stays with those who have it as long as no other guards are there than before. -/
theorem InOrder.keep (h : c.InOrder name lock) (hmember : c.members.get? id = some r) {site : Site}
    (hmemory : site.memory = (c.system.store.file r.mapping).bytes)
    (hmutex : site.mutex = (c.system.store.file r.lock).mutex)
    (hbook : 0 < site.book.depth → 0 < r.book.depth ∧ site.book.holder = r.book.holder) :
    InOrder name lock ⟨c.system.leave r site,
      c.members.insert id { r with book := site.book }, c.dead⟩ := by
  rw [h.shared id r hmember] at hmutex
  have hbefore {thread : Thread} (hdepth : 0 < site.book.depth)
      (hholder : site.book.holder = some thread) : c.Guards id thread := by
    obtain ⟨hpos, hsame⟩ := hbook hdepth
    exact ⟨r, hmember, hpos, hsame.symm.trans hholder⟩
  refine h.update hmember hmemory (fun hdepth => ?_) (fun thread halive hdepth hholder => ?_)
    fun other thread hne hguards halive => ⟨?_, ?_⟩
  · obtain ⟨hpos, hsame⟩ := hbook hdepth
    rw [hsame]
    exact h.owned id r hmember hpos
  · rw [hmutex]
    exact h.held id thread (hbefore hdepth hholder) halive
  · rw [hmutex]
    exact h.held other thread hguards halive
  · rintro ⟨hdepth, hholder⟩
    exact hne (h.alone id other thread (hbefore hdepth hholder) hguards halive)

/-- Whoever gets the lock gets it alone, because those who are alive did not have it. -/
theorem InOrder.gain (h : c.InOrder name lock) (hmember : c.members.get? id = some r) {site : Site}
    (hmemory : site.memory = (c.system.store.file r.mapping).bytes)
    (hbefore : ∀ owner, (c.system.store.file r.lock).mutex.holding ≠ .held owner)
    (hmutex : site.mutex.holding = .held caller) (hholder : site.book.holder = some caller) :
    InOrder name lock ⟨c.system.leave r site,
      c.members.insert id { r with book := site.book }, c.dead⟩ := by
  rw [h.shared id r hmember] at hbefore
  refine h.update hmember hmemory (fun _ => ?_) (fun thread _ _ hthread => ?_)
    fun other thread _ hguards halive => absurd (h.held other thread hguards halive) (hbefore _)
  · rw [hholder]
    exact fun heq => by cases heq
  · cases hholder.symm.trans hthread
    exact hmutex

theorem InOrder.locks {mode : LockMode} {outcome : Except Failure Acquired} {s' : System}
    (h : c.InOrder name lock) (hmember : c.members.get? id = some r)
    (hact : c.system.act caller r (Act.acquire mode) = (outcome, r', s')) :
    InOrder name lock ⟨s', c.members.insert id r', c.dead⟩ := by
  have hacquires := Act.acquires mode (c.system.site caller r)
  unfold System.act at hact
  generalize Act.acquire mode (c.system.site caller r) = result at hact hacquires
  have hsame : InOrder name lock ⟨c.system.leave r (c.system.site caller r),
      c.members.insert id { r with book := (c.system.site caller r).book }, c.dead⟩ :=
    h.keep hmember rfl rfl fun hdepth => ⟨hdepth, rfl⟩
  cases hacquires with
  | busy => cases hact; exact hsame
  | blocked => cases hact; exact hsame
  | deadlock => cases hact; exact hsame
  | stuck => cases hact; exact hsame
  | nested hdepth =>
    cases hact
    exact h.keep hmember rfl rfl fun _ => ⟨hdepth, rfl⟩
  | gained _ hfree =>
    cases hact
    refine h.gain hmember rfl (fun owner hheld => ?_) rfl rfl
    cases hfree.symm.trans hheld
  | inherited _ horphaned =>
    cases hact
    refine h.gain hmember rfl (fun owner hheld => ?_) rfl rfl
    cases horphaned.symm.trans hheld

theorem InOrder.releases {unwinding : Bool} {outcome : Except Failure Unit} {s' : System}
    (h : c.InOrder name lock) (hmember : c.members.get? id = some r) (halive : caller ∉ c.dead)
    (hdepth : 0 < r.book.depth) (hholder : r.book.holder = some caller)
    (hact : c.system.act caller r (Act.release unwinding) = (outcome, r', s')) :
    InOrder name lock ⟨s', c.members.insert id r', c.dead⟩ := by
  have hreleases := Act.releases unwinding (c.system.site caller r)
  unfold System.act at hact
  generalize Act.release unwinding (c.system.site caller r) = result at hact hreleases
  cases hreleases with
  | inner =>
    cases hact
    exact h.keep hmember rfl rfl fun _ => ⟨hdepth, rfl⟩
  | freed =>
    cases hact
    have hnone : ¬0 < (c.system.site caller r).freed.book.depth := Nat.lt_irrefl 0
    refine h.update hmember rfl (fun hpos => absurd hpos hnone)
      (fun _ _ hpos => absurd hpos hnone) fun other thread hne hguards hliving => ?_
    -- the lock was the caller's, so that nobody else who is alive has guards
    obtain ⟨hsame, -⟩ := h.excludes ⟨r, hmember, hdepth, hholder⟩ hguards halive hliving
    exact absurd hsame hne
  | kept =>
    cases hact
    exact h.keep hmember rfl rfl fun hpos => absurd hpos (Nat.lt_irrefl 0)
  | refused =>
    cases hact
    exact h.keep hmember rfl rfl fun hpos => absurd hpos (Nat.lt_irrefl 0)

/-! ## What happens around them -/

/-- A thread that dies takes the lock from nobody else. -/
theorem InOrder.dies (h : c.InOrder name lock) (thread : Thread) :
    InOrder name lock ⟨c.system.threadDies thread, c.members, thread :: c.dead⟩ := by
  have hfile := System.file_threadDies (s := c.system) thread lock
  constructor
  · refine ⟨h.standing.entry, ?_⟩
    rw [hfile]
    exact h.standing.ready
  · exact h.shared
  · exact h.owned
  · intro id other hguards hliving
    obtain ⟨hne, halive⟩ := not_or.mp fun hor => hliving (List.mem_cons.mpr hor)
    have hheld := h.held id other hguards halive
    show ((c.system.threadDies thread).store.file lock).mutex.holding = _
    rw [hfile]
    have hother : (c.system.store.file lock).mutex.knowsOwner thread = false := by
      rw [Mutex.knowsOwner, hheld]
      simp [hne]
    show ((c.system.store.file lock).mutex.ownerDies thread).holding = _
    rw [Mutex.ownerDies, if_neg (by rw [hother]; decide)]
    exact hheld
  · intro id id' other hguards hguards' hliving
    exact h.alone id id' other hguards hguards' fun hmem => hliving (List.mem_cons_of_mem _ hmem)

/-- As long as name, file and lock stay what they are, objects without guards come and go. -/
theorem InOrder.resume (h : c.InOrder name lock) {s' : System} {members : Table Nat OpenRegion}
    (hentry : s'.store.entries.get? name = c.system.store.entries.get? name)
    (hfile : s'.store.file lock = c.system.store.file lock)
    (hmembers : ∀ id r, members.get? id = some r →
      c.members.get? id = some r ∨ r.lock = lock ∧ r.book.depth = 0) :
    InOrder name lock ⟨s', members, c.dead⟩ := by
  have hguards {id : Nat} {thread : Thread} (hnow : Guards ⟨s', members, c.dead⟩ id thread) :
      c.Guards id thread := by
    obtain ⟨r, hmember, hdepth, hholder⟩ := hnow
    rcases hmembers id r hmember with hbefore | ⟨-, hzero⟩
    · exact ⟨r, hbefore, hdepth, hholder⟩
    · exact absurd hzero (Nat.pos_iff_ne_zero.mp hdepth)
  constructor
  · refine ⟨hentry.trans h.standing.entry, ?_⟩
    rw [hfile]
    exact h.standing.ready
  · intro id r hmember
    rcases hmembers id r hmember with hbefore | ⟨hlock, -⟩
    · exact h.shared id r hbefore
    · exact hlock
  · intro id r hmember hdepth
    rcases hmembers id r hmember with hbefore | ⟨-, hzero⟩
    · exact h.owned id r hbefore hdepth
    · exact absurd hzero (Nat.pos_iff_ne_zero.mp hdepth)
  · intro id thread hnow halive
    show (s'.store.file lock).mutex.holding = _
    rw [hfile]
    exact h.held id thread (hguards hnow) halive
  · intro id id' thread hnow hnow' halive
    exact h.alone id id' thread (hguards hnow) (hguards hnow') halive

theorem InOrder.step (hname : osName names.lock = .ok name) (h : c.InOrder name lock)
    (hstep : c.Step names name lock c') : c'.InOrder name lock := by
  cases hstep with
  | opens timeout role mapping _ hopen =>
    -- the lock stands under its name, so whoever opens it attaches to it
    cases (h.standing.openLock hname timeout).symm.trans hopen
    refine h.resume rfl rfl fun other r hmember => ?_
    rw [Table.get?_insert] at hmember
    split at hmember
    · cases hmember
      exact .inr ⟨rfl, rfl⟩
    · exact .inl hmember
  | locks caller mode hmember _ hact => exact h.locks hmember hact
  | releases caller unwinding hmember halive hdepth hholder hact =>
    exact h.releases hmember halive hdepth hholder hact
  | closes =>
    refine h.resume rfl rfl fun other r hmember => ?_
    rw [Table.get?_erase] at hmember
    split at hmember
    · cases hmember
    · exact .inl hmember
  | dies thread => exact h.dies thread
  | aside hentry hfile => exact h.resume hentry hfile fun _ _ hmember => .inl hmember

theorem InOrder.run (hname : osName names.lock = .ok name) (h : c.InOrder name lock)
    (hrun : Relation.ReflTransGen (Step names name lock) c c') : c'.InOrder name lock := by
  induction hrun with
  | refl => exact h
  | tail _ hstep ih => exact ih.step hname hstep

/-- Who asks for a lock that nobody has gets it, and is told whether its last owner died with it. -/
theorem acquire_unowned {s : System} {r : OpenRegion} {caller : Thread} (mode : LockMode)
    (hready : (s.site caller r).Ready)
    (hnobody : ∀ owner, (s.store.file r.lock).mutex.holding ≠ .held owner) : ∃ r' s',
      s.act caller r (Act.acquire mode) =
        (.ok (.held (decide ((s.store.file r.lock).mutex.holding = .orphaned))), r', s') ∧
      0 < r'.book.depth ∧ r'.book.holder = some caller ∧
      (s'.store.file r.lock).mutex.holding = .held caller := by
  have hfirst := Act.acquire_first mode hready.depth hready.mine
  have htaken {abandoned : Bool} {site : Site}
      (hacquire : Act.acquire mode (s.site caller r) = .ok (.held abandoned) site)
      (hbook : site.book = (s.site caller r).gained.book)
      (hmutex : site.mutex = (s.site caller r).gained.mutex)
      (hmemory : site.memory = (s.site caller r).memory) : ∃ r' s',
        s.act caller r (Act.acquire mode) = (.ok (.held abandoned), r', s') ∧
        0 < r'.book.depth ∧ r'.book.holder = some caller ∧
        (s'.store.file r.lock).mutex.holding = .held caller := by
    refine ⟨{ r with book := site.book }, s.leave r site, ?_, ?_, ?_, ?_⟩
    · unfold System.act
      rw [hacquire]
    · rw [hbook]
      exact Nat.zero_lt_one
    · rw [hbook]
      rfl
    · rw [file_leave hmemory, if_pos rfl, hmutex]
      rfl
  cases hholding : (s.store.file r.lock).mutex.holding with
  | free =>
    exact htaken (hfirst.trans (Act.acquireFirst_free mode hready hholding)) rfl rfl rfl
  | held owner => exact absurd hholding (hnobody owner)
  | orphaned =>
    exact htaken (hfirst.trans (Act.acquireFirst_orphaned mode hready hholding)) rfl rfl rfl

/-- How the lock serves those who have opened it. -/
structure Governed (c : Circle) (names : RegionNames) (lock : Nat) : Prop where
  /-- To open it is to attach to it, and changes nothing. -/
  opens : ∀ timeout, c.system.openLock names timeout = (.ok lock, c.system)
  /-- Of all who are alive one has guards at a time. -/
  excludes : ∀ id id' thread thread', c.Guards id thread → c.Guards id' thread' →
    thread ∉ c.dead → thread' ∉ c.dead → id = id' ∧ thread = thread'
  /-- Who asks for it gets it, unless somebody has it. -/
  gives : ∀ id r caller mode, c.members.get? id = some r → (c.system.site caller r).Ready →
    (∀ owner, (c.system.store.file lock).mutex.holding ≠ .held owner) → ∃ abandoned r' s',
      c.system.act caller r (Act.acquire mode) = (.ok (.held abandoned), r', s') ∧
      Guards ⟨s', c.members.insert id r', c.dead⟩ id caller ∧
      (s'.store.file lock).mutex.holding = .held caller
  /-- While somebody has it, who asks for it does not get it. -/
  refuses : ∀ id r caller mode owner, c.members.get? id = some r →
    (c.system.site caller r).Ready → (c.system.store.file lock).mutex.holding = .held owner →
    ∀ abandoned, (c.system.act caller r (Act.acquire mode)).1 ≠ .ok (.held abandoned)

/-- As long as all is in order the lock serves everybody. -/
theorem InOrder.governed (hname : osName names.lock = .ok name) (h : c.InOrder name lock) :
    c.Governed names lock := by
  constructor
  case opens => exact fun timeout => h.standing.openLock hname timeout
  case excludes =>
    intro id id' thread thread' hguards hguards' halive halive'
    exact h.excludes hguards hguards' halive halive'
  case gives =>
    intro id r caller mode hmember hready hnobody
    rw [← h.shared id r hmember] at hnobody ⊢
    obtain ⟨r', s', hact, hdepth, hholder, hheld⟩ := acquire_unowned mode hready hnobody
    exact ⟨_, r', s', hact, guards_insert.mpr (.inl ⟨rfl, hdepth, hholder⟩), hheld⟩
  case refuses =>
    intro id r caller mode owner hmember hready hheld abandoned
    rw [← h.shared id r hmember] at hheld
    have hacquires := Act.acquires mode (c.system.site caller r)
    unfold System.act
    generalize Act.acquire mode (c.system.site caller r) = result at hacquires
    cases hacquires with
    | busy => simp
    | blocked => simp
    | deadlock => simp
    | stuck => simp
    | nested hdepth => exact absurd hready.depth (Nat.pos_iff_ne_zero.mp hdepth)
    | gained _ hfree => cases hfree.symm.trans hheld
    | inherited _ horphaned => cases horphaned.symm.trans hheld

/-- Nobody is there yet. -/
theorem inOrder_empty {s : System} (hstanding : s.Standing name lock) (dead : List Thread) :
    InOrder name lock ⟨s, ∅, dead⟩ where
  standing := hstanding
  shared id r hmember := by cases hmember
  owned id r hmember := by cases hmember
  held id thread hguards := by
    obtain ⟨r, hmember, -⟩ := hguards
    cases hmember
  alone id id' thread hguards := by
    obtain ⟨r, hmember, -⟩ := hguards
    cases hmember

end Circle

/-! ## The result -/

namespace System

/-- The lock in this file has just been made. It is complete, and whoever asks first gets it. -/
structure NewLock (s : System) (lock : Nat) : Prop where
  /-- Its creator has finished it. -/
  long : lockSize ≤ (s.store.file lock).bytes.length
  ready : Memory.word32 (s.store.file lock).bytes 0 = lockReady
  /-- It knows its owner, and notices when its owner dies. -/
  checked : (s.store.file lock).mutex.kind = .checked
  free : (s.store.file lock).mutex.holding = .free
  gives : ∀ r caller mode, r.lock = lock → (s.site caller r).Ready → ∃ r' s',
    s.act caller r (Act.acquire mode) = (.ok (.held false), r', s') ∧
    (s'.store.file lock).mutex.holding = .held caller

/-- A file that is set up as a lock is one. -/
theorem NewLock.of_file {s : System} {lock : Nat} (hfile : s.store.file lock = freshLock) :
    NewLock s lock := by
  have hready : isReady freshLock.bytes = true := by decide +kernel
  obtain ⟨hlong, hset⟩ := Opening.isReady_eq_true_iff.mp hready
  constructor
  case long => rw [hfile]; exact hlong
  case ready => rw [hfile]; exact hset
  case checked => rw [hfile]; rfl
  case free => rw [hfile]; rfl
  case gives =>
    rintro r caller mode rfl hready
    have hfree : (s.store.file r.lock).mutex.holding = .free := by
      rw [hfile]
      rfl
    obtain ⟨r', s', hact, -, -, hheld⟩ := Circle.acquire_unowned mode hready
      fun owner howner => by cases hfree.symm.trans howner
    rw [hfree] at hact
    exact ⟨r', s', hact, hheld⟩

/-- What is to be said of the opening of a lock in which the name was taken away so many times and
this file was opened: what was there before, how it came to this, and what follows. -/
structure LockRecovered (names : RegionNames) (name : String) (timeout : Duration) (s : System)
    (unlinked lock : Nat) (s' : System) : Prop where
  /-- A lock that was finished is never taken away from those who have it: it is opened, and nothing
  changes. -/
  finished : ∀ id, s.store.entries.get? name = some (.file id) →
    isReady (s.store.file id).bytes = true → unlinked = 0 ∧ lock = id ∧ s' = s
  /-- A lock that was not finished loses its name once, and another one is made. -/
  unfinished : ∀ id, s.store.entries.get? name = some (.file id) →
    isReady (s.store.file id).bytes = false →
    unlinked = 1 ∧ lock = s.store.next ∧ s'.store.file lock = freshLock ∧ NewLock s' lock
  /-- Where there was none, one is made at once, and nothing is taken away. -/
  missing : s.store.entries.get? name = none →
    unlinked = 0 ∧ lock = s.store.next ∧ s'.store.file lock = freshLock ∧ NewLock s' lock
  /-- All files that there were stay as they were, and so do all other names. -/
  kept : (∀ id < s.store.next, s'.store.file id = s.store.file id) ∧
    ∀ other, other ≠ name → s'.store.entries.get? other = s.store.entries.get? other
  /-- Step by step it comes to the same end, and is late by less than the time between two looks
  at the file. -/
  steps : ∃ n clock deadline, s'.host.clock ≤ clock ∧
    clock < s'.host.clock + Opening.pollInterval ∧
    (Opening.step names name timeout)^[n] (.start timeout s) =
      ⟨⟨s'.store, s'.host.atTime clock⟩, .ends (.ok lock), deadline, unlinked + 1, unlinked⟩
  /-- On the way there are never more than two rounds. -/
  rounds : ∀ n, ((Opening.step names name timeout)^[n] (.start timeout s)).rounds ≤ 2
  /-- Everything is in order before anybody else has the lock. -/
  begins : ∀ dead, Circle.InOrder name lock ⟨s', ∅, dead⟩
  /-- It goes on for whoever has opened the lock, and whoever comes after. -/
  later : ∀ c c', c.system = s' → c.InOrder name lock →
    Relation.ReflTransGen (Circle.Step names name lock) c c' → c'.Governed names lock

variable {s s' : System} {names : RegionNames} {name : String} {timeout : Duration}
  {id unlinked : Nat}

/-- A file that exists is not changed by opening a lock. -/
theorem Recovers.kept (h : Recovers names name timeout s unlinked id s') :
    (∀ number < s.store.next, s'.store.file number = s.store.file number) ∧
      ∀ other, other ≠ name → s'.store.entries.get? other = s.store.entries.get? other := by
  have hinserted (store : SharedStore) {other : String} (hother : other ≠ name) :
      (withLock store name).entries.get? other = store.entries.get? other :=
    (Table.get?_insert store.entries name other (SharedEntry.file store.next)).trans
      (if_neg hother.symm)
  cases h with
  | made =>
    exact ⟨fun number hold => file_withLock s.store name hold, fun other => hinserted s.store⟩
  | attached => exact ⟨fun _ _ => rfl, fun _ _ => rfl⟩
  | replaced =>
    refine ⟨fun number hold => file_withLock _ name hold, fun other hother => ?_⟩
    refine (hinserted _ hother).trans ?_
    exact (Table.get?_erase s.store.entries name other).trans (if_neg hother.symm)

/-- Whatever stands under the name of a lock, unless it is no file: the lock can be opened, and from
then on everybody who opens it has the same one. -/
theorem lockRecovers (s : System) (timeout : Duration) (hname : osName names.lock = .ok name)
    (hregular : s.Regular name) : ∃ unlinked lock s',
      s.openLock names timeout = (.ok lock, s') ∧
      LockRecovered names name timeout s unlinked lock s' := by
  obtain ⟨unlinked, lock, s', hopen, hrecovers⟩ := s.openLock_recovers timeout hname hregular
  have hstanding := hrecovers.standing
  refine ⟨unlinked, lock, s', hopen, ?_⟩
  constructor
  · intro id hfile hready
    cases hrecovers with
    | made hnone => cases hnone.symm.trans hfile
    | attached hfile' => cases hfile'.symm.trans hfile; exact ⟨rfl, rfl, rfl⟩
    | replaced hfile' hready' =>
      cases hfile'.symm.trans hfile
      cases hready'.symm.trans hready
  · intro id hfile hready
    cases hrecovers with
    | made hnone => cases hnone.symm.trans hfile
    | attached hfile' hready' =>
      cases hfile'.symm.trans hfile
      cases hready'.symm.trans hready
    | replaced =>
      have hfile := (standing_withLock
        { s with store := { s.store with entries := s.store.entries.erase name } } name).2
      exact ⟨rfl, rfl, hfile, .of_file hfile⟩
  · intro hnone
    cases hrecovers with
    | made =>
      have hfile := (standing_withLock s name).2
      exact ⟨rfl, rfl, hfile, .of_file hfile⟩
    | attached hfile => cases hnone.symm.trans hfile
    | replaced hfile => cases hnone.symm.trans hfile
  · exact hrecovers.kept
  · obtain ⟨clock, deadline, hcome, hlate, n, hend⟩ := Opening.reaches hname hrecovers
    exact ⟨n, clock, deadline, hcome, hlate, hend⟩
  · exact fun n => (Opening.counted n s).1
  · exact Circle.inOrder_empty hstanding
  · intro c c' _ hinOrder hrun
    exact (hinOrder.run hname hrun).governed hname

/-- The creator of this lock died when the file was long enough and nothing was in it. -/
def halfMade : System where
  store := (SharedStore.empty.createFile "/lock" (.ofBytes (Bytes.zeros lockSize))).2
  host := Exchange.sample.host

/-- Fifty milliseconds. -/
def sampleTimeout : Duration := { seconds := 0, nanoseconds := 50000000 }

/-- An object that has opened the lock in the file with the number 1. -/
def sampleMember (role : Role) : OpenRegion := ⟨⟨"region", "lock"⟩, 2, 1, .fresh role⟩

/-- The lock is made anew as the file with the number 1. A writer takes it, and a reader in another
process finds it taken. -/
theorem lockRecovers_halfMade : ∃ s' r s'',
    halfMade.openLock ⟨"region", "lock"⟩ sampleTimeout = (.ok 1, s') ∧
    LockRecovered ⟨"region", "lock"⟩ "/lock" sampleTimeout halfMade 1 1 s' ∧
    s'.act ⟨7, 0⟩ (sampleMember .writer) (Act.acquire .blocking) = (.ok (.held false), r, s'') ∧
    (s''.act ⟨8, 0⟩ (sampleMember .reader) (Act.acquire .attempt)).1 = .ok .busy := by
  have hname : osName (RegionNames.mk "region" "lock").lock = .ok "/lock" := by decide +kernel
  have hfile : halfMade.store.entries.get? "/lock" = some (.file 0) := by decide +kernel
  have hready : isReady (halfMade.store.file 0).bytes = false := by decide +kernel
  have hnext : halfMade.store.next = 1 := rfl
  obtain ⟨unlinked, lock, s', hopen, hrecovered⟩ :=
    halfMade.lockRecovers sampleTimeout hname (.inr ⟨0, hfile⟩)
  obtain ⟨rfl, rfl, -, hnew⟩ := hrecovered.unfinished 0 hfile hready
  rw [hnext] at hopen hrecovered hnew
  obtain ⟨r, s'', hact, hheld⟩ :=
    hnew.gives (sampleMember .writer) ⟨7, 0⟩ .blocking rfl ⟨rfl, rfl, rfl⟩
  have hready : (s''.site ⟨8, 0⟩ (sampleMember .reader)).Ready := ⟨rfl, rfl, rfl⟩
  have hother : (s''.site ⟨8, 0⟩ (sampleMember .reader)).mutex.knowsOwner ⟨8, 0⟩ = false := by
    show (s''.store.file 1).mutex.knowsOwner ⟨8, 0⟩ = false
    rw [Mutex.knowsOwner, hheld]
    simp
  have hbusy := (Act.acquire_first .attempt hready.depth hready.mine).trans
    (Act.acquireFirst_held .attempt hready hheld hother)
  refine ⟨s', r, s'', hopen, hrecovered, hact, ?_⟩
  unfold System.act
  rw [hbusy]
  rfl

/-- Nothing stands under any name. -/
def vacant : System := ⟨.empty, Exchange.sample.host⟩

/-- Where there is nothing under the name there is no finished lock, and still no name is taken away
before the new one is opened, nor after. -/
theorem openLock_vacant : vacant.Regular "/lock" ∧
    (∀ id, vacant.store.entries.get? "/lock" ≠ some (.file id)) ∧
    (∃ s', vacant.openLock ⟨"region", "lock"⟩ sampleTimeout = (.ok 0, s')) ∧
    ∀ n, ((Opening.step ⟨"region", "lock"⟩ "/lock" sampleTimeout)^[n]
      (.start sampleTimeout vacant)).unlinked = 0 := by
  have hnone : vacant.store.entries.get? "/lock" = none := rfl
  have hname : osName (RegionNames.mk "region" "lock").lock = .ok "/lock" := by decide +kernel
  have hopen : vacant.openLock ⟨"region", "lock"⟩ sampleTimeout =
      (.ok 0, { vacant with store := withLock vacant.store "/lock" }) := by
    rw [openLock, hname]
    dsimp only
    rw [openLockOnce_none _ _ hnone]
    rfl
  refine ⟨.inl hnone, fun id hfile => ?_, ⟨_, hopen⟩, fun n => ?_⟩
  · cases hnone.symm.trans hfile
  · cases n with
    | zero => rfl
    | succ n =>
      -- the first step makes the lock, and there it ends
      rw [Function.iterate_succ_apply]
      exact congrArg Opening.unlinked (Function.iterate_fixed rfl n)

end System

end FrameExchange
