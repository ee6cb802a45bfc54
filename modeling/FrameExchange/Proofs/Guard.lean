import FrameExchange.Proofs.Lock
import FrameExchange.Proofs.Memory
import FrameExchange.Writer
import FrameExchange.Reader

/-!
# Operations under a guard

How writers and readers take the lock, and what is left of an operation that took the lock for
itself alone: what it did to memory and host, and the lock as it was.

- `Host.Still`, `Site.Still` — nothing happened but what is logged, remembered and timed.
- `Site.Renewed` — a new session stands in the memory.
- `Locks`, `Writer.locks`, `Reader.locks` — how a lock for a writer or a reader can end; `Asks`
  gives the reason as well.
- `Act.underLock` — lock, operation, release; `Locks.underLock` says what remains of it.
-/

namespace FrameExchange

/-! ## What does not matter -/

/-- What others can reach of a process: which one it is, and the files that it has open. -/
def Process.outside (p : Process) : Nat × Table Nat OpenFile := (p.serial, p.descriptors)

/-- The same processes are running, and each has the same files open. -/
def Host.SameFiles (h h' : Host) : Prop :=
  ∀ pid, (h'.running? pid).map Process.outside = (h.running? pid).map Process.outside

/-- A host in which the same sessions will be drawn and every process has the same files open. Log,
clock and the record of consumers may have changed. -/
structure Host.Still (h h' : Host) : Prop where
  entropy : h'.entropy = h.entropy
  files : h.SameFiles h'

namespace Host.Still

theorem refl (h : Host) : h.Still h := ⟨rfl, fun _ => rfl⟩

theorem trans {h h' h'' : Host} (first : h.Still h') (second : h'.Still h'') : h.Still h'' :=
  ⟨second.entropy.trans first.entropy, fun pid => (second.files pid).trans (first.files pid)⟩

theorem report (h : Host) (event : Event) : h.Still (h.report event) := ⟨rfl, fun _ => rfl⟩

/-- To remember a consumer opens and closes no file. -/
theorem see (h : Host) (pid : UInt32) (kind : ConsumerKind) : h.Still (h.see pid kind) := by
  refine ⟨rfl, fun other => ?_⟩
  show (((h.processes.adjust pid _).get? other).filter (·.alive)).map Process.outside = _
  rw [Table.get?_adjust]
  by_cases hpid : pid = other
  · subst hpid
    rw [if_pos rfl, Host.running?]
    cases h.processes.get? pid with
    | none => rfl
    | some process => cases halive : process.alive <;> simp [Option.filter, halive, Process.outside]
  · rw [if_neg hpid]
    rfl

end Host.Still

namespace Host.SameFiles

variable {h h' : Host}

/-- A process runs with the same files as before, or still does not run. -/
theorem running? (hsame : h.SameFiles h') (pid : UInt32) :
    (h.running? pid = none ∧ h'.running? pid = none) ∨ ∃ process process',
      h.running? pid = some process ∧ h'.running? pid = some process' ∧
        process'.serial = process.serial ∧ process'.descriptors = process.descriptors := by
  have hfiles := hsame pid
  cases hold : h.running? pid with
  | none =>
    rw [hold, Option.map_none, Option.map_eq_none_iff] at hfiles
    exact .inl ⟨rfl, hfiles⟩
  | some process =>
    rw [hold, Option.map_some, Option.map_eq_some_iff] at hfiles
    obtain ⟨process', hnew, houtside⟩ := hfiles
    obtain ⟨hserial, hdescriptors⟩ := Prod.mk.inj houtside
    exact .inr ⟨process, process', rfl, hnew, hserial, hdescriptors⟩

/-- The same handles can be duplicated as before. -/
theorem duplicate (hsame : h.SameFiles h') (opened : OpenedProcess) (raw : UInt64) :
    h'.duplicate opened raw = h.duplicate opened raw := by
  rw [Host.duplicate, Host.duplicate, Host.opened?, Host.opened?]
  rcases hsame.running? opened.pid with
    ⟨hold, hnew⟩ | ⟨process, process', hold, hnew, hserial, hfiles⟩
  · rw [hold, hnew]
  · by_cases hwhich : opened.serial.all (· == process.serial) = true
    · simp only [hold, hnew, Option.filter_some, hserial, if_pos hwhich, hfiles]
    · simp only [hold, hnew, Option.filter_some, hserial, if_neg hwhich]

/-- The same processes can be opened as before. -/
theorem openProcess (hsame : h.SameFiles h') (caller pid : UInt32) :
    h'.openProcess caller pid = h.openProcess caller pid := by
  rw [Host.openProcess, Host.openProcess]
  rcases hsame.running? pid with ⟨hold, hnew⟩ | ⟨process, process', hold, hnew, hserial, -⟩
  · rw [hold, hnew]
  · simp only [hold, hnew, hserial]

end Host.SameFiles

/-- A site on which nothing happened but what the host logged, remembered and timed. -/
structure Site.Still (s s' : Site) : Prop where
  host : s.host.Still s'.host
  rest : s' = { s with host := s'.host }

namespace Site.Still

theorem refl (s : Site) : s.Still s := ⟨.refl s.host, rfl⟩

theorem trans {s s' s'' : Site} (first : s.Still s') (second : s'.Still s'') : s.Still s'' := by
  refine ⟨first.host.trans second.host, ?_⟩
  rw [second.rest, first.rest]

theorem report (s : Site) (event : Event) : s.Still { s with host := s.host.report event } :=
  ⟨.report s.host event, rfl⟩

theorem memory {s s' : Site} (h : s.Still s') : s'.memory = s.memory := by rw [h.rest]

theorem book {s s' : Site} (h : s.Still s') : s'.book = s.book := by rw [h.rest]

theorem mutex {s s' : Site} (h : s.Still s') : s'.mutex = s.mutex := by rw [h.rest]

theorem caller {s s' : Site} (h : s.Still s') : s'.caller = s.caller := by rw [h.rest]

/-- Whether a guard can be had does not depend on the log. -/
theorem obtains {mode : LockMode} {s s' : Site} (h : s.Still s') :
    s'.Obtains mode ↔ s.Obtains mode := by
  have hready : s'.Ready ↔ s.Ready := by
    rw [h.rest]
    exact ⟨fun ⟨hdepth, hmine, hphase⟩ => ⟨hdepth, hmine, hphase⟩,
      fun ⟨hdepth, hmine, hphase⟩ => ⟨hdepth, hmine, hphase⟩⟩
  rw [obtains_iff, obtains_iff, hready, h.book, h.mutex, h.caller]

end Site.Still

/-! ## New sessions -/

/-- The site with a header of a new session of the caller's process in its memory. -/
def Site.renewed (s : Site) (gpu : UInt64) : Site :=
  { s with
    memory := Memory.store s.memory (.ofSession gpu (s.host.newSession s.caller.pid).1)
    host := (s.host.newSession s.caller.pid).2 }

/-- A site whose memory holds a header for `gpu` of a session that was drawn meanwhile, while lock
and book stayed. -/
structure Site.Renewed (gpu : UInt64) (s s' : Site) : Prop where
  caller : s'.caller = s.caller
  names : s'.names = s.names
  book : s'.book = s.book
  mutex : s'.mutex = s.mutex
  draw : s'.host.entropy.draw = s.host.entropy.draw
  files : s.host.SameFiles s'.host
  length : s'.memory.length = s.memory.length
  /-- How many sessions were drawn; the last of them stands in the memory. -/
  header : ∃ k, s.host.entropy.used ≤ k ∧ s'.host.entropy.used = k + 1 ∧
    (Header.byteSize ≤ s.memory.length → Memory.load s'.memory =
      .ofSession gpu (Host.sessionOf s.caller.pid (s.host.entropy.draw k)))

/-- A fresh header is stored as it is. -/
theorem Memory.stored_ofSession (gpu session : UInt64) :
    stored (.ofSession gpu session) = .ofSession gpu session := by
  have hflags : (0 : UInt32) &&& feederAttached = 0 := by decide
  show { Header.ofSession gpu session with flags := 0 &&& feederAttached } = _
  rw [hflags]
  rfl

namespace Site.Renewed

/-- Drawing a session and storing a fresh header of it. -/
theorem of_renewed (s : Site) (gpu : UInt64) : s.Renewed gpu (s.renewed gpu) where
  caller := rfl
  names := rfl
  book := rfl
  mutex := rfl
  draw := rfl
  files _ := rfl
  length := Memory.length_store _ _
  header := by
    refine ⟨s.host.entropy.used, Nat.le_refl _, rfl, fun hlen => ?_⟩
    exact (Memory.load_store _ hlen).trans (Memory.stored_ofSession gpu _)

/-- What happens to the log afterwards does not matter. -/
theorem still {gpu : UInt64} {s s' s'' : Site} (h : s.Renewed gpu s') (hstill : s'.Still s'') :
    s.Renewed gpu s'' := by
  have hrest := hstill.rest
  have hentropy := hstill.host.entropy
  refine ⟨?_, ?_, ?_, ?_, ?_, ?_, ?_, ?_⟩
  · rw [hrest]; exact h.caller
  · rw [hrest]; exact h.names
  · rw [hrest]; exact h.book
  · rw [hrest]; exact h.mutex
  · rw [hentropy]; exact h.draw
  · exact fun pid => (hstill.host.files pid).trans (h.files pid)
  · rw [hrest]; exact h.length
  · rw [hentropy, hstill.memory]; exact h.header

/-- What happened to the log before does not matter. -/
theorem of_still {gpu : UInt64} {s s' s'' : Site} (hstill : s.Still s')
    (h : s'.Renewed gpu s'') : s.Renewed gpu s'' := by
  obtain ⟨k, hle, hused, hheader⟩ := h.header
  rw [hstill.host.entropy] at hle
  rw [hstill.memory, hstill.caller, hstill.host.entropy] at hheader
  have hrest := hstill.rest
  refine ⟨?_, ?_, ?_, ?_, ?_, ?_, ?_, k, hle, hused, hheader⟩
  · rw [h.caller, hrest]
  · rw [h.names, hrest]
  · rw [h.book, hrest]
  · rw [h.mutex, hrest]
  · rw [h.draw, hstill.host.entropy]
  · exact fun pid => (h.files pid).trans (hstill.host.files pid)
  · rw [h.length, hrest]

/-- Of two sessions the second one counts. -/
theorem trans {gpu gpu' : UInt64} {s s' s'' : Site} (first : s.Renewed gpu s')
    (second : s'.Renewed gpu' s'') : s.Renewed gpu' s'' := by
  obtain ⟨k, hle, hused, -⟩ := first.header
  obtain ⟨k', hle', hused', hheader⟩ := second.header
  refine ⟨second.caller.trans first.caller, second.names.trans first.names,
    second.book.trans first.book, second.mutex.trans first.mutex, second.draw.trans first.draw,
    fun pid => (second.files pid).trans (first.files pid), second.length.trans first.length,
    k', by omega, hused', fun hlen => ?_⟩
  rw [first.length, first.caller, first.draw] at hheader
  exact hheader hlen

/-- Lock and book of the caller do not matter to the session. -/
theorem of_inside {gpu : UInt64} {s inside s' : Site}
    (heq : inside = { s with book := inside.book, mutex := inside.mutex })
    (h : inside.Renewed gpu s') : s.Renewed gpu { s' with book := s.book, mutex := s.mutex } := by
  obtain ⟨hcaller, hnames, -, -, hdraw, hfiles, hlength, hheader⟩ := h
  rw [heq] at hcaller hnames hdraw hfiles hlength hheader
  exact ⟨hcaller, hnames, rfl, rfl, hdraw, hfiles, hlength, hheader⟩

end Site.Renewed

/-- A session was begun while nobody had the lock, not even a thread that lives no longer. -/
structure Site.Restarted (gpu : UInt64) (s s' : Site) : Prop where
  renewed : s.Renewed gpu { s' with mutex := s.mutex }
  mutex : s'.mutex = { s.mutex with holding := .free }
  nobody : s.mutex.holding = .free ∨ s.mutex.holding = .orphaned

theorem Site.Restarted.book {gpu : UInt64} {s s' : Site} (h : s.Restarted gpu s') :
    s'.book = s.book := h.renewed.book

/-- A session that was begun under a first guard, when the lock was given back. -/
theorem Site.Restarted.of_gained {gpu : UInt64} {s s' : Site}
    (horphaned : s.mutex.holding = .orphaned) (h : s.gained.Renewed gpu s') :
    s.Restarted gpu
      { s' with book := s.book, mutex := { s.mutex with holding := .free } } := by
  have hrenewed := Site.Renewed.of_inside (s := s) rfl h
  exact ⟨hrenewed, rfl, .inr horphaned⟩

/-- What was logged before does not matter. -/
theorem Site.Restarted.of_still {gpu : UInt64} {s s' s'' : Site} (hstill : s.Still s')
    (h : s'.Restarted gpu s'') : s.Restarted gpu s'' := by
  obtain ⟨hrenewed, hmutex, hnobody⟩ := h
  rw [hstill.mutex] at hrenewed hmutex hnobody
  exact ⟨.of_still hstill hrenewed, hmutex, hnobody⟩

/-- What is logged afterwards does not matter. -/
theorem Site.Restarted.still {gpu : UInt64} {s s' s'' : Site} (h : s.Restarted gpu s')
    (hstill : s'.Still s'') : s.Restarted gpu s'' := by
  refine ⟨h.renewed.still ⟨hstill.host, ?_⟩, hstill.mutex.trans h.mutex, h.nobody⟩
  rw [hstill.rest]

/-! ## Locks -/

/-- How taking the lock can end for a reader or a writer. What an owner left who died holding it
gives way to a fresh header. -/
inductive Locks (mode : LockMode) (gpu : UInt64) (s : Site) :
    EStateM.Result Failure Site Acquired → Prop where
  | busy : mode = .attempt → ¬s.Obtains mode → Locks mode gpu s (.ok .busy s)
  | refused (failure : Failure) : ¬s.Obtains mode → Locks mode gpu s (.error failure s)
  | nested : 0 < s.book.depth → s.book.heldElsewhere s.caller = false →
      Locks mode gpu s (.ok (.held false) s.nested)
  | gained : s.Ready → s.mutex.holding = .free → Locks mode gpu s (.ok (.held false) s.gained)
  | recovered {s' : Site} : s.Ready → s.mutex.holding = .orphaned → ¬s.Obtains mode →
      s.gained.Renewed gpu s' → Locks mode gpu s (.ok (.held true) s')

/-- The same with a reason for each end: who is in the way, or what is wrong. -/
inductive Asks (mode : LockMode) (gpu : UInt64) (s : Site) :
    EStateM.Result Failure Site Acquired → Prop where
  | busy : mode = .attempt → s.Elsewhere → Asks mode gpu s (.ok .busy s)
  | blocked : mode = .blocking → s.Elsewhere → Asks mode gpu s (.error .blocked s)
  /-- The caller has the lock through another object. -/
  | deadlock : s.Ready → s.mutex.knowsOwner s.caller = true →
      Asks mode gpu s (.error (.error (.notLocked mode s.names.lock .wouldDeadlock)) s)
  /-- The object was left in the middle of something. -/
  | stuck : s.book.depth = 0 → s.book.machine.phase ≠ .unlocked → Asks mode gpu s
      (.error (.violation (.move (.elsewhere s.book.machine.phase .unlocked .tryLock))) s)
  | nested : 0 < s.book.depth → s.book.heldElsewhere s.caller = false →
      Asks mode gpu s (.ok (.held false) s.nested)
  | gained : s.Ready → s.mutex.holding = .free → Asks mode gpu s (.ok (.held false) s.gained)
  | recovered {s' : Site} : s.Ready → s.mutex.holding = .orphaned →
      s.gained.Renewed gpu s' → Asks mode gpu s (.ok (.held true) s')

/-- Who is refused has a reason. -/
theorem Asks.locks {mode : LockMode} {gpu : UInt64} {s : Site}
    {result : EStateM.Result Failure Site Acquired} (h : Asks mode gpu s result) :
    Locks mode gpu s result := by
  cases h with
  | busy hmode helsewhere => exact .busy hmode helsewhere.not_obtains
  | blocked _ helsewhere => exact .refused _ helsewhere.not_obtains
  | deadlock hready howner =>
    refine .refused _ fun hobtains => ?_
    rcases (Site.obtains_iff.mp hobtains).2 with hdepth | ⟨-, hfree⟩
    · exact absurd hready.depth (Nat.pos_iff_ne_zero.mp hdepth)
    · simp [Mutex.knowsOwner, hfree] at howner
  | stuck hdepth hphase =>
    refine .refused _ fun hobtains => ?_
    rcases (Site.obtains_iff.mp hobtains).2 with hmany | ⟨hready, -⟩
    · exact absurd hdepth (Nat.pos_iff_ne_zero.mp hmany)
    · exact hphase hready.phase
  | nested hdepth hmine => exact .nested hdepth hmine
  | gained hready hfree => exact .gained hready hfree
  | recovered hready horphaned hrenewed =>
    refine .recovered hready horphaned (fun hobtains => ?_) hrenewed
    rcases (Site.obtains_iff.mp hobtains).2 with hdepth | ⟨-, hfree⟩
    · exact absurd hready.depth (Nat.pos_iff_ne_zero.mp hdepth)
    · rw [horphaned] at hfree
      cases hfree

/-- An object that can begin finds the lock of a dead owner, and takes it with a new session. -/
theorem Asks.inherits {mode : LockMode} {gpu : UInt64} {s : Site}
    {result : EStateM.Result Failure Site Acquired} (h : Asks mode gpu s result) (hready : s.Ready)
    (horphaned : s.mutex.holding = .orphaned) :
    ∃ s', result = .ok (.held true) s' ∧ s.gained.Renewed gpu s' := by
  have hnot : ¬s.Elsewhere := by
    rintro (helsewhere | ⟨-, ⟨owner, hheld⟩, -⟩)
    · rw [hready.mine] at helsewhere
      cases helsewhere
    · rw [horphaned] at hheld
      cases hheld
  cases h with
  | busy _ helsewhere => exact absurd helsewhere hnot
  | blocked _ helsewhere => exact absurd helsewhere hnot
  | deadlock _ howner => simp [Mutex.knowsOwner, horphaned] at howner
  | stuck _ hphase => exact absurd hready.phase hphase
  | nested hdepth => exact absurd hready.depth (Nat.pos_iff_ne_zero.mp hdepth)
  | gained _ hfree =>
    rw [horphaned] at hfree
    cases hfree
  | recovered _ _ hrenewed => exact ⟨_, rfl, hrenewed⟩

open Act

/-- A session that is drawn, stored and logged. -/
theorem Site.Renewed.logged {s s' : Site} (gpu : UInt64) (event : Event) (hstill : s.Still s') :
    s.Renewed gpu { s'.renewed gpu with host := (s'.renewed gpu).host.report event } :=
  .of_still hstill ((Site.Renewed.of_renewed s' gpu).still (.report _ _))

/-- An operation that takes the lock, and does something more only where its last owner died: it
begins a session then. -/
theorem asks_of_acquire {mode : LockMode} {gpu : UInt64} {s : Site}
    {next : Acquired → Act Acquired}
    (hnext : ∀ acquired t, acquired ≠ .held true → next acquired t = .ok acquired t)
    (hdied : ∀ t : Site, t = { s.gained with host := s.host.report (.ownerDied s.names.lock) } →
      ∃ event, next (.held true) t =
        .ok (.held true) { t.renewed gpu with host := (t.renewed gpu).host.report event }) :
    Asks mode gpu s ((acquire mode >>= next) s) := by
  have hacquires := acquires mode s
  generalize hresult : acquire mode s = result at hacquires
  cases hacquires with
  | busy hmode =>
    rw [bind_ok hresult, hnext _ _ (by decide)]
    exact .busy hmode (Site.elsewhere_of_wait (.inl hresult))
  | blocked hmode =>
    rw [bind_error hresult]
    exact .blocked hmode (Site.elsewhere_of_wait (.inr hresult))
  | deadlock hready howner =>
    rw [bind_error hresult]
    exact .deadlock hready howner
  | stuck hdepth hphase =>
    rw [bind_error hresult]
    exact .stuck hdepth hphase
  | nested hdepth hmine =>
    rw [bind_ok hresult, hnext _ _ (by decide)]
    exact .nested hdepth hmine
  | gained hready hfree =>
    rw [bind_ok hresult, hnext _ _ (by decide)]
    exact .gained hready hfree
  | inherited hready horphaned =>
    obtain ⟨event, hlast⟩ := hdied _ rfl
    rw [bind_ok hresult, hlast]
    exact .recovered hready horphaned (.logged gpu event (.report s.gained _))

theorem Writer.asks (w : Writer) (mode : LockMode) (s : Site) :
    Asks mode w.gpu s (w.lock mode s) := by
  refine asks_of_acquire (fun acquired t hother => ?_) fun t _ => ⟨_, rfl⟩
  rw [if_neg hother]
  rfl

theorem Reader.asks (mode : LockMode) (s : Site) :
    Asks mode (Memory.load s.memory).gpu s (Reader.lock mode s) := by
  refine asks_of_acquire (fun acquired t hother => ?_) fun t ht => ?_
  · rw [if_neg hother]
    rfl
  · -- the adapter stays that of the header that is given up
    subst ht
    exact ⟨_, rfl⟩

theorem Writer.locks (w : Writer) (mode : LockMode) (s : Site) :
    Locks mode w.gpu s (w.lock mode s) := (w.asks mode s).locks

theorem Reader.locks (mode : LockMode) (s : Site) :
    Locks mode (Memory.load s.memory).gpu s (Reader.lock mode s) := (Reader.asks mode s).locks

/-! ## What stays -/

/-- A move is made in the book. -/
theorem Act.move_rest {source target : Phase} {s s' : Site} (h : move source target s = .ok () s') :
    s' = { s with book := s'.book } := by
  rw [move, bind_ok (get_ok s)] at h
  cases hmove : s.book.machine.move source target with
  | ok machine =>
    rw [hmove] at h
    cases h
    rfl
  | error fault =>
    rw [hmove] at h
    cases h

/-- Giving back a guard concerns book and lock, and may be logged. -/
theorem Act.release_rest {unwinding : Bool} {s s' : Site} (h : release unwinding s = .ok () s') :
    s.host.Still s'.host ∧ s' = { s with book := s'.book, mutex := s'.mutex, host := s'.host } := by
  have hreleases := releases unwinding s
  rw [h] at hreleases
  cases hreleases with
  | inner => exact ⟨.refl s.host, rfl⟩
  | freed => exact ⟨.refl s.host, rfl⟩
  | kept => exact ⟨.report s.host _, rfl⟩

/-- The header that is copied under a guard is the one in the memory, and only the book knows. -/
theorem Reader.metadata_rest {s s' : Site} {h : Header} (hread : Reader.metadata s = .ok h s') :
    h = Memory.load s.memory ∧ s' = { s with book := s'.book } := by
  rw [Reader.metadata] at hread
  obtain ⟨⟨⟩, t, hbegin, hread⟩ := of_bind hread
  rw [bind_ok (load_ok t)] at hread
  obtain ⟨⟨⟩, u, hend, hlast⟩ := of_bind hread
  cases hlast
  have hfirst := move_rest hbegin
  have hsecond := move_rest hend
  refine ⟨by rw [hfirst], ?_⟩
  rw [hsecond, hfirst]

/-- A header that was copied under a guard of its own: the lock was taken, the header read, and the
guard given back. -/
theorem Reader.of_header {mode : LockMode} {s s' : Site} {h : Header}
    (hread : Reader.header mode s = .ok (some h) s') : ∃ abandoned t u,
    Reader.lock mode s = .ok (.held abandoned) t ∧ Reader.metadata t = .ok h u ∧
      release false u = .ok () s' := by
  rw [Reader.header] at hread
  obtain ⟨acquired, t, hlock, hread⟩ := of_bind hread
  cases acquired with
  | busy => cases hread
  | held abandoned =>
    obtain ⟨h', u, hguarded, hlast⟩ := of_bind hread
    cases hlast
    obtain ⟨v, hmetadata, hrelease⟩ := of_guarded hguarded
    exact ⟨abandoned, t, v, hlock, hmetadata, hrelease⟩

/-! ## Giving back what was just taken -/

/-- Giving back a nested guard leaves the lock as it was. -/
theorem Act.release_nested {s s' : Site} (unwinding : Bool) (hdepth : 0 < s.book.depth)
    (hbook : s'.book = s.nested.book) :
    release unwinding s' = .ok () { s' with book := s.book } := by
  have hreleases := releases unwinding s'
  have hmany : 1 < s'.book.depth := by
    rw [hbook]
    exact Nat.succ_lt_succ hdepth
  generalize hresult : release unwinding s' = result at hreleases
  cases hreleases with
  | inner =>
    rw [Site.unnested, hbook]
    rfl
  | freed hlast => exact absurd hlast (Nat.not_le.mpr hmany)
  | kept _ hlast => exact absurd hlast (Nat.not_le.mpr hmany)
  | refused hlast => exact absurd hlast (Nat.not_le.mpr hmany)

/-- Giving back a first guard frees the lock. -/
theorem Act.release_gained {s s' : Site} (unwinding : Bool) (hready : s.Ready)
    (hholder : s.book.holder = none) (hbook : s'.book = s.gained.book)
    (hmutex : s'.mutex = s.gained.mutex) (hcaller : s'.caller = s.caller) :
    release unwinding s' =
      .ok () { s' with book := s.book, mutex := { s.mutex with holding := .free } } := by
  have hreleases := releases unwinding s'
  have hone : s'.book.depth = 1 := by rw [hbook]; rfl
  have hlocked : s'.book.machine.phase = .locked := by rw [hbook]; rfl
  have howner : s'.mutex.release s'.caller = .ok { s'.mutex with holding := .free } := by
    rw [hmutex, hcaller, Mutex.release, Mutex.knowsOwner]
    cases hkind : s.mutex.kind with
    | checked => simp [Site.gained, hkind]
    | plain => simp [Site.gained, hkind]
  generalize hresult : release unwinding s' = result at hreleases
  cases hreleases with
  | inner hmany => omega
  | freed =>
    have hback : s.book = ⟨{ s.book.machine with phase := .unlocked }, 0, none⟩ := by
      rw [← hready.phase, ← hready.depth, ← hholder]
    rw [Site.freed, hmutex, hback]
    show EStateM.Result.ok () { s' with
      book := ⟨{ s'.book.machine with phase := .unlocked }, 0, none⟩, mutex := _ } = _
    rw [hbook]
    rfl
  | kept reason _ _ hkept =>
    rw [howner] at hkept
    cases hkept
  | refused _ _ hphase => exact absurd hlocked hphase

/-! ## Operations with a guard of their own -/

/-- Lock, `body`, release; nothing where the lock is busy. -/
def Act.underLock {α : Type} (lock : Act Acquired) (body : Act α) : Act (Option α) := do
  match ← lock with
  | .busy => return none
  | .held _ => return some (← guarded body)

theorem Writer.locked_eq_underLock {α : Type} (w : Writer) (mode : LockMode) (body : Act α) :
    w.locked mode body = underLock (w.lock mode) body := rfl

theorem Reader.header_eq_underLock (mode : LockMode) :
    Reader.header mode = underLock (Reader.lock mode) Reader.metadata := rfl

section UnderLock

variable {α : Type}

/-- What an operation under a guard does: where it comes to an answer it leaves lock and book
alone and does `effect`, and it fails only in another phase than `locked`, doing nothing. -/
inductive Yields (effect : α → Site → Site → Prop) (s : Site) :
    EStateM.Result Failure Site α → Prop where
  | ok {a : α} {s' : Site} : effect a s s' → s'.caller = s.caller → s'.book = s.book →
      s'.mutex = s.mutex → Yields effect s (.ok a s')
  | error (failure : Failure) : s.book.machine.phase ≠ .locked → Yields effect s (.error failure s)

/-- How an operation with a guard of its own can end. -/
inductive UnderLock (mode : LockMode) (gpu : UInt64) (effect : α → Site → Site → Prop) (s : Site) :
    EStateM.Result Failure Site (Option α) → Prop where
  | busy : mode = .attempt → ¬s.Obtains mode → UnderLock mode gpu effect s (.ok none s)
  | refused (failure : Failure) :
      ¬s.Obtains mode ∨ 0 < s.book.depth ∧ s.book.machine.phase ≠ .locked →
      UnderLock mode gpu effect s (.error failure s)
  | done {a : α} {inside s' : Site} : s.Obtains mode →
      inside = { s with book := inside.book, mutex := inside.mutex } → effect a inside s' →
      UnderLock mode gpu effect s (.ok (some a) { s' with book := s.book, mutex := s.mutex })
  | recovered {a : α} {inside s' : Site} : s.mutex.holding = .orphaned → ¬s.Obtains mode →
      s.gained.Renewed gpu inside → effect a inside s' → UnderLock mode gpu effect s (.ok (some a)
        { s' with book := s.book, mutex := { s.mutex with holding := .free } })

/-- What happens to a site under a lock and after it. -/
theorem Locks.underLock {mode : LockMode} {gpu : UInt64} {effect : α → Site → Site → Prop}
    {lock : Act Acquired} {body : Act α} {s : Site}
    (hidle : s.book.depth = 0 → s.book.holder = none)
    (hbody : ∀ t, t.book.machine.role = s.book.machine.role → Yields effect t (body t))
    (hlocks : Locks mode gpu s (lock s)) :
    UnderLock mode gpu effect s (Act.underLock lock body s) := by
  generalize hresult : lock s = result at hlocks
  cases hlocks with
  | busy hmode hobtains =>
    rw [Act.underLock, bind_ok hresult]
    exact .busy hmode hobtains
  | refused failure hobtains =>
    rw [Act.underLock, bind_error hresult]
    exact .refused failure (.inl hobtains)
  | nested hdepth hmine =>
    -- the machine can be in any phase, so the body may be refused
    rw [Act.underLock, bind_ok hresult]
    have hyields := hbody s.nested rfl
    generalize hinside : body s.nested = outcome at hyields
    show UnderLock mode gpu effect s ((guarded body >>= _) s.nested)
    cases hyields with
    | ok heffect hcaller hbook hmutex =>
      rw [bind_ok (guarded_ok hinside (release_nested false hdepth hbook))]
      have hdone : UnderLock mode gpu effect s _ :=
        .done (Site.obtains_iff.mpr ⟨hmine, .inl hdepth⟩) rfl heffect
      rw [show s.mutex = _ from hmutex.symm] at hdone
      exact hdone
    | error failure hphase =>
      rw [bind_error (guarded_error hinside (attempt_ok (release_nested _ hdepth rfl)))]
      exact .refused failure (.inr ⟨hdepth, hphase⟩)
  | gained hready hfree =>
    rw [Act.underLock, bind_ok hresult]
    have hyields := hbody s.gained rfl
    generalize hinside : body s.gained = outcome at hyields
    show UnderLock mode gpu effect s ((guarded body >>= _) s.gained)
    cases hyields with
    | ok heffect hcaller hbook hmutex =>
      rw [bind_ok (guarded_ok hinside
        (release_gained false hready (hidle hready.depth) hbook hmutex hcaller))]
      rw [show ({ s.mutex with holding := .free } : Mutex) = s.mutex by rw [← hfree]]
      exact .done (Site.obtains_iff.mpr ⟨hready.mine, .inr ⟨hready, hfree⟩⟩) rfl heffect
    | error failure hphase => exact absurd rfl hphase
  | @recovered inside hready horphaned hobtains hrenewed =>
    -- the body comes after the new session, and sees its header
    rw [Act.underLock, bind_ok hresult]
    have hyields := hbody inside (by rw [hrenewed.book]; rfl)
    generalize hinside : body inside = outcome at hyields
    show UnderLock mode gpu effect s ((guarded body >>= _) inside)
    cases hyields with
    | ok heffect hcaller hbook hmutex =>
      rw [bind_ok (guarded_ok hinside (release_gained false hready (hidle hready.depth)
        (hbook.trans hrenewed.book) (hmutex.trans hrenewed.mutex)
        (hcaller.trans hrenewed.caller)))]
      exact .recovered horphaned hobtains hrenewed heffect
    | error failure hphase =>
      rw [hrenewed.book] at hphase
      exact absurd rfl hphase

/-- An operation that begins a session under a guard of its own, which is the only one. -/
theorem UnderLock.restarted {mode : LockMode} {gpu : UInt64} {s s' : Site} {a : α}
    (hdepth : s.book.depth = 0)
    (h : UnderLock mode gpu (fun _ t t' => t.Renewed gpu t') s (.ok (some a) s')) :
    s.Restarted gpu s' := by
  cases h with
  | done hobtains hinside heffect =>
    have hrenewed := Site.Renewed.of_inside hinside heffect
    rcases (Site.obtains_iff.mp hobtains).2 with hmany | ⟨-, hfree⟩
    · omega
    · exact ⟨hrenewed, by rw [← hfree], .inl hfree⟩
  | recovered horphaned _ hrenewed heffect =>
    exact .of_gained horphaned (hrenewed.trans heffect)

end UnderLock

end FrameExchange
