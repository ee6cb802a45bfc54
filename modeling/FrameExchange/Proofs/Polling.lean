import FrameExchange.Inspect.Tool
import FrameExchange.Proofs.Invariant
import FrameExchange.Proofs.System

/-!
# One look of the inspection tool

The tool has a reader open on its region. To look is to take the lock with it, to copy the header
and to give the lock back, and these are steps of the exchange that the region is. What is logged
meanwhile nobody reads, so the log is as it was before.

- `InspectTool.Seated` — a tool whose reader is an object of an exchange.
- `InspectTool.steps` — the steps of a look.
- `InspectTool.Polls` — a look with its header, its report, and its steps.
- `InspectTool.Seated.polls` — unless a living thread has the lock, a look succeeds.
- `InspectTool.Seated.waits` — it waits for another thread that has the lock.
- `InspectTool.Seated.polled` — every look that comes to an end is one of these.
-/

namespace FrameExchange

open Act

/-! ## A header under a guard -/

namespace Reader

variable {s t : Site}

/-- The caller of a reader has the lock through it. -/
structure Enters (s t : Site) (abandoned : Bool) : Prop where
  lock : Reader.lock .blocking s = .ok (.held abandoned) t
  caller : t.caller = s.caller
  names : t.names = s.names
  book : t.book = s.gained.book
  mutex : t.mutex = s.gained.mutex

/-- The site when the lock was given back. -/
def left (s t : Site) : Site :=
  { t with book := s.book, mutex := { s.mutex with holding := .free } }

/-- Unless somebody has the lock, a reader that is not in use takes it. -/
theorem enters (hready : s.Ready)
    (hunowned : s.mutex.holding = .free ∨ s.mutex.holding = .orphaned) :
    ∃ abandoned t, Enters s t abandoned := by
  have hasks := Reader.asks .blocking s
  generalize hlock : Reader.lock .blocking s = result at hasks
  have hnotHeld {owner : Thread} (hheld : s.mutex.holding = .held owner) : False := by
    rcases hunowned with hfree | horphaned
    · cases hfree.symm.trans hheld
    · cases horphaned.symm.trans hheld
  cases hasks with
  | busy hmode => cases hmode
  | blocked _ helsewhere =>
    rcases helsewhere with hother | ⟨-, ⟨owner, hheld⟩, -⟩
    · rw [hready.mine] at hother
      cases hother
    · exact (hnotHeld hheld).elim
  | deadlock _ howner =>
    rw [Mutex.knowsOwner, Bool.and_eq_true, decide_eq_true_iff, decide_eq_true_iff] at howner
    exact (hnotHeld howner.2).elim
  | stuck _ hphase => exact absurd hready.phase hphase
  | nested hdepth => exact absurd hready.depth (Nat.pos_iff_ne_zero.mp hdepth)
  | gained => exact ⟨false, s.gained, hlock, rfl, rfl, rfl, rfl⟩
  | recovered _ _ hrenewed =>
    exact ⟨true, _, hlock, hrenewed.caller, hrenewed.names, hrenewed.book, hrenewed.mutex⟩

namespace Enters

variable {abandoned : Bool}

/-- The header is copied. -/
theorem metadata (henters : Enters s t abandoned) (hrole : s.book.machine.role = .reader) :
    Reader.metadata t = .ok (Memory.load t.memory) t := by
  refine metadata_ok ?_ ?_
  · rw [henters.book]
    exact hrole
  · rw [henters.book]
    rfl

/-- The lock is given back. -/
theorem release (henters : Enters s t abandoned) (hready : s.Ready)
    (hidle : s.book.holder = none) : Act.release false t = .ok () (left s t) :=
  release_gained false hready hidle henters.book henters.mutex henters.caller

/-- Together this is the header under a guard of its own. -/
theorem header (henters : Enters s t abandoned) (hrole : s.book.machine.role = .reader)
    (hready : s.Ready) (hidle : s.book.holder = none) :
    Reader.header .blocking s = .ok (some (Memory.load t.memory)) (left s t) := by
  rw [Reader.header, bind_ok henters.lock]
  exact bind_ok (guarded_ok (henters.metadata hrole) (henters.release hready hidle))

end Enters

end Reader

/-! ## Steps that are played -/

namespace Exchange

variable {x y z : Exchange} {thread : Thread} {move : Move} {answer : Answer} {deeds : List Deed}
  {rest : List (Thread × Move)}

/-- A script is played step by step. -/
theorem play_cons (hstep : x.step thread move = some (answer, y))
    (hrest : y.play rest = some (deeds, z)) :
    x.play ((thread, move) :: rest) = some (⟨x, thread, move, answer, y⟩ :: deeds, z) := by
  rw [play, hstep]
  dsimp only
  rw [hrest]

end Exchange

/-! ## A tool on its region -/

namespace InspectTool

/-- The object that a reader is when it was just opened, and again whenever it is not in use. -/
def resting : Client := .opened (.reader .fresh)

/-- The tool has a region open that looks like this exchange, in which its reader has this
number. -/
structure Seated (x : Exchange) (seat : Nat) (s : System) (t : InspectTool) : Prop where
  agrees : s.exchange t.region x.clients x.dead = x
  /-- The header and the lock are in two files. -/
  files : t.region.mapping ≠ t.region.lock
  client : x.clients.get? seat = some resting
  book : t.region.book = resting.book

/-- The steps of a look; at its end the log is as it was before. -/
def steps (seat : Nat) (caller : Thread) (host : Host) : List (Thread × Move) :=
  [(caller, .call seat (.lock .blocking)), (caller, .call seat .metadata),
    (caller, .call seat (.release false)),
    (caller, .elapse host.processes host.clock host.opened host.events)]

/-- A look through the lock: what is in the header then is compared with the key that was shown
last. The steps of it lead to `y`. -/
structure Polls (x : Exchange) (seat : Nat) (s : System) (t : InspectTool) (caller : Thread)
    (s' : System) (more : List Deed) (y : Exchange) : Prop where
  result : t.poll s caller = (.ok (t.watch.poll t.region.names y.header).1,
    { t with watch := (t.watch.poll t.region.names y.header).2 }, s')
  played : x.play (steps seat caller s'.host) = some (more, y)
  /-- The header is what the reader has copied out of the region, under its guard. -/
  copied : ∃ d ∈ more, d.move = .call seat .metadata ∧ d.answer = .header y.header ∧
    d.before.header = y.header ∧ d.before.mutex.holding = .held d.thread
  seated : Seated y seat s' t
  free : y.mutex.holding = .free

/-- The system after the lock was given back and the log forgotten. -/
def quieted (s : System) (t : InspectTool) (site : Site) : System :=
  { s.leave t.region site with host := { site.host with events := s.host.events } }

namespace Seated

variable {x : Exchange} {seat : Nat} {s : System} {t : InspectTool} {caller : Thread}

/-- What the reader of the tool can reach is what it can reach on the exchange. -/
theorem site (hseated : Seated x seat s t) (caller : Thread) :
    s.site caller t.region = x.site caller resting.book := by
  rw [← hseated.agrees, ← hseated.book]
  rfl

theorem ready (x : Exchange) (caller : Thread) : (x.site caller resting.book).Ready :=
  ⟨rfl, rfl, rfl⟩

/-- A reader never begins a frame. -/
theorem tokenAfter (book : LockBook) (other : LockBook) {call : Call} (answer : Answer)
    (hcall : call = .lock .blocking ∨ call = .metadata ∨ call = .release false) :
    (⟨.reader .fresh, book, none⟩ : Client).tokenAfter call answer other = none := by
  rcases hcall with rfl | rfl | rfl
  all_goals
    unfold Client.tokenAfter
    exact ite_self _

/-- The exchange after the thread has done something with the reader and left it with this book. -/
def used (x : Exchange) (seat : Nat) (site : Site) : Exchange :=
  (x.leave site).put seat ⟨.reader .fresh, site.book, none⟩

/-- The exchange after a look that had the lock like this and left it like that. -/
def looked (x : Exchange) (seat : Nat) (s : System) (locked left : Site) : Exchange :=
  { used (used (used x seat locked) seat locked) seat left with
    host := { left.host with events := s.host.events } }

/-- A call of the reader that comes to an answer. -/
theorem step_used {book : LockBook} {call : Call} {operation : Act α} {answer : α → Answer} {a : α}
    {site : Site} (halive : caller ∉ x.dead)
    (hclient : x.clients.get? seat = some ⟨.reader .fresh, book, none⟩)
    (hguard : call.underGuard = true → 0 < book.depth ∧ book.holder = some caller)
    (hcall : call = .lock .blocking ∨ call = .metadata ∨ call = .release false)
    (hoperation : (⟨.reader .fresh, book, none⟩ : Client).operation call =
      some (Act.answering (.reader .fresh) operation answer))
    (hresult : operation (x.site caller book) = .ok a site) :
    x.step caller (.call seat call) = some (answer a, used x seat site) := by
  rw [Exchange.step_call halive hclient hguard hoperation (Act.answering_ok hresult),
    tokenAfter book site.book (answer a) hcall]
  rfl

/-- The steps of a look, one after the other. -/
theorem plays (hseated : Seated x seat s t) (halive : caller ∉ x.dead) {abandoned : Bool}
    {locked left : Site} (henters : Reader.Enters (x.site caller resting.book) locked abandoned)
    (hleft : left = Reader.left (x.site caller resting.book) locked) :
    ∃ more, x.play (steps seat caller (quieted s t left).host) =
      some (more, looked x seat s locked left) ∧
      ∃ d ∈ more, d.move = .call seat .metadata ∧
        d.answer = .header (looked x seat s locked left).header ∧
        d.before = used x seat locked ∧ d.thread = caller := by
  subst hleft
  have hready := ready x caller
  -- the thread that has taken the lock finds the exchange as it has left it
  have hthere (y : Exchange) (hnames : y.names = x.names) :
      (used y seat locked).site caller locked.book = locked := by
    have hnames : (used y seat locked).names = locked.names := hnames.trans henters.names.symm
    have hcaller : caller = locked.caller := henters.caller.symm
    unfold Exchange.site
    rw [hnames, hcaller]
    rfl
  have hguard : 0 < locked.book.depth ∧ locked.book.holder = some caller := by
    rw [henters.book]
    exact ⟨Nat.zero_lt_one, rfl⟩
  have hclient (y : Exchange) : (used y seat locked).clients.get? seat =
      some ⟨.reader .fresh, locked.book, none⟩ := by
    rw [used, Exchange.put, Table.get?_insert, if_pos rfl]
  have hlock := step_used halive hseated.client (fun hunder => by cases hunder) (.inl rfl) rfl
    henters.lock
  have hmetadata := step_used (x := used x seat locked) halive (hclient x) (fun _ => hguard)
    (.inr (.inl rfl)) rfl ((congrArg Reader.metadata (hthere x rfl)).trans (henters.metadata rfl))
  have hrelease := step_used (x := used (used x seat locked) seat locked) halive (hclient _)
    (fun _ => hguard) (.inr (.inr rfl)) rfl
    ((congrArg (Act.release false) (hthere _ rfl)).trans (henters.release hready rfl))
  have helapse : (used (used (used x seat locked) seat locked) seat
      (Reader.left (x.site caller resting.book) locked)).step caller
      (.elapse locked.host.processes locked.host.clock locked.host.opened s.host.events) =
      some (.done, looked x seat s locked (Reader.left (x.site caller resting.book) locked)) :=
    if_neg halive
  refine ⟨_, Exchange.play_cons hlock (Exchange.play_cons hmetadata (Exchange.play_cons hrelease
    (Exchange.play_cons helapse rfl))), _, List.mem_cons_of_mem _ List.mem_cons_self, ?_⟩
  exact ⟨rfl, rfl, rfl, rfl⟩

/-- The system after a look is what the exchange is after its steps. -/
theorem exchange_quieted (hseated : Seated x seat s t) (site : Site) (y : Exchange)
    (hnames : y.names = x.names) (hmemory : y.memory = site.memory) (hmutex : y.mutex = site.mutex)
    (hhost : y.host = { site.host with events := s.host.events }) :
    (quieted s t site).exchange t.region y.clients y.dead = y := by
  have hleave := System.exchange_leave (s := s) y.clients y.dead hseated.files site
  have hthere : x.names = t.region.names := congrArg Exchange.names hseated.agrees.symm
  have hbytes := congrArg Exchange.memory hleave
  have hlock := congrArg Exchange.mutex hleave
  cases y with
  | mk names memory mutex host clients dead =>
    unfold System.exchange
    rw [Exchange.mk.injEq]
    exact ⟨(hnames.trans hthere).symm, hbytes.trans hmemory.symm, hlock.trans hmutex.symm,
      hhost.symm, rfl, rfl⟩

/-- A look of which the header was copied compares its key with the last one. -/
theorem poll_eq (hseated : Seated x seat s t) {site : Site} {h : Header}
    (hheader : Reader.header .blocking (x.site caller resting.book) = .ok (some h) site)
    (hbook : site.book = resting.book) :
    t.poll s caller = (.ok (t.watch.poll t.region.names h).1,
      { t with watch := (t.watch.poll t.region.names h).2 }, quieted s t site) := by
  rw [← hseated.site] at hheader
  unfold InspectTool.poll silently System.act
  simp only [hheader, hbook, ← hseated.book]
  rfl

/-- A look that does not get the lock fails. -/
theorem poll_error (hseated : Seated x seat s t) {site : Site} {failure : Failure}
    (hlock : Reader.lock .blocking (x.site caller resting.book) = .error failure site) :
    (t.poll s caller).1 = .error failure := by
  rw [← hseated.site] at hlock
  have hheader : Reader.header .blocking (s.site caller t.region) = .error failure site := by
    rw [Reader.header, bind_error hlock]
  unfold InspectTool.poll silently System.act
  simp only [hheader]

/-- A look succeeds unless a living thread has the lock. -/
theorem polls (hseated : Seated x seat s t) (halive : caller ∉ x.dead) (hunowned : x.Unowned) :
    ∃ s' more y, Polls x seat s t caller s' more y := by
  have hready := ready x caller
  obtain ⟨abandoned, locked, henters⟩ := Reader.enters hready hunowned
  have hheader := henters.header rfl hready rfl
  generalize hleft : Reader.left (x.site caller resting.book) locked = left at hheader
  obtain ⟨more, hplay, d, hmem, hmove, hanswer, hbefore, hthread⟩ :=
    hseated.plays halive henters hleft.symm
  refine ⟨quieted s t left, more, looked x seat s locked left, ?_⟩
  constructor
  case result =>
    subst hleft
    exact hseated.poll_eq hheader rfl
  case played => exact hplay
  case copied =>
    subst hleft
    refine ⟨d, hmem, hmove, hanswer, ?_, ?_⟩
    · rw [hbefore]
      rfl
    · rw [hbefore, hthread]
      show locked.mutex.holding = .held caller
      rw [henters.mutex]
      rfl
  case seated =>
    refine ⟨hseated.exchange_quieted left _ rfl rfl rfl rfl, hseated.files, ?_, hseated.book⟩
    subst hleft
    exact (Table.get?_insert ..).trans (if_pos rfl)
  case free =>
    subst hleft
    rfl

/-- While a thread has the lock a look does not succeed. It waits for any thread but its own. -/
theorem waits (hseated : Seated x seat s t) (caller : Thread) {owner : Thread}
    (hheld : x.mutex.holding = .held owner) : ∃ failure, (t.poll s caller).1 = .error failure ∧
      (x.mutex.knowsOwner caller = false → failure = .blocked) := by
  have hasks := Reader.asks .blocking (x.site caller resting.book)
  generalize hlock : Reader.lock .blocking (x.site caller resting.book) = result at hasks
  cases hasks with
  | busy hmode => cases hmode
  | blocked => exact ⟨_, hseated.poll_error hlock, fun _ => rfl⟩
  | deadlock _ howner =>
    refine ⟨_, hseated.poll_error hlock, fun hother => ?_⟩
    cases howner.symm.trans hother
  | stuck _ hphase => exact absurd rfl hphase
  | nested hdepth => exact absurd hdepth (Nat.lt_irrefl 0)
  | gained _ hfree => cases hfree.symm.trans hheld
  | recovered _ horphaned => cases horphaned.symm.trans hheld

/-- Whatever a look has come to, this is how. -/
theorem polled (hseated : Seated x seat s t) (halive : caller ∉ x.dead) {printed : Option Report}
    {t' : InspectTool} {s' : System} {more : List Deed} {y : Exchange}
    (hpoll : t.poll s caller = (.ok printed, t', s'))
    (hplay : x.play (steps seat caller s'.host) = some (more, y)) :
    Polls x seat s t caller s' more y ∧
      printed = (t.watch.poll t.region.names y.header).1 ∧
      t' = { t with watch := (t.watch.poll t.region.names y.header).2 } := by
  have hunowned : x.Unowned := by
    cases hholding : x.mutex.holding with
    | free => exact .inl hholding
    | orphaned => exact .inr hholding
    | held owner =>
      obtain ⟨failure, herror, -⟩ := hseated.waits caller hholding
      rw [hpoll] at herror
      cases herror
  obtain ⟨s'', more', y', hpolls⟩ := hseated.polls halive hunowned
  have hresult := hpoll.symm.trans hpolls.result
  obtain ⟨hprinted, hafter⟩ := Prod.mk.inj hresult
  obtain ⟨htool, hsystem⟩ := Prod.mk.inj hafter
  subst hsystem
  cases hplay.symm.trans hpolls.played
  exact ⟨hpolls, Except.ok.inj hprinted, htool⟩

end Seated

end InspectTool

end FrameExchange
