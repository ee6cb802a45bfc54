import FrameExchange.Proofs.Untrusted

/-!
# Locks of dead owners

Threads die while they have the lock, between two calls or in the middle of one, and leave any bytes
behind. Whoever takes the lock next replaces the whole header by that of a new session, whatever
object and whatever call it is taken by.

- `Exchange.Breaks`, `Mortal` — deaths in the middle of a call, and the states of a region on which
  they happen.
- `Header.Blank`, `Deed.Resets` — the header of a new session, and a step that puts it there.
- `Exchange.Ordered` — the invariant: guards of living threads are those of the owner of the lock.
- `Mortal.recovers` — what happens after a death.
-/

namespace FrameExchange

/-! ## Deaths -/

namespace Exchange

/-- A thread has died in the middle of a call, and the lock is left to whoever takes it next. What
the thread was about to write is in the memory, or is not, or is there in part. -/
def broken (x : Exchange) (thread : Thread) (memory : Bytes) (host : Host) : Exchange :=
  { x with memory, host, mutex := { x.mutex with holding := .orphaned }, dead := thread :: x.dead }

/-- How a thread can die in the middle of a call. -/
inductive Breaks (x : Exchange) (thread : Thread) : Exchange → Prop where
  /-- It had the lock already, or it has taken the lock through an object of which nothing is
  left. -/
  | alone (memory : Bytes) (host : Host) : thread ∉ x.dead →
      x.mutex.holding = .held thread ∨ x.Unowned → memory.length = x.memory.length →
      Breaks x thread (x.broken thread memory host)
  /-- It has taken the lock through an object that stays. The guards of this object are those of the
  dead thread for ever, and so nobody looks at its phase again. -/
  | through {id : Nat} {c : Client} (memory : Bytes) (host : Host) : thread ∉ x.dead →
      x.Unowned → x.clients.get? id = some c → c.book.depth = 0 →
      memory.length = x.memory.length → Breaks x thread ((x.broken thread memory host).put id
        ⟨c.body, ⟨⟨c.body.role, .locked⟩, 1, some thread⟩, none⟩)

end Exchange

/-- The states of a region that held anything when it was opened, and on which threads die at any
time. -/
inductive Mortal : Exchange → Prop where
  | start (names : RegionNames) (memory : Bytes) (host : Host) :
      Header.byteSize ≤ memory.length → Mortal (.unopened names memory host)
  | step {x y : Exchange} {thread : Thread} {move : Move} {answer : Answer} : Mortal x →
      x.step thread move = some (answer, y) → Mortal y
  | broken {x y : Exchange} {thread : Thread} : Mortal x → x.Breaks thread y → Mortal y

/-! ## New sessions -/

/-- The header of a session that has just begun. -/
structure Header.Blank (h : Header) (gpu : UInt64) : Prop where
  whole : h = .ofSession gpu h.session
  magic : h.magic = headerMagic
  flags : h.flags = 0
  detached : h.hasFeeder = false
  gpu : h.gpu = gpu
  frame : h.frame = 0
  layers : h.layerCount = 0 ∧ h.layers = []
  handles : h.texture = 0 ∧ h.fence = 0
  fences : ∀ slot, h.fenceValue slot = 0

theorem Header.blank_ofSession (gpu session : UInt64) : (ofSession gpu session).Blank gpu where
  whole := rfl
  magic := rfl
  flags := rfl
  detached := hasFeeder_ofSession gpu session
  gpu := rfl
  frame := rfl
  layers := ⟨rfl, rfl⟩
  handles := ⟨rfl, rfl⟩
  fences := by
    intro slot
    show (Vector.replicate slotCount (0 : UInt64))[slot] = 0
    simp

/-- The adapter of a session that is begun in a step: that of the writer, if a writer makes it, and
otherwise the adapter that was in the header. -/
def Exchange.adapter (x : Exchange) : Move → UInt64
  | .openWriter _ gpu => gpu
  | .close id | .call id _ => (x.clients.get? id).elim x.header.gpu (·.body.adapter x.header)
  | _ => x.header.gpu

/-- It is that of the object, if there is one. -/
theorem Exchange.adapter_of_client {x : Exchange} {move : Move} {id : Nat} {c : Client}
    (hclient : x.clients.get? id = some c)
    (hmove : move = .close id ∨ ∃ call, move = .call id call) :
    x.adapter move = c.body.adapter x.header := by
  rcases hmove with rfl | ⟨call, rfl⟩
  · rw [adapter, hclient]
    rfl
  · rw [adapter, hclient]
    rfl

namespace Deed

/-- The step has replaced the header, whatever it was, by one of a new session. -/
structure Resets (d : Deed) : Prop where
  blank : d.after.header.Blank (d.before.adapter d.move)
  drawn : d.after.header.session ∈ d.drawn
  /-- If no session is drawn that there was, it is another one than before. -/
  fresh : d.before.header.session ∉ d.drawn →
    d.after.header.session ≠ d.before.header.session

variable {d : Deed}

/-- A session that was drawn and stored in a step. -/
theorem Resets.of_renewed {s s' : Site} (hlen : Header.byteSize ≤ d.before.memory.length)
    (hcaller : s.caller = d.thread) (hmemory : s.memory = d.before.memory)
    (hhost : s.host = d.before.host) (hheader : d.after.header = Memory.load s'.memory)
    (hafter : d.after.host = s'.host) (h : s.Renewed (d.before.adapter d.move) s') : d.Resets := by
  obtain ⟨k, hfirst, hlast, hload⟩ := h.header
  rw [hhost] at hfirst hload
  rw [hmemory, hcaller] at hload
  have hsession := hheader.trans (hload hlen)
  have hdrawn : d.after.header.session ∈ d.drawn := by
    rw [hsession]
    exact mem_drawn hfirst (by rw [hafter, hlast])
  refine ⟨?_, hdrawn, fun hnot heq => hnot (heq ▸ hdrawn)⟩
  rw [hsession]
  exact Header.blank_ofSession _ _

/-- A session that was begun in a step while nobody had the lock. -/
theorem Resets.of_restarted {book : LockBook} {s' : Site}
    (hlen : Header.byteSize ≤ d.before.memory.length)
    (hheader : d.after.header = Memory.load s'.memory) (hafter : d.after.host = s'.host)
    (h : (d.before.site d.thread book).Restarted (d.before.adapter d.move) s') : d.Resets := by
  refine .of_renewed hlen rfl rfl rfl ?_ ?_ h.renewed
  · exact hheader
  · exact hafter

end Deed

/-! ## The invariant -/

namespace Exchange

/-- What holds in spite of all deaths. -/
structure Ordered (x : Exchange) : Prop extends Shielded x where
  exclusive : x.Exclusive

variable {x y : Exchange} {thread : Thread} {move : Move} {answer : Answer} {id : Nat} {c : Client}

theorem Ordered.step (hordered : x.Ordered) (h : x.step thread move = some (answer, y)) :
    y.Ordered := by
  obtain ⟨halive, hhappens⟩ := happens hordered.settled hordered.length h
  exact ⟨hordered.toShielded.step h,
    hordered.exclusive.step (hhappens.relocks hordered.exclusive halive)⟩

/-- The dead have no guards that count. -/
theorem Breaks.not_hasLock (hexclusive : x.Exclusive) (h : x.Breaks thread y) (id : Nat)
    (other : Thread) : ¬y.HasLock id other := by
  have hbefore (hlock : x.HasLock id other) (hne : other ≠ thread)
      (hholding : x.mutex.holding = .held thread ∨ x.Unowned) : False := by
    rcases hholding with hheld | hunowned
    · have howner := hexclusive.owned id other hlock
      rw [hheld] at howner
      cases howner
      exact hne rfl
    · exact hexclusive.not_hasLock hunowned id other hlock
  intro hlock
  cases h with
  | alone memory host _ hholding =>
    obtain ⟨c, hclient, hholder, hliving⟩ := hlock
    obtain ⟨hne, hliving⟩ := not_or.mp (List.mem_cons.not.mp hliving)
    exact hbefore ⟨c, hclient, hholder, hliving⟩ hne hholding
  | through memory host _ hunowned =>
    rcases hasLock_put hlock with ⟨-, hholder, hliving⟩ | ⟨-, c, hclient, hholder, hliving⟩
    · cases hholder
      exact hliving List.mem_cons_self
    · obtain ⟨hne, hliving⟩ := not_or.mp (List.mem_cons.not.mp hliving)
      exact hbefore ⟨c, hclient, hholder, hliving⟩ hne (.inr hunowned)

theorem Breaks.orphaned (h : x.Breaks thread y) : y.mutex.holding = .orphaned := by
  cases h <;> rfl

theorem Ordered.breaks (hordered : x.Ordered) (h : x.Breaks thread y) : y.Ordered := by
  have hexclusive : y.Exclusive := by
    have hnone := h.not_hasLock hordered.exclusive
    refine ⟨?_, fun id t hlock => absurd hlock (hnone id t),
      fun id _ t hlock => absurd hlock (hnone id t)⟩
    cases h <;> exact hordered.exclusive.checked
  refine ⟨?_, hexclusive⟩
  cases h with
  | alone memory host _ _ hlen =>
    exact ⟨hlen ▸ hordered.length, hordered.settled, hordered.rests, hordered.kept⟩
  | @through held c memory host _ _ hclient _ hlen =>
    -- the object that the dead thread has left is as settled as any, and every other is as it was
    have hclients {other : Nat} {d : Client} {P : Nat → Client → Prop}
        (hother : ((x.broken thread memory host).put held
          ⟨c.body, ⟨⟨c.body.role, .locked⟩, 1, some thread⟩, none⟩).clients.get? other = some d)
        (hheld : P held ⟨c.body, ⟨⟨c.body.role, .locked⟩, 1, some thread⟩, none⟩)
        (hrest : ∀ other d, x.clients.get? other = some d → P other d) : P other d := by
      rw [get?_put] at hother
      split at hother
      · next heq =>
        cases hother
        exact heq ▸ hheld
      · exact hrest other d hother
    refine ⟨hlen ▸ hordered.length, fun id d hd => ?_, fun id d hd => ?_,
      fun id d cached number hd hbody => ?_⟩
    · refine hclients hd ?_ hordered.settled
      refine ⟨rfl, fun hzero => ?_, fun _ hnone => ?_, fun _ _ => rfl, fun hnone => ?_⟩
      · cases hzero
      · cases hnone
      · exact absurd rfl hnone
    · refine hclients hd ?_ hordered.rests
      intro _ hzero
      cases hzero
    · have hkept := hclients (P := fun _ d => ∀ cached number, d.body = .cached cached number →
        cached.Vouched Snapshot.Trusted) hd (hordered.kept held c · · hclient)
        fun other d hother cached number => hordered.kept other d cached number hother
      exact hkept cached number hbody

end Exchange

/-- The invariant holds wherever threads die. -/
theorem Mortal.ordered {x : Exchange} (h : Mortal x) : x.Ordered := by
  induction h with
  | start names memory host hlen =>
    refine ⟨⟨hlen, ?_, ?_, ?_⟩, rfl, ?_, ?_⟩
    · intro id c hclient
      cases hclient
    · intro id c hclient
      cases hclient
    · intro id c cached number hclient
      cases hclient
    · rintro id thread ⟨c, hclient, -⟩
      cases hclient
    · rintro id other thread ⟨c, hclient, -⟩
      cases hclient
  | step _ hstep ih => exact ih.step hstep
  | broken _ hbreaks ih => exact ih.breaks hbreaks

/-! ## The lock of a dead owner is taken -/

namespace Exchange

variable {x y : Exchange} {thread : Thread} {move : Move} {answer : Answer} {id : Nat} {c : Client}
  {call : Call}

/-- Of a lock that was left behind nobody alive has guards. -/
theorem Ordered.not_guardOf (hordered : x.Ordered) (horphaned : x.mutex.holding = .orphaned)
    (halive : thread ∉ x.dead) (hclient : x.clients.get? id = some c) : ¬c.GuardOf thread := by
  intro hguard
  exact hordered.exclusive.not_hasLock (.inr horphaned) id thread ⟨c, hclient, hguard.2, halive⟩

/-- After the death of an owner a step leaves lock and header as they are, or it takes the lock and
replaces the header. -/
theorem Ordered.resets (hordered : x.Ordered) (horphaned : x.mutex.holding = .orphaned)
    (hstep : x.step thread move = some (answer, y)) :
    (y.mutex.holding = .orphaned ∧ y.header = x.header) ∨
      (y.mutex.holding ≠ .orphaned ∧ Deed.Resets ⟨x, thread, move, answer, y⟩) := by
  have hlen := hordered.length
  obtain ⟨halive, hhappens⟩ := happens hordered.settled hlen hstep
  have hstill {book : LockBook} {s' : Site} (hmutex : y.mutex = s'.mutex)
      (hheader : y.header = Memory.load s'.memory) (h : (x.site thread book).Still s') :
      (y.mutex.holding = .orphaned ∧ y.header = x.header) ∨
        (y.mutex.holding ≠ .orphaned ∧ Deed.Resets ⟨x, thread, move, answer, y⟩) := by
    refine .inl ⟨?_, hheader.trans (congrArg Memory.load h.memory)⟩
    rw [hmutex, h.mutex]
    exact horphaned
  have hrestarted {book : LockBook} {s' : Site} (hmutex : y.mutex = s'.mutex)
      (hheader : y.header = Memory.load s'.memory) (hhost : y.host = s'.host)
      (h : (x.site thread book).Restarted (x.adapter move) s') :
      (y.mutex.holding = .orphaned ∧ y.header = x.header) ∨
        (y.mutex.holding ≠ .orphaned ∧ Deed.Resets ⟨x, thread, move, answer, y⟩) := by
    refine .inr ⟨?_, .of_restarted hlen hheader hhost h⟩
    rw [hmutex, h.mutex]
    exact fun heq => by cases heq
  cases hhappens with
  | @called id c call _ body s' hclient hguard heffect =>
    have hadapter : x.adapter (.call id call) = c.body.adapter x.header :=
      adapter_of_client hclient (.inr ⟨call, rfl⟩)
    -- nobody alive has guards, so the call is one that comes without
    by_cases hunder : call.underGuard = true
    · exact absurd (hguard hunder) (hordered.not_guardOf horphaned halive hclient)
    · cases heffect with
      | still _ _ h => exact hstill rfl rfl h
      | recovered _ _ h => exact hrestarted rfl rfl rfl (hadapter ▸ h)
      | nested hdepth hmine =>
        have hguard := (hordered.settled id c hclient).guardOf hdepth hmine
        exact absurd hguard (hordered.not_guardOf horphaned halive hclient)
      | gained _ hfree =>
        have hfree : x.mutex.holding = .free := hfree
        rw [horphaned] at hfree
        cases hfree
      | inherited _ _ hrenewed =>
        refine .inr ⟨?_, .of_renewed hlen rfl rfl rfl rfl rfl (hadapter ▸ hrenewed)⟩
        show s'.mutex.holding ≠ .orphaned
        rw [hrenewed.mutex]
        exact fun heq => by cases heq
      | _ => exact absurd rfl hunder
  | attached _ h => exact hrestarted rfl rfl rfl h
  | notAttached _ h =>
    rcases h with h | h
    · exact hstill rfl rfl h
    · exact hrestarted rfl rfl rfl h
  | openedReader => exact .inl ⟨horphaned, rfl⟩
  | openedCached => exact .inl ⟨horphaned, rfl⟩
  | @closed id c _ s' hclient _ _ h =>
    rcases h with h | h
    · exact hstill rfl rfl h
    · exact hrestarted rfl rfl rfl ((adapter_of_client hclient (.inl rfl)).symm ▸ h)
  | died =>
    refine .inl ⟨?_, rfl⟩
    show (x.mutex.ownerDies thread).holding = .orphaned
    rw [Mutex.ownerDies]
    split
    · rfl
    · exact horphaned
  | elapsed => exact .inl ⟨horphaned, rfl⟩

/-- Whoever takes the lock of a dead owner is told so. -/
theorem Ordered.told {mode : LockMode} {abandoned : Bool} (hordered : x.Ordered)
    (horphaned : x.mutex.holding = .orphaned)
    (hstep : x.step thread (.call id (.lock mode)) = some (.locked abandoned, y)) :
    abandoned = true ∧ y.mutex.holding = .held thread := by
  have halive := (step_ends hstep).1
  obtain ⟨c, s', result, hclient, rfl, hasks, hresult⟩ := step_lock hstep
  obtain ⟨acquired, rfl, hanswer⟩ : ∃ acquired, result = .ok acquired s' ∧
      Answer.locked abandoned = .ofAcquired acquired := by
    rcases hresult with ⟨acquired, hok, hanswer⟩ | ⟨failure, -, -, hanswer⟩
    · exact ⟨acquired, hok, hanswer⟩
    · cases hanswer
  cases hasks with
  | busy => cases hanswer
  | nested hdepth hmine =>
    have hguard := (hordered.settled id c hclient).guardOf hdepth hmine
    exact absurd hguard (hordered.not_guardOf horphaned halive hclient)
  | gained _ hfree =>
    have hfree : x.mutex.holding = .free := hfree
    rw [horphaned] at hfree
    cases hfree
  | recovered _ _ hrenewed =>
    cases hanswer
    refine ⟨rfl, ?_⟩
    show s'.mutex.holding = .held thread
    rw [hrenewed.mutex]
    rfl

/-- An object without guards can begin where it was left. -/
theorem ready_of_idle (x : Exchange) (thread : Thread) (hsettled : c.Settled)
    (hdepth : c.book.depth = 0) (hphase : c.book.machine.phase = .unlocked) :
    (x.site thread c.book).Ready := by
  refine ⟨hdepth, ?_, hphase⟩
  show c.book.heldElsewhere thread = false
  rw [LockBook.heldElsewhere, hsettled.idle hdepth]

/-- An object that nobody has guards of takes the lock of a dead owner at once. -/
theorem Ordered.takes (hordered : x.Ordered) (horphaned : x.mutex.holding = .orphaned)
    (halive : thread ∉ x.dead) (hclient : x.clients.get? id = some c)
    (hdepth : c.book.depth = 0) (hphase : c.book.machine.phase = .unlocked) (mode : LockMode) :
    ∃ y, x.step thread (.call id (.lock mode)) = some (.locked true, y) := by
  have hready := ready_of_idle x thread (hordered.settled id c hclient) hdepth hphase
  obtain ⟨lock, hlock, hasks⟩ := c.operation_lock mode
  obtain ⟨s', hresult, -⟩ := (hasks (x.site thread c.book)).inherits hready horphaned
  have hanswer := step_answer halive hclient (fun hunder => by cases hunder) hlock
  rw [hresult, Option.map_eq_some_iff] at hanswer
  obtain ⟨⟨answer, y⟩, hstep, hanswer⟩ := hanswer
  cases hanswer
  exact ⟨y, hstep⟩

end Exchange

/-! ## Reads of a header without a feeder -/

namespace Reader

variable {s : Site} {r : Reader}

/-- A read that finds the lock of a dead owner takes it, and has nothing to show. -/
theorem captureOrEmpty_recovers (mode : LockMode) (hlen : Header.byteSize ≤ s.memory.length)
    (hresting : Resting s) (hready : s.Ready) (horphaned : s.mutex.holding = .orphaned) :
    ∃ r' s', r.captureOrEmpty mode s = .ok (.empty, r') s' ∧ s'.mutex.holding = .free := by
  obtain ⟨s', hheader, hrestarted⟩ := header_recovers mode hresting hready horphaned
  obtain ⟨s'', hstill, ⟨husable, -⟩ | ⟨-, hcapture⟩⟩ := r.capture_seen hheader
  · exact absurd husable (hrestarted.not_usable hlen)
  · refine ⟨r.follow (Memory.load s'.memory), s'', ?_, ?_⟩
    · rw [captureOrEmpty, Act.bind_ok (Act.attempt_ok hcapture)]
      rfl
    · rw [hstill.mutex, hrestarted.mutex]

/-- What was logged before does not matter to whether an object can begin. -/
theorem ready_still {s' : Site} (hready : s.Ready) (hstill : s.Still s') : s'.Ready := by
  obtain ⟨hdepth, hmine, hphase⟩ := hready
  rw [← hstill.book] at hdepth hmine hphase
  rw [← hstill.caller] at hmine
  exact ⟨hdepth, hmine, hphase⟩

/-- The same with pixels. -/
theorem read_recovers (kind : ConsumerKind) (gpu : UInt64) (target : Nat) (copier : Copier)
    (hlen : Header.byteSize ≤ s.memory.length) (hresting : Resting s) (hready : s.Ready)
    (horphaned : s.mutex.holding = .orphaned) :
    ∃ r' s', r.read kind gpu target copier s = .ok (.empty, r', copier) s' ∧
      s'.mutex.holding = .free := by
  have hsee := see_still kind s
  obtain ⟨r', s', hcapture, hfree⟩ := captureOrEmpty_recovers (r := r) .blocking
    (by rw [hsee.memory]; exact hlen) (hresting.still hsee) (ready_still hready hsee) horphaned
  refine ⟨r', s', ?_, hfree⟩
  rw [read, Act.bind_ok (see_ok kind s), Act.bind_ok hcapture]
  rfl

/-- And without. -/
theorem metadataSnapshot_recovers (kind : ConsumerKind) (mode : LockMode)
    (hlen : Header.byteSize ≤ s.memory.length) (hresting : Resting s) (hready : s.Ready)
    (horphaned : s.mutex.holding = .orphaned) :
    ∃ r' s', (do Act.see kind; r.metadataSnapshot mode) s = .ok (.empty, r') s' ∧
      s'.mutex.holding = .free := by
  have hsee := see_still kind s
  obtain ⟨r', s', hcapture, hfree⟩ := captureOrEmpty_recovers (r := r) mode
    (by rw [hsee.memory]; exact hlen) (hresting.still hsee) (ready_still hready hsee) horphaned
  refine ⟨r', s', ?_, hfree⟩
  rw [Act.bind_ok (see_ok kind s), metadataSnapshot, Act.bind_ok hcapture]
  rfl

end Reader

/-- The reads that look at the header, and show nothing that was kept. -/
def Call.uncached : Call → Bool
  | .read .. | .readMetadata _ | .getMetadata => true
  | _ => false

namespace Exchange

variable {x y : Exchange} {thread : Thread} {move : Move} {answer : Answer} {id : Nat} {c : Client}
  {call : Call}

/-- A read that comes to an empty snapshot is answered with it. -/
theorem step_empty {operation : Act (Answer × Body)} {body : Body} {s' : Site}
    (halive : thread ∉ x.dead) (hclient : x.clients.get? id = some c)
    (hguard : call.underGuard = false) (hoperation : c.operation call = some operation)
    (hresult : operation (x.site thread c.book) = .ok (.shown .empty [], body) s')
    (hfree : s'.mutex.holding = .free) :
    ∃ y, x.step thread (.call id call) = some (.shown .empty [], y) ∧
      y.mutex.holding = .free := by
  refine ⟨_, step_call halive hclient (fun hunder => ?_) hoperation hresult, hfree⟩
  rw [hguard] at hunder
  cases hunder

/-- A read through an object that nobody has guards of takes the lock of a dead owner, and gives an
empty snapshot. -/
theorem Ordered.reads_recover (hordered : x.Ordered) (horphaned : x.mutex.holding = .orphaned)
    (halive : thread ∉ x.dead) (hclient : x.clients.get? id = some c) (hdepth : c.book.depth = 0)
    (hcall : call.uncached = true) (hoperation : (c.operation call).isSome = true) :
    ∃ y, x.step thread (.call id call) = some (.shown .empty [], y) ∧
      y.mutex.holding = .free := by
  have hlen := hordered.length
  have hsite (hreader : c.body.role = .reader) : Reader.Resting (x.site thread c.book) ∧
      (x.site thread c.book).Ready := by
    refine ⟨hordered.resting thread hclient hreader, ?_⟩
    exact ready_of_idle x thread (hordered.settled id c hclient) hdepth
      (hordered.rests id c hclient hreader hdepth)
  cases call with
  | read kind gpu target copier =>
    cases hbody : c.body with
    | reader r =>
      obtain ⟨hresting, hready⟩ := hsite (by rw [hbody]; rfl)
      obtain ⟨r', s', hread, hfree⟩ := Reader.read_recovers (r := r) kind gpu target copier.looked
        hlen hresting hready horphaned
      have hanswer : r.answerRead kind gpu target copier (x.site thread c.book) =
          .ok (.shown .empty [], .reader r') s' := by
        rw [Reader.answerRead, Act.bind_ok hread]
        rfl
      refine step_empty halive hclient rfl ?_ hanswer hfree
      rw [Client.operation, hbody]
    | _ => simp [Client.operation, hbody] at hoperation
  | readMetadata kind =>
    cases hbody : c.body with
    | reader r =>
      obtain ⟨hresting, hready⟩ := hsite (by rw [hbody]; rfl)
      obtain ⟨r', s', hread, hfree⟩ := Reader.metadataSnapshot_recovers (r := r) kind .blocking
        hlen hresting hready horphaned
      have hread : r.readMetadata kind (x.site thread c.book) = .ok (.empty, r') s' := hread
      have hanswer : r.answerMetadata kind (x.site thread c.book) =
          .ok (.shown .empty [], .reader r') s' := by
        rw [Reader.answerMetadata, Act.bind_ok hread]
        rfl
      refine step_empty halive hclient rfl ?_ hanswer hfree
      rw [Client.operation, hbody]
    | _ => simp [Client.operation, hbody] at hoperation
  | getMetadata =>
    cases hbody : c.body with
    | cached cached number =>
      obtain ⟨hresting, hready⟩ := hsite (by rw [hbody]; rfl)
      obtain ⟨r', s', hread, hfree⟩ := Reader.metadataSnapshot_recovers (r := cached.reader)
        cached.kind .attempt hlen hresting hready horphaned
      have hanswer : cached.answerMetadata number (x.site thread c.book) =
          .ok (.shown .empty [], .cached { cached with reader := r' } number) s' := by
        rw [CachedReader.answerMetadata_eq, Act.bind_ok hread]
        rfl
      refine step_empty halive hclient rfl ?_ hanswer hfree
      rw [Client.operation, hbody]
    | _ => simp [Client.operation, hbody] at hoperation
  | _ => cases hcall

/-- There is nothing to be seen: no feeder is in the header, or the header is that of a dead owner
and whoever takes the lock replaces it. -/
def Dark (x : Exchange) : Prop :=
  x.header.hasFeeder = false ∨ x.mutex.holding = .orphaned

/-- No header is usable by a thread that can take the lock. -/
theorem Ordered.not_usable (hordered : x.Ordered) (hdark : x.Dark) (mode : LockMode)
    (halive : thread ∉ x.dead) (hclient : x.clients.get? id = some c)
    (hobtains : (x.site thread c.book).Obtains mode) : ¬x.header.Usable := by
  rintro ⟨hfeeder, -⟩
  rcases hdark with hdetached | horphaned
  · rw [hdetached] at hfeeder
    cases hfeeder
  · obtain ⟨hmine, hdepth | ⟨-, hfree⟩⟩ := Site.obtains_iff.mp hobtains
    · have hguard := (hordered.settled id c hclient).guardOf hdepth hmine
      exact hordered.not_guardOf horphaned halive hclient hguard
    · have hfree : x.mutex.holding = .free := hfree
      rw [horphaned] at hfree
      cases hfree

/-- Whatever a read gives then is empty. -/
theorem Ordered.shown_empty {snapshot : Snapshot} {calls : List CopierCall} (hordered : x.Ordered)
    (hdark : x.Dark) (hcall : call.uncached = true)
    (hstep : x.step thread (.call id call) = some (.shown snapshot calls, y)) :
    snapshot = .empty ∧ calls = [] := by
  obtain ⟨halive, hhappens⟩ := happens hordered.settled hordered.length hstep
  cases hhappens with
  | @called _ c _ _ body s' hclient _ _ hbecomes =>
    have husable (mode : LockMode) := hordered.not_usable hdark mode halive hclient
    generalize c.body = before at hbecomes
    cases hbecomes with
    | same _ _ hshows => cases hshows
    | read hreads =>
      cases hreads with
      | missed => exact ⟨rfl, rfl⟩
      | unusable => exact ⟨rfl, rfl⟩
      | recovered => exact ⟨rfl, rfl⟩
      | frame _ hframe _ hobtains => exact absurd hframe (husable .blocking hobtains)
    | readMetadata hreads =>
      cases hreads with
      | missed => exact ⟨rfl, rfl⟩
      | unusable => exact ⟨rfl, rfl⟩
      | recovered => exact ⟨rfl, rfl⟩
      | frame _ hframe hobtains => exact absurd hframe (husable .blocking hobtains)
    | get => cases hcall
    | getMetadata hreads =>
      cases hreads with
      | missed => exact ⟨rfl, rfl⟩
      | unusable => exact ⟨rfl, rfl⟩
      | recovered => exact ⟨rfl, rfl⟩
      | frame _ hframe hobtains => exact absurd hframe (husable .attempt hobtains)

/-- A read gives an empty snapshot, unless it is one that waits, and waits for somebody else. -/
def ReadsEmpty (x : Exchange) (thread : Thread) (id : Nat) (c : Client) (call : Call) : Prop :=
  (∃ y, x.step thread (.call id call) = some (.shown .empty [], y)) ∨
    (call.waits = true ∧ x.step thread (.call id call) = none ∧ (x.site thread c.book).Elsewhere)

theorem Ordered.readsEmpty (hordered : x.Ordered) (hdark : x.Dark) (halive : thread ∉ x.dead)
    (hclient : x.clients.get? id = some c) (hcall : call.uncached = true)
    (hoperation : (c.operation call).isSome = true) : x.ReadsEmpty thread id c call := by
  have hreads : call.reads = true := by cases call <;> first | rfl | cases hcall
  rcases hordered.readsOrWaits hclient halive hreads hoperation with
    ⟨snapshot, calls, y, hgiven⟩ | hwaits
  · obtain ⟨rfl, rfl⟩ := hordered.shown_empty hdark hcall hgiven.step
    exact .inl ⟨y, hgiven.step⟩
  · exact .inr hwaits

/-- It stays dark until a frame is published. -/
theorem Dark.step (hdark : x.Dark) (hordered : x.Ordered) (hquiet : move.publishes answer = false)
    (hstep : x.step thread move = some (answer, y)) : y.Dark := by
  -- without a feeder it takes a frame to bring one, and a header that was left behind goes first
  rcases hdark with hdetached | horphaned
  · left
    have hrewrites := (happens hordered.settled hordered.length hstep).2.rewrites hordered.length
    cases hrewrites with
    | kept _ _ hheader =>
      rw [hheader]
      exact hdetached
    | raised hheader =>
      rw [hheader]
      exact hdetached
    | published => cases hquiet
    | emptied => cases hquiet
    | restarted _ _ _ _ hheader =>
      rw [hheader]
      exact Header.hasFeeder_ofSession _ _
  · rcases hordered.resets horphaned hstep with ⟨horphaned, -⟩ | ⟨-, hresets⟩
    · exact .inr horphaned
    · exact .inl hresets.blank.detached

/-- Later states, if nobody dies meanwhile who has the lock. -/
inductive Spared (x : Exchange) : Exchange → Prop where
  | refl : Spared x x
  | step {y z : Exchange} {thread : Thread} {move : Move} {answer : Answer} : Spared x y →
      (move = .die → y.mutex.holding ≠ .held thread) → y.step thread move = some (answer, z) →
      Spared x z

/-- Later states, if no frame is published meanwhile. Anybody may die. -/
inductive Unlit (x : Exchange) : Exchange → Prop where
  | refl : Unlit x x
  | step {y z : Exchange} {thread : Thread} {move : Move} {answer : Answer} : Unlit x y →
      move.publishes answer = false → y.step thread move = some (answer, z) → Unlit x z
  | broken {y z : Exchange} {thread : Thread} : Unlit x y → y.Breaks thread z → Unlit x z

/-- It stays dark until a frame is published, whoever dies. -/
theorem Dark.unlit (hdark : x.Dark) (hordered : x.Ordered) (h : x.Unlit y) :
    y.Ordered ∧ y.Dark := by
  induction h with
  | refl => exact ⟨hordered, hdark⟩
  | step _ hquiet hstep ih => exact ⟨ih.1.step hstep, ih.2.step ih.1 hquiet hstep⟩
  | broken _ hbreaks ih => exact ⟨ih.1.breaks hbreaks, .inr hbreaks.orphaned⟩

/-- The lock is left behind only by an owner who dies. -/
theorem Happens.not_orphaned (h : Happens x thread move answer y)
    (hspared : move = .die → x.mutex.holding ≠ .held thread)
    (hnot : x.mutex.holding ≠ .orphaned) : y.mutex.holding ≠ .orphaned := by
  have hlooked {book : LockBook} {s' : Site} (hmutex : y.mutex = s'.mutex)
      (hsite : (x.site thread book).Still s' ∨ ∃ gpu, (x.site thread book).Restarted gpu s') :
      y.mutex.holding ≠ .orphaned := by
    rcases hsite with hstill | ⟨gpu, hrestarted⟩
    · rw [hmutex, hstill.mutex]
      exact hnot
    · rw [hmutex, hrestarted.mutex]
      exact fun heq => by cases heq
  cases h with
  | @called _ _ _ _ _ s' _ _ heffect =>
    show s'.mutex.holding ≠ .orphaned
    cases heffect with
    | still _ _ hstill => exact hlooked rfl (.inl hstill)
    | recovered _ _ _ horphaned => exact absurd horphaned hnot
    | gained => exact fun heq => by cases heq
    | inherited _ horphaned => exact absurd horphaned hnot
    | freed => exact fun heq => by cases heq
    | detached _ _ hrenewed =>
      rw [hrenewed.mutex]
      exact hnot
    | _ => exact hnot
  | attached _ hrestarted => exact hlooked rfl (.inr ⟨_, hrestarted⟩)
  | notAttached _ hsite => exact hlooked rfl (hsite.imp_right fun h => ⟨_, h⟩)
  | openedReader => exact hnot
  | openedCached => exact hnot
  | closed _ _ _ hsite => exact hlooked rfl (hsite.imp_right fun h => ⟨_, h⟩)
  | died =>
    have howner : x.mutex.knowsOwner thread = false := by
      simp [Mutex.knowsOwner, hspared rfl]
    show (x.mutex.ownerDies thread).holding ≠ .orphaned
    rw [Mutex.ownerDies, howner]
    exact hnot
  | elapsed => exact hnot

/-- It is left behind no sooner than an owner dies. -/
theorem Spared.not_orphaned (h : x.Spared y) (hordered : x.Ordered)
    (hnot : x.mutex.holding ≠ .orphaned) : y.Ordered ∧ y.mutex.holding ≠ .orphaned := by
  induction h with
  | refl => exact ⟨hordered, hnot⟩
  | step _ hspared hstep ih =>
    have hhappens := (happens ih.1.settled ih.1.length hstep).2
    exact ⟨ih.1.step hstep, hhappens.not_orphaned hspared ih.2⟩

end Exchange

open Exchange

/-- A step that finds no trace of a dead owner: nobody is told of one, and whoever takes the lock or
reads leaves the header as it is. -/
structure Deed.Unaware (d : Deed) : Prop where
  told : ∀ id mode, d.move = .call id (.lock mode) → d.answer ≠ .locked true
  kept : ∀ id call, d.move = .call id call → (∃ mode, call = .lock mode) ∨ call.reads = true →
    d.drawn = [] ∧ d.after.header = d.before.header

/-- There is such a trace only while the lock is left behind. -/
theorem Deed.Valid.unaware {d : Deed} (hvalid : d.Valid) (hordered : d.before.Ordered)
    (hnot : d.before.mutex.holding ≠ .orphaned) : d.Unaware := by
  obtain ⟨x, thread, move, answer, y⟩ := d
  constructor
  case told =>
    rintro id mode hmove hanswer
    cases hmove
    cases hanswer
    obtain ⟨c, s', result, -, -, hasks, hresult⟩ := step_lock hvalid
    rcases hresult with ⟨acquired, rfl, hanswer⟩ | ⟨failure, -, -, hanswer⟩
    · cases hasks with
      | busy => cases hanswer
      | nested => cases hanswer
      | gained => cases hanswer
      | recovered _ horphaned => exact hnot horphaned
    · cases hanswer
  case kept =>
    rintro id call hmove hcall
    cases hmove
    have hhappens : Happens x thread (.call id call) answer y :=
      (happens hordered.settled hordered.length hvalid).2
    have hstays (hheader : y.header = x.header) (hentropy : y.host.entropy = x.host.entropy) :
        Deed.drawn ⟨x, thread, .call id call, answer, y⟩ = [] ∧ y.header = x.header :=
      ⟨drawn_eq_nil hentropy, hheader⟩
    cases hhappens with
    | called _ _ heffect =>
      cases heffect with
      | still _ _ hstill =>
        exact hstays (congrArg Memory.load hstill.memory) hstill.host.entropy
      | recovered _ _ _ horphaned => exact absurd horphaned hnot
      | nested => exact hstays rfl rfl
      | gained => exact hstays rfl rfl
      | inherited _ horphaned => exact absurd horphaned hnot
      | _ =>
        rcases hcall with ⟨mode, heq⟩ | hreads
        · cases heq
        · cases hreads

/-! ## What happens after a death -/

/-- What happens on a region whose lock was left by a dead owner. -/
structure Exchange.Recovers (x : Exchange) : Prop where
  /-- Nothing happens to the header before somebody takes the lock, and that replaces it. -/
  resets : ∀ thread move answer y, x.step thread move = some (answer, y) →
    (y.mutex.holding = .orphaned ∧ y.header = x.header) ∨
      (y.mutex.holding ≠ .orphaned ∧ Deed.Resets ⟨x, thread, move, answer, y⟩)
  /-- Whoever is given a guard is told of the dead owner. -/
  told : ∀ thread id mode abandoned y,
    x.step thread (.call id (.lock mode)) = some (.locked abandoned, y) →
      abandoned = true ∧ y.mutex.holding = .held thread
  /-- A guard can be had through every object that can begin. -/
  locks : ∀ thread id c mode, thread ∉ x.dead → x.clients.get? id = some c →
    c.book.depth = 0 → c.book.machine.phase = .unlocked →
      ∃ y, x.step thread (.call id (.lock mode)) = some (.locked true, y)
  /-- Reads take the lock as well, and give it back. -/
  reads : ∀ thread id c call, thread ∉ x.dead → x.clients.get? id = some c → c.book.depth = 0 →
    call.uncached = true → (c.operation call).isSome = true →
      ∃ y, x.step thread (.call id call) = some (.shown .empty [], y) ∧ y.mutex.holding = .free
  /-- Once it was taken nobody finds it left behind, until another owner dies. -/
  once : ∀ thread move answer y z, x.step thread move = some (answer, y) →
    y.mutex.holding ≠ .orphaned → y.Spared z → z.mutex.holding ≠ .orphaned ∧
      ∀ d : Deed, d.before = z → d.Valid → d.Unaware
  /-- From now on reads are empty, until a frame is published. -/
  dark : ∀ y thread id c call, x.Unlit y → thread ∉ y.dead → y.clients.get? id = some c →
    call.uncached = true → (c.operation call).isSome = true → y.ReadsEmpty thread id c call

/-- Whatever was going on when an owner died, and whatever it has left in the memory, the next one
to take its lock begins a session, and until a frame is published there is nothing to be read. -/
theorem Mortal.recovers {x : Exchange} (h : Mortal x) (horphaned : x.mutex.holding = .orphaned) :
    x.Recovers := by
  have hordered := h.ordered
  constructor
  case resets =>
    intro thread move answer y hstep
    exact hordered.resets horphaned hstep
  case told =>
    intro thread id mode abandoned y hstep
    exact hordered.told horphaned hstep
  case locks =>
    intro thread id c mode halive hclient hdepth hphase
    exact hordered.takes horphaned halive hclient hdepth hphase mode
  case reads =>
    intro thread id c call halive hclient hdepth hcall hoperation
    exact hordered.reads_recover horphaned halive hclient hdepth hcall hoperation
  case once =>
    intro thread move answer y z hstep hnot hspared
    obtain ⟨hlater, hstays⟩ := hspared.not_orphaned (hordered.step hstep) hnot
    refine ⟨hstays, ?_⟩
    rintro d rfl hvalid
    exact hvalid.unaware hlater hstays
  case dark =>
    intro y thread id c call hunlit halive hclient hcall hoperation
    have hdark : x.Dark := .inr horphaned
    obtain ⟨hlater, hstays⟩ := hdark.unlit hordered hunlit
    exact hlater.readsEmpty hstays halive hclient hcall hoperation

/-- Steps keep to such states. -/
theorem Mortal.run {x y : Exchange} {deeds : List Deed} (hmortal : Mortal x)
    (hrun : Run x deeds y) : Mortal y := by
  induction hrun with
  | nil => exact hmortal
  | snoc _ hvalid ih => exact .step ih hvalid

/-- A reader, and the thread of another process that has begun a frame under two guards. -/
def Exchange.begun : Option (List Deed × Exchange) :=
  sample.play [(⟨7, 0⟩, .openReader 1), (⟨8, 0⟩, .openWriter 0 5),
    (⟨8, 0⟩, .call 0 (.lock .blocking)), (⟨8, 0⟩, .call 0 (.lock .attempt)),
    (⟨8, 0⟩, .call 0 .beginFrame)]

/-- The thread is killed, and leaves a header with more layers than fit. -/
theorem Mortal.recovers_killed : ∃ deeds x y, Exchange.begun = some (deeds, x) ∧
    y = x.broken ⟨8, 0⟩ (Header.codec.encode (.forged 1 200)) x.host ∧ Mortal y ∧
    y.mutex.holding = .orphaned ∧ y.Recovers := by
  have hfacts : Exchange.begun.map (fun played =>
      (played.2.dead, played.2.mutex.holding, played.2.memory.length)) =
        some ([], .held ⟨8, 0⟩, Header.byteSize) := by
    decide +kernel
  obtain ⟨⟨deeds, x⟩, hbegun, hfacts⟩ := Option.map_eq_some_iff.mp hfacts
  obtain ⟨hdead, hfacts⟩ := Prod.mk.inj hfacts
  obtain ⟨hheld, hlength⟩ := Prod.mk.inj hfacts
  have hstart : Mortal Exchange.sample := .start _ _ _ (by decide +kernel)
  have hbreaks : x.Breaks ⟨8, 0⟩
      (x.broken ⟨8, 0⟩ (Header.codec.encode (.forged 1 200)) x.host) := by
    refine .alone _ _ ?_ (.inl hheld) ?_
    · rw [show x.dead = [] from hdead]
      exact List.not_mem_nil
    · rw [Codec.length_encode]
      exact hlength.symm
  have hmortal := (hstart.run (Run.of_play hbegun)).broken hbreaks
  exact ⟨deeds, x, _, hbegun, rfl, hmortal, rfl, hmortal.recovers rfl⟩

end FrameExchange
