import FrameExchange.Proofs.Failing

/-!
# Frames that were begun and given up

A frame that is begun has changed the header before it is given up. What is left of it is one more
on the fence value of the slot that is not shown, and a writer in the middle of a frame. If a broken
rule unwinds all guards of the writer, it can start over; if the thread goes on with its guards, the
writer is of no use to it any more.

- `Exchange.Held.unwinds` — the guards of an object go one after the other.
- `Exchange.StartsOver`, `Exchange.Sound.startsOver` — the writer afterwards, and its next frame.
- `Exchange.Jammed`, `Exchange.Leaked` — a thread that keeps its guards, and one that has lost them
  without giving back the lock.
- `Run.jams` — what that comes to, whatever happens next.
- `Exchange.Endures`, `Reachable.endures` — all of it together.
-/

namespace FrameExchange

open Act

/-! ## Headers that stay -/

/-- The next frame after one that was begun and given up has the same slot, and one more on the
fence value. -/
theorem Writer.upcoming_raise (h : Header) : upcoming (h.raise h.nextSlot) =
    ⟨h.nextSlot, (upcoming h).fenceValue + 1⟩ := by
  show (⟨h.nextSlot, (h.raise h.nextSlot).fenceValue h.nextSlot + 1⟩ : NextFrame) = _
  rw [Header.fenceValue_raise, if_pos rfl]
  rfl

/-- Two headers that show the same frame have a feeder or have none. -/
theorem Header.SameFrame.hasFeeder {h h' : Header} (hsame : h.SameFrame h') :
    h'.hasFeeder = h.hasFeeder := by
  rw [hsame.rest]
  rfl

/-- A quiet step in which no frame is begun leaves the header. -/
theorem Deed.Valid.header_kept {d : Deed} (hvalid : d.Valid) (hsound : d.before.Sound)
    (hquiet : d.Quiet) (hnone : ∀ next, d.answer ≠ .next next) :
    d.after.header = d.before.header := by
  by_cases hbegins : ∀ id, d.move ≠ .call id .beginFrame
  · exact Rewrites.header_eq (hvalid.rewrites hsound) hquiet.2 hquiet.1 hbegins
  · have hrewrites := hvalid.rewrites hsound
    have hdrawn := hquiet.2
    rw [not_forall] at hbegins
    obtain ⟨id, hbegins⟩ := hbegins
    rw [Classical.not_not.mp hbegins] at hrewrites
    -- begun or not, such a call writes nothing unless it has an answer
    generalize d.answer = answer at hrewrites hnone
    generalize hafter : d.after = y at hrewrites ⊢
    cases hrewrites with
    | kept _ _ hheader => exact hheader
    | raised => exact absurd rfl (hnone _)
    | restarted _ _ hfirst hentropy =>
      subst hafter
      have hmem := mem_drawn hfirst (by rw [hentropy])
      rw [hdrawn] at hmem
      cases hmem

/-- While nothing is published and no frame is begun the header stays. -/
theorem Run.header_kept {x y : Exchange} {deeds : List Deed} (hrun : Run x deeds y)
    (hsound : x.Sound) (hquiet : ∀ d ∈ deeds, d.Quiet ∧ ∀ next, d.answer ≠ .next next) :
    y.header = x.header := by
  induction hrun with
  | nil => rfl
  | @snoc deeds d hrun hvalid ih =>
    rw [List.forall_mem_append] at hquiet
    obtain ⟨hsilent, hnone⟩ := hquiet.2 d (List.mem_singleton.mpr rfl)
    exact (hvalid.header_kept (hrun.sound hsound) hsilent hnone).trans (ih hquiet.1)

namespace Exchange

variable {x y : Exchange} {id : Nat} {c : Client} {w : Writer} {thread caller : Thread}
  {move : Move} {answer : Answer}

/-! ## Guards that are unwound -/

/-- The thread gives back this many guards of the object while a broken rule unwinds it, whatever
others do in between, and then the region is like this. -/
def Unwinds (id : Nat) (thread : Thread) (goal : Exchange → Prop) : Nat → Exchange → Prop
  | 0, x => goal x
  | n + 1, x => ∀ y, x.Meanwhile id thread y →
      ∃ z, y.step thread (.call id (.release true)) = some (.done, z) ∧ Unwinds id thread goal n z

theorem Unwinds.imp {p q : Exchange → Prop} (himp : ∀ x, p x → q x) {n : Nat}
    (h : Unwinds id thread p n x) : Unwinds id thread q n x := by
  induction n generalizing x with
  | zero => exact himp x h
  | succ n ih =>
    intro y hmeanwhile
    obtain ⟨z, hstep, hrest⟩ := h y hmeanwhile
    exact ⟨z, hstep, ih hrest⟩

/-- An object without guards, and the lock is free. -/
structure Rid (z : Exchange) (id : Nat) (body : Body) (h : Header) : Prop where
  sound : z.Sound
  client : z.clients.get? id = some (.opened body)
  free : z.mutex.holding = .free
  header : z.header = h

/-- A thread that gives back an inner guard has one guard less. -/
theorem Held.unnested (hheld : x.Held id c thread) (hmany : 1 < c.book.depth) (unwinding : Bool) :
    ((x.leave (x.site thread c.book).unnested).put id ⟨c.body, (x.site thread c.book).unnested.book,
      c.tokenAfter (.release unwinding) .done (x.site thread c.book).unnested.book⟩).Held id
        { c with book := { c.book with depth := c.book.depth - 1 } } thread := by
  refine ⟨?_, ⟨Nat.sub_pos_of_lt hmany, hheld.guard.2⟩, hheld.alive⟩
  rw [get?_put, if_pos rfl]
  show some (⟨c.body, { c.book with depth := c.book.depth - 1 },
    if c.book.depth - 1 = 0 then none else c.token⟩ : Client) = _
  rw [if_neg (by omega)]

/-- A guard that is unwound is gone in every phase; with the last one the object is like one that
was just opened. -/
theorem Held.unwind (hheld : x.Held id c thread) (hsound : x.Sound) : ∃ z,
    x.step thread (.call id (.release true)) = some (.done, z) ∧ z.header = x.header ∧
      (1 < c.book.depth →
        z.Held id { c with book := { c.book with depth := c.book.depth - 1 } } thread) ∧
      (c.book.depth = 1 → z.Rid id c.body x.header) := by
  have hoperation : c.operation (.release true) =
      some (Act.answering c.body (Act.release true) fun _ => .done) := rfl
  have hstep {s' : Site} (hresult : Act.release true (x.site thread c.book) = .ok () s') :
      x.step thread (.call id (.release true)) = some (.done, (x.leave s').put id
        ⟨c.body, s'.book, c.tokenAfter (.release true) .done s'.book⟩) :=
    step_call hheld.alive hheld.client (fun _ => hheld.guard) hoperation (Act.answering_ok hresult)
  have hreleases := Act.releases true (x.site thread c.book)
  generalize hresult : Act.release true (x.site thread c.book) = result at hreleases
  cases hreleases with
  | inner hmany =>
    have hmany : 1 < c.book.depth := hmany
    exact ⟨_, hstep hresult, rfl, fun _ => hheld.unnested hmany true, fun hone => by omega⟩
  | freed hlast =>
    have hlast : c.book.depth ≤ 1 := hlast
    refine ⟨_, hstep hresult, rfl, fun hmany => by omega, fun _ => ⟨?_, ?_, rfl, rfl⟩⟩
    · exact hsound.step (hstep hresult)
    · have hrole := (hsound.settled id c hheld.client).role
      rw [get?_put, if_pos rfl, Client.opened, LockBook.fresh, ← hrole]
      rfl
  | kept reason _ _ hrelease =>
    cases hrelease.symm.trans (hsound.exclusive.release hheld.hasLock)
  | refused _ hunwinding => cases hunwinding

/-- All guards can be unwound. -/
theorem Held.unwinds (hheld : x.Held id c thread) (hsound : x.Sound) :
    x.Unwinds id thread (fun z => z.Rid id c.body x.header) c.book.depth := by
  generalize hdepth : c.book.depth = n
  induction n generalizing x c with
  | zero => exact absurd hdepth (Nat.pos_iff_ne_zero.mp hheld.guard.1)
  | succ n ih =>
    intro y hmeanwhile
    obtain ⟨hsound', hheld', hheader⟩ := hheld.meanwhile hsound hmeanwhile
    obtain ⟨z, hstep, hkept, hinner, hlast⟩ := hheld'.unwind hsound'
    rw [hheader] at hlast hkept
    refine ⟨z, hstep, ?_⟩
    cases n with
    | zero => exact hlast hdepth
    | succ n =>
      have hless : c.book.depth - 1 = n + 1 := by omega
      have hrest := ih (hinner (by omega)) (hsound'.step hstep) hless
      rw [hkept] at hrest
      exact hrest

/-- A free lock can be had through an object that was just opened. -/
theorem lock_free {body : Body} (mode : LockMode)
    (hclient : x.clients.get? id = some (.opened body)) (hfree : x.mutex.holding = .free)
    (halive : thread ∉ x.dead) : ∃ y c',
    x.step thread (.call id (.lock mode)) = some (.locked false, y) ∧ y.Held id c' thread ∧
      c'.body = body ∧ c'.book.machine.phase = .locked := by
  obtain ⟨lock, hoperation, hasks⟩ := (Client.opened body).operation_lock mode
  have hready : (x.site thread (Client.opened body).book).Ready := ⟨rfl, rfl, rfl⟩
  have hobtains : (x.site thread (Client.opened body).book).Obtains mode :=
    Site.obtains_iff.mpr ⟨rfl, .inr ⟨hready, hfree⟩⟩
  have hlocks := (hasks (x.site thread (Client.opened body).book)).locks
  generalize hresult : lock (x.site thread (Client.opened body).book) = result at hlocks
  cases hlocks with
  | busy _ hnot => exact absurd hobtains hnot
  | refused _ hnot => exact absurd hobtains hnot
  | recovered _ _ hnot => exact absurd hobtains hnot
  | nested hdepth => exact absurd hdepth (Nat.not_lt_zero 0)
  | gained =>
    refine ⟨_, ⟨body, (x.site thread (Client.opened body).book).gained.book, none⟩,
      step_call halive hclient (fun h => by cases h) hoperation (Act.answering_ok hresult),
      ⟨?_, ⟨Nat.one_pos, rfl⟩, halive⟩, rfl, rfl⟩
    rw [get?_put, if_pos rfl]
    rfl

/-- After a frame was begun and given up the writer is like one that was just opened, and the lock
is free. Whoever takes it and begins the next frame, with nothing published in between, gets the
same slot and the next fence value. -/
structure StartsOver (z : Exchange) (id : Nat) (body : Body) (next : NextFrame) : Prop where
  client : z.clients.get? id = some (.opened body)
  free : z.mutex.holding = .free
  lock : ∀ thread mode, thread ∉ z.dead → ∃ y c,
    z.step thread (.call id (.lock mode)) = some (.locked false, y) ∧ y.Held id c thread ∧
      c.body = body ∧ c.book.machine.phase = .locked
  again : ∀ deeds y, Run z deeds y →
    (∀ d ∈ deeds, d.Quiet ∧ ∀ other, d.answer ≠ .next other) →
    ∀ other c w thread, y.Held other c thread → c.body = .writer w →
      c.book.machine.phase = .locked →
      ∃ y', y.step thread (.call other .beginFrame) =
        some (.next ⟨next.slot, next.fenceValue + 1⟩, y')

/-- An object that is rid of its guards starts over from the header that there is. -/
theorem Rid.startsOver {z : Exchange} {body : Body} {before : Header}
    (hrid : z.Rid id body (before.raise before.nextSlot)) :
    z.StartsOver id body (Writer.upcoming before) where
  client := hrid.client
  free := hrid.free
  lock _ mode halive := lock_free mode hrid.client hrid.free halive
  again deeds y hrun hquiet other c w thread hheld hbody hphase := by
    obtain ⟨y', hstep, -⟩ := hheld.begin (hrun.sound hrid.sound) hbody hphase
    rw [hrun.header_kept hrid.sound hquiet, hrid.header, Writer.upcoming_raise] at hstep
    exact ⟨y', hstep⟩

/-! ## Guards that are kept -/

/-- A thread has guards of a writer that is in the middle of a frame that was given up. -/
structure Jammed (x : Exchange) (id : Nat) (c : Client) (w : Writer) (thread : Thread) : Prop
    extends x.Held id c thread where
  writer : c.body = .writer w
  phase : c.book.machine.phase = .frameInProgress
  token : c.token = none

/-- A thread has the lock, and no living thread has guards of any object. -/
structure Leaked (x : Exchange) (thread : Thread) : Prop where
  held : x.mutex.holding = .held thread
  bare : ∀ id t, ¬x.HasLock id t

/-- The lock is neither free nor orphaned. -/
theorem Leaked.owned (hleaked : x.Leaked thread) : ¬x.Unowned := by
  rintro (hfree | horphaned)
  · cases hleaked.held.symm.trans hfree
  · cases hleaked.held.symm.trans horphaned

/-- Nobody gets a guard any more. -/
theorem Leaked.lock_fails {mode : LockMode} (hleaked : x.Leaked thread) (hsound : x.Sound)
    (h : x.step caller (.call id (.lock mode)) = some (answer, y)) : answer.Fails := by
  obtain ⟨halive, -⟩ := happens hsound.settled hsound.length h
  obtain ⟨c, s', result, hclient, -, hasks, hresult⟩ := step_lock h
  rcases hresult with ⟨acquired, rfl, rfl⟩ | ⟨failure, -, -, rfl⟩
  · cases hasks with
    | busy => trivial
    | nested hdepth hmine =>
      have hguard := (hsound.settled id c hclient).guardOf hdepth hmine
      exact absurd ⟨c, hclient, hguard.2, halive⟩ (hleaked.bare id caller)
    | gained _ hfree => exact absurd (.inl hfree) hleaked.owned
    | recovered _ horphaned => exact absurd (.inr horphaned) hleaked.owned
  · trivial

/-- Nobody changes the memory or the lock any more, as long as the thread lives. -/
theorem Leaked.still (hleaked : x.Leaked thread) (halive : caller ∉ x.dead)
    (h : Happens x caller move answer y) (hliving : thread ∉ y.dead) :
    y.memory = x.memory ∧ y.mutex = x.mutex := by
  have hlooked {book : LockBook} {s' : Site}
      (hsite : (x.site caller book).Still s' ∨ ∃ gpu, (x.site caller book).Restarted gpu s') :
      s'.memory = x.memory ∧ s'.mutex = x.mutex := by
    rcases hsite with hstill | ⟨gpu, hrestarted⟩
    · exact ⟨hstill.memory, hstill.mutex⟩
    · exact absurd hrestarted.nobody hleaked.owned
  cases h with
  | @called id c call _ _ _ hclient hguard heffect =>
    have hnone (hunder : call.underGuard = true) : False :=
      hleaked.bare id caller ⟨c, hclient, (hguard hunder).2, halive⟩
    cases heffect with
    | still _ _ hstill => exact hlooked (.inl hstill)
    | recovered _ _ hrestarted => exact hlooked (.inr ⟨_, hrestarted⟩)
    | nested => exact ⟨rfl, rfl⟩
    | gained _ hfree => exact absurd (.inl hfree) hleaked.owned
    | inherited _ horphaned => exact absurd (.inr horphaned) hleaked.owned
    | _ => exact (hnone rfl).elim
  | attached _ hrestarted => exact hlooked (.inr ⟨_, hrestarted⟩)
  | notAttached _ hsite => exact hlooked (hsite.imp_right fun h => ⟨_, h⟩)
  | closed _ _ _ hsite => exact hlooked (hsite.imp_right fun h => ⟨_, h⟩)
  | died =>
    have hne : thread ≠ caller := fun heq => hliving (heq ▸ List.mem_cons_self)
    refine ⟨rfl, ?_⟩
    show x.mutex.ownerDies caller = x.mutex
    rw [Mutex.ownerDies, if_neg]
    simp [Mutex.knowsOwner, hleaked.held, hne]
  | openedReader => exact ⟨rfl, rfl⟩
  | openedCached => exact ⟨rfl, rfl⟩
  | elapsed => exact ⟨rfl, rfl⟩

/-- A lock that was not given back stays so until its thread dies. -/
theorem Leaked.step (hleaked : x.Leaked thread) (hsound : x.Sound)
    (h : x.step caller move = some (answer, y)) (hliving : thread ∉ y.dead) :
    y.Leaked thread ∧ y.header = x.header := by
  obtain ⟨halive, hhappens⟩ := happens hsound.settled hsound.length h
  obtain ⟨hmemory, hmutex⟩ := hleaked.still halive hhappens hliving
  refine ⟨⟨by rw [hmutex]; exact hleaked.held, fun id t hlock => ?_⟩, congrArg Memory.load hmemory⟩
  cases hhappens.relocks hsound.exclusive halive with
  | kept _ hback => exact hleaked.bare id t (hback id t hlock)
  | taken _ _ _ hunowned => exact hleaked.owned hunowned
  | freed _ hnone => exact hnone id t hlock
  | orphaned _ hback => exact hleaked.bare id t (hback id t hlock).1

/-- A thread with guards has the lock. -/
theorem Held.owns (hheld : x.Held id c thread) (hsound : x.Sound) :
    x.mutex.holding = .held thread := hsound.exclusive.owned id thread hheld.hasLock

/-- The last guard goes without its phase, and the lock stays behind. -/
theorem Jammed.refused (hjammed : x.Jammed id c w thread) (hsound : x.Sound)
    (hone : c.book.depth = 1) : ∃ violation z,
    x.step thread (.call id (.release false)) = some (.failed (.violation violation), z) ∧
      z.Leaked thread := by
  have hoperation : c.operation (.release false) =
      some (Act.answering c.body (Act.release false) fun _ => .done) := rfl
  have hreleases := Act.releases false (x.site thread c.book)
  have hphase : (x.site thread c.book).book.machine.phase = .frameInProgress := hjammed.phase
  generalize hresult : Act.release false (x.site thread c.book) = result at hreleases
  cases hreleases with
  | inner hmany => exact absurd hone (Nat.ne_of_gt hmany)
  | freed _ hready => rw [hphase] at hready; simp at hready
  | kept _ _ hready => rw [hphase] at hready; simp at hready
  | refused =>
    have hstep : x.step thread (.call id (.release false)) =
        some (.failed (.violation (.move (.elsewhere c.book.machine.phase .locked .unlocked))),
          x.put id ⟨c.body, ⟨c.book.machine, 0, none⟩, none⟩) := by
      rw [Exchange.step, if_neg hjammed.alive]
      show x.call thread id (.release false) = _
      rw [call_eq_settle hjammed.client (fun _ => hjammed.guard) hoperation, Act.answering,
        bind_error hresult]
      rfl
    refine ⟨_, _, hstep, hjammed.owns hsound, fun other t hlock => ?_⟩
    rcases hasLock_put hlock with ⟨-, hholder, -⟩ | ⟨hne, hother⟩
    · cases hholder
    · exact hne (hsound.exclusive.eq hother hjammed.hasLock)

/-- A call leaves a writer the writer that it was. -/
theorem becomes_of_writer {s s' : Site} {call : Call} {body : Body}
    (hbody : c.body = .writer w) (h : c.body.Becomes s call answer body s') :
    body = .writer w := by
  rw [hbody] at h
  cases h <;> rfl

/-- A guard that is given back of a jammed writer was not the last one, or the lock stays behind. -/
theorem Jammed.release (hjammed : x.Jammed id c w thread) (hsound : x.Sound)
    (h : x.step caller (.call id (.release false)) = some (answer, y)) :
    y.header = x.header ∧ (y.Leaked thread ∨ ∃ c', y.Jammed id c' w thread) := by
  obtain ⟨c₀, s', result, hclient, hguard, hy, hreleases, hresult⟩ := step_release h
  cases hclient.symm.trans hjammed.client
  have hthread : caller = thread := Option.some.inj (hguard.2.symm.trans hjammed.guard.2)
  subst hthread
  have hphase := hjammed.phase
  by_cases hone : c.book.depth = 1
  · obtain ⟨violation, z, hstep, hleaked⟩ := hjammed.refused hsound hone
    cases h.symm.trans hstep
    exact ⟨congrArg Memory.load (hsound.call_fails h trivial), .inl hleaked⟩
  · have hmany : 1 < c.book.depth := by
      have hsome := hjammed.guard.1
      omega
    rcases hresult with ⟨rfl, rfl⟩ | ⟨failure, rfl, rfl⟩
    · cases hreleases with
      | inner =>
        subst hy
        exact ⟨rfl, .inr ⟨_, hjammed.unnested hmany false, hjammed.writer, hphase, hjammed.token⟩⟩
      | freed hlast => exact absurd hmany (Nat.not_lt.mpr hlast)
      | kept _ hlast => exact absurd hmany (Nat.not_lt.mpr hlast)
    · cases hreleases with
      | refused hlast => exact absurd hmany (Nat.not_lt.mpr hlast)

/-- What a call of a jammed writer leaves of it, its guards apart. -/
theorem Jammed.called {call : Call} (hjammed : x.Jammed id c w thread) (hsound : x.Sound)
    (hkeeps : ∀ unwinding, call ≠ .release unwinding)
    (h : x.step caller (.call id call) = some (answer, y)) :
    y.header = x.header ∧ ∃ c', y.Jammed id c' w thread := by
  have hdepth := hjammed.guard.1
  have hphase := hjammed.phase
  have hnotLocked {phase : Phase} (hother : c.book.machine.phase = phase)
      (hne : phase ≠ .frameInProgress) : False := hne (hother.symm.trans hphase)
  have hunowned : ¬x.Unowned := fun hunowned =>
    hsound.exclusive.not_hasLock hunowned id thread hjammed.hasLock
  have htoken {next : NextFrame} (hsome : c.token = some next) : False := by
    rw [hjammed.token] at hsome
    cases hsome
  generalize hmove : Move.call id call = move at h
  have hhappens := (happens hsound.settled hsound.length h).2
  cases hhappens with
  | @called other c₀ _ _ body s' hclient hguard heffect hbecomes =>
    cases hmove
    cases hclient.symm.trans hjammed.client
    -- the book keeps its phase and its thread, and no frame is begun
    have hjams (hsame : Memory.load s'.memory = x.header) (hsome : 0 < s'.book.depth)
        (hholder : s'.book.holder = some thread)
        (hstays : s'.book.machine.phase = .frameInProgress)
        (hnever : ∀ next, answer ≠ .next next) : (x.leave s').header = x.header ∧
          ∃ c', ((x.leave s').put id
            ⟨body, s'.book, c.tokenAfter call answer s'.book⟩).Jammed id c' w thread := by
      refine ⟨hsame, _, ⟨by rw [get?_put, if_pos rfl], ⟨hsome, hholder⟩, hjammed.alive⟩,
        becomes_of_writer hjammed.writer hbecomes, hstays, ?_⟩
      show c.tokenAfter call answer s'.book = none
      by_contra hsome
      obtain ⟨next, hnext⟩ := Option.ne_none_iff_exists'.mp hsome
      obtain ⟨-, ⟨-, hanswer⟩ | ⟨htaken, -⟩⟩ := Client.tokenAfter_eq_some hnext
      · exact hnever next hanswer
      · exact htoken htaken
    cases heffect with
    | still _ hnever hstill =>
      have hbook := hstill.book
      refine hjams (congrArg Memory.load hstill.memory) ?_ ?_ ?_ hnever
      · rw [hbook]; exact hdepth
      · rw [hbook]; exact hjammed.guard.2
      · rw [hbook]; exact hphase
    | nested =>
      exact hjams rfl (Nat.succ_pos _) hjammed.guard.2 hphase fun next h => by cases h
    | recovered _ _ hrestarted => exact absurd hrestarted.nobody hunowned
    | gained _ hfree => exact absurd (.inl hfree) hunowned
    | inherited _ horphaned => exact absurd (.inr horphaned) hunowned
    | inner => exact absurd rfl (hkeeps _)
    | freed => exact absurd rfl (hkeeps _)
    | kept => exact absurd rfl (hkeeps _)
    | refused => exact absurd rfl (hkeeps _)
    | begun _ hlocked => exact (hnotLocked hlocked (by decide)).elim
    | submitted _ hsome => exact (htoken hsome).elim
    | emptied _ hlocked => exact (hnotLocked hlocked (by decide)).elim
    | detached _ hlocked => exact (hnotLocked hlocked (by decide)).elim
  | _ => cases hmove

/-- A jammed writer stays jammed, or the lock is left behind. -/
theorem Jammed.step (hjammed : x.Jammed id c w thread) (hsound : x.Sound)
    (h : x.step caller move = some (answer, y)) (hliving : thread ∉ y.dead)
    (hkeeps : move ≠ .call id (.release true)) :
    y.header = x.header ∧ (y.Leaked thread ∨ ∃ c', y.Jammed id c' w thread) := by
  obtain ⟨halive, hhappens⟩ := happens hsound.settled hsound.length h
  by_cases haside : ∀ call, move ≠ .call id call
  · refine ⟨hhappens.header_aside hsound.exclusive halive hjammed.hasLock haside, .inr ⟨c, ?_⟩⟩
    exact ⟨⟨hhappens.client_aside hjammed.client hjammed.guard.1 haside, hjammed.guard, hliving⟩,
      hjammed.writer, hjammed.phase, hjammed.token⟩
  · rw [not_forall] at haside
    obtain ⟨call, hcall⟩ := haside
    rw [Classical.not_not] at hcall
    subst hcall
    by_cases hrelease : ∃ unwinding, call = .release unwinding
    · obtain ⟨unwinding, rfl⟩ := hrelease
      cases unwinding with
      | true => exact absurd rfl hkeeps
      | false => exact hjammed.release hsound h
    · obtain ⟨hheader, hjams⟩ :=
        hjammed.called hsound (fun unwinding heq => hrelease ⟨unwinding, heq⟩) h
      exact ⟨hheader, .inr hjams⟩

end Exchange

/-- As long as a thread lives and does not unwind, a writer that it has jammed stays jammed, or the
lock is left behind, and nobody changes the header. -/
theorem Run.jams {x y : Exchange} {deeds : List Deed} {id : Nat} {c : Client} {w : Writer}
    {thread : Thread} (hrun : Run x deeds y) (hsound : x.Sound) (hjammed : x.Jammed id c w thread)
    (hliving : thread ∉ y.dead) (hkeeps : ∀ d ∈ deeds, d.move ≠ .call id (.release true)) :
    y.header = x.header ∧ (y.Leaked thread ∨ ∃ c', y.Jammed id c' w thread) := by
  induction hrun with
  | nil => exact ⟨rfl, .inr ⟨c, hjammed⟩⟩
  | @snoc deeds d hrun hvalid ih =>
    rw [List.forall_mem_append] at hkeeps
    have hbefore := hrun.sound hsound
    have hhappens := (Exchange.happens hbefore.settled hbefore.length hvalid).2
    have hlast := hkeeps.2 d (List.mem_singleton.mpr rfl)
    obtain ⟨hheader, hleaked | ⟨c', hjams⟩⟩ := ih (hhappens.living hliving) hkeeps.1
    · obtain ⟨hstays, hsame⟩ := hleaked.step hbefore hvalid hliving
      exact ⟨hsame.trans hheader, .inl hstays⟩
    · obtain ⟨hsame, hnext⟩ := hjams.step hbefore hvalid hliving hlast
      exact ⟨hsame.trans hheader, hnext⟩

namespace Exchange

/-- What a thread can still do with a writer that it has jammed. -/
structure Jams (y : Exchange) (id : Nat) (c : Client) (w : Writer) (thread : Thread)
    (next : NextFrame) : Prop extends y.Jammed id c w thread where
  /-- Whatever needs a writer with nothing going on breaks a rule. -/
  obstructed : ∀ call : Call, call.Engages → ∃ z, y.Violates id thread call c z
  /-- The last guard cannot be given back, and the lock stays behind. -/
  refused : c.book.depth = 1 → ∃ violation z,
    y.step thread (.call id (.release false)) = some (.failed (.violation violation), z) ∧
      z.Leaked thread
  /-- A broken rule that unwinds all its guards lets it start over. -/
  unwound : y.Unwinds id thread (fun z => z.StartsOver id (.writer w) next) c.book.depth

/-- The thread begins a frame and gives it up, and others may do what they want in between. Only
the fence value of the slot that is not shown was raised, so that every read shows the frame from
before, then and until something is published. -/
def FallsBack (x : Exchange) (id : Nat) (c : Client) (w : Writer) (thread : Thread) : Prop :=
  ∃ next x₁, x.step thread (.call id .beginFrame) = some (.next next, x₁) ∧
    next.slot ≠ x.header.slot ∧ next.fenceValue = x.header.fenceValue next.slot + 1 ∧
    x₁.header = x.header.raise next.slot ∧
    (∀ deeds y, Run x₁ deeds y → (∀ d ∈ deeds, d.Quiet) →
      x.header.SameFrame y.header ∧ (x.header.hasFeeder = true → y.Shows)) ∧
    ∀ y₁, x₁.Meanwhile id thread y₁ → ∀ call : Call, call.Discards →
    ∃ x₂, y₁.Violates id thread call (c.moved .frameInProgress none) x₂ ∧
      x₂.header = x.header.raise next.slot ∧
      x₂.Jams id (c.moved .frameInProgress none) w thread next ∧
      -- the thread catches what it has broken, and keeps its guards
      ∀ deeds y, Run x₂ deeds y → thread ∉ y.dead →
        (∀ d ∈ deeds, d.move ≠ .call id (.release true)) →
        y.header = x₂.header ∧ y.mutex.holding = .held thread ∧
          (y.Leaked thread ∨ ∃ c', y.Jams id c' w thread next)

/-- Nothing that fails does any harm. -/
structure Endures (x : Exchange) : Prop where
  /-- Whatever fails, or finds the lock busy, leaves every byte. -/
  fails : ∀ thread move answer y, x.step thread move = some (answer, y) → answer.Fails →
    y.memory = x.memory
  /-- A frame that must not be published, or is dropped, breaks a rule. -/
  discards : ∀ id c w thread next (call : Call), x.Held id c thread → c.body = .writer w →
    c.token = some next → call.Discards → ∃ y, x.Violates id thread call { c with token := none } y
  /-- So does whatever needs the writer while a frame is begun, through any of its guards. -/
  obstructed : ∀ id c w thread (call : Call), x.Held id c thread → c.body = .writer w →
    c.book.machine.phase = .frameInProgress → call.Engages → ∃ y, x.Violates id thread call c y
  fallsBack : ∀ id c w thread, x.Held id c thread → c.body = .writer w →
    c.book.machine.phase = .locked → x.FallsBack id c w thread
  /-- Of a lock that is left behind nobody gets a guard, and nobody changes the header. -/
  leaked : ∀ thread, x.Leaked thread →
    (∀ id mode caller answer y, x.step caller (.call id (.lock mode)) = some (answer, y) →
      answer.Fails) ∧
    ∀ caller move answer y, x.step caller move = some (answer, y) → thread ∉ y.dead →
      y.Leaked thread ∧ y.header = x.header

variable {x : Exchange} {id : Nat} {c : Client} {w : Writer} {thread : Thread}

/-- What can be done with a jammed writer while the header is the one of a frame that was begun. -/
theorem Jammed.jams {before : Header} (hjammed : x.Jammed id c w thread) (hsound : x.Sound)
    (hheader : x.header = before.raise before.nextSlot) :
    x.Jams id c w thread (Writer.upcoming before) where
  toJammed := hjammed
  obstructed call hcall := by
    have hphase : c.book.machine.phase ≠ .locked := by
      rw [hjammed.phase]
      decide
    exact hjammed.obstructed hsound hjammed.writer hphase hcall
  refused := hjammed.refused hsound
  unwound := by
    refine (hjammed.unwinds hsound).imp fun z hrid => ?_
    rw [hheader, hjammed.writer] at hrid
    exact hrid.startsOver

/-- A writer with the lock can begin a frame and give it up. -/
theorem Held.fallsBack (hheld : x.Held id c thread) (hsound : x.Sound) (hbody : c.body = .writer w)
    (hphase : c.book.machine.phase = .locked) : x.FallsBack id c w thread := by
  obtain ⟨x₁, hbegin, hheld₁, hraised⟩ := hheld.begin hsound hbody hphase
  have hsound₁ := hsound.step hbegin
  refine ⟨_, x₁, hbegin, x.header.nextSlot_ne_slot, rfl, hraised, ?_, ?_⟩
  · intro deeds y hrun hquiet
    have hsame : x.header.SameFrame y.header := by
      refine (Header.SameFrame.raise x.header).trans ?_
      rw [← hraised]
      exact hrun.sameFrame hsound₁ hquiet
    refine ⟨hsame, fun hfeeder => (hrun.sound hsound₁).shows ?_⟩
    rw [hsame.hasFeeder, hfeeder]
  · intro y₁ hmeanwhile call hcall
    obtain ⟨hsound₁', hheld₁', hheader₁⟩ := hheld₁.meanwhile hsound₁ hmeanwhile
    obtain ⟨x₂, hviolates⟩ := hheld₁'.discards hsound₁' hbody rfl hcall
    have ⟨⟨violation, hstep⟩, hheld₂, hmemory, _⟩ := hviolates
    have hsound₂ := hsound₁'.step hstep
    have hheader₂ : x₂.header = x.header.raise x.header.nextSlot :=
      (congrArg Memory.load hmemory).trans (hheader₁.trans hraised)
    have hjammed : x₂.Jammed id (c.moved .frameInProgress none) w thread :=
      ⟨hheld₂, hbody, rfl, rfl⟩
    refine ⟨x₂, hviolates, hheader₂, hjammed.jams hsound₂ hheader₂, ?_⟩
    intro deeds y hrun hliving hkeeps
    have hsound' := hrun.sound hsound₂
    obtain ⟨hheader, hleaked | ⟨c', hjams⟩⟩ := hrun.jams hsound₂ hjammed hliving hkeeps
    · exact ⟨hheader, hleaked.held, .inl hleaked⟩
    · exact ⟨hheader, hjams.owns hsound', .inr ⟨c', hjams.jams hsound' (hheader.trans hheader₂)⟩⟩

end Exchange

/-- In every state that can be reached, nothing that fails does any harm. -/
theorem Reachable.endures {x : Exchange} (hreachable : Reachable x) : x.Endures where
  fails _ _ _ _ hstep := hreachable.sound.step_fails hstep
  discards _ _ _ _ _ _ hheld hbody htoken hcall :=
    hheld.discards hreachable.sound hbody htoken hcall
  obstructed _ _ _ _ _ hheld hbody hphase hcall := by
    refine hheld.obstructed hreachable.sound hbody ?_ hcall
    rw [hphase]
    decide
  fallsBack _ _ _ _ hheld hbody hphase := hheld.fallsBack hreachable.sound hbody hphase
  leaked _ hleaked := ⟨fun _ _ _ _ _ hstep => hleaked.lock_fails hreachable.sound hstep,
    fun _ _ _ _ hstep hliving => hleaked.step hreachable.sound hstep hliving⟩

/-- The frame of the sample with its layer below the lower edge of the texture. -/
def Exchange.outsideFrame : Frame := { sampleFrame with layers := [.flat 1 (.of 0 700 100 100)] }

/-- Such a frame is refused, and the one that was published before is shown as if nothing had been
begun. -/
theorem Reachable.endures_sample : ∃ deeds x c,
    Exchange.sample.play Exchange.againScript = some (deeds, x) ∧ x.Held 0 c ⟨7, 0⟩ ∧
    c.body = .writer ⟨5, 7⟩ ∧ c.book.machine.phase = .locked ∧ x.header.hasFeeder = true ∧
    (Call.submit Exchange.outsideFrame).Discards ∧ x.Endures ∧
    x.FallsBack 0 c ⟨5, 7⟩ ⟨7, 0⟩ := by
  have hplayed : (Exchange.sample.play Exchange.againScript).map (fun played =>
      (played.2.dead, played.2.header.hasFeeder, (played.2.clients.get? 0).map fun c =>
        (c.body, decide (c.GuardOf ⟨7, 0⟩), c.book.machine.phase))) =
      some ([], true, some (.writer ⟨5, 7⟩, true, .locked)) := by
    decide +kernel
  have hfaulty : Exchange.outsideFrame.Faulty := by
    rw [Frame.faulty_iff]
    decide +kernel
  obtain ⟨⟨deeds, x⟩, hplay, hfacts⟩ := Option.map_eq_some_iff.mp hplayed
  obtain ⟨hdead, hfacts⟩ := Prod.mk.inj hfacts
  obtain ⟨hfeeder, hfound⟩ := Prod.mk.inj hfacts
  obtain ⟨c, hclient, hfacts⟩ := Option.map_eq_some_iff.mp hfound
  obtain ⟨hbody, hfacts⟩ := Prod.mk.inj hfacts
  obtain ⟨hguard, hphase⟩ := Prod.mk.inj hfacts
  have hreachable : Reachable x := ⟨_, _, deeds, Run.of_play hplay⟩
  have hheld : x.Held 0 c ⟨7, 0⟩ := by
    refine ⟨hclient, of_decide_eq_true hguard, ?_⟩
    rw [show x.dead = [] from hdead]
    exact List.not_mem_nil
  have hendures := Reachable.endures hreachable
  exact ⟨deeds, x, c, hplay, hheld, hbody, hphase, hfeeder, .submit hfaulty, hendures,
    hendures.fallsBack 0 c ⟨5, 7⟩ ⟨7, 0⟩ hheld hbody hphase⟩

end FrameExchange
