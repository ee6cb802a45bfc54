import FrameExchange.Proofs.Course

/-!
# How sessions begin

A session is begun when a writer is opened, when one detaches or ends, and when the lock of a dead
owner is taken; nothing else begins one. Whoever begins a session replaces the whole header.

- `Writer.Takes` — whether a writer that starts or ends gets the lock.
- `Writer.takes_cases` — when a writer that ends gets the lock.
- `Writer.close_taken`, `Writer.close_missed`, `Writer.attach_missed` — what it does then, and
  otherwise.
- `Deed.Starts` — the four ways to begin a session, exactly those steps in which one is drawn.
- `Course.starts` — a session that is begun was never there before.
-/

namespace FrameExchange

open Act

/-! ## Writers that start and end -/

namespace Writer

variable {w : Writer} {mode : LockMode} {s : Site} {α : Type} {body : Act α}

/-- A writer gets the lock, if it asks for it now. -/
def Takes (w : Writer) (mode : LockMode) (s : Site) : Prop :=
  ∃ abandoned s', w.lock mode s = .ok (.held abandoned) s'

/-- With the lock a session is begun. -/
theorem locked_taken (htakes : w.Takes mode s) (hdepth : s.book.depth = 0)
    (hholder : s.book.holder = none)
    (hbody : ∀ t : Site, t.book.machine.role = s.book.machine.role →
      Yields (fun _ t t' => t.Renewed w.gpu t') t (body t)) :
    ∃ a s', w.locked mode body s = .ok (some a) s' ∧ s.Restarted w.gpu s' := by
  obtain ⟨abandoned, t, hlock⟩ := htakes
  have hasks := w.asks mode s
  rw [hlock] at hasks
  obtain ⟨hready, hbook, hmutex, hcaller⟩ : s.Ready ∧ t.book = s.gained.book ∧
      t.mutex = s.gained.mutex ∧ t.caller = s.caller := by
    cases hasks with
    | nested hmany => exact absurd hdepth (Nat.pos_iff_ne_zero.mp hmany)
    | gained hready => exact ⟨hready, rfl, rfl, rfl⟩
    | recovered hready _ h => exact ⟨hready, h.book, h.mutex, h.caller⟩
  have hyields := hbody t (by rw [hbook]; rfl)
  generalize hinside : body t = result at hyields
  cases hyields with
  | @ok a t' _ hcaller' hbook' hmutex' =>
    have hrelease := release_gained false hready hholder (hbook'.trans hbook)
      (hmutex'.trans hmutex) (hcaller'.trans hcaller)
    obtain ⟨s', hresult⟩ : ∃ s', w.locked mode body s = .ok (some a) s' := by
      rw [locked_eq_underLock, underLock, bind_ok hlock]
      exact ⟨_, bind_ok (guarded_ok hinside hrelease)⟩
    have hunder := (w.locks mode s).underLock (fun _ => hholder) hbody
    rw [← locked_eq_underLock, hresult] at hunder
    exact ⟨a, s', hresult, hunder.restarted hdepth⟩
  | error failure hphase =>
    rw [hbook] at hphase
    exact absurd rfl hphase

/-- Without the lock nothing is done. -/
theorem locked_missed (body : Act α) (hmissed : ¬w.Takes mode s) :
    w.locked mode body s = .ok none s ∨
      ∃ failure, w.locked mode body s = .error failure s := by
  have hasks := w.asks mode s
  generalize hlock : w.lock mode s = result at hasks
  have hbusy (h : result = .ok .busy s) : w.locked mode body s = .ok none s := by
    rw [locked_eq_underLock, underLock, bind_ok (hlock.trans h)]
    rfl
  have herror {failure : Failure} (h : result = .error failure s) :
      w.locked mode body s = .error failure s := by
    rw [locked_eq_underLock, underLock, bind_error (hlock.trans h)]
  cases hasks with
  | busy => exact .inl (hbusy rfl)
  | blocked => exact .inr ⟨_, herror rfl⟩
  | deadlock => exact .inr ⟨_, herror rfl⟩
  | stuck => exact .inr ⟨_, herror rfl⟩
  | nested => exact absurd ⟨_, _, hlock⟩ hmissed
  | gained => exact absurd ⟨_, _, hlock⟩ hmissed
  | recovered => exact absurd ⟨_, _, hlock⟩ hmissed

/-- A writer that ends with the lock begins a session. -/
theorem close_taken (htakes : w.Takes .blocking s) (hrole : s.book.machine.role = .writer)
    (hdepth : s.book.depth = 0) (hholder : s.book.holder = none) :
    ∃ s', w.close s = .ok () s' ∧ s.Restarted w.gpu s' := by
  obtain ⟨a, s', hresult, hrestarted⟩ := locked_taken htakes hdepth hholder
    fun t ht => w.detach_yields (ht.trans hrole)
  refine ⟨s', ?_, hrestarted⟩
  rw [close, bind_ok (attempt_ok hresult)]
  rfl

/-- A writer that ends without the lock leaves the header alone. -/
theorem close_missed (hmissed : ¬w.Takes .blocking s) : ∃ s', s.Still s' ∧
    (w.close s = .ok () s' ∨ ∃ failure, w.close s = .error failure s') := by
  rcases locked_missed w.detach hmissed with hresult | ⟨failure, hresult⟩
  · exact ⟨s, .refl s, .inl (by rw [close, bind_ok (attempt_ok hresult)]; rfl)⟩
  · rw [close, bind_ok (attempt_error hresult)]
    cases failure with
    | error e => exact ⟨_, .report s _, .inl rfl⟩
    | violation v => exact ⟨s, .refl s, .inr ⟨_, rfl⟩⟩
    | blocked => exact ⟨s, .refl s, .inr ⟨_, rfl⟩⟩

/-- A writer without guards gets the lock unless somebody has it, or the writer was left in the
middle of something. -/
theorem takes_cases (w : Writer) (hdepth : s.book.depth = 0) :
    (w.Takes .blocking s ∧ s.book.machine.phase = .unlocked ∧
        (s.mutex.holding = .free ∨ s.mutex.holding = .orphaned)) ∨
      (¬w.Takes .blocking s ∧ (w.lock .blocking s = .error .blocked s ∨
        s.book.machine.phase ≠ .unlocked ∨ s.mutex.holding = .held s.caller)) := by
  have hasks := w.asks .blocking s
  have hrefused {failure : Failure} (hlock : w.lock .blocking s = .error failure s) :
      ¬w.Takes .blocking s := by
    rintro ⟨abandoned, t, htaken⟩
    cases hlock.symm.trans htaken
  generalize hlock : w.lock .blocking s = result at hasks
  cases hasks with
  | busy hmode => cases hmode
  | blocked => exact .inr ⟨hrefused hlock, .inl rfl⟩
  | deadlock _ howner =>
    rw [Mutex.knowsOwner, Bool.and_eq_true, decide_eq_true_iff, decide_eq_true_iff] at howner
    exact .inr ⟨hrefused hlock, .inr (.inr howner.2)⟩
  | stuck _ hphase => exact .inr ⟨hrefused hlock, .inr (.inl hphase)⟩
  | nested hmany => exact absurd hdepth (Nat.pos_iff_ne_zero.mp hmany)
  | gained hready hfree => exact .inl ⟨⟨_, _, hlock⟩, hready.phase, .inl hfree⟩
  | recovered hready horphaned => exact .inl ⟨⟨_, _, hlock⟩, hready.phase, .inr horphaned⟩

/-- A writer that ends waits for the lock. -/
theorem close_blocked (hlock : w.lock .blocking s = .error .blocked s) :
    w.close s = .error .blocked s := by
  have hbody : w.locked .blocking w.detach s = .error .blocked s := by
    rw [locked_eq_underLock, underLock, bind_error hlock]
  rw [close, bind_ok (attempt_error hbody)]
  rfl

/-- A writer that cannot start leaves the header alone. -/
theorem attach_missed {failure : Failure} {s' : Site} (hdepth : s.book.depth = 0)
    (hholder : s.book.holder = none) (h : w.attach s = .error failure s') : s.Still s' := by
  by_cases htakes : w.Takes .blocking s
  · obtain ⟨session, t, hresult, -⟩ := locked_taken htakes hdepth hholder
      fun t _ => w.takeOver_yields t
    rw [attach, bind_ok (attempt_ok hresult)] at h
    cases h
  · rcases locked_missed w.takeOver htakes with hresult | ⟨other, hresult⟩
    · rw [attach, bind_ok (attempt_ok hresult)] at h
      cases h
    · -- it ends at once, and is refused the lock again
      obtain ⟨t, hstill, hclose | ⟨another, hclose⟩⟩ := close_missed htakes
      · rw [attach, bind_ok (attempt_error hresult)] at h
        replace h : (attempt w.close >>= _) s = _ := h
        rw [bind_ok (attempt_ok hclose)] at h
        cases h
        exact hstill
      · rw [attach, bind_ok (attempt_error hresult)] at h
        replace h : (attempt w.close >>= _) s = _ := h
        rw [bind_ok (attempt_error hclose)] at h
        cases h
        exact hstill

end Writer

/-! ## Steps -/

namespace Exchange

variable {x y : Exchange} {caller : Thread} {id : Nat} {answer : Answer}

/-- A writer that could not be opened has changed nothing but the log. -/
theorem step_notOpened {gpu : UInt64} {failure : Failure}
    (h : x.step caller (.openWriter id gpu) = some (.failed failure, y)) :
    ∃ s', (x.site caller (.fresh .writer)).Still s' ∧ y = x.leave s' := by
  rw [step.eq_def] at h
  split at h
  · cases h
  · replace h : x.openWriter caller id gpu = some (.failed failure, y) := h
    rw [openWriter] at h
    split at h
    · cases h
    · rcases settle_eq_some h with ⟨a, s', -, hend⟩ | ⟨other, s', hresult, -, hend⟩
      · cases hend
      · exact ⟨s', Writer.attach_missed rfl rfl hresult, hend⟩

/-- How a writer ends: with the lock and a new session, or without the lock. Then its own thread has
the lock through another object, or the writer was left in the middle of something. -/
theorem step_close {c : Client} {w : Writer} (hsettled : c.Settled)
    (hclient : x.clients.get? id = some c) (hbody : c.body = .writer w)
    (h : x.step caller (.close id) = some (answer, y)) : ∃ s',
      y = { x with clients := x.clients.erase id }.leave s' ∧
      (w.Takes .blocking (x.site caller c.book) ∧ c.book.machine.phase = .unlocked ∧ x.Unowned ∧
          answer = .done ∧ (x.site caller c.book).Restarted w.gpu s' ∨
        ¬w.Takes .blocking (x.site caller c.book) ∧
          (c.book.machine.phase ≠ .unlocked ∨ x.mutex.holding = .held caller) ∧
          (x.site caller c.book).Still s') := by
  have hrole : c.book.machine.role = .writer := by
    rw [hsettled.role, hbody]
    rfl
  rw [step.eq_def] at h
  split at h
  · cases h
  · replace h : x.close caller id = some (answer, y) := h
    rw [close, hclient] at h
    dsimp only at h
    split at h
    · cases h
    · next hdepth =>
      have hzero : c.book.depth = 0 := Nat.eq_zero_of_not_pos hdepth
      rw [hbody] at h
      dsimp only at h
      have hcases := w.takes_cases (s := x.site caller c.book) hzero
      rcases hcases with ⟨htakes, hphase, hunowned⟩ | ⟨hmissed, hwhy⟩
      · obtain ⟨s', hclose, hrestarted⟩ :=
          Writer.close_taken htakes hrole hzero (hsettled.idle hzero)
        rw [hclose] at h
        cases h
        exact ⟨s', rfl, .inl ⟨htakes, hphase, hunowned, rfl, hrestarted⟩⟩
      · -- while it waits for the lock it has not ended
        have hreason := hwhy.resolve_left fun hblocked => by
          rw [Writer.close_blocked hblocked] at h
          cases h
        obtain ⟨t, hstill, hclose | ⟨another, hclose⟩⟩ := Writer.close_missed hmissed
        · rw [hclose] at h
          cases h
          exact ⟨t, rfl, .inr ⟨hmissed, hreason, hstill⟩⟩
        · rw [hclose] at h
          rcases settle_eq_some h with ⟨a, s', hresult, -⟩ | ⟨other, s', hresult, -, hend⟩
          · cases hresult
          · cases hresult
            exact ⟨t, hend, .inr ⟨hmissed, hreason, hstill⟩⟩

/-- What is no writer ends without touching the region. -/
theorem step_close_reader {c : Client} (hclient : x.clients.get? id = some c)
    (hbody : ∀ w, c.body ≠ .writer w) (h : x.step caller (.close id) = some (answer, y)) :
    y = { x with clients := x.clients.erase id } := by
  rw [step.eq_def] at h
  split at h
  · cases h
  · replace h : x.close caller id = some (answer, y) := h
    rw [close, hclient] at h
    dsimp only at h
    split at h
    · cases h
    · split at h
      · next w heq => exact absurd heq (hbody w)
      · cases h
        rfl

/-- A writer that has detached has begun a session. -/
theorem step_detach (hsettled : ∀ id c, x.clients.get? id = some c → c.Settled)
    (h : x.step caller (.call id .detach) = some (.done, y)) : ∃ c w s',
      x.clients.get? id = some c ∧ c.body = .writer w ∧
      y = (x.leave s').put id ⟨c.body, s'.book, c.tokenAfter .detach .done s'.book⟩ ∧
      (x.site caller c.book).Renewed w.gpu s' := by
  obtain ⟨-, c, operation, hclient, -, hoperation, hends⟩ := step_ends h
  have hrole := (hsettled id c hclient).role
  simp only [Client.operation] at hoperation
  split at hoperation
  · next w hbody =>
    cases hoperation
    rw [hbody] at hrole
    obtain ⟨s', hy, ⟨a, hresult, -⟩ | ⟨failure, -, -, hanswer⟩⟩ := hends.answering
    · have hyields := w.detach_yields (s := x.site caller c.book) hrole
      rw [hresult] at hyields
      cases hyields with
      | ok hrenewed => exact ⟨c, w, s', hclient, hbody, hy, hrenewed⟩
    · cases hanswer
  · cases hoperation

end Exchange

namespace Deed

/-- The four ways to begin a session. -/
inductive Starts (d : Deed) : Prop where
  | detached (id : Nat) : d.move = .call id .detach → d.answer = .done → d.Starts
  | opened (id : Nat) (gpu : UInt64) : d.move = .openWriter id gpu → d.answer = .done → d.Starts
  /-- A writer ends, and gets the lock. -/
  | closed (id : Nat) (c : Client) (w : Writer) : d.move = .close id →
      d.before.clients.get? id = some c → c.body = .writer w →
      w.Takes .blocking (d.before.site d.thread c.book) → d.Starts
  /-- The lock of a dead owner is taken. -/
  | recovered : d.before.mutex.holding = .orphaned → d.after.mutex.holding ≠ .orphaned → d.Starts

end Deed

namespace Exchange

variable {x y : Exchange} {thread : Thread} {move : Move} {answer : Answer}

/-- A step that begins a session replaces the header. -/
theorem Ordered.resets_of_starts (hordered : x.Ordered)
    (hstep : x.step thread move = some (answer, y))
    (hstarts : Deed.Starts ⟨x, thread, move, answer, y⟩) :
    Deed.Resets ⟨x, thread, move, answer, y⟩ := by
  have hlen := hordered.length
  cases hstarts with
  | detached id hmove hanswer =>
    cases hmove
    cases hanswer
    obtain ⟨c, w, s', hclient, hbody, rfl, hrenewed⟩ := step_detach hordered.settled hstep
    have hadapter : x.adapter (.call id .detach) = w.gpu := by
      rw [adapter_of_client hclient (.inr ⟨_, rfl⟩), hbody]
      rfl
    exact .of_renewed hlen rfl rfl rfl rfl rfl (hadapter ▸ hrenewed)
  | opened id gpu hmove hanswer =>
    cases hmove
    cases hanswer
    cases (happens hordered.settled hlen hstep).2 with
    | attached _ hrestarted => exact .of_restarted hlen rfl rfl hrestarted
  | closed id c w hmove hclient hbody htakes =>
    cases hmove
    replace hclient : x.clients.get? id = some c := hclient
    obtain ⟨s', rfl, ⟨-, -, -, -, hrestarted⟩ | ⟨hmissed, -⟩⟩ :=
      step_close (hordered.settled id c hclient) hclient hbody hstep
    · have hadapter : x.adapter (.close id) = w.gpu := by
        rw [adapter_of_client hclient (.inl rfl), hbody]
        rfl
      exact .of_restarted hlen rfl rfl (hadapter ▸ hrestarted)
    · exact absurd htakes hmissed
  | recovered horphaned htaken =>
    rcases hordered.resets horphaned hstep with ⟨hstill, -⟩ | ⟨-, hresets⟩
    · exact absurd hstill htaken
    · exact hresets

/-- Sessions are drawn in no other steps. -/
theorem Ordered.starts_of_drawn (hordered : x.Ordered)
    (hstep : x.step thread move = some (answer, y))
    (hdrawn : Deed.drawn ⟨x, thread, move, answer, y⟩ ≠ []) :
    Deed.Starts ⟨x, thread, move, answer, y⟩ := by
  have hquiet (hentropy : y.host.entropy = x.host.entropy) :
      Deed.Starts ⟨x, thread, move, answer, y⟩ := absurd (Deed.drawn_eq_nil hentropy) hdrawn
  have htaken {holding : Holding} (horphaned : x.mutex.holding = .orphaned)
      (hmutex : y.mutex.holding = holding) (hne : holding ≠ .orphaned) :
      Deed.Starts ⟨x, thread, move, answer, y⟩ := .recovered horphaned fun h => hne (hmutex ▸ h)
  cases (happens hordered.settled hordered.length hstep).2 with
  | called _ _ heffect =>
    cases heffect with
    | still _ _ hstill => exact hquiet hstill.host.entropy
    | recovered _ _ hrestarted horphaned =>
      exact htaken horphaned (congrArg Mutex.holding hrestarted.mutex) (by simp)
    | inherited _ horphaned hrenewed =>
      exact htaken horphaned (congrArg Mutex.holding hrenewed.mutex) (by simp [Site.gained])
    | detached => exact .detached _ rfl rfl
    | kept _ hstill => exact hquiet hstill.entropy
    | _ => exact hquiet rfl
  | attached => exact .opened _ _ rfl rfl
  | notAttached failure =>
    obtain ⟨s', hstill, hy⟩ := step_notOpened hstep
    exact hquiet ((congrArg (·.host.entropy) hy).trans hstill.host.entropy)
  | @closed id c _ s' hclient =>
    cases hbody : c.body with
    | writer w =>
      obtain ⟨t, hy, ⟨htakes, -⟩ | ⟨-, -, hstill⟩⟩ :=
        step_close (hordered.settled id c hclient) hclient hbody hstep
      · exact .closed id c w rfl hclient hbody htakes
      · exact hquiet ((congrArg (·.host.entropy) hy).trans hstill.host.entropy)
    | _ =>
      have hy := step_close_reader hclient (by simp [hbody]) hstep
      exact hquiet (congrArg (·.host.entropy) hy)
  | openedReader => exact hquiet rfl
  | openedCached => exact hquiet rfl
  | died => exact hquiet rfl
  | elapsed => exact hquiet rfl

end Exchange

/-- A step that neither begins a session nor touches a frame leaves the header as it is. -/
theorem Deed.Rewrites.header_eq {d : Deed} (hrewrites : d.Rewrites) (hdrawn : d.drawn = [])
    (hpublishes : d.publishes = false) (hbegins : ∀ id, d.move ≠ .call id .beginFrame) :
    d.after.header = d.before.header := by
  unfold Deed.Rewrites at hrewrites
  unfold publishes at hpublishes
  generalize hmove : d.move = move at hrewrites hpublishes hbegins
  generalize hanswer : d.answer = answer at hrewrites hpublishes
  generalize hafter : d.after = y at hrewrites ⊢
  cases hrewrites with
  | kept _ _ hheader => exact hheader
  | raised => exact absurd rfl (hbegins _)
  | published => cases hpublishes
  | emptied => cases hpublishes
  | restarted _ _ hfirst hentropy =>
    subst hafter
    have hmem := mem_drawn hfirst (by rw [hentropy])
    rw [hdrawn] at hmem
    cases hmem

namespace Deed

variable {d : Deed}

/-- Sessions are drawn in those steps that begin one. -/
theorem Valid.starts_iff (hvalid : d.Valid) (hordered : d.before.Ordered) :
    d.Starts ↔ d.drawn ≠ [] := by
  constructor
  · intro hstarts hnone
    have hmem := (hordered.resets_of_starts hvalid hstarts).drawn
    rw [show Deed.drawn _ = [] from hnone] at hmem
    cases hmem
  · exact hordered.starts_of_drawn hvalid

/-- In all other steps none is drawn. -/
theorem Valid.drawn_of_steady (hvalid : d.Valid) (hordered : d.before.Ordered)
    (hsteady : ¬d.Starts) : d.drawn = [] :=
  Decidable.not_not.mp fun hdrawn => hsteady ((hvalid.starts_iff hordered).mpr hdrawn)

/-- To die in the middle of a call begins no session that anybody sees. -/
theorem Dies.not_starts (hdies : d.Dies) : ¬d.Starts := by
  have hmove := hdies.1
  intro hstarts
  cases hstarts with
  | detached id hcall => rw [hmove] at hcall; cases hcall
  | opened id gpu hopen => rw [hmove] at hopen; cases hopen
  | closed id c w hclose => rw [hmove] at hclose; cases hclose
  | recovered _ htaken => exact htaken hdies.orphaned

/-- A lock that was left behind is left by all steps that do not begin a session, and so is the
header. -/
theorem Valid.orphaned (hvalid : d.Valid) (hordered : d.before.Ordered)
    (horphaned : d.before.mutex.holding = .orphaned) (hdrawn : d.drawn = []) :
    d.after.mutex.holding = .orphaned ∧ d.after.header = d.before.header := by
  rcases hordered.resets horphaned hvalid with hleft | ⟨-, hresets⟩
  · exact hleft
  · have hmem := hresets.drawn
    rw [show Deed.drawn _ = [] from hdrawn] at hmem
    cases hmem

end Deed

/-! ## Whole courses -/

namespace Course

variable {names : RegionNames} {host : Host} {y : Exchange} {earlier later : List Deed} {d : Deed}

/-- A session that is begun replaces the header, and was never there before. -/
theorem starts (hcourse : Course (.start names host) (earlier ++ d :: later) y)
    (hfresh : FreshSessions (.start names host) (earlier ++ d :: later)) (hstarts : d.Starts) :
    d.Resets ∧ d.after.header.session ∉
      (Exchange.start names host).header.session :: earlier.flatMap Deed.drawn := by
  obtain ⟨hearlier, hvalid | hdies, -⟩ := hcourse.deed
  · have hresets : d.Resets := hearlier.ordered.resets_of_starts hvalid hstarts
    refine ⟨hresets, fun hmem => ?_⟩
    rw [FreshSessions, List.flatMap_append, ← List.cons_append, List.nodup_append] at hfresh
    refine hfresh.2.2 _ hmem _ ?_ rfl
    rw [List.flatMap_cons]
    exact List.mem_append_left _ hresets.drawn
  · exact absurd hstarts hdies.not_starts

end Course

end FrameExchange
