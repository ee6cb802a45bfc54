import FrameExchange.Proofs.Step

/-!
# What always holds

The invariant of a region that only its objects write to, preserved by every step.

- `Exchange.Sound` — the lock belongs to the one object whose guards a living thread has, a header
  with a feeder can be trusted, and a frame that was begun has the slot and the fence value of the
  next frame.
- `Exchange.Rewrites`, `Exchange.Happens.rewrites` — what a step does to the header.
- `Exchange.Sound.step`, `Reachable.sound` — it holds after every step, and so in every state that
  can be reached.
-/

namespace FrameExchange

/-! ## Books -/

namespace Client

variable {c : Client} {s s' : Site} {call : Call} {answer : Answer} {body : Body}

/-- A frame that is begun after a call was begun by it, or was so before. -/
theorem tokenAfter_eq_some {book : LockBook} {next : NextFrame}
    (h : c.tokenAfter call answer book = some next) : book.depth ≠ 0 ∧
      (call = .beginFrame ∧ answer = .next next ∨
        c.token = some next ∧ (∀ frame, call ≠ .submit frame) ∧
          (call = .beginFrame → ∀ next, answer ≠ .next next)) := by
  rw [tokenAfter.eq_def] at h
  split at h
  · cases h
  · next hdepth =>
    refine ⟨hdepth, ?_⟩
    split at h
    · cases h
      exact .inl ⟨rfl, rfl⟩
    · cases h
    · cases h
    · next hsubmit _ hbegin =>
      exact .inr ⟨h, fun frame heq => hsubmit frame heq, fun hcall next hanswer =>
        hbegin next hcall hanswer⟩

/-- An object stays one of its kind. -/
theorem role_becomes (h : c.body.Becomes s call answer body s') : body.role = c.body.role := by
  generalize c.body = before at h
  cases h <;> rfl

/-- A writer stays the same writer, and was one before. -/
theorem becomes_writer {w : Writer} (h : c.body.Becomes s call answer (.writer w) s') :
    c.body = .writer w := by
  generalize hbefore : c.body = before at h
  cases h with
  | same => rfl
  | failed => rfl

/-- What a call does to the book of its object. -/
inductive Rebooks (c : Client) (s : Site) : Call → Answer → LockBook → Prop where
  | same {call : Call} {answer : Answer} : (∀ next, answer ≠ .next next) →
      Rebooks c s call answer s.book
  | deeper {mode : LockMode} : 0 < s.book.depth →
      Rebooks c s (.lock mode) (.locked false) s.nested.book
  | first {mode : LockMode} {abandoned : Bool} : s.book.depth = 0 →
      Rebooks c s (.lock mode) (.locked abandoned) s.gained.book
  | shallower {unwinding : Bool} : 1 < s.book.depth →
      Rebooks c s (.release unwinding) .done s.unnested.book
  | last {unwinding : Bool} {answer : Answer} (phase : Phase) :
      Rebooks c s (.release unwinding) answer (s.bare.rephase phase).book
  | begun {w : Writer} (next : NextFrame) : c.body = .writer w →
      Rebooks c s .beginFrame (.next next) (s.rephase .frameInProgress).book
  | submitted {w : Writer} {frame : Frame} : c.body = .writer w →
      Rebooks c s (.submit frame) .done (s.rephase .locked).book

theorem rebooks (heffect : Effect c s call answer s') : Rebooks c s call answer s'.book := by
  cases heffect with
  | still _ hnever hstill =>
    rw [hstill.book]
    exact .same hnever
  | recovered _ hnever hrestarted =>
    rw [hrestarted.book]
    exact .same hnever
  | nested hdepth => exact .deeper hdepth
  | gained hready => exact .first hready.depth
  | inherited hready _ hrenewed =>
    rw [hrenewed.book]
    exact .first hready.depth
  | inner hdepth => exact .shallower hdepth
  | freed => exact .last .unlocked
  | kept => exact .last .unlocked
  | refused => exact .last s.book.machine.phase
  | begun hbody => exact .begun _ hbody
  | submitted hbody => exact .submitted hbody
  | emptied => exact .same fun next h => by cases h
  | detached _ _ hrenewed =>
    rw [hrenewed.book]
    exact .same fun next h => by cases h

/-- A call leaves its object settled. -/
theorem Settled.effect (hsettled : c.Settled) (hbook : s.book = c.book)
    (heffect : Effect c s call answer s') (hbecomes : c.body.Becomes s call answer body s') :
    Settled ⟨body, s'.book, c.tokenAfter call answer s'.book⟩ := by
  obtain ⟨hrole, hidle, hheld, hreading, hbegun⟩ := hsettled
  rw [← hbook] at hrole hidle hheld hreading hbegun
  have hkind := role_becomes hbecomes
  have hrebooks := rebooks heffect
  generalize s'.book = book at hrebooks
  constructor
  case role =>
    show book.machine.role = body.role
    rw [hkind, ← hrole]
    cases hrebooks <;> rfl
  case idle =>
    cases hrebooks with
    | same => exact hidle
    | deeper =>
      intro hzero
      exact absurd hzero (Nat.succ_ne_zero _)
    | first =>
      intro hzero
      exact absurd hzero Nat.one_ne_zero
    | shallower hmany =>
      intro hzero
      have hone : s.book.depth - 1 = 0 := hzero
      omega
    | last =>
      intro _
      rfl
    | begun => exact hidle
    | submitted => exact hidle
  case held =>
    cases hrebooks with
    | same => exact hheld
    | deeper hdepth =>
      intro _
      exact hheld hdepth
    | first =>
      intro _ hnobody
      cases hnobody
    | shallower hmany =>
      intro _
      exact hheld (by omega)
    | last =>
      intro hdepth
      exact absurd hdepth (Nat.lt_irrefl 0)
    | begun => exact hheld
    | submitted => exact hheld
  case reading =>
    show body.role = .reader → _
    rw [hkind]
    intro hreader
    have hnot {w : Writer} (hbody : c.body = .writer w) : False := by
      rw [hbody] at hreader
      cases hreader
    cases hrebooks with
    | same => exact hreading hreader
    | deeper hdepth =>
      intro _
      exact hreading hreader hdepth
    | first =>
      intro _
      rfl
    | shallower hmany =>
      intro _
      exact hreading hreader (by omega)
    | last =>
      intro hdepth
      exact absurd hdepth (Nat.lt_irrefl 0)
    | begun _ hbody => exact (hnot hbody).elim
    | submitted hbody => exact (hnot hbody).elim
  case begun =>
    intro htoken
    obtain ⟨next, hnext⟩ := Option.ne_none_iff_exists'.mp htoken
    obtain ⟨hdepth, hnow | ⟨hbefore, hsubmit, -⟩⟩ := tokenAfter_eq_some hnext
    · obtain ⟨rfl, rfl⟩ := hnow
      refine ⟨Nat.pos_of_ne_zero hdepth, ?_⟩
      cases hrebooks with
      | same hnever => exact absurd rfl (hnever next)
      | begun => rfl
    · have hworking := hbegun (by rw [hbefore]; exact fun h => by cases h)
      refine ⟨Nat.pos_of_ne_zero hdepth, ?_⟩
      cases hrebooks with
      | same => exact hworking.2
      | deeper => exact hworking.2
      | first hzero => exact absurd hzero (Nat.pos_iff_ne_zero.mp hworking.1)
      | shallower => exact hworking.2
      | last => exact absurd rfl hdepth
      | begun => rfl
      | submitted => exact absurd rfl (hsubmit _)

end Client

/-! ## Headers -/

/-- Whether a step with this answer has published a frame. -/
def Move.publishes : Move → Answer → Bool
  | .call _ what, answer => what.publishes answer
  | _, _ => false

namespace Exchange

/-- What a step does to the header. -/
inductive Rewrites (x : Exchange) (caller : Thread) : Move → Answer → Exchange → Prop where
  | kept {move : Move} {answer : Answer} {y : Exchange} : move.publishes answer = false →
      (∀ next, answer ≠ .next next) → y.header = x.header →
      y.host.entropy = x.host.entropy → Rewrites x caller move answer y
  | raised {id : Nat} {y : Exchange} : y.header = x.header.raise x.header.nextSlot →
      y.host.entropy = x.host.entropy →
      Rewrites x caller (.call id .beginFrame) (.next (Writer.upcoming x.header)) y
  | published {id : Nat} {c : Client} {w : Writer} {frame : Frame} {next : NextFrame}
      {y : Exchange} : x.clients.get? id = some c → c.body = .writer w → c.GuardOf caller →
      c.token = some next → frame.check = .ok () →
      y.header = Memory.stored (x.header.publish w.gpu w.pid frame.config frame.layers
        frame.texture frame.fence) →
      y.host.entropy = x.host.entropy → Rewrites x caller (.call id (.submit frame)) .done y
  | emptied {id : Nat} {c : Client} {w : Writer} {y : Exchange} : x.clients.get? id = some c →
      c.body = .writer w → y.header = Memory.stored (x.header.publishEmpty w.gpu w.pid) →
      y.host.entropy = x.host.entropy → Rewrites x caller (.call id .submitEmpty) .done y
  | restarted {move : Move} {answer : Answer} {gpu : UInt64} {k : Nat} {y : Exchange} :
      move.publishes answer = false → (∀ next, answer ≠ .next next) →
      x.host.entropy.used ≤ k → y.host.entropy = ⟨x.host.entropy.draw, k + 1⟩ →
      y.header = .ofSession gpu (Host.sessionOf caller.pid (x.host.entropy.draw k)) →
      Rewrites x caller move answer y

variable {x y : Exchange} {caller : Thread} {move : Move} {answer : Answer}

/-- A new session, seen from the region. -/
theorem Rewrites.of_renewed {gpu : UInt64} {s s' : Site} (hlen : Header.byteSize ≤ x.memory.length)
    (hcaller : s.caller = caller) (hmemory : s.memory = x.memory) (hhost : s.host = x.host)
    (hpublishes : move.publishes answer = false) (hnever : ∀ next, answer ≠ .next next)
    (hheader : y.header = Memory.load s'.memory) (hentropy : y.host = s'.host)
    (h : s.Renewed gpu s') : Rewrites x caller move answer y := by
  obtain ⟨k, hfirst, hlast, hload⟩ := h.header
  rw [hhost] at hfirst hload
  rw [hmemory, hcaller] at hload
  refine .restarted hpublishes hnever hfirst ?_ (hheader.trans (hload hlen))
  rw [hentropy, ← hlast, ← hhost, ← h.draw]

/-- A new session that was begun while nobody had the lock. -/
theorem Rewrites.of_restarted {gpu : UInt64} {book : LockBook} {s' : Site}
    (hlen : Header.byteSize ≤ x.memory.length) (hpublishes : move.publishes answer = false)
    (hnever : ∀ next, answer ≠ .next next) (hheader : y.header = Memory.load s'.memory)
    (hhost : y.host = s'.host) (h : (x.site caller book).Restarted gpu s') :
    Rewrites x caller move answer y := by
  refine .of_renewed hlen rfl rfl rfl hpublishes hnever ?_ ?_ h.renewed
  · exact hheader
  · exact hhost

/-- What a call does to the header. -/
theorem rewrites_called {id : Nat} {c : Client} {call : Call} {s' : Site}
    (hlen : Header.byteSize ≤ x.memory.length) (hclient : x.clients.get? id = some c)
    (hguard : call.underGuard = true → c.GuardOf caller)
    (heffect : Effect c (x.site caller c.book) call answer s') (c' : Client) :
    Rewrites x caller (.call id call) answer ((x.leave s').put id c') := by
  cases heffect with
  | still hpublishes hnever hstill =>
    refine .kept hpublishes hnever ?_ hstill.host.entropy
    exact congrArg Memory.load hstill.memory
  | recovered hpublishes hnever hrestarted =>
    exact .of_restarted hlen hpublishes hnever rfl rfl hrestarted
  | nested => exact .kept rfl (fun next h => by cases h) rfl rfl
  | gained => exact .kept rfl (fun next h => by cases h) rfl rfl
  | inherited _ _ hrenewed =>
    exact .of_renewed hlen rfl rfl rfl rfl (fun next h => by cases h) rfl rfl hrenewed
  | inner => exact .kept rfl (fun next h => by cases h) rfl rfl
  | freed => exact .kept rfl (fun next h => by cases h) rfl rfl
  | kept _ hstill => exact .kept rfl (fun next h => by cases h) rfl hstill.entropy
  | refused => exact .kept rfl (fun next h => by cases h) rfl rfl
  | begun => exact .raised (Memory.load_raiseFence _ hlen) rfl
  | submitted hbody htoken hcheck =>
    exact .published hclient hbody (hguard rfl) htoken hcheck (Memory.load_store _ hlen) rfl
  | emptied hbody => exact .emptied hclient hbody (Memory.load_store _ hlen) rfl
  | detached _ _ hrenewed =>
    exact .of_renewed hlen rfl rfl rfl rfl (fun next h => by cases h) rfl rfl hrenewed

/-- What a step does to the header. -/
theorem Happens.rewrites (hlen : Header.byteSize ≤ x.memory.length)
    (h : Happens x caller move answer y) : Rewrites x caller move answer y := by
  have hlooked {move : Move} {answer : Answer} {book : LockBook} {s' : Site} {y : Exchange}
      (hpublishes : move.publishes answer = false) (hnever : ∀ next, answer ≠ .next next)
      (hheader : y.header = Memory.load s'.memory) (hhost : y.host = s'.host)
      (hsite : (x.site caller book).Still s' ∨ ∃ gpu, (x.site caller book).Restarted gpu s') :
      Rewrites x caller move answer y := by
    rcases hsite with hstill | ⟨gpu, hrestarted⟩
    · refine .kept hpublishes hnever (hheader.trans (congrArg Memory.load hstill.memory)) ?_
      rw [hhost]
      exact hstill.host.entropy
    · exact .of_restarted hlen hpublishes hnever hheader hhost hrestarted
  cases h with
  | called hclient hguard heffect => exact rewrites_called hlen hclient hguard heffect _
  | attached _ hrestarted =>
    exact hlooked rfl (fun next h => by cases h) rfl rfl (.inr ⟨_, hrestarted⟩)
  | notAttached failure hsite =>
    exact hlooked rfl (fun next h => by cases h) rfl rfl (hsite.imp_right fun h => ⟨_, h⟩)
  | openedReader => exact .kept rfl (fun next h => by cases h) rfl rfl
  | openedCached => exact .kept rfl (fun next h => by cases h) rfl rfl
  | closed _ _ hanswer hsite =>
    refine hlooked rfl (fun next h => ?_) rfl rfl (hsite.imp_right fun h => ⟨_, h⟩)
    rcases hanswer with rfl | ⟨failure, rfl⟩
    · cases h
    · cases h
  | died => exact .kept rfl (fun next h => by cases h) rfl rfl
  | elapsed => exact .kept rfl (fun next h => by cases h) rfl rfl

/-- No step changes the length of the memory. -/
theorem Happens.length (h : Happens x caller move answer y) :
    y.memory.length = x.memory.length := by
  have hlooked {book : LockBook} {s' : Site}
      (hsite : (x.site caller book).Still s' ∨ ∃ gpu, (x.site caller book).Restarted gpu s') :
      s'.memory.length = x.memory.length := by
    rcases hsite with hstill | ⟨gpu, hrestarted⟩
    · exact congrArg List.length hstill.memory
    · exact hrestarted.renewed.length
  cases h with
  | called _ _ heffect =>
    cases heffect with
    | still _ _ hstill => exact hlooked (.inl hstill)
    | recovered _ _ hrestarted => exact hlooked (.inr ⟨_, hrestarted⟩)
    | inherited _ _ hrenewed => exact hrenewed.length
    | detached _ _ hrenewed => exact hrenewed.length
    | begun => exact Memory.length_raiseFence _ _
    | submitted => exact Memory.length_store _ _
    | emptied => exact Memory.length_store _ _
    | _ => rfl
  | attached _ hrestarted => exact hlooked (.inr ⟨_, hrestarted⟩)
  | notAttached _ hsite => exact hlooked (hsite.imp_right fun h => ⟨_, h⟩)
  | closed _ _ _ hsite => exact hlooked (hsite.imp_right fun h => ⟨_, h⟩)
  | _ => rfl

/-! ## Locks -/

/-- A living thread has guards of this object. -/
def HasLock (x : Exchange) (id : Nat) (t : Thread) : Prop :=
  ∃ c, x.clients.get? id = some c ∧ c.book.holder = some t ∧ t ∉ x.dead

/-- Nobody has the lock, and no living thread can have guards. -/
def Unowned (x : Exchange) : Prop :=
  x.mutex.holding = .free ∨ x.mutex.holding = .orphaned

/-- What a step does to the lock. -/
inductive Relocks (x : Exchange) (caller : Thread) (y : Exchange) : Prop where
  | kept : y.mutex = x.mutex → (∀ id t, y.HasLock id t → x.HasLock id t) → Relocks x caller y
  | taken (id : Nat) : y.mutex = { x.mutex with holding := .held caller } →
      (∀ other t, y.HasLock other t → (other = id ∧ t = caller) ∨ x.HasLock other t) →
      x.Unowned → Relocks x caller y
  | freed : y.mutex = { x.mutex with holding := .free } → (∀ id t, ¬y.HasLock id t) →
      Relocks x caller y
  | orphaned : y.mutex = x.mutex.ownerDies caller →
      (∀ id t, y.HasLock id t → x.HasLock id t ∧ t ≠ caller) → Relocks x caller y

/-- The lock belongs to the thread that has guards, and only of one object. -/
structure Exclusive (x : Exchange) : Prop where
  checked : x.mutex.kind = .checked
  owned : ∀ id t, x.HasLock id t → x.mutex.holding = .held t
  single : ∀ id other t, x.HasLock id t → x.HasLock other t → id = other

/-- Of a lock that nobody has there are no guards. -/
theorem Exclusive.not_hasLock (hexclusive : x.Exclusive) (hunowned : x.Unowned) (id : Nat)
    (t : Thread) : ¬x.HasLock id t := by
  intro hlock
  have hheld := hexclusive.owned id t hlock
  rcases hunowned with hfree | horphaned
  · rw [hfree] at hheld
    cases hheld
  · rw [horphaned] at hheld
    cases hheld

/-- The thread that has guards can give the lock back. -/
theorem Exclusive.release (hexclusive : x.Exclusive) {id : Nat} (hlock : x.HasLock id caller) :
    x.mutex.release caller = .ok { x.mutex with holding := .free } := by
  simp [Mutex.release, Mutex.knowsOwner, hexclusive.checked, hexclusive.owned id caller hlock]

/-- Two objects with guards are one. -/
theorem Exclusive.eq (hexclusive : x.Exclusive) {id other : Nat} {t u : Thread}
    (h : x.HasLock id t) (hother : x.HasLock other u) : id = other := by
  have hheld := (hexclusive.owned id t h).symm.trans (hexclusive.owned other u hother)
  cases hheld
  exact hexclusive.single id other t h hother

/-- The lock stays with one object. -/
theorem Exclusive.step (hexclusive : x.Exclusive) (h : Relocks x caller y) : y.Exclusive := by
  obtain ⟨hchecked, howned, hsingle⟩ := hexclusive
  cases h with
  | kept hmutex hlock =>
    refine ⟨by rw [hmutex]; exact hchecked, fun id t h => ?_, fun id other t h h' => ?_⟩
    · rw [hmutex]
      exact howned id t (hlock id t h)
    · exact hsingle id other t (hlock id t h) (hlock other t h')
  | taken id hmutex hlock hunowned =>
    have honly (other : Nat) (t : Thread) (h : y.HasLock other t) : other = id ∧ t = caller :=
      (hlock other t h).resolve_right
        (Exclusive.not_hasLock ⟨hchecked, howned, hsingle⟩ hunowned other t)
    refine ⟨by rw [hmutex]; exact hchecked, fun other t h => ?_, fun a b t h h' => ?_⟩
    · rw [hmutex, (honly other t h).2]
    · rw [(honly a t h).1, (honly b t h').1]
  | freed hmutex hnone =>
    refine ⟨by rw [hmutex]; exact hchecked, fun id t h => absurd h (hnone id t),
      fun id other t h => absurd h (hnone id t)⟩
  | orphaned hmutex hlock =>
    refine ⟨?_, fun id t h => ?_, fun id other t h h' => ?_⟩
    · rw [hmutex, Mutex.ownerDies]
      split <;> exact hchecked
    · -- a thread that lives is not the one that died, so the lock stays with it
      obtain ⟨hbefore, hne⟩ := hlock id t h
      have hheld := howned id t hbefore
      rw [hmutex, Mutex.ownerDies, if_neg, hheld]
      simp [Mutex.knowsOwner, hheld, hne]
    · exact hsingle id other t (hlock id t h).1 (hlock other t h').1

/-- Who has the lock after one object was replaced. -/
theorem hasLock_put {id other : Nat} {c' : Client} {t : Thread}
    (h : (x.put id c').HasLock other t) :
    (other = id ∧ c'.book.holder = some t ∧ t ∉ x.dead) ∨ (other ≠ id ∧ x.HasLock other t) := by
  obtain ⟨c, hclient, hholder, halive⟩ := h
  rw [put, Table.get?_insert] at hclient
  split at hclient
  · next heq =>
    cases hclient
    exact .inl ⟨heq.symm, hholder, halive⟩
  · next hne => exact .inr ⟨fun heq => hne heq.symm, c, hclient, hholder, halive⟩

/-- What a call does to the lock. -/
theorem relocks_called {id : Nat} {c : Client} {call : Call} {s' : Site} {token : Option NextFrame}
    {body : Body} (hexclusive : x.Exclusive) (halive : caller ∉ x.dead)
    (hclient : x.clients.get? id = some c) (hguard : call.underGuard = true → c.GuardOf caller)
    (heffect : Effect c (x.site caller c.book) call answer s') :
    Relocks x caller ((x.leave s').put id ⟨body, s'.book, token⟩) := by
  have hothers {other : Nat} {t : Thread}
      (h : ((x.leave s').put id ⟨body, s'.book, token⟩).HasLock other t) :
      (other = id ∧ s'.book.holder = some t ∧ t ∉ x.dead) ∨ (other ≠ id ∧ x.HasLock other t) :=
    hasLock_put h
  -- the object itself keeps its guards
  have hsame (hholder : s'.book.holder = c.book.holder) (hmutex : s'.mutex = x.mutex) :
      Relocks x caller ((x.leave s').put id ⟨body, s'.book, token⟩) := by
    refine .kept hmutex fun other t h => ?_
    rcases hothers h with ⟨rfl, ht, hdead⟩ | ⟨-, hlock⟩
    · exact ⟨c, hclient, hholder ▸ ht, hdead⟩
    · exact hlock
  -- the object loses its last guard
  have hlost (hholder : s'.book.holder = none) (hmutex : s'.mutex = x.mutex) :
      Relocks x caller ((x.leave s').put id ⟨body, s'.book, token⟩) := by
    refine .kept hmutex fun other t h => ?_
    rcases hothers h with ⟨-, ht, -⟩ | ⟨-, hlock⟩
    · rw [hholder] at ht
      cases ht
    · exact hlock
  have htaken (hholder : s'.book.holder = some caller)
      (hmutex : s'.mutex = { x.mutex with holding := .held caller }) (hunowned : x.Unowned) :
      Relocks x caller ((x.leave s').put id ⟨body, s'.book, token⟩) := by
    refine .taken id hmutex (fun other t h => ?_) hunowned
    rcases hothers h with ⟨heq, ht, -⟩ | ⟨-, hlock⟩
    · rw [hholder] at ht
      cases ht
      exact .inl ⟨heq, rfl⟩
    · exact .inr hlock
  cases heffect with
  | still _ _ hstill => exact hsame (by rw [hstill.book]; rfl) hstill.mutex
  | recovered _ _ hrestarted =>
    refine .freed hrestarted.mutex fun other t h => ?_
    have hnobody := hexclusive.not_hasLock hrestarted.nobody
    rcases hothers h with ⟨rfl, ht, hdead⟩ | ⟨-, hlock⟩
    · rw [hrestarted.book] at ht
      exact hnobody other t ⟨c, hclient, ht, hdead⟩
    · exact hnobody other t hlock
  | nested => exact hsame rfl rfl
  | gained _ hfree => exact htaken rfl rfl (.inl hfree)
  | inherited _ horphaned hrenewed =>
    exact htaken (by rw [hrenewed.book]; rfl) hrenewed.mutex (.inr horphaned)
  | inner => exact hsame rfl rfl
  | freed _ hrelease =>
    -- guards of another object would be of the same lock
    have hmine : x.HasLock id caller := ⟨c, hclient, (hguard rfl).2, halive⟩
    refine .freed rfl fun other t h => ?_
    rcases hothers h with ⟨-, ht, -⟩ | ⟨hne, hlock⟩
    · cases ht
    · exact hne (hexclusive.eq hlock hmine)
  | kept => exact hlost rfl rfl
  | refused => exact hlost rfl rfl
  | begun => exact hsame rfl rfl
  | submitted => exact hsame rfl rfl
  | emptied => exact hsame rfl rfl
  | detached _ _ hrenewed => exact hsame (by rw [hrenewed.book]; rfl) hrenewed.mutex

/-- What a step does to the lock. -/
theorem Happens.relocks (hexclusive : x.Exclusive) (halive : caller ∉ x.dead)
    (h : Happens x caller move answer y) : Relocks x caller y := by
  have hopened {body : Body} {z : Exchange} {id : Nat} (hmutex : z.mutex = x.mutex)
      (hlock : ∀ other t, z.HasLock other t → x.HasLock other t) :
      Relocks x caller (z.put id (.opened body)) := by
    refine .kept hmutex fun other t h => ?_
    rcases hasLock_put h with ⟨-, ht, -⟩ | ⟨-, h⟩
    · cases ht
    · exact hlock other t h
  have hlooked {book : LockBook} {s' : Site} {z : Exchange} (hz : z.mutex = s'.mutex)
      (hlock : ∀ other t, z.HasLock other t → x.HasLock other t)
      (hsite : (x.site caller book).Still s' ∨ ∃ gpu, (x.site caller book).Restarted gpu s') :
      Relocks x caller z := by
    rcases hsite with hstill | ⟨gpu, hrestarted⟩
    · exact .kept (hz.trans hstill.mutex) hlock
    · exact .freed (hz.trans hrestarted.mutex) fun other t h =>
        hexclusive.not_hasLock hrestarted.nobody other t (hlock other t h)
  cases h with
  | called hclient hguard heffect => exact relocks_called hexclusive halive hclient hguard heffect
  | attached _ hrestarted =>
    refine hlooked rfl (fun other t h => ?_) (.inr ⟨_, hrestarted⟩)
    rcases hasLock_put h with ⟨-, ht, -⟩ | ⟨-, h⟩
    · cases ht
    · exact h
  | notAttached failure hsite =>
    exact hlooked rfl (fun _ _ h => h) (hsite.imp_right fun h => ⟨_, h⟩)
  | openedReader => exact hopened rfl fun _ _ h => h
  | openedCached => exact hopened rfl fun _ _ h => h
  | closed _ _ _ hsite =>
    refine hlooked rfl (fun other t h => ?_) (hsite.imp_right fun h => ⟨_, h⟩)
    obtain ⟨c, hclient, hheld⟩ := h
    rw [leave, Table.get?_erase] at hclient
    split at hclient
    · cases hclient
    · exact ⟨c, hclient, hheld⟩
  | died =>
    refine .orphaned rfl fun id t h => ?_
    obtain ⟨c, hclient, hholder, hdead⟩ := h
    rw [List.mem_cons, not_or] at hdead
    exact ⟨⟨c, hclient, hholder, hdead.2⟩, hdead.1⟩
  | elapsed => exact .kept rfl fun _ _ h => h

/-! ## The invariant -/

/-- What holds between any two steps. -/
structure Sound (x : Exchange) : Prop where
  length : Header.byteSize ≤ x.memory.length
  exclusive : x.Exclusive
  settled : ∀ id c, x.clients.get? id = some c → c.Settled
  /-- A header with a feeder can be trusted. -/
  trusted : x.header.hasFeeder = true → x.header.validate = .ok ()
  /-- Where there are writers there has been a session. -/
  magic : ∀ id c w, x.clients.get? id = some c → c.body = .writer w →
    x.header.magic = headerMagic
  /-- A frame that was begun is the next one. -/
  begun : ∀ id c t next, x.clients.get? id = some c → c.book.holder = some t → t ∉ x.dead →
    c.token = some next →
    next.slot = x.header.nextSlot ∧ next.fenceValue = x.header.fenceValue x.header.nextSlot

/-- The magic stays right. -/
theorem Rewrites.magic (h : Rewrites x caller move answer y)
    (hmagic : x.header.magic = headerMagic) : y.header.magic = headerMagic := by
  cases h with
  | kept _ _ hheader => rw [hheader]; exact hmagic
  | raised hheader => rw [hheader]; exact hmagic
  | published _ _ _ _ _ hheader => rw [hheader]; exact hmagic
  | emptied _ _ hheader => rw [hheader]; exact hmagic
  | restarted _ _ _ _ hheader => rw [hheader]; rfl

/-- Headers with a feeder stay trustworthy. -/
theorem Rewrites.trusted (h : Rewrites x caller move answer y)
    (htrusted : x.header.hasFeeder = true → x.header.validate = .ok ()) :
    y.header.hasFeeder = true → y.header.validate = .ok () := by
  have hmagic {h : Header} (hfeeder : h.hasFeeder = true) : h.magic = headerMagic := by
    rw [Header.hasFeeder, Bool.and_eq_true, beq_iff_eq] at hfeeder
    exact hfeeder.1
  cases h with
  | kept _ _ hheader => rw [hheader]; exact htrusted
  | raised hheader => rw [hheader]; exact htrusted
  | @published id c w frame next y _ _ _ _ hcheck hheader =>
    rw [hheader, Memory.hasFeeder_stored, Memory.validate_stored]
    -- a feeder goes with the right magic, and the accepted frame is right for the rest
    intro hfeeder
    have hright := hmagic hfeeder
    exact Header.validate_publish w.gpu w.pid hright hcheck
  | @emptied id c w y _ _ hheader =>
    rw [hheader, Memory.hasFeeder_stored, Memory.validate_stored]
    intro hfeeder
    have hright := hmagic hfeeder
    exact Header.validate_publishEmpty w.gpu w.pid hright
  | restarted _ _ _ _ hheader =>
    rw [hheader, Header.hasFeeder_ofSession]
    intro hfeeder
    cases hfeeder

/-- A writer was there before, or it has just begun a session. -/
theorem Happens.writer {id : Nat} {c : Client} {w : Writer}
    (hlen : Header.byteSize ≤ x.memory.length) (h : Happens x caller move answer y)
    (hclient : y.clients.get? id = some c) (hbody : c.body = .writer w) :
    (∃ id c w, x.clients.get? id = some c ∧ c.body = .writer w) ∨
      y.header.magic = headerMagic := by
  cases h.comes hclient with
  | kept hbefore => exact .inl ⟨id, c, w, hbefore, hbody⟩
  | @called before _ body _ _ hbefore _ _ hbecomes =>
    have hwriter : body = .writer w := hbody
    subst hwriter
    exact .inl ⟨id, before, w, hbefore, Client.becomes_writer hbecomes⟩
  | attached hrestarted hmemory =>
    obtain ⟨k, -, -, hheader⟩ := hrestarted.renewed.header
    refine .inr ?_
    rw [header, hmemory, show Memory.load _ = _ from hheader hlen]
    rfl
  | openedReader => cases hbody
  | openedCached => cases hbody

/-- Objects that were just opened are settled. -/
theorem settled_opened (body : Body) : (Client.opened body).Settled := by
  refine ⟨?_, fun _ => rfl, fun h => ?_, fun _ h => ?_, fun h => absurd rfl h⟩
  · rfl
  · exact absurd h (Nat.lt_irrefl 0)
  · exact absurd h (Nat.lt_irrefl 0)

/-- Every object is left settled. -/
theorem Happens.settled (hsettled : ∀ id c, x.clients.get? id = some c → c.Settled)
    (h : Happens x caller move answer y) (id : Nat) (c : Client)
    (hclient : y.clients.get? id = some c) : c.Settled := by
  cases h.comes hclient with
  | kept hbefore => exact hsettled id c hbefore
  | @called before _ _ _ _ hbefore _ heffect hbecomes =>
    exact (hsettled id before hbefore).effect rfl heffect hbecomes
  | attached => exact settled_opened _
  | openedReader => exact settled_opened _
  | openedCached => exact settled_opened _

/-- What was begun stays the next frame where the header stays the same. -/
theorem Sound.begun_of_eq {id : Nat} {c : Client} {t : Thread} {next : NextFrame}
    (hsound : x.Sound) (hclient : x.clients.get? id = some c) (hholder : c.book.holder = some t)
    (halive : t ∉ x.dead) (htoken : c.token = some next) (hheader : y.header = x.header) :
    next.slot = y.header.nextSlot ∧
      next.fenceValue = y.header.fenceValue y.header.nextSlot := by
  rw [hheader]
  exact hsound.begun id c t next hclient hholder halive htoken

/-- While a living thread has guards, no call of another object touches the header. -/
theorem load_other {id other : Nat} {c : Client} {call : Call} {s' : Site} {t : Thread}
    (hexclusive : x.Exclusive) (halive : caller ∉ x.dead) (hclient : x.clients.get? id = some c)
    (hguard : call.underGuard = true → c.GuardOf caller)
    (heffect : Effect c (x.site caller c.book) call answer s') (hne : other ≠ id)
    (hlock : x.HasLock other t) : Memory.load s'.memory = x.header := by
  have hunowned (hunowned : x.Unowned) : False := hexclusive.not_hasLock hunowned other t hlock
  have hguarded (hg : c.GuardOf caller) : False :=
    hne (hexclusive.eq hlock ⟨c, hclient, hg.2, halive⟩)
  cases heffect with
  | still _ _ hstill => exact congrArg Memory.load hstill.memory
  | recovered _ _ hrestarted => exact (hunowned hrestarted.nobody).elim
  | inherited _ horphaned => exact (hunowned (.inr horphaned)).elim
  | begun => exact (hguarded (hguard rfl)).elim
  | submitted => exact (hguarded (hguard rfl)).elim
  | emptied => exact (hguarded (hguard rfl)).elim
  | detached => exact (hguarded (hguard rfl)).elim
  | _ => rfl

/-- While a living thread has guards of an object, only calls of this object touch the header. -/
theorem Happens.header_aside {id : Nat} {t : Thread} (hexclusive : x.Exclusive)
    (halive : caller ∉ x.dead) (h : Happens x caller move answer y) (hlock : x.HasLock id t)
    (haside : ∀ call, move ≠ .call id call) : y.header = x.header := by
  have hlooked {book : LockBook} {s' : Site} (hy : y.header = Memory.load s'.memory)
      (hsite : (x.site caller book).Still s' ∨ ∃ gpu, (x.site caller book).Restarted gpu s') :
      y.header = x.header := by
    rcases hsite with hstill | ⟨gpu, hrestarted⟩
    · exact hy.trans (congrArg Memory.load hstill.memory)
    · exact absurd hlock (hexclusive.not_hasLock hrestarted.nobody id t)
  cases h with
  | called hclient hguard heffect =>
    have hne {other : Nat} {call : Call} (hcall : ∀ what, Move.call other call ≠ .call id what) :
        id ≠ other := fun heq => hcall call (by rw [heq])
    exact load_other hexclusive halive hclient hguard heffect (hne haside) hlock
  | attached _ hrestarted => exact hlooked rfl (.inr ⟨_, hrestarted⟩)
  | notAttached _ hsite => exact hlooked rfl (hsite.imp_right fun h => ⟨_, h⟩)
  | openedReader => rfl
  | openedCached => rfl
  | closed _ _ _ hsite => exact hlooked rfl (hsite.imp_right fun h => ⟨_, h⟩)
  | died => rfl
  | elapsed => rfl

/-- An object with guards that a step does not use is as it was. -/
theorem Happens.client_aside {id : Nat} {c : Client} (h : Happens x caller move answer y)
    (hclient : x.clients.get? id = some c) (hdepth : 0 < c.book.depth)
    (haside : ∀ call, move ≠ .call id call) : y.clients.get? id = some c := by
  have hput {z : Exchange} {other : Nat} {c' : Client} (hclients : z.clients = x.clients)
      (hne : other ≠ id) : (z.put other c').clients.get? id = some c := by
    rw [put, Table.get?_insert, if_neg hne, hclients]
    exact hclient
  have hfree {other : Nat} (hnone : x.clients.get? other = none) : other ≠ id := by
    rintro rfl
    rw [hclient] at hnone
    cases hnone
  cases h with
  | called =>
    refine hput rfl ?_
    rintro rfl
    exact haside _ rfl
  | attached hnone => exact hput rfl (hfree hnone)
  | notAttached => exact hclient
  | openedReader _ hnone => exact hput rfl (hfree hnone)
  | openedCached _ hnone => exact hput rfl (hfree hnone)
  | @closed other _ _ _ hother hzero =>
    have hne : other ≠ id := by
      rintro rfl
      rw [hclient] at hother
      cases hother
      exact absurd hzero (Nat.pos_iff_ne_zero.mp hdepth)
    rw [leave, Table.get?_erase, if_neg hne]
    exact hclient
  | died => exact hclient
  | elapsed => exact hclient

/-- The dead stay dead. -/
theorem Happens.living {t : Thread} (h : Happens x caller move answer y) (hliving : t ∉ y.dead) :
    t ∉ x.dead := by
  cases h with
  | died =>
    intro hdead
    exact hliving (List.mem_cons_of_mem _ hdead)
  | _ => exact hliving

/-- A frame that is begun after a call of its object is the next one. -/
theorem begun_self {id : Nat} {c : Client} {call : Call} {s' : Site} {t : Thread}
    {next : NextFrame} (hsound : x.Sound) (hclient : x.clients.get? id = some c)
    (heffect : Effect c (x.site caller c.book) call answer s')
    (hholder : s'.book.holder = some t) (hliving : t ∉ x.dead)
    (htoken : c.tokenAfter call answer s'.book = some next)
    (hy : y.header = Memory.load s'.memory) :
    next.slot = y.header.nextSlot ∧
      next.fenceValue = y.header.fenceValue y.header.nextSlot := by
  obtain ⟨hdepth, ⟨hcall, hanswer⟩ | ⟨hbefore, hsubmit, hbegin⟩⟩ :=
    Client.tokenAfter_eq_some htoken
  · subst hcall hanswer
    cases heffect with
    | still _ hnever => exact absurd rfl (hnever next)
    | recovered _ hnever => exact absurd rfl (hnever next)
    | begun =>
      have hraised : y.header = x.header.raise x.header.nextSlot :=
        hy.trans (Memory.load_raiseFence _ hsound.length)
      rw [hraised]
      refine ⟨rfl, ?_⟩
      show x.header.fenceValue x.header.nextSlot + 1 =
        (x.header.raise x.header.nextSlot).fenceValue x.header.nextSlot
      rw [Header.fenceValue_raise, if_pos rfl]
  · -- it was begun before, so the machine is where a frame is in progress
    have hworking := (hsound.settled id c hclient).begun
      (by rw [hbefore]; exact fun h => by cases h)
    have hkept (hmemory : s'.memory = x.memory) (hbook : s'.book.holder = c.book.holder) :=
      hsound.begun_of_eq hclient (hbook ▸ hholder) hliving hbefore
        (hy.trans (congrArg Memory.load hmemory))
    cases heffect with
    | still _ _ hstill => exact hkept hstill.memory (by rw [hstill.book]; rfl)
    | recovered _ _ hrestarted =>
      rw [hrestarted.book] at hholder
      exact (hsound.exclusive.not_hasLock hrestarted.nobody id t
        ⟨c, hclient, hholder, hliving⟩).elim
    | nested => exact hkept rfl rfl
    | gained hready => exact absurd hready.depth (Nat.pos_iff_ne_zero.mp hworking.1)
    | inherited hready => exact absurd hready.depth (Nat.pos_iff_ne_zero.mp hworking.1)
    | inner => exact hkept rfl rfl
    | freed => cases hholder
    | kept => cases hholder
    | refused => cases hholder
    | begun => exact absurd rfl (hbegin rfl _)
    | submitted => exact absurd rfl (hsubmit _)
    | emptied _ hphase => exact absurd (hphase.symm.trans hworking.2) (by decide)
    | detached _ hphase => exact absurd (hphase.symm.trans hworking.2) (by decide)

/-- Frames that were begun stay the next ones. -/
theorem Happens.begun (hsound : x.Sound) (halive : caller ∉ x.dead)
    (h : Happens x caller move answer y) (id : Nat) (c : Client) (t : Thread) (next : NextFrame)
    (hclient : y.clients.get? id = some c) (hholder : c.book.holder = some t)
    (hliving : t ∉ y.dead) (htoken : c.token = some next) :
    next.slot = y.header.nextSlot ∧
      next.fenceValue = y.header.fenceValue y.header.nextSlot := by
  have hbefore := h.living hliving
  cases h.comes hclient with
  | kept hkept haside =>
    have hlock : x.HasLock id t := ⟨c, hkept, hholder, hbefore⟩
    exact hsound.begun_of_eq hkept hholder hbefore htoken
      (h.header_aside hsound.exclusive halive hlock haside)
  | called _ hclient' _ heffect _ hmemory =>
    exact begun_self hsound hclient' heffect hholder hbefore htoken (congrArg Memory.load hmemory)
  | attached => cases htoken
  | openedReader => cases htoken
  | openedCached => cases htoken

/-- Every step keeps the invariant. -/
theorem Sound.step (hsound : x.Sound) (h : x.step caller move = some (answer, y)) : y.Sound := by
  obtain ⟨halive, hhappens⟩ := happens hsound.settled hsound.length h
  have hrewrites := hhappens.rewrites hsound.length
  constructor
  case length => rw [hhappens.length]; exact hsound.length
  case exclusive => exact hsound.exclusive.step (hhappens.relocks hsound.exclusive halive)
  case settled => exact hhappens.settled hsound.settled
  case trusted => exact hrewrites.trusted hsound.trusted
  case magic =>
    intro id c w hclient hbody
    rcases hhappens.writer hsound.length hclient hbody with ⟨id', c', w', hbefore, hbody'⟩ | hmagic
    · exact hrewrites.magic (hsound.magic id' c' w' hbefore hbody')
    · exact hmagic
  case begun => exact hhappens.begun hsound halive

/-- Zeroed memory is no header of a feeder. -/
theorem hasFeeder_zeros : (Memory.load (Bytes.zeros Header.byteSize)).hasFeeder = false := by
  decide +kernel

theorem Sound.start (names : RegionNames) (host : Host) : (start names host).Sound where
  length := by
    show Header.byteSize ≤ (Bytes.zeros Header.byteSize).length
    decide +kernel
  exclusive :=
    { checked := rfl
      owned := fun _ _ ⟨_, hclient, _⟩ => by cases hclient
      single := fun _ _ _ ⟨_, hclient, _⟩ => by cases hclient }
  settled := fun _ _ hclient => by cases hclient
  trusted := fun hfeeder => absurd hfeeder (by rw [header, Exchange.start, hasFeeder_zeros]; decide)
  magic := fun _ _ _ hclient => by cases hclient
  begun := fun _ _ _ _ hclient => by cases hclient

end Exchange

/-- The invariant holds along a run. -/
theorem Run.sound {x y : Exchange} {deeds : List Deed} (hrun : Run x deeds y) (hsound : x.Sound) :
    y.Sound := by
  induction hrun with
  | nil => exact hsound
  | snoc _ hvalid ih => exact ih.step hvalid

/-- The invariant holds in every state that can be reached. -/
theorem Reachable.sound {x : Exchange} (h : Reachable x) : x.Sound := by
  obtain ⟨names, host, deeds, hrun⟩ := h
  exact hrun.sound (.start names host)

end FrameExchange
