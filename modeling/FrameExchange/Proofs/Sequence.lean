import FrameExchange.Proofs.Playing

/-!
# Several calls in a row

Some operations take a guard for themselves, do something under it and give it back. In the exchange
that is a run of calls of one thread with one object.

- `Exchange.Through`, `Exchange.Through.next` — calls with one object, and one more of them.
- `Exchange.Made` — an operation that is made of calls under a guard.
- `Exchange.Ordered.underLock` — such an operation under a guard of its own.
- `World.Mirrors.underLock` — the same as a command.
-/

namespace FrameExchange

/-! ## What comes of an operation -/

/-- A call leaves the site to the thread that has made it. -/
theorem Client.site_after {c : Client} {s s' : Site} {call : Call} {answer : Answer}
    (heffect : Effect c s call answer s') : s'.caller = s.caller ∧ s'.names = s.names := by
  cases heffect with
  | still _ _ hstill =>
    rw [hstill.rest]
    exact ⟨rfl, rfl⟩
  | recovered _ _ hrestarted => exact ⟨hrestarted.renewed.caller, hrestarted.renewed.names⟩
  | inherited _ _ hrenewed => exact ⟨hrenewed.caller, hrenewed.names⟩
  | detached _ _ hrenewed => exact ⟨hrenewed.caller, hrenewed.names⟩
  | _ => exact ⟨rfl, rfl⟩

/-- What an operation comes to, and the site that it leaves. -/
inductive Act.Leads {α : Type} (operation : Act α) (s : Site) : Except Failure α → Site → Prop where
  | ok {a : α} {s' : Site} : operation s = .ok a s' → Leads operation s (.ok a) s'
  | error {failure : Failure} {s' : Site} : operation s = .error failure s' →
      Leads operation s (.error failure) s'

/-- What has come to an answer fails if its guard does. -/
theorem Act.guarded_unreleased {α : Type} {body : Act α} {s s' s'' : Site} {a : α}
    {failure : Failure} (hbody : body s = .ok a s')
    (hrelease : Act.release false s' = .error failure s'') :
    Act.guarded body s = .error failure s'' := by
  rw [Act.guarded, Act.bind_ok (Act.attempt_ok hbody)]
  show (Act.release false >>= _) s' = _
  rw [Act.bind_error hrelease]

namespace Act.Leads

variable {α : Type} {operation : Act α} {s s' t : Site} {outcome : Except Failure α}

theorem exists_leads (operation : Act α) (s : Site) :
    ∃ outcome s', operation.Leads s outcome s' := by
  cases hresult : operation s with
  | ok a s' => exact ⟨_, s', .ok hresult⟩
  | error failure s' => exact ⟨_, s', .error hresult⟩

theorem of_ok {a : α} (h : operation.Leads s outcome s') (hresult : operation s = .ok a t) :
    outcome = .ok a ∧ s' = t := by
  cases h with
  | ok heq =>
    cases hresult.symm.trans heq
    exact ⟨rfl, rfl⟩
  | error heq => cases hresult.symm.trans heq

theorem of_error {failure : Failure} (h : operation.Leads s outcome s')
    (hresult : operation s = .error failure t) : outcome = .error failure ∧ s' = t := by
  cases h with
  | ok heq => cases hresult.symm.trans heq
  | error heq =>
    cases hresult.symm.trans heq
    exact ⟨rfl, rfl⟩

end Act.Leads

/-- The answer that is made of what an operation comes to. -/
def Answer.of {α : Type} (f : α → Answer) : Except Failure α → Answer
  | .ok a => f a
  | .error failure => .failed failure

/-- An object that has its guards as before, if not more, and the same frame under them. -/
structure Client.Retains (c c' : Client) : Prop where
  body : c'.body = c.body
  depth : c.book.depth ≤ c'.book.depth
  holder : 0 < c.book.depth → c'.book.holder = c.book.holder
  token : 0 < c.book.depth → c'.token = c.token

/-! ## Calls of one object -/

namespace Exchange

/-- Steps that a thread has made with one object: the object and its site afterwards, and the
exchange, which has changed with them. -/
structure Through (x : Exchange) (caller : Thread) (n : Nat) (deeds : List Deed) (c : Client)
    (s : Site) (y : Exchange) : Prop where
  run : Run x deeds y
  thread : ∀ d ∈ deeds, d.thread = caller
  ordered : y.Ordered
  client : y.clients.get? n = some c
  same : y = (x.leave s).put n c
  site : y.site caller c.book = s

variable {x y z : Exchange} {caller : Thread} {n : Nat} {deeds : List Deed} {c : Client}
  {s s' : Site} {call : Call} {answer : Answer} {α : Type} {operation : Act α} {f : α → Answer}
  {outcome : Except Failure α}

theorem Through.nil (hordered : x.Ordered) (hclient : x.clients.get? n = some c) :
    Through x caller n [] c (x.site caller c.book) x := by
  refine ⟨.nil, by simp, hordered, hclient, ?_, rfl⟩
  show x = { x with clients := x.clients.insert n c }
  rw [Table.insert_self hclient]

/-- An operation that is a call has one of the effects of the call. -/
theorem Through.effect (h : Through x caller n deeds c s y)
    (hoperation : c.operation call = some (Act.answering c.body operation f))
    (hleads : operation.Leads s outcome s') : Effect c s call (.of f outcome) s' := by
  have hbook : s.book = c.book := by rw [← h.site]; rfl
  have hlen : Header.byteSize ≤ s.memory.length := by
    rw [← h.site]
    exact h.ordered.length
  have heffects := Client.effects (h.ordered.settled n c h.client) hbook hlen hoperation
  cases hleads with
  | ok hok =>
    rw [Act.answering_ok hok] at heffects
    cases heffects with
    | ok heffect => exact heffect
  | error herror =>
    rw [Act.answering, Act.bind_error herror] at heffects
    cases heffects with
    | error heffect => exact heffect

/-- One more step. -/
theorem Through.next (h : Through x caller n deeds c s y) (halive : caller ∉ x.dead)
    (hguard : call.underGuard = true → c.GuardOf caller)
    (hoperation : c.operation call = some (Act.answering c.body operation f))
    (hleads : operation.Leads s outcome s') (hwaits : outcome ≠ .error .blocked) : ∃ z,
      y.step caller (.call n call) = some (.of f outcome, z) ∧
        Through x caller n (deeds ++ [⟨y, caller, .call n call, .of f outcome, z⟩])
          ⟨c.body, s'.book, c.tokenAfter call (.of f outcome) s'.book⟩ s' z := by
  have halive' : caller ∉ y.dead := by
    rw [h.same]
    exact halive
  have hstep : y.step caller (.call n call) = some (.of f outcome,
      (y.leave s').put n ⟨c.body, s'.book, c.tokenAfter call (.of f outcome) s'.book⟩) := by
    rw [step, if_neg halive']
    show y.call caller n call = _
    rw [call_eq_settle h.client hguard hoperation, h.site]
    cases hleads with
    | ok hok =>
      rw [Act.answering_ok hok]
      rfl
    | error herror =>
      rw [Act.answering, Act.bind_error herror,
        settle_error fun heq => hwaits (congrArg Except.error heq)]
      rfl
  refine ⟨_, hstep, h.run.snoc (d := ⟨y, caller, .call n call, .of f outcome, _⟩) hstep, ?_,
    h.ordered.step hstep, ?_, ?_, ?_⟩
  · intro d hmem
    rcases List.mem_append.mp hmem with hbefore | hlast
    · exact h.thread d hbefore
    · rw [List.mem_singleton.mp hlast]
  · rw [get?_put, if_pos rfl]
  · rw [h.same]
    exact congrArg (fun clients => { x.leave s' with clients })
      (Table.insert_insert x.clients n c _)
  · obtain ⟨hcaller, hnames⟩ := Client.site_after (h.effect hoperation hleads)
    have hnames' : s.names = y.names := by rw [← h.site]; rfl
    have hcaller' : s.caller = caller := by rw [← h.site]; rfl
    obtain ⟨caller', names, book, memory, mutex, host⟩ := s'
    dsimp only at hcaller hnames
    rw [hcaller, hcaller', hnames, hnames']
    rfl

/-- The guards of the object after a step that took none and gave none back. -/
theorem Through.remains (h : Through x caller n deeds c s y)
    (hoperation : c.operation call = some (Act.answering c.body operation f))
    (hleads : operation.Leads s outcome s') (hguards : call.keepsGuards = true) :
    c.book.depth ≤ s'.book.depth ∧ (0 < c.book.depth → s'.book.holder = c.book.holder) := by
  have hbook : s.book = c.book := by rw [← h.site]; rfl
  have hlock (mode : LockMode) : call ≠ .lock mode := by
    rintro rfl
    cases hguards
  have hremains := Client.remains (h.effect hoperation hleads) hlock
  rw [hbook] at hremains
  have hdepth := hremains.depth hguards
  exact ⟨hdepth, fun hpos => hremains.2 hpos (by omega)⟩

/-! ## Operations under a guard -/

/-- Under a guard an operation is made of calls that keep the guards and the frame, and one of them
has the answer that is meant by the reply. -/
def Made (x : Exchange) (caller : Thread) (n : Nat) (body : Body) (operation : Act α)
    (ok : α → Reply) : Prop :=
  ∀ deeds c s y, x.Through caller n deeds c s y → c.body = body → c.GuardOf caller →
    ∀ outcome s', operation.Leads s outcome s' → outcome ≠ .error .blocked → ∃ more c' z,
      x.Through caller n (deeds ++ more) c' s' z ∧ c.Retains c' ∧
        ∃ d ∈ more, (World.answer ok outcome).Means d.answer

theorem means_of {ok : α → Reply} (hmeans : ∀ a, (ok a).Means (f a)) (outcome : Except Failure α) :
    (World.answer ok outcome).Means (.of f outcome) := by
  cases outcome with
  | ok a => exact hmeans a
  | error failure => exact .failed failure

theorem made_call {body : Body} {ok : α → Reply} (call : Call) (halive : caller ∉ x.dead)
    (hoperation : ∀ book token, (⟨body, book, token⟩ : Client).operation call =
      some (Act.answering body operation f)) (hmeans : ∀ a, (ok a).Means (f a))
    (hframe : call.keepsFrame = true) (hguards : call.keepsGuards = true) :
    x.Made caller n body operation ok := by
  intro deeds c s y h hbody hguard outcome s' hleads hwaits
  have hcalled : c.operation call = some (Act.answering c.body operation f) := by
    subst hbody
    exact hoperation c.book c.token
  obtain ⟨z, -, hthrough⟩ := h.next halive (fun _ => hguard) hcalled hleads hwaits
  obtain ⟨hdepth, hholder⟩ := h.remains hcalled hleads hguards
  exact ⟨_, _, z, hthrough, ⟨rfl, hdepth, hholder, fun hpos =>
    Client.tokenAfter_eq hframe (Nat.lt_of_lt_of_le hpos hdepth)⟩, _, List.mem_singleton_self _,
    means_of hmeans outcome⟩

/-- A frame is begun and used up at once. -/
theorem made_frame {writer : Writer} {last : NextFrame → Act Unit} {g : NextFrame → α}
    {ok : α → Reply} (call : Call) (halive : caller ∉ x.dead) (hguards : call.keepsGuards = true)
    (hgone : ∀ (c : Client) answer book, c.tokenAfter call answer book = none)
    (hlast : ∀ book next, (⟨.writer writer, book, some next⟩ : Client).operation call =
      some (Act.answering (.writer writer) (last next) fun _ => .done))
    (hmeans : ∀ next, (ok (g next)).Means (.next next) ∨ (ok (g next)).Means .done) :
    x.Made caller n (.writer writer) (do
      let next ← Writer.beginFrame
      last next
      return g next) ok := by
  intro deeds c s y h hbody hguard outcome s' hleads hwaits
  have hbegin : c.operation .beginFrame = some (Act.answering c.body Writer.beginFrame .next) := by
    rw [Client.operation, hbody]
  obtain ⟨first, s₁, hfirst⟩ := Act.Leads.exists_leads Writer.beginFrame s
  obtain ⟨hdepth, hholder⟩ := h.remains hbegin hfirst rfl
  have hpos : 0 < s₁.book.depth := Nat.lt_of_lt_of_le hguard.1 hdepth
  cases hfirst with
  | error herror =>
    obtain ⟨rfl, rfl⟩ := hleads.of_error (Act.bind_error herror)
    obtain ⟨z, -, hthrough⟩ := h.next halive (fun _ => hguard) hbegin (.error herror)
      fun hblocked => hwaits (by cases hblocked; rfl)
    exact ⟨_, _, z, hthrough, ⟨rfl, hdepth, hholder, fun _ => if_neg (Nat.ne_of_gt hpos)⟩, _,
      List.mem_singleton_self _, .failed _⟩
  | @ok next _ hok =>
    obtain ⟨y₁, hstep, h₁⟩ := h.next halive (fun _ => hguard) hbegin (.ok hok) (by rintro ⟨⟩)
    have hnone : c.token = none := World.begun_next h.ordered h.client hstep
    have htoken : c.tokenAfter .beginFrame (.next next) s₁.book = some next :=
      if_neg (Nat.ne_of_gt hpos)
    have hcalled : (⟨c.body, s₁.book, c.tokenAfter .beginFrame (.next next) s₁.book⟩ :
        Client).operation call = some (Act.answering c.body (last next) fun _ => .done) := by
      rw [hbody, htoken]
      exact hlast s₁.book next
    obtain ⟨second, s₂, hsecond⟩ := Act.Leads.exists_leads (last next) s₁
    obtain ⟨hdepth', hholder'⟩ := h₁.remains hcalled hsecond hguards
    have hretains (answer : Answer) : c.Retains ⟨c.body, s₂.book, Client.tokenAfter
        ⟨c.body, s₁.book, c.tokenAfter .beginFrame (.next next) s₁.book⟩ call answer s₂.book⟩ :=
      ⟨rfl, hdepth.trans hdepth', fun hpos' => (hholder' hpos).trans (hholder hpos'),
        fun _ => (hgone ..).trans hnone.symm⟩
    have hguard₁ : call.underGuard = true → Client.GuardOf
        ⟨c.body, s₁.book, c.tokenAfter .beginFrame (.next next) s₁.book⟩ caller :=
      fun _ => ⟨hpos, (hholder hguard.1).trans hguard.2⟩
    cases hsecond with
    | error herror =>
      obtain ⟨rfl, rfl⟩ := hleads.of_error ((Act.bind_ok hok).trans (Act.bind_error herror))
      obtain ⟨z, -, hthrough⟩ := h₁.next halive hguard₁ hcalled (.error herror)
        fun hblocked => hwaits (by cases hblocked; rfl)
      rw [List.append_assoc] at hthrough
      exact ⟨_, _, z, hthrough, hretains _, _,
        List.mem_cons_of_mem _ (List.mem_singleton_self _), .failed _⟩
    | ok hdone =>
      obtain ⟨rfl, rfl⟩ := hleads.of_ok ((Act.bind_ok hok).trans (Act.bind_ok hdone))
      obtain ⟨z, -, hthrough⟩ := h₁.next halive hguard₁ hcalled (.ok hdone) (by rintro ⟨⟩)
      rw [List.append_assoc] at hthrough
      refine ⟨_, _, z, hthrough, hretains _, ?_⟩
      rcases hmeans next with hnext | hdone'
      · exact ⟨_, List.mem_cons_self, hnext⟩
      · exact ⟨_, List.mem_cons_of_mem _ (List.mem_singleton_self _), hdone'⟩

/-- A guard that goes may fail, but nobody waits for it. -/
theorem release_ne_blocked {unwinding : Bool} {outcome : Except Failure Unit}
    (hleads : (Act.release unwinding).Leads s outcome s') : outcome ≠ .error .blocked := by
  rintro rfl
  have hreleases := Act.releases unwinding s
  cases hleads with
  | error herror =>
    rw [herror] at hreleases
    cases hreleases

/-- The guard that was taken first is given back last, and the others are as before. -/
theorem Through.released {unwinding : Bool} {c₀ c₁ : Client} (h : Through x caller n deeds c s y)
    (halive : caller ∉ x.dead) (hdepth : c₁.book.depth = c₀.book.depth + 1)
    (hholder : c₁.book.holder = some caller)
    (hmine : 0 < c₀.book.depth → c₀.book.holder = some caller) (hbody : c₁.body = c₀.body)
    (htoken : c₁.token = c₀.token) (hretains : c₁.Retains c) :
    ∃ outcome s' d c' z, (Act.release unwinding).Leads s outcome s' ∧
      d.answer = .of (fun _ => .done) outcome ∧
      Through x caller n (deeds ++ [d]) c' s' z ∧ c₀.Retains c' := by
  have hpos : 0 < c₁.book.depth := by omega
  have hguard : c.GuardOf caller :=
    ⟨Nat.lt_of_lt_of_le hpos hretains.depth, (hretains.holder hpos).trans hholder⟩
  have hoperation : c.operation (.release unwinding) =
      some (Act.answering c.body (Act.release unwinding) fun _ => .done) := rfl
  obtain ⟨outcome, s', hleads⟩ := Act.Leads.exists_leads (Act.release unwinding) s
  obtain ⟨z, -, hthrough⟩ :=
    h.next halive (fun _ => hguard) hoperation hleads (release_ne_blocked hleads)
  have hremains := Client.remains (h.effect hoperation hleads) fun mode heq => by cases heq
  rw [show s.book = c.book by rw [← h.site]; rfl] at hremains
  have hless : c.book.depth ≤ s'.book.depth + 1 := hremains.1
  have hdepth' : c₀.book.depth ≤ s'.book.depth := by
    have := hretains.depth
    omega
  refine ⟨outcome, s', _, _, z, hleads, rfl, hthrough, hretains.body.trans hbody, hdepth',
    fun hbefore => ?_, fun hbefore => ?_⟩
  · exact (hremains.2 hguard.1 (by omega)).trans (hguard.2.trans (hmine hbefore).symm)
  · have hsame :
        c.tokenAfter (.release unwinding) (.of (fun _ => .done) outcome) s'.book = c.token :=
      Client.tokenAfter_eq rfl (by omega)
    exact hsame.trans ((hretains.token hpos).trans htoken)

/-- An operation under a guard of its own is made of the call that takes the guard, its own calls,
and the one that gives the guard back. -/
theorem Ordered.underLock {mode : LockMode} {lock : Act Acquired} {operation : Act α}
    {ok : α → Reply} {outcome : Except Failure (Option α)} (hordered : x.Ordered)
    (halive : caller ∉ x.dead) (hclient : x.clients.get? n = some c)
    (hlock : c.operation (.lock mode) = some (Act.answering c.body lock .ofAcquired))
    (hmade : x.Made caller n c.body operation ok)
    (hleads : (Act.underLock lock operation).Leads (x.site caller c.book) outcome s')
    (hwaits : outcome ≠ .error .blocked) : ∃ deeds c' y, x.Through caller n deeds c' s' y ∧
      c.Retains c' ∧ ∃ d ∈ deeds, (World.answerUnlessBusy ok outcome).Means d.answer := by
  have h : x.Through caller n [] c (x.site caller c.book) x := .nil hordered hclient
  have hnoguard : (Call.lock mode).underGuard = true → c.GuardOf caller :=
    fun hunder => by cases hunder
  -- without the lock the object is what it was
  have hrefused {answer : Answer} {s₁ : Site} {y₁ : Exchange}
      (hnever : ∀ abandoned, answer ≠ .locked abandoned)
      (hstep : x.step caller (.call n (.lock mode)) = some (answer, y₁))
      (hafter : y₁.clients.get? n =
        some ⟨c.body, s₁.book, c.tokenAfter (.lock mode) answer s₁.book⟩) :
      c.Retains ⟨c.body, s₁.book, c.tokenAfter (.lock mode) answer s₁.book⟩ := by
    have hbook : s₁.book = c.book := book_of_refused hclient hnever hstep hafter
    have hsame (hpos : 0 < c.book.depth) : c.tokenAfter (.lock mode) answer c.book = c.token :=
      Client.tokenAfter_eq rfl hpos
    rw [hbook]
    exact ⟨rfl, Nat.le_refl _, fun _ => rfl, hsame⟩
  obtain ⟨first, s₁, hfirst⟩ := Act.Leads.exists_leads lock (x.site caller c.book)
  cases hfirst with
  | error herror =>
    obtain ⟨rfl, rfl⟩ := hleads.of_error (Act.bind_error herror)
    obtain ⟨y₁, hstep, h₁⟩ := h.next halive hnoguard hlock (.error herror)
      fun hblocked => hwaits (by cases hblocked; rfl)
    exact ⟨_, _, y₁, h₁, hrefused (by rintro a ⟨⟩) hstep h₁.client, _, List.mem_singleton_self _,
      .failed _⟩
  | @ok acquired _ hok =>
    obtain ⟨y₁, hstep, h₁⟩ := h.next halive hnoguard hlock (.ok hok) (by rintro ⟨⟩)
    cases acquired with
    | busy =>
      obtain ⟨rfl, rfl⟩ := hleads.of_ok (Act.bind_ok hok)
      exact ⟨_, _, y₁, h₁, hrefused (by rintro a ⟨⟩) hstep h₁.client, _, List.mem_singleton_self _,
        .busy⟩
    | held abandoned =>
      obtain ⟨hdepth, hholder, hmine⟩ := hordered.locked hclient hstep h₁.client
      replace hdepth : s₁.book.depth = c.book.depth + 1 := hdepth
      have htoken : c.tokenAfter (.lock mode) (.locked abandoned) s₁.book = c.token :=
        Client.tokenAfter_eq rfl (by omega)
      have hguard₁ : Client.GuardOf
          ⟨c.body, s₁.book, c.tokenAfter (.lock mode) (.locked abandoned) s₁.book⟩ caller :=
        ⟨Nat.lt_of_lt_of_le (Nat.succ_pos _) hdepth.ge, hholder⟩
      obtain ⟨second, s₂, hsecond⟩ := Act.Leads.exists_leads operation s₁
      cases hsecond with
      | @error failure _ herror =>
        have hfails {third : Except Failure Unit} {s₃ : Site}
            (hthird : (Act.release (Act.unwinds failure)).Leads s₂ third s₃) :
            outcome = .error failure ∧ s' = s₃ := by
          have hattempt : Act.attempt (Act.release (Act.unwinds failure)) s₂ = .ok third s₃ := by
            cases hthird with
            | ok hreleased => exact Act.attempt_ok hreleased
            | error hfailed => exact Act.attempt_error hfailed
          exact hleads.of_error ((Act.bind_ok hok).trans
            (Act.bind_error (Act.guarded_error herror hattempt)))
        obtain ⟨_, _, hthird⟩ :=
          Act.Leads.exists_leads (Act.release (Act.unwinds failure)) s₂
        obtain ⟨rfl, -⟩ := hfails hthird
        obtain ⟨more, c₂, y₂, h₂, hretains, d, hmem, hmeans⟩ :=
          hmade _ _ _ _ h₁ rfl hguard₁ _ s₂ (.error herror)
            fun hblocked => hwaits (by cases hblocked; rfl)
        obtain ⟨_, s₃, _, c₃, y₃, hthird', -, h₃, hretains'⟩ :=
          h₂.released halive hdepth hholder hmine rfl htoken hretains
        obtain ⟨-, rfl⟩ := hfails hthird'
        exact ⟨_, c₃, y₃, h₃, hretains', d, by simp [hmem], hmeans⟩
      | ok hdone =>
        obtain ⟨more, c₂, y₂, h₂, hretains, d, hmem, hmeans⟩ :=
          hmade _ _ _ _ h₁ rfl hguard₁ _ s₂ (.ok hdone) (by rintro ⟨⟩)
        obtain ⟨_, s₃, d₃, c₃, y₃, hthird, hanswer, h₃, hretains'⟩ :=
          h₂.released halive hdepth hholder hmine rfl htoken hretains
        cases hthird with
        | ok hreleased =>
          obtain ⟨rfl, rfl⟩ := hleads.of_ok ((Act.bind_ok hok).trans
            (Act.bind_ok (Act.guarded_ok hdone hreleased)))
          exact ⟨_, c₃, y₃, h₃, hretains', d, by simp [hmem], hmeans⟩
        | @error failure _ hfailed =>
          obtain ⟨rfl, rfl⟩ := hleads.of_error ((Act.bind_ok hok).trans
            (Act.bind_error (Act.guarded_unreleased hdone hfailed)))
          refine ⟨_, c₃, y₃, h₃, hretains', d₃, by simp, ?_⟩
          rw [hanswer]
          exact .failed failure

end Exchange

/-! ## Commands -/

namespace World

variable {w w' : World} {r : OpenRegion} {number : String → Nat} {x : Exchange} {caller : Thread}
  {id : String} {o : Object} {c c' : Client} {reply : Reply} {α : Type}

theorem Kept.retained {guards : Table String Guard} {tokens : Table String FrameToken}
    (h : Kept guards tokens id c.book c.token) (hretains : c.Retains c') :
    Kept guards tokens id c'.book c'.token :=
  (h.retoken hretains.token).rebook hretains.depth hretains.holder

/-- A command that takes a guard for one operation, which is made of calls. -/
theorem Mirrors.underLock {mode : LockMode} {lock : Act Acquired} {operation : Act α}
    {ok : α → Reply} (h : w.Mirrors r number x) (halive : caller ∉ x.dead)
    (hobject : w.objects.get? id = some o) (hclient : x.clients.get? (number id) = some c)
    (hlikens : w.Likens id o c)
    (hlock : c.operation (.lock mode) = some (Act.answering c.body lock .ofAcquired))
    (hmade : x.Made caller (number id) c.body operation ok)
    (hplay : (do return answerUnlessBusy ok (← act caller id o (Act.underLock lock operation)) :
      Play Reply) w = (reply, w')) (hended : reply ≠ .failed .blocked) :
    Played r x caller reply w' := by
  have hregion := (h.objects id o hobject).1
  have hexchange (s : System) : s.exchange o.region x.clients x.dead =
      s.exchange r x.clients x.dead := by
    rw [hregion]
    rfl
  have hhere : w.system.exchange o.region x.clients x.dead = x := (hexchange _).trans h.exchange
  have hne : o.region.mapping ≠ o.region.lock := by
    rw [hregion]
    exact h.found.apart
  have hsite : w.system.site caller o.region = x.site caller c.book := by
    rw [hlikens.book, ← hhere]
    rfl
  obtain ⟨outcome, s', hleads⟩ :=
    Act.Leads.exists_leads (Act.underLock lock operation) (x.site caller c.book)
  have hact : act caller id o (Act.underLock lock operation) w = (outcome, w.left id o s') := by
    rw [act_apply, hsite]
    cases hleads with
    | ok hok => rw [hok]
    | error herror => rw [herror]
  rw [bind_apply, hact] at hplay
  cases hplay
  obtain ⟨deeds, c', y, hthrough, hretains, hmeans⟩ :=
    h.ordered.underLock halive hclient hlock hmade hleads
      fun hblocked => hended (by rw [hblocked]; rfl)
  have hbook : c'.book = s'.book := by
    rw [← hthrough.site]
    rfl
  have hleave : x.leave s' = (w.system.leave o.region s').exchange r x.clients x.dead := by
    rw [← hexchange, System.exchange_leave x.clients x.dead hne, hhere]
  have hputs : w.Puts id { o with region := { o.region with book := s'.book } } c'.token
      (w.left id o s') := by
    refine ⟨objects_left hobject s', h.distinct.2, ?_, fun _ _ _ _ hkept => hkept⟩
    show Kept w.guards w.tokens id s'.book c'.token
    rw [← hbook]
    exact hlikens.kept.retained hretains
  refine ⟨number, deeds, y, hthrough.run, ?_, ⟨hthrough.thread, .inr hmeans⟩,
    h.placed hputs hthrough.ordered ?_ ?_ ?_ ?_
      fun id' o' hobject' heq => h.apart id' id o' o hobject' hobject heq⟩
  · rw [hthrough.same]
    rfl
  · exact h.found.leave (by rw [hregion]) (by rw [hregion]) s'
  · rw [hthrough.same, hleave]
    rfl
  · rw [hthrough.same, ← hbook, ← hlikens.body, ← hretains.body]
    rfl
  · dsimp only
    rw [hregion]

/-- The header, under a guard of its own. -/
theorem Mirrors.header {mode : LockMode} (h : w.Mirrors r number x) (halive : caller ∉ x.dead)
    (hreader : ∀ o, w.objects.get? id = some o → o.body.role = .reader)
    (hplay : header caller id mode w = (reply, w')) (hknown : reply ≠ .unknown)
    (hended : reply ≠ .failed .blocked) : Played r x caller reply w' := by
  obtain ⟨o, hobject, hplay⟩ := of_withObject hknown hplay
  obtain ⟨-, c, hclient, hlikens⟩ := h.objects id o hobject
  have hrole : c.body.role = .reader := by
    rw [hlikens.body, Body.role_unnumbered]
    exact hreader o hobject
  have hcalls : c.operation (.lock mode) =
      some (Act.answering c.body (Reader.lock mode) .ofAcquired) ∧
      ∀ book token, (⟨c.body, book, token⟩ : Client).operation .metadata =
        some (Act.answering c.body Reader.metadata .header) := by
    obtain ⟨body, book, token⟩ := c
    cases body with
    | writer writer => cases hrole
    | _ => exact ⟨rfl, fun _ _ => rfl⟩
  exact h.underLock halive hobject hclient hlikens hcalls.1
    (Exchange.made_call .metadata halive hcalls.2 .header rfl rfl) hplay hended

theorem of_withWriter {continue_ : Object → Writer → Play Reply} (hknown : reply ≠ .unknown)
    (hplay : withWriter id continue_ w = (reply, w')) : ∃ o writer,
      w.objects.get? id = some o ∧ o.body = .writer writer ∧
        continue_ o writer w = (reply, w') := by
  obtain ⟨o, hobject, hplay⟩ := of_withObject hknown hplay
  cases hbody : o.body with
  | writer writer =>
    rw [hbody] at hplay
    exact ⟨o, writer, hobject, hbody, hplay⟩
  | _ =>
    rw [hbody] at hplay
    exact absurd (congrArg Prod.fst hplay).symm hknown

/-- What a writer does under a guard of its own. -/
theorem Mirrors.onWriter {mode : LockMode} {operation : Writer → Act α} {ok : α → Reply}
    (h : w.Mirrors r number x) (halive : caller ∉ x.dead)
    (hmade : ∀ writer, x.Made caller (number id) (.writer writer) (operation writer) ok)
    (hplay : onWriter caller id ok (fun writer => writer.locked mode (operation writer)) w =
      (reply, w')) (hknown : reply ≠ .unknown) (hended : reply ≠ .failed .blocked) :
    Played r x caller reply w' := by
  obtain ⟨o, writer, hobject, hbody, hplay⟩ := of_withWriter hknown hplay
  obtain ⟨-, c, hclient, hlikens⟩ := h.objects id o hobject
  have hwriter : c.body = .writer writer := hlikens.body.trans (congrArg Body.unnumbered hbody)
  have hlock : c.operation (.lock mode) =
      some (Act.answering c.body (writer.lock mode) .ofAcquired) := by
    rw [Client.operation, hwriter]
  exact h.underLock halive hobject hclient hlikens hlock (hwriter ▸ hmade writer) hplay hended

/-- A frame under a guard of its own. -/
theorem Mirrors.publish {mode : LockMode} {frame : Frame} (h : w.Mirrors r number x)
    (halive : caller ∉ x.dead)
    (hplay : World.onWriter caller id .next (fun writer => writer.publish mode frame) w =
      (reply, w')) (hknown : reply ≠ .unknown) (hended : reply ≠ .failed .blocked) :
    Played r x caller reply w' := by
  refine h.onWriter halive (fun writer => ?_) hplay hknown hended
  exact Exchange.made_frame (.submit frame) halive rfl (by simp [Client.tokenAfter])
    (fun _ _ => rfl) fun next => .inl (.next next)

/-- A frame that is begun under a guard of its own, and dropped. -/
theorem Mirrors.beginOnly {mode : LockMode} (h : w.Mirrors r number x) (halive : caller ∉ x.dead)
    (hplay : World.onWriter caller id (fun _ => .submitted)
      (fun writer => writer.beginOnly mode) w = (reply, w')) (hknown : reply ≠ .unknown)
    (hended : reply ≠ .failed .blocked) :
    Played r x caller reply w' := by
  refine h.onWriter halive (fun writer => ?_) hplay hknown hended
  have hsame : (do Writer.abandon (← Writer.beginFrame) : Act Unit) = (do
      let next ← Writer.beginFrame
      Writer.abandon next
      return ()) := by
    simp only [bind_pure_unit]
  rw [hsame]
  refine Exchange.made_frame (g := fun _ => ()) .abandon halive rfl (by simp [Client.tokenAfter])
    (fun _ _ => rfl) fun next => .inr ?_
  exact .submitted

end World

end FrameExchange
