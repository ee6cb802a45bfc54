import FrameExchange.Proofs.Mirror

/-!
# Commands of an object

What a command does through an object that is open, its client does in the exchange that is like the
world, and the two are like each other again.

- `World.Played` — a command is a run of the exchange.
- `World.Mirrors.lock`, `World.Mirrors.unlock` — guards.
- `World.Mirrors.beginFrame`, `World.Mirrors.consume` — frames.
- `World.Mirrors.shows` — everything that shows a snapshot.
-/

namespace FrameExchange

/-- A reply that means the same as an answer. -/
inductive Reply.Means : Reply → Answer → Prop where
  | done : Means .done .done
  | closed : Means .closed .done
  | unlocked : Means .unlocked .done
  | submitted : Means .submitted .done
  | detached : Means .detached .done
  /-- To ask who was active takes a moment. -/
  | asked (seen within : List ConsumerKind) (same : Bool) :
      Means (.consumers seen within same) .done
  | busy : Means .busy .busy
  | writerLocked (abandoned : Bool) : Means .writerLocked (.locked abandoned)
  | readerLocked (abandoned : Bool) : Means (.readerLocked abandoned) (.locked abandoned)
  | header (h : Header) : Means (.header h) (.header h)
  | next (next : NextFrame) : Means (.next next) (.next next)
  | key (key : FrameKey) : Means (.key key) (.key key)
  | shown (shown : Shown) (calls : List CopierCall) :
      Means (.shown shown) (.shown shown.snapshot calls)
  | failed (failure : Failure) : Means (.failed failure) (.failed failure)

namespace World

variable {w w' : World} {r : OpenRegion} {number : String → Nat} {x y : Exchange}
  {caller : Thread} {id guard token : String} {o : Object} {c : Client} {call : Call}
  {reply : Reply} {α : Type}

/-- The steps that a thread has made for a command that replies like this. The exchange may have
seen nothing of it; else one of them has this answer. -/
def Tells (entry : Thread × Reply) (deeds : List Deed) : Prop :=
  (∀ d ∈ deeds, d.thread = entry.1) ∧ (deeds = [] ∨ ∃ d ∈ deeds, entry.2.Means d.answer)

/-- A command with this reply was a run of the exchange, which is like the world again. -/
def Played (r : OpenRegion) (x : Exchange) (caller : Thread) (reply : Reply) (w' : World) : Prop :=
  ∃ number deeds y, Run x deeds y ∧ y.dead = x.dead ∧ Tells (caller, reply) deeds ∧
    w'.Mirrors r number y

theorem Played.still (hmirrors : w'.Mirrors r number x) : Played r x caller reply w' :=
  ⟨number, [], x, .nil, rfl, ⟨by simp, .inl rfl⟩, hmirrors⟩

theorem tells_singleton {d : Deed} (hthread : d.thread = caller) (hmeans : reply.Means d.answer) :
    Tells (caller, reply) [d] :=
  ⟨fun _ hmem => List.mem_singleton.mp hmem ▸ hthread, .inr ⟨d, List.mem_singleton_self d, hmeans⟩⟩

theorem Played.step {move : Move} {answer : Answer} (hstep : x.step caller move = some (answer, y))
    (hdead : y.dead = x.dead) (hmeans : reply.Means answer) (hmirrors : w'.Mirrors r number y) :
    Played r x caller reply w' :=
  ⟨number, [⟨x, caller, move, answer, y⟩], y,
    .snoc (d := ⟨x, caller, move, answer, y⟩) .nil hstep, hdead, tells_singleton rfl hmeans,
    hmirrors⟩

/-! ## Commands of one call -/

/-- A use of an object that leaves the guards and the frames of the world as they are. -/
theorem Mirrors.puts (h : w.Mirrors r number x) (hclient : x.clients.get? (number id) = some c)
    (hlikens : w.Likens id o c) (hframe : call.keepsFrame = true)
    (hguards : call.keepsGuards = true) {answer : Answer} {body : Body} {book : LockBook}
    {token : Option NextFrame} (hstep : x.step caller (.call (number id) call) = some (answer, y))
    (hafter : y.clients.get? (number id) = some ⟨body, book, token⟩)
    (htoken : token = c.tokenAfter call answer book) {o' : Object}
    (hobjects : w'.objects = w.objects.insert id o') (hbook : o'.region.book = book)
    (hsame : w'.guards = w.guards) (hsame' : w'.tokens = w.tokens) : w.Puts id o' token w' := by
  have hlock (mode : LockMode) : call ≠ .lock mode := by
    rintro rfl
    cases hguards
  refine ⟨hobjects, hsame.symm ▸ h.distinct.2, ?_, ?_⟩
  · rw [hsame, hsame', hbook, htoken]
    have hremains := h.ordered.remains hclient hlock hstep hafter
    exact (hlikens.kept.remains hremains hguards).retoken fun hdepth =>
      Client.tokenAfter_eq hframe hdepth
  · rw [hsame, hsame']
    exact fun _ _ _ _ hkept => hkept

/-- A command that answers with what a call has come to. -/
theorem Mirrors.answers (h : w.Mirrors r number x) (halive : caller ∉ x.dead)
    (hobject : w.objects.get? id = some o) (hclient : x.clients.get? (number id) = some c)
    (hlikens : w.Likens id o c) (hguard : call.underGuard = true → c.GuardOf caller)
    {operation : Act α} {f : α → Answer} {ok : α → Reply}
    (hoperation : c.operation call = some (Act.answering c.body operation f))
    (hmeans : ∀ a, (ok a).Means (f a))
    (hputs : ∀ {answer body y} {site : Site} {token : Option NextFrame},
      x.step caller (.call (number id) call) = some (answer, y) →
      y.clients.get? (number id) = some ⟨body, site.book, token⟩ →
      token = c.tokenAfter call answer site.book →
      w.Puts id { o with region := { o.region with book := site.book } } token (w.left id o site))
    (hplay : (do return answer ok (← act caller id o operation) : Play Reply) w = (reply, w'))
    (hended : reply ≠ .failed .blocked) : Played r x caller reply w' := by
  replace hplay : (answer ok (act caller id o operation w).1, (act caller id o operation w).2) =
    (reply, w') := hplay
  cases hplay
  have hcomes := h.comes halive hobject hclient hlikens hguard (f := fun a => (f a, c.body))
    hoperation fun hblocked => hended (congrArg (answer ok) hblocked)
  generalize act caller id o operation w = result at hcomes
  cases hcomes with
  | ok hstep hdead hafter htoken hmirrors =>
    exact .step hstep hdead (hmeans _)
      (hmirrors _ o.body hlikens.body.symm rfl (hputs hstep hafter htoken))
  | error hstep hdead hafter htoken hmirrors =>
    exact .step hstep hdead (.failed _) (hmirrors _ rfl (hputs hstep hafter htoken))

/-- The same where nothing changes in what is kept. -/
theorem Mirrors.replies (h : w.Mirrors r number x) (halive : caller ∉ x.dead)
    (hobject : w.objects.get? id = some o) (hclient : x.clients.get? (number id) = some c)
    (hlikens : w.Likens id o c) (hguard : call.underGuard = true → c.GuardOf caller)
    (hframe : call.keepsFrame = true) (hguards : call.keepsGuards = true)
    {operation : Act α} {f : α → Answer} {ok : α → Reply}
    (hoperation : c.operation call = some (Act.answering c.body operation f))
    (hmeans : ∀ a, (ok a).Means (f a))
    (hplay : (do return answer ok (← act caller id o operation) : Play Reply) w = (reply, w'))
    (hended : reply ≠ .failed .blocked) : Played r x caller reply w' :=
  h.answers halive hobject hclient hlikens hguard hoperation hmeans
    (fun hstep hafter htoken => h.puts hclient hlikens hframe hguards hstep hafter htoken
      (objects_left hobject _) rfl rfl rfl) hplay hended

/-- The key of the region. -/
theorem Mirrors.key {kind : ConsumerKind} (h : w.Mirrors r number x) (halive : caller ∉ x.dead)
    (hplay : key caller id kind w = (reply, w')) (hknown : reply ≠ .unknown)
    (hended : reply ≠ .failed .blocked) : Played r x caller reply w' := by
  obtain ⟨o, hobject, hplay⟩ := of_withObject hknown hplay
  obtain ⟨-, c, hclient, hlikens⟩ := h.objects id o hobject
  have hoperation : c.operation (.key kind) =
      some (Act.answering c.body (Reader.key kind) .key) := rfl
  exact h.replies halive hobject hclient hlikens (fun hunder => by cases hunder) rfl rfl hoperation
    (fun k => .key k) hplay hended

/-! ## Under a guard -/

/-- A guard that is kept is one of its object. -/
theorem Likens.guardOf {g : Guard} (hlikens : w.Likens g.object o c)
    (hguard : w.guards.get? guard = some g) (hmine : g.thread = caller) : c.GuardOf caller :=
  ⟨hlikens.kept.depth_pos (Table.mem_entries hguard) rfl,
    hmine ▸ hlikens.kept.holder _ (Table.mem_entries hguard) rfl⟩

/-- The header, under a guard. -/
theorem Mirrors.metadata (h : w.Mirrors r number x) (halive : caller ∉ x.dead)
    (hplay : metadata caller guard w = (reply, w')) (hknown : reply ≠ .unknown)
    (hended : reply ≠ .failed .blocked) : Played r x caller reply w' := by
  obtain ⟨g, o, hguard, hmine, hobject, hplay⟩ := of_withGuard hknown hplay
  obtain ⟨-, c, hclient, hlikens⟩ := h.objects g.object o hobject
  have hreplies {operation : Act Header} (hoperation : c.operation .metadata =
      some (Act.answering c.body operation .header))
      (hplay : (do return answer .header (← act caller g.object o operation) : Play Reply) w =
        (reply, w')) : Played r x caller reply w' :=
    h.replies halive hobject hclient hlikens (fun _ => hlikens.guardOf hguard hmine) rfl rfl
      hoperation (fun header => .header header) hplay hended
  obtain ⟨body, book, token⟩ := c
  obtain rfl : body = o.body.unnumbered := hlikens.body
  -- a writer reads it as it is, readers in their own way, and the client does the same
  cases hbody : o.body
  all_goals
    rw [hbody] at hplay hreplies
    exact hreplies rfl hplay

theorem of_withWriterGuard {continue_ : String → Object → Writer → Play Reply}
    (hknown : reply ≠ .unknown) (hplay : withWriterGuard caller guard continue_ w = (reply, w')) :
    ∃ g o writer, w.guards.get? guard = some g ∧ g.thread = caller ∧
      w.objects.get? g.object = some o ∧ o.body = .writer writer ∧
        continue_ g.object o writer w = (reply, w') := by
  obtain ⟨g, o, hguard, hmine, hobject, hplay⟩ := of_withGuard hknown hplay
  cases hbody : o.body with
  | writer writer =>
    rw [hbody] at hplay
    exact ⟨g, o, writer, hguard, hmine, hobject, hbody, hplay⟩
  | _ =>
    rw [hbody] at hplay
    exact absurd (congrArg Prod.fst hplay).symm hknown

/-- What a writer does under a guard. -/
theorem Mirrors.underGuard {closing : Reply} {operation : Writer → Act Unit} (call : Call)
    (h : w.Mirrors r number x) (halive : caller ∉ x.dead) (hframe : call.keepsFrame = true)
    (hguards : call.keepsGuards = true) (hoperation : ∀ (writer : Writer) book token,
      (⟨.writer writer, book, token⟩ : Client).operation call =
        some (Act.answering (.writer writer) (operation writer) fun _ => .done))
    (hcloses : closing.Means .done)
    (hplay : underGuard caller guard closing operation w = (reply, w'))
    (hknown : reply ≠ .unknown) (hended : reply ≠ .failed .blocked) :
    Played r x caller reply w' := by
  obtain ⟨g, o, writer, hguard, hmine, hobject, hbody, hplay⟩ := of_withWriterGuard hknown hplay
  obtain ⟨-, c, hclient, hlikens⟩ := h.objects g.object o hobject
  have hcalled : c.operation call =
      some (Act.answering c.body (operation writer) fun _ => .done) := by
    obtain ⟨body, book, held⟩ := c
    obtain rfl : body = .writer writer := hlikens.body.trans (congrArg Body.unnumbered hbody)
    exact hoperation writer book held
  exact h.replies halive hobject hclient hlikens (fun _ => hlikens.guardOf hguard hmine) hframe
    hguards hcalled (fun _ => hcloses) hplay hended

/-- A guard is given back. -/
theorem Mirrors.unlock (h : w.Mirrors r number x) (halive : caller ∉ x.dead)
    (hplay : unlock caller guard w = (reply, w')) (hknown : reply ≠ .unknown)
    (hended : reply ≠ .failed .blocked) : Played r x caller reply w' := by
  obtain ⟨g, o, hguard, hmine, hobject, hplay⟩ := of_withGuard hknown hplay
  obtain ⟨-, c, hclient, hlikens⟩ := h.objects g.object o hobject
  -- the guard is gone before the call, whatever comes of it
  have hforgot : ({ w with guards := w.guards.erase guard } : World).Mirrors r number x :=
    h.forget rfl (.refl _) List.filter_sublist (.refl _)
  have hlikens' : ({ w with guards := w.guards.erase guard } : World).Likens g.object o c :=
    ⟨hlikens.body, hlikens.book, hlikens.kept.sublist List.filter_sublist (.refl _)⟩
  have hoperation : c.operation (.release false) =
      some (Act.answering c.body (Act.release false) fun _ => .done) := rfl
  refine hforgot.answers halive hobject hclient hlikens' (fun _ => hlikens.guardOf hguard hmine)
    hoperation (fun _ => .unlocked) (fun hstep hafter htoken => ?_) hplay hended
  refine ⟨objects_left hobject _, hforgot.distinct.2, ?_, fun _ _ _ _ hkept => hkept⟩
  have hremains := h.ordered.remains hclient (fun mode heq => by cases heq) hstep hafter
  rw [htoken]
  exact hlikens.kept.released (Table.mem_entries hguard) rfl hremains

/-- A frame that is kept is used up. -/
theorem Mirrors.consume {operation : Writer → NextFrame → Act Unit} (call : Call)
    (h : w.Mirrors r number x) (halive : caller ∉ x.dead) (hguards : call.keepsGuards = true)
    (hoperation : ∀ (writer : Writer) book next,
      (⟨.writer writer, book, some next⟩ : Client).operation call =
        some (Act.answering (.writer writer) (operation writer next) fun _ => .done))
    (hplay : consume caller token operation w = (reply, w')) (hknown : reply ≠ .unknown)
    (hended : reply ≠ .failed .blocked) : Played r x caller reply w' := by
  unfold World.consume at hplay
  rw [bind_apply, get_apply] at hplay
  dsimp only at hplay
  cases htoken : w.tokens.get? token with
  | none =>
    rw [htoken] at hplay
    exact absurd (congrArg Prod.fst hplay).symm hknown
  | some t =>
    rw [htoken] at hplay
    obtain ⟨g, o, writer, hguard, hmine, hobject, hbody, hplay⟩ := of_withWriterGuard hknown hplay
    obtain ⟨-, c, hclient, hlikens⟩ := h.objects g.object o hobject
    have hframe : FrameOf w.guards w.tokens g.object token t :=
      ⟨Table.mem_entries htoken, g, Table.mem_entries hguard, rfl⟩
    have hforgot : ({ w with tokens := w.tokens.erase token } : World).Mirrors r number x :=
      h.forget rfl (.refl _) (.refl _) List.filter_sublist
    have hlikens' : ({ w with tokens := w.tokens.erase token } : World).Likens g.object o c :=
      ⟨hlikens.body, hlikens.book, hlikens.kept.sublist (.refl _) List.filter_sublist⟩
    have hcalled : c.operation call =
        some (Act.answering c.body (operation writer t.next) fun _ => .done) := by
      obtain ⟨body, book, held⟩ := c
      obtain rfl : body = .writer writer := hlikens.body.trans (congrArg Body.unnumbered hbody)
      obtain rfl : held = some t.next := hlikens.kept.frame token t hframe
      exact hoperation writer book t.next
    refine hforgot.answers halive hobject hclient hlikens' (fun _ => hlikens.guardOf hguard hmine)
      hcalled (fun _ => .submitted) (fun hstep hafter _ => ?_) hplay hended
    refine ⟨objects_left hobject _, h.distinct.2, ?_, fun _ _ _ _ hkept => hkept⟩
    have hlock (mode : LockMode) : call ≠ .lock mode := by
      rintro rfl
      cases hguards
    have hremains := h.ordered.remains hclient hlock hstep hafter
    exact (hlikens.kept.consumed hframe _).remains hremains hguards

/-- A frame that is begun was not begun before. -/
theorem begun_next {n : Nat} {next : NextFrame} (hordered : x.Ordered)
    (hclient : x.clients.get? n = some c)
    (hstep : x.step caller (.call n .beginFrame) = some (.next next, y)) : c.token = none := by
  obtain ⟨-, hhappens⟩ := Exchange.happens hordered.settled hordered.length hstep
  cases hhappens with
  | called hbefore _ heffect =>
    cases hclient.symm.trans hbefore
    have hphase : c.book.machine.phase = .locked := by
      generalize hcall : Call.beginFrame = call, hanswer : Answer.next next = answer at heffect
      cases heffect with
      | still _ hnever => exact absurd hanswer.symm (hnever next)
      | recovered _ hnever => exact absurd hanswer.symm (hnever next)
      | begun _ hphase => exact hphase
      | _ => cases hcall
    cases htoken : c.token with
    | none => rfl
    | some begun =>
      have hbegun := ((hordered.settled n c hclient).begun (by simp [htoken])).2
      rw [hphase] at hbegun
      cases hbegun

/-- A frame is begun, and kept. -/
theorem Mirrors.beginFrame (h : w.Mirrors r number x) (halive : caller ∉ x.dead)
    (hplay : beginFrame caller guard token w = (reply, w')) (hknown : reply ≠ .unknown)
    (hended : reply ≠ .failed .blocked) : Played r x caller reply w' := by
  obtain ⟨g, o, writer, hguard, hmine, hobject, hbody, hplay⟩ := of_withWriterGuard hknown hplay
  obtain ⟨-, c, hclient, hlikens⟩ := h.objects g.object o hobject
  have hguardOf : Call.beginFrame.underGuard = true → c.GuardOf caller :=
    fun _ => hlikens.guardOf hguard hmine
  have hcalled : c.operation .beginFrame =
      some (Act.answering c.body Writer.beginFrame .next) := by
    obtain ⟨body, book, held⟩ := c
    obtain rfl : body = .writer writer := hlikens.body.trans (congrArg Body.unnumbered hbody)
    rfl
  rw [bind_apply] at hplay
  have hcomes := h.comes halive hobject hclient hlikens hguardOf (f := fun a => (.next a, c.body))
    hcalled fun hblocked => by
      rw [show act caller g.object o Writer.beginFrame w = (.error .blocked, _) from
        Prod.ext hblocked rfl] at hplay
      exact hended (congrArg Prod.fst hplay).symm
  generalize act caller g.object o Writer.beginFrame w = result at hcomes hplay
  have hkept {answer : Answer} {body : Body} {book : LockBook} {token : Option NextFrame}
      {y : Exchange}
      (hstep : x.step caller (.call (number g.object) .beginFrame) = some (answer, y))
      (hafter : y.clients.get? (number g.object) = some ⟨body, book, token⟩) :
      Kept w.guards w.tokens g.object book c.token :=
    hlikens.kept.remains (h.ordered.remains hclient (by rintro mode ⟨⟩) hstep hafter) rfl
  cases hcomes with
  | @ok next site y _ hstep hdead hafter htoken hmirrors =>
    cases hplay
    refine .step hstep hdead (.next next) (hmirrors _ o.body hlikens.body.symm rfl
      ⟨objects_left hobject site, h.distinct.2, ?_, fun id book held hother hkept => ?_⟩)
    · have hbook := hkept hstep hafter
      rw [begun_next h.ordered hclient hstep] at hbook
      rw [htoken]
      refine hbook.begun.retoken fun hdepth => ?_
      exact if_neg (Nat.ne_of_gt hdepth)
    · exact hkept.begun_other h.distinct.2 (Table.mem_entries hguard) (Ne.symm hother)
  | @error failure site y _ hstep hdead hafter htoken hmirrors =>
    cases hplay
    refine .step hstep hdead (.failed _) (hmirrors _ rfl
      ⟨objects_left hobject site, h.distinct.2, ?_, fun _ _ _ _ hkept => hkept⟩)
    rw [htoken]
    exact (hkept hstep hafter).retoken fun hdepth => if_neg (Nat.ne_of_gt hdepth)

/-- The lock is taken, and the guard is kept under a new name. -/
theorem Mirrors.locks {mode : LockMode} {operation : Act Acquired} {said : Bool → Reply}
    (h : w.Mirrors r number x) (halive : caller ∉ x.dead)
    (hnew : w.guards.get? guard = none) (hunused : ∀ t ∈ w.tokens.entries, t.2.guard ≠ guard)
    (hobject : w.objects.get? id = some o) (hclient : x.clients.get? (number id) = some c)
    (hlikens : w.Likens id o c)
    (hoperation : c.operation (.lock mode) = some (Act.answering c.body operation .ofAcquired))
    (hmeans : ∀ abandoned, (said abandoned).Means (.locked abandoned))
    (hplay : (do
      match ← act caller id o operation with
      | .error failure => return .failed failure
      | .ok .busy => return .busy
      | .ok (.held abandoned) =>
        keepGuard caller guard ⟨id, caller⟩
        return said abandoned : Play Reply) w = (reply, w'))
    (hended : reply ≠ .failed .blocked) : Played r x caller reply w' := by
  rw [bind_apply] at hplay
  have hcomes := h.comes halive hobject hclient hlikens (fun hunder => by cases hunder)
    (f := fun a => (.ofAcquired a, c.body)) hoperation fun hblocked => by
      rw [show act caller id o operation w = (.error .blocked, _) from Prod.ext hblocked rfl]
        at hplay
      exact hended (congrArg Prod.fst hplay).symm
  -- without the lock everything is as before
  have hrefused {answer : Answer} {body : Body} {site : Site} {token : Option NextFrame}
      {y : Exchange} (hnever : ∀ abandoned, answer ≠ .locked abandoned)
      (hstep : x.step caller (.call (number id) (.lock mode)) = some (answer, y))
      (hafter : y.clients.get? (number id) = some ⟨body, site.book, token⟩)
      (htoken : token = c.tokenAfter (.lock mode) answer site.book) :
      w.Puts id { o with region := { o.region with book := site.book } } token
        (w.left id o site) := by
    refine ⟨objects_left hobject site, h.distinct.2, ?_, fun _ _ _ _ hkept => hkept⟩
    have hbook : site.book = c.book := Exchange.book_of_refused hclient hnever hstep hafter
    rw [htoken]
    dsimp only
    rw [hbook]
    exact hlikens.kept.retoken fun hdepth => Client.tokenAfter_eq rfl hdepth
  generalize act caller id o operation w = result at hcomes hplay
  cases hcomes with
  | @error failure site y _ hstep hdead hafter htoken hmirrors =>
    cases hplay
    exact .step hstep hdead (.failed _)
      (hmirrors _ rfl (hrefused (by rintro a ⟨⟩) hstep hafter htoken))
  | @ok acquired site y _ hstep hdead hafter htoken hmirrors =>
    cases acquired with
    | busy =>
      cases hplay
      exact .step hstep hdead .busy (hmirrors _ o.body hlikens.body.symm rfl
        (hrefused (by rintro a ⟨⟩) hstep hafter htoken))
    | held abandoned =>
      obtain ⟨hdepth, hholder, hmine⟩ := h.ordered.locked hclient hstep hafter
      -- nothing was kept under the name, so nothing is given back
      have hkeep : keepGuard caller guard ⟨id, caller⟩ (w.left id o site) =
          ((), { w.left id o site with guards := w.guards.insert guard ⟨id, caller⟩ }) := by
        have hnone : (w.left id o site).guards.get? guard = none := hnew
        unfold keepGuard
        rw [bind_apply, get_apply]
        dsimp only
        rw [hnone]
        rfl
      dsimp only at hplay
      rw [bind_apply, hkeep] at hplay
      cases hplay
      refine .step hstep hdead (hmeans abandoned) (hmirrors _ o.body hlikens.body.symm rfl
        ⟨objects_left hobject site, h.distinct.2.insert _ _, ?_, fun id' book held hother hkept =>
          hkept.locked_other (Ne.symm hother)⟩)
      rw [htoken]
      exact (hlikens.kept.locked hdepth hholder hmine hunused).retoken fun hpos =>
        Client.tokenAfter_eq rfl hpos

theorem Mirrors.lock {mode : LockMode} (h : w.Mirrors r number x) (halive : caller ∉ x.dead)
    (hnew : w.guards.get? guard = none) (hunused : ∀ t ∈ w.tokens.entries, t.2.guard ≠ guard)
    (hplay : lock caller id guard mode w = (reply, w')) (hknown : reply ≠ .unknown)
    (hended : reply ≠ .failed .blocked) : Played r x caller reply w' := by
  obtain ⟨o, hobject, hplay⟩ := of_withObject hknown hplay
  obtain ⟨-, ⟨body, book, token⟩, hclient, hlikens⟩ := h.objects id o hobject
  obtain rfl : body = o.body.unnumbered := hlikens.body
  cases hbody : o.body with
  | writer writer =>
    rw [hbody] at hplay hclient hlikens
    exact h.locks halive hnew hunused hobject hclient hlikens rfl .writerLocked hplay hended
  | reader reader =>
    rw [hbody] at hplay hclient hlikens
    exact h.locks halive hnew hunused hobject hclient hlikens rfl .readerLocked hplay hended
  | cached cached copier =>
    rw [hbody] at hplay hclient hlikens
    exact h.locks halive hnew hunused hobject hclient hlikens rfl .readerLocked hplay hended

/-! ## Reads -/

theorem of_withReader {continue_ : Object → Reader → Play Reply} (hknown : reply ≠ .unknown)
    (hplay : withReader id continue_ w = (reply, w')) : ∃ o reader,
      w.objects.get? id = some o ∧ o.body = .reader reader ∧
        continue_ o reader w = (reply, w') := by
  obtain ⟨o, hobject, hplay⟩ := of_withObject hknown hplay
  cases hbody : o.body with
  | reader reader =>
    rw [hbody] at hplay
    exact ⟨o, reader, hobject, hbody, hplay⟩
  | _ =>
    rw [hbody] at hplay
    exact absurd (congrArg Prod.fst hplay).symm hknown

theorem of_withCached {continue_ : Object → CachedReader → Nat → Play Reply}
    (hknown : reply ≠ .unknown) (hplay : withCached id continue_ w = (reply, w')) :
    ∃ o cached copier, w.objects.get? id = some o ∧ o.body = .cached cached copier ∧
      continue_ o cached copier w = (reply, w') := by
  obtain ⟨o, hobject, hplay⟩ := of_withObject hknown hplay
  cases hbody : o.body with
  | cached cached copier =>
    rw [hbody] at hplay
    exact ⟨o, cached, copier, hobject, hbody, hplay⟩
  | _ =>
    rw [hbody] at hplay
    exact absurd (congrArg Prod.fst hplay).symm hknown

/-- The parts of a world that an exchange is like are these in both worlds. -/
structure Same (w w' : World) : Prop where
  system : w'.system = w.system
  objects : w'.objects = w.objects
  guards : w'.guards = w.guards
  tokens : w'.tokens = w.tokens

theorem Mirrors.same (h : w.Mirrors r number x) (hsame : w.Same w') : w'.Mirrors r number x :=
  h.forget hsame.system (hsame.objects ▸ .refl _) (hsame.guards ▸ .refl _) (hsame.tokens ▸ .refl _)

/-- A snapshot is shown, and maybe kept. -/
theorem present_same {kept : KeptSnapshot} {keep : Option String}
    (hplay : present kept keep w = (reply, w')) :
    (∃ texture, reply = .shown ⟨kept.snapshot, texture⟩) ∧ w.Same w' := by
  cases keep with
  | none =>
    cases hplay
    exact ⟨⟨_, rfl⟩, rfl, rfl, rfl, rfl⟩
  | some name =>
    cases hplay
    exact ⟨⟨_, rfl⟩, rfl, rfl, rfl, rfl⟩

/-- A command that shows what a read has come to. -/
theorem Mirrors.shows {f : α → Answer × Body} (call : Call) (operation : Act α)
    (h : w.Mirrors r number x) (halive : caller ∉ x.dead) (hobject : w.objects.get? id = some o)
    (hunder : call.underGuard = false) (hframe : call.keepsFrame = true)
    (hguards : call.keepsGuards = true) (hoperation : ∀ book token,
      (⟨o.body.unnumbered, book, token⟩ : Client).operation call =
        some (do return f (← operation)))
    (hfailed : ∀ failure w₁, act caller id o operation w = (.error failure, w₁) →
      (reply, w') = (.failed failure, w₁))
    (hshown : ∀ a w₁, act caller id o operation w = (.ok a, w₁) → ∃ body v kept keep calls,
      f a = (.shown kept.snapshot calls, body.unnumbered) ∧ (setBody id body w₁).2.Same v ∧
        present kept keep v = (reply, w'))
    (hended : reply ≠ .failed .blocked) : Played r x caller reply w' := by
  obtain ⟨-, c, hclient, hlikens⟩ := h.objects id o hobject
  have hcalled : c.operation call = some (do return f (← operation)) := by
    obtain ⟨body, book, token⟩ := c
    obtain rfl : body = o.body.unnumbered := hlikens.body
    exact hoperation book token
  have hguard : call.underGuard = true → c.GuardOf caller := by
    rw [hunder]
    exact fun hfalse => absurd hfalse Bool.false_ne_true
  have hcomes := h.comes halive hobject hclient hlikens hguard hcalled fun hblocked => by
    have hreply := hfailed .blocked _ (Prod.ext hblocked rfl)
    exact hended (congrArg Prod.fst hreply)
  generalize hact : act caller id o operation w = result at hcomes
  cases hcomes with
  | @ok a site y _ hstep hdead hafter htoken hmirrors =>
    obtain ⟨body, v, kept, keep, calls, hf, hset, hpresent⟩ := hshown a _ hact
    obtain ⟨⟨texture, rfl⟩, hsame⟩ := present_same hpresent
    rw [hf] at hstep hafter htoken hmirrors
    have hobjects : (setBody id body (w.left id o site)).2.objects = _ :=
      objects_setBody hobject site body
    refine .step hstep hdead (.shown ⟨kept.snapshot, texture⟩ calls)
      (hmirrors _ body rfl (hsame.system.trans hset.system) ?_)
    exact h.puts hclient hlikens hframe hguards hstep hafter htoken
      (hsame.objects.trans (hset.objects.trans hobjects)) rfl (hsame.guards.trans hset.guards)
      (hsame.tokens.trans hset.tokens)
  | @error failure site y _ hstep hdead hafter htoken hmirrors =>
    cases hfailed _ _ hact
    exact .step hstep hdead (.failed _) (hmirrors _ rfl
      (h.puts hclient hlikens hframe hguards hstep hafter htoken (objects_left hobject site) rfl rfl
        rfl))

/-- A read without pixels. -/
theorem Mirrors.readMetadata {kind : ConsumerKind} (h : w.Mirrors r number x)
    (halive : caller ∉ x.dead) (hplay : readMetadata caller id kind w = (reply, w'))
    (hknown : reply ≠ .unknown) (hended : reply ≠ .failed .blocked) :
    Played r x caller reply w' := by
  obtain ⟨o, reader, hobject, hbody, hplay⟩ := of_withReader hknown hplay
  refine h.shows (.readMetadata kind) (reader.readMetadata kind)
    (f := fun a => (.shown a.1 [], .reader a.2)) halive
    hobject rfl rfl rfl (by rw [hbody]; exact fun _ _ => rfl) ?_ ?_ hended
  all_goals
    intro a w₁ hact
    rw [bind_apply, hact] at hplay
  · exact hplay.symm
  · exact ⟨.reader a.2, _, ⟨a.1, sharedCopier⟩, none, [], rfl, ⟨rfl, rfl, rfl, rfl⟩, hplay⟩

/-- The latest frame of a cached reader without its pixels. -/
theorem Mirrors.getMetadata (h : w.Mirrors r number x) (halive : caller ∉ x.dead)
    (hplay : getMetadata caller id w = (reply, w')) (hknown : reply ≠ .unknown)
    (hended : reply ≠ .failed .blocked) : Played r x caller reply w' := by
  obtain ⟨o, cached, copier, hobject, hbody, hplay⟩ := of_withCached hknown hplay
  refine h.shows .getMetadata cached.getMetadata
    (f := fun a => (.shown a.1 [], .cached a.2 0)) halive
    hobject rfl rfl rfl (by rw [hbody]; exact fun _ _ => rfl) ?_ ?_ hended
  all_goals
    intro a w₁ hact
    rw [bind_apply, hact] at hplay
  · exact hplay.symm
  · exact ⟨.cached a.2 copier, _, ⟨a.1, copier⟩, none, [], rfl, ⟨rfl, rfl, rfl, rfl⟩, hplay⟩

/-- A copier of which all calls were looked at. -/
theorem looked_eq {copier : Copier} (hcalls : copier.calls = []) : copier.looked = copier := by
  obtain ⟨⟩ := copier
  cases hcalls
  rfl

/-- A read with its pixels. -/
theorem Mirrors.read {kind : ConsumerKind} {gpu : UInt64} {destination : String}
    {keep : Option String} (h : w.Mirrors r number x) (halive : caller ∉ x.dead)
    (hcalls : (w.copier sharedCopier).calls = [])
    (hplay : read caller id kind gpu destination keep w = (reply, w')) (hknown : reply ≠ .unknown)
    (hended : reply ≠ .failed .blocked) : Played r x caller reply w' := by
  obtain ⟨o, reader, hobject, hbody, hplay⟩ := of_withReader hknown hplay
  rw [bind_apply, get_apply] at hplay
  dsimp only at hplay
  cases hdestination : w.destinations.get? destination with
  | none =>
    rw [hdestination] at hplay
    exact absurd (congrArg Prod.fst hplay).symm hknown
  | some target =>
    rw [hdestination] at hplay
    refine h.shows (.read kind gpu target (w.copier sharedCopier))
      (reader.read kind gpu target (w.copier sharedCopier))
      (f := fun a => (.shown a.1 a.2.2.calls, .reader a.2.1)) halive hobject rfl rfl rfl ?_ ?_ ?_
      hended
    · rw [hbody]
      intro book token
      show some (reader.answerRead kind gpu target (w.copier sharedCopier)) = _
      rw [Reader.answerRead, looked_eq hcalls]
    all_goals
      intro a w₁ hact
      dsimp only at hplay
      rw [bind_apply, hact] at hplay
    · exact hplay.symm
    · exact ⟨.reader a.2.1, (setCopier sharedCopier a.2.2 (setBody id (.reader a.2.1) w₁).2).2,
        ⟨a.1, sharedCopier⟩, keep, a.2.2.calls, rfl, ⟨rfl, rfl, rfl, rfl⟩, hplay⟩

/-- The latest frame of a cached reader. -/
theorem Mirrors.get {keep : Option String} (h : w.Mirrors r number x) (halive : caller ∉ x.dead)
    (hcalls : ∀ number, (w.copier number).calls = [])
    (hplay : getFrame caller id keep w = (reply, w')) (hknown : reply ≠ .unknown)
    (hended : reply ≠ .failed .blocked) : Played r x caller reply w' := by
  obtain ⟨o, cached, copier, hobject, hbody, hplay⟩ := of_withCached hknown hplay
  rw [bind_apply, get_apply] at hplay
  dsimp only at hplay
  refine h.shows (.get (w.copier copier)) (cached.get (w.copier copier))
    (f := fun a => (.shown a.1 a.2.2.calls, .cached a.2.1 0)) halive hobject rfl rfl rfl ?_ ?_ ?_
    hended
  · rw [hbody]
    intro book token
    show some (cached.answerGet 0 (w.copier copier)) = _
    rw [CachedReader.answerGet, looked_eq (hcalls copier)]
  all_goals
    intro a w₁ hact
    rw [bind_apply, hact] at hplay
  · exact hplay.symm
  · exact ⟨.cached a.2.1 copier,
      (setCopier copier a.2.2 (setBody id (.cached a.2.1 copier) w₁).2).2, ⟨a.1, copier⟩, keep,
      a.2.2.calls, rfl, ⟨rfl, rfl, rfl, rfl⟩, hplay⟩

/-- The cache of a cached reader is started over. -/
theorem Mirrors.restartCache {gpu : UInt64} {length : UInt8} (h : w.Mirrors r number x)
    (halive : caller ∉ x.dead) (hplay : restartCache id gpu length w = (reply, w'))
    (hknown : reply ≠ .unknown) : Played r x caller reply w' := by
  obtain ⟨o, cached, copier, hobject, hbody, hplay⟩ := of_withCached hknown hplay
  obtain ⟨hregion, c, hclient, hlikens⟩ := h.objects id o hobject
  obtain ⟨restarted, hrestarted⟩ : ∃ restarted : Body,
    restarted = .cached (cached.restart gpu length) copier := ⟨_, rfl⟩
  replace hplay : (Reply.done, (setBody id restarted w).2) = (reply, w') := by
    rw [hrestarted]
    exact hplay
  cases hplay
  have hcalled : c.operation (.restart gpu length) =
      some (return (.done, restarted.unnumbered)) := by
    rw [Client.operation, show c.body = .cached cached 0 from
      hlikens.body.trans (congrArg Body.unnumbered hbody), hrestarted]
    rfl
  obtain ⟨token, htoken⟩ : ∃ token,
    token = c.tokenAfter (.restart gpu length) .done c.book := ⟨_, rfl⟩
  have hstep : x.step caller (.call (number id) (.restart gpu length)) =
      some (.done, x.put (number id) ⟨restarted.unnumbered, c.book, token⟩) := by
    rw [Exchange.step, if_neg halive, htoken]
    have hguard : (Call.restart gpu length).underGuard = true → c.GuardOf caller :=
      fun hunder => by cases hunder
    exact Exchange.call_eq_settle hclient hguard hcalled
  have hafter : (x.put (number id) ⟨restarted.unnumbered, c.book, token⟩).clients.get? (number id) =
      some ⟨restarted.unnumbered, c.book, token⟩ := by
    rw [Exchange.get?_put, if_pos rfl]
  have hobjects : (setBody id restarted w).2.objects =
      w.objects.insert id { o with body := restarted } := by
    show w.objects.adjust id _ = _
    rw [Table.adjust, hobject]
  have hputs : w.Puts id { o with body := restarted } token (setBody id restarted w).2 :=
    h.puts hclient hlikens rfl rfl hstep hafter htoken hobjects hlikens.book.symm rfl rfl
  refine .step hstep rfl .done (h.placed hputs (h.ordered.step hstep) h.found ?_ ?_ hregion
    fun id' o' hobject' heq => h.apart id' id o' o hobject' hobject heq)
  · show (w.system.exchange r x.clients x.dead).put _ _ = _
    rw [h.exchange]
  · rw [← hlikens.book]
    rfl

end World

end FrameExchange
