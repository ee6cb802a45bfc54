import FrameExchange.Proofs.Sessions
import FrameExchange.Proofs.RoundTrip
import FrameExchange.Proofs.Untrusted

/-!
# Operations that fail

Whatever fails, or is told that the lock is busy, leaves every byte of the memory. So do the broken
rules of a writer: a frame that must not be published, one that is dropped, and whatever needs a
writer with nothing going on while a frame is begun.

- `Exchange.Sound.step_fails` — a step of which nothing has come.
- `Frame.Faulty`, `Frame.faulty_iff` — the frames that must not be published, in whole numbers.
- `Exchange.Violates` — a call that breaks a rule and leaves its thread the guards that it had.
- `Exchange.Held.discards`, `Exchange.Held.obstructed` — the calls of a writer that do.
-/

namespace FrameExchange

open Act

/-! ## What is left of a failed step -/

/-- Nothing has come of a step: it has failed, or the lock was busy. -/
def Answer.Fails : Answer → Prop
  | .failed _ | .busy => True
  | _ => False

/-- An operation of which nothing has come leaves the memory as it was. -/
inductive Spares (s : Site) : EStateM.Result Failure Site (Answer × Body) → Prop where
  | ok {answer : Answer} {body : Body} {s' : Site} : (answer.Fails → s'.memory = s.memory) →
      Spares s (.ok (answer, body) s')
  | error {failure : Failure} {s' : Site} : s'.memory = s.memory → Spares s (.error failure s')

namespace Spares

variable {s : Site} {α : Type} {operation : Act α}

/-- An operation that leaves the object as it is. -/
theorem answering {body : Body} {answer : α → Answer} (hnever : ∀ a, ¬(answer a).Fails)
    (hfails : ∀ failure s', operation s = .error failure s' → s'.memory = s.memory) :
    Spares s (Act.answering body operation answer s) := by
  cases hresult : operation s with
  | ok a s' =>
    rw [Act.answering_ok hresult]
    exact .ok fun hfailed => absurd hfailed (hnever a)
  | error failure s' =>
    rw [Act.answering, bind_error hresult]
    exact .error (hfails failure s' hresult)

/-- An operation that leaves the whole site where it fails. -/
theorem unmoved {body : Body} {answer : α → Answer} (hnever : ∀ a, ¬(answer a).Fails)
    (hresult : (∃ a s', operation s = .ok a s') ∨ ∃ failure, operation s = .error failure s) :
    Spares s (Act.answering body operation answer s) := by
  refine answering hnever fun failure s' herror => ?_
  rcases hresult with ⟨a, t, hok⟩ | ⟨other, hother⟩
  · cases hok.symm.trans herror
  · cases hother.symm.trans herror
    rfl

/-- A read that fails has not begun a session. -/
theorem looking {next : α → Answer × Body} (hnever : ∀ a, ¬(next a).1.Fails)
    (hleaves : Reader.Leaves s (operation s)) :
    Spares s ((do return next (← operation)) s) := by
  generalize hresult : operation s = result at hleaves
  cases hleaves with
  | still =>
    rw [bind_ok hresult]
    exact .ok fun hfailed => absurd hfailed (hnever _)
  | failed hstill =>
    rw [bind_error hresult]
    exact .error hstill.memory
  | restarted =>
    rw [bind_ok hresult]
    exact .ok fun hfailed => absurd hfailed (hnever _)

/-- A guard that is refused. -/
theorem lock {body : Body} {mode : LockMode} {gpu : UInt64} {lock : Act Acquired}
    (hlocks : Locks mode gpu s (lock s)) : Spares s (Act.answering body lock .ofAcquired s) := by
  generalize hresult : lock s = result at hlocks
  cases hlocks with
  | refused =>
    rw [Act.answering, bind_error hresult]
    exact .error rfl
  | busy =>
    rw [Act.answering_ok hresult]
    exact .ok fun _ => rfl
  | _ =>
    rw [Act.answering_ok hresult]
    exact .ok fun hfailed => hfailed.elim

/-- A guard that cannot be given back. -/
theorem release (body : Body) (unwinding : Bool) :
    Spares s (Act.answering body (Act.release unwinding) (fun _ => .done) s) := by
  refine answering (fun _ => id) fun failure s' herror => ?_
  have hreleases := Act.releases unwinding s
  rw [herror] at hreleases
  cases hreleases with
  | refused => rfl

end Spares

namespace Client

variable {c : Client} {s : Site}

/-- What a writer cannot do in its phase leaves the site. -/
theorem spares_submit {w : Writer} (frame : Frame) (hrole : s.book.machine.role = .writer) :
    Spares s (Act.answering c.body (w.submit frame) (fun _ => .done) s) := by
  refine .unmoved (fun _ => id) ?_
  by_cases h : frame.check = .ok () ∧ s.book.machine.phase = .frameInProgress
  · exact .inl ⟨_, _, w.submit_ok h.1 hrole h.2⟩
  · obtain ⟨violation, hrefused⟩ :=
      w.submit_refused hrole (Decidable.not_and_iff_not_or_not.mp h)
    exact .inr ⟨_, hrefused⟩

theorem spares_beginFrame (hlen : Header.byteSize ≤ s.memory.length)
    (hrole : s.book.machine.role = .writer) :
    Spares s (Act.answering c.body Writer.beginFrame .next s) := by
  refine .unmoved (fun _ => id) ?_
  by_cases hphase : s.book.machine.phase = .locked
  · exact .inl ⟨_, _, Writer.beginFrame_ok hlen hrole hphase⟩
  · exact .inr (Writer.beginFrame_elsewhere hrole hphase)

theorem spares_submitEmpty {w : Writer} (hrole : s.book.machine.role = .writer) :
    Spares s (Act.answering c.body w.submitEmpty (fun _ => .done) s) := by
  refine .unmoved (fun _ => id) ?_
  by_cases hphase : s.book.machine.phase = .locked
  · exact .inl ⟨_, _, w.submitEmpty_ok hrole hphase⟩
  · exact .inr (w.submitEmpty_elsewhere hrole hphase)

theorem spares_detach {w : Writer} (hrole : s.book.machine.role = .writer) :
    Spares s (Act.answering c.body w.detach (fun _ => .done) s) := by
  refine .answering (fun _ => id) fun failure s' herror => ?_
  have hyields := w.detach_yields hrole
  rw [herror] at hyields
  cases hyields
  rfl

theorem spares_metadata (hrole : s.book.machine.role = .reader) :
    Spares s (Act.answering c.body Reader.metadata .header s) := by
  refine .answering (fun _ => id) fun failure s' herror => ?_
  have hyields := Reader.metadata_yields hrole
  rw [herror] at hyields
  cases hyields
  rfl

/-- Every call of which nothing comes leaves the memory. -/
theorem spares (hsettled : c.Settled) (hbook : s.book = c.book)
    (hlen : Header.byteSize ≤ s.memory.length) {call : Call} {operation : Act (Answer × Body)}
    (hoperation : c.operation call = some operation) : Spares s (operation s) := by
  have hrole : s.book.machine.role = c.body.role := hbook ▸ hsettled.role
  have htidy (hreader : c.body.role = .reader) : Reader.Tidy s := hsettled.tidy hbook hreader
  cases call with
  | lock mode =>
    obtain ⟨lock, hlock, hasks⟩ := c.operation_lock mode
    rw [hlock] at hoperation
    cases hoperation
    exact .lock (hasks s).locks
  | release unwinding =>
    cases hoperation
    exact .release c.body unwinding
  | metadata =>
    simp only [Client.operation] at hoperation
    split at hoperation
    · cases hoperation
      exact .unmoved (fun _ => id) (.inl ⟨_, _, load_ok s⟩)
    · next hreader =>
      cases hoperation
      exact spares_metadata (hrole.trans (role_reader hreader))
  | beginFrame =>
    simp only [Client.operation] at hoperation
    split at hoperation
    · next w hbody =>
      cases hoperation
      exact spares_beginFrame hlen (by rw [hrole, hbody]; rfl)
    · cases hoperation
  | submit frame =>
    simp only [Client.operation] at hoperation
    split at hoperation
    · next w next hbody htoken =>
      cases hoperation
      exact spares_submit frame (by rw [hrole, hbody]; rfl)
    · cases hoperation
  | abandon =>
    simp only [Client.operation] at hoperation
    split at hoperation
    · cases hoperation
      exact .unmoved (fun _ => id) (.inr ⟨_, rfl⟩)
    · cases hoperation
  | submitEmpty =>
    simp only [Client.operation] at hoperation
    split at hoperation
    · next w hbody =>
      cases hoperation
      exact spares_submitEmpty (by rw [hrole, hbody]; rfl)
    · cases hoperation
  | detach =>
    simp only [Client.operation] at hoperation
    split at hoperation
    · next w hbody =>
      cases hoperation
      exact spares_detach (by rw [hrole, hbody]; rfl)
    · cases hoperation
  | key kind =>
    cases hoperation
    exact .unmoved (fun _ => id) (.inl ⟨_, _, rfl⟩)
  | read kind gpu target copier =>
    simp only [Client.operation] at hoperation
    split at hoperation
    · next r hbody =>
      cases hoperation
      have hreads := r.reads kind gpu target copier.looked hlen (htidy (by rw [hbody]; rfl))
      exact .looking (fun _ => id) hreads.leaves
    · cases hoperation
  | readMetadata kind =>
    simp only [Client.operation] at hoperation
    split at hoperation
    · next r hbody =>
      cases hoperation
      have hreads := r.readsMetadata kind .blocking hlen (htidy (by rw [hbody]; rfl))
      exact .looking (fun _ => id) hreads.leaves
    · cases hoperation
  | restart gpu length =>
    simp only [Client.operation] at hoperation
    split at hoperation
    · cases hoperation
      exact .ok fun hfailed => hfailed.elim
    · cases hoperation
  | get copier =>
    simp only [Client.operation] at hoperation
    split at hoperation
    · next cached number hbody =>
      cases hoperation
      have hgets := cached.gets copier.looked hlen (htidy (by rw [hbody]; rfl))
      exact .looking (fun _ => id) hgets.leaves
    · cases hoperation
  | getMetadata =>
    simp only [Client.operation] at hoperation
    split at hoperation
    · next cached number hbody =>
      cases hoperation
      rw [CachedReader.answerMetadata_eq]
      have hreads := cached.reader.readsMetadata cached.kind .attempt hlen
        (htidy (by rw [hbody]; rfl))
      exact .looking (fun _ => id) hreads.leaves
    · cases hoperation

end Client

namespace Exchange

variable {x y : Exchange} {caller : Thread} {move : Move} {answer : Answer}

/-- A call of which nothing has come leaves every byte of the memory. -/
theorem Sound.call_fails {id : Nat} {call : Call} (hsound : x.Sound)
    (h : x.step caller (.call id call) = some (answer, y)) (hfails : answer.Fails) :
    y.memory = x.memory := by
  obtain ⟨-, c, operation, hclient, -, hoperation, hends⟩ := step_ends h
  have hspares := Client.spares (s := x.site caller c.book) (hsound.settled id c hclient) rfl
    hsound.length hoperation
  generalize operation (x.site caller c.book) = result at hspares hends
  cases hspares with
  | ok hmemory =>
    cases hends
    exact hmemory hfails
  | error hmemory =>
    cases hends
    exact hmemory

/-- A step of which nothing has come leaves every byte of the memory. -/
theorem Sound.step_fails (hsound : x.Sound) (h : x.step caller move = some (answer, y))
    (hfails : answer.Fails) : y.memory = x.memory := by
  cases (happens hsound.settled hsound.length h).2 with
  | called => exact hsound.call_fails h hfails
  | attached => exact hfails.elim
  | notAttached =>
    -- a writer that was not opened tries to begin a session twice, and is refused both times
    obtain ⟨t, hstill, hy⟩ := step_notOpened h
    rw [hy]
    exact hstill.memory
  | openedReader => exact hfails.elim
  | openedCached => exact hfails.elim
  | @closed id c _ _ hclient =>
    cases hbody : c.body with
    | writer w =>
      obtain ⟨t, hy, ⟨-, -, -, rfl, -⟩ | ⟨-, -, hstill⟩⟩ :=
        step_close (hsound.settled id c hclient) hclient hbody h
      · exact hfails.elim
      · rw [hy]
        exact hstill.memory
    | _ => rw [step_close_reader hclient (by simp [hbody]) h]
  | died => exact hfails.elim
  | elapsed => exact hfails.elim

end Exchange

/-! ## Frames that must not be published -/

/-- What is wrong with a layer on a texture of this size: it has an empty rectangle, or one whose
far edges lie outside. -/
def Layer.Faulty (layer : Layer) (texture : PixelSize) : Prop :=
  layer.rect.size.isEmpty = true ∨
    texture.width.toNat < layer.rect.origin.x.toNat + layer.rect.size.width.toNat ∨
    texture.height.toNat < layer.rect.origin.y.toNat + layer.rect.size.height.toNat

/-- The frames that must not be published: with too many layers, with layers on an empty texture,
or with a faulty layer anywhere among them. -/
def Frame.Faulty (frame : Frame) : Prop :=
  maxLayers < frame.layers.length ∨
    (frame.layers ≠ [] ∧ frame.config.textureSize.isEmpty = true) ∨
    ∃ layer ∈ frame.layers, layer.Faulty frame.config.textureSize

/-- A layer passes its check when nothing is wrong with it. -/
theorem Layer.not_faulty_iff (layer : Layer) (texture : PixelSize) : ¬layer.Faulty texture ↔
    layer.rect.size.isEmpty = false ∧ layer.rect.fitsWithin texture = true := by
  rw [Layer.Faulty, PixelRect.fitsWithin_iff, not_or, not_or, Bool.not_eq_true, Nat.not_lt,
    Nat.not_lt]

/-- They are the frames that do not pass the check. -/
theorem Frame.faulty_iff (frame : Frame) : frame.Faulty ↔ frame.check ≠ .ok () := by
  have hpasses : frame.check = .ok () ↔ ¬frame.Faulty := by
    rw [Frame.check_eq_ok_iff, Frame.Faulty, not_or, not_or, Nat.not_lt]
    refine and_congr_right fun _ => and_congr ?_ ?_
    · rw [not_and, Bool.not_eq_true, Decidable.or_iff_not_imp_left, ne_eq]
    · simp only [not_exists, not_and, Layer.not_faulty_iff]
  rw [ne_eq, hpasses, Classical.not_not]

/-! ## Broken rules of a writer -/

/-- The calls that give up the frame that was begun: it must not be published, or it is dropped. -/
inductive Call.Discards : Call → Prop where
  | submit {frame : Frame} : frame.Faulty → Call.Discards (.submit frame)
  | abandon : Call.Discards .abandon

/-- The calls that need a writer with nothing going on. -/
inductive Call.Engages : Call → Prop where
  | beginFrame : Call.Engages .beginFrame
  | submitEmpty : Call.Engages .submitEmpty
  | detach : Call.Engages .detach

/-- A frame that is begun is still begun after a call that needed the writer and failed. -/
theorem Client.tokenAfter_engages {c : Client} {call : Call} {book : LockBook}
    (hcall : call.Engages) (failure : Failure) (hdepth : book.depth ≠ 0) :
    c.tokenAfter call (.failed failure) book = c.token := by
  unfold Client.tokenAfter
  rw [if_neg hdepth]
  cases hcall <;> rfl

namespace Exchange

variable {x : Exchange} {id : Nat} {c : Client} {w : Writer} {thread : Thread} {call : Call}

/-- The call breaks a rule. Its thread has the guards that it had, the object is like this
afterwards, and neither the memory nor the lock was touched. -/
def Violates (x : Exchange) (id : Nat) (thread : Thread) (call : Call) (c' : Client)
    (y : Exchange) : Prop :=
  (∃ violation, x.step thread (.call id call) = some (.failed (.violation violation), y)) ∧
    y.Held id c' thread ∧ y.memory = x.memory ∧ y.mutex = x.mutex

/-- An operation that breaks a rule before it does anything. -/
theorem Held.violates {α : Type} {operation : Act α} {answer : α → Answer} {violation : Violation}
    {token : Option NextFrame} (hheld : x.Held id c thread)
    (hoperation : c.operation call = some (Act.answering c.body operation answer))
    (hresult : operation (x.site thread c.book) =
      .error (.violation violation) (x.site thread c.book))
    (htoken : c.tokenAfter call (.failed (.violation violation)) c.book = token) :
    ∃ y, x.Violates id thread call { c with token } y := by
  refine ⟨x.put id { c with token }, ⟨violation, ?_⟩, ⟨?_, hheld.guard, hheld.alive⟩, rfl, rfl⟩
  · rw [step, if_neg hheld.alive, ← htoken]
    show x.call thread id call = _
    rw [call_eq_settle hheld.client (fun _ => hheld.guard) hoperation, Act.answering,
      bind_error hresult]
    rfl
  · rw [get?_put, if_pos rfl]

/-- A writer between two calls has the role of one. -/
theorem Held.role (hheld : x.Held id c thread) (hsound : x.Sound) (hbody : c.body = .writer w) :
    c.book.machine.role = .writer := by
  rw [(hsound.settled id c hheld.client).role, hbody]
  rfl

/-- To give up the frame that was begun breaks a rule, and there is no such frame any more. -/
theorem Held.discards {next : NextFrame} (hheld : x.Held id c thread) (hsound : x.Sound)
    (hbody : c.body = .writer w) (htoken : c.token = some next) (hcall : call.Discards) :
    ∃ y, x.Violates id thread call { c with token := none } y := by
  cases hcall with
  | @submit frame hfaulty =>
    have hoperation : c.operation (.submit frame) =
        some (Act.answering c.body (w.submit frame) fun _ => .done) := by
      rw [Client.operation, hbody, htoken]
    obtain ⟨violation, hresult⟩ := w.submit_refused (s := x.site thread c.book)
      (hheld.role hsound hbody) (.inl (frame.faulty_iff.mp hfaulty))
    refine hheld.violates hoperation hresult ?_
    rw [Client.tokenAfter]
    split <;> rfl
  | abandon =>
    have hoperation : c.operation .abandon =
        some (Act.answering c.body (Writer.abandon next) fun _ => .done) := by
      rw [Client.operation, hbody, htoken]
    have hresult : Writer.abandon next (x.site thread c.book) =
        .error (.violation (.frameNotSubmitted next.slot)) (x.site thread c.book) := rfl
    refine hheld.violates hoperation hresult ?_
    rw [Client.tokenAfter]
    split <;> rfl

/-- Whatever needs a writer with nothing going on breaks a rule in any other phase. -/
theorem Held.obstructed (hheld : x.Held id c thread) (hsound : x.Sound)
    (hbody : c.body = .writer w) (hphase : c.book.machine.phase ≠ .locked)
    (hcall : call.Engages) : ∃ y, x.Violates id thread call c y := by
  have hmove {target : Phase} (hallows : Role.writer.allows .locked target = true) :
      Act.move .locked target (x.site thread c.book) =
        .error (.violation (.move (.elsewhere c.book.machine.phase .locked target)))
          (x.site thread c.book) :=
    move_elsewhere target (Writer.allows (hheld.role hsound hbody) hallows) hphase
  have hdepth : c.book.depth ≠ 0 := Nat.pos_iff_ne_zero.mp hheld.guard.1
  cases hcall with
  | beginFrame =>
    have hoperation : c.operation .beginFrame =
        some (Act.answering c.body Writer.beginFrame .next) := by
      rw [Client.operation, hbody]
    exact hheld.violates hoperation (bind_error (hmove (by decide)))
      (Client.tokenAfter_engages .beginFrame _ hdepth)
  | submitEmpty =>
    have hoperation : c.operation .submitEmpty =
        some (Act.answering c.body w.submitEmpty fun _ => .done) := by
      rw [Client.operation, hbody]
    exact hheld.violates hoperation (bind_error (hmove (by decide)))
      (Client.tokenAfter_engages .submitEmpty _ hdepth)
  | detach =>
    have hoperation : c.operation .detach =
        some (Act.answering c.body w.detach fun _ => .done) := by
      rw [Client.operation, hbody]
    exact hheld.violates hoperation (bind_error (hmove (by decide)))
      (Client.tokenAfter_engages .detach _ hdepth)

end Exchange

end FrameExchange
