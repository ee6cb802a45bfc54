import FrameExchange.Proofs.Reading

/-!
# What operations cannot see

Log, clock and the record of consumers play no part in what an operation does. On two sites that
differ in nothing else it ends in the same way, with the same value, and leaves two sites that
differ in nothing else.

- `Alike` — two ends of operations on such sites, with values that belong together.
- `Alike.bind` — operations one after the other.
- `Act.Blind` — an operation that sees nothing of the log; every operation of a writer is one, and
  every operation on the lock.
-/

namespace FrameExchange

open Act

/-! ## Sites that differ in the log -/

namespace Host.Still

variable {h h' : Host}

theorem symm (hstill : h.Still h') : h'.Still h :=
  ⟨hstill.entropy.symm, fun pid => (hstill.files pid).symm⟩

/-- What both hosts log does not matter. -/
theorem report_both (hstill : h.Still h') (event event' : Event) :
    (h.report event).Still (h'.report event') := by
  refine (report h event).symm.trans ?_
  exact hstill.trans (report h' event')

/-- Whom both hosts remember does not matter. -/
theorem see_both (hstill : h.Still h') (pid : UInt32) (kind : ConsumerKind) :
    (h.see pid kind).Still (h'.see pid kind) := by
  refine (see h pid kind).symm.trans ?_
  exact hstill.trans (see h' pid kind)

end Host.Still

theorem Site.Still.symm {s s' : Site} (h : s.Still s') : s'.Still s := by
  refine ⟨h.host.symm, ?_⟩
  rw [h.rest]

/-! ## Ends that are alike -/

/-- Two operations have ended in the same way: with values that belong together, or with the same
failure, and on sites that differ in the log only. -/
inductive Alike {α β : Type} (P : α → β → Prop) :
    EStateM.Result Failure Site α → EStateM.Result Failure Site β → Prop where
  | ok {a : α} {b : β} {s s' : Site} : P a b → s.Still s' → Alike P (.ok a s) (.ok b s')
  | error {failure : Failure} {s s' : Site} : s.Still s' →
      Alike P (.error failure s) (.error failure s')

namespace Alike

variable {α β γ δ : Type} {P : α → β → Prop} {Q : γ → δ → Prop} {s s' : Site}

/-- Values that belong together belong together in a weaker sense. -/
theorem imp {P' : α → β → Prop} {result : EStateM.Result Failure Site α}
    {result' : EStateM.Result Failure Site β} (h : Alike P result result')
    (himp : ∀ a b, P a b → P' a b) : Alike P' result result' := by
  cases h with
  | ok hvalues hstill => exact .ok (himp _ _ hvalues) hstill
  | error hstill => exact .error hstill

/-- Operations one after the other: the second goes on where the first has ended. -/
theorem bind {operation : Act α} {operation' : Act β} {next : α → Act γ} {next' : β → Act δ}
    (h : Alike P (operation s) (operation' s'))
    (hnext : ∀ a b t t', operation s = .ok a t → P a b → t.Still t' →
      Alike Q (next a t) (next' b t')) :
    Alike Q ((operation >>= next) s) ((operation' >>= next') s') := by
  generalize hresult : operation s = result at h
  generalize hresult' : operation' s' = result' at h
  cases h with
  | ok hvalues hstill =>
    rw [bind_ok hresult, bind_ok hresult']
    exact hnext _ _ _ _ hresult hvalues hstill
  | error hstill =>
    rw [bind_error hresult, bind_error hresult']
    exact .error hstill

/-- Operations after a first one whose failure is caught. -/
theorem attempt {operation : Act α} {operation' : Act β} {next : Except Failure α → Act γ}
    {next' : Except Failure β → Act δ} (h : Alike P (operation s) (operation' s'))
    (hok : ∀ a b t t', operation s = .ok a t → P a b → t.Still t' →
      Alike Q (next (.ok a) t) (next' (.ok b) t'))
    (herror : ∀ failure t t', operation s = .error failure t → t.Still t' →
      Alike Q (next (.error failure) t) (next' (.error failure) t')) :
    Alike Q ((Act.attempt operation >>= next) s) ((Act.attempt operation' >>= next') s') := by
  generalize hresult : operation s = result at h
  generalize hresult' : operation' s' = result' at h
  cases h with
  | ok hvalues hstill =>
    rw [bind_ok (attempt_ok hresult), bind_ok (attempt_ok hresult')]
    exact hok _ _ _ _ hresult hvalues hstill
  | error hstill =>
    rw [bind_ok (attempt_error hresult), bind_ok (attempt_error hresult')]
    exact herror _ _ _ hresult hstill

end Alike

namespace Act

variable {α β : Type}

/-- The operation does not depend on the log. -/
def Blind (operation : Act α) : Prop :=
  ∀ s s', s.Still s' → Alike (· = ·) (operation s) (operation s')

namespace Blind

theorem pure (a : α) : Blind (Pure.pure a : Act α) := fun _ _ h => .ok rfl h

theorem throw (failure : Failure) : Blind (MonadExcept.throw failure : Act α) :=
  fun _ _ h => .error h

theorem bind {operation : Act α} {next : α → Act β} (h : operation.Blind)
    (hnext : ∀ a, (next a).Blind) : (operation >>= next).Blind := by
  intro s s' hstill
  refine (h s s' hstill).bind ?_
  rintro a _ t t' - rfl hstill'
  exact hnext a t t' hstill'

/-- An operation that looks at its site first. -/
theorem of_get {next : Site → Act α}
    (h : ∀ s s', s.Still s' → Alike (· = ·) (next s s) (next s' s')) :
    (MonadState.get >>= next).Blind := fun s s' hstill => h s s' hstill

theorem attempt {operation : Act α} {next : Except Failure α → Act β} (h : operation.Blind)
    (hnext : ∀ outcome, (next outcome).Blind) : (Act.attempt operation >>= next).Blind := by
  intro s s' hstill
  refine (h s s' hstill).attempt ?_ ?_
  · rintro a _ t t' - rfl hstill'
    exact hnext _ t t' hstill'
  · intro failure t t' _ hstill'
    exact hnext _ t t' hstill'

theorem modify {f : Site → Site} (h : ∀ s s', s.Still s' → (f s).Still (f s')) :
    Blind (modify f) := fun s s' hstill => .ok rfl (h s s' hstill)

/-! ### Steps -/

theorem report (event : Event) : Blind (Act.report event) := by
  refine .modify fun s s' h => ⟨h.host.report_both event event, ?_⟩
  rw [h.rest]

theorem load : Blind Act.load := by
  refine .of_get fun s s' h => .ok ?_ h
  rw [h.memory]

theorem store (header : Header) : Blind (Act.store header) := by
  refine .modify fun s s' h => ⟨h.host, ?_⟩
  rw [h.rest]

theorem update (f : Header → Header) : Blind (Act.update f) := .bind .load fun _ => .store _

theorem newHeader (gpu : UInt64) : Blind (Act.newHeader gpu) := by
  intro s s' h
  rw [newHeader_ok, newHeader_ok, Host.newSession, Host.newSession, h.host.entropy, h.caller]
  refine .ok rfl ⟨⟨?_, h.host.files⟩, ?_⟩
  · rfl
  · rw [h.rest]

theorem see (kind : ConsumerKind) : Blind (Act.see kind) := by
  refine .modify fun s s' h => ⟨?_, ?_⟩
  · rw [h.caller]
    exact h.host.see_both _ _
  · rw [h.rest]

theorem peekKey : Blind Act.peekKey := by
  refine .of_get fun s s' h => .ok ?_ h
  rw [h.memory]

theorem move (source target : Phase) : Blind (Act.move source target) := by
  refine .of_get fun s s' h => ?_
  rw [h.book]
  cases s.book.machine.move source target with
  | ok machine => exact .ok rfl ⟨h.host, by rw [h.rest]⟩
  | error fault => exact .error h

/-! ### Locks -/

theorem wait (mode : LockMode) : Blind (Act.wait mode) := by
  cases mode with
  | attempt => exact .pure _
  | blocking => exact .throw _

/-- Sites that differ in the log differ in the host. -/
theorem of_host {operation : Act α} (h : ∀ (s : Site) (host : Host), s.host.Still host →
    Alike (· = ·) (operation s) (operation { s with host })) : operation.Blind := by
  intro s s' hstill
  rw [hstill.rest]
  exact h s s'.host hstill.host

/-- Asking for a first guard with the machine where it begins. -/
theorem acquireFirst_ready (mode : LockMode) {s : Site} {host : Host} (hready : s.Ready)
    (hhost : s.host.Still host) :
    Alike (· = ·) (acquireFirst mode s) (acquireFirst mode { s with host }) := by
  have hready' : ({ s with host } : Site).Ready := ⟨hready.depth, hready.mine, hready.phase⟩
  cases hholding : s.mutex.holding with
  | free =>
    rw [acquireFirst_free mode hready hholding, acquireFirst_free mode hready' hholding]
    exact .ok rfl ⟨hhost, rfl⟩
  | orphaned =>
    rw [acquireFirst_orphaned mode hready hholding, acquireFirst_orphaned mode hready' hholding]
    exact .ok rfl ⟨hhost.report_both _ _, rfl⟩
  | held owner =>
    cases howner : s.mutex.knowsOwner s.caller with
    | true =>
      rw [acquireFirst_owner mode hready howner, acquireFirst_owner mode hready' howner]
      exact .error ⟨hhost, rfl⟩
    | false =>
      rw [acquireFirst_held mode hready hholding howner,
        acquireFirst_held mode hready' hholding howner]
      exact wait mode _ _ ⟨hhost, rfl⟩

theorem acquire (mode : LockMode) : Blind (Act.acquire mode) := by
  refine .of_host fun s host hhost => ?_
  by_cases hmine : s.book.heldElsewhere s.caller = false
  · by_cases hdepth : 0 < s.book.depth
    · rw [acquire_nested mode hdepth hmine,
        acquire_nested (s := { s with host }) mode hdepth hmine]
      exact .ok rfl ⟨hhost, rfl⟩
    · have hzero : s.book.depth = 0 := Nat.eq_zero_of_not_pos hdepth
      rw [acquire_first mode hzero hmine, acquire_first (s := { s with host }) mode hzero hmine]
      by_cases hphase : s.book.machine.phase = .unlocked
      · exact acquireFirst_ready mode ⟨hzero, hmine, hphase⟩ hhost
      · rw [acquireFirst_stuck mode hphase, acquireFirst_stuck (s := { s with host }) mode hphase]
        exact .error ⟨hhost, rfl⟩
  · have helsewhere := Bool.of_not_eq_false hmine
    rw [acquire_elsewhere mode helsewhere, acquire_elsewhere (s := { s with host }) mode helsewhere]
    exact wait mode _ _ ⟨hhost, rfl⟩

/-- The end of giving the lock back. -/
theorem hand_back : Blind (do
    let s ← MonadState.get
    match s.mutex.release s.caller with
    | .ok mutex => set { s with mutex }
    | .error reason => Act.report (.notReleased s.names.lock (.notUnlocked s.names.lock reason)) :
      Act Unit) := by
  refine .of_get fun s s' h => ?_
  rw [h.rest]
  dsimp only
  cases s.mutex.release s.caller with
  | ok mutex => exact .ok rfl ⟨h.host, rfl⟩
  | error reason => exact .ok rfl ⟨h.host.report_both _ _, rfl⟩

theorem releaseLast (unwinding : Bool) : Blind (Act.releaseLast unwinding) := by
  refine .bind (.modify fun s s' h => ⟨h.host, by rw [h.rest]⟩) fun _ => ?_
  cases unwinding with
  | true => exact .bind (.modify fun s s' h => ⟨h.host, by rw [h.rest]⟩) fun _ => hand_back
  | false => exact .bind (.move _ _) fun _ => hand_back

theorem release (unwinding : Bool) : Blind (Act.release unwinding) := by
  refine .of_get fun s s' h => ?_
  rw [h.book]
  by_cases hmany : 1 < s.book.depth
  · rw [if_pos hmany, if_pos hmany]
    exact .ok rfl ⟨h.host, by rw [h.rest]⟩
  · rw [if_neg hmany, if_neg hmany]
    exact releaseLast unwinding s s' h

theorem guarded {operation : Act α} (h : operation.Blind) : Blind (Act.guarded operation) := by
  refine .attempt h fun outcome => ?_
  cases outcome with
  | ok a => exact .bind (.release false) fun _ => .pure a
  | error failure => exact .attempt (.release _) fun _ => .throw failure

theorem region : Blind Act.region := by
  refine .of_get fun s s' h => .ok ?_ h
  rw [h.rest]

end Blind

end Act

/-! ## Writers -/

namespace Writer

variable {α : Type} (w : Writer) (mode : LockMode)

theorem lock_blind : (w.lock mode).Blind := by
  refine .bind (.acquire mode) fun acquired => ?_
  split
  · refine .bind (.newHeader w.gpu) fun h => .bind (.store h) fun _ => .bind .region fun _ => ?_
    exact .bind (.report _) fun _ => .pure acquired
  · exact .pure acquired

theorem beginFrame_blind : beginFrame.Blind := by
  refine .bind (.move _ _) fun _ => .bind .load fun _ => ?_
  exact .bind (.modify fun s s' h => ⟨h.host, by rw [h.rest]⟩) fun _ => .bind .load fun _ => .pure _

theorem submit_blind (frame : Frame) : (w.submit frame).Blind := by
  rw [submit]
  split
  · exact .throw _
  · exact .bind (.move _ _) fun _ => .bind (.update _) fun _ => .move _ _

theorem submitEmpty_blind : w.submitEmpty.Blind :=
  .bind (.move _ _) fun _ => .bind (.update _) fun _ => .move _ _

theorem detach_blind : w.detach.Blind := by
  refine .bind (.move _ _) fun _ => .bind (.newHeader w.gpu) fun h => .bind (.store h) fun _ => ?_
  exact .bind (.move _ _) fun _ => .bind .region fun _ => .report _

theorem locked_blind {body : Act α} (h : body.Blind) : (w.locked mode body).Blind := by
  refine .bind (w.lock_blind mode) fun acquired => ?_
  cases acquired with
  | busy => exact .pure none
  | held abandoned => exact .bind h.guarded fun a => .pure (some a)

theorem takeOver_blind : w.takeOver.Blind := by
  refine .bind .load fun previous => ?_
  have hrest : Blind (do
      let header ← newHeader w.gpu
      store header
      return header.session) :=
    .bind (.newHeader w.gpu) fun h => .bind (.store h) fun _ => .pure _
  dsimp only
  split
  · exact .bind .region fun _ => .bind (.report _) fun _ => hrest
  · exact hrest

theorem close_blind : w.close.Blind := by
  refine .attempt (w.locked_blind .blocking w.detach_blind) fun outcome => ?_
  split
  · exact .pure ()
  · exact .bind .region fun _ => .report _
  · exact .throw _

theorem attach_blind : w.attach.Blind := by
  refine .attempt (w.locked_blind .blocking w.takeOver_blind) fun outcome => ?_
  split
  · exact .bind .region fun _ => .report _
  · exact .pure ()
  · exact .attempt w.close_blind fun _ => .throw _

end Writer

/-! ## Readers -/

namespace Reader

variable (r : Reader) (mode : LockMode)

theorem lock_blind : (lock mode).Blind := by
  refine .bind (.acquire mode) fun acquired => ?_
  split
  · refine .bind .load fun dead => .bind (.newHeader _) fun h => .bind (.store h) fun _ => ?_
    exact .bind .region fun _ => .bind (.report _) fun _ => .pure acquired
  · exact .pure acquired

theorem metadata_blind : metadata.Blind :=
  .bind (.move _ _) fun _ => .bind .load fun h => .bind (.move _ _) fun _ => .pure h

theorem header_blind : (header mode).Blind := by
  refine .bind (lock_blind mode) fun acquired => ?_
  cases acquired with
  | busy => exact .pure none
  | held abandoned => exact .bind metadata_blind.guarded fun h => .pure (some h)

theorem key_blind (kind : ConsumerKind) : (key kind).Blind := .bind (.see kind) fun _ => .peekKey

/-- Handles come from the files of a process, which the log does not touch. -/
theorem prepare_blind (gpu : UInt64) (h : Header) : (r.prepare gpu h).Blind := by
  rw [prepare]
  split
  · exact .pure _
  · split
    · exact .pure _
    · refine .of_get fun s s' hstill => ?_
      rw [r.handles_sameFiles hstill.host.files, hstill.caller]
      cases r.handles s.host s.caller.pid h with
      | ok found => exact .ok rfl hstill
      | error fault => exact Blind.bind (.report _) (fun _ => .pure _) s s' hstill

theorem finish_blind (h : Header) (handles : SlotHandles) (destination : Except CopyFault Nat)
    (copier : Copier) : (r.finish h handles destination copier).Blind := by
  rw [finish.eq_def]
  split
  · exact .bind (.report _) fun _ => .pure _
  · dsimp only
    split
    · exact .pure _
    · exact .bind (.report _) fun _ => .pure _
    · exact .bind (.report _) fun _ => .pure _

end Reader

namespace CachedReader

theorem resolve_blind (c : CachedReader) (h : Header) (copier : Copier) :
    (c.resolve h copier).Blind := by
  refine .bind (c.reader.prepare_blind c.gpu h) fun prepared => ?_
  split
  · exact .pure _
  · exact .bind (Reader.finish_blind _ _ _ _ _) fun _ => .pure _

theorem settle_blind (c : CachedReader) (snapshot : Snapshot) : (c.settle snapshot).Blind := by
  rw [settle]
  split
  · split
    · exact .bind (.report _) fun _ => .bind (.see c.kind) fun _ => .pure _
    · exact .bind (.see c.kind) fun _ => .pure _
  · exact .pure _

end CachedReader

end FrameExchange
