import FrameExchange.Proofs.Capturing

/-!
# What is logged

The log of a host only grows, and what an operation adds to it is known event by event. A warning
about frame numbers that went backwards comes from one place, a read through a cache that has copied
a header of the same session with a smaller number than the snapshot that it keeps.

- `Host.Logs`, `Act.Reports` — a longer log, and what an operation reports.
- `Act.Reports.bind` — operations one after the other.
- `CachedReader.Behind`, `CachedReader.get_reports` — the one operation that can warn, and when.
- `Exchange.Ordered.logs` — a step reports no frame that went backwards, unless it is such a read.
-/

namespace FrameExchange

open Act

/-- The event is not a warning about frame numbers. -/
def Event.Onward (event : Event) : Prop :=
  ∀ previous current, event ≠ .wentBackwards previous current

/-- The log has grown by events of this kind. -/
def Host.Logs (P : Event → Prop) (h h' : Host) : Prop :=
  ∃ new, h'.events = h.events ++ new ∧ ∀ event ∈ new, P event

namespace Host.Logs

variable {P : Event → Prop} {h h' h'' : Host}

theorem of_eq (heq : h'.events = h.events) : h.Logs P h' := by
  refine ⟨[], ?_, fun event hmem => by cases hmem⟩
  rw [List.append_nil]
  exact heq

theorem refl (h : Host) : h.Logs P h := .of_eq rfl

theorem trans (first : h.Logs P h') (second : h'.Logs P h'') : h.Logs P h'' := by
  obtain ⟨new, heq, hnew⟩ := first
  obtain ⟨new', heq', hnew'⟩ := second
  refine ⟨new ++ new', ?_, List.forall_mem_append.mpr ⟨hnew, hnew'⟩⟩
  rw [heq', heq, List.append_assoc]

theorem report {event : Event} (hevent : P event) : h.Logs P (h.report event) :=
  ⟨[event], rfl, fun _ hmem => List.mem_singleton.mp hmem ▸ hevent⟩

end Host.Logs

/-! ## Operations -/

/-- The site at the end of an operation, however it ended. -/
def siteOf {α : Type} : EStateM.Result Failure Site α → Site
  | .ok _ s => s
  | .error _ s => s

namespace Act

variable {α β : Type} {P : Event → Prop} {s : Site}

/-- What the operation reports from here is of this kind. -/
def Reports (P : Event → Prop) (operation : Act α) (s : Site) : Prop :=
  s.host.Logs P (siteOf (operation s)).host

namespace Reports

/-- An operation that leaves the log alone. -/
theorem of_eq {operation : Act α} (h : (siteOf (operation s)).host.events = s.host.events) :
    operation.Reports P s := Host.Logs.of_eq h

theorem pure (a : α) : Reports P (Pure.pure a) s := .of_eq rfl

theorem throw (failure : Failure) : Reports P (MonadExcept.throw failure : Act α) s := .of_eq rfl

theorem modify {f : Site → Site} (h : (f s).host.events = s.host.events) :
    Reports P (modify f : Act Unit) s := .of_eq h

theorem report {event : Event} (hevent : P event) : Reports P (Act.report event) s :=
  Host.Logs.report hevent

/-- Operations one after the other: the second goes on where the first has ended. -/
theorem bind {operation : Act α} {next : α → Act β} (h : operation.Reports P s)
    (hnext : ∀ a s', operation s = .ok a s' → (next a).Reports P s') :
    (operation >>= next).Reports P s := by
  unfold Reports at h ⊢
  cases hresult : operation s with
  | ok a s' =>
    rw [bind_ok hresult]
    rw [hresult] at h
    exact h.trans (hnext a s' hresult)
  | error failure s' =>
    rw [bind_error hresult]
    rw [hresult] at h
    exact h

/-- A failure that is caught is reported no more than one that is not. -/
theorem attempt {operation : Act α} (h : operation.Reports P s) :
    (Act.attempt operation).Reports P s := by
  unfold Reports at h ⊢
  cases hresult : operation s with
  | ok a s' =>
    rw [attempt_ok hresult]
    rw [hresult] at h
    exact h
  | error failure s' =>
    rw [attempt_error hresult]
    rw [hresult] at h
    exact h

end Reports

/-! ### Steps -/

/-- Most operations report nothing about frame numbers, wherever they begin. -/
def Onward (operation : Act α) : Prop := ∀ s, operation.Reports Event.Onward s

namespace Onward

theorem pure (a : α) : Onward (Pure.pure a : Act α) := fun _ => .pure a

theorem throw (failure : Failure) : Onward (MonadExcept.throw failure : Act α) :=
  fun _ => .throw failure

theorem get : Onward (MonadState.get : Act Site) := fun _ => .of_eq rfl

theorem bind {operation : Act α} {next : α → Act β} (h : operation.Onward)
    (hnext : ∀ a, (next a).Onward) : (operation >>= next).Onward :=
  fun s => (h s).bind fun a s' _ => hnext a s'

theorem attempt {operation : Act α} (h : operation.Onward) : (Act.attempt operation).Onward :=
  fun s => (h s).attempt

theorem modify {f : Site → Site} (h : ∀ s, (f s).host.events = s.host.events) :
    Onward (modify f) := fun s => .modify (h s)

theorem report {event : Event} (hevent : event.Onward) : Onward (Act.report event) :=
  fun _ => .report hevent

theorem region : Onward Act.region := .bind .get fun _ => .pure _

theorem load : Onward Act.load := .bind .get fun _ => .pure _

theorem store (h : Header) : Onward (Act.store h) := .modify fun _ => rfl

theorem update (f : Header → Header) : Onward (Act.update f) := .bind .load fun _ => .store _

theorem newHeader (gpu : UInt64) : Onward (Act.newHeader gpu) := fun _ => .of_eq rfl

theorem see (kind : ConsumerKind) : Onward (Act.see kind) := .modify fun _ => rfl

theorem move (source target : Phase) : Onward (Act.move source target) := by
  intro s
  refine Reports.bind (.of_eq rfl) fun t t' hget => ?_
  cases hget
  split
  · exact .of_eq rfl
  · exact .throw _

/-! ### Locks -/

theorem wait (mode : LockMode) : Onward (Act.wait mode) := by
  cases mode with
  | attempt => exact .pure _
  | blocking => exact .throw _

theorem acquire (mode : LockMode) : Onward (Act.acquire mode) := by
  intro s
  have hacquires := acquires mode s
  unfold Reports
  generalize Act.acquire mode s = result at hacquires
  cases hacquires with
  | inherited => exact Host.Logs.report fun _ _ heq => by cases heq
  | _ => exact .refl _

theorem release (unwinding : Bool) : Onward (Act.release unwinding) := by
  intro s
  have hreleases := releases unwinding s
  unfold Reports
  generalize Act.release unwinding s = result at hreleases
  cases hreleases with
  | kept => exact Host.Logs.report fun _ _ heq => by cases heq
  | _ => exact .refl _

theorem guarded {operation : Act α} (h : operation.Onward) : Onward (Act.guarded operation) := by
  refine .bind h.attempt fun result => ?_
  cases result with
  | ok a => exact .bind (.release false) fun _ => .pure a
  | error failure => exact .bind (Onward.release _).attempt fun _ => .throw failure

end Onward

end Act

/-! ### Writers -/

namespace Writer

variable {α : Type} (w : Writer) (mode : LockMode)

theorem lock_onward : (w.lock mode).Onward := by
  refine .bind (.acquire mode) fun acquired => ?_
  split
  · refine .bind (.newHeader w.gpu) fun h => .bind (.store h) fun _ => .bind .region fun _ => ?_
    exact .bind (.report fun _ _ heq => by cases heq) fun _ => .pure acquired
  · exact .pure acquired

theorem beginFrame_onward : beginFrame.Onward := by
  refine .bind (.move _ _) fun _ => .bind .load fun _ => ?_
  exact .bind (.modify fun _ => rfl) fun _ => .bind .load fun _ => .pure _

theorem submit_onward (frame : Frame) : (w.submit frame).Onward := by
  rw [submit]
  split
  · exact .throw _
  · exact .bind (.move _ _) fun _ => .bind (.update _) fun _ => .move _ _

theorem submitEmpty_onward : w.submitEmpty.Onward :=
  .bind (.move _ _) fun _ => .bind (.update _) fun _ => .move _ _

theorem detach_onward : w.detach.Onward := by
  refine .bind (.move _ _) fun _ => .bind (.newHeader w.gpu) fun h => .bind (.store h) fun _ => ?_
  exact .bind (.move _ _) fun _ => .bind .region fun _ => .report fun _ _ heq => by cases heq

theorem locked_onward {body : Act α} (h : body.Onward) : (w.locked mode body).Onward := by
  refine .bind (w.lock_onward mode) fun acquired => ?_
  cases acquired with
  | busy => exact .pure none
  | held abandoned => exact .bind h.guarded fun a => .pure (some a)

theorem takeOver_onward : w.takeOver.Onward := by
  refine .bind .load fun previous => ?_
  have hrest : Onward (do
      let header ← newHeader w.gpu
      store header
      return header.session) :=
    .bind (.newHeader w.gpu) fun h => .bind (.store h) fun _ => .pure _
  dsimp only
  split
  · exact .bind .region fun _ => .bind (.report fun _ _ heq => by cases heq) fun _ => hrest
  · exact hrest

theorem close_onward : w.close.Onward := by
  refine .bind (w.locked_onward .blocking w.detach_onward).attempt fun result => ?_
  split
  · exact .pure ()
  · exact .bind .region fun _ => .report fun _ _ heq => by cases heq
  · exact .throw _

theorem attach_onward : w.attach.Onward := by
  refine .bind (w.locked_onward .blocking w.takeOver_onward).attempt fun result => ?_
  split
  · exact .bind .region fun _ => .report fun _ _ heq => by cases heq
  · exact .pure ()
  · exact .bind w.close_onward.attempt fun _ => .throw _

end Writer

/-! ### Readers -/

namespace Reader

variable (r : Reader) (mode : LockMode)

theorem lock_onward : (lock mode).Onward := by
  refine .bind (.acquire mode) fun acquired => ?_
  split
  · refine .bind .load fun dead => .bind (.newHeader _) fun h => .bind (.store h) fun _ => ?_
    refine .bind .region fun _ => .bind (.report fun _ _ heq => by cases heq) fun _ => ?_
    exact .pure acquired
  · exact .pure acquired

theorem metadata_onward : metadata.Onward :=
  .bind (.move _ _) fun _ => .bind .load fun h => .bind (.move _ _) fun _ => .pure h

theorem header_onward : (header mode).Onward := by
  refine .bind (lock_onward mode) fun acquired => ?_
  cases acquired with
  | busy => exact .pure none
  | held abandoned => exact .bind metadata_onward.guarded fun h => .pure (some h)

theorem capture_onward : (r.capture mode).Onward := by
  refine .bind (header_onward mode) fun found => ?_
  cases found with
  | none => exact .pure _
  | some h =>
    dsimp only
    split
    on_goal 1 =>
      refine .bind .region fun _ => .bind (.report fun _ _ heq => by cases heq) fun _ => ?_
    -- with or without the message, the header is checked
    all_goals
      split
      · exact .pure _
      · split
        · exact .bind .region fun _ => .bind (.report fun _ _ heq => by cases heq) fun _ => .pure _
        · exact .pure _

theorem captureOrEmpty_onward : (r.captureOrEmpty mode).Onward := by
  refine .bind (r.capture_onward mode).attempt fun result => ?_
  split
  · exact .pure _
  · exact .bind .region fun _ => .bind (.report fun _ _ heq => by cases heq) fun _ => .pure _
  · exact .throw _

theorem prepare_onward (gpu : UInt64) (h : Header) : (r.prepare gpu h).Onward := by
  rw [prepare]
  split
  · exact .pure _
  · split
    · exact .pure _
    · refine .bind .get fun s => ?_
      split
      · exact .pure _
      · exact .bind (.report fun _ _ heq => by cases heq) fun _ => .pure _

theorem finish_onward (h : Header) (handles : SlotHandles) (destination : Except CopyFault Nat)
    (copier : Copier) : (r.finish h handles destination copier).Onward := by
  rw [finish.eq_def]
  split
  · exact .bind (.report fun _ _ heq => by cases heq) fun _ => .pure _
  · dsimp only
    split
    · exact .pure _
    · exact .bind (.report fun _ _ heq => by cases heq) fun _ => .pure _
    · exact .bind (.report fun _ _ heq => by cases heq) fun _ => .pure _

theorem read_onward (kind : ConsumerKind) (gpu : UInt64) (target : Nat) (copier : Copier) :
    (r.read kind gpu target copier).Onward := by
  refine .bind (.see kind) fun _ => .bind (r.captureOrEmpty_onward .blocking) fun captured => ?_
  split
  · next h reader =>
    refine .bind (reader.prepare_onward gpu h) fun prepared => ?_
    split
    · exact .pure _
    · exact finish_onward _ _ _ _ _
  · exact .pure _

theorem metadataSnapshot_onward : (r.metadataSnapshot mode).Onward := by
  refine .bind (r.captureOrEmpty_onward mode) fun captured => ?_
  split
  · exact .pure _
  · exact .pure _

theorem key_onward (kind : ConsumerKind) : (key kind).Onward :=
  .bind (.see kind) fun _ => .bind .get fun _ => .pure _

end Reader

/-! ### Cached readers -/

namespace CachedReader

open Reader

variable {c : CachedReader} {s : Site}

/-- The cached reader keeps a frame of this session with a larger number. -/
def Behind (c : CachedReader) (h : Header) : Prop :=
  c.cache.isValid = true ∧ c.cache.key.session = h.session ∧ h.frame < c.cache.sequence

theorem captureFrame_onward (c : CachedReader) : c.captureFrame.Onward := by
  refine .bind (c.reader.captureOrEmpty_onward .attempt) fun captured => ?_
  split
  · exact .pure _
  · exact .pure _

theorem resolve_onward (c : CachedReader) (h : Header) (copier : Copier) :
    (c.resolve h copier).Onward := by
  refine .bind (c.reader.prepare_onward c.gpu h) fun prepared => ?_
  split
  · exact .pure _
  · exact .bind (finish_onward _ _ _ _ _) fun _ => .pure _

/-- Only here is there a warning. -/
theorem settle_reports {snapshot : Snapshot} {h : Header}
    (hheader : snapshot.isValid = true → snapshot.header? = some h) (hbehind : ¬c.Behind h) :
    (c.settle snapshot).Reports Event.Onward s := by
  rw [settle]
  split
  · next hvalid =>
    replace hheader := hheader hvalid
    have hnot : c.wentBackwards snapshot = false := by
      refine Bool.eq_false_iff.mpr fun hback => hbehind ?_
      simpa [wentBackwards, Behind, Snapshot.key, Snapshot.sequence, Header.key, hheader,
        and_assoc] using hback
    rw [hnot]
    exact Onward.bind (.see c.kind) (fun _ => .pure _) s
  · exact .pure _

theorem look_reports (copier : Copier) (hsure : Sure s)
    (hbehind : ∀ h, headerOf (Reader.header .attempt s) = some h → ¬c.Behind h) :
    (c.look copier).Reports Event.Onward s := by
  refine .bind (c.captureFrame_onward s) fun caught t hcaught => ?_
  obtain ⟨found, c'⟩ := caught
  cases found with
  | none => exact .pure _
  | some h =>
    obtain ⟨hfound, hcache⟩ : headerOf (Reader.header .attempt s) = some h ∧
        c'.cache = c.cache := by
      cases hcapture : c.reader.captureOrEmpty .attempt s with
      | error failure u =>
        rw [captureFrame, bind_error hcapture] at hcaught
        cases hcaught
      | ok captured u =>
        obtain ⟨capture, reader⟩ := captured
        have hno (hnone : ∀ h, capture ≠ .frame h) : False := by
          cases (c.captureFrame_none hcapture hnone).symm.trans hcaught
        cases catches hsure hcapture with
        | frame hfound =>
          cases (c.captureFrame_frame hcapture).symm.trans hcaught
          exact ⟨hfound, rfl⟩
        | useless => exact (hno fun h heq => by cases heq).elim
        | nothing _ hnone => exact (hno hnone).elim
    refine .bind (c'.resolve_onward h copier t) fun resolved u hresolved => ?_
    obtain ⟨snapshot, reader, ring, copier', u', -, hresolves, heq⟩ := c'.resolves h copier t
    cases heq.symm.trans hresolved
    refine .bind (settle_reports (h := h) (fun hvalid => ?_) fun hback => ?_) fun _ _ _ => .pure _
    · rcases hresolves.depicts.2 with rfl | rfl | hdepicts
      · cases hvalid
      · cases hvalid
      · exact hdepicts.header
    · exact hbehind h hfound (by simpa only [Behind, hcache] using hback)

/-- A read reports no frame that went backwards, unless it has copied one. -/
theorem get_reports (copier : Copier) (hsure : Sure s)
    (hbehind : ∀ h, c.copied s = some h → ¬c.Behind h) :
    (c.get copier).Reports Event.Onward s := by
  have hpeek : peekAttached s = .ok (Memory.load s.memory).hasFeeder s := by
    rw [← Memory.peekAttached_eq]
    rfl
  refine .bind (.of_eq rfl) fun attached t hattached => ?_
  cases hpeek.symm.trans hattached
  split
  · exact .pure _
  · next hfeeder =>
    split
    · exact Onward.bind (.report fun _ _ heq => by cases heq) (fun _ => .pure _) s
    · next hring =>
      have hkey : Reader.key c.kind s = .ok (Memory.load s.memory).key
          { s with host := s.host.see s.caller.pid c.kind } := by
        rw [← Memory.peekKey_eq]
        rfl
      refine .bind (key_onward c.kind s) fun key t hpeeked => ?_
      cases hkey.symm.trans hpeeked
      split
      · exact .pure _
      · next hhit =>
        refine look_reports copier (hsure.still (see_still c.kind s)) fun h hfound => hbehind h ?_
        have hasked : c.copied s = headerOf ((do see c.kind; Reader.header .attempt) s) := by
          refine if_pos ⟨by simpa using hfeeder, fun hempty => hring ?_, ?_⟩
          · exact List.isEmpty_iff.mpr hempty
          · simpa [Hits] using hhit
        rw [hasked, bind_ok (see_ok c.kind s)]
        exact hfound

theorem getMetadata_onward (c : CachedReader) : c.getMetadata.Onward :=
  .bind (.see c.kind) fun _ => .bind (c.reader.metadataSnapshot_onward .attempt) fun _ => .pure _

end CachedReader

/-! ## Steps -/

namespace Client

variable {c : Client} {call : Call} {operation : Act (Answer × Body)} {s : Site}

/-- Every call but a read through a cache. -/
theorem operation_onward (hoperation : c.operation call = some operation)
    (hget : ∀ copier, call ≠ .get copier) : operation.Onward := by
  have hanswering {α : Type} {act : Act α} {answer : α → Answer} (h : act.Onward) :
      (Act.answering c.body act answer).Onward := .bind h fun _ => .pure _
  cases call <;> simp only [Client.operation] at hoperation
  case get copier => exact absurd rfl (hget copier)
  case lock mode =>
    split at hoperation
    · next w _ => cases hoperation; exact hanswering (w.lock_onward mode)
    · cases hoperation; exact hanswering (Reader.lock_onward mode)
  case release unwinding => cases hoperation; exact hanswering (.release unwinding)
  case metadata =>
    split at hoperation
    · cases hoperation; exact hanswering .load
    · cases hoperation; exact hanswering Reader.metadata_onward
  case beginFrame =>
    split at hoperation
    · cases hoperation; exact hanswering Writer.beginFrame_onward
    · cases hoperation
  case submit frame =>
    split at hoperation
    · next w _ _ _ => cases hoperation; exact hanswering (w.submit_onward frame)
    · cases hoperation
  case abandon =>
    split at hoperation
    · cases hoperation; exact hanswering (.throw _)
    · cases hoperation
  case submitEmpty =>
    split at hoperation
    · next w _ => cases hoperation; exact hanswering w.submitEmpty_onward
    · cases hoperation
  case detach =>
    split at hoperation
    · next w _ => cases hoperation; exact hanswering w.detach_onward
    · cases hoperation
  case key kind => cases hoperation; exact hanswering (Reader.key_onward kind)
  case read kind gpu target copier =>
    split at hoperation
    · next r _ =>
      cases hoperation
      exact .bind (r.read_onward kind gpu target copier.looked) fun _ => .pure _
    · cases hoperation
  case readMetadata kind =>
    split at hoperation
    · next r _ =>
      cases hoperation
      exact .bind (.bind (.see kind) fun _ => r.metadataSnapshot_onward .blocking) fun _ => .pure _
    · cases hoperation
  case restart gpu length =>
    split at hoperation
    · cases hoperation; exact .pure _
    · cases hoperation
  case getMetadata =>
    split at hoperation
    · next cached _ _ => cases hoperation; exact .bind cached.getMetadata_onward fun _ => .pure _
    · cases hoperation

end Client

namespace Exchange

variable {x y : Exchange} {thread : Thread} {move : Move} {answer : Answer}

/-- What is reported in a step is in the log after it. -/
theorem settle_logs {α : Type} {operation : Act α} {s : Site} {P : Event → Prop}
    {ok : α → Site → Answer × Exchange} {failed : Failure → Site → Exchange}
    (hreports : operation.Reports P s) (hok : ∀ a s', (ok a s').2.host = s'.host)
    (hfailed : ∀ failure s', (failed failure s').host = s'.host)
    (h : settle (operation s) ok failed = some (answer, y)) : s.host.Logs P y.host := by
  unfold Act.Reports at hreports
  rcases settle_eq_some h with ⟨a, s', hresult, hend⟩ | ⟨failure, s', hresult, -, hend⟩
  · have hhost : y.host = s'.host := by rw [← hok a s', hend]
    rw [hresult] at hreports
    exact hhost ▸ hreports
  · have hhost : y.host = s'.host := hend ▸ hfailed failure s'
    rw [hresult] at hreports
    exact hhost ▸ hreports

/-- A step of an object reports no frame that went backwards, unless a cached reader has copied one
that is behind the frame it keeps. -/
theorem Ordered.logs (hordered : x.Ordered) (hstep : x.step thread move = some (answer, y))
    (helapsed : ∀ processes clock opened events, move ≠ .elapse processes clock opened events)
    (hbehind : ∀ id c cached number h, x.clients.get? id = some c →
      c.body = .cached cached number → Deed.captured ⟨x, thread, move, answer, y⟩ id = some h →
      ¬cached.Behind h) : x.host.Logs Event.Onward y.host := by
  rw [step.eq_def] at hstep
  split at hstep
  · cases hstep
  next halive =>
    cases move with
    | openWriter id gpu =>
      replace hstep : x.openWriter thread id gpu = some (answer, y) := hstep
      rw [openWriter] at hstep
      split at hstep
      · cases hstep
      · have hreports := Writer.attach_onward ⟨gpu, thread.pid⟩ (x.site thread (.fresh .writer))
        exact settle_logs hreports (fun _ _ => rfl) (fun _ _ => rfl) hstep
    | openReader id =>
      replace hstep : x.openReader id _ = some (answer, y) := hstep
      rw [openReader] at hstep
      split at hstep
      · cases hstep
      · cases hstep
        exact .report fun _ _ heq => by cases heq
    | openCached id kind =>
      replace hstep : x.openReader id _ = some (answer, y) := hstep
      rw [openReader] at hstep
      split at hstep
      · cases hstep
      · cases hstep
        exact .report fun _ _ heq => by cases heq
    | close id =>
      replace hstep : x.close thread id = some (answer, y) := hstep
      rw [close] at hstep
      split at hstep
      · cases hstep
      · next c _ =>
        split at hstep
        · cases hstep
        · split at hstep
          · next w _ =>
            exact settle_logs (w.close_onward (x.site thread c.book)) (fun _ _ => rfl)
              (fun _ _ => rfl) hstep
          · cases hstep
            exact .refl _
    | call id call =>
      replace hstep : x.call thread id call = some (answer, y) := hstep
      obtain ⟨c, operation, hclient, hguard, hoperation, -⟩ := call_ends hstep
      rw [call_eq_settle hclient hguard hoperation] at hstep
      refine settle_logs (s := x.site thread c.book) ?_ (fun _ _ => rfl) (fun _ _ => rfl) hstep
      by_cases hget : ∃ copier, call = .get copier
      · obtain ⟨copier, rfl⟩ := hget
        simp only [Client.operation] at hoperation
        split at hoperation
        · next cached number hbody =>
          cases hoperation
          have htidy := (hordered.settled id c hclient).tidy (s := x.site thread c.book) rfl
            (by rw [hbody]; rfl)
          have hsure : Reader.Sure (x.site thread c.book) := ⟨htidy, hordered.owned halive hclient⟩
          refine .bind (cached.get_reports copier.looked hsure fun h hcopied => ?_)
            fun _ _ _ => .pure _
          refine hbehind id c cached number h hclient hbody ?_
          rw [Deed.captured_call rfl hclient]
          exact (Client.captured_get copier hbody).trans hcopied
        · cases hoperation
      · exact Client.operation_onward hoperation (fun copier heq => hget ⟨copier, heq⟩) _
    | die => cases hstep; exact .refl _
    | elapse processes clock opened events =>
      exact absurd rfl (helapsed processes clock opened events)

end Exchange

end FrameExchange
