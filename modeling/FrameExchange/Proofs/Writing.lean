import FrameExchange.Proofs.Guard
import FrameExchange.Proofs.Frame

/-!
# What writers do

Each operation of a writer with the site that it leaves: one phase in which it does something to
the header, and in every other phase a broken rule and nothing else.

- `Writer.beginFrame_ok` — the slot that is not shown, and one more on its fence value.
- `Writer.submit_ok`, `Writer.submitEmpty_ok` — a header that was published.
- `Writer.detach_yields`, `Writer.takeOver_yields` — a new session.
- `Writer.closes`, `Writer.attaches` — the end and the start of a writer, with the lock.
-/

namespace FrameExchange

open Act

namespace Header

/-- The slot of the frame after the current one. -/
def nextSlot (h : Header) : Slot := slotOf (h.frame + 1)

theorem nextSlot_ne_slot (h : Header) : h.nextSlot ≠ h.slot := slotOf_succ_ne h.frame

end Header

namespace Writer

variable {s : Site}

/-- The frame to render next, and the fence value to signal. -/
def upcoming (h : Header) : NextFrame := ⟨h.nextSlot, h.fenceValue h.nextSlot + 1⟩

/-- The moves of writers are in their table. -/
theorem allows {source target : Phase} (hrole : s.book.machine.role = .writer)
    (h : Role.writer.allows source target = true) :
    s.book.machine.role.allows source target = true := by
  rw [hrole]
  exact h

/-! ## Frames -/

/-- A frame that is begun gets the slot that is not shown. -/
theorem beginFrame_ok (hlen : Header.byteSize ≤ s.memory.length)
    (hrole : s.book.machine.role = .writer) (hphase : s.book.machine.phase = .locked) :
    beginFrame s = .ok (upcoming (Memory.load s.memory))
      { s.rephase .frameInProgress with
        memory := Memory.raiseFence s.memory (Memory.load s.memory).nextSlot } := by
  have hmove : move .locked .frameInProgress s = .ok () (s.rephase .frameInProgress) :=
    move_ok _ (allows hrole (by decide)) hphase
  have hvalue :
      (Memory.load (Memory.raiseFence s.memory (Memory.load s.memory).nextSlot)).fenceValue
        (Memory.load s.memory).nextSlot =
        (Memory.load s.memory).fenceValue (Memory.load s.memory).nextSlot + 1 := by
    rw [Memory.load_raiseFence _ hlen, Header.fenceValue_raise, if_pos rfl]
  rw [beginFrame, bind_ok hmove, upcoming, ← hvalue]
  rfl

/-- No frame is begun in another phase. -/
theorem beginFrame_elsewhere (hrole : s.book.machine.role = .writer)
    (hphase : s.book.machine.phase ≠ .locked) :
    ∃ failure, beginFrame s = .error failure s := by
  have hmove := move_elsewhere .frameInProgress (allows hrole (by decide)) hphase
  exact ⟨_, bind_error hmove⟩

/-- A frame that was begun and is accepted is published. -/
theorem submit_ok (w : Writer) {frame : Frame} (hcheck : frame.check = .ok ())
    (hrole : s.book.machine.role = .writer) (hphase : s.book.machine.phase = .frameInProgress) :
    w.submit frame s = .ok () { s.rephase .locked with
      memory := Memory.store s.memory ((Memory.load s.memory).publish w.gpu w.pid frame.config
        frame.layers frame.texture frame.fence) } := by
  have hbegin : move .frameInProgress .submittingFrame s = .ok () (s.rephase .submittingFrame) :=
    move_ok _ (allows hrole (by decide)) hphase
  rw [submit, hcheck]
  refine (bind_ok hbegin).trans ?_
  refine (bind_ok (update_ok _ _)).trans ?_
  exact move_ok .locked (allows hrole (by decide)) rfl

/-- Any other frame breaks a rule. -/
theorem submit_refused (w : Writer) {frame : Frame} (hrole : s.book.machine.role = .writer)
    (h : frame.check ≠ .ok () ∨ s.book.machine.phase ≠ .frameInProgress) :
    ∃ violation, w.submit frame s = .error (.violation violation) s := by
  rw [submit]
  cases hcheck : frame.check with
  | error violation => exact ⟨violation, rfl⟩
  | ok u =>
    have hphase := h.resolve_left (fun hne => hne hcheck)
    have hmove := move_elsewhere .submittingFrame (allows hrole (by decide)) hphase
    exact ⟨_, bind_error hmove⟩

/-- An empty frame is published. -/
theorem submitEmpty_ok (w : Writer) (hrole : s.book.machine.role = .writer)
    (hphase : s.book.machine.phase = .locked) :
    w.submitEmpty s = .ok () { s with
      memory := Memory.store s.memory ((Memory.load s.memory).publishEmpty w.gpu w.pid) } := by
  have hbegin : move .locked .submittingEmptyFrame s = .ok () (s.rephase .submittingEmptyFrame) :=
    move_ok _ (allows hrole (by decide)) hphase
  rw [submitEmpty]
  refine (bind_ok hbegin).trans ?_
  refine (bind_ok (update_ok _ _)).trans ?_
  exact move_back (allows hrole (by decide)) hphase rfl

/-- No empty frame is published in another phase. -/
theorem submitEmpty_elsewhere (w : Writer) (hrole : s.book.machine.role = .writer)
    (hphase : s.book.machine.phase ≠ .locked) :
    ∃ failure, w.submitEmpty s = .error failure s := by
  have hmove := move_elsewhere .submittingEmptyFrame (allows hrole (by decide)) hphase
  exact ⟨_, bind_error hmove⟩

/-! ## Sessions -/

/-- What the end of a session does: another one begins. -/
theorem detach_yields (w : Writer) (hrole : s.book.machine.role = .writer) :
    Yields (fun _ s s' => s.Renewed w.gpu s') s (w.detach s) := by
  by_cases hphase : s.book.machine.phase = .locked
  · have hbegin : move .locked .detaching s = .ok () (s.rephase .detaching) :=
      move_ok _ (allows hrole (by decide)) hphase
    have hend : move .detaching .locked ((s.rephase .detaching).renewed w.gpu) =
        .ok () (s.renewed w.gpu) :=
      move_back (allows hrole (by decide)) hphase rfl
    rw [detach, bind_ok hbegin, bind_ok (newHeader_ok _ _), bind_ok (store_ok _ _)]
    refine (bind_ok hend).symm ▸ ?_
    exact .ok ((Site.Renewed.of_renewed s w.gpu).still (.report _ _)) rfl rfl rfl
  · have hmove := move_elsewhere .detaching (allows hrole (by decide)) hphase
    rw [detach, bind_error hmove]
    exact .error _ hphase

/-- Taking over begins a session, whatever was there before. -/
theorem takeOver_yields (w : Writer) (s : Site) :
    Yields (fun _ s s' => s.Renewed w.gpu s') s (w.takeOver s) := by
  rw [takeOver, bind_ok (load_ok s)]
  by_cases hother : ((Memory.load s.memory).hasFeeder &&
      decide ((Memory.load s.memory).feederPid ≠ w.pid)) = true
  · rw [if_pos hother]
    exact .ok (.of_still (.report s _) (.of_renewed _ w.gpu)) rfl rfl rfl
  · rw [if_neg hother]
    exact .ok (.of_renewed s w.gpu) rfl rfl rfl

/-! ## Start and end -/

/-- The end of a session under a guard of its own. -/
theorem detach_underLock (w : Writer) (mode : LockMode) (hrole : s.book.machine.role = .writer)
    (hidle : s.book.depth = 0 → s.book.holder = none) :
    UnderLock mode w.gpu (fun _ t t' => t.Renewed w.gpu t') s (w.locked mode w.detach s) := by
  rw [locked_eq_underLock]
  exact (w.locks mode s).underLock hidle fun t ht => w.detach_yields (ht.trans hrole)

/-- The start of a session under a guard of its own. -/
theorem takeOver_underLock (w : Writer) (mode : LockMode)
    (hidle : s.book.depth = 0 → s.book.holder = none) :
    UnderLock mode w.gpu (fun _ t t' => t.Renewed w.gpu t') s (w.locked mode w.takeOver s) := by
  rw [locked_eq_underLock]
  exact (w.locks mode s).underLock hidle fun t _ => w.takeOver_yields t

/-- How a writer can end: with a new session, or without one, or waiting for the lock. -/
inductive Closes (w : Writer) (s : Site) : EStateM.Result Failure Site Unit → Prop where
  | detached {s' : Site} : s.Restarted w.gpu s' → Closes w s (.ok () s')
  | kept {s' : Site} : s.Still s' → Closes w s (.ok () s')
  | failed (failure : Failure) : Closes w s (.error failure s)

theorem closes (w : Writer) (hrole : s.book.machine.role = .writer) (hdepth : s.book.depth = 0)
    (hholder : s.book.holder = none) : Closes w s (w.close s) := by
  have hunder := w.detach_underLock .blocking hrole (fun _ => hholder)
  generalize hresult : w.locked .blocking w.detach s = result at hunder
  cases result with
  | ok a s' =>
    rw [close, bind_ok (attempt_ok hresult)]
    cases a with
    | none =>
      cases hunder with
      | busy hmode => exact .kept (.refl s)
    | some u => exact .detached (hunder.restarted hdepth)
  | error failure s' =>
    -- without the lock the writer goes and leaves the header as it is
    rw [close, bind_ok (attempt_error hresult)]
    cases hunder with
    | refused =>
      cases failure with
      | error e => exact .kept (.report s _)
      | violation v => exact .failed _
      | blocked => exact .failed _

/-- How a writer can start: with a new session, or not at all. -/
inductive Attaches (w : Writer) (s : Site) : EStateM.Result Failure Site Unit → Prop where
  | attached {s' : Site} : s.Restarted w.gpu s' → Attaches w s (.ok () s')
  | failed {s' : Site} (failure : Failure) : s.Still s' ∨ s.Restarted w.gpu s' →
      Attaches w s (.error failure s')

theorem attaches (w : Writer) (hrole : s.book.machine.role = .writer) (hdepth : s.book.depth = 0)
    (hholder : s.book.holder = none) : Attaches w s (w.attach s) := by
  have hunder := w.takeOver_underLock .blocking (fun _ => hholder)
  generalize hresult : w.locked .blocking w.takeOver s = result at hunder
  cases result with
  | ok a s' =>
    rw [attach, bind_ok (attempt_ok hresult)]
    cases a with
    | none => cases hunder with | busy hmode => cases hmode
    | some session => exact .attached ((hunder.restarted hdepth).still (.report s' _))
  | error failure s' =>
    rw [attach, bind_ok (attempt_error hresult)]
    cases hunder with
    | refused =>
      -- a writer that could not start is closed, which can begin a session all the same
      have hcloses := w.closes hrole hdepth hholder
      generalize hclose : w.close s = result at hcloses
      show Attaches w s ((attempt w.close >>= _) s)
      cases hcloses with
      | detached hrestarted =>
        rw [bind_ok (attempt_ok hclose)]
        exact .failed failure (.inr hrestarted)
      | kept hstill =>
        rw [bind_ok (attempt_ok hclose)]
        exact .failed failure (.inl hstill)
      | failed =>
        rw [bind_ok (attempt_error hclose)]
        exact .failed failure (.inl (.refl s))

end Writer

end FrameExchange
