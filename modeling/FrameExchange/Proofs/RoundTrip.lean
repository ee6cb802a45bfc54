import FrameExchange.Proofs.History
import FrameExchange.Proofs.Showing

/-!
# From a writer to every reader

A writer with the lock publishes a frame. Nobody can keep it from that, whatever others do between
its steps, and until the next frame or session every read that gets the lock shows what was
submitted, bit for bit.

- `Header.Carries` — a header with a frame in it, and nothing of an earlier one.
- `Exchange.Held`, `Exchange.Meanwhile` — guards of a thread, and what others do in the meantime.
- `Exchange.Held.begin`, `Exchange.Held.submit`, `Exchange.Held.release` — the three steps.
- `Exchange.RoundTrips`, `Reachable.roundTrips` — all of it together.
-/

namespace FrameExchange

/-! ## Headers with a frame in them -/

namespace Header

/-- The header after `before` has exactly this frame of this writer in it. -/
structure Carries (h before : Header) (w : Writer) (next : NextFrame) (frame : Frame) : Prop where
  attached : h.hasFeeder = true
  session : h.session = before.session
  number : h.frame = before.frame + 1
  gpu : h.gpu = w.gpu
  feederPid : h.feederPid = w.pid
  texture : h.texture = frame.texture
  fence : h.fence = frame.fence
  config : h.config = frame.config
  layers : h.layers = frame.layers
  /-- No layer of an earlier frame is left behind these. -/
  layerTable : h.layerTable = tableOf frame.layers
  slot : h.slot = next.slot
  fenceValue : h.fenceValue next.slot = next.fenceValue

/-- A frame that was begun and published is in the header. -/
theorem carries_publish {before : Header} (w : Writer) {frame : Frame}
    (hmagic : before.magic = headerMagic) (hcheck : frame.check = .ok ()) :
    (Memory.stored ((before.raise before.nextSlot).publish w.gpu w.pid frame.config frame.layers
      frame.texture frame.fence)).Carries before w (Writer.upcoming before) frame := by
  constructor
  case attached =>
    rw [Memory.hasFeeder_stored, hasFeeder, attachedFlag_publish, Bool.and_true]
    exact beq_iff_eq.mpr hmagic
  case layers =>
    exact layers_publish (before.raise before.nextSlot) w.gpu w.pid frame.config frame.layers
      frame.texture frame.fence (frame.check_eq_ok_iff.mp hcheck).1
  case fenceValue =>
    show (before.raise before.nextSlot).fenceValue before.nextSlot = _
    rw [fenceValue_raise, if_pos rfl]
    rfl
  all_goals rfl

/-- What is in a header is in every header that shows the same frame. -/
theorem Carries.sameFrame {h h' before : Header} {w : Writer} {next : NextFrame} {frame : Frame}
    (hcarries : h.Carries before w next frame) (hsame : h.SameFrame h') :
    h'.Carries before w next frame := by
  -- only fence values can differ, and not the one of the frame's slot
  have hvalue : h'.fenceValue next.slot = next.fenceValue := by
    rw [← hcarries.slot, hsame.ready, hcarries.slot]
    exact hcarries.fenceValue
  rw [hsame.rest] at hvalue ⊢
  exact { hcarries with fenceValue := hvalue }

end Header

/-! ## Guards -/

/-- The object in another phase, with another frame begun. -/
def Client.moved (c : Client) (phase : Phase) (token : Option NextFrame) : Client :=
  { c with book := { c.book with machine := { c.book.machine with phase } }, token }

namespace Exchange

/-- A living thread has guards of this object. -/
structure Held (x : Exchange) (id : Nat) (c : Client) (thread : Thread) : Prop where
  client : x.clients.get? id = some c
  guard : c.GuardOf thread
  alive : thread ∉ x.dead

/-- What others do while a thread that has guards of an object lives and does not use it. -/
def Meanwhile (x : Exchange) (id : Nat) (thread : Thread) (y : Exchange) : Prop :=
  ∃ deeds, Run x deeds y ∧ (∀ d ∈ deeds, ∀ call, d.move ≠ .call id call) ∧ thread ∉ y.dead

variable {x y : Exchange} {id : Nat} {c : Client} {w : Writer} {thread : Thread}

/-- A thread with guards has the lock. -/
theorem Held.hasLock (hheld : x.Held id c thread) : x.HasLock id thread :=
  ⟨c, hheld.client, hheld.guard.2, hheld.alive⟩

/-- Others change neither the object nor the header. -/
theorem Held.meanwhile (hheld : x.Held id c thread) (hsound : x.Sound)
    (hmeanwhile : x.Meanwhile id thread y) :
    y.Sound ∧ y.Held id c thread ∧ y.header = x.header := by
  obtain ⟨deeds, hrun, haside, hliving⟩ := hmeanwhile
  induction hrun with
  | nil => exact ⟨hsound, hheld, rfl⟩
  | @snoc deeds d hrun hvalid ih =>
    have hbefore := hrun.sound hsound
    obtain ⟨hactor, hhappens⟩ := happens hbefore.settled hbefore.length hvalid
    rw [List.forall_mem_append] at haside
    obtain ⟨-, hheld', hheader⟩ := ih haside.1 (hhappens.living hliving)
    have hlast := haside.2 d (List.mem_singleton.mpr rfl)
    refine ⟨hbefore.step hvalid, ⟨?_, hheld'.guard, hliving⟩, ?_⟩
    · exact hhappens.client_aside hheld'.client hheld'.guard.1 hlast
    · rw [← hheader]
      exact hhappens.header_aside hbefore.exclusive hactor hheld'.hasLock hlast

/-! ## Steps of a writer -/

/-- An object that has answered a call and moved on still has its guards. -/
theorem Held.answered {call : Call} {answer : Answer} {s' : Site} {phase : Phase}
    {token : Option NextFrame} (hheld : x.Held id c thread)
    (hbook : s'.book = (c.moved phase token).book)
    (htoken : c.tokenAfter call answer s'.book = token) :
    ((x.leave s').put id ⟨c.body, s'.book, c.tokenAfter call answer s'.book⟩).Held id
      (c.moved phase token) thread := by
  rw [htoken, hbook]
  refine ⟨?_, hheld.guard, hheld.alive⟩
  rw [Exchange.put, Table.get?_insert, if_pos rfl]
  rfl

/-- A frame is begun. -/
theorem Held.begin (hheld : x.Held id c thread) (hsound : x.Sound) (hbody : c.body = .writer w)
    (hphase : c.book.machine.phase = .locked) : ∃ x',
    x.step thread (.call id .beginFrame) = some (.next (Writer.upcoming x.header), x') ∧
    x'.Held id (c.moved .frameInProgress (some (Writer.upcoming x.header))) thread ∧
    x'.header = x.header.raise x.header.nextSlot := by
  have hrole : c.book.machine.role = .writer := by
    rw [(hsound.settled id c hheld.client).role, hbody]
    rfl
  have hoperation : c.operation .beginFrame =
      some (Act.answering c.body Writer.beginFrame .next) := by
    rw [Client.operation, hbody]
  have hresult : Act.answering c.body Writer.beginFrame .next (x.site thread c.book) = _ :=
    Act.answering_ok (Writer.beginFrame_ok hsound.length hrole hphase)
  refine ⟨_, step_call hheld.alive hheld.client (fun _ => hheld.guard) hoperation hresult, ?_,
    Memory.load_raiseFence _ hsound.length⟩
  have htoken (book : LockBook) (hdepth : book.depth = c.book.depth) (next : NextFrame) :
      c.tokenAfter .beginFrame (.next next) book = some next := by
    rw [Client.tokenAfter, hdepth, if_neg (Nat.pos_iff_ne_zero.mp hheld.guard.1)]
  exact hheld.answered rfl (htoken _ rfl _)

/-- The frame that was begun is submitted. -/
theorem Held.submit {next : NextFrame} {frame : Frame} (hheld : x.Held id c thread)
    (hsound : x.Sound) (hbody : c.body = .writer w)
    (hphase : c.book.machine.phase = .frameInProgress) (htoken : c.token = some next)
    (hcheck : frame.check = .ok ()) : ∃ x',
    x.step thread (.call id (.submit frame)) = some (.done, x') ∧
    x'.Held id (c.moved .locked none) thread ∧
    x'.header = Memory.stored (x.header.publish w.gpu w.pid frame.config frame.layers
      frame.texture frame.fence) := by
  have hrole : c.book.machine.role = .writer := by
    rw [(hsound.settled id c hheld.client).role, hbody]
    rfl
  have hoperation : c.operation (.submit frame) =
      some (Act.answering c.body (w.submit frame) fun _ => .done) := by
    rw [Client.operation, hbody, htoken]
  have hresult :
      Act.answering c.body (w.submit frame) (fun _ => .done) (x.site thread c.book) = _ :=
    Act.answering_ok (w.submit_ok hcheck hrole hphase)
  refine ⟨_, step_call hheld.alive hheld.client (fun _ => hheld.guard) hoperation hresult, ?_,
    Memory.load_store _ hsound.length⟩
  have hnone (book : LockBook) : c.tokenAfter (.submit frame) .done book = none := by
    rw [Client.tokenAfter]
    split <;> rfl
  exact hheld.answered rfl (hnone _)

/-- A guard is given back; with the last one the lock is free. -/
theorem Held.release (hheld : x.Held id c thread) (hsound : x.Sound)
    (hphase : c.book.machine.phase = .locked) (unwinding : Bool) : ∃ x',
    x.step thread (.call id (.release unwinding)) = some (.done, x') ∧
    (c.book.depth = 1 → x'.mutex.holding = .free) ∧ x'.header = x.header := by
  have hoperation : c.operation (.release unwinding) =
      some (Act.answering c.body (Act.release unwinding) fun _ => .done) := rfl
  have hreleases := Act.releases unwinding (x.site thread c.book)
  generalize hresult : Act.release unwinding (x.site thread c.book) = result at hreleases
  cases hreleases with
  | inner hdepth =>
    refine ⟨_, step_call hheld.alive hheld.client (fun _ => hheld.guard) hoperation
      (Act.answering_ok hresult), ?_, rfl⟩
    intro hone
    exact absurd hone (Nat.ne_of_gt hdepth)
  | freed =>
    exact ⟨_, step_call hheld.alive hheld.client (fun _ => hheld.guard) hoperation
      (Act.answering_ok hresult), fun _ => rfl, rfl⟩
  | kept reason _ _ hrelease =>
    -- the lock is the caller's, so it can be given back
    have howned : x.mutex.holding = .held thread :=
      hsound.exclusive.owned id thread hheld.hasLock
    have hmine : x.mutex.knowsOwner thread = true := by
      simp [Mutex.knowsOwner, hsound.exclusive.checked, howned]
    have hback : x.mutex.release thread = .error reason := hrelease
    rw [Mutex.release, hmine] at hback
    cases hback
  | refused _ _ hother => exact absurd hphase hother

/-! ## The round trip -/

/-- The writer begins a frame, submits it and gives back its guard, and others may do what they
want in between. From then on, until a frame is published or a session begun, the header carries
the frame, and every read that gets the lock shows it. -/
def RoundTrips (x : Exchange) (id : Nat) (c : Client) (w : Writer) (thread : Thread)
    (frame : Frame) (unwinding : Bool) : Prop :=
  ∃ next x₁, x.step thread (.call id .beginFrame) = some (.next next, x₁) ∧
    ∀ y₁, x₁.Meanwhile id thread y₁ →
    ∃ x₂, y₁.step thread (.call id (.submit frame)) = some (.done, x₂) ∧
    ∀ y₂, x₂.Meanwhile id thread y₂ →
    ∃ x₃, y₂.step thread (.call id (.release unwinding)) = some (.done, x₃) ∧
      (c.book.depth = 1 → x₃.mutex.holding = .free) ∧
      ∀ deeds y, Run x₃ deeds y → (∀ d ∈ deeds, d.Quiet) →
        y.header.Carries x.header w next frame ∧ y.Shows

end Exchange

/-- In every state that can be reached, a writer with the lock can publish every frame that is
accepted, and everyone can read it. -/
theorem Reachable.roundTrips {x : Exchange} {id : Nat} {c : Client} {w : Writer} {thread : Thread}
    {frame : Frame} (hreachable : Reachable x) (hheld : x.Held id c thread)
    (hbody : c.body = .writer w) (hphase : c.book.machine.phase = .locked)
    (hcheck : frame.check = .ok ()) (unwinding : Bool) :
    x.RoundTrips id c w thread frame unwinding := by
  have hsound := hreachable.sound
  have hmagic := hsound.magic id c w hheld.client hbody
  obtain ⟨x₁, hbegin, hheld₁, hraised⟩ := hheld.begin hsound hbody hphase
  refine ⟨_, x₁, hbegin, fun y₁ hmeanwhile₁ => ?_⟩
  obtain ⟨hsound₁, hheld₁, hheader₁⟩ := hheld₁.meanwhile (hsound.step hbegin) hmeanwhile₁
  obtain ⟨x₂, hsubmit, hheld₂, hpublished⟩ := hheld₁.submit hsound₁ hbody rfl rfl hcheck
  refine ⟨x₂, hsubmit, fun y₂ hmeanwhile₂ => ?_⟩
  obtain ⟨hsound₂, hheld₂, hheader₂⟩ := hheld₂.meanwhile (hsound₁.step hsubmit) hmeanwhile₂
  obtain ⟨x₃, hrelease, hfree, hheader₃⟩ := hheld₂.release hsound₂ rfl unwinding
  refine ⟨x₃, hrelease, hfree, fun deeds y hrun hquiet => ?_⟩
  have hsound₃ := hsound₂.step hrelease
  -- of all that happened only two steps have touched the header
  have hcarries : x₃.header.Carries x.header w (Writer.upcoming x.header) frame := by
    rw [hheader₃, hheader₂, hpublished, hheader₁, hraised]
    exact Header.carries_publish w hmagic hcheck
  have hlater := hcarries.sameFrame (hrun.sameFrame hsound₃ hquiet)
  exact ⟨hlater, (hrun.sound hsound₃).shows hlater.attached⟩

/-- A frame of the sample was published and read, and the writer has the lock again. -/
def Exchange.againScript : List (Thread × Move) :=
  sampleScript ++ [(⟨7, 0⟩, .call 0 (.lock .blocking))]

/-- The writer of the sample can publish the same frame once more. -/
theorem Reachable.roundTrips_sample : ∃ deeds x c,
    Exchange.sample.play Exchange.againScript = some (deeds, x) ∧ x.Held 0 c ⟨7, 0⟩ ∧
    c.body = .writer ⟨5, 7⟩ ∧ c.book.machine.phase = .locked ∧
    Exchange.sampleFrame.check = .ok () ∧
    x.RoundTrips 0 c ⟨5, 7⟩ ⟨7, 0⟩ Exchange.sampleFrame false := by
  have hplayed : (Exchange.sample.play Exchange.againScript).map (fun played =>
      (played.2.dead, (played.2.clients.get? 0).map fun c =>
        (c.body, decide (c.GuardOf ⟨7, 0⟩), c.book.machine.phase))) =
      some ([], some (.writer ⟨5, 7⟩, true, .locked)) := by
    decide +kernel
  have hcheck : Exchange.sampleFrame.check = .ok () := by decide +kernel
  obtain ⟨⟨deeds, x⟩, hplay, hfacts⟩ := Option.map_eq_some_iff.mp hplayed
  obtain ⟨hdead, hfound⟩ := Prod.mk.inj hfacts
  obtain ⟨c, hclient, hfacts⟩ := Option.map_eq_some_iff.mp hfound
  obtain ⟨hbody, hfacts⟩ := Prod.mk.inj hfacts
  obtain ⟨hguard, hphase⟩ := Prod.mk.inj hfacts
  have hreachable : Reachable x := ⟨_, _, deeds, Run.of_play hplay⟩
  have hheld : x.Held 0 c ⟨7, 0⟩ := by
    refine ⟨hclient, of_decide_eq_true hguard, ?_⟩
    rw [show x.dead = [] from hdead]
    exact List.not_mem_nil
  exact ⟨deeds, x, c, hplay, hheld, hbody, hphase, hcheck,
    Reachable.roundTrips hreachable hheld hbody hphase hcheck false⟩

end FrameExchange
