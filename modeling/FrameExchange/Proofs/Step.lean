import FrameExchange.Proofs.Exchange

/-!
# What a step can do

Every step of a region said once, with all that it changes.

- `Effect`, `Client.effects` — a call: which guard it takes or gives back, and what it writes.
- `Exchange.Happens`, `Exchange.happens` — a step of any kind.
-/

namespace FrameExchange

open Act

/-! ## What a call does -/

/-- Whether a call with this answer has published a frame. -/
def Call.publishes : Call → Answer → Bool
  | .submit _, .done | .submitEmpty, .done => true
  | _, _ => false

/-- The adapter for which an object begins a session when it finds the lock of a dead owner: a
writer its own, a reader that of the header that it gives up. -/
def Body.adapter (body : Body) (h : Header) : UInt64 :=
  match body with
  | .writer w => w.gpu
  | _ => h.gpu

/-- What the site is like after a call. Calls that are not named here change nothing, or they found
the lock of a dead owner and began a session. -/
inductive Effect (c : Client) (s : Site) : Call → Answer → Site → Prop where
  | still {call : Call} {answer : Answer} {s' : Site} : call.publishes answer = false →
      (∀ next, answer ≠ .next next) → s.Still s' → Effect c s call answer s'
  | recovered {call : Call} {answer : Answer} {s' : Site} :
      call.publishes answer = false → (∀ next, answer ≠ .next next) →
      s.Restarted (c.body.adapter (Memory.load s.memory)) s' → s.mutex.holding = .orphaned →
      Effect c s call answer s'
  | nested {mode : LockMode} : 0 < s.book.depth → s.book.heldElsewhere s.caller = false →
      Effect c s (.lock mode) (.locked false) s.nested
  | gained {mode : LockMode} : s.Ready → s.mutex.holding = .free →
      Effect c s (.lock mode) (.locked false) s.gained
  | inherited {mode : LockMode} {s' : Site} : s.Ready → s.mutex.holding = .orphaned →
      s.gained.Renewed (c.body.adapter (Memory.load s.memory)) s' →
      Effect c s (.lock mode) (.locked true) s'
  | inner {unwinding : Bool} : 1 < s.book.depth →
      Effect c s (.release unwinding) .done s.unnested
  | freed {unwinding : Bool} : s.book.depth ≤ 1 →
      s.mutex.release s.caller = .ok { s.mutex with holding := .free } →
      Effect c s (.release unwinding) .done s.freed
  | kept {unwinding : Bool} {host : Host} : s.book.depth ≤ 1 → s.host.Still host →
      Effect c s (.release unwinding) .done { s.bare.rephase .unlocked with host }
  | refused {failure : Failure} : s.book.depth ≤ 1 →
      Effect c s (.release false) (.failed failure) s.bare
  | begun {w : Writer} : c.body = .writer w → s.book.machine.phase = .locked →
      Effect c s .beginFrame (.next (Writer.upcoming (Memory.load s.memory)))
        { s.rephase .frameInProgress with
          memory := Memory.raiseFence s.memory (Memory.load s.memory).nextSlot }
  | submitted {w : Writer} {frame : Frame} {next : NextFrame} : c.body = .writer w →
      c.token = some next → frame.check = .ok () → Effect c s (.submit frame) .done
        { s.rephase .locked with
          memory := Memory.store s.memory ((Memory.load s.memory).publish w.gpu w.pid frame.config
            frame.layers frame.texture frame.fence) }
  | emptied {w : Writer} : c.body = .writer w → s.book.machine.phase = .locked →
      Effect c s .submitEmpty .done { s with
        memory := Memory.store s.memory ((Memory.load s.memory).publishEmpty w.gpu w.pid) }
  | detached {w : Writer} {s' : Site} : c.body = .writer w → s.book.machine.phase = .locked →
      s.Renewed w.gpu s' → Effect c s .detach .done s'

/-- Whether a call can change what an object keeps of its own. -/
def Call.learns : Call → Bool
  | .read .. | .readMetadata _ | .restart .. | .get _ | .getMetadata => true
  | _ => false

/-- Whether an answer is a snapshot. -/
def Answer.shows : Answer → Bool
  | .shown .. => true
  | _ => false

/-- What a call makes of an object: writers stay what they are, readers learn from what they
read. -/
inductive Body.Becomes (s : Site) : Body → Call → Answer → Body → Site → Prop where
  | same {call : Call} {answer : Answer} {s' : Site} (body : Body) : call.learns = false →
      answer.shows = false → body.Becomes s call answer body s'
  | failed {call : Call} {failure : Failure} {s' : Site} (body : Body) :
      body.Becomes s call (.failed failure) body s'
  | read {r r' : Reader} {kind : ConsumerKind} {gpu : UInt64} {target : Nat}
      {copier copier' : Copier} {snapshot : Snapshot} {s' : Site} :
      r.Reads gpu (fun copier => (.ok target, copier)) copier.looked s
        (.ok (snapshot, r', copier') s') →
      Body.Becomes s (.reader r) (.read kind gpu target copier) (.shown snapshot copier'.calls)
        (.reader r') s'
  | readMetadata {r r' : Reader} {kind : ConsumerKind} {snapshot : Snapshot} {s' : Site} :
      r.ReadsMetadata .blocking s (.ok (snapshot, r') s') →
      Body.Becomes s (.reader r) (.readMetadata kind) (.shown snapshot []) (.reader r') s'
  | restart {gpu : UInt64} {length : UInt8} {s' : Site} (c : CachedReader) (number : Nat) :
      Body.Becomes s (.cached c number) (.restart gpu length) .done
        (.cached (c.restart gpu length) number) s'
  | get {c c' : CachedReader} {number : Nat} {copier copier' : Copier} {snapshot : Snapshot}
      {s' : Site} : c.Gets copier.looked s (.ok (snapshot, c', copier') s') →
      Body.Becomes s (.cached c number) (.get copier) (.shown snapshot copier'.calls)
        (.cached c' number) s'
  | getMetadata {c : CachedReader} {number : Nat} {reader : Reader} {snapshot : Snapshot}
      {s' : Site} : c.reader.ReadsMetadata .attempt s (.ok (snapshot, reader) s') →
      Body.Becomes s (.cached c number) .getMetadata (.shown snapshot [])
        (.cached { c with reader } number) s'

/-- How a call can end. -/
inductive Effects (c : Client) (s : Site) (call : Call) :
    EStateM.Result Failure Site (Answer × Body) → Prop where
  | ok {answer : Answer} {body : Body} {s' : Site} : Effect c s call answer s' →
      c.body.Becomes s call answer body s' → Effects c s call (.ok (answer, body) s')
  | error {failure : Failure} {s' : Site} : Effect c s call (.failed failure) s' →
      Effects c s call (.error failure s')

/-- A read without pixels through a cached reader is one of its reader. -/
theorem CachedReader.answerMetadata_eq (cached : CachedReader) (number : Nat) :
    cached.answerMetadata number = (do
      let (snapshot, reader) ← (do Act.see cached.kind; cached.reader.metadataSnapshot .attempt)
      return (Answer.shown snapshot [], Body.cached { cached with reader } number)) := by
  simp only [CachedReader.answerMetadata, CachedReader.getMetadata, bind_assoc, pure_bind]

/-- An operation that leaves the object as it is answers with what it comes to. -/
theorem Act.answering_ok {α : Type} {body : Body} {operation : Act α} {answer : α → Answer} {a : α}
    {s s' : Site} (hresult : operation s = .ok a s') :
    Act.answering body operation answer s = .ok (answer a, body) s' := by
  rw [Act.answering, Act.bind_ok hresult]
  rfl

namespace Effects

variable {c : Client} {s : Site} {call : Call} {α : Type}

/-- A failure that changes nothing. -/
theorem unchanged {s' : Site} (failure : Failure) (hstill : s.Still s') :
    Effects c s call (.error failure s') := by
  have hpublishes : call.publishes (.failed failure) = false := by cases call <;> rfl
  exact .error (.still hpublishes (fun next h => by cases h) hstill)

/-- An operation that leaves the object as it is and comes to an answer. -/
theorem answered {operation : Act α} {answer : α → Answer} {a : α} {s' : Site}
    (hlearns : call.learns = false) (hshows : (answer a).shows = false)
    (hresult : operation s = .ok a s') (heffect : Effect c s call (answer a) s') :
    Effects c s call (Act.answering c.body operation answer s) := by
  rw [Act.answering_ok hresult]
  exact .ok heffect (.same c.body hlearns hshows)

/-- An operation that fails. -/
theorem failed {operation : Act α} {answer : α → Answer} {failure : Failure} {s' : Site}
    (hresult : operation s = .error failure s')
    (heffect : Effect c s call (.failed failure) s') :
    Effects c s call (Act.answering c.body operation answer s) := by
  rw [Act.answering, Act.bind_error hresult]
  exact .error heffect

end Effects

/-- An object between two calls. Its book counts guards for the thread that has them, a reader with
guards is ready to copy the header, and a frame is begun in its phase only. -/
structure Client.Settled (c : Client) : Prop where
  role : c.book.machine.role = c.body.role
  idle : c.book.depth = 0 → c.book.holder = none
  held : 0 < c.book.depth → c.book.holder ≠ none
  reading : c.body.role = .reader → 0 < c.book.depth → c.book.machine.phase = .locked
  begun : c.token ≠ none → 0 < c.book.depth ∧ c.book.machine.phase = .frameInProgress

namespace Client

variable {c : Client} {s : Site}

/-- Readers are tidy between two calls. -/
theorem Settled.tidy (hsettled : c.Settled) (hbook : s.book = c.book)
    (hreader : c.body.role = .reader) : Reader.Tidy s := by
  obtain ⟨hrole, hidle, -, hreading, -⟩ := hsettled
  rw [← hbook] at hrole hidle hreading
  exact ⟨hrole.trans hreader, hidle, hreading hreader⟩

/-! ### Guards -/

/-- How an object takes the lock. -/
theorem operation_lock (c : Client) (mode : LockMode) : ∃ lock,
    c.operation (.lock mode) = some (Act.answering c.body lock .ofAcquired) ∧
      ∀ s, Asks mode (c.body.adapter (Memory.load s.memory)) s (lock s) := by
  cases hbody : c.body with
  | writer w => exact ⟨w.lock mode, by rw [Client.operation, hbody], w.asks mode⟩
  | reader r => exact ⟨Reader.lock mode, by rw [Client.operation, hbody], Reader.asks mode⟩
  | cached cached number =>
    exact ⟨Reader.lock mode, by rw [Client.operation, hbody], Reader.asks mode⟩

/-- The ways in which a lock can end. -/
theorem effects_lock {mode : LockMode} {operation : Act Acquired}
    (hlocks : Locks mode (c.body.adapter (Memory.load s.memory)) s (operation s)) :
    Effects c s (.lock mode) (Act.answering c.body operation .ofAcquired s) := by
  generalize hresult : operation s = result at hlocks
  cases hlocks with
  | busy => exact .answered rfl rfl hresult (.still rfl (fun next h => by cases h) (.refl s))
  | refused failure =>
    exact .failed hresult (.still rfl (fun next h => by cases h) (.refl s))
  | nested hdepth hmine => exact .answered rfl rfl hresult (.nested hdepth hmine)
  | gained hready hfree => exact .answered rfl rfl hresult (.gained hready hfree)
  | recovered hready horphaned _ hrenewed =>
    exact .answered rfl rfl hresult (.inherited hready horphaned hrenewed)

/-- The ways in which giving back a guard can end. -/
theorem effects_release (unwinding : Bool) :
    Effects c s (.release unwinding)
      (Act.answering c.body (Act.release unwinding) (fun _ => .done) s) := by
  have hreleases := Act.releases unwinding s
  generalize hresult : Act.release unwinding s = result at hreleases
  cases hreleases with
  | inner hdepth => exact .answered rfl rfl hresult (.inner hdepth)
  | freed hdepth _ hrelease => exact .answered rfl rfl hresult (.freed hdepth hrelease)
  | kept reason hdepth => exact .answered rfl rfl hresult (.kept hdepth (.report s.host _))
  | refused hdepth hunwinding =>
    subst hunwinding
    exact .failed hresult (.refused hdepth)

/-! ### Frames -/

theorem effects_beginFrame {w : Writer} (hlen : Header.byteSize ≤ s.memory.length)
    (hrole : s.book.machine.role = .writer) (hbody : c.body = .writer w) :
    Effects c s .beginFrame (Act.answering c.body Writer.beginFrame .next s) := by
  by_cases hphase : s.book.machine.phase = .locked
  · exact .answered rfl rfl (Writer.beginFrame_ok hlen hrole hphase) (.begun hbody hphase)
  · obtain ⟨failure, hfailed⟩ := Writer.beginFrame_elsewhere hrole hphase
    exact .failed hfailed (.still rfl (fun next h => by cases h) (.refl s))

theorem effects_submit {w : Writer} {next : NextFrame} (frame : Frame)
    (hrole : s.book.machine.role = .writer) (hbody : c.body = .writer w)
    (htoken : c.token = some next) :
    Effects c s (.submit frame) (Act.answering c.body (w.submit frame) (fun _ => .done) s) := by
  by_cases h : frame.check = .ok () ∧ s.book.machine.phase = .frameInProgress
  · exact .answered rfl rfl (w.submit_ok h.1 hrole h.2) (.submitted hbody htoken h.1)
  · obtain ⟨violation, hfailed⟩ := w.submit_refused hrole (Decidable.not_and_iff_not_or_not.mp h)
    exact .failed hfailed (.still rfl (fun next h => by cases h) (.refl s))

theorem effects_submitEmpty {w : Writer} (hrole : s.book.machine.role = .writer)
    (hbody : c.body = .writer w) :
    Effects c s .submitEmpty (Act.answering c.body w.submitEmpty (fun _ => .done) s) := by
  by_cases hphase : s.book.machine.phase = .locked
  · exact .answered rfl rfl (w.submitEmpty_ok hrole hphase) (.emptied hbody hphase)
  · obtain ⟨failure, hfailed⟩ := w.submitEmpty_elsewhere hrole hphase
    exact .failed hfailed (.still rfl (fun next h => by cases h) (.refl s))

theorem effects_detach {w : Writer} (hrole : s.book.machine.role = .writer)
    (hbody : c.body = .writer w) :
    Effects c s .detach (Act.answering c.body w.detach (fun _ => .done) s) := by
  have hyields := w.detach_yields hrole
  generalize hresult : w.detach s = result at hyields
  cases hyields with
  | ok hrenewed =>
    by_cases hphase : s.book.machine.phase = .locked
    · exact .answered rfl rfl hresult (.detached hbody hphase hrenewed)
    · have hmove := Act.move_elsewhere .detaching (Writer.allows hrole (by decide)) hphase
      rw [Writer.detach, Act.bind_error hmove] at hresult
      cases hresult
  | error failure =>
    exact .failed hresult (.still rfl (fun next h => by cases h) (.refl s))

/-! ### Reads -/

theorem effects_metadata (hrole : s.book.machine.role = .reader) :
    Effects c s .metadata (Act.answering c.body Reader.metadata .header s) := by
  have hyields := Reader.metadata_yields hrole
  generalize hresult : Reader.metadata s = result at hyields
  cases hyields with
  | ok heffect =>
    obtain ⟨rfl, rfl⟩ := heffect
    exact .answered rfl rfl hresult (.still rfl (fun next h => by cases h) (.refl _))
  | error failure =>
    exact .failed hresult (.still rfl (fun next h => by cases h) (.refl s))

/-- What the object and its answer are after a call that only looks. -/
theorem effects_looking {α : Type} {operation : Act α} {call : Call} {next : α → Answer × Body}
    (hcall : ∀ a, call.publishes (next a).1 = false) (hnext : ∀ a n, (next a).1 ≠ .next n)
    (hadapter : c.body.adapter (Memory.load s.memory) = (Memory.load s.memory).gpu)
    (hleaves : Reader.Leaves s (operation s))
    (hbecomes : ∀ a s', operation s = .ok a s' →
      c.body.Becomes s call (next a).1 (next a).2 s') :
    Effects c s call ((do return next (← operation)) s) := by
  generalize hresult : operation s = result at hleaves
  cases hleaves with
  | still hstill =>
    rw [Act.bind_ok hresult]
    exact .ok (.still (hcall _) (hnext _) hstill) (hbecomes _ _ hresult)
  | failed hstill =>
    rw [Act.bind_error hresult]
    exact .unchanged _ hstill
  | restarted hrestarted horphaned =>
    rw [Act.bind_ok hresult]
    exact .ok (.recovered (hcall _) (hnext _) (hadapter ▸ hrestarted) horphaned)
      (hbecomes _ _ hresult)

theorem effects_read {r : Reader} {kind : ConsumerKind} {gpu : UInt64} {target : Nat}
    {copier : Copier} (hlen : Header.byteSize ≤ s.memory.length) (htidy : Reader.Tidy s)
    (hbody : c.body = .reader r) :
    Effects c s (.read kind gpu target copier) (r.answerRead kind gpu target copier s) := by
  have hreads := r.reads kind gpu target copier.looked hlen htidy
  refine effects_looking (fun _ => rfl) (fun _ _ h => by cases h) (by rw [hbody]; rfl)
    hreads.leaves fun a s' hresult => ?_
  rw [hresult] at hreads
  rw [hbody]
  exact .read hreads

theorem effects_readMetadata {r : Reader} {kind : ConsumerKind}
    (hlen : Header.byteSize ≤ s.memory.length) (htidy : Reader.Tidy s)
    (hbody : c.body = .reader r) :
    Effects c s (.readMetadata kind) (r.answerMetadata kind s) := by
  have hreads : r.ReadsMetadata .blocking s (r.readMetadata kind s) :=
    r.readsMetadata kind .blocking hlen htidy
  refine effects_looking (fun _ => rfl) (fun _ _ h => by cases h) (by rw [hbody]; rfl)
    hreads.leaves fun a s' hresult => ?_
  rw [hresult] at hreads
  rw [hbody]
  exact .readMetadata hreads

theorem effects_get {cached : CachedReader} {number : Nat} {copier : Copier}
    (hlen : Header.byteSize ≤ s.memory.length) (htidy : Reader.Tidy s)
    (hbody : c.body = .cached cached number) :
    Effects c s (.get copier) (cached.answerGet number copier s) := by
  have hgets := cached.gets copier.looked hlen htidy
  refine effects_looking (fun _ => rfl) (fun _ _ h => by cases h) (by rw [hbody]; rfl)
    hgets.leaves fun a s' hresult => ?_
  rw [hresult] at hgets
  rw [hbody]
  exact .get hgets

theorem effects_getMetadata {cached : CachedReader} {number : Nat}
    (hlen : Header.byteSize ≤ s.memory.length) (htidy : Reader.Tidy s)
    (hbody : c.body = .cached cached number) :
    Effects c s .getMetadata (cached.answerMetadata number s) := by
  have hreads := cached.reader.readsMetadata cached.kind .attempt hlen htidy
  rw [CachedReader.answerMetadata_eq]
  refine effects_looking (fun _ => rfl) (fun _ _ h => by cases h) (by rw [hbody]; rfl)
    hreads.leaves fun a s' hresult => ?_
  rw [hresult] at hreads
  rw [hbody]
  exact .getMetadata hreads

/-! ### Every call -/

/-- Whatever is no writer takes the lock as a reader. -/
theorem role_reader {body : Body} (h : ∀ w, body = .writer w → False) : body.role = .reader := by
  cases body with
  | writer w => exact (h w rfl).elim
  | reader r => rfl
  | cached cached number => rfl

/-- Every way in which a call can end. -/
theorem effects (hsettled : c.Settled) (hbook : s.book = c.book)
    (hlen : Header.byteSize ≤ s.memory.length) {call : Call} {operation : Act (Answer × Body)}
    (hoperation : c.operation call = some operation) : Effects c s call (operation s) := by
  have hrole : s.book.machine.role = c.body.role := hbook ▸ hsettled.role
  cases call with
  | lock mode =>
    obtain ⟨lock, hlock, hasks⟩ := c.operation_lock mode
    rw [hlock] at hoperation
    cases hoperation
    exact effects_lock (hasks s).locks
  | release unwinding =>
    cases hoperation
    exact effects_release unwinding
  | metadata =>
    simp only [Client.operation] at hoperation
    split at hoperation
    · cases hoperation
      exact .answered rfl rfl (load_ok s) (.still rfl (fun next h => by cases h) (.refl s))
    · next hreader =>
      cases hoperation
      exact effects_metadata (by rw [hrole]; exact role_reader hreader)
  | beginFrame =>
    simp only [Client.operation] at hoperation
    split at hoperation
    · next w hbody =>
      cases hoperation
      exact effects_beginFrame hlen (by rw [hrole, hbody]; rfl) hbody
    · cases hoperation
  | submit frame =>
    simp only [Client.operation] at hoperation
    split at hoperation
    · next w next hbody htoken =>
      cases hoperation
      exact effects_submit frame (by rw [hrole, hbody]; rfl) hbody htoken
    · cases hoperation
  | abandon =>
    simp only [Client.operation] at hoperation
    split at hoperation
    · next w next hbody htoken =>
      cases hoperation
      exact .unchanged (.violation (.frameNotSubmitted next.slot)) (.refl s)
    · cases hoperation
  | submitEmpty =>
    simp only [Client.operation] at hoperation
    split at hoperation
    · next w hbody =>
      cases hoperation
      exact effects_submitEmpty (by rw [hrole, hbody]; rfl) hbody
    · cases hoperation
  | detach =>
    simp only [Client.operation] at hoperation
    split at hoperation
    · next w hbody =>
      cases hoperation
      exact effects_detach (by rw [hrole, hbody]; rfl) hbody
    · cases hoperation
  | key kind =>
    cases hoperation
    exact .ok (.still rfl (fun next h => by cases h) (Reader.see_still kind s))
      (.same c.body rfl rfl)
  | read kind gpu target copier =>
    simp only [Client.operation] at hoperation
    split at hoperation
    · next r hbody =>
      cases hoperation
      exact effects_read hlen (hsettled.tidy hbook (by rw [hbody]; rfl)) hbody
    · cases hoperation
  | readMetadata kind =>
    simp only [Client.operation] at hoperation
    split at hoperation
    · next r hbody =>
      cases hoperation
      exact effects_readMetadata hlen (hsettled.tidy hbook (by rw [hbody]; rfl)) hbody
    · cases hoperation
  | restart gpu length =>
    simp only [Client.operation] at hoperation
    split at hoperation
    · next cached number hbody =>
      cases hoperation
      exact .ok (.still rfl (fun next h => by cases h) (.refl s)) (hbody ▸ .restart cached number)
    · cases hoperation
  | get copier =>
    simp only [Client.operation] at hoperation
    split at hoperation
    · next cached number hbody =>
      cases hoperation
      exact effects_get hlen (hsettled.tidy hbook (by rw [hbody]; rfl)) hbody
    · cases hoperation
  | getMetadata =>
    simp only [Client.operation] at hoperation
    split at hoperation
    · next cached number hbody =>
      cases hoperation
      exact effects_getMetadata hlen (hsettled.tidy hbook (by rw [hbody]; rfl)) hbody
    · cases hoperation

end Client

/-! ## Steps -/

namespace Exchange

/-- Everything that a step can do. -/
inductive Happens (x : Exchange) (caller : Thread) : Move → Answer → Exchange → Prop where
  | called {id : Nat} {c : Client} {call : Call} {answer : Answer} {body : Body} {s' : Site} :
      x.clients.get? id = some c → (call.underGuard = true → c.GuardOf caller) →
      Effect c (x.site caller c.book) call answer s' →
      c.body.Becomes (x.site caller c.book) call answer body s' →
      Happens x caller (.call id call) answer
        ((x.leave s').put id ⟨body, s'.book, c.tokenAfter call answer s'.book⟩)
  /-- A writer that is opened begins a session. -/
  | attached {id : Nat} {gpu : UInt64} {s' : Site} : x.clients.get? id = none →
      (x.site caller (.fresh .writer)).Restarted gpu s' →
      Happens x caller (.openWriter id gpu) .done
        ((x.leave s').put id (.opened (.writer ⟨gpu, caller.pid⟩)))
  | notAttached {id : Nat} {gpu : UInt64} {s' : Site} (failure : Failure) :
      (x.site caller (.fresh .writer)).Still s' ∨
        (x.site caller (.fresh .writer)).Restarted gpu s' →
      Happens x caller (.openWriter id gpu) (.failed failure) (x.leave s')
  | openedReader {id : Nat} (event : Event) : x.clients.get? id = none →
      Happens x caller (.openReader id) .done
        ({ x with host := x.host.report event }.put id (.opened (.reader .fresh)))
  | openedCached {id : Nat} {kind : ConsumerKind} (event : Event) : x.clients.get? id = none →
      Happens x caller (.openCached id kind) .done
        ({ x with host := x.host.report event }.put id (.opened (.cached (.fresh kind) 0)))
  /-- An object that ends may end a session; only writers do. -/
  | closed {id : Nat} {c : Client} {answer : Answer} {s' : Site} : x.clients.get? id = some c →
      c.book.depth = 0 → answer = .done ∨ (∃ failure, answer = .failed failure) →
      (x.site caller c.book).Still s' ∨
        (x.site caller c.book).Restarted (c.body.adapter x.header) s' →
      Happens x caller (.close id) answer ({ x with clients := x.clients.erase id }.leave s')
  | died : Happens x caller .die .done
      { x with mutex := x.mutex.ownerDies caller, dead := caller :: x.dead }
  | elapsed {processes : Table UInt32 Process} {clock opened : Nat} {events : List Event} :
      Happens x caller (.elapse processes clock opened events) .done
        { x with host := { x.host with processes, clock, opened, events } }

variable {x y : Exchange} {caller : Thread} {answer : Answer}

/-- An operation that did not have to wait has ended one way or the other. -/
theorem settle_eq_some {α : Type} {result : EStateM.Result Failure Site α}
    {ok : α → Site → Answer × Exchange} {failed : Failure → Site → Exchange}
    (h : settle result ok failed = some (answer, y)) :
    (∃ a s, result = .ok a s ∧ ok a s = (answer, y)) ∨
      ∃ failure s, result = .error failure s ∧ answer = .failed failure ∧ y = failed failure s := by
  rw [settle.eq_def] at h
  split at h
  · next a s => exact .inl ⟨a, s, rfl, Option.some.inj h⟩
  · cases h
  · next failure s _ =>
    cases h
    exact .inr ⟨failure, s, rfl, rfl, rfl⟩

/-- A call of a living thread that comes to an answer is a step. -/
theorem step_call {id : Nat} {c : Client} {call : Call} {operation : Act (Answer × Body)}
    {body : Body} {s' : Site} (halive : caller ∉ x.dead) (hclient : x.clients.get? id = some c)
    (hguard : call.underGuard = true → c.GuardOf caller)
    (hoperation : c.operation call = some operation)
    (hresult : operation (x.site caller c.book) = .ok (answer, body) s') :
    x.step caller (.call id call) = some (answer,
      (x.leave s').put id ⟨body, s'.book, c.tokenAfter call answer s'.book⟩) := by
  rw [step, if_neg halive]
  show x.call caller id call = _
  rw [call_eq_settle hclient hguard hoperation, hresult]
  rfl

theorem happens_openWriter {id : Nat} {gpu : UInt64}
    (h : x.openWriter caller id gpu = some (answer, y)) :
    Happens x caller (.openWriter id gpu) answer y := by
  rw [openWriter] at h
  split at h
  · cases h
  · next hfree =>
    have hnone : x.clients.get? id = none := by simpa using hfree
    have hattaches := (⟨gpu, caller.pid⟩ : Writer).attaches
      (s := x.site caller (.fresh .writer)) rfl rfl rfl
    rcases settle_eq_some h with ⟨a, s', hresult, hend⟩ | ⟨failure, s', hresult, hanswer, hend⟩
    · rw [hresult] at hattaches
      cases hattaches with
      | attached hrestarted =>
        have hbook : s'.book = .fresh .writer := hrestarted.renewed.book
        cases hend
        rw [hbook]
        exact .attached hnone hrestarted
    · rw [hresult] at hattaches
      subst hanswer hend
      cases hattaches with
      | failed _ hsite => exact .notAttached failure hsite

theorem openReader_eq_some {id : Nat} {body : Body}
    (h : x.openReader id body = some (answer, y)) : x.clients.get? id = none ∧ answer = .done ∧
      y = { x with host := x.host.report (.readerOpened x.names.mapping) }.put id
        (.opened body) := by
  rw [openReader] at h
  split at h
  · cases h
  · next hfree =>
    cases h
    exact ⟨by simpa using hfree, rfl, rfl⟩

theorem happens_close {id : Nat} (hsettled : ∀ c, x.clients.get? id = some c → c.Settled)
    (h : x.close caller id = some (answer, y)) : Happens x caller (.close id) answer y := by
  rw [close] at h
  split at h
  · cases h
  · next c hclient =>
    split at h
    · cases h
    · next hdepth =>
      have hzero : c.book.depth = 0 := Nat.eq_zero_of_not_pos hdepth
      have hrole := (hsettled c hclient).role
      split at h
      · next w hbody =>
        rw [hbody] at hrole
        have hcloses := w.closes (s := x.site caller c.book) hrole hzero
          ((hsettled c hclient).idle hzero)
        rcases settle_eq_some h with ⟨a, s', hresult, hend⟩ | ⟨failure, s', hresult, hanswer, hend⟩
        · rw [hresult] at hcloses
          cases hend
          cases hcloses with
          | detached hrestarted =>
            exact .closed hclient hzero (.inl rfl) (.inr (by rw [hbody]; exact hrestarted))
          | kept hstill => exact .closed hclient hzero (.inl rfl) (.inl hstill)
        · rw [hresult] at hcloses
          subst hanswer hend
          cases hcloses with
          | failed => exact .closed hclient hzero (.inr ⟨failure, rfl⟩) (.inl (.refl _))
      · cases h
        exact .closed hclient hzero (.inl rfl) (.inl (.refl (x.site caller c.book)))

/-- The answer and the region that come of a call whose operation has ended like this. -/
inductive Ends (x : Exchange) (id : Nat) (c : Client) (call : Call) :
    EStateM.Result Failure Site (Answer × Body) → Answer → Exchange → Prop where
  | ok {answer : Answer} {body : Body} {s' : Site} : Ends x id c call (.ok (answer, body) s') answer
      ((x.leave s').put id ⟨body, s'.book, c.tokenAfter call answer s'.book⟩)
  | error {failure : Failure} {s' : Site} : failure ≠ .blocked →
      Ends x id c call (.error failure s') (.failed failure)
        ((x.leave s').put id ⟨c.body, s'.book, c.tokenAfter call (.failed failure) s'.book⟩)

/-- A call that did not have to wait ends as its operation does. -/
theorem call_ends {id : Nat} {call : Call} (h : x.call caller id call = some (answer, y)) :
    ∃ c operation, x.clients.get? id = some c ∧ (call.underGuard = true → c.GuardOf caller) ∧
      c.operation call = some operation ∧
      x.Ends id c call (operation (x.site caller c.book)) answer y := by
  rw [Exchange.call] at h
  split at h
  · cases h
  · next c hclient =>
    split at h
    · cases h
    · next hguard =>
      have hallowed : call.underGuard = true → c.GuardOf caller :=
        fun hunder => Decidable.not_not.mp fun hnot => hguard ⟨hunder, hnot⟩
      split at h
      · cases h
      · next operation hoperation =>
        refine ⟨c, operation, hclient, hallowed, hoperation, ?_⟩
        generalize operation (x.site caller c.book) = result at h
        cases result with
        | ok a s' =>
          cases h
          exact .ok
        | error failure s' =>
          cases failure with
          | blocked => cases h
          | error e =>
            cases h
            exact .error (by simp)
          | violation v =>
            cases h
            exact .error (by simp)

theorem happens_call {id : Nat} {call : Call}
    (hsettled : ∀ c, x.clients.get? id = some c → c.Settled)
    (hlen : Header.byteSize ≤ x.memory.length) (h : x.call caller id call = some (answer, y)) :
    Happens x caller (.call id call) answer y := by
  obtain ⟨c, operation, hclient, hguard, hoperation, hends⟩ := call_ends h
  have heffects := Client.effects (s := x.site caller c.book) (hsettled c hclient) rfl hlen
    hoperation
  generalize operation (x.site caller c.book) = result at heffects hends
  cases hends with
  | ok =>
    cases heffects with
    | ok heffect hbecomes => exact .called hclient hguard heffect hbecomes
  | error =>
    cases heffects with
    | error heffect => exact .called hclient hguard heffect (.failed c.body)

/-- Every step is one of these, and a living thread makes it. -/
theorem happens {move : Move} (hsettled : ∀ id c, x.clients.get? id = some c → c.Settled)
    (hlen : Header.byteSize ≤ x.memory.length) (h : x.step caller move = some (answer, y)) :
    caller ∉ x.dead ∧ Happens x caller move answer y := by
  rw [step.eq_def] at h
  split at h
  · cases h
  · next halive =>
    refine ⟨halive, ?_⟩
    cases move with
    | openWriter id gpu => exact happens_openWriter h
    | openReader id =>
      obtain ⟨hnone, rfl, rfl⟩ := openReader_eq_some h
      exact .openedReader _ hnone
    | openCached id kind =>
      obtain ⟨hnone, rfl, rfl⟩ := openReader_eq_some h
      exact .openedCached _ hnone
    | close id => exact happens_close (hsettled id) h
    | call id call => exact happens_call (hsettled id) hlen h
    | die =>
      cases h
      exact .died
    | elapse processes clock opened events =>
      cases h
      exact .elapsed

/-! ## Where objects come from -/

/-- Where an object comes from that is there after a step. -/
inductive Comes (x : Exchange) (caller : Thread) (move : Move) (answer : Answer) (y : Exchange)
    (id : Nat) : Client → Prop where
  | kept {c : Client} : x.clients.get? id = some c → (∀ call, move ≠ .call id call) →
      Comes x caller move answer y id c
  | called {c : Client} {call : Call} {body : Body} {s' : Site} : move = .call id call →
      x.clients.get? id = some c → (call.underGuard = true → c.GuardOf caller) →
      Effect c (x.site caller c.book) call answer s' →
      c.body.Becomes (x.site caller c.book) call answer body s' → y.memory = s'.memory →
      Comes x caller move answer y id ⟨body, s'.book, c.tokenAfter call answer s'.book⟩
  | attached {gpu : UInt64} {s' : Site} : (x.site caller (.fresh .writer)).Restarted gpu s' →
      y.memory = s'.memory →
      Comes x caller move answer y id (.opened (.writer ⟨gpu, caller.pid⟩))
  | openedReader : Comes x caller move answer y id (.opened (.reader .fresh))
  | openedCached (kind : ConsumerKind) :
      Comes x caller move answer y id (.opened (.cached (.fresh kind) 0))

/-- An object that is there after a step was there before, or the step has made it. -/
theorem Happens.comes {move : Move} {id : Nat} {c : Client} (h : Happens x caller move answer y)
    (hclient : y.clients.get? id = some c) : Comes x caller move answer y id c := by
  have hput {z : Exchange} {other : Nat} {c' : Client} (hclients : z.clients = x.clients)
      (hz : (z.put other c').clients.get? id = some c) :
      other = id ∧ c' = c ∨ other ≠ id ∧ x.clients.get? id = some c := by
    rw [put, Table.get?_insert, hclients] at hz
    split at hz
    · next heq => exact .inl ⟨heq, Option.some.inj hz⟩
    · next hne => exact .inr ⟨hne, hz⟩
  cases h with
  | called hbefore hguard heffect hbecomes =>
    rcases hput rfl hclient with ⟨rfl, rfl⟩ | ⟨hne, hsame⟩
    · exact .called rfl hbefore hguard heffect hbecomes rfl
    · refine .kept hsame fun call hmove => ?_
      cases hmove
      exact hne rfl
  | attached _ hrestarted =>
    rcases hput rfl hclient with ⟨-, rfl⟩ | ⟨-, hsame⟩
    · exact .attached hrestarted rfl
    · exact .kept hsame fun call h => by cases h
  | notAttached => exact .kept hclient fun call h => by cases h
  | openedReader =>
    rcases hput rfl hclient with ⟨-, rfl⟩ | ⟨-, hsame⟩
    · exact .openedReader
    · exact .kept hsame fun call h => by cases h
  | openedCached =>
    rcases hput rfl hclient with ⟨-, rfl⟩ | ⟨-, hsame⟩
    · exact .openedCached _
    · exact .kept hsame fun call h => by cases h
  | closed =>
    rw [leave, Table.get?_erase] at hclient
    split at hclient
    · cases hclient
    · exact .kept hclient fun call h => by cases h
  | died => exact .kept hclient fun call h => by cases h
  | elapsed => exact .kept hclient fun call h => by cases h

end Exchange

end FrameExchange
