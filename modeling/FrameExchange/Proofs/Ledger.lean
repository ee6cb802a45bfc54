import FrameExchange.Proofs.Calls

/-!
# Guards and the lock

Every thread counts the guards it was given and has not dropped. A ledger of these guards is kept
beside a region on which nobody dies with a guard and every panic takes its guards back, and the
books of the objects and the lock are compared with it.

- `Ledger`, `Ledger.after` — the guards that there are, and what a step does to them.
- `Disciplined` — the states of a region with the ledger of its guards.
- `Exchange.Accounted` — the invariant: lock and books are what the ledger says.
- `Disciplined.accounts` — what follows for states and for the next step.
-/

namespace FrameExchange

/-! ## The ledger -/

/-- A guard that was given and has not been dropped. The guards of one object in one thread are all
alike, so the ledger does not say which of them is dropped. -/
structure Hold where
  object : Nat
  thread : Thread
  deriving DecidableEq, Repr

/-- The guards that there are. -/
structure Ledger where
  guards : List Hold
  /-- Guards like these are being taken back by a panic. -/
  unwinding : List Hold
  deriving DecidableEq, Repr

namespace Ledger

/-- No guards. -/
def empty : Ledger := ⟨[], []⟩

/-- How many guards of an object there are. -/
def count (g : Ledger) (id : Nat) : Nat := g.guards.countP (·.object = id)

/-- Who holds the lock when these are the guards. -/
def holding (g : Ledger) : Holding :=
  match g.guards with
  | [] => .free
  | h :: _ => .held h.thread

/-- One guard more. -/
def given (g : Ledger) (h : Hold) : Ledger := { g with guards := h :: g.guards }

/-- A panic in a thread that has this guard. -/
def panicked (g : Ledger) (h : Hold) : Ledger := { g with unwinding := h :: g.unwinding }

/-- One guard less. With the last of them a panic has taken back all that it had to. -/
def dropped (g : Ledger) (h : Hold) : Ledger :=
  let guards := g.guards.erase h
  ⟨guards, g.unwinding.filter (· ∈ guards)⟩

/-- The guards after a step. A broken rule is a panic. -/
def after (g : Ledger) (thread : Thread) (move : Move) (answer : Answer) : Ledger :=
  match move, answer with
  | .call id (.lock _), .locked _ => g.given ⟨id, thread⟩
  | .call id (.release false), _ => g.dropped ⟨id, thread⟩
  | .call id (.release true), _ => (g.panicked ⟨id, thread⟩).dropped ⟨id, thread⟩
  | .call id _, .failed (.violation _) =>
    if ⟨id, thread⟩ ∈ g.guards then g.panicked ⟨id, thread⟩ else g
  | _, _ => g

/-- What threads keep to: nobody dies with a guard, a panic takes back all guards of the object in
its thread, and a frame that was begun goes before the last guard does. -/
def allows (g : Ledger) (x : Exchange) (thread : Thread) : Move → Bool
  | .die => g.guards.all (·.thread ≠ thread)
  | .call id (.release false) => decide (⟨id, thread⟩ ∉ g.unwinding) &&
    (decide (1 < g.count id) || (x.clients.get? id).all (·.token.isNone))
  | _ => true

/-- What a thread that wants one more guard is answered, if it does not have to wait. -/
def reply (g : Ledger) (lock : String) (h : Hold) (mode : LockMode) : Option Answer :=
  match g.guards with
  | [] => some (.locked false)
  | other :: _ =>
    if other = h then some (.locked false)
    else if other.thread = h.thread then
      some (.failed (.error (.notLocked mode lock .wouldDeadlock)))
    else
      match mode with
      | .attempt => some .busy
      | .blocking => none

/-- All guards are of one object and one thread, and a panic takes back only guards that there
are. -/
structure Alone (g : Ledger) : Prop where
  same : ∀ h ∈ g.guards, ∀ other ∈ g.guards, other = h
  risen : ∀ h ∈ g.unwinding, h ∈ g.guards

/-- A step with one object does nothing to the guards of others. -/
structure Aside (id : Nat) (g g' : Ledger) : Prop where
  count : ∀ other, other ≠ id → g'.count other = g.count other
  guards : ∀ h : Hold, h.object ≠ id → (h ∈ g'.guards ↔ h ∈ g.guards)
  unwinding : ∀ h : Hold, h.object ≠ id → h ∈ g.unwinding → h ∈ g'.unwinding

variable {g g' : Ledger} {h : Hold} {id : Nat}

theorem count_pos_iff : 0 < g.count id ↔ ∃ thread, ⟨id, thread⟩ ∈ g.guards := by
  rw [count, List.countP_pos_iff]
  constructor
  · rintro ⟨⟨object, thread⟩, hmem, hobject⟩
    have hobject : object = id := by simpa using hobject
    subst hobject
    exact ⟨thread, hmem⟩
  · rintro ⟨thread, hmem⟩
    exact ⟨⟨id, thread⟩, hmem, by simp⟩

theorem count_given : (g.given h).count id = g.count id + if h.object = id then 1 else 0 := by
  simp [count, given, List.countP_cons]

theorem count_dropped (hmem : h ∈ g.guards) (id : Nat) :
    g.count id = (g.dropped h).count id + if h.object = id then 1 else 0 := by
  have hperm := (List.perm_cons_erase hmem).countP_eq (·.object = id)
  rw [count, hperm, List.countP_cons]
  simp [count, dropped]

/-- A panic goes on while there are guards for it to take back. -/
theorem mem_unwinding_dropped {other : Hold} : other ∈ (g.dropped h).unwinding ↔
    other ∈ g.unwinding ∧ other ∈ (g.dropped h).guards := by
  show other ∈ g.unwinding.filter (· ∈ (g.dropped h).guards) ↔ _
  rw [List.mem_filter, decide_eq_true_iff]

/-- The lock is held by those who have guards. -/
theorem Alone.holding (halone : g.Alone) (hmem : h ∈ g.guards) : g.holding = .held h.thread := by
  have hsame := halone.same h hmem
  unfold Ledger.holding
  cases hguards : g.guards with
  | nil =>
    rw [hguards] at hmem
    cases hmem
  | cons first rest =>
    rw [hsame first (by simp [hguards])]

/-- Without guards the lock is there for everybody. -/
theorem reply_of_nil (g : Ledger) {lock : String} {mode : LockMode} (hnil : g.guards = []) :
    g.reply lock h mode = some (.locked false) := by
  unfold reply
  rw [hnil]

/-- The answer depends on any of the guards, since they are all alike. -/
theorem Alone.reply {lock : String} {mode : LockMode} {other : Hold} (halone : g.Alone)
    (hmem : other ∈ g.guards) : g.reply lock h mode =
      if other = h then some (.locked false)
      else if other.thread = h.thread then
        some (.failed (.error (.notLocked mode lock .wouldDeadlock)))
      else
        match mode with
        | .attempt => some .busy
        | .blocking => none := by
  have hsame := halone.same other hmem
  unfold Ledger.reply
  cases hguards : g.guards with
  | nil =>
    rw [hguards] at hmem
    cases hmem
  | cons first rest =>
    rw [hsame first (by simp [hguards])]

/-- Without guards the lock is free. -/
theorem holding_of_nil (hnil : g.guards = []) : g.holding = .free := by
  rw [holding, hnil]

/-- Of several guards there is one left that is like the one that is dropped. -/
theorem Alone.mem_dropped (halone : g.Alone) (hmem : h ∈ g.guards)
    (hmany : 1 < g.count h.object) : h ∈ (g.dropped h).guards := by
  have hcount := count_dropped hmem h.object
  rw [if_pos rfl] at hcount
  obtain ⟨left, hleft⟩ := count_pos_iff.mp (show 0 < (g.dropped h).count h.object by omega)
  rwa [halone.same h hmem ⟨h.object, left⟩ (List.mem_of_mem_erase hleft)] at hleft

/-- Whoever has only one guard has the only one. -/
theorem Alone.single (halone : g.Alone) (hmem : h ∈ g.guards) (hcount : g.count h.object ≤ 1) :
    g.guards = [h] := by
  -- all guards are of this object, so its count is how many there are
  have hall : g.count h.object = g.guards.length := by
    rw [count, List.countP_eq_length]
    intro other hother
    simp [halone.same h hmem other hother]
  have hone : g.guards.length = 1 := by
    have := List.length_pos_of_mem hmem
    omega
  obtain ⟨only, hguards⟩ := List.length_eq_one_iff.mp hone
  rw [hguards, List.mem_singleton] at hmem
  rw [hguards, hmem]

theorem Alone.empty : empty.Alone where
  same := by
    intro h hmem
    cases hmem
  risen := by
    intro h hmem
    cases hmem

theorem Alone.given (halone : g.Alone) (hmine : ∀ other ∈ g.guards, other = h) :
    (g.given h).Alone where
  same := by
    have hall : ∀ other ∈ (g.given h).guards, other = h := by
      intro other hother
      rcases List.mem_cons.mp hother with rfl | hbefore
      · rfl
      · exact hmine other hbefore
    intro first hfirst other hother
    rw [hall first hfirst, hall other hother]
  risen := by
    intro other hother
    exact List.mem_cons_of_mem _ (halone.risen other hother)

theorem Alone.panicked (halone : g.Alone) (hmem : h ∈ g.guards) : (g.panicked h).Alone where
  same := halone.same
  risen := by
    intro other hother
    rcases List.mem_cons.mp hother with rfl | hbefore
    · exact hmem
    · exact halone.risen other hbefore

theorem Alone.dropped (halone : g.Alone) : (g.dropped h).Alone where
  same := by
    intro first hfirst other hother
    exact halone.same first (List.mem_of_mem_erase hfirst) other (List.mem_of_mem_erase hother)
  risen := by
    intro other hother
    exact (mem_unwinding_dropped.mp hother).2

theorem Aside.refl (id : Nat) (g : Ledger) : Aside id g g :=
  ⟨fun _ _ => rfl, fun _ _ => .rfl, fun _ _ hmem => hmem⟩

theorem aside_given (g : Ledger) (h : Hold) : Aside h.object g (g.given h) where
  count := by
    intro other hne
    rw [count_given, if_neg hne.symm, Nat.add_zero]
  guards := by
    intro other hne
    have hother : other ≠ h := fun heq => hne (by rw [heq])
    simp [given, hother]
  unwinding _ _ hmem := hmem

theorem aside_dropped (halone : g.Alone) (hmem : h ∈ g.guards) :
    Aside h.object g (g.dropped h) where
  count := by
    intro other hne
    have hcount := count_dropped hmem other
    rw [if_neg hne.symm] at hcount
    exact hcount.symm
  guards := by
    intro other hne
    have hother : other ≠ h := fun heq => hne (by rw [heq])
    exact List.mem_erase_of_ne hother
  unwinding := by
    intro other hne hunwinding
    have hother : other ≠ h := fun heq => hne (by rw [heq])
    have hkept := (List.mem_erase_of_ne hother).mpr (halone.risen other hunwinding)
    exact mem_unwinding_dropped.mpr ⟨hunwinding, hkept⟩

/-- What the book of an object says is what the ledger says. -/
structure Covers (g : Ledger) (id : Nat) (c : Client) : Prop where
  depth : c.book.depth = g.count id
  holder : ∀ thread, c.book.holder = some thread ↔ ⟨id, thread⟩ ∈ g.guards
  idle : c.book.depth = 0 → c.book.machine.phase = .unlocked
  /-- The guards can go, unless there is a frame, and when a panic takes them back they go
  anyway. -/
  busy : 0 < c.book.depth → c.book.machine.phase = .locked ∨
    c.book.machine.phase = .frameInProgress ∧
      (c.token ≠ none ∨ ∃ thread, ⟨id, thread⟩ ∈ g.unwinding)

/-- The book of an object that a step does not use. -/
theorem Covers.aside {other : Nat} {c : Client} (hcovers : g.Covers other c)
    (haside : Aside id g g') (hne : other ≠ id) : g'.Covers other c where
  depth := hcovers.depth.trans (haside.count other hne).symm
  holder thread := (hcovers.holder thread).trans (haside.guards ⟨other, thread⟩ hne).symm
  idle := hcovers.idle
  busy := by
    intro hdepth
    rcases hcovers.busy hdepth with hlocked | ⟨hworking, htoken | ⟨thread, hunwinding⟩⟩
    · exact .inl hlocked
    · exact .inr ⟨hworking, .inl htoken⟩
    · exact .inr ⟨hworking, .inr ⟨thread, haside.unwinding ⟨other, thread⟩ hne hunwinding⟩⟩

/-- An object that nobody has guards of. -/
theorem covers_unused {c : Client} (hdepth : c.book.depth = 0) (hholder : c.book.holder = none)
    (hphase : c.book.machine.phase = .unlocked) (hnone : ∀ thread, ⟨id, thread⟩ ∉ g.guards) :
    g.Covers id c where
  depth := by
    have hzero : ¬0 < g.count id := by
      rw [count_pos_iff]
      rintro ⟨thread, hmem⟩
      exact hnone thread hmem
    omega
  holder thread := by
    rw [hholder]
    constructor
    · intro hsome
      cases hsome
    · intro hmem
      exact absurd hmem (hnone thread)
  idle _ := hphase
  busy hbusy := by omega

/-- Guards of an object are those of its holder. -/
theorem Covers.mem {c : Client} {thread : Thread} (hcovers : g.Covers id c)
    (hguard : c.GuardOf thread) : ⟨id, thread⟩ ∈ g.guards := (hcovers.holder thread).mp hguard.2

/-- Who has guards of an object can use them. -/
theorem Covers.guardOf {c : Client} {thread : Thread} (hcovers : g.Covers id c)
    (hmem : ⟨id, thread⟩ ∈ g.guards) : c.GuardOf thread := by
  refine ⟨?_, (hcovers.holder thread).mpr hmem⟩
  rw [hcovers.depth, count_pos_iff]
  exact ⟨thread, hmem⟩

/-- What a step can do to the guards. -/
theorem guards_after (g : Ledger) (thread : Thread) (move : Move) (answer : Answer) :
    (∃ id mode abandoned, move = .call id (.lock mode) ∧ answer = .locked abandoned) ∨
      (∃ id unwinding, move = .call id (.release unwinding)) ∨
        (g.after thread move answer).guards = g.guards := by
  rw [after.eq_def]
  split
  · exact .inl ⟨_, _, _, rfl, rfl⟩
  · exact .inr (.inl ⟨_, _, rfl⟩)
  · exact .inr (.inl ⟨_, _, rfl⟩)
  · split
    · exact .inr (.inr rfl)
    · exact .inr (.inr rfl)
  · exact .inr (.inr rfl)

section Guards

variable {c : Client} {thread : Thread} {body : Body}

/-- One guard more for who has one. -/
theorem Covers.nested (hcovers : g.Covers id c) (hguard : c.GuardOf thread) :
    (g.given ⟨id, thread⟩).Covers id
      ⟨body, { c.book with depth := c.book.depth + 1 }, c.token⟩ where
  depth := by
    show c.book.depth + 1 = _
    rw [count_given, if_pos rfl, hcovers.depth]
  holder other := by
    show c.book.holder = some other ↔ ⟨id, other⟩ ∈ ⟨id, thread⟩ :: g.guards
    rw [List.mem_cons, ← hcovers.holder other, hguard.2]
    simp [eq_comm]
  idle hzero := absurd hzero (Nat.succ_ne_zero _)
  busy _ := hcovers.busy hguard.1

/-- The first guard of all. -/
theorem covers_gained {role : Role} {token : Option NextFrame} (hnil : g.guards = []) :
    (g.given ⟨id, thread⟩).Covers id ⟨body, ⟨⟨role, .locked⟩, 1, some thread⟩, token⟩ where
  depth := by
    show 1 = _
    rw [count_given, if_pos rfl, count, hnil]
    rfl
  holder other := by
    show some thread = some other ↔ ⟨id, other⟩ ∈ ⟨id, thread⟩ :: g.guards
    rw [hnil]
    simp [eq_comm]
  idle hzero := absurd hzero Nat.one_ne_zero
  busy _ := .inl rfl

/-- One guard less of several. -/
theorem Covers.inner (halone : g.Alone) (hcovers : g.Covers id c) (hguard : c.GuardOf thread)
    (hmany : 1 < c.book.depth) : (g.dropped ⟨id, thread⟩).Covers id
      ⟨body, { c.book with depth := c.book.depth - 1 }, c.token⟩ := by
  have hmem := hcovers.mem hguard
  have hsame := halone.same ⟨id, thread⟩ hmem
  have hlast := halone.mem_dropped hmem (hcovers.depth ▸ hmany)
  constructor
  case depth =>
    have hcount := count_dropped hmem id
    rw [if_pos rfl, ← hcovers.depth] at hcount
    show c.book.depth - 1 = _
    omega
  case holder =>
    intro other
    show c.book.holder = some other ↔ _
    rw [hcovers.holder other]
    constructor
    · intro hother
      rw [hsame ⟨id, other⟩ hother]
      exact hlast
    · exact List.mem_of_mem_erase
  case idle =>
    intro hzero
    have hzero : c.book.depth - 1 = 0 := hzero
    omega
  case busy =>
    intro _
    rcases hcovers.busy hguard.1 with hlocked | ⟨hworking, htoken | ⟨other, hunwinding⟩⟩
    · exact .inl hlocked
    · exact .inr ⟨hworking, .inl htoken⟩
    · rw [hsame ⟨id, other⟩ (halone.risen _ hunwinding)] at hunwinding
      exact .inr ⟨hworking, .inr ⟨thread, mem_unwinding_dropped.mpr ⟨hunwinding, hlast⟩⟩⟩

end Guards

/-- Another step with an object leaves the guards, and may be a panic. -/
theorem after_call (g : Ledger) (id : Nat) (thread : Thread) {call : Call} (answer : Answer)
    (hlock : ∀ mode, call ≠ .lock mode) (hrelease : ∀ unwinding, call ≠ .release unwinding) :
    g.after thread (.call id call) answer = g ∨ ⟨id, thread⟩ ∈ g.guards ∧
      g.after thread (.call id call) answer = g.panicked ⟨id, thread⟩ := by
  rw [after.eq_def]
  split
  · next mode _ heq =>
    cases heq
    exact absurd rfl (hlock mode)
  · next heq =>
    cases heq
    exact absurd rfl (hrelease false)
  · next heq =>
    cases heq
    exact absurd rfl (hrelease true)
  · next heq =>
    cases heq
    by_cases hmem : ⟨id, thread⟩ ∈ g.guards
    · exact .inr ⟨hmem, if_pos hmem⟩
    · exact .inl (if_neg hmem)
  · exact .inl rfl

/-- An object that keeps its book is covered as before, as long as a frame that is lost without
being submitted is a panic. -/
theorem Covers.keeps {c c' : Client} (hcovers : g.Covers id c) (hbook : c'.book = c.book)
    (hguards : g'.guards = g.guards) (hunwinding : ∀ h ∈ g.unwinding, h ∈ g'.unwinding)
    (htoken : 0 < c.book.depth → c.token ≠ none →
      c'.token ≠ none ∨ ∃ thread, ⟨id, thread⟩ ∈ g'.unwinding) : g'.Covers id c' where
  depth := by
    rw [hbook, hcovers.depth, count, count, hguards]
  holder := by
    rw [hbook, hguards]
    exact hcovers.holder
  idle := by
    rw [hbook]
    exact hcovers.idle
  busy := by
    rw [hbook]
    intro hdepth
    rcases hcovers.busy hdepth with hlocked | ⟨hworking, hbegun | ⟨thread, hmem⟩⟩
    · exact .inl hlocked
    · exact .inr ⟨hworking, htoken hdepth hbegun⟩
    · exact .inr ⟨hworking, .inr ⟨thread, hunwinding _ hmem⟩⟩

end Ledger

/-! ## The invariant -/

/-- A region with the ledger of its guards, on which threads keep to what the ledger allows. -/
inductive Disciplined : Exchange → Ledger → Prop where
  | start (names : RegionNames) (memory : Bytes) (host : Host) :
      Header.byteSize ≤ memory.length → Disciplined (.unopened names memory host) .empty
  | step {x y : Exchange} {g : Ledger} {thread : Thread} {move : Move} {answer : Answer} :
      Disciplined x g → g.allows x thread move = true → x.step thread move = some (answer, y) →
      Disciplined y (g.after thread move answer)

namespace Exchange

/-- Lock and books are what the ledger says. -/
structure Accounted (x : Exchange) (g : Ledger) : Prop where
  length : Header.byteSize ≤ x.memory.length
  settled : ∀ id c, x.clients.get? id = some c → c.Settled
  alone : g.Alone
  mutex : x.mutex = ⟨.checked, g.holding⟩
  living : ∀ h ∈ g.guards, h.thread ∉ x.dead
  known : ∀ h ∈ g.guards, (x.clients.get? h.object).isSome
  covers : ∀ id c, x.clients.get? id = some c → g.Covers id c

namespace Accounted

variable {x y : Exchange} {g g' : Ledger} {caller : Thread} {id : Nat} {c c' : Client}
  {answer : Answer}

/-- The lock is free where there are no guards, and nobody ever died with it. -/
theorem guards_eq_nil (hacc : x.Accounted g)
    (hnobody : x.mutex.holding = .free ∨ x.mutex.holding = .orphaned) : g.guards = [] := by
  rw [hacc.mutex] at hnobody
  unfold Ledger.holding at hnobody
  cases hguards : g.guards with
  | nil => rfl
  | cons h rest => simp [hguards] at hnobody

/-- The lock is never left by somebody who died. -/
theorem not_orphaned (hacc : x.Accounted g) : x.mutex.holding ≠ .orphaned := by
  intro horphaned
  have hnil := hacc.guards_eq_nil (.inr horphaned)
  rw [hacc.mutex, Ledger.holding_of_nil hnil] at horphaned
  cases horphaned

/-- Whoever has no guards finds no object that says otherwise. -/
theorem not_mem_of_zero (hacc : x.Accounted g) (hclient : x.clients.get? id = some c)
    (hzero : c.book.depth = 0) (thread : Thread) : ⟨id, thread⟩ ∉ g.guards := by
  intro hmem
  have hguard := (hacc.covers id c hclient).guardOf hmem
  exact absurd hzero (Nat.pos_iff_ne_zero.mp hguard.1)

/-- A session that was begun under a guard of its own leaves the lock free, as it was. -/
theorem mutex_restarted {book : LockBook} {gpu : UInt64} {s' : Site} (hacc : x.Accounted g)
    (hrestarted : (x.site caller book).Restarted gpu s') : s'.mutex = x.mutex := by
  have hnil := hacc.guards_eq_nil hrestarted.nobody
  have hfree : x.mutex.holding = .free := by rw [hacc.mutex, Ledger.holding_of_nil hnil]
  show _ = x.mutex
  rw [hrestarted.mutex, ← hfree]
  rfl

/-- Nor does an operation that began no session change the lock. -/
theorem mutex_aside {book : LockBook} {s' : Site} (hacc : x.Accounted g)
    (hsite : (x.site caller book).Still s' ∨ ∃ gpu, (x.site caller book).Restarted gpu s') :
    s'.mutex = x.mutex := by
  rcases hsite with hstill | ⟨gpu, hrestarted⟩
  · exact hstill.mutex
  · exact hacc.mutex_restarted hrestarted

/-- What is left to show for a call: what it made of its own object, and of the lock. -/
theorem called {call : Call} {s' : Site} (hacc : x.Accounted g)
    (hstep : x.step caller (.call id call) = some (answer, (x.leave s').put id c'))
    (haside : Ledger.Aside id g g') (halone : g'.Alone)
    (hgiven : ∀ h ∈ g'.guards, h = ⟨id, caller⟩ ∨ h ∈ g.guards)
    (hmutex : s'.mutex = ⟨.checked, g'.holding⟩) (hcovers : g'.Covers id c') :
    ((x.leave s').put id c').Accounted g' := by
  obtain ⟨halive, hhappens⟩ := happens hacc.settled hacc.length hstep
  constructor
  case length => exact hhappens.length ▸ hacc.length
  case settled => exact hhappens.settled hacc.settled
  case alone => exact halone
  case mutex => exact hmutex
  case living =>
    intro h hmem
    rcases hgiven h hmem with rfl | hbefore
    · exact halive
    · exact hacc.living h hbefore
  case known =>
    intro h hmem
    rw [get?_put]
    by_cases hobject : id = h.object
    · rw [if_pos hobject]
      rfl
    · rw [if_neg hobject]
      rcases hgiven h hmem with rfl | hbefore
      · exact absurd rfl hobject
      · exact hacc.known h hbefore
  case covers =>
    intro other d hother
    rw [get?_put] at hother
    split at hother
    · next heq =>
      cases hother
      exact heq ▸ hcovers
    · next hne => exact (hacc.covers other d hother).aside haside (Ne.symm hne)

/-- A lock that is given is entered, and one that is refused changes nothing. -/
theorem lock {mode : LockMode} (hacc : x.Accounted g)
    (hstep : x.step caller (.call id (.lock mode)) = some (answer, y)) :
    y.Accounted (g.after caller (.call id (.lock mode)) answer) := by
  obtain ⟨c, s', result, hclient, rfl, hasks, hresult⟩ := step_lock hstep
  have hcovers := hacc.covers id c hclient
  -- a thread that is refused leaves its object and the ledger alone
  have hrefused (hsite : s' = x.site caller c.book)
      (hafter : g.after caller (.call id (.lock mode)) answer = g) :
      ((x.leave s').put id ⟨c.body, s'.book, c.tokenAfter (.lock mode) answer s'.book⟩).Accounted
        (g.after caller (.call id (.lock mode)) answer) := by
    rw [hafter]
    subst hsite
    refine hacc.called hstep (.refl id g) hacc.alone (fun h hmem => .inr hmem)
      hacc.mutex ?_
    refine hcovers.keeps rfl rfl (fun h hmem => hmem) fun hdepth htoken => .inl ?_
    show (if c.book.depth = 0 then none else c.token) ≠ none
    rwa [if_neg (Nat.pos_iff_ne_zero.mp hdepth)]
  cases hasks with
  | busy =>
    rcases hresult with ⟨acquired, hok, rfl⟩ | ⟨failure, -, hfailed, -⟩
    · cases hok
      exact hrefused rfl rfl
    · cases hfailed
  | blocked =>
    rcases hresult with ⟨acquired, hok, -⟩ | ⟨failure, hwaited, hfailed, -⟩
    · cases hok
    · cases hfailed
      exact absurd rfl hwaited
  | deadlock =>
    rcases hresult with ⟨acquired, hok, -⟩ | ⟨failure, -, hfailed, rfl⟩
    · cases hok
    · cases hfailed
      exact hrefused rfl rfl
  | stuck hdepth hphase =>
    -- without guards an object is back where it began
    exact absurd (hcovers.idle hdepth) hphase
  | nested hdepth hmine =>
    rcases hresult with ⟨acquired, hok, rfl⟩ | ⟨failure, -, hfailed, -⟩
    · cases hok
      have hguard : c.GuardOf caller := (hacc.settled id c hclient).guardOf hdepth hmine
      have hmem := hcovers.mem hguard
      refine hacc.called hstep (g.aside_given ⟨id, caller⟩)
        (hacc.alone.given (hacc.alone.same _ hmem)) (fun h hgiven => List.mem_cons.mp hgiven) ?_
        (hcovers.nested hguard)
      show x.mutex = ⟨.checked, .held caller⟩
      rw [hacc.mutex, hacc.alone.holding hmem]
    · cases hfailed
  | gained hready hfree =>
    rcases hresult with ⟨acquired, hok, rfl⟩ | ⟨failure, -, hfailed, -⟩
    · cases hok
      have hnil := hacc.guards_eq_nil (.inl hfree)
      have hnobody : ∀ other ∈ g.guards, other = ⟨id, caller⟩ := by
        intro other hother
        rw [hnil] at hother
        cases hother
      refine hacc.called hstep (g.aside_given ⟨id, caller⟩) (hacc.alone.given hnobody)
        (fun h hgiven => List.mem_cons.mp hgiven) ?_ (Ledger.covers_gained hnil)
      show ({ x.mutex with holding := .held caller } : Mutex) = _
      rw [hacc.mutex]
      rfl
    · cases hfailed
  | recovered _ horphaned => exact absurd horphaned hacc.not_orphaned

/-- The thread that has guards owns the lock, and can give it back. -/
theorem owns (hacc : x.Accounted g) (hmem : ⟨id, caller⟩ ∈ g.guards) :
    x.mutex.release caller = .ok { x.mutex with holding := .free } := by
  rw [hacc.mutex, hacc.alone.holding hmem]
  simp [Mutex.release, Mutex.knowsOwner]

/-- A panic by itself changes nothing. -/
theorem panicked {h : Hold} (hacc : x.Accounted g) (hmem : h ∈ g.guards) :
    x.Accounted (g.panicked h) where
  length := hacc.length
  settled := hacc.settled
  alone := hacc.alone.panicked hmem
  mutex := hacc.mutex
  living := hacc.living
  known := hacc.known
  covers id c hclient := (hacc.covers id c hclient).keeps rfl rfl
    (fun _ hunwinding => List.mem_cons_of_mem _ hunwinding) fun _ htoken => .inl htoken

/-- A last guard is dropped by a panic, or where the object is ready for it. -/
theorem droppable {unwinding : Bool} (hacc : x.Accounted g) (hclient : x.clients.get? id = some c)
    (hguard : c.GuardOf caller) (hlast : c.book.depth ≤ 1)
    (hallowed : g.allows x caller (.call id (.release unwinding)) = true) :
    unwinding = true ∨ c.book.machine.phase = .locked := by
  have hcovers := hacc.covers id c hclient
  cases unwinding with
  | true => exact .inl rfl
  | false =>
    simp only [Ledger.allows, hclient, Option.all_some, Bool.and_eq_true, Bool.or_eq_true,
      decide_eq_true_iff, Option.isNone_iff_eq_none, ← hcovers.depth] at hallowed
    obtain ⟨hquiet, hframe⟩ := hallowed
    rcases hcovers.busy hguard.1 with hlocked | ⟨-, htoken | ⟨other, hunwinding⟩⟩
    · exact .inr hlocked
    · rcases hframe with hmany | hnone
      · omega
      · exact absurd hnone htoken
    · have hsame := hacc.alone.same _ (hcovers.mem hguard) _ (hacc.alone.risen _ hunwinding)
      rw [hsame] at hunwinding
      exact absurd hunwinding hquiet

/-- A guard that is dropped is one less. -/
theorem dropped {unwinding : Bool} (hacc : x.Accounted g)
    (hready : ∀ c, x.clients.get? id = some c → c.GuardOf caller → c.book.depth ≤ 1 →
      unwinding = true ∨ c.book.machine.phase = .locked)
    (hstep : x.step caller (.call id (.release unwinding)) = some (answer, y)) :
    y.Accounted (g.dropped ⟨id, caller⟩) ∧ answer = .done := by
  obtain ⟨c, s', result, hclient, hguard, rfl, hreleases, hresult⟩ := step_release hstep
  have hcovers := hacc.covers id c hclient
  have hmem := hcovers.mem hguard
  have hleft : ∀ h ∈ (g.dropped ⟨id, caller⟩).guards, h = ⟨id, caller⟩ ∨ h ∈ g.guards := by
    intro h hmem
    exact .inr (List.mem_of_mem_erase hmem)
  have haside := g.aside_dropped hacc.alone hmem
  cases hreleases with
  | inner hmany =>
    rcases hresult with ⟨hok, rfl⟩ | ⟨failure, hfailed, -⟩
    · cases hok
      have hlast := hacc.alone.mem_dropped hmem (hcovers.depth ▸ hmany)
      have hmany : 1 < c.book.depth := hmany
      have hnot : c.book.depth - 1 ≠ 0 := by omega
      have htoken : (if c.book.depth - 1 = 0 then none else c.token) = c.token := if_neg hnot
      refine ⟨hacc.called hstep haside hacc.alone.dropped hleft ?_ ?_, rfl⟩
      · show x.mutex = _
        rw [hacc.mutex, hacc.alone.holding hmem, hacc.alone.dropped.holding hlast]
      · show (g.dropped ⟨id, caller⟩).Covers id ⟨c.body, { c.book with depth := c.book.depth - 1 },
          if c.book.depth - 1 = 0 then none else c.token⟩
        rw [htoken]
        exact hcovers.inner hacc.alone hguard hmany
    · cases hfailed
  | freed hlast =>
    rcases hresult with ⟨hok, rfl⟩ | ⟨failure, hfailed, -⟩
    · cases hok
      -- the last guard of the object is the last one of all
      have hone : g.count id ≤ 1 := hcovers.depth ▸ hlast
      have hnil : (g.dropped ⟨id, caller⟩).guards = [] := by
        show g.guards.erase ⟨id, caller⟩ = []
        rw [hacc.alone.single hmem hone]
        simp
      refine ⟨hacc.called hstep haside hacc.alone.dropped hleft ?_ ?_, rfl⟩
      · show ({ x.mutex with holding := .free } : Mutex) = _
        rw [hacc.mutex, Ledger.holding_of_nil hnil]
      · refine Ledger.covers_unused rfl rfl rfl fun thread hmem => ?_
        rw [hnil] at hmem
        cases hmem
    · cases hfailed
  | kept reason _ _ hkept =>
    -- the owner of a mutex can always give it back
    have howns := hacc.owns hmem
    cases howns.symm.trans hkept
  | refused hlast hunwinding hphase =>
    rcases hready c hclient hguard hlast with hpanic | hlocked
    · rw [hunwinding] at hpanic
      cases hpanic
    · exact absurd hlocked hphase

/-- A guard that is allowed to go does so. -/
theorem release_done {unwinding : Bool} (hacc : x.Accounted g)
    (hallowed : g.allows x caller (.call id (.release unwinding)) = true)
    (hstep : x.step caller (.call id (.release unwinding)) = some (answer, y)) :
    y.Accounted (g.dropped ⟨id, caller⟩) ∧ answer = .done :=
  hacc.dropped (fun _ hclient hguard hlast => hacc.droppable hclient hguard hlast hallowed) hstep

/-- A frame is lost without being published only by a panic. -/
theorem lost {call : Call} {book : LockBook} (hsettled : c.Settled)
    (hclient : x.clients.get? id = some c)
    (hstep : x.step caller (.call id call) = some (answer, y))
    (hpublishes : call.publishes answer = false) (hdepth : book.depth ≠ 0)
    (htoken : c.token ≠ none) (hlost : c.tokenAfter call answer book = none) :
    c.GuardOf caller ∧ ((∃ frame, call = .submit frame) ∨ call = .abandon) ∧
      ∃ violation, answer = .failed (.violation violation) := by
  obtain ⟨-, c', operation, hclient', hguard, hoperation, hends⟩ := step_ends hstep
  rw [hclient] at hclient'
  cases hclient'
  -- while there are guards, only who submits or drops the frame has it no longer
  rw [Client.tokenAfter.eq_def, if_neg hdepth] at hlost
  split at hlost
  · cases hlost
  · next _ frame =>
    refine ⟨hguard rfl, .inl ⟨frame, rfl⟩, ?_⟩
    simp only [Client.operation] at hoperation
    split at hoperation
    · next w next hbody _ =>
      cases hoperation
      have hrole : (x.site caller c.book).book.machine.role = .writer := by
        show c.book.machine.role = .writer
        rw [hsettled.role, hbody]
        rfl
      obtain ⟨s', -, ⟨a, -, rfl⟩ | ⟨failure, -, hfailed, rfl⟩⟩ := hends.answering
      · cases hpublishes
      · by_cases hright : frame.check = .ok () ∧ (x.site caller c.book).book.machine.phase =
            .frameInProgress
        · rw [w.submit_ok hright.1 hrole hright.2] at hfailed
          cases hfailed
        · obtain ⟨violation, hrefused⟩ :=
            w.submit_refused hrole (Decidable.not_and_iff_not_or_not.mp hright)
          rw [hrefused] at hfailed
          cases hfailed
          exact ⟨violation, rfl⟩
    · cases hoperation
  · refine ⟨hguard rfl, .inr rfl, ?_⟩
    simp only [Client.operation] at hoperation
    split at hoperation
    · cases hoperation
      obtain ⟨s', -, ⟨a, hok, -⟩ | ⟨failure, -, hfailed, rfl⟩⟩ := hends.answering
      · cases hok
      · cases hfailed
        exact ⟨_, rfl⟩
    · cases hoperation
  · exact absurd hlost htoken

/-- A call that neither gives nor drops a guard keeps the ledger. -/
theorem kept {call : Call} (hacc : x.Accounted g) (hlock : ∀ mode, call ≠ .lock mode)
    (hrelease : ∀ unwinding, call ≠ .release unwinding)
    (hstep : x.step caller (.call id call) = some (answer, y))
    (hlost : ∀ c book, x.clients.get? id = some c → call.publishes answer = false →
      book.depth ≠ 0 → c.token ≠ none → c.tokenAfter call answer book = none →
      ∃ thread, ⟨id, thread⟩ ∈ g.unwinding) : y.Accounted g := by
  obtain ⟨halive, hhappens⟩ := happens hacc.settled hacc.length hstep
  cases hhappens with
  | @called _ c _ _ body s' hclient hguard heffect hbecomes =>
    have hcovers := hacc.covers id c hclient
    have hbooks (hmutex : s'.mutex = x.mutex) (hkept : g.Covers id
        ⟨body, s'.book, c.tokenAfter call answer s'.book⟩) := hacc.called hstep (.refl id g)
      hacc.alone (fun h hmem => .inr hmem) (hmutex.trans hacc.mutex) hkept
    have hsame (hmutex : s'.mutex = x.mutex) (hbook : s'.book = c.book)
        (hpublishes : call.publishes answer = false ∨ c.token = none) := by
      refine hbooks hmutex (hcovers.keeps hbook rfl (fun _ hmem => hmem) fun hdepth htoken => ?_)
      by_cases hnone : c.tokenAfter call answer s'.book = none
      · have hnot : s'.book.depth ≠ 0 := hbook ▸ Nat.pos_iff_ne_zero.mp hdepth
        exact .inr (hlost c s'.book hclient (hpublishes.resolve_right htoken) hnot htoken hnone)
      · exact .inl hnone
    -- between frames there is none that could be lost
    have hidle (hphase : c.book.machine.phase = .locked) : c.token = none := by
      by_contra htoken
      have hworking := ((hacc.settled id c hclient).begun htoken).2
      rw [hphase] at hworking
      cases hworking
    cases heffect with
    | still hpublishes _ hstill => exact hsame hstill.mutex hstill.book (.inl hpublishes)
    | recovered hpublishes _ hrestarted =>
      exact hsame (hacc.mutex_restarted hrestarted) hrestarted.book (.inl hpublishes)
    | nested => exact absurd rfl (hlock _)
    | gained => exact absurd rfl (hlock _)
    | inherited => exact absurd rfl (hlock _)
    | inner => exact absurd rfl (hrelease _)
    | freed => exact absurd rfl (hrelease _)
    | kept => exact absurd rfl (hrelease _)
    | refused => exact absurd rfl (hrelease _)
    | begun hbody =>
      refine hbooks rfl ⟨hcovers.depth, hcovers.holder, ?_, ?_⟩
      · intro hzero
        exact absurd hzero (Nat.pos_iff_ne_zero.mp (hguard rfl).1)
      · intro hdepth
        refine .inr ⟨rfl, .inl ?_⟩
        show (if c.book.depth = 0 then none else some _) ≠ none
        rw [if_neg (Nat.pos_iff_ne_zero.mp (hguard rfl).1)]
        simp
    | submitted =>
      refine hbooks rfl ⟨hcovers.depth, hcovers.holder, ?_, fun _ => .inl rfl⟩
      intro hzero
      exact absurd hzero (Nat.pos_iff_ne_zero.mp (hguard rfl).1)
    | emptied _ hphase => exact hsame rfl rfl (.inr (hidle hphase))
    | detached _ hphase hrenewed => exact hsame hrenewed.mutex hrenewed.book (.inr (hidle hphase))

/-- What is left to show for a step that uses no object: it opens one without guards at most, and
ends one without guards. -/
theorem elsewhere (hacc : x.Accounted g) {move : Move}
    (hstep : x.step caller move = some (answer, y)) (hmutex : y.mutex = x.mutex)
    (hdead : ∀ h ∈ g.guards, h.thread ∉ y.dead)
    (hknown : ∀ id c, x.clients.get? id = some c → 0 < c.book.depth → (y.clients.get? id).isSome)
    (hclients : ∀ id c, y.clients.get? id = some c → x.clients.get? id = some c ∨
      x.clients.get? id = none ∧ ∃ body, c = .opened body) : y.Accounted g := by
  obtain ⟨halive, hhappens⟩ := happens hacc.settled hacc.length hstep
  constructor
  case length => exact hhappens.length ▸ hacc.length
  case settled => exact hhappens.settled hacc.settled
  case alone => exact hacc.alone
  case mutex => exact hmutex.trans hacc.mutex
  case living => exact hdead
  case known =>
    intro h hmem
    obtain ⟨c, hclient⟩ := Option.isSome_iff_exists.mp (hacc.known h hmem)
    have hguard := (hacc.covers h.object c hclient).guardOf hmem
    exact hknown h.object c hclient hguard.1
  case covers =>
    intro id c hclient
    rcases hclients id c hclient with hbefore | ⟨hnone, body, rfl⟩
    · exact hacc.covers id c hbefore
    · refine Ledger.covers_unused rfl rfl rfl fun thread hmem => ?_
      have hknown := hacc.known _ hmem
      rw [hnone] at hknown
      cases hknown

/-- An object is opened. -/
theorem opened {z : Exchange} {body : Body} {move : Move} (hacc : x.Accounted g)
    (hstep : x.step caller move = some (answer, z.put id (.opened body)))
    (hnone : x.clients.get? id = none) (hclients : z.clients = x.clients)
    (hdead : z.dead = x.dead) (hmutex : z.mutex = x.mutex) :
    (z.put id (.opened body)).Accounted g := by
  refine hacc.elsewhere hstep hmutex (fun h hmem => ?_) ?_ ?_
  · show h.thread ∉ z.dead
    rw [hdead]
    exact hacc.living h hmem
  · intro other c hbefore _
    rw [get?_put, hclients]
    split
    · rfl
    · rw [hbefore]
      rfl
  · intro other c hafter
    rw [get?_put, hclients] at hafter
    split at hafter
    · next heq =>
      cases hafter
      exact .inr ⟨heq ▸ hnone, body, rfl⟩
    · exact .inl hafter

/-- No object is opened or ends. -/
theorem unmoved {move : Move} (hacc : x.Accounted g)
    (hstep : x.step caller move = some (answer, y)) (hclients : y.clients = x.clients)
    (hmutex : y.mutex = x.mutex) (hliving : ∀ h ∈ g.guards, h.thread ∉ y.dead) :
    y.Accounted g := by
  refine hacc.elsewhere hstep hmutex hliving (fun id c hclient _ => ?_) fun id c hclient => ?_
  · rw [hclients, hclient]
    rfl
  · exact .inl (hclients ▸ hclient)

/-- An object without guards ends. -/
theorem closed (hacc : x.Accounted g) (hstep : x.step caller (.close id) = some (answer, y)) :
    y.Accounted g := by
  have hhappens := (happens hacc.settled hacc.length hstep).2
  cases hhappens with
  | closed hclient hzero _ hsite =>
    refine hacc.elsewhere hstep (hacc.mutex_aside (hsite.imp_right fun h => ⟨_, h⟩)) hacc.living
      ?_ ?_
    · intro other d hother hdepth
      have hne : id ≠ other := by
        rintro rfl
        rw [hclient] at hother
        cases hother
        omega
      show ((x.clients.erase id).get? other).isSome = true
      rw [Table.get?_erase, if_neg hne, hother]
      rfl
    · intro other d hother
      have hother : (x.clients.erase id).get? other = some d := hother
      rw [Table.get?_erase] at hother
      split at hother
      · cases hother
      · exact .inl hother

/-- A thread dies that has no guards. -/
theorem died (hacc : x.Accounted g) (hnone : ∀ h ∈ g.guards, h.thread ≠ caller)
    (hstep : x.step caller .die = some (answer, y)) : y.Accounted g := by
  have hhappens := (happens hacc.settled hacc.length hstep).2
  cases hhappens with
  | died =>
    have howner : x.mutex.knowsOwner caller = false := by
      rw [hacc.mutex]
      unfold Ledger.holding
      cases hguards : g.guards with
      | nil => rfl
      | cons h rest =>
        have hne := hnone h (by simp [hguards])
        simp [Mutex.knowsOwner, hne]
    refine hacc.unmoved hstep rfl ?_ fun h hmem => ?_
    · show x.mutex.ownerDies caller = x.mutex
      rw [Mutex.ownerDies, howner]
      rfl
    · show h.thread ∉ caller :: x.dead
      rw [List.mem_cons, not_or]
      exact ⟨hnone h hmem, hacc.living h hmem⟩

/-- A guard goes, or the unwinding of a panic takes it along. -/
theorem released {unwinding : Bool} (hacc : x.Accounted g)
    (hallowed : g.allows x caller (.call id (.release unwinding)) = true)
    (hstep : x.step caller (.call id (.release unwinding)) = some (answer, y)) :
    y.Accounted (g.after caller (.call id (.release unwinding)) answer) := by
  cases unwinding with
  | false => exact (hacc.release_done hallowed hstep).1
  | true =>
    obtain ⟨c, _, _, hclient, hguard, _⟩ := step_release hstep
    have hpanic := hacc.panicked ((hacc.covers id c hclient).mem hguard)
    exact (hpanic.dropped (fun _ _ _ _ => .inl rfl) hstep).1

/-- Any other call keeps the guards, and what it loses is lost by a panic. -/
theorem used {call : Call} (hacc : x.Accounted g) (hlock : ∀ mode, call ≠ .lock mode)
    (hrelease : ∀ unwinding, call ≠ .release unwinding)
    (hstep : x.step caller (.call id call) = some (answer, y)) :
    y.Accounted (g.after caller (.call id call) answer) := by
  -- the panic, if there is one, is entered first, and then nothing is lost that it does not cover
  have hpanic : x.Accounted (g.after caller (.call id call) answer) := by
    rcases g.after_call id caller answer hlock hrelease with hsame | ⟨hmem, hpanicked⟩
    · rw [hsame]
      exact hacc
    · rw [hpanicked]
      exact hacc.panicked hmem
  refine hpanic.kept hlock hrelease hstep fun c book hclient hpublishes hdepth htoken hnone => ?_
  obtain ⟨hguard, hcall, violation, rfl⟩ := lost (hacc.settled id c hclient) hclient hstep
    hpublishes hdepth htoken hnone
  have hmem := (hacc.covers id c hclient).mem hguard
  have hafter : g.after caller (.call id call) (.failed (.violation violation)) =
      g.panicked ⟨id, caller⟩ := by
    rcases hcall with ⟨frame, rfl⟩ | rfl
    · exact if_pos hmem
    · exact if_pos hmem
  rw [hafter]
  exact ⟨caller, List.mem_cons_self⟩

/-- Every step that is allowed keeps lock, books and ledger together. -/
theorem step {move : Move} (hacc : x.Accounted g) (hallowed : g.allows x caller move = true)
    (hstep : x.step caller move = some (answer, y)) :
    y.Accounted (g.after caller move answer) := by
  have hhappens := (happens hacc.settled hacc.length hstep).2
  cases move with
  | call id call =>
    cases call with
    | lock mode => exact hacc.lock hstep
    | release unwinding => exact hacc.released hallowed hstep
    | _ => exact hacc.used (fun _ h => by cases h) (fun _ h => by cases h) hstep
  | openWriter id gpu =>
    show y.Accounted g
    cases hhappens with
    | attached hnone hrestarted =>
      exact hacc.opened hstep hnone rfl rfl (hacc.mutex_restarted hrestarted)
    | notAttached _ hsite =>
      have hmutex := hacc.mutex_aside (hsite.imp_right fun h => ⟨gpu, h⟩)
      exact hacc.unmoved hstep rfl hmutex hacc.living
  | openReader id =>
    cases hhappens with
    | openedReader _ hnone => exact hacc.opened hstep hnone rfl rfl rfl
  | openCached id kind =>
    cases hhappens with
    | openedCached _ hnone => exact hacc.opened hstep hnone rfl rfl rfl
  | close id => exact hacc.closed hstep
  | die =>
    have hnone : ∀ h ∈ g.guards, h.thread ≠ caller := by simpa [Ledger.allows] using hallowed
    exact hacc.died hnone hstep
  | elapse processes clock opened events =>
    cases hhappens with
    | elapsed => exact hacc.unmoved hstep rfl rfl hacc.living

end Accounted

end Exchange

open Exchange

/-- The invariant holds wherever threads keep to what the ledger allows. -/
theorem Disciplined.accounted {x : Exchange} {g : Ledger} (h : Disciplined x g) :
    x.Accounted g := by
  induction h with
  | start names memory host hlen =>
    constructor
    case length => exact hlen
    case alone => exact .empty
    case mutex => rfl
    case settled =>
      intro id c hclient
      cases hclient
    case living =>
      intro h hmem
      cases hmem
    case known =>
      intro h hmem
      cases hmem
    case covers =>
      intro id c hclient
      cases hclient
  | step _ hallowed hstep ih => exact ih.step hallowed hstep

/-! ## What follows -/

namespace Exchange

/-- What lock, objects and guards have to do with each other between two steps. -/
structure Balanced (x : Exchange) (g : Ledger) : Prop where
  /-- All guards are of one object and one thread. -/
  alone : ∀ h ∈ g.guards, ∀ other ∈ g.guards, other = h
  /-- The thread lives, and the object is there. -/
  living : ∀ h ∈ g.guards, h.thread ∉ x.dead ∧ (x.clients.get? h.object).isSome
  /-- Every object counts the guards that there are. -/
  depth : ∀ id c, x.clients.get? id = some c → c.book.depth = g.count id
  /-- They are guards of the thread that the object takes for their owner. -/
  holder : ∀ id c thread, x.clients.get? id = some c →
    (c.GuardOf thread ↔ ⟨id, thread⟩ ∈ g.guards)
  /-- Through an object with guards, and through no other, its thread owns the lock. -/
  through : ∀ id c, x.clients.get? id = some c → (0 < c.book.depth ↔
    ∃ thread, c.book.holder = some thread ∧ x.mutex.holding = .held thread)
  unlocked : ∀ id c, x.clients.get? id = some c →
    (c.book.machine.phase = .unlocked ↔ c.book.depth = 0)
  owner : ∀ thread, x.mutex.holding = .held thread ↔ ∃ id, ⟨id, thread⟩ ∈ g.guards
  free : x.mutex.holding = .free ↔ g.guards = []

/-- What becomes of the lock in a step: the first guard of an object takes it, the last one gives it
back, and otherwise it stays where it is. -/
inductive Transfers (x : Exchange) (thread : Thread) : Move → Answer → Exchange → Prop where
  | kept {move : Move} {answer : Answer} {y : Exchange} : y.mutex = x.mutex →
      Transfers x thread move answer y
  | taken {id : Nat} {mode : LockMode} {c c' : Client} {y : Exchange} :
      x.clients.get? id = some c → y.clients.get? id = some c' → c.book.depth = 0 →
      c'.book.depth = 1 → x.mutex.holding = .free →
      y.mutex = { x.mutex with holding := .held thread } →
      Transfers x thread (.call id (.lock mode)) (.locked false) y
  | handed {id : Nat} {unwinding : Bool} {c c' : Client} {y : Exchange} :
      x.clients.get? id = some c → y.clients.get? id = some c' → c.book.depth = 1 →
      c'.book.depth = 0 → x.mutex.holding = .held thread →
      y.mutex = { x.mutex with holding := .free } →
      Transfers x thread (.call id (.release unwinding)) .done y

/-- A balanced region, and how its lock goes on from there. -/
structure Accounts (x : Exchange) (g : Ledger) : Prop extends Balanced x g where
  /-- Whoever asks for a guard is given it, refused it or made to wait as the ledger says. -/
  locks : ∀ (h : Hold) (mode : LockMode), h.thread ∉ x.dead →
    (x.clients.get? h.object).isSome →
      (x.step h.thread (.call h.object (.lock mode))).map Prod.fst = g.reply x.names.lock h mode
  /-- Every guard can be dropped, in any order. -/
  drops : ∀ h ∈ g.guards, ∀ unwinding,
    g.allows x h.thread (.call h.object (.release unwinding)) = true →
      (x.step h.thread (.call h.object (.release unwinding))).map Prod.fst = some .done
  moves : ∀ thread move answer y, g.allows x thread move = true →
    x.step thread move = some (answer, y) → x.Transfers thread move answer y

namespace Accounted

variable {x y : Exchange} {g : Ledger} {caller : Thread} {id : Nat} {c : Client}
  {answer : Answer} {h : Hold}

theorem owner (hacc : x.Accounted g) (thread : Thread) :
    x.mutex.holding = .held thread ↔ ∃ id, ⟨id, thread⟩ ∈ g.guards := by
  rw [hacc.mutex]
  constructor
  · intro hheld
    unfold Ledger.holding at hheld
    cases hguards : g.guards with
    | nil => simp [hguards] at hheld
    | cons first rest =>
      have hthread : first.thread = thread := by simpa [hguards] using hheld
      exact ⟨first.object, by simp [← hthread]⟩
  · rintro ⟨id, hmem⟩
    exact hacc.alone.holding hmem

theorem balanced (hacc : x.Accounted g) : x.Balanced g where
  alone := hacc.alone.same
  living h hmem := ⟨hacc.living h hmem, hacc.known h hmem⟩
  depth id c hclient := (hacc.covers id c hclient).depth
  holder id c thread hclient := ⟨(hacc.covers id c hclient).mem, (hacc.covers id c hclient).guardOf⟩
  through := by
    intro id c hclient
    have hcovers := hacc.covers id c hclient
    constructor
    · intro hdepth
      rw [hcovers.depth, Ledger.count_pos_iff] at hdepth
      obtain ⟨thread, hmem⟩ := hdepth
      exact ⟨thread, (hcovers.holder thread).mpr hmem, (hacc.owner thread).mpr ⟨id, hmem⟩⟩
    · rintro ⟨thread, hholder, -⟩
      exact (hcovers.guardOf ((hcovers.holder thread).mp hholder)).1
  unlocked := by
    intro id c hclient
    have hcovers := hacc.covers id c hclient
    refine ⟨fun hphase => ?_, hcovers.idle⟩
    by_contra hdepth
    rcases hcovers.busy (Nat.pos_of_ne_zero hdepth) with hlocked | ⟨hworking, -⟩
    · rw [hphase] at hlocked
      cases hlocked
    · rw [hphase] at hworking
      cases hworking
  owner := hacc.owner
  free := by
    refine ⟨fun hfree => hacc.guards_eq_nil (.inl hfree), fun hnil => ?_⟩
    rw [hacc.mutex, Ledger.holding_of_nil hnil]

/-- Whoever is in the way has guards. -/
theorem other_of_elsewhere (hacc : x.Accounted g) (hclient : x.clients.get? id = some c)
    (helsewhere : (x.site caller c.book).Elsewhere) :
    ∃ other ∈ g.guards, other.thread ≠ caller := by
  rcases helsewhere with hguards | ⟨-, ⟨owner, hheld⟩, hnot⟩
  · have hguards : c.book.heldElsewhere caller = true := hguards
    rw [LockBook.heldElsewhere] at hguards
    cases hholder : c.book.holder with
    | none => simp [hholder] at hguards
    | some thread =>
      have hne : thread ≠ caller := by simpa [hholder] using hguards
      exact ⟨⟨id, thread⟩, ((hacc.covers id c hclient).holder thread).mp hholder, hne⟩
  · obtain ⟨other, hmem⟩ := (hacc.owner owner).mp hheld
    refine ⟨⟨other, owner⟩, hmem, ?_⟩
    rintro rfl
    have hnot : x.mutex.knowsOwner owner = false := hnot
    rw [hacc.mutex, hacc.alone.holding hmem] at hnot
    simp [Mutex.knowsOwner] at hnot

/-- What a thread is answered that asks for a guard. -/
theorem locks (hacc : x.Accounted g) (mode : LockMode) (halive : h.thread ∉ x.dead)
    (hthere : (x.clients.get? h.object).isSome) :
    (x.step h.thread (.call h.object (.lock mode))).map Prod.fst =
      g.reply x.names.lock h mode := by
  obtain ⟨c, hclient⟩ := Option.isSome_iff_exists.mp hthere
  have hcovers := hacc.covers h.object c hclient
  obtain ⟨lock, hlock, hasks⟩ := c.operation_lock mode
  rw [step_answer halive hclient (fun hunder => by cases hunder) hlock]
  have hasked := hasks (x.site h.thread c.book)
  generalize lock (x.site h.thread c.book) = result at hasked
  cases hasked with
  | busy hmode helsewhere =>
    obtain ⟨other, hmem, hne⟩ := hacc.other_of_elsewhere hclient helsewhere
    rw [hacc.alone.reply hmem, if_neg (fun heq => hne (by rw [heq])), if_neg hne, hmode]
    rfl
  | blocked hmode helsewhere =>
    obtain ⟨other, hmem, hne⟩ := hacc.other_of_elsewhere hclient helsewhere
    rw [hacc.alone.reply hmem, if_neg (fun heq => hne (by rw [heq])), if_neg hne, hmode]
  | deadlock hready howner =>
    have hheld : x.mutex.holding = .held h.thread := by
      have howner : x.mutex.knowsOwner h.thread = true := howner
      rw [Mutex.knowsOwner, Bool.and_eq_true, decide_eq_true_iff, decide_eq_true_iff] at howner
      exact howner.2
    obtain ⟨other, hmem⟩ := (hacc.owner h.thread).mp hheld
    have hne : (⟨other, h.thread⟩ : Hold) ≠ h := by
      intro heq
      rw [heq] at hmem
      exact hacc.not_mem_of_zero hclient hready.depth h.thread hmem
    rw [hacc.alone.reply hmem, if_neg hne, if_pos rfl]
    rfl
  | stuck hdepth hphase => exact absurd (hcovers.idle hdepth) hphase
  | nested hdepth hmine =>
    have hmem : h ∈ g.guards :=
      hcovers.mem ((hacc.settled h.object c hclient).guardOf hdepth hmine)
    rw [hacc.alone.reply hmem, if_pos rfl]
    rfl
  | gained _ hfree =>
    rw [g.reply_of_nil (hacc.guards_eq_nil (.inl hfree))]
    rfl
  | recovered _ horphaned => exact absurd horphaned hacc.not_orphaned

/-- A guard can be dropped. -/
theorem drops (hacc : x.Accounted g) (hmem : h ∈ g.guards) {unwinding : Bool}
    (hallowed : g.allows x h.thread (.call h.object (.release unwinding)) = true) :
    (x.step h.thread (.call h.object (.release unwinding))).map Prod.fst = some .done := by
  obtain ⟨c, hclient⟩ := Option.isSome_iff_exists.mp (hacc.known h hmem)
  have hguard := (hacc.covers h.object c hclient).guardOf hmem
  rw [step_answer (hacc.living h hmem) hclient (fun _ => hguard) rfl]
  have hreleases := Act.releases unwinding (x.site h.thread c.book)
  generalize Act.release unwinding (x.site h.thread c.book) = result at hreleases
  cases hreleases with
  | inner => rfl
  | freed => rfl
  | kept => rfl
  | refused hlast hunwinding hphase =>
    rcases hacc.droppable hclient hguard hlast hallowed with hpanic | hlocked
    · rw [hunwinding] at hpanic
      cases hpanic
    · exact absurd hlocked hphase

/-- The lock is where the ledger says, so it stays where the first of the guards stays. -/
theorem mutex_eq {g' : Ledger} (hacc : x.Accounted g) (hafter : y.Accounted g')
    (hholding : g'.holding = g.holding) : y.mutex = x.mutex := by
  rw [hafter.mutex, hacc.mutex, hholding]

/-- Nobody is told that an owner died. -/
theorem not_abandoned {mode : LockMode} {abandoned : Bool} (hacc : x.Accounted g)
    (hstep : x.step caller (.call id (.lock mode)) = some (.locked abandoned, y)) :
    abandoned = false := by
  obtain ⟨halive, c, -, hclient, -⟩ := step_ends hstep
  have hreply := hacc.locks (h := ⟨id, caller⟩) mode halive (by rw [hclient]; rfl)
  rw [show x.step caller (.call id (.lock mode)) = _ from hstep] at hreply
  have hreply : some (.locked abandoned) = g.reply x.names.lock ⟨id, caller⟩ mode := hreply
  cases hguards : g.guards with
  | nil =>
    rw [g.reply_of_nil hguards] at hreply
    simpa using hreply
  | cons first rest =>
    have hfirst : first ∈ g.guards := by simp [hguards]
    rw [hacc.alone.reply hfirst] at hreply
    split at hreply
    · simpa using hreply
    · split at hreply
      · simp at hreply
      · split at hreply <;> simp at hreply

/-- The lock when a guard is given. -/
theorem transfers_lock {mode : LockMode} {abandoned : Bool} (hacc : x.Accounted g)
    (hstep : x.step caller (.call id (.lock mode)) = some (.locked abandoned, y)) :
    x.Transfers caller (.call id (.lock mode)) (.locked abandoned) y := by
  obtain ⟨-, c, -, hclient, -⟩ := step_ends hstep
  have hafter : y.Accounted (g.given ⟨id, caller⟩) := hacc.lock hstep
  have hmem : ⟨id, caller⟩ ∈ (g.given ⟨id, caller⟩).guards := List.mem_cons_self
  have hfirst := hacc.not_abandoned hstep
  subst hfirst
  -- the first guard of all takes the lock, and any other is one more of the same thread
  by_cases hnil : g.guards = []
  · have hzero : g.count id = 0 := by rw [Ledger.count, hnil]; rfl
    obtain ⟨c', hclient'⟩ := Option.isSome_iff_exists.mp (hafter.known _ hmem)
    refine .taken hclient hclient' ?_ ?_ (hacc.balanced.free.mpr hnil) ?_
    · rw [(hacc.covers id c hclient).depth, hzero]
    · rw [(hafter.covers id c' hclient').depth, Ledger.count_given, if_pos rfl, hzero]
    · rw [hafter.mutex, hafter.alone.holding hmem, hacc.mutex]
  · obtain ⟨first, hbefore⟩ := List.exists_mem_of_ne_nil _ hnil
    have hsame := hafter.alone.same _ hmem first (List.mem_cons_of_mem _ hbefore)
    refine .kept (hacc.mutex_eq hafter ?_)
    rw [hafter.alone.holding hmem, hacc.alone.holding hbefore, hsame]

/-- The lock when a guard is dropped. -/
theorem transfers_release {unwinding : Bool} {g' : Ledger} (hacc : x.Accounted g)
    (hafter : y.Accounted g') (hguards : g'.guards = (g.dropped ⟨id, caller⟩).guards)
    (hstep : x.step caller (.call id (.release unwinding)) = some (.done, y)) :
    x.Transfers caller (.call id (.release unwinding)) .done y := by
  obtain ⟨c, _, _, hclient, hguard, hy, -⟩ := step_release hstep
  have hcovers := hacc.covers id c hclient
  have hmem := hcovers.mem hguard
  -- the lock stays for as long as one guard is left
  by_cases hmany : 1 < g.count id
  · have hleft := hacc.alone.mem_dropped hmem hmany
    rw [← hguards] at hleft
    refine .kept (hacc.mutex_eq hafter ?_)
    rw [hafter.alone.holding hleft, hacc.alone.holding hmem]
  · have hone : g.count id = 1 := by
      have := Ledger.count_pos_iff.mpr ⟨caller, hmem⟩
      omega
    have hnil : g'.guards = [] := by
      rw [hguards]
      show g.guards.erase ⟨id, caller⟩ = []
      rw [hacc.alone.single hmem (Nat.le_of_eq hone)]
      simp
    have hclient' := hy ▸ get?_put _ id id _
    rw [if_pos rfl] at hclient'
    refine .handed hclient hclient' (hcovers.depth.trans hone) ?_
      ((hacc.owner caller).mpr ⟨id, hmem⟩) ?_
    · rw [(hafter.covers id _ hclient').depth, Ledger.count, hnil]
      rfl
    · rw [hafter.mutex, Ledger.holding_of_nil hnil, hacc.mutex]

/-- What becomes of the lock in a step. -/
theorem transfers {move : Move} (hacc : x.Accounted g) (hallowed : g.allows x caller move = true)
    (hstep : x.step caller move = some (answer, y)) : x.Transfers caller move answer y := by
  have hafter := hacc.step hallowed hstep
  rcases g.guards_after caller move answer with ⟨id, mode, abandoned, rfl, rfl⟩ |
    ⟨id, unwinding, rfl⟩ | hsame
  · exact hacc.transfers_lock hstep
  · obtain ⟨-, rfl⟩ := hacc.release_done hallowed hstep
    refine hacc.transfers_release hafter ?_ hstep
    cases unwinding <;> rfl
  · refine .kept (hacc.mutex_eq hafter ?_)
    rw [Ledger.holding, Ledger.holding, hsame]

end Accounted

end Exchange

/-- Where nobody dies with a guard and every panic takes its guards back, lock, phases and depths
are what the guards that there are make them, in every state and with every next step. -/
theorem Disciplined.accounts {x : Exchange} {g : Ledger} (h : Disciplined x g) : x.Accounts g where
  toBalanced := h.accounted.balanced
  locks _ mode halive hthere := h.accounted.locks mode halive hthere
  drops _ hmem _ hallowed := h.accounted.drops hmem hallowed
  moves _ _ _ _ hallowed hstep := h.accounted.transfers hallowed hstep

/-- The steps of a script with the ledger, if each of them is allowed and can be made. -/
def Exchange.keep (x : Exchange) (g : Ledger) :
    List (Thread × Move) → Option (Exchange × Ledger)
  | [] => some (x, g)
  | (thread, move) :: rest =>
    if g.allows x thread move then
      match x.step thread move with
      | none => none
      | some (answer, y) => y.keep (g.after thread move answer) rest
    else none

/-- A script that can be kept to its end is disciplined. -/
theorem Disciplined.of_keep {x y : Exchange} {g g' : Ledger} {script : List (Thread × Move)}
    (hdisciplined : Disciplined x g) (h : x.keep g script = some (y, g')) : Disciplined y g' := by
  induction script generalizing x g with
  | nil =>
    cases h
    exact hdisciplined
  | cons entry rest ih =>
    rw [keep] at h
    split at h
    · next hallowed =>
      split at h
      · cases h
      · next answer z hstep => exact ih (.step hdisciplined hallowed hstep) h
    · cases h

/-- Two threads and three objects: a writer nests its guards, drops one of them in the middle of a
frame and breaks a rule with it. The thread that had to wait takes the lock after the panic, and
then asks for it through yet another object. -/
def Exchange.contest : List (Thread × Move) :=
  [(⟨7, 0⟩, .openWriter 0 5), (⟨7, 1⟩, .openReader 1), (⟨7, 1⟩, .openReader 2),
    (⟨7, 0⟩, .call 0 (.lock .blocking)), (⟨7, 0⟩, .call 0 (.lock .attempt)),
    (⟨7, 0⟩, .call 0 (.lock .attempt)), (⟨7, 1⟩, .call 1 (.lock .attempt)),
    (⟨7, 0⟩, .call 0 .beginFrame), (⟨7, 0⟩, .call 0 (.release false)),
    (⟨7, 0⟩, .call 0 (.submit
      { sampleFrame with layers := List.replicate 17 (.flat 1 (.of 0 0 64 64)) })),
    (⟨7, 0⟩, .call 0 (.release true)), (⟨7, 0⟩, .call 0 (.release true)),
    (⟨7, 1⟩, .call 1 (.lock .blocking)), (⟨7, 1⟩, .call 2 (.lock .attempt)),
    (⟨7, 1⟩, .call 1 (.lock .attempt))]

/-- In the end the second thread has two guards of its first object. -/
theorem Disciplined.accounts_contest : ∃ x g,
    Exchange.sample.keep .empty contest = some (x, g) ∧ g = ⟨[⟨1, ⟨7, 1⟩⟩, ⟨1, ⟨7, 1⟩⟩], []⟩ ∧
      Disciplined x g ∧ x.Accounts g := by
  have hguards : (Exchange.sample.keep .empty contest).map Prod.snd =
      some ⟨[⟨1, ⟨7, 1⟩⟩, ⟨1, ⟨7, 1⟩⟩], []⟩ := by
    decide +kernel
  obtain ⟨⟨x, g⟩, hkept, hledger⟩ := Option.map_eq_some_iff.mp hguards
  have hstart : Disciplined Exchange.sample .empty := .start _ _ _ (by decide +kernel)
  have hdisciplined := hstart.of_keep hkept
  exact ⟨x, g, hkept, hledger, hdisciplined, hdisciplined.accounts⟩

end FrameExchange
