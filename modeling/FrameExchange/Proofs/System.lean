import FrameExchange.Proofs.Exchange

/-!
# The exchange inside a system

An exchange is what a system looks like to the objects that have opened the same two files. What
happens to one of them through the system is a step of the exchange, and a region whose names stood
for nothing starts as an exchange that nobody has used.

- `System.exchange` — the exchange of a region.
- `System.call_act`, `System.call_act_error` — operations of an object are calls.
- `System.openWriter_act`, `System.openWriter_act_error` — the start of a writer.
- `System.close_act`, `System.close_act_error` — the end of one.
- `System.step_threadDies` — the death of a thread.
- `System.attach_fresh` — a new region.
-/

namespace FrameExchange

/-- What the objects with this region see of a system. -/
def System.exchange (s : System) (r : OpenRegion) (clients : Table Nat Client)
    (dead : List Thread) : Exchange :=
  ⟨r.names, (s.store.file r.mapping).bytes, (s.store.file r.lock).mutex, s.host, clients, dead⟩

/-- An operation that fails has happened, unless it would have had to wait. -/
theorem Exchange.settle_error {α : Type} {failure : Failure} {site : Site}
    {ok : α → Site → Answer × Exchange} {failed : Failure → Site → Exchange}
    (hwaits : failure ≠ .blocked) :
    settle (.error failure site) ok failed = some (.failed failure, failed failure site) := by
  cases failure with
  | blocked => exact absurd rfl hwaits
  | error e => rfl
  | violation v => rfl

/-! ## Files -/

namespace SharedStore

variable {s : SharedStore}

/-- Other contents of one file leave the others. -/
theorem file_setFile (id other : Nat) (file : SharedFile) :
    (s.setFile id file).file other = if id = other then file else s.file other := by
  unfold setFile SharedStore.file
  rw [Table.get?_insert]
  by_cases heq : id = other
  · rw [if_pos heq, if_pos heq]
    rfl
  · rw [if_neg heq, if_neg heq]

/-- A change of every file is one of each. -/
theorem find?_map {α β : Type} (f : α → β) (id : Nat) (l : List (Nat × α)) :
    Table.find? id (l.map fun (key, value) => (key, f value)) = (Table.find? id l).map f := by
  induction l with
  | nil => rfl
  | cons entry rest ih =>
    unfold Table.find?
    by_cases heq : entry.1 = id
    · simp [heq]
    · simp [heq, ih]

end SharedStore

namespace System

variable {s s' : System} {r r' : OpenRegion} {clients : Table Nat Client} {dead : List Thread}
  {caller : Thread} {id : Nat}

/-- The death of a thread leaves every file as it is, but for the owner of its lock. -/
theorem file_threadDies (thread : Thread) (number : Nat) :
    (s.threadDies thread).store.file number = { s.store.file number with
      mutex := (s.store.file number).mutex.ownerDies thread } := by
  have hfound := SharedStore.find?_map
    (fun file : SharedFile => { file with mutex := file.mutex.ownerDies thread }) number
    s.store.files.entries
  unfold threadDies SharedStore.file Table.get?
  rw [hfound]
  cases Table.find? number s.store.files.entries with
  | some found => rfl
  | none =>
    -- nobody has set up a lock in a file that was never made, so it has no owner
    have hplain : (SharedFile.ofBytes []).mutex.knowsOwner thread = false := rfl
    show SharedFile.ofBytes [] = { SharedFile.ofBytes [] with
      mutex := (SharedFile.ofBytes []).mutex.ownerDies thread }
    rw [Mutex.ownerDies, if_neg (by rw [hplain]; decide)]

/-! ## Operations -/

/-- What an operation leaves of a region is what it leaves of the exchange. -/
theorem exchange_leave (clients : Table Nat Client) (dead : List Thread)
    (hne : r.mapping ≠ r.lock) (site : Site) :
    (s.leave r site).exchange r clients dead = (s.exchange r clients dead).leave site := by
  unfold exchange leave Exchange.leave
  simp only [SharedStore.file_setFile, if_neg hne, if_neg hne.symm, if_true]

/-- An operation that comes to an answer. -/
theorem act_eq_ok {α : Type} {operation : Act α} {a : α} (clients : Table Nat Client)
    (dead : List Thread) (hact : s.act caller r operation = (.ok a, r', s')) : ∃ site,
    operation ((s.exchange r clients dead).site caller r.book) = .ok a site ∧
      r' = { r with book := site.book } ∧ s' = s.leave r site := by
  unfold act at hact
  split at hact
  · next a' site hresult =>
    cases hact
    exact ⟨site, hresult, rfl, rfl⟩
  · cases hact

/-- An operation that fails. -/
theorem act_eq_error {α : Type} {operation : Act α} {failure : Failure}
    (clients : Table Nat Client) (dead : List Thread)
    (hact : s.act caller r operation = (.error failure, r', s')) : ∃ site,
    operation ((s.exchange r clients dead).site caller r.book) = .error failure site ∧
      r' = { r with book := site.book } ∧ s' = s.leave r site := by
  unfold act at hact
  split at hact
  · cases hact
  · next failure' site hresult =>
    cases hact
    exact ⟨site, hresult, rfl, rfl⟩

section Call

variable {c : Client} {call : Call} {operation : Act (Answer × Body)}

/-- An operation of an object that comes to an answer is a call with this answer. -/
theorem call_act {answer : Answer} {body : Body} (hne : r.mapping ≠ r.lock)
    (hclient : clients.get? id = some c) (hbook : c.book = r.book)
    (hguard : call.underGuard = true → c.GuardOf caller)
    (hoperation : c.operation call = some operation)
    (hact : s.act caller r operation = (.ok (answer, body), r', s')) :
    (s.exchange r clients dead).call caller id call = some (answer,
      (s'.exchange r' clients dead).put id ⟨body, r'.book, c.tokenAfter call answer r'.book⟩) := by
  obtain ⟨site, hresult, rfl, rfl⟩ := act_eq_ok clients dead hact
  have hthere : (s.exchange r clients dead).clients.get? id = some c := hclient
  rw [Exchange.call_eq_settle hthere hguard hoperation, hbook, hresult]
  show some (answer, ((s.exchange r clients dead).leave site).put id _) = _
  rw [← exchange_leave clients dead hne]
  rfl

/-- An operation of an object that fails is a call that fails, unless it would have to wait. -/
theorem call_act_error {failure : Failure} (hne : r.mapping ≠ r.lock)
    (hclient : clients.get? id = some c) (hbook : c.book = r.book)
    (hguard : call.underGuard = true → c.GuardOf caller)
    (hoperation : c.operation call = some operation)
    (hact : s.act caller r operation = (.error failure, r', s')) (hwaits : failure ≠ .blocked) :
    (s.exchange r clients dead).call caller id call = some (.failed failure,
      (s'.exchange r' clients dead).put id
        ⟨c.body, r'.book, c.tokenAfter call (.failed failure) r'.book⟩) := by
  obtain ⟨site, hresult, rfl, rfl⟩ := act_eq_error clients dead hact
  have hthere : (s.exchange r clients dead).clients.get? id = some c := hclient
  rw [Exchange.call_eq_settle hthere hguard hoperation, hbook, hresult]
  rw [Exchange.settle_error hwaits, ← exchange_leave clients dead hne]
  rfl

end Call

/-- A writer that starts on its region is opened on the exchange. -/
theorem openWriter_act {gpu : UInt64} (hne : r.mapping ≠ r.lock)
    (hfree : clients.get? id = none) (hbook : r.book = .fresh .writer)
    (hact : s.act caller r (⟨gpu, caller.pid⟩ : Writer).attach = (.ok (), r', s')) :
    (s.exchange r clients dead).openWriter caller id gpu = some (.done,
      (s'.exchange r' clients dead).put id ⟨.writer ⟨gpu, caller.pid⟩, r'.book, none⟩) := by
  obtain ⟨site, hresult, rfl, rfl⟩ := act_eq_ok clients dead hact
  rw [hbook] at hresult
  have hnone : ((s.exchange r clients dead).clients.get? id).isSome = false := by
    rw [show (s.exchange r clients dead).clients.get? id = none from hfree]
    rfl
  unfold Exchange.openWriter
  dsimp only
  rw [hnone, if_neg (by decide), hresult]
  show some (Answer.done, ((s.exchange r clients dead).leave site).put id _) = _
  rw [← exchange_leave clients dead hne]
  rfl

/-- A writer that cannot start on its region is not opened on the exchange either. -/
theorem openWriter_act_error {gpu : UInt64} {failure : Failure} (hne : r.mapping ≠ r.lock)
    (hfree : clients.get? id = none) (hbook : r.book = .fresh .writer)
    (hact : s.act caller r (⟨gpu, caller.pid⟩ : Writer).attach = (.error failure, r', s'))
    (hwaits : failure ≠ .blocked) : (s.exchange r clients dead).openWriter caller id gpu =
      some (.failed failure, s'.exchange r' clients dead) := by
  obtain ⟨site, hresult, rfl, rfl⟩ := act_eq_error clients dead hact
  rw [hbook] at hresult
  have hnone : ((s.exchange r clients dead).clients.get? id).isSome = false := by
    rw [show (s.exchange r clients dead).clients.get? id = none from hfree]
    rfl
  unfold Exchange.openWriter
  dsimp only
  rw [hnone, if_neg (by decide), hresult, Exchange.settle_error hwaits,
    ← exchange_leave clients dead hne]
  rfl

/-- A writer without guards that ends on its region is closed on the exchange. -/
theorem close_act {c : Client} {w : Writer} (hne : r.mapping ≠ r.lock)
    (hclient : clients.get? id = some c) (hbook : c.book = r.book) (hbody : c.body = .writer w)
    (hdepth : r.book.depth = 0) (hact : s.act caller r w.close = (.ok (), r', s')) :
    (s.exchange r clients dead).close caller id =
      some (.done, s'.exchange r' (clients.erase id) dead) := by
  obtain ⟨site, hresult, rfl, rfl⟩ := act_eq_ok clients dead hact
  have hthere : (s.exchange r clients dead).clients.get? id = some c := hclient
  unfold Exchange.close
  rw [hthere]
  dsimp only
  rw [hbook, if_neg (by omega), hbody]
  dsimp only
  rw [hresult]
  show some (Answer.done, Exchange.leave { s.exchange r clients dead with
    clients := clients.erase id } site) = _
  have hleave := exchange_leave (s := s) (clients.erase id) dead hne site
  exact congrArg (fun y => some (Answer.done, y)) hleave.symm

/-- A writer whose end fails is closed all the same, unless it would have to wait. -/
theorem close_act_error {c : Client} {w : Writer} {failure : Failure} (hne : r.mapping ≠ r.lock)
    (hclient : clients.get? id = some c) (hbook : c.book = r.book) (hbody : c.body = .writer w)
    (hdepth : r.book.depth = 0) (hact : s.act caller r w.close = (.error failure, r', s'))
    (hwaits : failure ≠ .blocked) : (s.exchange r clients dead).close caller id =
      some (.failed failure, s'.exchange r' (clients.erase id) dead) := by
  obtain ⟨site, hresult, rfl, rfl⟩ := act_eq_error clients dead hact
  have hthere : (s.exchange r clients dead).clients.get? id = some c := hclient
  unfold Exchange.close
  rw [hthere]
  dsimp only
  rw [hbook, if_neg (by omega), hbody]
  dsimp only
  rw [hresult, Exchange.settle_error hwaits]
  have hleave := exchange_leave (s := s) (clients.erase id) dead hne site
  exact congrArg (fun y => some (Answer.failed failure, y)) hleave.symm

/-- The death of a thread is a step of every exchange. -/
theorem step_threadDies (hliving : caller ∉ dead) :
    (s.exchange r clients dead).step caller .die =
      some (.done, (s.threadDies caller).exchange r clients (caller :: dead)) := by
  have halive : caller ∉ (s.exchange r clients dead).dead := hliving
  unfold Exchange.step
  rw [if_neg halive]
  unfold exchange
  rw [file_threadDies, file_threadDies]
  rfl

/-! ## New regions -/

/-- The system with files for a region under these names. -/
def made (s : System) (mapping lock : String) : System :=
  { s with store :=
      ((s.store.createFile mapping (.ofBytes (Bytes.zeros Header.byteSize))).2.createFile lock
        SharedStore.freshLock).2 }

/-- The two files are empty memory, and a lock that nobody has. -/
theorem files_made (mapping lock : String) (number : Nat) :
    (s.made mapping lock).store.files.get? number =
      if s.store.next + 1 = number then some SharedStore.freshLock
      else if s.store.next = number then some (.ofBytes (Bytes.zeros Header.byteSize))
      else s.store.files.get? number := by
  unfold made SharedStore.createFile
  rw [Table.get?_insert, Table.get?_insert]

/-- Where the names of a region stand for nothing, opening it makes both of its files. -/
theorem openRegion_made {names : RegionNames} {timeout : Duration} {mapping lock : String}
    (hmapping : osName names.mapping = .ok mapping) (hlock : osName names.lock = .ok lock)
    (hother : mapping ≠ lock) (hnomapping : s.store.entries.get? mapping = none)
    (hnolock : s.store.entries.get? lock = none) : s.openRegion names timeout =
      (.ok (s.store.next, s.store.next + 1), s.made mapping lock) := by
  have hfirst : s.store.openMapping names = .ok (s.store.createFile mapping
      (.ofBytes (Bytes.zeros Header.byteSize))) := by
    unfold SharedStore.openMapping
    rw [hmapping]
    dsimp only [bind, Except.bind]
    rw [hnomapping]
    rfl
  -- the lock is missing as before, because the new mapping has another name
  have hmissing : (s.store.createFile mapping
      (.ofBytes (Bytes.zeros Header.byteSize))).2.entries.get? lock = none := by
    unfold SharedStore.createFile
    rw [Table.get?_insert, if_neg hother]
    exact hnolock
  unfold openRegion
  rw [hfirst]
  dsimp only
  unfold openLock
  rw [hlock]
  dsimp only
  unfold openLockOnce
  dsimp only
  rw [hmissing]
  rfl

/-- Whoever opens a region for the first time makes its two files. -/
theorem attach_made {config : RegionConfig} {mapping lock : String}
    (hmapping : osName (RegionNames.ofConfig config).mapping = .ok mapping)
    (hlock : osName (RegionNames.ofConfig config).lock = .ok lock) (hother : mapping ≠ lock)
    (hnomapping : s.store.entries.get? mapping = none)
    (hnolock : s.store.entries.get? lock = none) (role : Role) : s.attach config role =
      (.ok ⟨.ofConfig config, s.store.next, s.store.next + 1, .fresh role⟩,
        s.made mapping lock) := by
  unfold attach
  dsimp only
  rw [openRegion_made hmapping hlock hother hnomapping hnolock]

/-- The new files are an exchange that nobody has used. -/
theorem exchange_made (s : System) (names : RegionNames) (mapping lock : String)
    (book : LockBook) : (s.made mapping lock).exchange ⟨names, s.store.next, s.store.next + 1, book⟩
      ∅ [] = .start names s.host := by
  unfold exchange SharedStore.file
  rw [files_made, files_made, if_neg (Nat.succ_ne_self _), if_pos rfl, if_pos rfl]
  rfl

/-- A region that is opened for the first time is an exchange that nobody has used. -/
theorem attach_fresh {config : RegionConfig} {role : Role} {mapping lock : String}
    (hmapping : osName (RegionNames.ofConfig config).mapping = .ok mapping)
    (hlock : osName (RegionNames.ofConfig config).lock = .ok lock) (hother : mapping ≠ lock)
    (hnomapping : s.store.entries.get? mapping = none)
    (hnolock : s.store.entries.get? lock = none) : ∃ r s', s.attach config role = (.ok r, s') ∧
      r.mapping ≠ r.lock ∧ r.book = .fresh role ∧
      s'.exchange r ∅ [] = .start (.ofConfig config) s.host :=
  ⟨_, _, attach_made hmapping hlock hother hnomapping hnolock role, (Nat.succ_ne_self _).symm, rfl,
    exchange_made ..⟩

end System

end FrameExchange
