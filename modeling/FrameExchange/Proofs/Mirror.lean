import FrameExchange.Proofs.InPlace
import FrameExchange.Proofs.Opening
import Mathlib.Data.Fintype.EquivFin
import Mathlib.Data.List.Nodup

/-!
# A world and its exchange

All objects of a world that are open on one region are the objects of an exchange. They have names
in the world and numbers in the exchange, and what the world keeps for its commands, guards and
frames, is in the books of the objects.

- `System.Found` — the two files of a region are there for everybody who opens it.
- `World.Kept` — the guards and the frame that are kept of an object.
- `World.Mirrors` — the relation between a world and an exchange.
- `World.Mirrors.placed` — an object that is new or was used leaves the relation as it is.
- `World.Mirrors.comes` — an operation of an object is a call in the exchange.
-/

namespace FrameExchange

/-! ## Tables without repeated keys -/

namespace Table

variable {κ α : Type} [DecidableEq κ] {t t' : Table κ α} {k : κ} {v : α}

/-- No two entries have the same key. -/
def Distinct (t : Table κ α) : Prop := (t.entries.map Prod.fst).Nodup

theorem Distinct.get?_eq (h : t.Distinct) (hmem : (k, v) ∈ t.entries) : t.get? k = some v := by
  obtain ⟨entries⟩ := t
  replace h : (entries.map Prod.fst).Nodup := h
  show find? k entries = some v
  induction entries with
  | nil => cases hmem
  | cons entry rest ih =>
    rw [List.map_cons, List.nodup_cons] at h
    rw [find?]
    rcases List.mem_cons.mp hmem with rfl | hrest
    · rw [if_pos rfl]
    · have hother : entry.1 ≠ k := fun heq =>
        h.1 (heq ▸ List.mem_map_of_mem (f := Prod.fst) hrest)
      rw [if_neg hother]
      exact ih hrest h.2

omit [DecidableEq κ] in
theorem Distinct.sublist (h : t.Distinct) (hless : t'.entries.Sublist t.entries) : t'.Distinct :=
  (hless.map Prod.fst).nodup h

/-- Entries that are left of a table are what they were. -/
theorem Distinct.get?_sublist (h : t.Distinct) (hless : t'.entries.Sublist t.entries)
    (hfound : t'.get? k = some v) : t.get? k = some v :=
  h.get?_eq (hless.subset (mem_entries hfound))

theorem map_put (k : κ) (v : α) (l : List (κ × α)) : (put k v l).map Prod.fst =
    if k ∈ l.map Prod.fst then l.map Prod.fst else l.map Prod.fst ++ [k] := by
  induction l with
  | nil => rfl
  | cons entry rest ih => grind [put]

theorem Distinct.insert (h : t.Distinct) (k : κ) (v : α) : (t.insert k v).Distinct := by
  show ((put k v t.entries).map Prod.fst).Nodup
  rw [map_put]
  split
  · exact h
  · next hnew =>
    exact List.nodup_append.mpr ⟨h, List.nodup_singleton k, fun key hkey other hother =>
      List.mem_singleton.mp hother ▸ fun heq => hnew (heq ▸ hkey)⟩

/-- An entry of a table with a new value is that, or an old one. -/
theorem mem_put {j : κ} {u : α} {l : List (κ × α)} (h : (j, u) ∈ put k v l) :
    (j = k ∧ u = v) ∨ (j, u) ∈ l := by
  induction l with
  | nil =>
    cases List.mem_singleton.mp h
    exact .inl ⟨rfl, rfl⟩
  | cons entry rest ih => grind [put]

theorem countP_put (p : κ × α → Bool) (k : κ) (v : α) (l : List (κ × α)) :
    (put k v l).countP p ≤ l.countP p + if p (k, v) then 1 else 0 := by
  induction l with
  | nil => simp [put, List.countP_cons]
  | cons entry rest ih =>
    obtain ⟨key, value⟩ := entry
    rw [put]
    split
    · simp only [List.countP_cons]
      omega
    · simp only [List.countP_cons]
      omega

theorem countP_erase {p : κ × α → Bool} (hmem : (k, v) ∈ t.entries) (hp : p (k, v) = true) :
    (t.erase k).entries.countP p + 1 ≤ t.entries.countP p := by
  obtain ⟨before, after, hentries⟩ := List.append_of_mem hmem
  have hless (l : List (κ × α)) : (l.filter fun entry => entry.1 ≠ k).countP p ≤ l.countP p :=
    List.filter_sublist.countP_le
  have hbefore := hless before
  have hafter := hless after
  show (t.entries.filter fun entry => entry.1 ≠ k).countP p + 1 ≤ _
  rw [hentries, List.filter_append, List.countP_append, List.countP_append,
    List.filter_cons_of_neg (by simp), List.countP_cons_of_pos hp]
  omega

/-- What is set last counts. -/
theorem insert_insert (t : Table κ α) (k : κ) (v u : α) :
    (t.insert k v).insert k u = t.insert k u := by
  have hput (l : List (κ × α)) : put k u (put k v l) = put k u l := by
    induction l with
    | nil => simp [put]
    | cons entry rest ih => grind [put]
  exact congrArg Table.mk (hput t.entries)

theorem insert_self (hfound : t.get? k = some v) : t.insert k v = t := by
  have hput (l : List (κ × α)) (hfind : find? k l = some v) : put k v l = l := by
    induction l with
    | nil => cases hfind
    | cons entry rest ih => grind [put, find?]
  exact congrArg Table.mk (hput t.entries hfound)

/-- A table in which something was set and then adjusted. -/
theorem adjust_insert (t : Table κ α) (k : κ) (v : α) (f : α → α) :
    (t.insert k v).adjust k f = t.insert k (f v) := by
  have hfound : (t.insert k v).get? k = some v := by
    rw [get?_insert, if_pos rfl]
  rw [adjust, hfound]
  exact insert_insert t k v (f v)

/-- What was set before a key is removed is of no matter. -/
theorem erase_adjust (t : Table κ α) (k : κ) (f : α → α) : (t.adjust k f).erase k = t.erase k := by
  have hput (v : α) (l : List (κ × α)) : (put k v l).filter (fun entry => entry.1 ≠ k) =
      l.filter fun entry => entry.1 ≠ k := by
    induction l with
    | nil => simp [put]
    | cons entry rest ih => grind [put]
  unfold adjust
  split
  · next v _ => exact congrArg Table.mk (hput (f v) t.entries)
  · rfl

/-- Some number is not a key. -/
theorem exists_get?_eq_none (t : Table Nat α) : ∃ n, t.get? n = none := by
  obtain ⟨n, hn⟩ := Infinite.exists_notMem_finset (t.entries.map Prod.fst).toFinset
  refine ⟨n, ?_⟩
  cases hfound : t.get? n with
  | none => rfl
  | some v =>
    have hmem := List.mem_map_of_mem (f := Prod.fst) (mem_entries hfound)
    exact absurd (List.mem_toFinset.mpr hmem) hn

end Table

/-! ## A region that is found -/

namespace System

variable {s : System} {config : RegionConfig} {r o : OpenRegion}

/-- Whoever opens the region finds its two files. -/
structure Found (s : System) (r : OpenRegion) : Prop where
  apart : r.mapping ≠ r.lock
  mapping : ∃ name, osName r.names.mapping = .ok name ∧
    s.store.entries.get? name = some (.file r.mapping)
  lock : ∃ name, osName r.names.lock = .ok name ∧ s.Standing name r.lock

/-- It is found as before after an operation of an object on it. -/
theorem Found.leave (hfound : s.Found r) (hmapping : o.mapping = r.mapping)
    (hlock : o.lock = r.lock) (site : Site) : (s.leave o site).Found r := by
  obtain ⟨hapart, hmapped, name, hname, hstanding⟩ := hfound
  refine ⟨hapart, hmapped, name, hname, hstanding.entry, ?_⟩
  have hready := hstanding.ready
  unfold System.leave
  simp only [SharedStore.file_setFile, hmapping, hlock, if_neg hapart, if_true]
  exact hready

theorem Found.act {α : Type} {caller : Thread} {operation : Act α} {outcome : Except Failure α}
    {o' : OpenRegion} {s' : System} (hfound : s.Found r)
    (hact : s.act caller o operation = (outcome, o', s')) (hmapping : o.mapping = r.mapping)
    (hlock : o.lock = r.lock) : s'.Found r ∧ o' = { o with book := o'.book } := by
  unfold System.act at hact
  split at hact
  · cases hact
    exact ⟨hfound.leave hmapping hlock _, rfl⟩
  · cases hact
    exact ⟨hfound.leave hmapping hlock _, rfl⟩

/-- It is found as before whatever happens around it. -/
theorem Found.around (hfound : s.Found r) (host : Host) : ({ s with host } : System).Found r := by
  obtain ⟨hapart, hmapped, name, hname, hstanding⟩ := hfound
  exact ⟨hapart, hmapped, name, hname, hstanding.entry, hstanding.ready⟩

/-- It is found as before after the death of a thread. -/
theorem Found.dies (hfound : s.Found r) (thread : Thread) : (s.threadDies thread).Found r := by
  obtain ⟨hapart, hmapped, name, hname, hstanding⟩ := hfound
  refine ⟨hapart, hmapped, name, hname, hstanding.entry, ?_⟩
  rw [file_threadDies]
  exact hstanding.ready

/-- Bytes that are long enough for a header stay as they are. -/
theorem extend_of_le {bs : Bytes} (hlen : Header.byteSize ≤ bs.length) :
    bs.extend Header.byteSize = bs := by
  rw [Bytes.extend, Nat.sub_eq_zero_of_le hlen]
  exact List.append_nil bs

/-- A region that is found is opened as it is. -/
theorem Found.attach (hfound : s.Found r) (hnames : r.names = .ofConfig config)
    (hlen : Header.byteSize ≤ (s.store.file r.mapping).bytes.length) (role : Role) : ∃ s',
      s.attach config role = (.ok { r with book := .fresh role }, s') ∧ s'.Found r ∧
        s'.host = s.host ∧ ∀ number, s'.store.file number = s.store.file number := by
  obtain ⟨hapart, ⟨mapping, hmapping, hentry⟩, name, hname, hstanding⟩ := hfound
  rw [hnames] at hmapping hname
  obtain ⟨store, hstore⟩ : ∃ store, store = s.store.setFile r.mapping { s.store.file r.mapping with
    bytes := (s.store.file r.mapping).bytes.extend Header.byteSize } := ⟨_, rfl⟩
  have hfiles (number : Nat) : store.file number = s.store.file number := by
    rw [hstore, SharedStore.file_setFile, extend_of_le hlen]
    split
    · next heq => rw [heq]
    · rfl
  have hentries : store.entries = s.store.entries := by
    rw [hstore]
    rfl
  have hopened : s.store.openMapping (.ofConfig config) = .ok (r.mapping, store) := by
    unfold SharedStore.openMapping
    rw [hmapping]
    dsimp only [bind, Except.bind]
    rw [hentry, hstore]
    rfl
  have hstanding' : ({ s with store } : System).Standing name r.lock :=
    ⟨hentries ▸ hstanding.entry, (hfiles r.lock).symm ▸ hstanding.ready⟩
  refine ⟨{ s with store }, ?_, ?_, rfl, hfiles⟩
  · unfold System.attach openRegion
    dsimp only
    rw [hopened]
    dsimp only
    rw [hstanding'.openLock hname, ← hnames]
  · exact ⟨hapart, ⟨mapping, hnames ▸ hmapping, hentries ▸ hentry⟩, name, hnames ▸ hname,
      hstanding'⟩

/-- A region that was made is found. -/
theorem found_made {mapping lock : String} (book : LockBook)
    (hmapping : osName (RegionNames.ofConfig config).mapping = .ok mapping)
    (hlock : osName (RegionNames.ofConfig config).lock = .ok lock) (hother : mapping ≠ lock) :
    (s.made mapping lock).Found ⟨.ofConfig config, s.store.next, s.store.next + 1, book⟩ := by
  have hstanding := (standing_withLock { s with store :=
    (s.store.createFile mapping (.ofBytes (Bytes.zeros Header.byteSize))).2 } lock).1
  refine ⟨(Nat.lt_succ_self _).ne, ⟨mapping, hmapping, ?_⟩, lock, hlock, hstanding⟩
  unfold made SharedStore.createFile
  rw [Table.get?_insert, if_neg hother.symm, Table.get?_insert, if_pos rfl]

end System

/-! ## Guards of an object -/

/-- How many guards a call gives back. -/
def Call.returned : Call → Nat
  | .release _ => 1
  | _ => 0

/-- Whether a call takes no guard, and gives none back. -/
def Call.keepsGuards : Call → Bool
  | .lock _ | .release _ => false
  | _ => true

/-- What a call leaves of the guards of its object, unless it takes the lock: only a guard that is
given back is missing. -/
def LockBook.Remains (before after : LockBook) (call : Call) : Prop :=
  before.depth ≤ after.depth + call.returned ∧
    (0 < before.depth → 0 < after.depth → after.holder = before.holder)

theorem LockBook.Remains.depth {before after : LockBook} {call : Call}
    (h : before.Remains after call) (hguards : call.keepsGuards = true) :
    before.depth ≤ after.depth := by
  cases call with
  | lock | release => cases hguards
  | _ => exact h.1

theorem Client.remains {c : Client} {s s' : Site} {call : Call} {answer : Answer}
    (heffect : Effect c s call answer s') (hlock : ∀ mode, call ≠ .lock mode) :
    s.book.Remains s'.book call := by
  have hsame {book : LockBook} (hdepth : book.depth = s.book.depth)
      (hholder : book.holder = s.book.holder) : s.book.Remains book call :=
    ⟨by omega, fun _ _ => hholder⟩
  cases heffect with
  | still _ _ hstill => exact hsame (by rw [hstill.book]) (by rw [hstill.book])
  | recovered _ _ hrestarted => exact hsame (by rw [hrestarted.book]) (by rw [hrestarted.book])
  | nested => exact absurd rfl (hlock _)
  | gained => exact absurd rfl (hlock _)
  | inherited => exact absurd rfl (hlock _)
  | inner hdepth =>
    refine ⟨?_, fun _ _ => rfl⟩
    show s.book.depth ≤ s.book.depth - 1 + 1
    omega
  | freed hdepth => exact ⟨hdepth, fun _ hpos => absurd hpos (Nat.lt_irrefl 0)⟩
  | kept hdepth => exact ⟨hdepth, fun _ hpos => absurd hpos (Nat.lt_irrefl 0)⟩
  | refused hdepth => exact ⟨hdepth, fun _ hpos => absurd hpos (Nat.lt_irrefl 0)⟩
  | begun => exact hsame rfl rfl
  | submitted => exact hsame rfl rfl
  | emptied => exact hsame rfl rfl
  | detached _ _ hrenewed => exact hsame (by rw [hrenewed.book]) (by rw [hrenewed.book])

namespace Exchange

variable {x y : Exchange} {caller : Thread} {n : Nat} {c c' : Client} {call : Call}
  {answer : Answer}

theorem Ordered.remains (hordered : x.Ordered) (hclient : x.clients.get? n = some c)
    (hlock : ∀ mode, call ≠ .lock mode) (hstep : x.step caller (.call n call) = some (answer, y))
    (hafter : y.clients.get? n = some c') : c.book.Remains c'.book call := by
  obtain ⟨-, hhappens⟩ := happens hordered.settled hordered.length hstep
  cases hhappens with
  | called hbefore _ heffect =>
    cases hclient.symm.trans hbefore
    rw [get?_put, if_pos rfl] at hafter
    cases hafter
    exact Client.remains heffect hlock

/-- A guard is one more, and of the caller like those before. -/
theorem Ordered.locked (hordered : x.Ordered) {mode : LockMode} {abandoned : Bool}
    (hclient : x.clients.get? n = some c)
    (hstep : x.step caller (.call n (.lock mode)) = some (.locked abandoned, y))
    (hafter : y.clients.get? n = some c') : c'.book.depth = c.book.depth + 1 ∧
      c'.book.holder = some caller ∧ (0 < c.book.depth → c.book.holder = some caller) := by
  obtain ⟨c₀, s', result, hbefore, rfl, hasks, hresult⟩ := step_lock hstep
  cases hclient.symm.trans hbefore
  rw [get?_put, if_pos rfl] at hafter
  cases hafter
  have hsettled := hordered.settled n c hclient
  rcases hresult with ⟨acquired, rfl, hanswer⟩ | ⟨failure, -, -, hanswer⟩
  · cases hasks with
    | busy => cases hanswer
    | nested hdepth hmine =>
      have hholder := (hsettled.guardOf hdepth hmine).2
      exact ⟨rfl, hholder, fun _ => hholder⟩
    | gained hready =>
      have hzero : c.book.depth = 0 := hready.depth
      exact ⟨congrArg Nat.succ hzero.symm, rfl, fun hpos => absurd hpos (by omega)⟩
    | recovered hready _ hrenewed =>
      have hzero : c.book.depth = 0 := hready.depth
      dsimp only
      rw [hrenewed.book]
      exact ⟨congrArg Nat.succ hzero.symm, rfl, fun hpos => absurd hpos (by omega)⟩
  · cases hanswer

/-- Who does not get the lock has the guards that he had. -/
theorem book_of_refused {mode : LockMode} (hclient : x.clients.get? n = some c)
    (hrefused : ∀ abandoned, answer ≠ .locked abandoned)
    (hstep : x.step caller (.call n (.lock mode)) = some (answer, y))
    (hafter : y.clients.get? n = some c') : c'.book = c.book := by
  obtain ⟨c₀, s', result, hbefore, rfl, hasks, hresult⟩ := step_lock hstep
  cases hclient.symm.trans hbefore
  rw [get?_put, if_pos rfl] at hafter
  cases hafter
  rcases hresult with ⟨acquired, rfl, rfl⟩ | ⟨failure, -, rfl, -⟩
  · cases acquired with
    | busy =>
      cases hasks
      rfl
    | held abandoned => exact absurd rfl (hrefused abandoned)
  · cases hasks <;> rfl

end Exchange

/-! ## What a world keeps -/

/-- A cached reader, whatever the number of its copier. -/
def Body.unnumbered : Body → Body
  | .cached c _ => .cached c 0
  | body => body

theorem Body.role_unnumbered (body : Body) : body.unnumbered.role = body.role := by
  cases body <;> rfl

/-- Whether a call leaves the frame of its object as it is, as long as there are guards. -/
def Call.keepsFrame : Call → Bool
  | .beginFrame | .submit _ | .abandon => false
  | _ => true

theorem Client.tokenAfter_eq {c : Client} {call : Call} {answer : Answer} {book : LockBook}
    (hframe : call.keepsFrame = true) (hdepth : 0 < book.depth) :
    c.tokenAfter call answer book = c.token := by
  unfold Client.tokenAfter
  rw [if_neg (Nat.ne_of_gt hdepth)]
  cases call with
  | beginFrame | submit | abandon => cases hframe
  | _ => rfl

namespace World

/-- A frame that is kept under this name was begun under a guard of this object. -/
def FrameOf (guards : Table String Guard) (tokens : Table String FrameToken) (id name : String)
    (t : FrameToken) : Prop :=
  (name, t) ∈ tokens.entries ∧ ∃ g, (t.guard, g) ∈ guards.entries ∧ g.object = id

/-- The guards and the frames of an object that are kept, next to its book and the frame that was
begun: no more guards than the book counts, all of the thread in the book, and only this frame. -/
structure Kept (guards : Table String Guard) (tokens : Table String FrameToken) (id : String)
    (book : LockBook) (token : Option NextFrame) : Prop where
  count : guards.entries.countP (fun g => g.2.object = id) ≤ book.depth
  holder : ∀ g ∈ guards.entries, g.2.object = id → book.holder = some g.2.thread
  frame : ∀ name t, FrameOf guards tokens id name t → token = some t.next
  single : ∀ name t name' t', FrameOf guards tokens id name t →
    FrameOf guards tokens id name' t' → name = name'

section Kept

variable {guards guards' : Table String Guard} {tokens tokens' : Table String FrameToken}
  {id guard name : String} {g : Guard} {t : FrameToken} {c : Client} {call : Call}
  {answer : Answer} {book book' : LockBook} {token token' : Option NextFrame}
  {next : NextFrame} {caller : Thread}

theorem Kept.depth_pos (h : Kept guards tokens id book token) (hmem : (guard, g) ∈ guards.entries)
    (hobject : g.object = id) : 0 < book.depth := by
  have hcount := h.count
  have hpos : 0 < guards.entries.countP fun g => g.2.object = id :=
    List.countP_pos_iff.mpr ⟨_, hmem, decide_eq_true hobject⟩
  omega

/-- A frame that is kept is kept under a guard. -/
theorem Kept.depth_pos_of_frame (h : Kept guards tokens id book token)
    (hframe : FrameOf guards tokens id name t) : 0 < book.depth := by
  obtain ⟨-, g, hmem, hobject⟩ := hframe
  exact h.depth_pos hmem hobject

/-- Less may be kept. -/
theorem Kept.sublist (h : Kept guards tokens id book token)
    (hguards : guards'.entries.Sublist guards.entries)
    (htokens : tokens'.entries.Sublist tokens.entries) : Kept guards' tokens' id book token := by
  have hframe {name : String} {t : FrameToken} (hkept : FrameOf guards' tokens' id name t) :
      FrameOf guards tokens id name t := by
    obtain ⟨hmem, g, hguard, hobject⟩ := hkept
    exact ⟨htokens.subset hmem, g, hguards.subset hguard, hobject⟩
  exact ⟨hguards.countP_le.trans h.count, fun g hmem => h.holder g (hguards.subset hmem),
    fun name t hkept => h.frame name t (hframe hkept),
    fun name t name' t' hkept hkept' => h.single name t name' t' (hframe hkept) (hframe hkept')⟩

/-- Nothing is kept of an object without guards. -/
theorem kept_none (hnone : ∀ g ∈ guards.entries, g.2.object ≠ id) (book : LockBook)
    (token : Option NextFrame) : Kept guards tokens id book token where
  count := by
    rw [List.countP_eq_zero.mpr fun g hmem => by simpa using hnone g hmem]
    exact Nat.zero_le _
  holder g hmem hobject := absurd hobject (hnone g hmem)
  frame := by
    rintro name t ⟨-, g, hmem, hobject⟩
    exact absurd hobject (hnone _ hmem)
  single := by
    rintro name t name' t' ⟨-, g, hmem, hobject⟩
    exact absurd hobject (hnone _ hmem)

/-- The frame matters only as long as there are guards. -/
theorem Kept.retoken (h : Kept guards tokens id book token)
    (hsame : 0 < book.depth → token' = token) : Kept guards tokens id book token' := by
  refine ⟨h.count, h.holder, fun name t hkept => ?_, h.single⟩
  rw [hsame (h.depth_pos_of_frame hkept)]
  exact h.frame name t hkept

/-- The same is kept where the guards have not become fewer. -/
theorem Kept.rebook (h : Kept guards tokens id book token) (hdepth : book.depth ≤ book'.depth)
    (hholder : 0 < book.depth → book'.holder = book.holder) :
    Kept guards tokens id book' token := by
  refine ⟨h.count.trans hdepth, fun g hmem hobject => ?_, h.frame, h.single⟩
  rw [hholder (h.depth_pos hmem hobject)]
  exact h.holder g hmem hobject

/-- The same is kept after a call that takes no guard and gives none back. -/
theorem Kept.remains (h : Kept guards tokens id book token) (hremains : book.Remains book' call)
    (hguards : call.keepsGuards = true) : Kept guards tokens id book' token := by
  have hdepth := hremains.depth hguards
  exact h.rebook hdepth fun hpos => hremains.2 hpos (by omega)

/-- One guard is given back, and no longer kept. -/
theorem Kept.released (h : Kept guards tokens id c.book c.token)
    (hmem : (guard, g) ∈ guards.entries) (hobject : g.object = id) {unwinding : Bool}
    (hremains : c.book.Remains book (.release unwinding)) :
    Kept (guards.erase guard) tokens id book (c.tokenAfter (.release unwinding) answer book) := by
  have hkept : Kept (guards.erase guard) tokens id c.book c.token :=
    h.sublist List.filter_sublist (.refl _)
  -- the guard that goes was counted
  have hcount := Table.countP_erase (t := guards)
    (p := fun g => g.2.object = id) hmem
    (decide_eq_true hobject)
  have hless : c.book.depth ≤ book.depth + 1 := hremains.1
  have hdepth : (guards.erase guard).entries.countP (fun g => g.2.object = id) ≤ book.depth := by
    have := h.count
    omega
  have hpos {entry : String × Guard} (hentry : entry ∈ (guards.erase guard).entries)
      (hhere : entry.2.object = id) : 0 < book.depth :=
    Nat.lt_of_lt_of_le (List.countP_pos_iff.mpr ⟨_, hentry, decide_eq_true hhere⟩) hdepth
  have hbook : Kept (guards.erase guard) tokens id book c.token := by
    refine ⟨hdepth, fun entry hentry hhere => ?_, hkept.frame, hkept.single⟩
    rw [hremains.2 (h.depth_pos hmem hobject) (hpos hentry hhere)]
    exact hkept.holder entry hentry hhere
  exact hbook.retoken fun hdepth => Client.tokenAfter_eq rfl hdepth

/-- A new guard is kept under a name that no frame knows. -/
theorem Kept.locked (h : Kept guards tokens id book token) (hdepth : book'.depth = book.depth + 1)
    (hholder : book'.holder = some caller) (hmine : 0 < book.depth → book.holder = some caller)
    (hunused : ∀ t ∈ tokens.entries, t.2.guard ≠ guard) :
    Kept (guards.insert guard ⟨id, caller⟩) tokens id book' token := by
  have hold {name : String} {t : FrameToken}
      (hframe : FrameOf (guards.insert guard ⟨id, caller⟩) tokens id name t) :
      FrameOf guards tokens id name t := by
    obtain ⟨hmem, g, hguard, hobject⟩ := hframe
    rcases Table.mem_put hguard with ⟨heq, -⟩ | hbefore
    · exact absurd heq (hunused _ hmem)
    · exact ⟨hmem, g, hbefore, hobject⟩
  constructor
  case count =>
    have hput := Table.countP_put (fun g : String × Guard => g.2.object = id) guard ⟨id, caller⟩
      guards.entries
    rw [if_pos (by simp)] at hput
    have hcount := h.count
    rw [hdepth]
    exact hput.trans (Nat.succ_le_succ hcount)
  case holder =>
    intro entry hentry hobject
    rcases Table.mem_put (j := entry.1) (u := entry.2) hentry with ⟨-, heq⟩ | hbefore
    · rw [hholder, heq]
    · rw [hholder, ← hmine (h.depth_pos hbefore hobject)]
      exact h.holder entry hbefore hobject
  case frame => exact fun name t hframe => h.frame name t (hold hframe)
  case single =>
    exact fun name t name' t' hframe hframe' =>
      h.single name t name' t' (hold hframe) (hold hframe')

/-- A guard of another object is kept. -/
theorem Kept.locked_other (h : Kept guards tokens id book token) (hother : g.object ≠ id) :
    Kept (guards.insert guard g) tokens id book token := by
  have hold {entry : String × Guard} (hentry : entry ∈ (guards.insert guard g).entries)
      (hobject : entry.2.object = id) : entry ∈ guards.entries := by
    rcases Table.mem_put (j := entry.1) (u := entry.2) hentry with ⟨-, heq⟩ | hbefore
    · exact absurd (heq ▸ hobject) hother
    · exact hbefore
  have hframes {name : String} {t : FrameToken}
      (hframe : FrameOf (guards.insert guard g) tokens id name t) :
      FrameOf guards tokens id name t := by
    obtain ⟨hmem, g', hguard, hobject⟩ := hframe
    exact ⟨hmem, g', hold hguard hobject, hobject⟩
  constructor
  case count =>
    have hput := Table.countP_put (fun g : String × Guard => g.2.object = id) guard g guards.entries
    rw [if_neg (by simpa using hother)] at hput
    exact hput.trans h.count
  case holder => exact fun entry hentry hobject => h.holder entry (hold hentry hobject) hobject
  case frame => exact fun name t hframe => h.frame name t (hframes hframe)
  case single =>
    exact fun name t name' t' hframe hframe' =>
      h.single name t name' t' (hframes hframe) (hframes hframe')

/-- The frame that was begun is kept, and there was no other one. -/
theorem Kept.begun (h : Kept guards tokens id book none) :
    Kept guards (tokens.insert name ⟨guard, next⟩) id book (some next) := by
  have hnew {other : String} {t : FrameToken}
      (hframe : FrameOf guards (tokens.insert name ⟨guard, next⟩) id other t) :
      other = name ∧ t = ⟨guard, next⟩ := by
    obtain ⟨hmem, g, hguard, hobject⟩ := hframe
    rcases Table.mem_put hmem with hnow | hbefore
    · exact hnow
    · cases h.frame other t ⟨hbefore, g, hguard, hobject⟩
  refine ⟨h.count, h.holder, fun other t hframe => ?_,
    fun other t other' t' hframe hframe' => ?_⟩
  · rw [(hnew hframe).2]
  · rw [(hnew hframe).1, (hnew hframe').1]

/-- A frame of another object is kept. -/
theorem Kept.begun_other (h : Kept guards tokens id book token) (hdistinct : guards.Distinct)
    (hmem : (guard, g) ∈ guards.entries) (hother : g.object ≠ id) :
    Kept guards (tokens.insert name ⟨guard, next⟩) id book token := by
  have hold {other : String} {t : FrameToken}
      (hframe : FrameOf guards (tokens.insert name ⟨guard, next⟩) id other t) :
      FrameOf guards tokens id other t := by
    obtain ⟨htoken, g', hguard, hobject⟩ := hframe
    rcases Table.mem_put htoken with ⟨-, rfl⟩ | hbefore
    · cases (hdistinct.get?_eq hguard).symm.trans (hdistinct.get?_eq hmem)
      exact absurd hobject hother
    · exact ⟨hbefore, g', hguard, hobject⟩
  exact ⟨h.count, h.holder, fun other t hframe => h.frame other t (hold hframe),
    fun other t other' t' hframe hframe' =>
      h.single other t other' t' (hold hframe) (hold hframe')⟩

/-- The frame that is submitted or dropped is no longer kept, and there is no other one. -/
theorem Kept.consumed (h : Kept guards tokens id book token)
    (hframe : FrameOf guards tokens id name t) (token' : Option NextFrame) :
    Kept guards (tokens.erase name) id book token' := by
  have hnone {other : String} {t' : FrameToken} :
      ¬FrameOf guards (tokens.erase name) id other t' := by
    rintro ⟨hmem, g, hguard, hobject⟩
    obtain ⟨hbefore, hother⟩ := List.mem_filter.mp hmem
    have hsame := h.single other t' name t ⟨hbefore, g, hguard, hobject⟩ hframe
    simp [hsame] at hother
  exact ⟨h.count, h.holder, fun _ _ hkept => absurd hkept hnone,
    fun _ _ _ _ hkept => absurd hkept hnone⟩

end Kept

end World

/-! ## Worlds and exchanges -/

namespace World

/-- A client that is like an object of this name. -/
structure Likens (w : World) (id : String) (o : Object) (c : Client) : Prop where
  body : c.body = o.body.unnumbered
  book : c.book = o.region.book
  kept : Kept w.guards w.tokens id c.book c.token

/-- An exchange that is like a region on which all objects of a world are. Each of them is a client
under a number of its own. -/
structure Mirrors (w : World) (r : OpenRegion) (number : String → Nat) (x : Exchange) : Prop where
  ordered : x.Ordered
  found : w.system.Found r
  exchange : w.system.exchange r x.clients x.dead = x
  objects : ∀ id o, w.objects.get? id = some o → o.region = { r with book := o.region.book } ∧
    ∃ c, x.clients.get? (number id) = some c ∧ w.Likens id o c
  apart : ∀ id id' o o', w.objects.get? id = some o → w.objects.get? id' = some o' →
    number id = number id' → id = id'
  distinct : w.objects.Distinct ∧ w.guards.Distinct

/-- A world with this object under its name, whether it is new or was used. What is kept of the
others is as before. -/
structure Puts (w : World) (id : String) (o : Object) (token : Option NextFrame) (w' : World) :
    Prop where
  objects : w'.objects = w.objects.insert id o
  distinct : w'.guards.Distinct
  kept : Kept w'.guards w'.tokens id o.region.book token
  others : ∀ id' book token, id' ≠ id → Kept w.guards w.tokens id' book token →
    Kept w'.guards w'.tokens id' book token

variable {w w' : World} {r : OpenRegion} {number : String → Nat} {x y : Exchange}
  {caller : Thread} {id : String} {o : Object} {c : Client} {call : Call} {α : Type}

/-- With an object that has a client the world is like the exchange again. -/
theorem Mirrors.placed (h : w.Mirrors r number x) {token : Option NextFrame}
    (hputs : w.Puts id o token w') (hordered : y.Ordered) (hfound : w'.system.Found r)
    (hexchange : w'.system.exchange r y.clients y.dead = y)
    (hclients : y.clients = x.clients.insert (number id) ⟨o.body.unnumbered, o.region.book, token⟩)
    (hregion : o.region = { r with book := o.region.book })
    (halone : ∀ id' o', w.objects.get? id' = some o' → number id' = number id → id' = id) :
    w'.Mirrors r number y := by
  obtain ⟨hobjects, hdistinct, hkept, hothers⟩ := hputs
  have hget (id' : String) : w'.objects.get? id' = if id = id' then some o
      else w.objects.get? id' := by
    rw [hobjects]
    exact Table.get?_insert ..
  have hbefore {id' : String} {o' : Object} (hobject : w'.objects.get? id' = some o') :
      id' = id ∨ w.objects.get? id' = some o' := by
    rw [hget] at hobject
    split at hobject
    · next heq => exact .inl heq.symm
    · exact .inr hobject
  constructor
  case ordered => exact hordered
  case found => exact hfound
  case exchange => exact hexchange
  case objects =>
    intro id' o' hobject
    rw [hclients, Table.get?_insert]
    rw [hget] at hobject
    by_cases hid : id = id'
    · rw [if_pos hid] at hobject
      cases hobject
      subst hid
      rw [if_pos rfl]
      exact ⟨hregion, _, rfl, rfl, rfl, hkept⟩
    · rw [if_neg hid] at hobject
      rw [if_neg fun heq => hid (halone id' o' hobject heq.symm).symm]
      obtain ⟨hregion', c', hclient, hbody, hbook, hkept'⟩ := h.objects id' o' hobject
      exact ⟨hregion', c', hclient, hbody, hbook, hothers _ _ _ (Ne.symm hid) hkept'⟩
  case apart =>
    intro id₁ id₂ o₁ o₂ h₁ h₂ heq
    rcases hbefore h₁ with rfl | h₁
    · rcases hbefore h₂ with rfl | h₂
      · rfl
      · exact (halone id₂ o₂ h₂ heq.symm).symm
    · rcases hbefore h₂ with rfl | h₂
      · exact halone id₁ o₁ h₁ heq
      · exact h.apart id₁ id₂ o₁ o₂ h₁ h₂ heq
  case distinct => exact ⟨hobjects ▸ h.distinct.1.insert id o, hdistinct⟩

/-- A world that has forgotten some objects, guards or frames is like the exchange as before. -/
theorem Mirrors.forget (h : w.Mirrors r number x) (hsystem : w'.system = w.system)
    (hobjects : w'.objects.entries.Sublist w.objects.entries)
    (hguards : w'.guards.entries.Sublist w.guards.entries)
    (htokens : w'.tokens.entries.Sublist w.tokens.entries) : w'.Mirrors r number x := by
  have hbefore {id : String} {o : Object} (hobject : w'.objects.get? id = some o) :
      w.objects.get? id = some o := h.distinct.1.get?_sublist hobjects hobject
  constructor
  case ordered => exact h.ordered
  case found => exact hsystem ▸ h.found
  case exchange => exact hsystem ▸ h.exchange
  case objects =>
    intro id o hobject
    obtain ⟨hregion, c, hclient, hbody, hbook, hkept⟩ := h.objects id o (hbefore hobject)
    exact ⟨hregion, c, hclient, hbody, hbook, hkept.sublist hguards htokens⟩
  case apart =>
    intro id id' o o' hobject hobject' heq
    exact h.apart id id' o o' (hbefore hobject) (hbefore hobject') heq
  case distinct => exact ⟨h.distinct.1.sublist hobjects, h.distinct.2.sublist hguards⟩

/-- Names of no object may have any number. -/
theorem Mirrors.renumber (h : w.Mirrors r number x) (hnew : w.objects.get? id = none) (n : Nat) :
    w.Mirrors r (Function.update number id n) x := by
  have hsame {id' : String} {o : Object} (hobject : w.objects.get? id' = some o) :
      Function.update number id n id' = number id' := by
    refine Function.update_of_ne ?_ n number
    rintro rfl
    cases hnew.symm.trans hobject
  refine { h with objects := fun id' o hobject => ?_, apart := fun id₁ id₂ o₁ o₂ h₁ h₂ heq => ?_ }
  · rw [hsame hobject]
    exact h.objects id' o hobject
  · rw [hsame h₁, hsame h₂] at heq
    exact h.apart id₁ id₂ o₁ o₂ h₁ h₂ heq

/-- The same objects, where only the region and the host have changed. -/
theorem Mirrors.around (h : w.Mirrors r number x) {s : System} (hordered : y.Ordered)
    (hfound : s.Found r) (hexchange : s.exchange r y.clients y.dead = y)
    (hclients : y.clients = x.clients) : ({ w with system := s } : World).Mirrors r number y := by
  refine ⟨hordered, hfound, hexchange, fun id o hobject => ?_, h.apart, h.distinct⟩
  obtain ⟨hregion, c, hclient, hbody, hbook, hkept⟩ := h.objects id o hobject
  exact ⟨hregion, c, hclients ▸ hclient, hbody, hbook, hkept⟩

/-- The object that a call has left like this. -/
theorem objects_left (hobject : w.objects.get? id = some o) (site : Site) :
    (w.left id o site).objects =
      w.objects.insert id { o with region := { o.region with book := site.book } } := by
  unfold left
  rw [Table.adjust, hobject]

/-- The object that a call has left like this, if what it is was set afterwards. -/
theorem objects_setBody (hobject : w.objects.get? id = some o) (site : Site) (body : Body) :
    (setBody id body (w.left id o site)).2.objects =
      w.objects.insert id { o with region := { o.region with book := site.book }, body } := by
  show (w.left id o site).objects.adjust id _ = _
  rw [objects_left hobject, Table.adjust_insert]

/-- An operation of an object has come to this in the world, and the call of its client to the same
in the exchange, so that the two are alike again when the object is what its client is. -/
inductive Comes (w : World) (r : OpenRegion) (number : String → Nat) (x : Exchange) (id : String)
    (o : Object) (c : Client) (caller : Thread) (call : Call) (f : α → Answer × Body) :
    Except Failure α × World → Prop where
  | ok {a : α} {site : Site} {y : Exchange} {token : Option NextFrame} :
      x.step caller (.call (number id) call) = some ((f a).1, y) →
      y.dead = x.dead → y.clients.get? (number id) = some ⟨(f a).2, site.book, token⟩ →
      token = c.tokenAfter call (f a).1 site.book →
      (∀ (w' : World) (body : Body), body.unnumbered = (f a).2 →
        w'.system = w.system.leave o.region site →
        w.Puts id { o with region := { o.region with book := site.book }, body } token w' →
        w'.Mirrors r number y) →
      Comes w r number x id o c caller call f (.ok a, w.left id o site)
  | error {failure : Failure} {site : Site} {y : Exchange} {token : Option NextFrame} :
      x.step caller (.call (number id) call) = some (.failed failure, y) →
      y.dead = x.dead → y.clients.get? (number id) = some ⟨c.body, site.book, token⟩ →
      token = c.tokenAfter call (.failed failure) site.book →
      (∀ w' : World, w'.system = w.system.leave o.region site →
        w.Puts id { o with region := { o.region with book := site.book } } token w' →
        w'.Mirrors r number y) →
      Comes w r number x id o c caller call f (.error failure, w.left id o site)

/-- Whatever an object does in a world, its client does. -/
theorem Mirrors.comes (h : w.Mirrors r number x) (halive : caller ∉ x.dead)
    (hobject : w.objects.get? id = some o) (hclient : x.clients.get? (number id) = some c)
    (hlikens : w.Likens id o c) (hguard : call.underGuard = true → c.GuardOf caller)
    {operation : Act α} {f : α → Answer × Body}
    (hoperation : c.operation call = some (do return f (← operation)))
    (hended : (act caller id o operation w).1 ≠ .error .blocked) :
    Comes w r number x id o c caller call f (act caller id o operation w) := by
  have hregion := (h.objects id o hobject).1
  have hexchange (s : System) (book : LockBook) :
      s.exchange ⟨o.region.names, o.region.mapping, o.region.lock, book⟩ x.clients x.dead =
        s.exchange r x.clients x.dead := by
    rw [hregion]
    rfl
  have hne : o.region.mapping ≠ o.region.lock := by
    rw [hregion]
    exact h.found.apart
  have hstep {answer : Answer} {y : Exchange}
      (hcall : (w.system.exchange o.region x.clients x.dead).call caller (number id) call =
        some (answer, y)) : x.step caller (.call (number id) call) = some (answer, y) := by
    rw [Exchange.step, if_neg halive]
    rw [show w.system.exchange o.region x.clients x.dead = x from
      (hexchange _ o.region.book).trans h.exchange] at hcall
    exact hcall
  -- the world is like what the call leaves
  have halike {answer : Answer} {site : Site} {body : Body} {token : Option NextFrame}
      (hstep : x.step caller (.call (number id) call) = some (answer,
        ((w.system.leave o.region site).exchange r x.clients x.dead).put (number id)
          ⟨body.unnumbered, site.book, token⟩)) (w' : World)
      (hsystem : w'.system = w.system.leave o.region site)
      (hputs : w.Puts id { o with region := { o.region with book := site.book }, body } token w') :
      w'.Mirrors r number (((w.system.leave o.region site).exchange r x.clients x.dead).put
        (number id) ⟨body.unnumbered, site.book, token⟩) := by
    refine h.placed hputs (h.ordered.step hstep) ?_ ?_ rfl ?_
      fun id' o' hobject' heq => h.apart id' id o' o hobject' hobject heq
    · rw [hsystem]
      exact h.found.leave (by rw [hregion]) (by rw [hregion]) site
    · rw [hsystem]
      rfl
    · dsimp only
      rw [hregion]
  rw [act_apply] at hended ⊢
  cases hresult : operation (w.system.site caller o.region) with
  | ok a site =>
    have hact : w.system.act caller o.region (do return f (← operation)) =
        (.ok (f a), ⟨o.region.names, o.region.mapping, o.region.lock, site.book⟩,
          w.system.leave o.region site) := by
      unfold System.act
      rw [show (do return f (← operation) : Act (Answer × Body)) (w.system.site caller o.region) =
        .ok (f a) site from Act.bind_ok hresult]
    have hcall : (w.system.exchange o.region x.clients x.dead).call caller (number id) call =
      some _ := System.call_act hne hclient hlikens.book hguard hoperation hact
    rw [hexchange _ site.book] at hcall
    refine .ok (hstep hcall) rfl ?_ rfl fun w' body hbody => ?_
    · rw [Exchange.get?_put, if_pos rfl]
    · rw [← hbody] at hcall ⊢
      exact halike (hstep hcall) w'
  | error failure site =>
    have hact : w.system.act caller o.region (do return f (← operation)) =
        (.error failure, ⟨o.region.names, o.region.mapping, o.region.lock, site.book⟩,
          w.system.leave o.region site) := by
      unfold System.act
      rw [show (do return f (← operation) : Act (Answer × Body)) (w.system.site caller o.region) =
        .error failure site from Act.bind_error hresult]
    rw [hresult] at hended
    have hcall : (w.system.exchange o.region x.clients x.dead).call caller (number id) call =
      some _ := System.call_act_error hne hclient hlikens.book hguard hoperation hact
        fun heq => hended (congrArg Except.error heq)
    rw [hexchange _ site.book] at hcall
    refine .error (hstep hcall) rfl ?_ rfl fun w' => ?_
    · rw [Exchange.get?_put, if_pos rfl]
    · rw [hlikens.body] at hcall ⊢
      exact halike (hstep hcall) w'

end World

end FrameExchange
