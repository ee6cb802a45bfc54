import FrameExchange.Proofs.Rendezvous

/-!
# The header, accessed in place

A header is stored in parts, its fence values are raised one word at a time, and some of its fields
are read without the lock. None of this can be told from accesses to the header as a whole.

- `Memory.store_take`, `Memory.store_drop` — after a store nothing is left of what was there.
- `Memory.Raised` — a fence value is raised by changing the eight bytes of its slot.
- `World.status_eq` — what is seen of an object without its lock is in the header as a whole.
- `Header.inPlace` — all of it, down to the commands that read under the lock.
-/

namespace FrameExchange

namespace Memory

/-! ## Stores -/

theorem stored_stored (h : Header) : stored (stored h) = stored h := by
  show { h with flags := h.flags &&& feederAttached &&& feederAttached } = _
  rw [UInt32.and_assoc, UInt32.and_self]
  rfl

/-- A header begins with the bytes of what was stored, whatever was there. -/
theorem store_take {memory : Bytes} (h : Header) (hlen : Header.byteSize ≤ memory.length) :
    (store memory h).take Header.byteSize = Header.codec.encode (stored h) := by
  rw [store_eq h hlen]
  exact List.take_left' (Header.codec.length_encode _)

/-- What lies behind a header stays. -/
theorem store_drop {memory : Bytes} (h : Header) (hlen : Header.byteSize ≤ memory.length) :
    (store memory h).drop Header.byteSize = memory.drop Header.byteSize := by
  rw [store_eq h hlen]
  exact List.drop_left' (Header.codec.length_encode _)

/-- To store what was just stored changes nothing. -/
theorem store_load_store {memory : Bytes} (h : Header) (hlen : Header.byteSize ≤ memory.length) :
    store (store memory h) (load (store memory h)) = store memory h := by
  have hlen' : Header.byteSize ≤ (store memory h).length := by rw [length_store]; exact hlen
  rw [store_eq _ hlen', load_store h hlen, stored_stored, store_drop h hlen, ← store_eq h hlen]

/-! ## Fence values -/

/-- A word that was written is read back. -/
theorem word64_setWord64 {memory : Bytes} {offset : Nat} (v : UInt64)
    (hlen : offset + 8 ≤ memory.length) : word64 (setWord64 memory offset v) offset = v := by
  have hfront : (memory.take offset).length = offset := by
    rw [List.length_take]
    omega
  have hold : ((memory.drop offset).take 8).length = 8 := by
    rw [List.length_take, List.length_drop]
    omega
  have hparts : memory = memory.take offset ++
      ((memory.drop offset).take 8 ++ (memory.drop offset).drop 8) := by
    rw [List.take_append_drop, List.take_append_drop]
  have hset := setWord64_at (memory.take offset) ((memory.drop offset).take 8)
    ((memory.drop offset).drop 8) offset v hfront hold
  rw [← hparts] at hset
  rw [hset]
  exact word64_at _ _ _ _ hfront

/-- The word of a slot is its fence value in the header. -/
theorem word64_fenceOffset {memory : Bytes} (slot : Slot)
    (hlen : Header.byteSize ≤ memory.length) :
    word64 memory (fenceOffset slot) = (load memory).fenceValue slot := by
  have hparts := eq_encode_append hlen
  generalize load memory = h at hparts ⊢
  rw [hparts, encode_eq_fences]
  have hfront := length_words_middle h
  match slot with
  | 0 => exact word64_at _ _ (fenceOffset 0) _ hfront
  | 1 =>
    rw [← List.append_assoc (h.words ++ h.middle)]
    refine word64_at _ _ (fenceOffset 1) _ ?_
    rw [List.length_append, hfront, Codec.length_encode_uint64]
    rfl

/-- One more on the fence value of a slot: what becomes of the bytes, and of the header in them. -/
structure Raised (memory : Bytes) (slot : Slot) (memory' : Bytes) : Prop where
  length : memory'.length = memory.length
  /-- After the largest value comes zero. -/
  word : (word64 memory' (fenceOffset slot)).toNat =
    ((word64 memory (fenceOffset slot)).toNat + 1) % UInt64.size
  elsewhere : ∀ i, i < fenceOffset slot ∨ fenceOffset slot + 8 ≤ i → memory'[i]? = memory[i]?
  header : load memory' = (load memory).raise slot

theorem raised {memory : Bytes} (slot : Slot) (hlen : Header.byteSize ≤ memory.length) :
    Raised memory slot (raiseFence memory slot) where
  length := length_raiseFence memory slot
  word := by
    have hslot : fenceOffset slot + 8 ≤ memory.length := by
      have := slot.lt
      have hsize : Header.byteSize = 1408 := rfl
      have hoffset : fenceOffset slot = 0x570 + 8 * slot.val := rfl
      omega
    rw [raiseFence, word64_setWord64 _ hslot]
    exact UInt64.toNat_add _ _
  elsewhere i houtside := by
    rw [raiseFence, setWord64]
    refine Bytes.getElem?_patch_outside memory _ ?_
    rw [Codec.length_encode_uint64]
    exact houtside
  header := load_raiseFence slot hlen

end Memory

open Act

/-! ## Operations -/

variable {s s' : Site} {h : Header}

/-- The header that is copied under a guard of its own is the one that is left in the memory. -/
theorem Reader.header_memory {mode : LockMode} (hread : Reader.header mode s = .ok (some h) s') :
    h = Memory.load s'.memory := by
  obtain ⟨_, t, u, -, hmetadata, hrelease⟩ := Reader.of_header hread
  obtain ⟨rfl, hsame⟩ := Reader.metadata_rest hmetadata
  rw [(release_rest hrelease).2, hsame]

/-- A frame that is begun has the fence value that is stored for it, one more than before. -/
theorem Writer.beginFrame_memory {next : NextFrame} (hlen : Header.byteSize ≤ s.memory.length)
    (hbegin : Writer.beginFrame s = .ok next s') :
    next.slot = Header.slotOf ((Memory.load s.memory).frame + 1) ∧
      next.fenceValue = (Memory.load s.memory).fenceValue next.slot + 1 ∧
      s'.memory = Memory.raiseFence s.memory next.slot := by
  rw [Writer.beginFrame] at hbegin
  obtain ⟨⟨⟩, t, hmove, hbegin⟩ := of_bind hbegin
  have hmemory : t.memory = s.memory := by rw [move_rest hmove]
  rw [bind_ok (load_ok t), bind_ok (modify_ok _ t), bind_ok (load_ok _)] at hbegin
  cases hbegin
  dsimp only
  rw [hmemory, Memory.load_raiseFence _ hlen, Header.fenceValue_raise, if_pos rfl]
  exact ⟨rfl, rfl, rfl⟩

/-! ## Without the lock, and under it -/

/-- What can be seen of an object without its lock where the header is this one. -/
def Body.statusOf (body : Body) (h : Header) : Status where
  key := h.key
  attached :=
    match body with
    | .writer _ => none
    | _ => some h.hasFeeder

namespace World

variable {w w' : World} {caller : Thread} {id : String} {o : Object} {reply : Reply}

/-- The header in the mapping of an object. -/
def headerOf (w : World) (o : Object) : Header :=
  Memory.load (w.system.store.file o.region.mapping).bytes

/-- What is seen of an object without its lock is what its header says. -/
theorem status_eq (hobject : w.objects.get? id = some o) :
    w.status id = some (o.body.statusOf (w.headerOf o)) := by
  rw [status, hobject, Option.map_some]
  dsimp only
  rw [Memory.peekKey_eq, Memory.peekAttached_eq]
  rfl

/-- The world after an operation of this object has left its site like this. -/
def left (w : World) (id : String) (o : Object) (site : Site) : World :=
  { w with
    system := w.system.leave o.region site
    objects := w.objects.adjust id fun x =>
      { x with region := { o.region with book := site.book } } }

/-- An operation of an object ends as it does on the object's site. -/
theorem act_apply {α : Type} (operation : Act α) : act caller id o operation w =
    match operation (w.system.site caller o.region) with
    | .ok a site => (.ok a, w.left id o site)
    | .error failure site => (.error failure, w.left id o site) := by
  show ((w.system.act caller o.region operation).1, { w with
    system := (w.system.act caller o.region operation).2.2
    objects := w.objects.adjust id fun x =>
      { x with region := (w.system.act caller o.region operation).2.1 } }) = _
  unfold System.act
  cases operation (w.system.site caller o.region) with
  | ok a site => rfl
  | error failure site => rfl

/-- The mapping holds what the operation left in the memory. -/
theorem bytes_left (w : World) (id : String) (o : Object) (site : Site) :
    ((w.left id o site).system.store.file o.region.mapping).bytes = site.memory := by
  show ((w.system.leave o.region site).store.file o.region.mapping).bytes = _
  simp only [System.leave, SharedStore.file_setFile]
  -- even a region whose lock were its mapping keeps the bytes
  by_cases hlock : o.region.lock = o.region.mapping
  · rw [if_pos hlock, hlock, if_pos rfl]
  · rw [if_neg hlock, if_pos trivial]

/-- No object changes what it is or where its mapping is. -/
theorem object_left (hobject : w.objects.get? id = some o) (site : Site) {id' : String}
    {o' : Object} (hother : w.objects.get? id' = some o') :
    ∃ o'', (w.left id o site).objects.get? id' = some o'' ∧ o''.body = o'.body ∧
      o''.region.mapping = o'.region.mapping := by
  unfold left
  rw [Table.get?_adjust]
  by_cases hid : id = id'
  · subst hid
    cases hobject.symm.trans hother
    rw [if_pos rfl, hobject]
    exact ⟨_, rfl, rfl, rfl⟩
  · rw [if_neg hid]
    exact ⟨o', hother, rfl, rfl⟩

/-- Every object on this mapping shows this header without its lock. -/
def Shows (w : World) (mapping : Nat) (h : Header) : Prop :=
  ∀ id o, w.objects.get? id = some o → o.region.mapping = mapping →
    w.status id = some (o.body.statusOf h)

theorem shows_headerOf (w : World) (o : Object) : w.Shows o.region.mapping (w.headerOf o) := by
  intro id' o' hother hmapping
  rw [status_eq hother, headerOf, hmapping]
  rfl

/-- After an operation every object on the mapping shows the header that is left there. -/
theorem shows_left (hobject : w.objects.get? id = some o) (site : Site) :
    (w.left id o site).Shows o.region.mapping (Memory.load site.memory) := by
  obtain ⟨o', hfound, -, hmapping⟩ := object_left hobject site hobject
  have hshows := shows_headerOf (w.left id o site) o'
  rw [headerOf, hmapping, bytes_left] at hshows
  exact hshows

/-! ### Commands that read -/

theorem of_withObject {continue_ : Object → Play Reply} (hreply : reply ≠ .unknown)
    (hplay : withObject id continue_ w = (reply, w')) :
    ∃ o, w.objects.get? id = some o ∧ continue_ o w = (reply, w') := by
  rw [withObject, bind_apply, get_apply] at hplay
  dsimp only at hplay
  cases hobject : w.objects.get? id with
  | some o =>
    rw [hobject] at hplay
    exact ⟨o, rfl, hplay⟩
  | none =>
    rw [hobject] at hplay
    exact absurd (congrArg Prod.fst hplay).symm hreply

theorem of_withGuard {guard : String} {continue_ : String → Object → Play Reply}
    (hreply : reply ≠ .unknown) (hplay : withGuard caller guard continue_ w = (reply, w')) :
    ∃ g o, w.guards.get? guard = some g ∧ g.thread = caller ∧
      w.objects.get? g.object = some o ∧ continue_ g.object o w = (reply, w') := by
  rw [withGuard, bind_apply, get_apply] at hplay
  dsimp only at hplay
  cases hguard : w.guards.get? guard with
  | some g =>
    rw [hguard] at hplay
    dsimp only at hplay
    by_cases hmine : g.thread = caller
    · rw [if_pos hmine] at hplay
      obtain ⟨o, hobject, hrest⟩ := of_withObject hreply hplay
      exact ⟨g, o, rfl, hmine, hobject, hrest⟩
    · rw [if_neg hmine] at hplay
      exact absurd (congrArg Prod.fst hplay).symm hreply
  | none =>
    rw [hguard] at hplay
    exact absurd (congrArg Prod.fst hplay).symm hreply

/-- An answer is that of the operation on the object's site. -/
theorem of_answer {α : Type} {operation : Act α} {ok : α → Reply}
    (hreply : ∀ failure, reply ≠ .failed failure)
    (hplay : (do return answer ok (← act caller id o operation) : Play Reply) w = (reply, w')) :
    ∃ a site, operation (w.system.site caller o.region) = .ok a site ∧ reply = ok a ∧
      w' = w.left id o site := by
  replace hplay : (answer ok (act caller id o operation w).1, (act caller id o operation w).2) =
    (reply, w') := hplay
  rw [act_apply] at hplay
  cases hresult : operation (w.system.site caller o.region) with
  | ok a site =>
    rw [hresult] at hplay
    cases hplay
    exact ⟨a, site, rfl, rfl, rfl⟩
  | error failure site =>
    rw [hresult] at hplay
    exact absurd (congrArg Prod.fst hplay).symm (hreply failure)

/-- The same for an operation that answers nothing where the lock is busy. -/
theorem of_answerUnlessBusy {α : Type} {operation : Act (Option α)} {ok : α → Reply}
    (hfailed : ∀ failure, reply ≠ .failed failure) (hbusy : reply ≠ .busy)
    (hplay : (do return answerUnlessBusy ok (← act caller id o operation) : Play Reply) w =
      (reply, w')) :
    ∃ a site, operation (w.system.site caller o.region) = .ok (some a) site ∧ reply = ok a ∧
      w' = w.left id o site := by
  replace hplay : (answerUnlessBusy ok (act caller id o operation w).1,
    (act caller id o operation w).2) = (reply, w') := hplay
  rw [act_apply] at hplay
  cases hresult : operation (w.system.site caller o.region) with
  | ok found site =>
    rw [hresult] at hplay
    cases found with
    | some a =>
      cases hplay
      exact ⟨a, site, rfl, rfl, rfl⟩
    | none => exact absurd (congrArg Prod.fst hplay).symm hbusy
  | error failure site =>
    rw [hresult] at hplay
    exact absurd (congrArg Prod.fst hplay).symm (hfailed failure)

/-- What is read under a guard is what everyone sees without one, before and after. -/
theorem metadata_shows {guard : String} (hread : metadata caller guard w = (.header h, w')) :
    ∃ g o, w.guards.get? guard = some g ∧ w.objects.get? g.object = some o ∧
      w.Shows o.region.mapping h ∧ w'.Shows o.region.mapping h := by
  obtain ⟨g, o, hguard, -, hobject, hread⟩ := of_withGuard (fun heq => by cases heq) hread
  refine ⟨g, o, hguard, hobject, ?_⟩
  obtain ⟨h', site, hresult, hheader, rfl⟩ := of_answer (fun failure heq => by cases heq) hread
  cases hheader
  have hmemory : h = w.headerOf o ∧ site.memory = (w.system.site caller o.region).memory := by
    have hreader (hread : Reader.metadata (w.system.site caller o.region) = .ok h site) :
        h = w.headerOf o ∧ site.memory = (w.system.site caller o.region).memory := by
      obtain ⟨hheader, hsame⟩ := Reader.metadata_rest hread
      exact ⟨hheader, by rw [hsame]⟩
    cases hbody : o.body with
    | writer writer =>
      rw [hbody] at hresult
      cases hresult
      exact ⟨rfl, rfl⟩
    | reader reader =>
      rw [hbody] at hresult
      exact hreader hresult
    | cached cached copier =>
      rw [hbody] at hresult
      exact hreader hresult
  obtain ⟨rfl, hsame⟩ := hmemory
  have hafter := shows_left hobject site
  rw [hsame] at hafter
  exact ⟨w.shows_headerOf o, hafter⟩

/-- What is read under a guard of its own is what everyone sees without one then. -/
theorem header_shows {mode : LockMode} (hread : header caller id mode w = (.header h, w')) :
    ∃ o, w.objects.get? id = some o ∧ w'.Shows o.region.mapping h := by
  obtain ⟨o, hobject, hread⟩ := of_withObject (fun heq => by cases heq) hread
  obtain ⟨h', site, hresult, hheader, rfl⟩ :=
    of_answerUnlessBusy (fun failure heq => by cases heq) (fun heq => by cases heq) hread
  cases hheader
  refine ⟨o, hobject, ?_⟩
  rw [Reader.header_memory hresult]
  exact shows_left hobject site

/-- The key that is asked for is that of the header. -/
theorem key_eq {kind : ConsumerKind} {k : FrameKey} (hread : key caller id kind w = (.key k, w')) :
    ∃ o, w.objects.get? id = some o ∧ k = (w.headerOf o).key := by
  obtain ⟨o, hobject, hread⟩ := of_withObject (fun heq => by cases heq) hread
  obtain ⟨k', site, hresult, hkey, rfl⟩ := of_answer (fun failure heq => by cases heq) hread
  cases hkey
  refine ⟨o, hobject, ?_⟩
  cases hresult
  exact Memory.peekKey_eq _

end World

/-! ## The result -/

/-- Accesses in place are accesses to the header as a whole. -/
structure Header.InPlace : Prop where
  /-- A store leaves the bytes of the header without the flags that mean nothing, whatever was
  there, and touches nothing behind them. What is read then is that header. -/
  stores : ∀ (s : Site) (h : Header), byteSize ≤ s.memory.length → ∃ s',
    Act.store h s = .ok () s' ∧ s' = { s with memory := s'.memory } ∧
    s'.memory.length = s.memory.length ∧
    s'.memory.take byteSize = codec.encode { h with flags := h.flags &&& feederAttached } ∧
    s'.memory.drop byteSize = s.memory.drop byteSize ∧
    Act.load s' = .ok { h with flags := h.flags &&& feederAttached } s'
  /-- A header that is replaced is read back in the same way. -/
  updates : ∀ (s : Site) (f : Header → Header), byteSize ≤ s.memory.length → ∃ s',
    Act.update f s = .ok () s' ∧ s' = { s with memory := s'.memory } ∧
    Memory.load s'.memory = { f (Memory.load s.memory) with
      flags := (f (Memory.load s.memory)).flags &&& feederAttached }
  /-- To replace a header by itself a second time changes nothing. -/
  idempotent : ∀ s : Site, byteSize ≤ s.memory.length →
    (do Act.update id; Act.update id) s = Act.update id s
  /-- To raise a fence value changes its eight bytes, -/
  raises : ∀ (memory : Bytes) (slot : Slot), byteSize ≤ memory.length →
    Memory.Raised memory slot (Memory.raiseFence memory slot)
  /-- and whoever begins a frame is given what they hold then. -/
  begins : ∀ (s s' : Site) (next : NextFrame), byteSize ≤ s.memory.length →
    Writer.beginFrame s = .ok next s' →
    next.slot = slotOf ((Memory.load s.memory).frame + 1) ∧
    Memory.Raised s.memory next.slot s'.memory ∧
    next.fenceValue = Memory.word64 s'.memory (Memory.fenceOffset next.slot) ∧
    next.fenceValue = (Memory.load s.memory).fenceValue next.slot + 1
  /-- What is peeked at are fields of the header, whatever the bytes are. -/
  peeks : ∀ s : Site,
    Act.peekKey s = .ok (Memory.load s.memory).key s ∧
    Act.peekAttached s = .ok (Memory.load s.memory).hasFeeder s
  /-- What is seen of an object without its lock is what its header says, -/
  status : ∀ (w : World) (id : String) (o : Object), w.objects.get? id = some o →
    w.status id = some (o.body.statusOf (w.headerOf o))
  /-- and so is the key that it is asked for. -/
  key : ∀ (w w' : World) (caller : Thread) (id : String) (kind : ConsumerKind) (k : FrameKey),
    World.perform caller (.key id kind) w = (.key k, w') →
    ∃ o, w.objects.get? id = some o ∧ k = (w.headerOf o).key
  /-- A header that is read under a guard is the one that every object on its mapping shows. -/
  guarded : ∀ (w w' : World) (caller : Thread) (guard : String) (h : Header),
    World.perform caller (.metadata guard) w = (.header h, w') →
    ∃ g o, w.guards.get? guard = some g ∧ w.objects.get? g.object = some o ∧
      w.Shows o.region.mapping h ∧ w'.Shows o.region.mapping h
  /-- So is one that is read under a guard of its own. -/
  locked : ∀ (w w' : World) (caller : Thread) (id : String) (mode : LockMode) (h : Header),
    World.perform caller (.header id mode) w = (.header h, w') →
    ∃ o, w.objects.get? id = some o ∧ w'.Shows o.region.mapping h

theorem Header.inPlace : InPlace where
  stores s h hlen := by
    refine ⟨_, store_ok h s, rfl, Memory.length_store _ _, Memory.store_take h hlen,
      Memory.store_drop h hlen, ?_⟩
    rw [load_ok, Memory.load_store h hlen]
    rfl
  updates s f hlen := ⟨_, update_ok f s, rfl, Memory.load_store _ hlen⟩
  idempotent s hlen := by
    rw [bind_ok (update_ok id s), update_ok, update_ok]
    show EStateM.Result.ok () { s with memory := Memory.store _ (Memory.load _) } = _
    rw [Memory.store_load_store _ hlen]
  raises _ slot hlen := Memory.raised slot hlen
  begins s s' next hlen hbegin := by
    obtain ⟨hslot, hvalue, hmemory⟩ := Writer.beginFrame_memory hlen hbegin
    have hraised := Memory.raised next.slot hlen
    rw [← hmemory] at hraised
    refine ⟨hslot, hraised, ?_, hvalue⟩
    rw [Memory.word64_fenceOffset next.slot (by rw [hraised.length]; exact hlen), hraised.header,
      Header.fenceValue_raise, if_pos rfl, hvalue]
  peeks s := by
    rw [← Memory.peekKey_eq, ← Memory.peekAttached_eq]
    exact ⟨rfl, rfl⟩
  status w id o hobject := World.status_eq hobject
  key w w' caller id kind k hread := World.key_eq hread
  guarded w w' caller guard h hread := World.metadata_shows hread
  locked w w' caller id mode h hread := World.header_shows hread

/-! ## A frame that was published -/

/-- A writer has published a frame, and a reader has taken the lock. -/
def World.published : World :=
  let thread : Thread := ⟨7, 0⟩
  let played : Play Unit := do
    let _ ← perform thread (.openWriter "writer" .default 5)
    let _ ← perform thread (.openReader "reader" .default)
    let _ ← perform thread (.publish "writer" .blocking Exchange.sampleFrame)
    let _ ← perform thread (.lock "reader" "guard" .blocking)
  (played.run RegionNames.unvisited).2

/-- The header that is answered. -/
def Reply.header? : Reply → Option Header
  | .header h => some h
  | _ => none

theorem Reply.of_header? {reply : Reply} {h : Header} (hheader : reply.header? = some h) :
    reply = .header h := by
  cases reply with
  | header h' => exact congrArg Reply.header (Option.some.inj hheader)
  | _ => cases hheader

/-- The frame is seen under the lock and without it, through its writer and through the reader, and
the next one is begun with the first fence value of the other slot. -/
theorem Header.inPlace_published : ∃ o h h' w₁ w₂ w₃ s s' next,
    World.perform ⟨7, 0⟩ (.key "reader" .viewer) .published = (.key ⟨0x700000000, 1⟩, w₁) ∧
    World.perform ⟨7, 0⟩ (.metadata "guard") .published = (.header h, w₂) ∧
    World.perform ⟨7, 0⟩ (.header "reader" .blocking) .published = (.header h', w₃) ∧
    World.published.objects.get? "reader" = some o ∧
    (World.published.headerOf o).key = ⟨0x700000000, 1⟩ ∧
    World.status .published "reader" = some ⟨h.key, some h.hasFeeder⟩ ∧
    World.status .published "writer" = some ⟨h.key, none⟩ ∧ h.gpu = 5 ∧
    w₃.Shows o.region.mapping h' ∧ h'.frame = 1 ∧
    byteSize ≤ s.memory.length ∧ Writer.beginFrame s = .ok next s' ∧ next = ⟨0, 1⟩ ∧
    Memory.word64 s'.memory (Memory.fenceOffset 0) = 1 := by
  obtain ⟨hwriter, hreader, hguard⟩ :
      (World.published.objects.get? "writer").map (fun o => (o.region.mapping, o.body)) =
        some (0, .writer ⟨5, 7⟩) ∧
      (World.published.objects.get? "reader").map (fun o => (o.region.mapping, o.body)) =
        some (0, .reader .fresh) ∧
      World.published.guards.get? "guard" = some ⟨"reader", ⟨7, 0⟩⟩ := by
    decide +kernel
  obtain ⟨writer, hwriter, hfacts⟩ := Option.map_eq_some_iff.mp hwriter
  obtain ⟨hwriterMapping, hwriterBody⟩ := Prod.mk.inj hfacts
  obtain ⟨reader, hreader, hfacts⟩ := Option.map_eq_some_iff.mp hreader
  obtain ⟨hreaderMapping, hreaderBody⟩ := Prod.mk.inj hfacts
  obtain ⟨hkey, hmetadata, hheader⟩ :
      (World.perform ⟨7, 0⟩ (.key "reader" .viewer) .published).1 = .key ⟨0x700000000, 1⟩ ∧
      (World.perform ⟨7, 0⟩ (.metadata "guard") .published).1.header?.map Header.gpu = some 5 ∧
      (World.perform ⟨7, 0⟩ (.header "reader" .blocking) .published).1.header?.map Header.frame =
        some 1 := by
    decide +kernel
  obtain ⟨h, hmetadata, hgpu⟩ := Option.map_eq_some_iff.mp hmetadata
  obtain ⟨h', hheader, hframe⟩ := Option.map_eq_some_iff.mp hheader
  have hkeyed : World.perform ⟨7, 0⟩ (.key "reader" .viewer) .published =
      (.key ⟨0x700000000, 1⟩, _) := Prod.ext hkey rfl
  have hguarded : World.perform ⟨7, 0⟩ (.metadata "guard") .published = (.header h, _) :=
    Prod.ext (Reply.of_header? hmetadata) rfl
  have hlocked : World.perform ⟨7, 0⟩ (.header "reader" .blocking) .published = (.header h', _) :=
    Prod.ext (Reply.of_header? hheader) rfl
  -- what is answered is about the reader, and the writer has the same mapping
  obtain ⟨o, hobject, hpeeked⟩ := inPlace.key _ _ _ _ _ _ hkeyed
  cases hreader.symm.trans hobject
  obtain ⟨g, o, hfound, hobject, hshows, -⟩ := inPlace.guarded _ _ _ _ h hguarded
  cases hguard.symm.trans hfound
  cases hreader.symm.trans hobject
  obtain ⟨o, hobject, hcopied⟩ := inPlace.locked _ _ _ _ _ h' hlocked
  cases hreader.symm.trans hobject
  have hstatus := hshows "reader" reader hreader rfl
  have hstatusWriter := hshows "writer" writer hwriter (by rw [hwriterMapping, hreaderMapping])
  rw [hreaderBody] at hstatus
  rw [hwriterBody] at hstatusWriter
  -- the next frame, where the writer has the lock
  generalize hsite : World.published.system.site ⟨7, 0⟩ { writer.region with
    book := ⟨⟨.writer, .locked⟩, 1, some ⟨7, 0⟩⟩ } = s
  have hmemory : byteSize ≤ s.memory.length ∧ (Memory.load s.memory).frame = 1 ∧
      (Memory.load s.memory).fenceValue 0 = 0 := by
    rw [← hsite, System.site]
    dsimp only
    rw [hwriterMapping]
    decide +kernel
  obtain ⟨hlen, hnumber, hfence⟩ := hmemory
  obtain ⟨⟨slot, value⟩, s', hbegin⟩ : ∃ next s', Writer.beginFrame s = .ok next s' :=
    ⟨_, _, Writer.beginFrame_ok hlen (by rw [← hsite]; rfl) (by rw [← hsite]; rfl)⟩
  obtain ⟨hslot, -, hstored, hvalue⟩ := inPlace.begins _ _ _ hlen hbegin
  dsimp only at hslot hstored hvalue
  rw [hnumber] at hslot
  obtain rfl : slot = 0 := hslot
  rw [hfence] at hvalue
  obtain rfl : value = 1 := hvalue
  exact ⟨reader, h, h', _, _, _, s, s', ⟨0, 1⟩, hkeyed, hguarded, hlocked, hreader, hpeeked.symm,
    hstatus, hstatusWriter, hgpu, hcopied, hframe, hlen, hbegin, rfl, hstored.symm⟩

end FrameExchange
