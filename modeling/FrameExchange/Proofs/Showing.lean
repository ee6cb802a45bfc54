import FrameExchange.Proofs.Copying

/-!
# What reads show

Where a feeder is attached, every read that can have the lock shows the header that is in the
region, and whether it comes with pixels depends on nothing but the adapter, the layers, the
handles and the copy, in this order.

- `Reader.CanCopy`, `Displays` — whether pixels can be had, and the snapshot of a header.
- `Exchange.Shows`, `Exchange.Sound.shows` — every read of every object on the region, as a step.
-/

namespace FrameExchange

namespace Reader

variable {r r' : Reader} {host : Host} {caller : UInt32} {h : Header}

/-! ## Snapshots of a header -/

/-- Nothing stands in the way of a copy. -/
structure CanCopy (r : Reader) (host : Host) (caller : UInt32) (h : Header)
    (destination : Destination) (copier : Copier) : Prop where
  /-- The header's handles are at hand, or the feeder can be opened and has them open. -/
  handles : (∃ known, r.slots.get h.slot = some known ∧ known.matches h = true) ∨
    ∃ feeder texture fence, r.Reaches host caller h feeder ∧
      host.duplicate feeder h.texture = .ok texture ∧ host.duplicate feeder h.fence = .ok fence
  /-- There is a texture to copy into. -/
  target : ∃ target, (destination copier).1 = .ok target
  /-- The copier copies; a fence that is not reached in time does not keep it from that. -/
  copy : ∀ fault, (destination copier).2.copyFault = some fault → ∃ cause, fault = .fenceWait cause

/-- When the handles of a header can be had. -/
theorem handles_ok_iff : (∃ found, r.handles host caller h = .ok found) ↔
    (∃ known, r.slots.get h.slot = some known ∧ known.matches h = true) ∨
      ∃ feeder texture fence, r.Reaches host caller h feeder ∧
        host.duplicate feeder h.texture = .ok texture ∧
        host.duplicate feeder h.fence = .ok fence := by
  have hfresh : (∃ found, Reader.handles.fresh r host caller h = .ok found) ↔
      ∃ feeder texture fence, r.Reaches host caller h feeder ∧
        host.duplicate feeder h.texture = .ok texture ∧
        host.duplicate feeder h.fence = .ok fence := by
    unfold Reader.handles.fresh
    constructor
    · rintro ⟨found, hfound⟩
      cases hnew : r.duplicateHandles host caller h with
      | error fault => rw [hnew] at hfound; cases hfound
      | ok new =>
        obtain ⟨hreaches, texture, fence, htexture, hfence, -⟩ :=
          duplicateHandles_eq_ok_iff.mp hnew
        exact ⟨new.1, texture, fence, hreaches, htexture, hfence⟩
    · rintro ⟨feeder, texture, fence, hreaches, htexture, hfence⟩
      rw [duplicateHandles_eq_ok_iff.mpr ⟨hreaches, texture, fence, htexture, hfence, rfl⟩]
      exact ⟨_, rfl⟩
  unfold Reader.handles
  -- handles that match are taken as they are, without asking the feeder
  split
  · next known hknown =>
    by_cases hmatches : known.matches h = true
    · rw [if_pos hmatches]
      exact ⟨fun _ => .inl ⟨known, hknown, hmatches⟩, fun _ => ⟨_, rfl⟩⟩
    · rw [if_neg hmatches, hfresh]
      refine ⟨.inr, fun hcases => hcases.resolve_left ?_⟩
      rintro ⟨other, hother, hright⟩
      cases hknown.symm.trans hother
      exact hmatches hright
  · next hnone =>
    rw [hfresh]
    refine ⟨.inr, fun hcases => hcases.resolve_left ?_⟩
    rintro ⟨other, hother, -⟩
    cases hnone.symm.trans hother

/-- When the pixels of a copy can be shown. -/
theorem shows_copy_iff (copier : Copier) (request : CopyRequest) :
    Shows (copier.copy request).1 ↔
      ∀ fault, copier.copyFault = some fault → ∃ cause, fault = .fenceWait cause := by
  unfold Copier.copy
  cases hfault : copier.copyFault with
  | none => exact ⟨fun _ fault heq => (by cases heq), fun _ => trivial⟩
  | some fault =>
    constructor
    · intro hshows other heq
      cases heq
      cases fault with
      | fenceWait cause => exact ⟨cause, rfl⟩
      | notImported cause => exact hshows.elim
      | notAllocated cause => exact hshows.elim
    · intro hall
      obtain ⟨cause, rfl⟩ := hall fault rfl
      trivial

end Reader

/-- The snapshot of a header for an adapter, and the calls that were made for it, when pixels can
be had or not. -/
structure Displays (h : Header) (gpu : UInt64) (possible : Prop) (snapshot : Snapshot)
    (calls : List CopierCall) : Prop where
  /-- The wrong adapter: no copier is called, and no header is given. -/
  foreign : h.gpu ≠ gpu → snapshot = .incorrectGpu ∧ calls = []
  /-- A frame without layers needs no pixels. -/
  bare : h.gpu = gpu → h.layers = [] → snapshot = .withoutTexture h ∧ calls = []
  /-- One copy, for the fence value of the frame. -/
  copied : h.gpu = gpu → h.layers ≠ [] → possible → ∃ request,
    snapshot = .withTexture h request.target ∧ copiesIn calls = [request] ∧
      request.value = h.fenceValue h.slot
  failed : h.gpu = gpu → h.layers ≠ [] → ¬possible → snapshot = .ipcHandleError

namespace Reader

/-- A header that a reader trusts is displayed. -/
theorem Resolves.displays {r r' : Reader} {host : Host} {caller : UInt32} {gpu : UInt64}
    {h : Header} {destination : Destination} {copier copier' : Copier} {snapshot : Snapshot}
    (hplain : destination.Plain) (hcalls : copier.calls = [])
    (hresolves : Resolves r host caller gpu h destination copier snapshot r' copier') :
    Displays h gpu (r.CanCopy host caller h destination copier) snapshot copier'.calls := by
  cases hresolves with
  | incorrectGpu hgpu =>
    exact ⟨fun _ => ⟨rfl, hcalls⟩, fun heq => absurd heq hgpu, fun heq => absurd heq hgpu,
      fun heq => absurd heq hgpu⟩
  | noLayers hgpu hlayers =>
    exact ⟨fun hne => absurd hgpu hne, fun _ _ => ⟨rfl, hcalls⟩, fun _ hne => absurd hlayers hne,
      fun _ hne => absurd hlayers hne⟩
  | noHandles hgpu hlayers hfault =>
    refine ⟨fun hne => absurd hgpu hne, fun _ hnil => absurd hnil hlayers, fun _ _ hcan => ?_,
      fun _ _ _ => rfl⟩
    obtain ⟨found, hfound⟩ := handles_ok_iff.mpr hcan.handles
    rw [hfault] at hfound
    cases hfound
  | noDestination hgpu hlayers _ hdestination =>
    refine ⟨fun hne => absurd hgpu hne, fun _ hnil => absurd hnil hlayers, fun _ _ hcan => ?_,
      fun _ _ _ => rfl⟩
    obtain ⟨target, htarget⟩ := hcan.target
    rw [hdestination] at htarget
    cases htarget
  | @copied handles _ target copier₁ _ outcome hgpu hlayers hfound hdestination hcopy hshows =>
    refine ⟨fun hne => absurd hgpu hne, fun _ hnil => absurd hnil hlayers, fun _ _ _ => ?_,
      fun _ _ hcannot => absurd ?_ hcannot⟩
    · refine ⟨request handles h target, rfl, ?_, rfl⟩
      have hasked := copier₁.copiesIn_copy (request handles h target)
      have hmade := hplain copier
      rw [hcopy] at hasked
      rw [hdestination, hcalls] at hmade
      rw [hasked, show copiesIn copier₁.calls = [] from hmade]
      rfl
    · have hcopied : Shows (copier₁.copy (request handles h target)).1 := by
        rw [hcopy]
        exact hshows
      constructor
      case handles => exact handles_ok_iff.mp ⟨_, hfound⟩
      case target => exact ⟨target, by rw [hdestination]⟩
      case copy =>
        rw [hdestination]
        exact (shows_copy_iff copier₁ _).mp hcopied
  | @notCopied handles _ target copier₁ _ outcome hgpu hlayers hfound hdestination hcopy hshows =>
    refine ⟨fun hne => absurd hgpu hne, fun _ hnil => absurd hnil hlayers, fun _ _ hcan => ?_,
      fun _ _ _ => rfl⟩
    have hcopied := hcan.copy
    rw [hdestination] at hcopied
    have hshown := (shows_copy_iff copier₁ (request handles h target)).mpr hcopied
    rw [hcopy] at hshown
    exact absurd hshown hshows

end Reader

/-! ## Reads as steps -/

/-- At this moment every read that gets the lock shows the header in the region. -/
structure Exchange.Shows (y : Exchange) : Prop where
  /-- Under a guard of any object the header is copied as it is. -/
  metadata : ∀ id c thread, y.clients.get? id = some c → thread ∉ y.dead → c.GuardOf thread →
    ∃ z, y.step thread (.call id .metadata) = some (.header y.header, z)
  read : ∀ id c r thread kind gpu target copier, y.clients.get? id = some c →
    c.body = .reader r → thread ∉ y.dead → (y.site thread c.book).Obtains .blocking →
    ∃ snapshot calls z,
      y.step thread (.call id (.read kind gpu target copier)) = some (.shown snapshot calls, z) ∧
      Displays y.header gpu ((r.follow y.header).CanCopy y.host thread.pid y.header
        (fun copier => (.ok target, copier)) copier.looked) snapshot calls
  readMetadata : ∀ id c r thread kind, y.clients.get? id = some c → c.body = .reader r →
    thread ∉ y.dead → (y.site thread c.book).Obtains .blocking →
    ∃ z, y.step thread (.call id (.readMetadata kind)) =
      some (.shown (.withoutTexture y.header) [], z)
  /-- A cached reader with textures that does not have the frame already. -/
  get : ∀ id c cached number thread copier, y.clients.get? id = some c →
    c.body = .cached cached number → thread ∉ y.dead → cached.ring ≠ [] →
    ¬cached.Hits y.header.key → (y.site thread c.book).Obtains .attempt →
    ∃ snapshot calls z,
      y.step thread (.call id (.get copier)) = some (.shown snapshot calls, z) ∧
      Displays y.header cached.gpu ((cached.reader.follow y.header).CanCopy y.host thread.pid
        y.header (cached.destination y.header) copier.looked) snapshot calls
  getMetadata : ∀ id c cached number thread, y.clients.get? id = some c →
    c.body = .cached cached number → thread ∉ y.dead → (y.site thread c.book).Obtains .attempt →
    ∃ z, y.step thread (.call id .getMetadata) = some (.shown (.withoutTexture y.header) [], z)

namespace Exchange

variable {y : Exchange} {id : Nat} {c : Client} {thread : Thread}

/-- A header with a feeder is of use to readers. -/
theorem Sound.usable (hsound : y.Sound) (hfeeder : y.header.hasFeeder = true) :
    y.header.Usable :=
  ⟨hfeeder, hsound.trusted hfeeder⟩

/-- Under a guard every object copies the header. -/
theorem Sound.step_metadata (hsound : y.Sound) (hclient : y.clients.get? id = some c)
    (halive : thread ∉ y.dead) (hguard : c.GuardOf thread) :
    ∃ z, y.step thread (.call id .metadata) = some (.header y.header, z) := by
  have hreader (hrole : c.body.role = .reader) : Reader.metadata (y.site thread c.book) =
      .ok y.header (y.site thread c.book) := by
    have htidy := (hsound.settled id c hclient).tidy (s := y.site thread c.book) rfl hrole
    exact Reader.metadata_ok htidy.role (htidy.locked hguard.1)
  cases hbody : c.body with
  | writer w =>
    have hoperation : c.operation .metadata = some (Act.answering c.body Act.load .header) := by
      rw [Client.operation, hbody]
    exact ⟨_, step_call halive hclient (fun _ => hguard) hoperation
      (Act.answering_ok (Act.load_ok _))⟩
  | _ =>
    have hoperation : c.operation .metadata =
        some (Act.answering c.body Reader.metadata .header) := by
      rw [Client.operation, hbody]
    exact ⟨_, step_call halive hclient (fun _ => hguard) hoperation
      (Act.answering_ok (hreader (by rw [hbody]; rfl)))⟩

/-- A read that gets the lock makes a snapshot of the header. -/
theorem Sound.step_read {r : Reader} {kind : ConsumerKind} {gpu : UInt64} {target : Nat}
    {copier : Copier} (hsound : y.Sound) (hclient : y.clients.get? id = some c)
    (hbody : c.body = .reader r) (halive : thread ∉ y.dead)
    (hfeeder : y.header.hasFeeder = true) (hobtains : (y.site thread c.book).Obtains .blocking) :
    ∃ snapshot reader copier' z,
      y.step thread (.call id (.read kind gpu target copier)) =
        some (.shown snapshot copier'.calls, z) ∧
      (r.follow y.header).Resolves y.host thread.pid gpu y.header
        (fun copier => (.ok target, copier)) copier.looked snapshot reader copier' := by
  have hreads := r.reads kind gpu target copier.looked (s := y.site thread c.book) hsound.length
    ((hsound.settled id c hclient).tidy rfl (by rw [hbody]; rfl))
  generalize hread : r.read kind gpu target copier.looked (y.site thread c.book) = result at hreads
  cases hreads with
  | missed hmissed => exact absurd hobtains hmissed
  | failed _ hmissed => exact absurd hobtains hmissed
  | unusable _ husable => exact absurd (hsound.usable hfeeder) husable
  | recovered hmissed => exact absurd hobtains hmissed
  | @frame snapshot reader copier' s' _ _ hresolves =>
    have hoperation : c.operation (.read kind gpu target copier) =
        some (r.answerRead kind gpu target copier) := by
      rw [Client.operation, hbody]
    have hanswer : r.answerRead kind gpu target copier (y.site thread c.book) =
        .ok (.shown snapshot copier'.calls, .reader reader) s' := by
      rw [Reader.answerRead, Act.bind_ok hread]
      rfl
    exact ⟨snapshot, reader, copier', _,
      step_call halive hclient (fun h => by cases h) hoperation hanswer, hresolves⟩

/-- A read without pixels that gets the lock shows the header. -/
theorem Sound.metadataSnapshot_ok {r : Reader} {mode : LockMode} (hsound : y.Sound)
    (hclient : y.clients.get? id = some c) (hreader : c.body.role = .reader) (kind : ConsumerKind)
    (hfeeder : y.header.hasFeeder = true) (hobtains : (y.site thread c.book).Obtains mode) :
    ∃ s', (do Act.see kind; r.metadataSnapshot mode) (y.site thread c.book) =
      .ok (.withoutTexture y.header, r.follow y.header) s' := by
  have hreads := r.readsMetadata kind mode (s := y.site thread c.book) hsound.length
    ((hsound.settled id c hclient).tidy rfl hreader)
  generalize hread : (do Act.see kind; r.metadataSnapshot mode) (y.site thread c.book) =
    result at hreads
  cases hreads with
  | missed hmissed => exact absurd hobtains hmissed
  | failed _ hmissed => exact absurd hobtains hmissed
  | unusable _ husable => exact absurd (hsound.usable hfeeder) husable
  | recovered hmissed => exact absurd hobtains hmissed
  | frame => exact ⟨_, rfl⟩

section

variable {cached : CachedReader} {number : Nat} {copier : Copier}

/-- A read through a cache that comes to a snapshot is a step that shows it. -/
theorem step_get {snapshot : Snapshot} {cached' : CachedReader} {copier' : Copier} {s' : Site}
    (halive : thread ∉ y.dead) (hclient : y.clients.get? id = some c)
    (hbody : c.body = .cached cached number)
    (hget : cached.get copier.looked (y.site thread c.book) =
      .ok (snapshot, cached', copier') s') :
    ∃ z, y.step thread (.call id (.get copier)) = some (.shown snapshot copier'.calls, z) := by
  have hoperation : c.operation (.get copier) = some (cached.answerGet number copier) := by
    rw [Client.operation, hbody]
  have hanswer : cached.answerGet number copier (y.site thread c.book) =
      .ok (.shown snapshot copier'.calls, .cached cached' number) s' := by
    rw [CachedReader.answerGet, Act.bind_ok hget]
    rfl
  exact ⟨_, step_call halive hclient (fun h => by cases h) hoperation hanswer⟩

/-- How a read through a cache can end. -/
theorem gets (hsettled : c.Settled) (hlength : Header.byteSize ≤ y.memory.length) (thread : Thread)
    (copier : Copier) (hbody : c.body = .cached cached number) :
    cached.Gets copier.looked (y.site thread c.book)
      (cached.get copier.looked (y.site thread c.book)) :=
  cached.gets copier.looked hlength (hsettled.tidy rfl (by rw [hbody]; rfl))

/-- A read that is no hit and can have the lock makes a snapshot of the header. -/
theorem Sound.step_frame (hsound : y.Sound) (hclient : y.clients.get? id = some c)
    (hbody : c.body = .cached cached number) (halive : thread ∉ y.dead)
    (hfeeder : y.header.hasFeeder = true) (hring : cached.ring ≠ [])
    (hmiss : ¬cached.Hits y.header.key) (hobtains : (y.site thread c.book).Obtains .attempt) :
    ∃ snapshot reader copier' z,
      y.step thread (.call id (.get copier)) = some (.shown snapshot copier'.calls, z) ∧
      (cached.reader.follow y.header).Resolves y.host thread.pid cached.gpu y.header
        (cached.destination y.header) copier.looked snapshot reader copier' := by
  have hgets := gets (hsound.settled id c hclient) hsound.length thread copier hbody
  generalize hget : cached.get copier.looked (y.site thread c.book) = result at hgets
  cases hgets with
  | detached hdetached => exact absurd (hfeeder.symm.trans hdetached) (by decide)
  | noRing hempty => exact absurd hempty hring
  | hit _ hhits => exact absurd hhits hmiss
  | missed _ hmissed => exact absurd hobtains hmissed
  | failed _ _ hmissed => exact absurd hobtains hmissed
  | unusable _ _ husable => exact absurd (hsound.usable hfeeder) husable
  | recovered _ hmissed => exact absurd hobtains hmissed
  | frame _ _ _ hresolves =>
    obtain ⟨z, hstep⟩ := step_get halive hclient hbody hget
    exact ⟨_, _, _, z, hstep, hresolves⟩

end

/-- In a sound state with a feeder every read that gets the lock shows the header. -/
theorem Sound.shows (hsound : y.Sound) (hfeeder : y.header.hasFeeder = true) : y.Shows := by
  constructor
  case metadata =>
    intro id c thread hclient halive hguard
    exact hsound.step_metadata hclient halive hguard
  case read =>
    intro id c r thread kind gpu target copier hclient hbody halive hobtains
    obtain ⟨snapshot, reader, copier', z, hstep, hresolves⟩ :=
      hsound.step_read hclient hbody halive hfeeder hobtains
    exact ⟨snapshot, copier'.calls, z, hstep, hresolves.displays (fun _ => rfl) rfl⟩
  case readMetadata =>
    intro id c r thread kind hclient hbody halive hobtains
    obtain ⟨s', hread⟩ := hsound.metadataSnapshot_ok (r := r) hclient (by rw [hbody]; rfl) kind
      hfeeder hobtains
    have hoperation : c.operation (.readMetadata kind) = some (r.answerMetadata kind) := by
      rw [Client.operation, hbody]
    have hanswer : r.answerMetadata kind (y.site thread c.book) =
        .ok (.shown (.withoutTexture y.header) [], .reader (r.follow y.header)) s' := by
      rw [Reader.answerMetadata]
      refine (Act.bind_ok hread).trans ?_
      rfl
    exact ⟨_, step_call halive hclient (fun h => by cases h) hoperation hanswer⟩
  case get =>
    intro id c cached number thread copier hclient hbody halive hring hmiss hobtains
    obtain ⟨snapshot, reader, copier', z, hstep, hresolves⟩ :=
      hsound.step_frame hclient hbody halive hfeeder hring hmiss hobtains
    exact ⟨snapshot, copier'.calls, z, hstep,
      hresolves.displays (cached.destination_plain y.header) rfl⟩
  case getMetadata =>
    intro id c cached number thread hclient hbody halive hobtains
    obtain ⟨s', hread⟩ := hsound.metadataSnapshot_ok (r := cached.reader) hclient
      (by rw [hbody]; rfl) cached.kind hfeeder hobtains
    have hoperation : c.operation .getMetadata = some (cached.answerMetadata number) := by
      rw [Client.operation, hbody]
    have hanswer : cached.answerMetadata number (y.site thread c.book) =
        .ok (.shown (.withoutTexture y.header) [],
          .cached { cached with reader := cached.reader.follow y.header } number) s' := by
      rw [CachedReader.answerMetadata_eq]
      exact (Act.bind_ok hread).trans rfl
    exact ⟨_, step_call halive hclient (fun h => by cases h) hoperation hanswer⟩

end Exchange

end FrameExchange
