import FrameExchange.Proofs.Showing

/-!
# The snapshot that is kept

A cached reader makes a snapshot under the lock, of the header that is in the region then, and keeps
it until it makes the next one. So whatever is true of a snapshot when it is made is true as long as
it is kept.

- `Snapshot.Depicts` — a snapshot with the frame of a header.
- `Reader.Resolves.depicts` — what a reader makes of a header that it trusts.
- `CachedReader.Vouched` — a property of the snapshot that is kept.
- `Exchange.Happens.cache_vouched` — it holds if it held when the snapshot was made.
-/

namespace FrameExchange

/-! ## Snapshots of a header -/

/-- A snapshot with the frame of a header. It has pixels where there are layers. -/
structure Snapshot.Depicts (snapshot : Snapshot) (h : Header) : Prop where
  header : snapshot.header? = some h
  texture : snapshot.hasTexture = true ↔ h.layers ≠ []

/-- A snapshot that depicts a header has its key. -/
theorem Snapshot.Depicts.key {snapshot : Snapshot} {h : Header} (hdepicts : snapshot.Depicts h) :
    snapshot.key = h.key := by
  rw [Snapshot.key, hdepicts.header]
  rfl

/-- What a reader makes of a header that it trusts: the wrong adapter is told apart from everything
else, and any other snapshot depicts the header, unless the handles could not be used. -/
theorem Reader.Resolves.depicts {r r' : Reader} {host : Host} {caller : UInt32} {gpu : UInt64}
    {h : Header} {destination : Reader.Destination} {copier copier' : Copier} {snapshot : Snapshot}
    (hresolves : Resolves r host caller gpu h destination copier snapshot r' copier') :
    (snapshot = .incorrectGpu ↔ h.gpu ≠ gpu) ∧
      (snapshot = .incorrectGpu ∨ snapshot = .ipcHandleError ∨ snapshot.Depicts h) := by
  have hfailed (hgpu : h.gpu = gpu) : (Snapshot.ipcHandleError = .incorrectGpu ↔ h.gpu ≠ gpu) ∧
      (Snapshot.ipcHandleError = .incorrectGpu ∨ Snapshot.ipcHandleError = .ipcHandleError ∨
        Snapshot.ipcHandleError.Depicts h) :=
    ⟨⟨fun heq => (by cases heq), fun hne => absurd hgpu hne⟩, .inr (.inl rfl)⟩
  cases hresolves with
  | incorrectGpu hgpu => exact ⟨⟨fun _ => hgpu, fun _ => rfl⟩, .inl rfl⟩
  | noLayers hgpu hlayers =>
    refine ⟨⟨fun heq => (by cases heq), fun hne => absurd hgpu hne⟩, .inr (.inr ⟨rfl, ?_⟩)⟩
    exact ⟨fun heq => (by cases heq), fun hne => absurd hlayers hne⟩
  | noHandles hgpu => exact hfailed hgpu
  | noDestination hgpu => exact hfailed hgpu
  | copied hgpu hlayers =>
    refine ⟨⟨fun heq => (by cases heq), fun hne => absurd hgpu hne⟩, .inr (.inr ⟨rfl, ?_⟩)⟩
    exact ⟨fun _ => hlayers, fun _ => rfl⟩
  | notCopied hgpu => exact hfailed hgpu

/-! ## The snapshot that is kept -/

namespace CachedReader

/-- The snapshot that is kept, where it has a frame, has some property for the reader's adapter. -/
def Vouched (c : CachedReader) (P : UInt64 → Snapshot → Prop) : Prop :=
  c.cache.isValid = true → P c.gpu c.cache

variable {c c' : CachedReader} {P : UInt64 → Snapshot → Prop}

/-- A reader that has forgotten its snapshot. -/
theorem vouched_empty (hempty : c.cache = .empty) : c.Vouched P := by
  intro hvalid
  rw [hempty] at hvalid
  cases hvalid

/-- A snapshot is vouched for when it is made, and kept only if it depicts a header. -/
theorem Gets.vouched {s s' : Site} {copier copier' : Copier} {snapshot : Snapshot}
    (hgets : c.Gets copier s (.ok (snapshot, c', copier') s')) (hvouched : c.Vouched P)
    (hnew : ∀ snapshot : Snapshot, s.Obtains .attempt → (Memory.load s.memory).Usable →
      (Memory.load s.memory).gpu = c.gpu → snapshot.Depicts (Memory.load s.memory) →
      P c.gpu snapshot) : c'.Vouched P := by
  cases hgets with
  | detached => exact vouched_empty rfl
  | noRing => exact hvouched
  | hit => exact hvouched
  | missed => exact hvouched
  | unusable => exact hvouched
  | recovered => exact hvouched
  | frame _ _ husable hresolves hobtains =>
    -- only what depicts the header is kept, and for another adapter nothing depicts it
    obtain ⟨hgpu, hcases⟩ := hresolves.depicts
    unfold after
    by_cases hvalid : snapshot.isValid = true
    · rw [if_pos hvalid]
      intro _
      rcases hcases with rfl | rfl | hdepicts
      · cases hvalid
      · cases hvalid
      · refine hnew snapshot hobtains husable (Decidable.not_not.mp fun hne => ?_) hdepicts
        rw [hgpu.mpr hne] at hvalid
        cases hvalid
    · rw [if_neg hvalid]
      exact hvouched

end CachedReader

/-- A call keeps the snapshot of its cached reader vouched for. -/
theorem Body.Becomes.cache_vouched {s s' : Site} {before after : Body} {call : Call}
    {answer : Answer} {P : UInt64 → Snapshot → Prop} (h : before.Becomes s call answer after s')
    (hvouched : ∀ c number, before = .cached c number → c.Vouched P)
    (hnew : ∀ gpu (snapshot : Snapshot), s.Obtains .attempt → (Memory.load s.memory).Usable →
      (Memory.load s.memory).gpu = gpu → snapshot.Depicts (Memory.load s.memory) →
      P gpu snapshot)
    (c : CachedReader) (number : Nat) (hafter : after = .cached c number) : c.Vouched P := by
  cases h with
  | same => exact hvouched c number hafter
  | failed => exact hvouched c number hafter
  | read => cases hafter
  | readMetadata => cases hafter
  | restart =>
    cases hafter
    exact CachedReader.vouched_empty rfl
  | get hgets =>
    cases hafter
    exact hgets.vouched (hvouched _ _ rfl) fun snapshot => hnew _ snapshot
  | getMetadata =>
    cases hafter
    have hkept := hvouched _ _ rfl
    exact hkept

/-- A step keeps the snapshots of all cached readers vouched for. -/
theorem Exchange.Happens.cache_vouched {x y : Exchange} {caller : Thread} {move : Move}
    {answer : Answer} {P : UInt64 → Snapshot → Prop} (h : x.Happens caller move answer y)
    (hvouched : ∀ id c cached number, x.clients.get? id = some c → c.body = .cached cached number →
      cached.Vouched P)
    (hnew : ∀ id c gpu (snapshot : Snapshot), x.clients.get? id = some c →
      (x.site caller c.book).Obtains .attempt → x.header.Usable → x.header.gpu = gpu →
      snapshot.Depicts x.header → P gpu snapshot)
    (id : Nat) (c : Client) (cached : CachedReader) (number : Nat)
    (hclient : y.clients.get? id = some c) (hbody : c.body = .cached cached number) :
    cached.Vouched P := by
  cases h.comes hclient with
  | kept hbefore => exact hvouched id c cached number hbefore hbody
  | called _ hbefore _ _ hbecomes =>
    exact hbecomes.cache_vouched (fun cached number => hvouched id _ cached number hbefore)
      (fun gpu snapshot => hnew id _ gpu snapshot hbefore) cached number hbody
  | attached => cases hbody
  | openedReader => cases hbody
  | openedCached =>
    cases hbody
    exact CachedReader.vouched_empty rfl

end FrameExchange
