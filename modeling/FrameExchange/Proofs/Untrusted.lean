import FrameExchange.Proofs.Calls
import FrameExchange.Proofs.Cache

/-!
# Reads of memory that nobody vouches for

Every byte of a region can be changed by anyone at any time. Between two steps the memory and the
lock may be anything here, and still all that a read gives is safe to use: what it shows was checked
first, also where it was checked long ago and kept since, and a read never fails.

- `PixelRect.fitsWithin_iff`, `Header.Checked` — what a check of the header means in whole numbers.
- `Snapshot.WellFormed` — a snapshot that says nothing wrong about itself.
- `Exposed` — the states of a region with a hostile environment, and `Exposed.shielded`, the
  invariant of them.
- `Exposed.readsSafely` — every read in such a state.
-/

namespace FrameExchange

/-! ## Checks in whole numbers -/

/-- A sum that is a word is the sum. -/
theorem checkedAdd_eq_some_iff {a b c : UInt32} :
    checkedAdd a b = some c ↔ c.toNat = a.toNat + b.toNat := by
  have ha := a.toNat_lt
  have hb := b.toNat_lt
  have hc := c.toNat_lt
  have hsum : (a + b).toNat = (a.toNat + b.toNat) % 2 ^ 32 := UInt32.toNat_add a b
  rw [checkedAdd]
  by_cases hwraps : a + b < a
  · rw [if_pos hwraps]
    rw [UInt32.lt_iff_toNat_lt, hsum] at hwraps
    constructor
    · intro h
      cases h
    · intro h
      omega
  · rw [if_neg hwraps]
    rw [UInt32.lt_iff_toNat_lt, hsum] at hwraps
    rw [Option.some.injEq, ← UInt32.toNat_inj, hsum]
    omega

/-- A rectangle lies inside a texture when its far edges do, added up without a limit. -/
theorem PixelRect.fitsWithin_iff (r : PixelRect) (bounds : PixelSize) :
    r.fitsWithin bounds = true ↔
      r.origin.x.toNat + r.size.width.toNat ≤ bounds.width.toNat ∧
        r.origin.y.toNat + r.size.height.toNat ≤ bounds.height.toNat := by
  have hwidth := bounds.width.toNat_lt
  have hheight := bounds.height.toNat_lt
  have hmissing {a b : UInt32} (h : checkedAdd a b = none) : 2 ^ 32 ≤ a.toNat + b.toNat := by
    by_contra hsmall
    have hfits : checkedAdd a b = some (UInt32.ofNat (a.toNat + b.toNat)) := by
      rw [checkedAdd_eq_some_iff, UInt32.toNat_ofNat_of_lt' (Nat.not_le.mp hsmall)]
    rw [h] at hfits
    cases hfits
  rw [fitsWithin]
  cases hright : checkedAdd r.origin.x r.size.width with
  | none =>
    have := hmissing hright
    simp only [Bool.false_eq_true, false_iff, not_and]
    omega
  | some right =>
    cases hbottom : checkedAdd r.origin.y r.size.height with
    | none =>
      have := hmissing hbottom
      simp only [Bool.false_eq_true, false_iff, not_and]
      omega
    | some bottom =>
      rw [checkedAdd_eq_some_iff] at hright hbottom
      rw [decide_eq_true_iff, UInt32.le_iff_toNat_le, UInt32.le_iff_toNat_le, hright, hbottom]

/-- Everything that is relied upon when a header is used. -/
structure Header.Checked (h : Header) : Prop where
  magic : h.magic = headerMagic
  attached : h.attachedFlag = true
  /-- As many layers as the header says, and no more than there can be. -/
  count : h.layers.length = h.layerCount.toNat ∧ h.layerCount.toNat ≤ maxLayers
  size : h.layers ≠ [] →
    h.config.textureSize.width ≠ 0 ∧ h.config.textureSize.height ≠ 0
  /-- The far edges of every layer, added up without a limit, lie inside the texture. -/
  inside : ∀ layer ∈ h.layers,
    layer.rect.origin.x.toNat + layer.rect.size.width.toNat ≤
        h.config.textureSize.width.toNat ∧
      layer.rect.origin.y.toNat + layer.rect.size.height.toNat ≤
        h.config.textureSize.height.toNat

/-- A header that readers use was checked. -/
theorem Header.Usable.checked {h : Header} (husable : h.Usable) : h.Checked := by
  obtain ⟨hfeeder, hvalid⟩ := husable
  rw [hasFeeder, Bool.and_eq_true, beq_iff_eq] at hfeeder
  rw [validate, if_neg (fun hne => hne hfeeder.1)] at hvalid
  split at hvalid
  · cases hvalid
  · next hmany =>
    have hcount : h.layerCount.toNat ≤ maxLayers := Nat.not_lt.mp hmany
    have hlength : h.layers.length = h.layerCount.toNat := by
      rw [layers, List.length_take, Vector.length_toList]
      exact Nat.min_eq_left hcount
    split at hvalid
    · next hzero =>
      -- without layers there is nothing else to check
      have hnil := h.layerCount_eq_zero_iff.mp hzero
      refine ⟨hfeeder.1, hfeeder.2, ⟨hlength, hcount⟩, fun hne => absurd hnil hne, ?_⟩
      intro layer hmem
      rw [hnil] at hmem
      cases hmem
    · split at hvalid
      · cases hvalid
      · next hsize =>
        rw [Bool.not_eq_true, PixelSize.isEmpty_eq_false_iff] at hsize
        split at hvalid
        · cases hvalid
        · next hnone =>
          refine ⟨hfeeder.1, hfeeder.2, ⟨hlength, hcount⟩, fun _ => hsize, fun layer hmem => ?_⟩
          rw [← PixelRect.fitsWithin_iff]
          obtain ⟨index, hindex⟩ := List.getElem?_of_mem hmem
          rw [firstOutside, List.find?_eq_none] at hnone
          simpa using hnone (layer, index) (List.mk_mem_zipIdx_iff_getElem?.mpr hindex)

/-! ## Snapshots -/

/-- A snapshot that says nothing wrong about itself. -/
structure Snapshot.WellFormed (s : Snapshot) : Prop where
  /-- It has a frame exactly when it calls itself valid. -/
  valid : s.header?.isSome = true ↔
    s.state = "ValidWithoutTexture" ∨ s.state = "ValidWithTexture"
  texture : s.texture?.isSome = true ↔ s.state = "ValidWithTexture"
  checked : ∀ h, s.header? = some h → h.Checked
  /-- Without a frame there is nothing to be seen of one. -/
  bare : s.isValid = false → s.config? = none ∧ s.layers = [] ∧ s.texture? = none ∧
    s.header? = none ∧ s.key.isEmpty = true

/-- Only the frame of a snapshot can be wrong. -/
theorem Snapshot.wellFormed {s : Snapshot} (husable : ∀ h, s.header? = some h → h.Usable) :
    s.WellFormed := by
  refine ⟨?_, ?_, fun h hheader => (husable h hheader).checked, ?_⟩
  · cases s <;> simp [header?, state]
  · cases s <;> simp [texture?, state]
  · intro hinvalid
    cases s with
    | withoutTexture => cases hinvalid
    | withTexture => cases hinvalid
    | _ => exact ⟨rfl, rfl, rfl, rfl, rfl⟩

/-- The snapshot of a header that was checked and is for this adapter. -/
def Snapshot.Trusted (gpu : UInt64) (s : Snapshot) : Prop :=
  ∃ h, h.Usable ∧ h.gpu = gpu ∧ s.Depicts h

/-- Whatever a snapshot shows, it shows a header that was checked, for this adapter. -/
def Snapshot.Fit (gpu : UInt64) (s : Snapshot) : Prop := s.isValid = true → s.Trusted gpu

/-- What a read for an adapter must give: a snapshot that is in order, and nothing for another
adapter, with pixels exactly where there are layers. -/
structure Snapshot.Safe (s : Snapshot) (adapter : Option UInt64) : Prop where
  wellFormed : s.WellFormed
  adapter : ∀ gpu, adapter = some gpu → ∀ h, s.header? = some h →
    h.gpu = gpu ∧ (s.hasTexture = true ↔ h.layers ≠ [])

/-- A snapshot with pixels, or one that may have them, is safe. -/
theorem Snapshot.Fit.safe {s : Snapshot} {gpu : UInt64} (hfit : s.Fit gpu) : s.Safe (some gpu) := by
  have htrusted {h : Header} (hheader : s.header? = some h) :
      h.Usable ∧ h.gpu = gpu ∧ s.Depicts h := by
    obtain ⟨seen, husable, hgpu, hdepicts⟩ := hfit (by rw [isValid, hheader]; rfl)
    cases hdepicts.header.symm.trans hheader
    exact ⟨husable, hgpu, hdepicts⟩
  refine ⟨wellFormed fun h hheader => (htrusted hheader).1, fun other hother h hheader => ?_⟩
  cases hother
  obtain ⟨-, hgpu, hdepicts⟩ := htrusted hheader
  exact ⟨hgpu, hdepicts.texture⟩

/-- A snapshot without pixels of a header that was checked is safe. -/
theorem Snapshot.safe_withoutTexture {h : Header} (husable : h.Usable) :
    (withoutTexture h).Safe none := by
  refine ⟨wellFormed fun other hother => ?_, fun gpu hgpu => by cases hgpu⟩
  cases hother
  exact husable

theorem Snapshot.safe_empty (adapter : Option UInt64) : Snapshot.empty.Safe adapter :=
  ⟨wellFormed fun h hheader => (by cases hheader), fun _ _ h hheader => by cases hheader⟩

namespace Reader

variable {r r' : Reader} {s s' : Site} {gpu : UInt64} {copier copier' : Copier}
  {snapshot : Snapshot}

/-- What becomes of a header that was checked. -/
theorem Resolves.fit {host : Host} {caller : UInt32} {h : Header} {destination : Destination}
    (husable : h.Usable)
    (hresolves : Resolves r host caller gpu h destination copier snapshot r' copier') :
    snapshot.Fit gpu := by
  obtain ⟨hgpu, rfl | rfl | hdepicts⟩ := hresolves.depicts
  · intro hvalid
    cases hvalid
  · intro hvalid
    cases hvalid
  · intro hvalid
    refine ⟨h, husable, ?_, hdepicts⟩
    by_contra hne
    rw [hgpu.mpr hne] at hvalid
    cases hvalid

theorem Reads.fit {destination : Destination}
    (hreads : Reads r gpu destination copier s (.ok (snapshot, r', copier') s')) :
    snapshot.Fit gpu := by
  cases hreads with
  | missed => intro hvalid; cases hvalid
  | unusable => intro hvalid; cases hvalid
  | recovered => intro hvalid; cases hvalid
  | frame _ husable hresolves => exact hresolves.fit husable

theorem ReadsMetadata.safe {mode : LockMode}
    (hreads : ReadsMetadata r mode s (.ok (snapshot, r') s')) : snapshot.Safe none := by
  cases hreads with
  | missed => exact Snapshot.safe_empty none
  | unusable => exact Snapshot.safe_empty none
  | recovered => exact Snapshot.safe_empty none
  | frame _ husable => exact Snapshot.safe_withoutTexture husable

end Reader

/-- A snapshot is given again only when it was fit to be kept. -/
theorem CachedReader.Gets.fit {c c' : CachedReader} {s s' : Site} {copier copier' : Copier}
    {snapshot : Snapshot} (hgets : c.Gets copier s (.ok (snapshot, c', copier') s'))
    (hkept : c.Vouched Snapshot.Trusted) : snapshot.Fit c.gpu := by
  cases hgets with
  | detached => intro hvalid; cases hvalid
  | noRing => intro hvalid; cases hvalid
  | hit => exact hkept
  | missed => exact hkept
  | unusable => exact hkept
  | recovered => exact hkept
  | frame _ _ husable hresolves => exact hresolves.fit husable

/-! ## A hostile environment -/

/-- The states of a region whose memory and lock anybody may overwrite between two steps, with
anything that is as long as a header. -/
inductive Exposed : Exchange → Prop where
  | start (names : RegionNames) (memory : Bytes) (mutex : Mutex) (host : Host)
      (dead : List Thread) : Header.byteSize ≤ memory.length →
      Exposed ⟨names, memory, mutex, host, ∅, dead⟩
  | step {x y : Exchange} {thread : Thread} {move : Move} {answer : Answer} : Exposed x →
      x.step thread move = some (answer, y) → Exposed y
  | disturbed {x : Exchange} (memory : Bytes) (mutex : Mutex) (host : Host) (dead : List Thread) :
      Exposed x → Header.byteSize ≤ memory.length →
      Exposed { x with memory, mutex, host, dead }

namespace Exchange

/-- What holds all the same, because it is about nothing but the objects of the region. -/
structure Shielded (x : Exchange) : Prop where
  length : Header.byteSize ≤ x.memory.length
  settled : ∀ id c, x.clients.get? id = some c → c.Settled
  rests : ∀ id c, x.clients.get? id = some c → c.Rests
  /-- What is kept was checked when it was made. -/
  kept : ∀ id c cached number, x.clients.get? id = some c → c.body = .cached cached number →
    cached.Vouched Snapshot.Trusted

variable {x y : Exchange} {thread : Thread} {id : Nat} {c : Client}

theorem Shielded.step {move : Move} {answer : Answer} (hshielded : x.Shielded)
    (h : x.step thread move = some (answer, y)) : y.Shielded := by
  obtain ⟨hlen, hsettled, hrests, hkept⟩ := hshielded
  have hhappens := (happens hsettled hlen h).2
  constructor
  case length => rw [hhappens.length]; exact hlen
  case settled => exact hhappens.settled hsettled
  case rests => exact rests_step hlen hsettled hrests h
  case kept =>
    refine hhappens.cache_vouched hkept fun _ _ gpu snapshot _ _ husable hgpu hdepicts => ?_
    exact ⟨x.header, husable, hgpu, hdepicts⟩

/-- A reader between two calls. -/
theorem Shielded.resting (hshielded : x.Shielded) (thread : Thread)
    (hclient : x.clients.get? id = some c) (hreader : c.body.role = .reader) :
    Reader.Resting (x.site thread c.book) :=
  ⟨(hshielded.settled id c hclient).tidy rfl hreader, hshielded.rests id c hclient hreader⟩

end Exchange

/-- Steps lead to such states only. -/
theorem Exposed.run {x y : Exchange} {deeds : List Deed} (hexposed : Exposed x)
    (hrun : Run x deeds y) : Exposed y := by
  induction hrun with
  | nil => exact hexposed
  | snoc _ hvalid ih => exact .step ih hvalid

/-- The objects of a region do not depend on its memory. -/
theorem Exposed.shielded {x : Exchange} (h : Exposed x) : x.Shielded := by
  induction h with
  | start names memory mutex host dead hlen =>
    exact ⟨hlen, fun _ _ hclient => (by cases hclient), fun _ _ hclient => (by cases hclient),
      fun _ _ _ _ hclient => by cases hclient⟩
  | step _ hstep ih => exact ih.step hstep
  | disturbed memory mutex host dead _ hlen ih => exact ⟨hlen, ih.settled, ih.rests, ih.kept⟩

/-! ## Reads -/

/-- The calls that give a snapshot. -/
def Call.reads : Call → Bool
  | .read .. | .readMetadata _ | .get _ | .getMetadata => true
  | _ => false

/-- The reads that wait for the lock. -/
def Call.waits : Call → Bool
  | .read .. | .readMetadata _ => true
  | _ => false

/-- The adapter for which a read gets pixels, if it is one with pixels. -/
def Client.adapterOf (c : Client) : Call → Option UInt64
  | .read _ gpu _ _ => some gpu
  | .get _ =>
    match c.body with
    | .cached cached _ => some cached.gpu
    | _ => none
  | _ => none

/-- A copy is made out of the place of the frame number in the two tables, and for the value
there. -/
def Exchange.CopiesInside (x : Exchange) (c : Client) (thread : Thread) (request : CopyRequest) :
    Prop :=
  ∃ index, index = x.header.frame.toNat % slotCount ∧ index < slotCount ∧
    x.header.fenceValues.toList[index]? = some request.value ∧
    ∃ r r' handles, c.body.reader? = some r ∧
      (r.follow x.header).handles x.host thread.pid x.header = .ok (handles, r') ∧
      r'.slots.toList[index]? = some (some handles) ∧
      request.texture = handles.texture ∧ request.fence = handles.fence

namespace Exchange

variable {x y : Exchange} {thread : Thread} {id : Nat} {c : Client} {call : Call}

/-- A read is answered with a snapshot, and everything about the answer is in order. -/
structure ReadsSafely (x : Exchange) (thread : Thread) (id : Nat) (c : Client) (call : Call)
    (snapshot : Snapshot) (calls : List CopierCall) (y : Exchange) : Prop where
  step : x.step thread (.call id call) = some (.shown snapshot calls, y)
  safe : snapshot.Safe (c.adapterOf call)
  copies : ∀ request ∈ copiesIn calls, x.CopiesInside c thread request

/-- Copies are made out of what the reader looked up in its tables. -/
theorem copiesInside {body : Body} {s' : Site} {snapshot : Snapshot} {calls : List CopierCall}
    {request : CopyRequest}
    (hbecomes : c.body.Becomes (x.site thread c.book) call (.shown snapshot calls) body s')
    (hmem : request ∈ copiesIn calls) : x.CopiesInside c thread request := by
  obtain ⟨-, -, r, r', handles, target, hreader, hfound, rfl⟩ := hbecomes.copies hmem
  have hslot : x.header.slot.val = x.header.frame.toNat % slotCount := rfl
  have hplace {α : Type} (table : Vector α 2) : x.header.slot.val < table.toList.length := by
    rw [Vector.length_toList]
    exact x.header.slot.isLt
  refine ⟨x.header.slot.val, hslot, x.header.slot.isLt, ?_, r, r', handles, hreader, hfound, ?_,
    rfl, rfl⟩
  · rw [List.getElem?_eq_getElem (hplace _)]
    simp [Reader.request, Header.fenceValue, header, site]
  · have hkept := (Reader.finds hfound).slot
    rw [List.getElem?_eq_getElem (hplace _)]
    exact congrArg some ((Vector.getElem_toList _).trans hkept)

/-- A read that comes to a safe snapshot is answered with it. -/
theorem readsSafely_of_ok {operation : Act (Answer × Body)} {snapshot : Snapshot}
    {calls : List CopierCall} {body : Body} {s' : Site} (halive : thread ∉ x.dead)
    (hclient : x.clients.get? id = some c) (hguard : call.underGuard = false)
    (hoperation : c.operation call = some operation)
    (hresult : operation (x.site thread c.book) = .ok (.shown snapshot calls, body) s')
    (hbecomes : c.body.Becomes (x.site thread c.book) call (.shown snapshot calls) body s')
    (hsafe : snapshot.Safe (c.adapterOf call)) :
    ∃ snapshot calls y, x.ReadsSafely thread id c call snapshot calls y := by
  have hallowed : call.underGuard = true → c.GuardOf thread := by
    intro hunder
    rw [hguard] at hunder
    cases hunder
  exact ⟨snapshot, calls, _, step_call halive hclient hallowed hoperation hresult, hsafe,
    fun request hmem => copiesInside hbecomes hmem⟩

/-- A call that would have to wait is no step. -/
theorem step_blocked {operation : Act (Answer × Body)} {s' : Site}
    (hclient : x.clients.get? id = some c) (hguard : call.underGuard = false)
    (hoperation : c.operation call = some operation)
    (hresult : operation (x.site thread c.book) = .error .blocked s') :
    x.step thread (.call id call) = none := by
  have hallowed : call.underGuard = true → c.GuardOf thread := by
    intro hunder
    rw [hguard] at hunder
    cases hunder
  rw [step]
  split
  · rfl
  · show x.call thread id call = none
    rw [call_eq_settle hclient hallowed hoperation, hresult]
    rfl

/-- A read is answered with a safe snapshot, unless it is one that waits, and waits for somebody
else. -/
def ReadsOrWaits (x : Exchange) (thread : Thread) (id : Nat) (c : Client) (call : Call) : Prop :=
  (∃ snapshot calls y, x.ReadsSafely thread id c call snapshot calls y) ∨
    (call.waits = true ∧ x.step thread (.call id call) = none ∧ (x.site thread c.book).Elsewhere)

namespace Shielded

variable {r : Reader} {cached : CachedReader} {number : Nat}

theorem read (hshielded : x.Shielded) (hclient : x.clients.get? id = some c)
    (halive : thread ∉ x.dead) (hbody : c.body = .reader r) (kind : ConsumerKind) (gpu : UInt64)
    (target : Nat) (copier : Copier) :
    x.ReadsOrWaits thread id c (.read kind gpu target copier) := by
  have hrests := hshielded.resting thread hclient (by rw [hbody]; rfl)
  have hoperation : c.operation (.read kind gpu target copier) =
      some (r.answerRead kind gpu target copier) := by
    rw [Client.operation, hbody]
  have hreads := r.reads kind gpu target copier.looked (s := x.site thread c.book)
    hshielded.length hrests.toTidy
  cases hread : r.read kind gpu target copier.looked (x.site thread c.book) with
  | ok a s' =>
    left
    obtain ⟨snapshot, r', copier'⟩ := a
    rw [hread] at hreads
    have hanswer : r.answerRead kind gpu target copier (x.site thread c.book) =
        .ok (.shown snapshot copier'.calls, .reader r') s' := by
      rw [Reader.answerRead, Act.bind_ok hread]
      rfl
    have hbecomes : c.body.Becomes (x.site thread c.book) (.read kind gpu target copier)
        (.shown snapshot copier'.calls) (.reader r') s' := by
      rw [hbody]
      exact .read hreads
    exact readsSafely_of_ok halive hclient rfl hoperation hanswer hbecomes hreads.fit.safe
  | error failure s' =>
    right
    obtain ⟨rfl, helsewhere⟩ := Reader.read_error hrests hread
    have hwaits : r.answerRead kind gpu target copier (x.site thread c.book) =
        .error .blocked s' := by
      rw [Reader.answerRead, Act.bind_error hread]
    exact ⟨rfl, step_blocked hclient rfl hoperation hwaits, helsewhere⟩

theorem readMetadata (hshielded : x.Shielded) (hclient : x.clients.get? id = some c)
    (halive : thread ∉ x.dead) (hbody : c.body = .reader r) (kind : ConsumerKind) :
    x.ReadsOrWaits thread id c (.readMetadata kind) := by
  have hrests := hshielded.resting thread hclient (by rw [hbody]; rfl)
  have hoperation : c.operation (.readMetadata kind) = some (r.answerMetadata kind) := by
    rw [Client.operation, hbody]
  have hreads : r.ReadsMetadata .blocking _ (r.readMetadata kind (x.site thread c.book)) :=
    r.readsMetadata kind .blocking hshielded.length hrests.toTidy
  cases hread : r.readMetadata kind (x.site thread c.book) with
  | ok a s' =>
    left
    obtain ⟨snapshot, r'⟩ := a
    rw [hread] at hreads
    have hanswer : r.answerMetadata kind (x.site thread c.book) =
        .ok (.shown snapshot [], .reader r') s' := by
      rw [Reader.answerMetadata, Act.bind_ok hread]
      rfl
    have hbecomes : c.body.Becomes (x.site thread c.book) (.readMetadata kind)
        (.shown snapshot []) (.reader r') s' := by
      rw [hbody]
      exact .readMetadata hreads
    exact readsSafely_of_ok halive hclient rfl hoperation hanswer hbecomes hreads.safe
  | error failure s' =>
    right
    obtain ⟨rfl, -, helsewhere⟩ := Reader.metadataSnapshot_error hrests hread
    have hwaits : r.answerMetadata kind (x.site thread c.book) = .error .blocked s' := by
      rw [Reader.answerMetadata, Act.bind_error hread]
    exact ⟨rfl, step_blocked hclient rfl hoperation hwaits, helsewhere⟩

/-- A read through a cache does not wait. -/
theorem get (hshielded : x.Shielded) (hclient : x.clients.get? id = some c)
    (halive : thread ∉ x.dead) (hbody : c.body = .cached cached number) (copier : Copier) :
    x.ReadsOrWaits thread id c (.get copier) := by
  have hrests := hshielded.resting thread hclient (by rw [hbody]; rfl)
  have hoperation : c.operation (.get copier) = some (cached.answerGet number copier) := by
    rw [Client.operation, hbody]
  have hgets := cached.gets copier.looked (s := x.site thread c.book) hshielded.length
    hrests.toTidy
  have hkept := hshielded.kept id c cached number hclient hbody
  obtain ⟨⟨snapshot, cached', copier'⟩, s', hget⟩ := cached.get_ok copier.looked hrests
  rw [hget] at hgets
  have hanswer : cached.answerGet number copier (x.site thread c.book) =
      .ok (.shown snapshot copier'.calls, .cached cached' number) s' := by
    rw [CachedReader.answerGet, Act.bind_ok hget]
    rfl
  have hbecomes : c.body.Becomes (x.site thread c.book) (.get copier)
      (.shown snapshot copier'.calls) (.cached cached' number) s' := by
    rw [hbody]
    exact .get hgets
  have hsafe : snapshot.Safe (c.adapterOf (.get copier)) := by
    rw [Client.adapterOf, hbody]
    exact (hgets.fit hkept).safe
  exact .inl (readsSafely_of_ok halive hclient rfl hoperation hanswer hbecomes hsafe)

/-- Nor does one without pixels. -/
theorem getMetadata (hshielded : x.Shielded) (hclient : x.clients.get? id = some c)
    (halive : thread ∉ x.dead) (hbody : c.body = .cached cached number) :
    x.ReadsOrWaits thread id c .getMetadata := by
  have hrests := hshielded.resting thread hclient (by rw [hbody]; rfl)
  have hoperation : c.operation .getMetadata = some (cached.answerMetadata number) := by
    rw [Client.operation, hbody]
  have hreads := cached.reader.readsMetadata cached.kind .attempt (s := x.site thread c.book)
    hshielded.length hrests.toTidy
  cases hread : (do Act.see cached.kind; cached.reader.metadataSnapshot .attempt)
      (x.site thread c.book) with
  | ok a s' =>
    left
    obtain ⟨snapshot, reader⟩ := a
    rw [hread] at hreads
    have hanswer : cached.answerMetadata number (x.site thread c.book) =
        .ok (.shown snapshot [], .cached { cached with reader } number) s' := by
      rw [CachedReader.answerMetadata_eq, Act.bind_ok hread]
      rfl
    have hbecomes : c.body.Becomes (x.site thread c.book) .getMetadata (.shown snapshot [])
        (.cached { cached with reader } number) s' := by
      rw [hbody]
      exact .getMetadata hreads
    exact readsSafely_of_ok halive hclient rfl hoperation hanswer hbecomes hreads.safe
  | error failure s' =>
    obtain ⟨-, hmode, -⟩ := Reader.metadataSnapshot_error hrests hread
    cases hmode

/-- Any read. -/
theorem readsOrWaits (hshielded : x.Shielded) (hclient : x.clients.get? id = some c)
    (halive : thread ∉ x.dead) {call : Call} (hcall : call.reads = true)
    (hoperation : (c.operation call).isSome = true) : x.ReadsOrWaits thread id c call := by
  -- each read is one of a plain or of a cached reader
  cases call with
  | read kind gpu target copier =>
    cases hbody : c.body with
    | reader r => exact hshielded.read hclient halive hbody kind gpu target copier
    | _ => simp [Client.operation, hbody] at hoperation
  | readMetadata kind =>
    cases hbody : c.body with
    | reader r => exact hshielded.readMetadata hclient halive hbody kind
    | _ => simp [Client.operation, hbody] at hoperation
  | get copier =>
    cases hbody : c.body with
    | cached cached number => exact hshielded.get hclient halive hbody copier
    | _ => simp [Client.operation, hbody] at hoperation
  | getMetadata =>
    cases hbody : c.body with
    | cached cached number => exact hshielded.getMetadata hclient halive hbody
    | _ => simp [Client.operation, hbody] at hoperation
  | _ => cases hcall

end Shielded

end Exchange

open Exchange

/-- Whatever is in the memory, however it came there and however the copier behaves, a read of a
living thread is answered with a safe snapshot, unless it waits for somebody else. -/
theorem Exposed.readsSafely {x : Exchange} {thread : Thread} {id : Nat} {c : Client} {call : Call}
    (hexposed : Exposed x) (hclient : x.clients.get? id = some c) (halive : thread ∉ x.dead)
    (hcall : call.reads = true) (hoperation : (c.operation call).isSome = true) :
    x.ReadsOrWaits thread id c call := by
  have hshielded := hexposed.shielded
  exact hshielded.readsOrWaits hclient halive hcall hoperation

/-- A header that somebody made up, of this frame with so many layers: the texture is as wide as
there can be, and the first layer reaches its last corner. -/
def Header.forged (frame : UInt64) (layerCount : UInt8) : Header :=
  { ofSession 5 1 with
    frame, layerCount
    flags := 0xFFFFFFFF
    config := .ofSize ⟨0xFFFFFFFF, 3⟩
    layerTable := tableOf [.flat 1 (.of 1 0 0xFFFFFFFE 3)]
    feederPid := 7
    texture := 900
    fence := 901 }

/-- The region after somebody has put this header into it. -/
def Exchange.overwritten (x : Exchange) (h : Header) : Exchange :=
  { x with memory := Header.codec.encode h }

/-- Anybody can put any header into a region. -/
theorem Exposed.overwritten {x : Exchange} (hexposed : Exposed x) (h : Header) :
    Exposed (x.overwritten h) := by
  refine hexposed.disturbed (Header.codec.encode h) x.mutex x.host x.dead ?_
  rw [Codec.length_encode]
  exact Nat.le_refl _

/-- The region of the sample with a cached reader that has read a forged header, when there is
another forged header in it, with more layers than fit. -/
def Exchange.forged : Option Exchange :=
  (sample.play
      [(⟨7, 0⟩, .openCached 1 .viewer), (⟨7, 0⟩, .call 1 (.restart 5 2))]).bind fun opened =>
    ((opened.2.overwritten (.forged 0xFFFFFFFFFFFFFFFF 1)).step ⟨7, 0⟩
      (.call 1 (.get .fresh))).map fun read => read.2.overwritten (.forged 0 200)

/-- The second header is refused, and the snapshot of the first one is given again. -/
theorem Exposed.readsSafely_forged : ∃ x c, Exchange.forged = some x ∧ Exposed x ∧
    x.clients.get? 1 = some c ∧ ⟨7, 0⟩ ∉ x.dead ∧ (Call.get .fresh).reads = true ∧
    (c.operation (.get .fresh)).isSome = true ∧
    (x.step ⟨7, 0⟩ (.call 1 (.get .fresh))).map Prod.fst =
      some (.shown (.withTexture (.forged 0xFFFFFFFFFFFFFFFF 1) 1) []) ∧
    x.ReadsOrWaits ⟨7, 0⟩ 1 c (.get .fresh) := by
  have hfacts : Exchange.forged.map (fun x => (x.dead, (x.clients.get? 1).map fun c =>
        (c.operation (.get .fresh)).isSome,
        (x.step ⟨7, 0⟩ (.call 1 (.get .fresh))).map Prod.fst)) =
      some ([], some true,
        some (.shown (.withTexture (.forged 0xFFFFFFFFFFFFFFFF 1) 1) [])) := by
    decide +kernel
  obtain ⟨x, hforged, hfacts⟩ := Option.map_eq_some_iff.mp hfacts
  obtain ⟨hdead, hfacts⟩ := Prod.mk.inj hfacts
  obtain ⟨hfound, hshown⟩ := Prod.mk.inj hfacts
  obtain ⟨c, hclient, hoperation⟩ := Option.map_eq_some_iff.mp hfound
  have hexposed : Exposed x := by
    rw [Exchange.forged] at hforged
    obtain ⟨⟨deeds, y⟩, hplay, hrest⟩ := Option.bind_eq_some_iff.mp hforged
    obtain ⟨⟨answer, z⟩, hstep, hlast⟩ := Option.map_eq_some_iff.mp hrest
    cases hlast
    have hstart : Exposed Exchange.sample := .start _ _ _ _ _ (by decide +kernel)
    have hopened := hstart.run (Run.of_play hplay)
    have hread := (hopened.overwritten _).step hstep
    exact hread.overwritten _
  have halive : ⟨7, 0⟩ ∉ x.dead := by
    rw [hdead]
    exact List.not_mem_nil
  exact ⟨x, c, hforged, hexposed, hclient, halive, rfl, hoperation, hshown,
    hexposed.readsSafely hclient halive rfl hoperation⟩

end FrameExchange
