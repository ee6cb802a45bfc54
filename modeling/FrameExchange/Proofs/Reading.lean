import FrameExchange.Proofs.Guard
import FrameExchange.Proofs.Frame
import FrameExchange.Reader.Cached

/-!
# What readers do

Each read with everything that can come of it. A read changes nothing that is shared, unless the
owner of the lock died: then it begins a session, and shows nothing.

- `Reader.Captures` — the copy of the header, and whether it can be trusted.
- `Reader.Resolves` — what becomes of a header that can: the adapter, the layers, the handles and
  the copy are looked at in this order.
- `Reader.Reads`, `CachedReader.Gets` — whole reads, with and without a cache.
-/

namespace FrameExchange

open Act

namespace Header

/-- Whether a reader uses a header: there is a feeder, and nothing is wrong with it. -/
def Usable (h : Header) : Prop := h.hasFeeder = true ∧ h.validate = .ok ()

theorem hasFeeder_ofSession (gpu session : UInt64) : (ofSession gpu session).hasFeeder = false := by
  have hflags : (0 : UInt32) &&& feederAttached = 0 := by decide
  show (headerMagic == headerMagic && (0 : UInt32) &&& feederAttached != 0) = false
  rw [hflags]
  rfl

end Header

/-- A header of a session that has just begun is of no use. -/
theorem Site.Restarted.not_usable {gpu : UInt64} {s s' : Site}
    (hlen : Header.byteSize ≤ s.memory.length) (h : s.Restarted gpu s') :
    ¬(Memory.load s'.memory).Usable := by
  obtain ⟨k, -, -, hheader⟩ := h.renewed.header
  rintro ⟨hfeeder, -⟩
  rw [show Memory.load s'.memory = _ from hheader hlen, Header.hasFeeder_ofSession] at hfeeder
  cases hfeeder

namespace Reader

variable {s : Site}

/-- What a read leaves of a site: all of it but what was logged, or a session that was begun because
the owner of the lock had died, on the adapter of the header that it left. -/
inductive Leaves {α : Type} (s : Site) : EStateM.Result Failure Site α → Prop where
  | still {a : α} {s' : Site} : s.Still s' → Leaves s (.ok a s')
  | failed {failure : Failure} {s' : Site} : s.Still s' → Leaves s (.error failure s')
  | restarted {a : α} {s' : Site} : s.Restarted (Memory.load s.memory).gpu s' →
      s.mutex.holding = .orphaned → Leaves s (.ok a s')

/-! ## The header -/

/-- The moves of readers are in their table. -/
theorem allows {source target : Phase} (hrole : s.book.machine.role = .reader)
    (h : Role.reader.allows source target = true) :
    s.book.machine.role.allows source target = true := by
  rw [hrole]
  exact h

/-- A reader that has nothing else to do copies the header. -/
theorem metadata_ok (hrole : s.book.machine.role = .reader)
    (hphase : s.book.machine.phase = .locked) : metadata s = .ok (Memory.load s.memory) s := by
  have hbegin : move .locked .copyingHeader s = .ok () (s.rephase .copyingHeader) :=
    move_ok _ (allows hrole (by decide)) hphase
  have hend : move .copyingHeader .locked (s.rephase .copyingHeader) = .ok () s :=
    move_back (allows hrole (by decide)) hphase rfl
  rw [metadata, bind_ok hbegin, bind_ok (load_ok _)]
  exact bind_ok hend

/-- A reader under its guard copies the header. -/
theorem metadata_yields (hrole : s.book.machine.role = .reader) :
    Yields (fun h s s' => s' = s ∧ h = Memory.load s.memory) s (metadata s) := by
  by_cases hphase : s.book.machine.phase = .locked
  · rw [metadata_ok hrole hphase]
    exact .ok ⟨rfl, rfl⟩ rfl rfl rfl
  · have hmove := move_elsewhere .copyingHeader (allows hrole (by decide)) hphase
    rw [metadata, bind_error hmove]
    exact .error _ hphase

/-- A reader's book between two operations: without a guard nobody has one, and with a guard the
machine is where a header can be copied. -/
structure Tidy (s : Site) : Prop where
  role : s.book.machine.role = .reader
  idle : s.book.depth = 0 → s.book.holder = none
  locked : 0 < s.book.depth → s.book.machine.phase = .locked

/-- How copying the header under a guard of its own can end. -/
inductive Glimpses (mode : LockMode) (s : Site) :
    EStateM.Result Failure Site (Option Header) → Prop where
  | busy : ¬s.Obtains mode → Glimpses mode s (.ok none s)
  | refused (failure : Failure) : ¬s.Obtains mode → Glimpses mode s (.error failure s)
  | seen : s.Obtains mode → Glimpses mode s (.ok (some (Memory.load s.memory)) s)
  | recovered {s' : Site} : ¬s.Obtains mode → s.Restarted (Memory.load s.memory).gpu s' →
      s.mutex.holding = .orphaned → Glimpses mode s (.ok (some (Memory.load s'.memory)) s')

theorem glimpses (mode : LockMode) (htidy : Tidy s) : Glimpses mode s (header mode s) := by
  have hunder := (Reader.locks mode s).underLock htidy.idle fun t ht =>
    metadata_yields (ht.trans htidy.role)
  rw [← header_eq_underLock] at hunder
  generalize header mode s = result at hunder
  cases hunder with
  | busy _ hobtains => exact .busy hobtains
  | refused failure hreason =>
    rcases hreason with hobtains | ⟨hdepth, hphase⟩
    · exact .refused failure hobtains
    · exact absurd (htidy.locked hdepth) hphase
  | @done a inside s' hobtains hinside heffect =>
    obtain ⟨rfl, rfl⟩ := heffect
    have hback : ({ s' with book := s.book, mutex := s.mutex } : Site) = s := by rw [hinside]
    rw [hback, hinside]
    exact .seen hobtains
  | @recovered a inside s' horphaned hobtains hrenewed heffect =>
    obtain ⟨rfl, rfl⟩ := heffect
    exact .recovered hobtains (.of_gained horphaned hrenewed) horphaned

/-- The last part of copying a header: whether it can be trusted. -/
def check (r : Reader) (h : Header) : Act (Capture × Reader) := do
  if !h.hasFeeder then return (.empty, r)
  match h.validate with
  | .error fault =>
    report (.headerIgnored (← region) fault)
    return (.empty, r)
  | .ok () => return (.frame h, r)

theorem check_cases (r : Reader) (h : Header) (s : Site) : ∃ s', s.Still s' ∧
    (h.Usable ∧ r.check h s = .ok (.frame h, r) s' ∨
      ¬h.Usable ∧ r.check h s = .ok (.empty, r) s') := by
  rw [check, Header.Usable]
  cases hfeeder : h.hasFeeder with
  | false => exact ⟨s, .refl s, .inr ⟨by simp, rfl⟩⟩
  | true =>
    cases hvalid : h.validate with
    | error fault =>
      have hstill := Site.Still.report s (.headerIgnored s.names.mapping fault)
      exact ⟨_, hstill, .inr ⟨by simp, rfl⟩⟩
    | ok u => exact ⟨s, .refl s, .inl ⟨⟨rfl, rfl⟩, rfl⟩⟩

/-- A header that was copied is followed and checked. -/
theorem capture_seen (r : Reader) {mode : LockMode} {s' : Site} {h : Header}
    (hheader : header mode s = .ok (some h) s') : ∃ s'', s'.Still s'' ∧
      (h.Usable ∧ r.capture mode s = .ok (.frame h, r.follow h) s'' ∨
        ¬h.Usable ∧ r.capture mode s = .ok (.empty, r.follow h) s'') := by
  rw [capture, bind_ok hheader]
  dsimp only
  by_cases hsession : h.session ≠ r.session
  · rw [if_pos hsession]
    have hstill := Site.Still.report s' (.sessionChanged s'.names.mapping r.session h.session)
    obtain ⟨s'', hcheck, hcases⟩ := check_cases (r.follow h) h
      { s' with host := s'.host.report (.sessionChanged s'.names.mapping r.session h.session) }
    exact ⟨s'', hstill.trans hcheck, hcases⟩
  · rw [if_neg hsession]
    exact check_cases (r.follow h) h s'

/-- How copying the header can end for a read, which counts a refused lock as an empty region. -/
inductive Captures (r : Reader) (mode : LockMode) (s : Site) :
    EStateM.Result Failure Site (Capture × Reader) → Prop where
  | missed {capture : Capture} {s' : Site} : ¬s.Obtains mode → (∀ h, capture ≠ .frame h) →
      s.Still s' → Captures r mode s (.ok (capture, r) s')
  | failed {s' : Site} (failure : Failure) : ¬s.Obtains mode → s.Still s' →
      Captures r mode s (.error failure s')
  | unusable {s' : Site} : s.Still s' → ¬(Memory.load s.memory).Usable →
      Captures r mode s (.ok (.empty, r.follow (Memory.load s.memory)) s')
  | frame {s' : Site} : s.Still s' → (Memory.load s.memory).Usable → s.Obtains mode →
      Captures r mode s (.ok (.frame (Memory.load s.memory), r.follow (Memory.load s.memory)) s')
  | recovered {s' : Site} : ¬s.Obtains mode → s.Restarted (Memory.load s.memory).gpu s' →
      s.mutex.holding = .orphaned →
      Captures r mode s (.ok (.empty, r.follow (Memory.load s'.memory)) s')

theorem captures (r : Reader) (mode : LockMode) (hlen : Header.byteSize ≤ s.memory.length)
    (htidy : Tidy s) : Captures r mode s (r.captureOrEmpty mode s) := by
  have hglimpses := glimpses mode htidy
  generalize hheader : header mode s = result at hglimpses
  cases hglimpses with
  | busy hobtains =>
    have hcapture : r.capture mode s = .ok (.busy, r) s := by rw [capture, bind_ok hheader]; rfl
    rw [captureOrEmpty, bind_ok (attempt_ok hcapture)]
    exact .missed hobtains (fun h heq => by cases heq) (.refl s)
  | refused failure hobtains =>
    have hcapture : r.capture mode s = .error failure s := by rw [capture, bind_error hheader]
    rw [captureOrEmpty, bind_ok (attempt_error hcapture)]
    cases failure with
    | error e => exact .missed hobtains (fun h heq => by cases heq) (.report s _)
    | violation v => exact .failed _ hobtains (.refl s)
    | blocked => exact .failed _ hobtains (.refl s)
  | seen hobtains =>
    obtain ⟨s', hstill, ⟨husable, hcapture⟩ | ⟨husable, hcapture⟩⟩ := r.capture_seen hheader
    · rw [captureOrEmpty, bind_ok (attempt_ok hcapture)]
      exact .frame hstill husable hobtains
    · rw [captureOrEmpty, bind_ok (attempt_ok hcapture)]
      exact .unusable hstill husable
  | recovered hobtains hrestarted horphaned =>
    -- the header that was copied is that of the new session, without a feeder
    obtain ⟨s'', hstill, ⟨husable, -⟩ | ⟨-, hcapture⟩⟩ := r.capture_seen hheader
    · exact absurd husable (hrestarted.not_usable hlen)
    · rw [captureOrEmpty, bind_ok (attempt_ok hcapture), ← hstill.memory]
      exact .recovered hobtains (hrestarted.still hstill) horphaned

theorem Tidy.still {s s' : Site} (htidy : Tidy s) (hstill : s.Still s') : Tidy s' := by
  obtain ⟨hrole, hidle, hlocked⟩ := htidy
  rw [← hstill.book] at hrole hidle hlocked
  exact ⟨hrole, hidle, hlocked⟩

/-- What was logged before a read does not matter. -/
theorem Captures.of_still {r : Reader} {mode : LockMode} {s s' : Site}
    {result : EStateM.Result Failure Site (Capture × Reader)} (hstill : s.Still s')
    (h : Captures r mode s' result) : Captures r mode s result := by
  have hmemory := hstill.memory
  have hobtains : s'.Obtains mode ↔ s.Obtains mode := hstill.obtains
  cases h with
  | missed hmissed hcapture h =>
    exact .missed (fun ho => hmissed (hobtains.mpr ho)) hcapture (hstill.trans h)
  | failed failure hmissed h =>
    exact .failed failure (fun ho => hmissed (hobtains.mpr ho)) (hstill.trans h)
  | unusable h husable =>
    rw [hmemory] at husable ⊢
    exact .unusable (hstill.trans h) husable
  | frame h husable ho =>
    rw [hmemory] at husable ⊢
    exact .frame (hstill.trans h) husable (hobtains.mp ho)
  | recovered hmissed h horphaned =>
    rw [hmemory] at h
    exact .recovered (fun ho => hmissed (hobtains.mpr ho)) (.of_still hstill h)
      (hstill.mutex ▸ horphaned)

/-! ## Snapshots -/

/-- Looking for handles depends on what runs with which files open, and on nothing else. -/
theorem handles_sameFiles (r : Reader) {host host' : Host} (hsame : host.SameFiles host')
    (caller : UInt32) (h : Header) : r.handles host' caller h = r.handles host caller h := by
  have hfresh : r.duplicateHandles host' caller h = r.duplicateHandles host caller h := by
    have hreach : r.reach host' caller h = r.reach host caller h := by
      rw [reach, reach, hsame.openProcess]
    simp only [duplicateHandles, hreach, hsame.duplicate]
  rw [handles, handles, handles.fresh, handles.fresh, hfresh]

/-- Where the pixels of a read go: a texture, or a reason why there is none, and the copier after
it was made. -/
abbrev Destination := Copier → Except CopyFault Nat × Copier

/-- The copy of a header's pixels out of these handles. -/
def request (handles : SlotHandles) (h : Header) (target : Nat) : CopyRequest :=
  ⟨handles.texture, handles.fence, h.fenceValue h.slot, target⟩

/-- Whether the pixels of a copy can be shown: a fence that was not reached in time is no
reason not to. -/
def Shows : Except CopyFault Unit → Prop
  | .ok () | .error (.fenceWait _) => True
  | .error _ => False

/-- What becomes of a header that a reader trusts. -/
inductive Resolves (r : Reader) (host : Host) (caller : UInt32) (gpu : UInt64) (h : Header)
    (destination : Destination) (copier : Copier) : Snapshot → Reader → Copier → Prop where
  | incorrectGpu : h.gpu ≠ gpu →
      Resolves r host caller gpu h destination copier .incorrectGpu r copier
  | noLayers : h.gpu = gpu → h.layers = [] →
      Resolves r host caller gpu h destination copier (.withoutTexture h) r copier
  | noHandles {fault : HandleFault} : h.gpu = gpu → h.layers ≠ [] →
      r.handles host caller h = .error fault →
      Resolves r host caller gpu h destination copier .ipcHandleError { r with feeder := none }
        copier
  | noDestination {handles : SlotHandles} {r' : Reader} {fault : CopyFault} {copier' : Copier} :
      h.gpu = gpu → h.layers ≠ [] → r.handles host caller h = .ok (handles, r') →
      destination copier = (.error fault, copier') →
      Resolves r host caller gpu h destination copier .ipcHandleError r' copier'
  | copied {handles : SlotHandles} {r' : Reader} {target : Nat} {copier' copier'' : Copier}
      {outcome : Except CopyFault Unit} :
      h.gpu = gpu → h.layers ≠ [] → r.handles host caller h = .ok (handles, r') →
      destination copier = (.ok target, copier') →
      copier'.copy (request handles h target) = (outcome, copier'') → Shows outcome →
      Resolves r host caller gpu h destination copier (.withTexture h target) r' copier''
  | notCopied {handles : SlotHandles} {r' : Reader} {target : Nat} {copier' copier'' : Copier}
      {outcome : Except CopyFault Unit} :
      h.gpu = gpu → h.layers ≠ [] → r.handles host caller h = .ok (handles, r') →
      destination copier = (.ok target, copier') →
      copier'.copy (request handles h target) = (outcome, copier'') → ¬Shows outcome →
      Resolves r host caller gpu h destination copier .ipcHandleError
        { r' with slots := r'.slots.set h.slot none h.slot_lt } copier''

/-- So does what becomes of a header. -/
theorem Resolves.of_sameFiles {r r' : Reader} {host host' : Host} {caller : UInt32} {gpu : UInt64}
    {h : Header} {destination : Destination} {copier copier' : Copier} {snapshot : Snapshot}
    (hsame : host.SameFiles host')
    (hresolves : Resolves r host' caller gpu h destination copier snapshot r' copier') :
    Resolves r host caller gpu h destination copier snapshot r' copier' := by
  have hhandles := r.handles_sameFiles hsame caller h
  cases hresolves with
  | incorrectGpu hgpu => exact .incorrectGpu hgpu
  | noLayers hgpu hlayers => exact .noLayers hgpu hlayers
  | noHandles hgpu hlayers hfault => exact .noHandles hgpu hlayers (hhandles ▸ hfault)
  | noDestination hgpu hlayers hfound hdestination =>
    exact .noDestination hgpu hlayers (hhandles ▸ hfound) hdestination
  | copied hgpu hlayers hfound hdestination hcopy hshows =>
    exact .copied hgpu hlayers (hhandles ▸ hfound) hdestination hcopy hshows
  | notCopied hgpu hlayers hfound hdestination hcopy hshows =>
    exact .notCopied hgpu hlayers (hhandles ▸ hfound) hdestination hcopy hshows

/-- A header that is trusted is never shown as an empty region. -/
theorem Resolves.ne_empty {r r' : Reader} {host : Host} {caller : UInt32} {gpu : UInt64}
    {h : Header} {destination : Destination} {copier copier' : Copier} {snapshot : Snapshot}
    (hresolves : Resolves r host caller gpu h destination copier snapshot r' copier') :
    snapshot ≠ .empty := by
  cases hresolves <;> exact fun h => by cases h

/-- How the first half of showing a header can end. -/
inductive Prepares (r : Reader) (gpu : UInt64) (h : Header) (s : Site) :
    EStateM.Result Failure Site (Prepared × Reader) → Prop where
  | settled {snapshot : Snapshot} {r' : Reader} {s' : Site} : s.Still s' →
      (∀ destination copier,
        Resolves r s.host s.caller.pid gpu h destination copier snapshot r' copier) →
      Prepares r gpu h s (.ok (.settled snapshot, r') s')
  | ready {handles : SlotHandles} {r' : Reader} : h.gpu = gpu → h.layers ≠ [] →
      r.handles s.host s.caller.pid h = .ok (handles, r') →
      Prepares r gpu h s (.ok (.ready handles, r') s)

theorem prepares (r : Reader) (gpu : UInt64) (h : Header) (s : Site) :
    Prepares r gpu h s (r.prepare gpu h s) := by
  rw [prepare]
  by_cases hgpu : h.gpu = gpu
  · rw [if_neg (fun hne => hne hgpu)]
    by_cases hlayers : h.layers = []
    · rw [if_pos (h.layerCount_eq_zero_iff.mpr hlayers)]
      exact .settled (.refl s) fun _ _ => .noLayers hgpu hlayers
    · rw [if_neg (fun hzero => hlayers (h.layerCount_eq_zero_iff.mp hzero)), bind_ok (get_ok s)]
      cases hhandles : r.handles s.host s.caller.pid h with
      | ok found => exact .ready hgpu hlayers hhandles
      | error fault => exact .settled (.report s _) fun _ _ => .noHandles hgpu hlayers hhandles
  · rw [if_pos hgpu]
    exact .settled (.refl s) fun _ _ => .incorrectGpu hgpu

/-- The second half: the copy into a texture, if there is one. -/
theorem finishes (r : Reader) {r' : Reader} {host : Host} {caller : UInt32} {gpu : UInt64}
    {h : Header} {handles : SlotHandles} (destination : Destination) (copier : Copier) (s : Site)
    (hgpu : h.gpu = gpu) (hlayers : h.layers ≠ [])
    (hhandles : r.handles host caller h = .ok (handles, r')) :
    ∃ snapshot r'' copier' s', s.Still s' ∧
      Resolves r host caller gpu h destination copier snapshot r'' copier' ∧
      r'.finish h handles (destination copier).1 (destination copier).2 s =
        .ok (snapshot, r'', copier') s' := by
  generalize hdestination : destination copier = found
  obtain ⟨outcome, copier'⟩ := found
  cases outcome with
  | error fault =>
    exact ⟨_, _, _, _, .report s _, .noDestination hgpu hlayers hhandles hdestination, rfl⟩
  | ok target =>
    generalize hcopy : copier'.copy (request handles h target) = copied
    obtain ⟨outcome, copier''⟩ := copied
    have hasked : copier'.copy ⟨handles.texture, handles.fence, h.fenceValue h.slot, target⟩ =
        (outcome, copier'') := hcopy
    dsimp only [finish]
    rw [hasked]
    match outcome, hcopy with
    | .ok (), hcopy =>
      exact ⟨_, _, _, _, .refl s,
        .copied hgpu hlayers hhandles hdestination hcopy trivial, rfl⟩
    | .error (.fenceWait cause), hcopy =>
      exact ⟨_, _, _, _, .report s _,
        .copied hgpu hlayers hhandles hdestination hcopy trivial, rfl⟩
    | .error (.notImported cause), hcopy | .error (.notAllocated cause), hcopy =>
      exact ⟨_, _, _, _, .report s _,
        .notCopied hgpu hlayers hhandles hdestination hcopy id, rfl⟩

/-! ## Whole reads -/

theorem see_ok (kind : ConsumerKind) (s : Site) :
    see kind s = .ok () { s with host := s.host.see s.caller.pid kind } := rfl

/-- To remember a consumer changes nothing else. -/
theorem see_still (kind : ConsumerKind) (s : Site) :
    s.Still { s with host := s.host.see s.caller.pid kind } := ⟨.see s.host s.caller.pid kind, rfl⟩

/-- How a read with pixels can end. -/
inductive Reads (r : Reader) (gpu : UInt64) (destination : Destination) (copier : Copier)
    (s : Site) : EStateM.Result Failure Site (Snapshot × Reader × Copier) → Prop where
  | missed {s' : Site} : ¬s.Obtains .blocking → s.Still s' →
      Reads r gpu destination copier s (.ok (.empty, r, copier) s')
  | failed {s' : Site} (failure : Failure) : ¬s.Obtains .blocking → s.Still s' →
      Reads r gpu destination copier s (.error failure s')
  | unusable {s' : Site} : s.Still s' → ¬(Memory.load s.memory).Usable →
      Reads r gpu destination copier s
        (.ok (.empty, r.follow (Memory.load s.memory), copier) s')
  | frame {snapshot : Snapshot} {r' : Reader} {copier' : Copier} {s' : Site} : s.Still s' →
      (Memory.load s.memory).Usable →
      Resolves (r.follow (Memory.load s.memory)) s.host s.caller.pid gpu (Memory.load s.memory)
        destination copier snapshot r' copier' → s.Obtains .blocking →
      Reads r gpu destination copier s (.ok (snapshot, r', copier') s')
  | recovered {s' : Site} : ¬s.Obtains .blocking → s.Restarted (Memory.load s.memory).gpu s' →
      s.mutex.holding = .orphaned →
      Reads r gpu destination copier s
        (.ok (.empty, r.follow (Memory.load s'.memory), copier) s')

/-- From a header to a snapshot. -/
theorem resolves (r : Reader) (gpu : UInt64) (h : Header) (target : Nat) (copier : Copier)
    (s : Site) : ∃ snapshot r' copier' s', s.Still s' ∧
      Resolves r s.host s.caller.pid gpu h (fun copier => (.ok target, copier)) copier
        snapshot r' copier' ∧
      (do match ← r.prepare gpu h with
          | (.settled snapshot, r) => return (snapshot, r, copier)
          | (.ready handles, r) => r.finish h handles (.ok target) copier :
        Act (Snapshot × Reader × Copier)) s = .ok (snapshot, r', copier') s' := by
  have hprepares := r.prepares gpu h s
  generalize hprepare : r.prepare gpu h s = result at hprepares
  cases hprepares with
  | settled hstill hresolves =>
    rw [bind_ok hprepare]
    exact ⟨_, _, _, _, hstill, hresolves _ copier, rfl⟩
  | ready hgpu hlayers hhandles =>
    rw [bind_ok hprepare]
    obtain ⟨snapshot, r', copier', s', hstill, hresolves, hfinish⟩ :=
      r.finishes (fun copier => (.ok target, copier)) copier s hgpu hlayers hhandles
    exact ⟨snapshot, r', copier', s', hstill, hresolves, hfinish⟩

theorem Reads.leaves {r : Reader} {gpu : UInt64} {destination : Destination} {copier : Copier}
    {result : EStateM.Result Failure Site (Snapshot × Reader × Copier)}
    (h : Reads r gpu destination copier s result) : Leaves s result := by
  cases h with
  | missed _ hstill => exact .still hstill
  | failed _ _ hstill => exact .failed hstill
  | unusable hstill => exact .still hstill
  | frame hstill => exact .still hstill
  | recovered _ hrestarted horphaned => exact .restarted hrestarted horphaned

theorem reads (r : Reader) (kind : ConsumerKind) (gpu : UInt64) (target : Nat) (copier : Copier)
    (hlen : Header.byteSize ≤ s.memory.length) (htidy : Tidy s) :
    Reads r gpu (fun copier => (.ok target, copier)) copier s
      (r.read kind gpu target copier s) := by
  have hsee := see_still kind s
  have hcaptures := Captures.of_still hsee
    (r.captures .blocking (by rw [hsee.memory]; exact hlen) (htidy.still hsee))
  rw [read, bind_ok (see_ok kind s)]
  generalize hcapture : r.captureOrEmpty .blocking _ = result at hcaptures
  cases hcaptures with
  | @missed capture s' hobtains hnone hstill =>
    rw [bind_ok hcapture]
    cases capture with
    | busy => exact .missed hobtains hstill
    | empty => exact .missed hobtains hstill
    | frame h => exact absurd rfl (hnone h)
  | failed failure hobtains hstill =>
    rw [bind_error hcapture]
    exact .failed failure hobtains hstill
  | unusable hstill husable =>
    rw [bind_ok hcapture]
    exact .unusable hstill husable
  | @frame s' hstill husable hobtains =>
    rw [bind_ok hcapture]
    obtain ⟨snapshot, r', copier', s'', hstill', hresolves, hrest⟩ :=
      (r.follow (Memory.load s.memory)).resolves gpu (Memory.load s.memory) target copier s'
    rw [hstill.caller] at hresolves
    have hframe : Reads r gpu _ copier s (.ok (snapshot, r', copier') s'') :=
      .frame (hstill.trans hstill') husable (hresolves.of_sameFiles hstill.host.files) hobtains
    rw [← hrest] at hframe
    exact hframe
  | recovered hobtains hrestarted horphaned =>
    rw [bind_ok hcapture]
    exact .recovered hobtains hrestarted horphaned

/-- How a read without pixels can end. -/
inductive ReadsMetadata (r : Reader) (mode : LockMode) (s : Site) :
    EStateM.Result Failure Site (Snapshot × Reader) → Prop where
  | missed {s' : Site} : ¬s.Obtains mode → s.Still s' → ReadsMetadata r mode s (.ok (.empty, r) s')
  | failed {s' : Site} (failure : Failure) : ¬s.Obtains mode → s.Still s' →
      ReadsMetadata r mode s (.error failure s')
  | unusable {s' : Site} : s.Still s' → ¬(Memory.load s.memory).Usable →
      ReadsMetadata r mode s (.ok (.empty, r.follow (Memory.load s.memory)) s')
  | frame {s' : Site} : s.Still s' → (Memory.load s.memory).Usable → s.Obtains mode →
      ReadsMetadata r mode s
        (.ok (.withoutTexture (Memory.load s.memory), r.follow (Memory.load s.memory)) s')
  | recovered {s' : Site} : ¬s.Obtains mode → s.Restarted (Memory.load s.memory).gpu s' →
      s.mutex.holding = .orphaned →
      ReadsMetadata r mode s (.ok (.empty, r.follow (Memory.load s'.memory)) s')

theorem ReadsMetadata.leaves {r : Reader} {mode : LockMode}
    {result : EStateM.Result Failure Site (Snapshot × Reader)}
    (h : ReadsMetadata r mode s result) : Leaves s result := by
  cases h with
  | missed _ hstill => exact .still hstill
  | failed _ _ hstill => exact .failed hstill
  | unusable hstill => exact .still hstill
  | frame hstill => exact .still hstill
  | recovered _ hrestarted horphaned => exact .restarted hrestarted horphaned

theorem readsMetadata (r : Reader) (kind : ConsumerKind) (mode : LockMode)
    (hlen : Header.byteSize ≤ s.memory.length) (htidy : Tidy s) :
    ReadsMetadata r mode s ((do see kind; r.metadataSnapshot mode) s) := by
  have hsee := see_still kind s
  have hcaptures := Captures.of_still hsee
    (r.captures mode (by rw [hsee.memory]; exact hlen) (htidy.still hsee))
  rw [bind_ok (see_ok kind s), metadataSnapshot]
  generalize hcapture : r.captureOrEmpty mode _ = result at hcaptures
  cases hcaptures with
  | @missed capture s' hobtains hnone hstill =>
    rw [bind_ok hcapture]
    cases capture with
    | busy => exact .missed hobtains hstill
    | empty => exact .missed hobtains hstill
    | frame h => exact absurd rfl (hnone h)
  | failed failure hobtains hstill =>
    rw [bind_error hcapture]
    exact .failed failure hobtains hstill
  | unusable hstill husable =>
    rw [bind_ok hcapture]
    exact .unusable hstill husable
  | frame hstill husable hobtains =>
    rw [bind_ok hcapture]
    exact .frame hstill husable hobtains
  | recovered hobtains hrestarted horphaned =>
    rw [bind_ok hcapture]
    exact .recovered hobtains hrestarted horphaned

end Reader

namespace CachedReader

open Reader

variable {s : Site}

/-- The place of the ring that the next copy goes to. -/
def destination (c : CachedReader) (h : Header) : Destination := fun copier =>
  let placed := place c.ring c.next h.config.textureSize copier
  (placed.1, placed.2.2)

/-- Whether the snapshot at hand is one of this key. -/
def Hits (c : CachedReader) (key : FrameKey) : Prop := c.cache.isValid = true ∧ c.cache.key = key

/-- From a header to a snapshot, in a ring of textures. -/
theorem resolves (c : CachedReader) (h : Header) (copier : Copier) (s : Site) :
    ∃ snapshot r' ring' copier' s', s.Still s' ∧
      Resolves c.reader s.host s.caller.pid c.gpu h (c.destination h) copier snapshot r' copier' ∧
      c.resolve h copier s =
        .ok (snapshot, { c with reader := r', ring := ring' }, copier') s' := by
  have hprepares := c.reader.prepares c.gpu h s
  generalize hprepare : c.reader.prepare c.gpu h s = result at hprepares
  cases hprepares with
  | settled hstill hresolves =>
    rw [resolve, bind_ok hprepare]
    exact ⟨_, _, c.ring, _, _, hstill, hresolves _ copier, rfl⟩
  | ready hgpu hlayers hhandles =>
    rw [resolve, bind_ok hprepare]
    obtain ⟨snapshot, r', copier', s', hstill, hresolves, hfinish⟩ :=
      c.reader.finishes (c.destination h) copier s hgpu hlayers hhandles
    exact ⟨snapshot, r', _, copier', s', hstill, hresolves, bind_ok hfinish⟩

/-- The cached reader after a snapshot of a fresh header: a frame is kept. -/
def after (c : CachedReader) (reader : Reader) (ring : List (Option RingTexture))
    (snapshot : Snapshot) : CachedReader :=
  if snapshot.isValid then { c with reader, ring }.keep snapshot else { c with reader, ring }

/-- A snapshot of a fresh header is given, and kept if it has a frame. -/
theorem settle_ok (c : CachedReader) {snapshot : Snapshot} (hsnapshot : snapshot ≠ .empty)
    (s : Site) : ∃ s', s.Still s' ∧ c.settle snapshot s =
      .ok (snapshot, if snapshot.isValid then c.keep snapshot else c) s' := by
  rw [settle]
  cases hvalid : snapshot.isValid with
  | true =>
    rw [if_pos rfl, if_pos rfl]
    by_cases hback : c.wentBackwards snapshot = true
    · rw [if_pos hback]
      exact ⟨_, (Site.Still.report s _).trans (see_still c.kind _), rfl⟩
    · rw [if_neg hback]
      exact ⟨_, see_still c.kind s, rfl⟩
  | false =>
    rw [if_neg (by decide), if_neg hsnapshot]
    exact ⟨s, .refl s, rfl⟩

/-- How a read through a cache can end. -/
inductive Gets (c : CachedReader) (copier : Copier) (s : Site) :
    EStateM.Result Failure Site (Snapshot × CachedReader × Copier) → Prop where
  | detached : (Memory.load s.memory).hasFeeder = false →
      Gets c copier s (.ok (.empty, { c with cache := .empty }, copier) s)
  | noRing {s' : Site} : c.ring = [] → s.Still s' → Gets c copier s (.ok (.empty, c, copier) s')
  | hit {s' : Site} : (Memory.load s.memory).hasFeeder = true →
      c.Hits (Memory.load s.memory).key → s.Still s' →
      Gets c copier s (.ok (c.cache, c, copier) s')
  | missed {s' : Site} : ¬c.Hits (Memory.load s.memory).key → ¬s.Obtains .attempt → s.Still s' →
      Gets c copier s (.ok (c.cache, c, copier) s')
  | failed {s' : Site} (failure : Failure) : ¬c.Hits (Memory.load s.memory).key →
      ¬s.Obtains .attempt → s.Still s' → Gets c copier s (.error failure s')
  | unusable {s' : Site} : ¬c.Hits (Memory.load s.memory).key →
      (Memory.load s.memory).hasFeeder = true → ¬(Memory.load s.memory).Usable → s.Still s' →
      Gets c copier s
        (.ok (c.cache, { c with reader := c.reader.follow (Memory.load s.memory) }, copier) s')
  | frame {snapshot : Snapshot} {reader : Reader} {ring : List (Option RingTexture)}
      {copier' : Copier} {s' : Site} : ¬c.Hits (Memory.load s.memory).key → s.Still s' →
      (Memory.load s.memory).Usable →
      Resolves (c.reader.follow (Memory.load s.memory)) s.host s.caller.pid c.gpu
        (Memory.load s.memory) (c.destination (Memory.load s.memory)) copier snapshot reader
        copier' → s.Obtains .attempt →
      Gets c copier s (.ok (snapshot, c.after reader ring snapshot, copier') s')
  | recovered {s' : Site} : ¬c.Hits (Memory.load s.memory).key → ¬s.Obtains .attempt →
      s.Restarted (Memory.load s.memory).gpu s' → s.mutex.holding = .orphaned → Gets c copier s
        (.ok (c.cache, { c with reader := c.reader.follow (Memory.load s'.memory) }, copier) s')

theorem Gets.leaves {c : CachedReader} {copier : Copier}
    {result : EStateM.Result Failure Site (Snapshot × CachedReader × Copier)}
    (h : Gets c copier s result) : Leaves s result := by
  cases h with
  | detached => exact .still (.refl s)
  | noRing _ hstill => exact .still hstill
  | hit _ _ hstill => exact .still hstill
  | missed _ _ hstill => exact .still hstill
  | failed _ _ _ hstill => exact .failed hstill
  | unusable _ _ _ hstill => exact .still hstill
  | frame _ hstill => exact .still hstill
  | recovered _ _ hrestarted horphaned => exact .restarted hrestarted horphaned

/-- A header copied for a cached reader: the reader follows it. -/
theorem captureFrame_frame (c : CachedReader) {h : Header} {reader : Reader} {s s' : Site}
    (hcapture : c.reader.captureOrEmpty .attempt s = .ok (.frame h, reader) s') :
    c.captureFrame s = .ok (some h, { c with reader }) s' := by
  rw [captureFrame, bind_ok hcapture]
  rfl

/-- No header for a cached reader. -/
theorem captureFrame_none (c : CachedReader) {capture : Capture} {reader : Reader} {s s' : Site}
    (hcapture : c.reader.captureOrEmpty .attempt s = .ok (capture, reader) s')
    (hnone : ∀ h, capture ≠ .frame h) : c.captureFrame s = .ok (none, { c with reader }) s' := by
  rw [captureFrame, bind_ok hcapture]
  cases capture with
  | busy => rfl
  | empty => rfl
  | frame h => exact absurd rfl (hnone h)

/-- The rest of a read, once the snapshot at hand is known to be another one than the header's. -/
def look (c : CachedReader) (copier : Copier) : Act (Snapshot × CachedReader × Copier) := do
  match ← c.captureFrame with
  | (none, c) => return (c.cache, c, copier)
  | (some h, c) =>
    let (snapshot, c, copier) ← c.resolve h copier
    let (snapshot, c) ← c.settle snapshot
    return (snapshot, c, copier)

/-- A header that was copied is resolved, and the snapshot kept if it has a frame. -/
theorem look_frame (c : CachedReader) {h : Header} {reader : Reader} (copier : Copier) {s s' : Site}
    (hcapture : c.reader.captureOrEmpty .attempt s = .ok (.frame h, reader) s') :
    ∃ snapshot reader' ring copier' s'', s'.Still s'' ∧
      Resolves reader s'.host s'.caller.pid c.gpu h (c.destination h) copier snapshot reader'
        copier' ∧
      c.look copier s = .ok (snapshot, c.after reader' ring snapshot, copier') s'' := by
  obtain ⟨snapshot, reader', ring, copier', s₁, hstill₁, hresolves, hresolve⟩ :=
    resolves { c with reader } h copier s'
  obtain ⟨s₂, hstill₂, hsettle⟩ :=
    settle_ok { c with reader := reader', ring } hresolves.ne_empty s₁
  refine ⟨snapshot, reader', ring, copier', s₂, hstill₁.trans hstill₂, hresolves, ?_⟩
  rw [look, bind_ok (c.captureFrame_frame hcapture)]
  show (resolve _ _ copier >>= _) s' = _
  rw [bind_ok hresolve]
  show (settle _ snapshot >>= _) s₁ = _
  rw [bind_ok hsettle]
  rfl

/-- A read that misses, after the consumer was remembered. -/
theorem looks (c : CachedReader) (copier : Copier) {t : Site} (hstill : s.Still t)
    (hlen : Header.byteSize ≤ s.memory.length) (htidy : Tidy s)
    (hfeeder : (Memory.load s.memory).hasFeeder = true)
    (hmiss : ¬c.Hits (Memory.load s.memory).key) : Gets c copier s (c.look copier t) := by
  have hcaptures := Captures.of_still hstill
    (c.reader.captures .attempt (by rw [hstill.memory]; exact hlen) (htidy.still hstill))
  generalize hcapture : c.reader.captureOrEmpty .attempt t = result at hcaptures
  cases hcaptures with
  | missed hobtains hnone hstill' =>
    rw [look, bind_ok (c.captureFrame_none hcapture hnone)]
    exact .missed hmiss hobtains hstill'
  | failed failure hobtains hstill' =>
    rw [look, captureFrame, bind_error (bind_error hcapture)]
    exact .failed failure hmiss hobtains hstill'
  | unusable hstill' husable =>
    rw [look, bind_ok (c.captureFrame_none hcapture fun h heq => by cases heq)]
    exact .unusable hmiss hfeeder husable hstill'
  | frame hstill' husable hobtains =>
    obtain ⟨snapshot, reader, ring, copier', s'', hstill'', hresolves, hlook⟩ :=
      c.look_frame copier hcapture
    rw [hlook]
    rw [hstill'.caller] at hresolves
    exact .frame hmiss (hstill'.trans hstill'') husable
      (hresolves.of_sameFiles hstill'.host.files) hobtains
  | recovered hobtains hrestarted horphaned =>
    rw [look, bind_ok (c.captureFrame_none hcapture fun h heq => by cases heq)]
    exact .recovered hmiss hobtains hrestarted horphaned

/-- How far a read through a cache comes without the lock. The two peeks agree with the header, so
that all of it is about the header alone. -/
inductive Peeks (c : CachedReader) (copier : Copier) (s : Site) :
    EStateM.Result Failure Site (Snapshot × CachedReader × Copier) → Prop where
  | detached : (Memory.load s.memory).hasFeeder = false →
      Peeks c copier s (.ok (.empty, { c with cache := .empty }, copier) s)
  | noRing {s' : Site} : c.ring = [] → s.Still s' → Peeks c copier s (.ok (.empty, c, copier) s')
  | hit {s' : Site} : (Memory.load s.memory).hasFeeder = true →
      c.Hits (Memory.load s.memory).key → s.Still s' →
      Peeks c copier s (.ok (c.cache, c, copier) s')
  | looks : (Memory.load s.memory).hasFeeder = true → c.ring ≠ [] →
      ¬c.Hits (Memory.load s.memory).key →
      Peeks c copier s (c.look copier { s with host := s.host.see s.caller.pid c.kind })

theorem peeks (c : CachedReader) (copier : Copier) (s : Site) :
    Peeks c copier s (c.get copier s) := by
  have hpeek : peekAttached s = .ok (Memory.load s.memory).hasFeeder s := by
    rw [← Memory.peekAttached_eq]
    rfl
  rw [get, bind_ok hpeek]
  cases hfeeder : (Memory.load s.memory).hasFeeder with
  | false => exact .detached hfeeder
  | true =>
    rw [if_neg (by decide)]
    by_cases hring : c.ring = []
    · rw [if_pos (List.isEmpty_iff.mpr hring)]
      exact .noRing hring (.report s _)
    · rw [if_neg fun hempty => hring (List.isEmpty_iff.mp hempty)]
      have hkey : Reader.key c.kind s = .ok (Memory.load s.memory).key
          { s with host := s.host.see s.caller.pid c.kind } := by
        rw [← Memory.peekKey_eq]
        rfl
      rw [bind_ok hkey]
      by_cases hhit : c.Hits (Memory.load s.memory).key
      · rw [if_pos (by simpa [Hits] using hhit)]
        exact .hit hfeeder hhit (see_still c.kind s)
      · rw [if_neg (by simpa [Hits] using hhit)]
        exact .looks hfeeder hring hhit

theorem gets (c : CachedReader) (copier : Copier) (hlen : Header.byteSize ≤ s.memory.length)
    (htidy : Tidy s) : Gets c copier s (c.get copier s) := by
  have hpeeks := c.peeks copier s
  generalize hget : c.get copier s = result at hpeeks ⊢
  cases hpeeks with
  | detached hfeeder => exact .detached hfeeder
  | noRing hring hstill => exact .noRing hring hstill
  | hit hfeeder hhit hstill => exact .hit hfeeder hhit hstill
  | looks hfeeder _ hmiss =>
    exact c.looks copier (see_still c.kind s) hlen htidy hfeeder hmiss

end CachedReader

end FrameExchange
