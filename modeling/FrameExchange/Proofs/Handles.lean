import FrameExchange.Proofs.Ring

/-!
# How long duplicated handles are kept

A reader duplicates the handles of a slot once, and uses the duplicates again as long as the header
publishes the same handles. The numbers alone say little: another feeder can publish the same
numbers for other files. So duplicates belong to the session of the header that they were made for,
and a header of another session drops them all, whatever else there is to say about it.

- `Site.Near`, `Reader.header_near` — to copy the header opens and closes no file.
- `Reader.Duplicates`, `Reader.Opens` — how a reader comes by the handles of a header.
- `Reader.Keeps` — everything that a read can make of the feeder and of the two slots.
- `Visit`, `Reader.Life` — one read, and a reader with all the reads since it was opened.
- `Duplicated` — the handles were duplicated for this slot since the session is the present one.
- `Reader.Life.handlesOfSession` — what a reader keeps, and what reaches a copier.
-/

namespace FrameExchange

open Act

/-! ## Copying the header -/

/-- The caller is the same, and every process has the same files open. -/
structure Site.Near (s s' : Site) : Prop where
  caller : s'.caller = s.caller
  files : s.host.SameFiles s'.host

namespace Site.Near

theorem refl (s : Site) : s.Near s := ⟨rfl, fun _ => rfl⟩

theorem trans {s s' s'' : Site} (first : s.Near s') (second : s'.Near s'') : s.Near s'' :=
  ⟨second.caller.trans first.caller, fun pid => (second.files pid).trans (first.files pid)⟩

theorem of_still {s s' : Site} (hstill : s.Still s') : s.Near s' :=
  ⟨hstill.caller, hstill.host.files⟩

end Site.Near

namespace Reader

variable {mode : LockMode} {s s' : Site} {h : Header}

/-- To take the lock opens and closes no file, not even where a session is begun. -/
theorem lock_near {acquired : Acquired} (hlock : lock mode s = .ok acquired s') : s.Near s' := by
  have hasks := Reader.asks mode s
  rw [hlock] at hasks
  cases hasks with
  | busy => exact .refl s
  | nested => exact ⟨rfl, fun _ => rfl⟩
  | gained => exact ⟨rfl, fun _ => rfl⟩
  | recovered _ _ hrenewed => exact ⟨hrenewed.caller, hrenewed.files⟩

theorem header_near (hheader : header mode s = .ok (some h) s') : s.Near s' := by
  obtain ⟨abandoned, t, u, hlock, hmetadata, hrelease⟩ := of_header hheader
  have hbook := (metadata_rest hmetadata).2
  obtain ⟨hstill, hrest⟩ := release_rest hrelease
  have hcopied : t.Near u := by
    rw [hbook]
    exact ⟨rfl, fun _ => rfl⟩
  have hreleased : u.Near s' := by
    refine ⟨?_, hstill.files⟩
    rw [hrest]
  exact ((lock_near hlock).trans hcopied).trans hreleased

/-! ## Finding handles -/

variable {r r' : Reader} {host : Host} {caller : UInt32} {handles : SlotHandles}

/-- The reader keeps the handles of the header, as far as their numbers go. -/
def Knows (r : Reader) (h : Header) (handles : SlotHandles) : Prop :=
  r.slots.get h.slot = some handles ∧ handles.rawTexture = h.texture ∧ handles.rawFence = h.fence

/-- These are fresh duplicates of the handles of a header that the reader does not know: a process
with the number of the feeder was open already or could be opened, and both handles could be
duplicated out of it. -/
structure Duplicates (r : Reader) (host : Host) (caller : UInt32) (h : Header)
    (feeder : OpenedProcess) (handles : SlotHandles) : Prop where
  unknown : ∀ known, ¬r.Knows h known
  opened : r.Reaches host caller h feeder
  texture : host.duplicate feeder h.texture = .ok handles.texture
  fence : host.duplicate feeder h.fence = .ok handles.fence
  rawTexture : handles.rawTexture = h.texture
  rawFence : handles.rawFence = h.fence

/-- The reader with these handles in the slot of the header, and this feeder open. -/
def keeping (r : Reader) (h : Header) (feeder : OpenedProcess) (handles : SlotHandles) : Reader :=
  { r with
    feeder := some feeder
    slots := r.slots.set h.slot (some handles) h.slot_lt }

/-- How a reader comes by the handles of a header. Those that it knows are taken on any host:
nothing is opened or duplicated for them. -/
inductive Opens (r : Reader) (host : Host) (caller : UInt32) (h : Header) :
    SlotHandles → Reader → Prop where
  | known {handles : SlotHandles} : r.Knows h handles →
      (∀ host caller, r.handles host caller h = .ok (handles, r)) →
      Opens r host caller h handles r
  | duplicated {feeder : OpenedProcess} {handles : SlotHandles} :
      r.Duplicates host caller h feeder handles →
      Opens r host caller h handles (r.keeping h feeder handles)

theorem knows_iff {known : SlotHandles} :
    r.Knows h known ↔ r.slots.get h.slot = some known ∧ known.matches h = true := by
  rw [Knows, SlotHandles.matches, Bool.and_eq_true, beq_iff_eq, beq_iff_eq]

theorem handles_known (hknown : r.Knows h handles) (host : Host) (caller : UInt32) :
    r.handles host caller h = .ok (handles, r) := by
  obtain ⟨hslot, hmatches⟩ := knows_iff.mp hknown
  replace hslot : r.slots[h.slot] = some handles := hslot
  rw [Reader.handles, hslot]
  exact if_pos hmatches

theorem handles_unknown (hunknown : ∀ known, ¬r.Knows h known) (host : Host) (caller : UInt32) :
    r.handles host caller h =
      (r.duplicateHandles host caller h).map fun (feeder, new) =>
        (new, r.keeping h feeder new) := by
  rw [Reader.handles]
  split
  · next known hslot =>
    have hmatches : ¬known.matches h = true := fun hmatches =>
      hunknown known (knows_iff.mpr ⟨hslot, hmatches⟩)
    rw [if_neg hmatches]
    rfl
  · rfl

theorem opens (hfound : r.handles host caller h = .ok (handles, r')) :
    r.Opens host caller h handles r' := by
  by_cases hknows : ∃ known, r.Knows h known
  · obtain ⟨known, hknown⟩ := hknows
    cases (handles_known hknown host caller).symm.trans hfound
    exact .known hknown (handles_known hknown)
  · have hunknown : ∀ known, ¬r.Knows h known := not_exists.mp hknows
    rw [handles_unknown hunknown] at hfound
    cases hnew : r.duplicateHandles host caller h with
    | error fault =>
      rw [hnew] at hfound
      cases hfound
    | ok duplicated =>
      obtain ⟨feeder, new⟩ := duplicated
      rw [hnew] at hfound
      cases hfound
      obtain ⟨hopened, texture, fence, htexture, hfence, rfl⟩ := duplicateHandles_eq_ok_iff.mp hnew
      exact .duplicated ⟨hunknown, hopened, htexture, hfence, rfl, rfl⟩

/-- Where no handles are found, they were not known and could not be duplicated. -/
theorem not_opens {fault : HandleFault} (hfault : r.handles host caller h = .error fault) :
    (∀ known, ¬r.Knows h known) ∧
      ∀ feeder handles, ¬r.Duplicates host caller h feeder handles := by
  have hunknown : ∀ known, ¬r.Knows h known := by
    intro known hknown
    cases (handles_known hknown host caller).symm.trans hfault
  refine ⟨hunknown, ?_⟩
  rintro feeder ⟨rawTexture, rawFence, texture, fence⟩ ⟨-, hopened, htexture, hfence, rfl, rfl⟩
  have hnew := duplicateHandles_eq_ok_iff.mpr ⟨hopened, texture, fence, htexture, hfence, rfl⟩
  rw [handles_unknown hunknown, hnew] at hfault
  cases hfault

theorem Opens.session (hopens : r.Opens host caller h handles r') : r'.session = r.session := by
  cases hopens with
  | known => rfl
  | duplicated => rfl

/-- Handles are vouched for when they are duplicated, and then as long as they are kept. -/
theorem Opens.vouched {P : UInt64 → Slot → SlotHandles → Prop}
    (hopens : r.Opens host caller h handles r') (hvouched : r.Vouched P)
    (hnew : ∀ feeder, r.Duplicates host caller h feeder handles → P r.session h.slot handles) :
    r'.Vouched P ∧ P r.session h.slot handles := by
  cases hopens with
  | known hknown => exact ⟨hvouched, hvouched h.slot handles hknown.1⟩
  | duplicated hduplicates =>
    refine ⟨hvouched.set _ h.slot _ fun new heq => ?_, hnew _ hduplicates⟩
    cases heq
    exact hnew _ hduplicates

/-! ## What a read makes of the handles -/

/-- A reader after a read that has copied this header, or none, before it looks for handles. -/
def seeing (r : Reader) : Option Header → Reader
  | none => r
  | some h => r.follow h

theorem session_seeing (r : Reader) (found : Option Header) :
    (r.seeing found).session = (found.map Header.session).getD r.session := by
  cases found with
  | none => rfl
  | some h => exact r.session_follow h

/-- A header of the same session changes nothing. -/
theorem follow_same (hsession : h.session = r.session) : r.follow h = r := if_pos hsession

/-- A header of another session drops the feeder and both slots. -/
theorem follow_other (hsession : h.session ≠ r.session) :
    r.follow h = { fresh with session := h.session } := if_neg hsession

/-- Where a read wants its pixels: on an adapter, and there in a texture, or a reason why there is
none. -/
structure Aim where
  gpu : UInt64
  destination : Header → Destination

/-- A texture that is there already. -/
def Aim.texture (gpu : UInt64) (target : Nat) : Aim := ⟨gpu, fun _ copier => (.ok target, copier)⟩

/-- What a read makes of its reader, and asks of its copier, when it has copied this header, or
none. A read without pixels has no aim. -/
inductive Keeps (r : Reader) (host : Host) (caller : UInt32) (aim : Option Aim)
    (found : Option Header) (copier : Copier) : Copier → Reader → Prop where
  /-- The lock was busy or not to be had, or not needed. -/
  | unseen : found = none → Keeps r host caller aim found copier copier r
  /-- There is no use for handles. -/
  | plain {h : Header} : found = some h →
      ¬h.Usable ∨ (∀ a, aim = some a → h.gpu ≠ a.gpu) ∨ h.layers = [] →
      Keeps r host caller aim found copier copier (r.follow h)
  /-- The feeder could not be opened, or one of its handles not duplicated. -/
  | refused {h : Header} {a : Aim} : found = some h → h.Usable → aim = some a → h.gpu = a.gpu →
      h.layers ≠ [] → (∀ known, ¬(r.follow h).Knows h known) →
      (∀ feeder handles, ¬(r.follow h).Duplicates host caller h feeder handles) →
      Keeps r host caller aim found copier copier { r.follow h with feeder := none }
  /-- There is no texture to copy into. -/
  | noDestination {h : Header} {a : Aim} {handles : SlotHandles} {r' : Reader}
      {fault : CopyFault} {copier' : Copier} :
      found = some h → h.Usable → aim = some a → h.gpu = a.gpu → h.layers ≠ [] →
      (r.follow h).Opens host caller h handles r' →
      a.destination h copier = (.error fault, copier') →
      copiesIn copier'.calls = copiesIn copier.calls →
      Keeps r host caller aim found copier copier' r'
  | copied {h : Header} {a : Aim} {handles : SlotHandles} {r' : Reader} {target : Nat}
      {between : Copier} :
      found = some h → h.Usable → aim = some a → h.gpu = a.gpu → h.layers ≠ [] →
      (r.follow h).Opens host caller h handles r' →
      a.destination h copier = (.ok target, between) →
      copiesIn between.calls = copiesIn copier.calls →
      Shows (between.copy (request handles h target)).1 →
      Keeps r host caller aim found copier (between.copy (request handles h target)).2 r'
  /-- The handles were of no use. -/
  | notCopied {h : Header} {a : Aim} {handles : SlotHandles} {r' : Reader} {target : Nat}
      {between : Copier} :
      found = some h → h.Usable → aim = some a → h.gpu = a.gpu → h.layers ≠ [] →
      (r.follow h).Opens host caller h handles r' →
      a.destination h copier = (.ok target, between) →
      copiesIn between.calls = copiesIn copier.calls →
      ¬Shows (between.copy (request handles h target)).1 →
      Keeps r host caller aim found copier (between.copy (request handles h target)).2
        { r' with slots := r'.slots.set h.slot none h.slot_lt }

variable {aim : Option Aim} {found : Option Header} {copier copier' : Copier}
  {snapshot : Snapshot}

/-- A header that is trusted, made into a snapshot. -/
theorem Resolves.keeps {a : Aim} (hfound : found = some h) (husable : h.Usable)
    (hplain : (a.destination h).Plain)
    (hresolves : (r.follow h).Resolves host caller a.gpu h (a.destination h) copier snapshot r'
      copier') :
    r.Keeps host caller (some a) found copier copier' r' := by
  have hquiet {outcome : Except CopyFault Nat} {between : Copier}
      (hdestination : a.destination h copier = (outcome, between)) :
      copiesIn between.calls = copiesIn copier.calls := by
    have hsame := hplain copier
    rw [hdestination] at hsame
    exact hsame
  cases hresolves with
  | incorrectGpu hgpu =>
    refine .plain hfound (.inr (.inl ?_))
    rintro _ ⟨⟩
    exact hgpu
  | noLayers _ hlayers => exact .plain hfound (.inr (.inr hlayers))
  | noHandles hgpu hlayers hfault =>
    obtain ⟨hunknown, hnone⟩ := not_opens hfault
    exact .refused hfound husable rfl hgpu hlayers hunknown hnone
  | noDestination hgpu hlayers hhandles hdestination =>
    exact .noDestination hfound husable rfl hgpu hlayers (opens hhandles) hdestination
      (hquiet hdestination)
  | @copied handles _ target between _ outcome hgpu hlayers hhandles hdestination hcopy hshows =>
    have hkeeps : r.Keeps host caller (some a) found copier
        (between.copy (request handles h target)).2 r' :=
      .copied hfound husable rfl hgpu hlayers (opens hhandles) hdestination
        (hquiet hdestination) (by rw [hcopy]; exact hshows)
    rw [hcopy] at hkeeps
    exact hkeeps
  | @notCopied handles opened target between _ outcome hgpu hlayers hhandles hdestination hcopy
      hshows =>
    have hkeeps : r.Keeps host caller (some a) found copier
        (between.copy (request handles h target)).2
        { opened with slots := opened.slots.set h.slot none h.slot_lt } :=
      .notCopied hfound husable rfl hgpu hlayers (opens hhandles) hdestination
        (hquiet hdestination) (by rw [hcopy]; exact hshows)
    rw [hcopy] at hkeeps
    exact hkeeps

/-- A header that was copied on one site and is made into a snapshot on a later one. -/
theorem Resolves.keeps_of_near {a : Aim} {s s' : Site} (hnear : s.Near s')
    (hfound : found = some h) (husable : h.Usable) (hplain : (a.destination h).Plain)
    (hresolves : (r.follow h).Resolves s'.host s'.caller.pid a.gpu h (a.destination h) copier
      snapshot r' copier') :
    r.Keeps s.host s.caller.pid (some a) found copier copier' r' := by
  rw [hnear.caller] at hresolves
  exact (hresolves.of_sameFiles hnear.files).keeps hfound husable hplain

/-- To remember a consumer changes nothing that handles depend on. -/
theorem see_near (kind : ConsumerKind) (s : Site) :
    s.Near { s with host := s.host.see s.caller.pid kind } := .of_still (see_still kind s)

/-- Where there is no header to go on with, handles are not looked for. -/
theorem Grasps.keeps {t t' : Site} {capture : Capture} (hgrasps : Grasps r mode t t' capture r')
    (hno : ∀ h, capture ≠ .frame h) :
    r.Keeps host caller aim (headerOf (header mode t)) copier copier r' := by
  cases hgrasps with
  | frame => exact absurd rfl (hno _)
  | useless hheader _ husable => exact .plain (by rw [hheader]; rfl) (.inl husable)
  | nothing hmissed => exact .unseen hmissed

theorem read_keeps {kind : ConsumerKind} {gpu : UInt64} {target : Nat}
    (hread : r.read kind gpu target copier s = .ok (snapshot, r', copier') s') :
    r.Keeps s.host s.caller.pid (some (.texture gpu target))
      (headerOf ((do see kind; header .blocking) s)) copier copier' r' := by
  rw [read, bind_ok (see_ok kind s)] at hread
  rw [bind_ok (see_ok kind s)]
  obtain ⟨⟨capture, caught⟩, t, hcapture, hread⟩ := of_bind hread
  have hgrasps := grasps hcapture
  cases capture with
  | busy =>
    cases hread
    exact hgrasps.keeps fun h heq => by cases heq
  | empty =>
    cases hread
    exact hgrasps.keeps fun h heq => by cases heq
  | frame h =>
    cases hgrasps with
    | nothing _ hno => exact absurd rfl (hno h)
    | frame hheader hstill husable =>
      obtain ⟨shown, reader, copier'', v, -, hresolves, hrest⟩ :=
        (r.follow h).resolves gpu h target copier t
      cases hrest.symm.trans hread
      have hnear := ((see_near kind s).trans (header_near hheader)).trans (.of_still hstill)
      exact Resolves.keeps_of_near (a := .texture gpu target) hnear (by rw [hheader]; rfl) husable
        (fun _ => rfl) hresolves

/-- A read without pixels has no use for handles. -/
theorem metadataSnapshot_keeps {kind : ConsumerKind} (copier : Copier)
    (hread : (do see kind; r.metadataSnapshot mode) s = .ok (snapshot, r') s') :
    r.Keeps s.host s.caller.pid none (headerOf ((do see kind; header mode) s)) copier copier
      r' := by
  rw [bind_ok (see_ok kind s), metadataSnapshot] at hread
  rw [bind_ok (see_ok kind s)]
  obtain ⟨⟨capture, caught⟩, t, hcapture, hread⟩ := of_bind hread
  have hgrasps := grasps hcapture
  cases capture with
  | busy =>
    cases hread
    exact hgrasps.keeps fun h heq => by cases heq
  | empty =>
    cases hread
    exact hgrasps.keeps fun h heq => by cases heq
  | frame h =>
    cases hread
    cases hgrasps with
    | nothing _ hno => exact absurd rfl (hno h)
    | frame hheader => exact .plain (by rw [hheader]; rfl) (.inr (.inl fun _ heq => by cases heq))

end Reader

namespace CachedReader

open Reader

variable {c c' : CachedReader} {copier copier' : Copier} {snapshot : Snapshot} {s s' : Site}

/-- A cached reader wants its pixels in its ring. -/
def aim (c : CachedReader) : Aim := ⟨c.gpu, c.destination⟩

/-- A read that is no hit, after the consumer was remembered. -/
theorem look_keeps {t : Site} (hnear : s.Near t)
    (hlook : c.look copier t = .ok (snapshot, c', copier') s') :
    c.reader.Keeps s.host s.caller.pid (some c.aim) (headerOf (Reader.header .attempt t)) copier
      copier' c'.reader := by
  cases hcapture : c.reader.captureOrEmpty .attempt t with
  | error failure u =>
    rw [look, captureFrame, bind_error (bind_error hcapture)] at hlook
    cases hlook
  | ok caught u =>
    obtain ⟨capture, reader⟩ := caught
    have hgrasps := grasps hcapture
    by_cases hframe : ∃ h, capture = .frame h
    · obtain ⟨h, rfl⟩ := hframe
      cases hgrasps with
      | nothing _ hno => exact absurd rfl (hno h)
      | frame hheader hstill husable =>
        obtain ⟨shown, reader', ring, copier'', v, -, hresolves, hrest⟩ :=
          c.look_frame copier hcapture
        cases hrest.symm.trans hlook
        rw [reader_after]
        have hlater := (hnear.trans (header_near hheader)).trans (.of_still hstill)
        exact Resolves.keeps_of_near (a := c.aim) hlater (by rw [hheader]; rfl) husable
          (c.destination_plain h) hresolves
    · have hno : ∀ h, capture ≠ .frame h := not_exists.mp hframe
      rw [look, bind_ok (c.captureFrame_none hcapture hno)] at hlook
      cases hlook
      exact hgrasps.keeps hno

theorem get_keeps (hget : c.get copier s = .ok (snapshot, c', copier') s') :
    c.reader.Keeps s.host s.caller.pid (some c.aim) (c.copied s) copier copier' c'.reader := by
  have hpeeks := c.peeks copier s
  generalize c.get copier s = result at hget hpeeks
  cases hpeeks with
  | detached hfeeder =>
    cases hget
    exact .unseen (copied_eq_none (.inl hfeeder))
  | noRing hring =>
    cases hget
    exact .unseen (copied_eq_none (.inr (.inl hring)))
  | hit _ hhit =>
    cases hget
    exact .unseen (copied_eq_none (.inr (.inr hhit)))
  | looks hfeeder hring hmiss =>
    rw [copied_eq hfeeder hring hmiss]
    exact look_keeps (see_near c.kind s) hget

end CachedReader

/-! ## Reads of one reader -/

/-- A read, with the header that it has copied, if it has. -/
structure Visit where
  /-- What the read found when it was called. -/
  site : Site
  found : Option Header
  before : Reader
  after : Reader

namespace Visit

open Reader

/-- The visit is a read of its reader: with pixels that are wanted here, or without any. A read that
comes to no answer leaves its reader as it was, and is no visit. -/
inductive Reads (v : Visit) : Option Aim → Copier → Copier → Prop where
  | read {kind : ConsumerKind} {gpu : UInt64} {target : Nat} {copier copier' : Copier}
      {snapshot : Snapshot} {s' : Site} :
      v.found = headerOf ((do see kind; header .blocking) v.site) →
      v.before.read kind gpu target copier v.site = .ok (snapshot, v.after, copier') s' →
      Reads v (some (.texture gpu target)) copier copier'
  | readMetadata {kind : ConsumerKind} {copier : Copier} {snapshot : Snapshot} {s' : Site} :
      v.found = headerOf ((do see kind; header .blocking) v.site) →
      v.before.readMetadata kind v.site = .ok (snapshot, v.after) s' →
      Reads v none copier copier
  | get {c c' : CachedReader} {copier copier' : Copier} {snapshot : Snapshot} {s' : Site} :
      c.reader = v.before → c'.reader = v.after → v.found = c.copied v.site →
      c.get copier v.site = .ok (snapshot, c', copier') s' →
      Reads v (some c.aim) copier copier'
  | getMetadata {c c' : CachedReader} {copier : Copier} {snapshot : Snapshot} {s' : Site} :
      c.reader = v.before → c'.reader = v.after →
      v.found = headerOf ((do see c.kind; header .attempt) v.site) →
      c.getMetadata v.site = .ok (snapshot, c') s' →
      Reads v none copier copier

variable {v : Visit} {aim : Option Aim} {copier copier' : Copier}

theorem Reads.keeps (hreads : v.Reads aim copier copier') :
    v.before.Keeps v.site.host v.site.caller.pid aim v.found copier copier' v.after := by
  cases hreads with
  | read hfound hread =>
    rw [hfound]
    exact read_keeps hread
  | readMetadata hfound hread =>
    rw [hfound]
    exact metadataSnapshot_keeps copier hread
  | get hbefore hafter hfound hget =>
    rw [hfound, ← hbefore, ← hafter]
    exact CachedReader.get_keeps hget
  | @getMetadata c _ _ _ _ hbefore hafter hfound hget =>
    rw [hfound, ← hbefore, ← hafter]
    rw [CachedReader.getMetadata, bind_ok (see_ok c.kind _)] at hget
    obtain ⟨⟨shown, reader⟩, t, hread, hlast⟩ := of_bind hget
    cases hlast
    exact metadataSnapshot_keeps copier ((bind_ok (see_ok c.kind _)).trans hread)

end Visit

/-- The handles were duplicated for this slot in one of these reads, the latest of which comes
first, out of a header of this session; and from then on the reader was in this session. -/
def Duplicated (past : List Visit) (session : UInt64) (slot : Slot) (handles : SlotHandles) :
    Prop :=
  ∃ later v earlier h feeder, past = later ++ v :: earlier ∧ v.found = some h ∧
    (v.before.follow h).Duplicates v.site.host v.site.caller.pid h feeder handles ∧
    h.session = session ∧ h.slot = slot ∧ ∀ u ∈ v :: later, u.after.session = session

namespace Duplicated

variable {past : List Visit} {session : UInt64} {slot : Slot} {handles : SlotHandles} {v : Visit}

/-- As long as the session stays the same, what was duplicated stays so. -/
theorem later (h : Duplicated past session slot handles) (hsession : v.after.session = session) :
    Duplicated (v :: past) session slot handles := by
  obtain ⟨later, w, earlier, header, feeder, rfl, hfound, hduplicates, hheader, hslot, hsince⟩ := h
  refine ⟨v :: later, w, earlier, header, feeder, rfl, hfound, hduplicates, hheader, hslot, ?_⟩
  intro u hmem
  rcases List.mem_cons.mp hmem with rfl | hrest
  · exact hsince u List.mem_cons_self
  · rcases List.mem_cons.mp hrest with rfl | hlater
    · exact hsession
    · exact hsince u (List.mem_cons_of_mem _ hlater)

theorem now {h : Header} {feeder : OpenedProcess} (past : List Visit) (hfound : v.found = some h)
    (hduplicates : (v.before.follow h).Duplicates v.site.host v.site.caller.pid h feeder handles)
    (hsession : v.after.session = h.session) :
    Duplicated (v :: past) h.session h.slot handles := by
  refine ⟨[], v, past, h, feeder, rfl, hfound, hduplicates, rfl, rfl, fun u hmem => ?_⟩
  cases List.mem_singleton.mp hmem
  exact hsession

end Duplicated

namespace Reader

/-- A reader since it was opened, with all its reads, the latest first. Between two reads anything
can happen to the region and to the host. -/
inductive Life : List Visit → Reader → Prop where
  | fresh : Life [] .fresh
  | read {past : List Visit} {v : Visit} {aim : Option Aim} {copier copier' : Copier} :
      Life past v.before → v.Reads aim copier copier' → Life (v :: past) v.after

variable {r r' : Reader} {host : Host} {caller : UInt32} {aim : Option Aim}
  {found : Option Header} {copier copier' : Copier}

theorem Vouched.imp {P Q : UInt64 → Slot → SlotHandles → Prop} (hvouched : r.Vouched P)
    (himp : ∀ slot handles, P r.session slot handles → Q r.session slot handles) :
    r.Vouched Q := fun slot handles hkept => himp slot handles (hvouched slot handles hkept)

namespace Keeps

/-- The session of a reader is that of the header that it copied last. -/
theorem session (hkeeps : r.Keeps host caller aim found copier copier' r') :
    r'.session = (r.seeing found).session := by
  cases hkeeps with
  | unseen hfound => rw [hfound]; rfl
  | plain hfound => rw [hfound]; rfl
  | refused hfound => rw [hfound]; rfl
  | noDestination hfound _ _ _ _ hopens => rw [hfound]; exact hopens.session
  | copied hfound _ _ _ _ hopens => rw [hfound]; exact hopens.session
  | notCopied hfound _ _ _ _ hopens => rw [hfound]; exact hopens.session

/-- A header that cannot be used is followed, and that is all. -/
theorem useless {h : Header} (hkeeps : r.Keeps host caller aim found copier copier' r')
    (hfound : found = some h) (husable : ¬h.Usable) : r' = r.follow h := by
  cases hkeeps with
  | unseen hnone => cases hnone.symm.trans hfound
  | plain hsame =>
    cases hsame.symm.trans hfound
    rfl
  | refused hsame hgood =>
    cases hsame.symm.trans hfound
    exact absurd hgood husable
  | noDestination hsame hgood =>
    cases hsame.symm.trans hfound
    exact absurd hgood husable
  | copied hsame hgood =>
    cases hsame.symm.trans hfound
    exact absurd hgood husable
  | notCopied hsame hgood =>
    cases hsame.symm.trans hfound
    exact absurd hgood husable

/-- Whatever holds of handles when they are duplicated holds of all handles that are kept, and of
those that are copied from. -/
theorem vouched {P : UInt64 → Slot → SlotHandles → Prop}
    (hkeeps : r.Keeps host caller aim found copier copier' r')
    (hvouched : (r.seeing found).Vouched P)
    (hnew : ∀ h feeder handles, found = some h →
      (r.follow h).Duplicates host caller h feeder handles → P h.session h.slot handles) :
    r'.Vouched P ∧ (copiesIn copier'.calls = copiesIn copier.calls ∨
      ∃ h handles target, found = some h ∧ P h.session h.slot handles ∧
        copiesIn copier'.calls = copiesIn copier.calls ++ [request handles h target]) := by
  have hopened {h : Header} {handles : SlotHandles} {opened : Reader} (hfound : found = some h)
      (hopens : (r.follow h).Opens host caller h handles opened) :
      opened.Vouched P ∧ P h.session h.slot handles := by
    rw [hfound] at hvouched
    have hboth := hopens.vouched hvouched fun feeder hduplicates => by
      rw [r.session_follow h]
      exact hnew h feeder handles hfound hduplicates
    rw [r.session_follow h] at hboth
    exact hboth
  have hasked {h : Header} {handles : SlotHandles} {target : Nat} {between : Copier}
      (hquiet : copiesIn between.calls = copiesIn copier.calls) :
      copiesIn (between.copy (request handles h target)).2.calls =
        copiesIn copier.calls ++ [request handles h target] := by
    rw [between.copiesIn_copy, hquiet]
  cases hkeeps with
  | unseen hfound =>
    rw [hfound] at hvouched
    exact ⟨hvouched, .inl rfl⟩
  | plain hfound =>
    rw [hfound] at hvouched
    exact ⟨hvouched, .inl rfl⟩
  | refused hfound =>
    rw [hfound] at hvouched
    exact ⟨hvouched, .inl rfl⟩
  | noDestination hfound _ _ _ _ hopens _ hquiet => exact ⟨(hopened hfound hopens).1, .inl hquiet⟩
  | @copied h _ handles _ target _ hfound _ _ _ _ hopens _ hquiet =>
    obtain ⟨hkept, hhandles⟩ := hopened hfound hopens
    exact ⟨hkept, .inr ⟨h, handles, target, hfound, hhandles, hasked hquiet⟩⟩
  | @notCopied h _ handles opened target _ hfound _ _ _ _ hopens _ hquiet =>
    obtain ⟨hkept, hhandles⟩ := hopened hfound hopens
    refine ⟨hkept.set _ h.slot none fun _ heq => ?_,
      .inr ⟨h, handles, target, hfound, hhandles, hasked hquiet⟩⟩
    cases heq

end Keeps

/-! ## The result -/

/-- What a read does to the handles of a reader after these reads, and which handles it copies
from. -/
structure Tends (past : List Visit) (v : Visit) (aim : Option Aim) (copier copier' : Copier) :
    Prop where
  /-- The session is that of the header that was copied. -/
  session : v.after.session = (v.found.map Header.session).getD v.before.session
  /-- A header of another session drops the feeder and both slots, -/
  forgets : ∀ h, v.found = some h → h.session ≠ v.before.session →
    v.before.follow h = { fresh with session := h.session }
  /-- also where nothing more comes of it. -/
  useless : ∀ h, v.found = some h → ¬h.Usable → v.after = v.before.follow h
  /-- A header of the same session drops nothing. -/
  stays : ∀ h, v.found = some h → h.session = v.before.session → v.before.follow h = v.before
  /-- Then it goes by what becomes of the header. -/
  keeps : v.before.Keeps v.site.host v.site.caller.pid aim v.found copier copier' v.after
  /-- Both slots hold what was duplicated for them in this session, or nothing. -/
  slots : v.after.Vouched (Duplicated (v :: past))
  /-- So does whatever is copied from. -/
  copies : copiesIn copier'.calls = copiesIn copier.calls ∨
    ∃ h handles target, v.found = some h ∧
      Duplicated (v :: past) h.session h.slot handles ∧
      copiesIn copier'.calls = copiesIn copier.calls ++ [request handles h target]

variable {past : List Visit} {v : Visit}

/-- What was duplicated before is kept in the same session only, so that a read leaves nothing but
handles of its session. -/
theorem Life.vouched_read (hvouched : v.before.Vouched (Duplicated past))
    (hreads : v.Reads aim copier copier') :
    v.after.Vouched (Duplicated (v :: past)) ∧ (copiesIn copier'.calls = copiesIn copier.calls ∨
      ∃ h handles target, v.found = some h ∧ Duplicated (v :: past) h.session h.slot handles ∧
        copiesIn copier'.calls = copiesIn copier.calls ++ [request handles h target]) := by
  have hkeeps := hreads.keeps
  have hsession := hkeeps.session
  have hseeing : (v.before.seeing v.found).Vouched (Duplicated past) := by
    cases v.found with
    | none => exact hvouched
    | some h => exact hvouched.follow h
  refine hkeeps.vouched (hseeing.imp fun slot handles h => h.later hsession) ?_
  intro h feeder handles hfound hduplicates
  refine .now past hfound hduplicates ?_
  rw [hsession, hfound]
  exact v.before.session_follow h

theorem Life.vouched (hlife : Life past r) : r.Vouched (Duplicated past) := by
  induction hlife with
  | fresh => exact vouched_replicate rfl
  | read _ hreads ih => exact (vouched_read ih hreads).1

/-- Whatever stands in the region, a reader copies only from handles that it has duplicated itself
in the session of the header. -/
theorem Life.handlesOfSession (hlife : Life past v.before) (hreads : v.Reads aim copier copier') :
    Tends past v aim copier copier' := by
  have hkeeps := hreads.keeps
  obtain ⟨hslots, hcopies⟩ := vouched_read hlife.vouched hreads
  constructor
  · rw [hkeeps.session, session_seeing]
  · exact fun h _ hother => follow_other hother
  · exact fun h hfound husable => hkeeps.useless hfound husable
  · exact fun h _ hsame => follow_same hsame
  · exact hkeeps
  · exact hslots
  · exact hcopies

/-- A site on which another session publishes the numbers of before, for files that were opened
since. -/
def resampledSite : Site :=
  { CachedReader.sampleSite 1 with
    memory := Header.codec.encode { (Header.ofSession 5 2).publish 5 7 Exchange.sampleFrame.config
      Exchange.sampleFrame.layers 900 901 with frame := 1 }
    host := (Exchange.sample.host.openFile 7 900 "texture").openFile 7 901 "fence" }

/-- The texture of the first session is still at hand when the second one is read, and is not
used. -/
theorem Life.handlesOfSession_reused : ∃ past v copier copier', Life past v.before ∧
    v.Reads (some (.texture 5 1)) copier copier' ∧
    (v.before.slots.get 1).map SlotHandles.texture = some ⟨0, "texture"⟩ ∧
    (copiesIn copier'.calls).map CopyRequest.texture = [⟨0, "texture"⟩, ⟨2, "texture"⟩] ∧
    Tends past v (some (.texture 5 1)) copier copier' := by
  have hplayed : (match Reader.fresh.read .viewer 5 1 .fresh (CachedReader.sampleSite 1) with
      | .ok (_, r, copier) _ =>
        match r.read .viewer 5 1 copier resampledSite with
        | .ok (_, _, copier') _ => some ((r.slots.get 1).map SlotHandles.texture,
          (copiesIn copier'.calls).map CopyRequest.texture)
        | .error _ _ => none
      | .error _ _ => none) = some (some ⟨0, "texture"⟩, [⟨0, "texture"⟩, ⟨2, "texture"⟩]) := by
    decide +kernel
  split at hplayed
  · next shown r copier s' hfirst =>
    split at hplayed
    · next shown' r' copier' s'' hsecond =>
      rw [Option.some.injEq, Prod.mk.injEq] at hplayed
      obtain ⟨hbefore, hcopied⟩ := hplayed
      let copied (s : Site) : Option Header := headerOf ((do see .viewer; header .blocking) s)
      let published := CachedReader.sampleSite 1
      let first : Visit := ⟨published, copied published, Reader.fresh, r⟩
      have hlife : Life [first] r := .read .fresh (.read (v := first) rfl hfirst)
      let second : Visit := ⟨resampledSite, copied resampledSite, r, r'⟩
      have hreads : second.Reads (some (.texture 5 1)) copier copier' := .read rfl hsecond
      exact ⟨[first], second, copier, copier', hlife, hreads, hbefore, hcopied,
        hlife.handlesOfSession hreads⟩
    · cases hplayed
  · cases hplayed

end Reader

end FrameExchange
