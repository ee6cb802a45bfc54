import FrameExchange.Proofs.Sessions

/-!
# Which headers a reader has seen

A read copies the header out under the lock, unless it does not get the lock or does not ask for
it. Here is the header of every such copy, and what the reader knows after it: its session is that
of the last header it copied, and what a cached reader shows is a picture of the header it copied
in this very call, or the snapshot that it kept.

- `Client.copying`, `Deed.captured` — the part of a call that copies the header, and its outcome.
- `Reader.Follows` — what the call makes of its reader.
- `CachedReader.Serves` — what a read through a cache shows and keeps.
- `AsksFor`, `Deed.Valid.asks` — copies are made of the header that was copied in the same call.
- `Deed.Sees` — a header that came out of a step; it is the one in the region then.
- `Deed.Valid.tends` — where a cached reader that is there after a step comes from.
-/

namespace FrameExchange

open Act

/-! ## Copying the header -/

/-- The header that an operation has come to, if it has come to one. -/
def headerOf : EStateM.Result Failure Site (Option Header) → Option Header
  | .ok header _ => header
  | .error _ _ => none

theorem of_headerOf {result : EStateM.Result Failure Site (Option Header)} {h : Header}
    (hfound : headerOf result = some h) : ∃ s, result = .ok (some h) s := by
  cases result with
  | ok found s => exact ⟨s, by rw [show found = some h from hfound]⟩
  | error failure s => cases hfound

instance (c : CachedReader) (key : FrameKey) : Decidable (c.Hits key) :=
  inferInstanceAs (Decidable (_ ∧ _))

/-- The part of a call that copies the header under the lock, where the call comes to it. A cached
reader peeks at the header `h` before: it asks for no copy without a feeder, without places for
textures, or where it has the frame already. -/
def Client.copying (c : Client) (h : Header) : Call → Option (Act (Option Header))
  | .read kind .. | .readMetadata kind =>
    match c.body with
    | .reader _ => some (do see kind; Reader.header .blocking)
    | _ => none
  | .get _ =>
    match c.body with
    | .cached cached _ =>
      if h.hasFeeder ∧ cached.ring ≠ [] ∧ ¬cached.Hits h.key then
        some (do see cached.kind; Reader.header .attempt)
      else none
    | _ => none
  | .getMetadata =>
    match c.body with
    | .cached cached _ => some (do see cached.kind; Reader.header .attempt)
    | _ => none
  | _ => none

/-- The header that a call copies on this site. -/
def Client.captured (c : Client) (s : Site) (call : Call) : Option Header :=
  (c.copying (Memory.load s.memory) call).bind fun copy => headerOf (copy s)

/-- The header that was copied in a step by the reader with this number. -/
def Deed.captured (d : Deed) (id : Nat) : Option Header :=
  match d.move with
  | .call used call =>
    if used = id then
      (d.before.clients.get? id).bind fun c => c.captured (d.before.site d.thread c.book) call
    else none
  | _ => none

/-- Every copy that is asked for is one of the header that was copied, and waits for the fence value
that this header has for its frame. -/
def AsksFor (found : Option Header) (requests : List CopyRequest) : Prop :=
  ∀ request ∈ requests, ∃ h, found = some h ∧ h.Usable ∧ h.layers ≠ [] ∧
    request.value = h.fenceValue h.slot

theorem AsksFor.nothing (found : Option Header) : AsksFor found [] :=
  fun _ hmem => by cases hmem

/-- This is the header in the memory, and the lock over it was not left behind. -/
def Site.Holds (s : Site) (h : Header) : Prop :=
  Memory.load s.memory = h ∧ s.mutex.holding ≠ .orphaned

theorem Site.Holds.still {s s' : Site} {h : Header} (hholds : s.Holds h) (hstill : s.Still s') :
    s'.Holds h := by
  rw [Holds, hstill.memory, hstill.mutex]
  exact hholds

namespace Reader

variable {r r' : Reader} {mode : LockMode} {s s' : Site} {h : Header}

/-- A reader between two calls, whose guards are those of the owner of the lock. -/
structure Sure (s : Site) : Prop extends Tidy s where
  owned : ∀ mode, s.Obtains mode → s.mutex.holding ≠ .orphaned

theorem Sure.still (hsure : Sure s) (hstill : s.Still s') : Sure s' := by
  refine ⟨hsure.toTidy.still hstill, fun mode hobtains => ?_⟩
  rw [hstill.mutex]
  exact hsure.owned mode (hstill.obtains.mp hobtains)

/-- What is copied is in the memory then, be it the header of a session that was just begun. -/
theorem header_current (hsure : Sure s) (hheader : header mode s = .ok (some h) s') :
    s'.Holds h := by
  have hglimpses := glimpses mode hsure.toTidy
  rw [hheader] at hglimpses
  cases hglimpses with
  | seen hobtains => exact ⟨rfl, hsure.owned mode hobtains⟩
  | recovered _ hrestarted =>
    refine ⟨rfl, ?_⟩
    rw [hrestarted.mutex]
    exact fun heq => by cases heq

/-- A reader follows the header that it has copied, whether or not it can be used. -/
theorem captureOrEmpty_seen (r : Reader) (hheader : header mode s = .ok (some h) s') :
    ∃ s'', s'.Still s'' ∧
      (h.Usable ∧ r.captureOrEmpty mode s = .ok (.frame h, r.follow h) s'' ∨
        ¬h.Usable ∧ r.captureOrEmpty mode s = .ok (.empty, r.follow h) s'') := by
  obtain ⟨s'', hstill, ⟨husable, hcapture⟩ | ⟨husable, hcapture⟩⟩ := r.capture_seen hheader
  · refine ⟨s'', hstill, .inl ⟨husable, ?_⟩⟩
    rw [captureOrEmpty, bind_ok (attempt_ok hcapture)]
    rfl
  · refine ⟨s'', hstill, .inr ⟨husable, ?_⟩⟩
    rw [captureOrEmpty, bind_ok (attempt_ok hcapture)]
    rfl

/-- Without a copy the reader stays as it is. -/
theorem captureOrEmpty_unseen (r : Reader) (hnone : headerOf (header mode s) = none) :
    (∃ capture s', r.captureOrEmpty mode s = .ok (capture, r) s' ∧ ∀ h, capture ≠ .frame h) ∨
      ∃ failure s', r.captureOrEmpty mode s = .error failure s' := by
  cases hheader : header mode s with
  | ok found t =>
    rw [hheader] at hnone
    cases hnone
    have hcapture : r.capture mode s = .ok (.busy, r) t := by
      rw [capture, bind_ok hheader]
      rfl
    refine .inl ⟨.busy, t, ?_, fun h heq => by cases heq⟩
    rw [captureOrEmpty, bind_ok (attempt_ok hcapture)]
    rfl
  | error failure t =>
    have hcapture : r.capture mode s = .error failure t := by rw [capture, bind_error hheader]
    rw [captureOrEmpty, bind_ok (attempt_error hcapture)]
    cases failure with
    | error e => exact .inl ⟨.empty, _, rfl, fun h heq => by cases heq⟩
    | violation v => exact .inr ⟨_, t, rfl⟩
    | blocked => exact .inr ⟨_, t, rfl⟩

/-- How the copy of the header can end for a read that goes on. -/
inductive Grasps (r : Reader) (mode : LockMode) (s s' : Site) : Capture → Reader → Prop where
  | frame {h : Header} {t : Site} : header mode s = .ok (some h) t → t.Still s' → h.Usable →
      Grasps r mode s s' (.frame h) (r.follow h)
  | useless {h : Header} {t : Site} : header mode s = .ok (some h) t → t.Still s' → ¬h.Usable →
      Grasps r mode s s' .empty (r.follow h)
  | nothing {capture : Capture} : headerOf (header mode s) = none → (∀ h, capture ≠ .frame h) →
      Grasps r mode s s' capture r

theorem grasps {capture : Capture}
    (hcapture : r.captureOrEmpty mode s = .ok (capture, r') s') :
    Grasps r mode s s' capture r' := by
  cases hfound : headerOf (header mode s) with
  | none =>
    rcases r.captureOrEmpty_unseen hfound with ⟨other, t, hother, hnone⟩ | ⟨failure, t, hother⟩
    · cases hother.symm.trans hcapture
      exact .nothing hfound hnone
    · cases hother.symm.trans hcapture
  | some h =>
    obtain ⟨t, hheader⟩ := of_headerOf hfound
    obtain ⟨u, hstill, ⟨husable, hseen⟩ | ⟨husable, hseen⟩⟩ := r.captureOrEmpty_seen hheader
    · cases hseen.symm.trans hcapture
      exact .frame hheader hstill husable
    · cases hseen.symm.trans hcapture
      exact .useless hheader hstill husable

/-- The same with what the header is to the memory. -/
inductive Catches (r : Reader) (found : Option Header) (s' : Site) : Capture → Reader → Prop where
  | frame {h : Header} : found = some h → s'.Holds h → h.Usable →
      Catches r found s' (.frame h) (r.follow h)
  | useless {h : Header} : found = some h → s'.Holds h → ¬h.Usable →
      Catches r found s' .empty (r.follow h)
  | nothing {capture : Capture} : found = none → (∀ h, capture ≠ .frame h) →
      Catches r found s' capture r

theorem catches {capture : Capture} (hsure : Sure s)
    (hcapture : r.captureOrEmpty mode s = .ok (capture, r') s') :
    Catches r (headerOf (header mode s)) s' capture r' := by
  cases grasps hcapture with
  | frame hheader hstill husable =>
    exact .frame (by rw [hheader]; rfl) ((header_current hsure hheader).still hstill) husable
  | useless hheader hstill husable =>
    exact .useless (by rw [hheader]; rfl) ((header_current hsure hheader).still hstill) husable
  | nothing hmissed hnone => exact .nothing hmissed hnone

/-- To make a snapshot of a header does not change the session of the reader. -/
theorem Resolves.session {host : Host} {caller : UInt32} {gpu : UInt64} {destination : Destination}
    {copier copier' : Copier} {snapshot : Snapshot}
    (hresolves : Resolves r host caller gpu h destination copier snapshot r' copier') :
    r'.session = r.session := by
  cases hresolves with
  | incorrectGpu => rfl
  | noLayers => rfl
  | noHandles => rfl
  | noDestination _ _ hfound => exact (finds hfound).session
  | copied _ _ hfound => exact (finds hfound).session
  | notCopied _ _ hfound => exact (finds hfound).session

/-- A snapshot of a header is made with a copy of this header, or without any. -/
theorem Resolves.asksFor {host : Host} {caller : UInt32} {gpu : UInt64} {destination : Destination}
    {copier copier' : Copier} {snapshot : Snapshot} {found : Option Header}
    (hresolves : Resolves r host caller gpu h destination copier snapshot r' copier')
    (hplain : destination.Plain) (hcalls : copier.calls = []) (hfound : found = some h)
    (husable : h.Usable) : AsksFor found (copiesIn copier'.calls) := by
  have hnone : copiesIn copier.calls = [] := by rw [hcalls]; rfl
  rcases hresolves.copies hplain with hsame | ⟨hlayers, handles, _, target, -, hcopied⟩
  · rw [hsame, hnone]
    exact .nothing found
  · rw [hcopied, hnone]
    intro request hmem
    cases List.mem_singleton.mp hmem
    exact ⟨h, hfound, husable, hlayers, rfl⟩

/-! ## Whole reads -/

/-- What a read makes of its reader. Its session is that of the header it has copied, which is the
one in the memory; without a copy it stays. -/
structure Follows (r : Reader) (found : Option Header) (s' : Site) (r' : Reader) : Prop where
  session : r'.session = (found.map Header.session).getD r.session
  current : ∀ h, found = some h → s'.Holds h

/-- A reader after it has seen a header, whatever it made of it. -/
theorem Follows.seen {found : Option Header} (hfound : found = some h)
    (hcurrent : s'.Holds h) (hsession : r'.session = h.session) :
    r.Follows found s' r' := by
  refine ⟨?_, fun other hother => ?_⟩
  · rw [hfound]
    exact hsession
  · rw [hfound] at hother
    cases hother
    exact hcurrent

theorem Follows.unseen {found : Option Header} (hnone : found = none) :
    r.Follows found s' r := by
  refine ⟨?_, fun other hother => ?_⟩
  · rw [hnone]
    rfl
  · rw [hnone] at hother
    cases hother

/-- What is done with a header that was caught does not matter to what the reader knows. -/
theorem Catches.follows {found : Option Header} {capture : Capture} {s'' : Site}
    (hcatches : r.Catches found s' capture r') (hstill : s'.Still s'') {r'' : Reader}
    (hsession : r''.session = r'.session) : r.Follows found s'' r'' := by
  cases hcatches with
  | frame hfound hcurrent =>
    exact .seen hfound (hcurrent.still hstill) (hsession.trans (r.session_follow _))
  | useless hfound hcurrent =>
    exact .seen hfound (hcurrent.still hstill) (hsession.trans (r.session_follow _))
  | nothing hnone =>
    obtain ⟨hsame, hcurrent⟩ : r.Follows found s'' r := .unseen hnone
    exact ⟨hsession.trans hsame, hcurrent⟩

theorem read_follows {kind : ConsumerKind} {gpu : UInt64} {target : Nat} {copier copier' : Copier}
    {snapshot : Snapshot} (hsure : Sure s) (hcalls : copier.calls = [])
    (hread : r.read kind gpu target copier s = .ok (snapshot, r', copier') s') :
    r.Follows (headerOf ((do see kind; header .blocking) s)) s' r' ∧
      AsksFor (headerOf ((do see kind; header .blocking) s)) (copiesIn copier'.calls) := by
  have hquiet (found : Option Header) : AsksFor found (copiesIn copier.calls) := by
    rw [hcalls]
    exact .nothing found
  have hsure' := hsure.still (see_still kind s)
  rw [read, bind_ok (see_ok kind s)] at hread
  rw [bind_ok (see_ok kind s)]
  cases hcapture : r.captureOrEmpty .blocking { s with host := s.host.see s.caller.pid kind } with
  | error failure t =>
    rw [bind_error hcapture] at hread
    cases hread
  | ok caught t =>
    obtain ⟨capture, reader⟩ := caught
    have hcatches := catches hsure' hcapture
    rw [bind_ok hcapture] at hread
    cases capture with
    | busy =>
      cases hread
      exact ⟨hcatches.follows (.refl _) rfl, hquiet _⟩
    | empty =>
      cases hread
      exact ⟨hcatches.follows (.refl _) rfl, hquiet _⟩
    | frame h =>
      obtain ⟨snapshot', reader', copier'', u, hstill, hresolves, hrest⟩ :=
        reader.resolves gpu h target copier t
      replace hread := hrest.symm.trans hread
      cases hread
      refine ⟨hcatches.follows hstill hresolves.session, ?_⟩
      cases hcatches with
      | frame hfound _ husable => exact hresolves.asksFor (fun _ => rfl) hcalls hfound husable
      | nothing _ hno => exact absurd rfl (hno h)

theorem metadataSnapshot_follows {kind : ConsumerKind} {snapshot : Snapshot} (hsure : Sure s)
    (hread : (do see kind; r.metadataSnapshot mode) s = .ok (snapshot, r') s') :
    r.Follows (headerOf ((do see kind; header mode) s)) s' r' := by
  have hsure' := hsure.still (see_still kind s)
  rw [bind_ok (see_ok kind s), metadataSnapshot] at hread
  rw [bind_ok (see_ok kind s)]
  cases hcapture : r.captureOrEmpty mode { s with host := s.host.see s.caller.pid kind } with
  | error failure t =>
    rw [bind_error hcapture] at hread
    cases hread
  | ok caught t =>
    obtain ⟨capture, reader⟩ := caught
    have hcatches := catches hsure' hcapture
    rw [bind_ok hcapture] at hread
    cases capture with
    | busy =>
      cases hread
      exact hcatches.follows (.refl _) rfl
    | empty =>
      cases hread
      exact hcatches.follows (.refl _) rfl
    | frame h =>
      cases hread
      exact hcatches.follows (.refl _) rfl

end Reader

namespace CachedReader

open Reader

variable {c c' : CachedReader} {s s' : Site} {snapshot : Snapshot}

/-- The header that a read through a cache copies on this site. -/
def copied (c : CachedReader) (s : Site) : Option Header :=
  if (Memory.load s.memory).hasFeeder ∧ c.ring ≠ [] ∧ ¬c.Hits (Memory.load s.memory).key then
    headerOf ((do see c.kind; Reader.header .attempt) s)
  else none

/-- A read that is no hit copies what is there once the consumer was remembered. -/
theorem copied_eq (hfeeder : (Memory.load s.memory).hasFeeder = true) (hring : c.ring ≠ [])
    (hmiss : ¬c.Hits (Memory.load s.memory).key) : c.copied s =
      headerOf (Reader.header .attempt { s with host := s.host.see s.caller.pid c.kind }) := by
  rw [copied, if_pos ⟨hfeeder, hring, hmiss⟩, bind_ok (see_ok c.kind s)]

/-- A read that is over before it would ask for the lock copies nothing. -/
theorem copied_eq_none (hnone : (Memory.load s.memory).hasFeeder = false ∨ c.ring = [] ∨
    c.Hits (Memory.load s.memory).key) : c.copied s = none := by
  refine if_neg ?_
  rintro ⟨hfeeder, hring, hmiss⟩
  rcases hnone with hdetached | hempty | hhit
  · rw [hdetached] at hfeeder
    cases hfeeder
  · exact hring hempty
  · exact hmiss hhit

/-- What a read through a cache shows and keeps when it has copied this header, or none. -/
inductive Serves (c : CachedReader) (found : Option Header) : Snapshot → CachedReader → Prop where
  /-- There is no feeder. -/
  | detached : found = none → Serves c found .empty { c with cache := .empty }
  | noRing : found = none → Serves c found .empty c
  /-- The frame is at hand, or there was nothing to be had. -/
  | again : found = none → Serves c found c.cache c
  | useless {h : Header} : found = some h → ¬h.Usable →
      Serves c found c.cache { c with reader := c.reader.follow h }
  /-- A picture of the header, or the reason why there is none. -/
  | fresh {h : Header} {snapshot : Snapshot} {reader : Reader} {ring : List (Option RingTexture)} :
      found = some h → h.Usable → reader.session = h.session → snapshot ≠ .empty →
      (snapshot.isValid = true → snapshot.header? = some h) →
      Serves c found snapshot (c.after reader ring snapshot)

theorem cache_after (c : CachedReader) (reader : Reader) (ring : List (Option RingTexture))
    (snapshot : Snapshot) :
    (c.after reader ring snapshot).cache = if snapshot.isValid then snapshot else c.cache := by
  rw [after]
  split <;> rfl

/-- A frame that is shown is kept. -/
theorem Serves.cache_eq {found : Option Header} (hserves : c.Serves found snapshot c')
    (hvalid : snapshot.isValid = true) : c'.cache = snapshot := by
  cases hserves with
  | detached => cases hvalid
  | noRing => cases hvalid
  | again => rfl
  | useless => rfl
  | fresh => rw [cache_after, if_pos hvalid]

/-- A frame that is kept was kept before, or it is a picture of the header that was copied. -/
theorem Serves.cache {found : Option Header} (hserves : c.Serves found snapshot c')
    (hkept : c'.cache.isValid = true) :
    c'.cache = c.cache ∨ ∃ h, found = some h ∧ c'.cache.header? = some h := by
  cases hserves with
  | detached => cases hkept
  | noRing => exact .inl rfl
  | again => exact .inl rfl
  | useless => exact .inl rfl
  | @fresh h snapshot reader ring hfound _ _ _ hpicture =>
    rw [cache_after] at hkept ⊢
    split
    · next hvalid => exact .inr ⟨h, hfound, hpicture hvalid⟩
    · exact .inl rfl

/-- A read that is no hit shows a picture of what it copies, or what it kept. -/
theorem look_serves {copier copier' : Copier} (hsure : Sure s) (hcalls : copier.calls = [])
    (hlook : c.look copier s = .ok (snapshot, c', copier') s') :
    c.Serves (headerOf (Reader.header .attempt s)) snapshot c' ∧
      c.reader.Follows (headerOf (Reader.header .attempt s)) s' c'.reader ∧
      AsksFor (headerOf (Reader.header .attempt s)) (copiesIn copier'.calls) := by
  have hquiet (found : Option Header) : AsksFor found (copiesIn copier.calls) := by
    rw [hcalls]
    exact .nothing found
  cases hcapture : c.reader.captureOrEmpty .attempt s with
  | error failure t =>
    rw [look, captureFrame, bind_error (bind_error hcapture)] at hlook
    cases hlook
  | ok caught t =>
    obtain ⟨capture, reader⟩ := caught
    have hcatches := catches hsure hcapture
    have hnone (hno : ∀ h, capture ≠ .frame h) :
        snapshot = c.cache ∧ c' = { c with reader } ∧ s' = t ∧ copier' = copier := by
      rw [look, bind_ok (c.captureFrame_none hcapture hno)] at hlook
      cases hlook
      exact ⟨rfl, rfl, rfl, rfl⟩
    cases hcatches with
    | frame hfound hcurrent husable =>
      obtain ⟨shown, reader', ring, copier'', u, hstill, hresolves, hrest⟩ :=
        c.look_frame copier hcapture
      cases hrest.symm.trans hlook
      have hsession := hresolves.session.trans (c.reader.session_follow _)
      refine ⟨.fresh hfound husable hsession hresolves.ne_empty fun hvalid => ?_, ?_,
        hresolves.asksFor (c.destination_plain _) hcalls hfound husable⟩
      · rcases hresolves.depicts.2 with rfl | rfl | hdepicts
        · cases hvalid
        · cases hvalid
        · exact hdepicts.header
      · rw [reader_after]
        exact .seen hfound (hcurrent.still hstill) hsession
    | useless hfound hcurrent husable =>
      obtain ⟨rfl, rfl, rfl, rfl⟩ := hnone fun h heq => by cases heq
      exact ⟨.useless hfound husable, .seen hfound hcurrent (c.reader.session_follow _), hquiet _⟩
    | nothing hmissed hno =>
      obtain ⟨rfl, rfl, rfl, rfl⟩ := hnone hno
      exact ⟨.again hmissed, .unseen hmissed, hquiet _⟩

theorem get_serves {copier copier' : Copier} (hsure : Sure s) (hcalls : copier.calls = [])
    (hget : c.get copier s = .ok (snapshot, c', copier') s') :
    c.Serves (c.copied s) snapshot c' ∧ c.reader.Follows (c.copied s) s' c'.reader ∧
      AsksFor (c.copied s) (copiesIn copier'.calls) := by
  have hquiet (found : Option Header) : AsksFor found (copiesIn copier.calls) := by
    rw [hcalls]
    exact .nothing found
  have hpeeks := c.peeks copier s
  generalize c.get copier s = result at hget hpeeks
  cases hpeeks with
  | detached hfeeder =>
    have hnone : c.copied s = none := copied_eq_none (.inl hfeeder)
    cases hget
    exact ⟨.detached hnone, .unseen hnone, hquiet _⟩
  | noRing hring =>
    have hnone : c.copied s = none := copied_eq_none (.inr (.inl hring))
    cases hget
    exact ⟨.noRing hnone, .unseen hnone, hquiet _⟩
  | hit _ hhit =>
    have hnone : c.copied s = none := copied_eq_none (.inr (.inr hhit))
    cases hget
    exact ⟨.again hnone, .unseen hnone, hquiet _⟩
  | looks hfeeder hring hmiss =>
    rw [copied_eq hfeeder hring hmiss]
    exact look_serves (hsure.still (see_still c.kind s)) hcalls hget

end CachedReader

/-! ## Calls -/

namespace Client

variable {c : Client} {s s' : Site} {call : Call}

/-- What a call makes of its object, when its reader has copied this header, or none. -/
inductive Learns (c : Client) (call : Call) (found : Option Header) (s' : Site) :
    Answer → Body → Prop where
  | nothing {answer : Answer} : found = none → answer.shows = false →
      Learns c call found s' answer c.body
  | read {r r' : Reader} (answer : Answer) : c.body = .reader r → r.Follows found s' r' →
      AsksFor found answer.copies →
      Learns c call found s' answer (.reader r')
  | restart {cached : CachedReader} {number : Nat} (gpu : UInt64) (length : UInt8) :
      c.body = .cached cached number → found = none →
      Learns c call found s' .done (.cached (cached.restart gpu length) number)
  | get {cached cached' : CachedReader} {number : Nat} {copier : Copier} {snapshot : Snapshot}
      (calls : List CopierCall) : call = .get copier → c.body = .cached cached number →
      cached.Serves found snapshot cached' → cached.reader.Follows found s' cached'.reader →
      AsksFor found (copiesIn calls) →
      Learns c call found s' (.shown snapshot calls) (.cached cached' number)
  | getMetadata {cached : CachedReader} {reader : Reader} {number : Nat} (answer : Answer) :
      call = .getMetadata → c.body = .cached cached number →
      cached.reader.Follows found s' reader → answer.copies = [] →
      Learns c call found s' answer (.cached { cached with reader } number)

/-- Only calls from which readers learn copy the header for them. -/
theorem captured_eq_none (hlearns : call.learns = false) : c.captured s call = none := by
  cases call <;> first | rfl | cases hlearns

theorem captured_get {cached : CachedReader} {number : Nat} (copier : Copier)
    (hbody : c.body = .cached cached number) :
    c.captured s (.get copier) = cached.copied s := by
  rw [captured, copying, hbody, CachedReader.copied]
  dsimp only
  split <;> rfl

/-- The other calls leave the object as it is. -/
theorem learns_nothing {operation : Act (Answer × Body)} {answer : Answer} {body : Body}
    (hlen : Header.byteSize ≤ s.memory.length) (hsettled : c.Settled) (hbook : s.book = c.book)
    (hoperation : c.operation call = some operation) (hcall : call.learns = false)
    (hresult : operation s = .ok (answer, body) s') :
    c.Learns call (c.captured s call) s' answer body := by
  have heffects := Client.effects hsettled hbook hlen hoperation
  rw [hresult] at heffects
  cases heffects with
  | ok _ hbecomes =>
    obtain ⟨hbody, hshows⟩ : body = c.body ∧ answer.shows = false := by
      generalize c.body = before at hbecomes
      cases hbecomes with
      | same _ _ hshows => exact ⟨rfl, hshows⟩
      | failed => exact ⟨rfl, rfl⟩
      | _ => cases hcall
    rw [hbody]
    exact .nothing (captured_eq_none hcall) hshows

/-- Every call that comes to an answer. -/
theorem learns {operation : Act (Answer × Body)} {answer : Answer} {body : Body}
    (hlen : Header.byteSize ≤ s.memory.length) (hsettled : c.Settled) (hbook : s.book = c.book)
    (howned : ∀ mode, s.Obtains mode → s.mutex.holding ≠ .orphaned)
    (hoperation : c.operation call = some operation)
    (hresult : operation s = .ok (answer, body) s') :
    c.Learns call (c.captured s call) s' answer body := by
  have hsure (hreader : c.body.role = .reader) : Reader.Sure s :=
    ⟨hsettled.tidy hbook hreader, howned⟩
  cases call with
  | read kind gpu target copier =>
    cases hbody : c.body with
    | reader r =>
      simp only [Client.operation, hbody, Option.some.injEq] at hoperation
      have hfound : c.captured s (.read kind gpu target copier) =
          headerOf ((do see kind; Reader.header .blocking) s) := by
        rw [captured, copying, hbody]
        rfl
      subst hoperation
      cases hread : r.read kind gpu target copier.looked s with
      | ok a t =>
        rw [Reader.answerRead, bind_ok hread] at hresult
        cases hresult
        rw [hfound]
        obtain ⟨hfollows, hasks⟩ := Reader.read_follows (hsure (by rw [hbody]; rfl)) rfl hread
        exact .read _ hbody hfollows hasks
      | error failure t =>
        rw [Reader.answerRead, bind_error hread] at hresult
        cases hresult
    | _ => simp [Client.operation, hbody] at hoperation
  | readMetadata kind =>
    cases hbody : c.body with
    | reader r =>
      simp only [Client.operation, hbody, Option.some.injEq] at hoperation
      have hfound : c.captured s (.readMetadata kind) =
          headerOf ((do see kind; Reader.header .blocking) s) := by
        rw [captured, copying, hbody]
        rfl
      subst hoperation
      cases hread : r.readMetadata kind s with
      | ok a t =>
        rw [Reader.answerMetadata, bind_ok hread] at hresult
        cases hresult
        rw [hfound]
        have hfollows := Reader.metadataSnapshot_follows (hsure (by rw [hbody]; rfl)) hread
        exact .read _ hbody hfollows (.nothing _)
      | error failure t =>
        rw [Reader.answerMetadata, bind_error hread] at hresult
        cases hresult
    | _ => simp [Client.operation, hbody] at hoperation
  | restart gpu length =>
    cases hbody : c.body with
    | cached cached number =>
      simp only [Client.operation, hbody, Option.some.injEq] at hoperation
      subst hoperation
      cases hresult
      exact .restart gpu length hbody rfl
    | _ => simp [Client.operation, hbody] at hoperation
  | get copier =>
    cases hbody : c.body with
    | cached cached number =>
      simp only [Client.operation, hbody, Option.some.injEq] at hoperation
      subst hoperation
      cases hget : cached.get copier.looked s with
      | ok a t =>
        rw [CachedReader.answerGet, bind_ok hget] at hresult
        cases hresult
        rw [captured_get copier hbody]
        obtain ⟨hserves, hfollows, hasks⟩ :=
          CachedReader.get_serves (hsure (by rw [hbody]; rfl)) rfl hget
        exact .get _ rfl hbody hserves hfollows hasks
      | error failure t =>
        rw [CachedReader.answerGet, bind_error hget] at hresult
        cases hresult
    | _ => simp [Client.operation, hbody] at hoperation
  | getMetadata =>
    cases hbody : c.body with
    | cached cached number =>
      simp only [Client.operation, hbody, Option.some.injEq] at hoperation
      have hfound : c.captured s .getMetadata =
          headerOf ((do see cached.kind; Reader.header .attempt) s) := by
        rw [captured, copying, hbody]
        rfl
      subst hoperation
      rw [CachedReader.answerMetadata_eq] at hresult
      cases hread : (do see cached.kind; cached.reader.metadataSnapshot .attempt) s with
      | ok a t =>
        rw [bind_ok hread] at hresult
        cases hresult
        rw [hfound]
        exact .getMetadata _ rfl hbody
          (Reader.metadataSnapshot_follows (hsure (by rw [hbody]; rfl)) hread) rfl
      | error failure t =>
        rw [bind_error hread] at hresult
        cases hresult
    | _ => simp [Client.operation, hbody] at hoperation
  | _ => exact learns_nothing hlen hsettled hbook hoperation rfl hresult

/-- A call that fails, other than by waiting, has copied no header. -/
theorem captured_failed {operation : Act (Answer × Body)} {failure : Failure}
    (hresting : c.body.role = .reader → Reader.Resting s)
    (hoperation : c.operation call = some operation) (hresult : operation s = .error failure s')
    (hwaited : failure ≠ .blocked) : c.captured s call = none := by
  cases call with
  | read kind gpu target copier =>
    cases hbody : c.body with
    | reader r =>
      simp only [Client.operation, hbody, Option.some.injEq] at hoperation
      subst hoperation
      cases hread : r.read kind gpu target copier.looked s with
      | ok a t =>
        rw [Reader.answerRead, bind_ok hread] at hresult
        cases hresult
      | error other t =>
        rw [Reader.answerRead, bind_error hread] at hresult
        cases hresult
        exact absurd (Reader.read_error (hresting (by rw [hbody]; rfl)) hread).1 hwaited
    | _ => simp [Client.operation, hbody] at hoperation
  | readMetadata kind =>
    cases hbody : c.body with
    | reader r =>
      simp only [Client.operation, hbody, Option.some.injEq] at hoperation
      subst hoperation
      cases hread : r.readMetadata kind s with
      | ok a t =>
        rw [Reader.answerMetadata, bind_ok hread] at hresult
        cases hresult
      | error other t =>
        rw [Reader.answerMetadata, bind_error hread] at hresult
        cases hresult
        exact absurd (Reader.metadataSnapshot_error (hresting (by rw [hbody]; rfl)) hread).1 hwaited
    | _ => simp [Client.operation, hbody] at hoperation
  | get copier =>
    cases hbody : c.body with
    | cached cached number =>
      simp only [Client.operation, hbody, Option.some.injEq] at hoperation
      subst hoperation
      obtain ⟨a, t, hget⟩ := cached.get_ok copier.looked (hresting (by rw [hbody]; rfl))
      rw [CachedReader.answerGet, bind_ok hget] at hresult
      cases hresult
    | _ => simp [Client.operation, hbody] at hoperation
  | getMetadata =>
    cases hbody : c.body with
    | cached cached number =>
      simp only [Client.operation, hbody, Option.some.injEq] at hoperation
      subst hoperation
      rw [CachedReader.answerMetadata_eq] at hresult
      cases hread : (do see cached.kind; cached.reader.metadataSnapshot .attempt) s with
      | ok a t =>
        rw [bind_ok hread] at hresult
        cases hresult
      | error other t =>
        rw [bind_error hread] at hresult
        cases hresult
        exact absurd (Reader.metadataSnapshot_error (hresting (by rw [hbody]; rfl)) hread).1 hwaited
    | _ => simp [Client.operation, hbody] at hoperation
  | _ => rfl

end Client

/-! ## Steps -/

namespace Exchange

variable {x y : Exchange} {thread : Thread} {id : Nat} {call : Call} {answer : Answer}

/-- Nobody gets a guard of a lock that was left behind, other than by taking it. -/
theorem Ordered.owned {c : Client} (hordered : x.Ordered) (halive : thread ∉ x.dead)
    (hclient : x.clients.get? id = some c) (mode : LockMode)
    (hobtains : (x.site thread c.book).Obtains mode) : x.mutex.holding ≠ .orphaned := by
  intro horphaned
  obtain ⟨hmine, hdepth | ⟨-, hfree⟩⟩ := Site.obtains_iff.mp hobtains
  · have hguard := (hordered.settled id c hclient).guardOf hdepth hmine
    exact hordered.not_guardOf horphaned halive hclient hguard
  · replace hfree : x.mutex.holding = .free := hfree
    rw [horphaned] at hfree
    cases hfree

/-- What a call of an object makes of it. -/
theorem Ordered.step_learns (hordered : x.Ordered)
    (hstep : x.step thread (.call id call) = some (answer, y)) : ∃ c body s' token,
      x.clients.get? id = some c ∧ y = (x.leave s').put id ⟨body, s'.book, token⟩ ∧
      c.Learns call (c.captured (x.site thread c.book) call) s' answer body := by
  obtain ⟨halive, c, operation, hclient, -, hoperation, hends⟩ := step_ends hstep
  have hresting (hreader : c.body.role = .reader) : Reader.Resting (x.site thread c.book) :=
    hordered.toShielded.resting thread hclient hreader
  generalize hresult : operation (x.site thread c.book) = result at hends
  cases hends with
  | ok =>
    have hlearns := Client.learns (s := x.site thread c.book) hordered.length
      (hordered.settled id c hclient) rfl (hordered.owned halive hclient) hoperation hresult
    exact ⟨c, _, _, _, hclient, rfl, hlearns⟩
  | error hwaited =>
    have hnone := Client.captured_failed hresting hoperation hresult hwaited
    exact ⟨c, _, _, _, hclient, rfl, .nothing hnone rfl⟩

end Exchange

/-- The key of a snapshot is that of its header. -/
theorem Snapshot.key_of_header {snapshot : Snapshot} {h : Header}
    (hheader : snapshot.header? = some h) : snapshot.key = h.key := by
  rw [Snapshot.key, hheader]
  rfl

/-- The step is a read through the cache of the object with this number, and shows this. -/
def Deed.Gets (d : Deed) (id : Nat) (snapshot : Snapshot) : Prop :=
  ∃ copier calls, d.move = .call id (.get copier) ∧ d.answer = .shown snapshot calls

/-- What a step does to a cached reader. -/
inductive Deed.Tends (d : Deed) (id : Nat) (c : CachedReader) : CachedReader → Prop where
  | same : d.captured id = none → (∀ snapshot, ¬d.Gets id snapshot) → d.Tends id c c
  | restarted (gpu : UInt64) (length : UInt8) : d.captured id = none →
      (∀ snapshot, ¬d.Gets id snapshot) → d.Tends id c (c.restart gpu length)
  | looked {reader : Reader} : (∀ snapshot, ¬d.Gets id snapshot) →
      reader.session = ((d.captured id).map Header.session).getD c.reader.session →
      d.Tends id c { c with reader }
  | served {snapshot : Snapshot} {c' : CachedReader} : d.Gets id snapshot →
      c.Serves (d.captured id) snapshot c' →
      c'.reader.session = ((d.captured id).map Header.session).getD c.reader.session →
      d.Tends id c c'

namespace Deed

variable {d : Deed} {id : Nat}

/-- A frame that is kept after a step was kept before, or was copied in this step. -/
theorem Tends.cache {c c' : CachedReader} (htends : d.Tends id c c')
    (hkept : c'.cache.isValid = true) :
    c'.cache = c.cache ∨ ∃ h, d.captured id = some h ∧ c'.cache.header? = some h := by
  cases htends with
  | same => exact .inl rfl
  | restarted => cases hkept
  | looked => exact .inl rfl
  | served _ hserves => exact hserves.cache hkept

/-- A call copies the header for its own reader only. -/
theorem captured_call {c : Client} {call : Call} (hmove : d.move = .call id call)
    (hclient : d.before.clients.get? id = some c) :
    d.captured id = c.captured (d.before.site d.thread c.book) call := by
  rw [captured, hmove]
  dsimp only
  rw [if_pos rfl, hclient]
  rfl

theorem captured_other (hmove : ∀ call, d.move ≠ .call id call) : d.captured id = none := by
  rw [captured]
  split
  · next used call hcall =>
    by_cases heq : used = id
    · exact absurd (heq ▸ hcall) (hmove call)
    · rw [if_neg heq]
  · rfl

/-- What is copied in a step is in the region after it, and the lock was not left behind. -/
theorem Valid.captured_current {h : Header} (hvalid : d.Valid) (hordered : d.before.Ordered)
    (hcaptured : d.captured id = some h) :
    d.after.header = h ∧ d.after.mutex.holding ≠ .orphaned := by
  by_cases hmove : ∃ call, d.move = .call id call
  · obtain ⟨call, hmove⟩ := hmove
    have hstep : d.before.step d.thread (.call id call) = some (d.answer, d.after) := hmove ▸ hvalid
    obtain ⟨c, body, s', token, hclient, hafter, hlearns⟩ := hordered.step_learns hstep
    rw [captured_call hmove hclient] at hcaptured
    suffices hholds : s'.Holds h by
      rw [hafter]
      exact hholds
    generalize d.answer = answer at hlearns
    cases hlearns with
    | nothing hnone => rw [hnone] at hcaptured; cases hcaptured
    | read _ _ hfollows => exact hfollows.current h hcaptured
    | restart _ _ _ hnone => rw [hnone] at hcaptured; cases hcaptured
    | get _ _ _ _ hfollows => exact hfollows.current h hcaptured
    | getMetadata _ _ _ hfollows => exact hfollows.current h hcaptured
  · rw [captured_other fun call heq => hmove ⟨call, heq⟩] at hcaptured
    cases hcaptured

/-- A copy is asked for a header that was copied in the same step. -/
theorem Valid.asks {request : CopyRequest} (hvalid : d.Valid) (hordered : d.before.Ordered)
    (hmem : request ∈ d.answer.copies) : ∃ id h, d.captured id = some h ∧ h.Usable ∧
      h.layers ≠ [] ∧ request.value = h.fenceValue h.slot := by
  obtain ⟨snapshot, calls, hanswer⟩ : ∃ snapshot calls, d.answer = .shown snapshot calls := by
    cases hanswer : d.answer with
    | shown snapshot calls => exact ⟨snapshot, calls, rfl⟩
    | _ => rw [hanswer] at hmem; cases hmem
  obtain ⟨id, call, hmove⟩ : ∃ id call, d.move = .call id call := by
    have hhappens := (Exchange.happens hordered.settled hordered.length hvalid).2
    rw [hanswer] at hhappens
    generalize d.move = move at hhappens ⊢
    generalize d.after = y at hhappens
    cases hhappens with
    | called => exact ⟨_, _, rfl⟩
    | closed _ _ hdone => rcases hdone with hdone | ⟨failure, hfailed⟩ <;> contradiction
  have hstep : d.before.step d.thread (.call id call) = some (d.answer, d.after) := hmove ▸ hvalid
  obtain ⟨c, body, s', token, hclient, -, hlearns⟩ := hordered.step_learns hstep
  rw [← captured_call hmove hclient] at hlearns
  refine ⟨id, ?_⟩
  rw [hanswer] at hlearns hmem
  cases hlearns with
  | nothing _ hshows => cases hshows
  | read _ _ _ hasks => exact hasks request hmem
  | get _ _ _ _ _ hasks => exact hasks request hmem
  | getMetadata _ _ _ _ hnone =>
    rw [hnone] at hmem
    cases hmem

/-- The answer of a look at the header under a guard is the header. -/
theorem Valid.header_current {h : Header} (hvalid : d.Valid) (hordered : d.before.Ordered)
    (hmove : d.move = .call id .metadata) (hanswer : d.answer = .header h) :
    d.after.header = h ∧ d.after.mutex.holding ≠ .orphaned := by
  have howned := hvalid.owned hordered hmove rfl
  have hstep : d.before.step d.thread (.call id .metadata) = some (.header h, d.after) :=
    hmove ▸ hanswer ▸ hvalid
  obtain ⟨-, c, operation, hclient, -, hoperation, hends⟩ := Exchange.step_ends hstep
  have hsame {act : Act Header} (hact : ∀ a s', act (d.before.site d.thread c.book) = .ok a s' →
        s' = d.before.site d.thread c.book ∧ a = d.before.header)
      (hoperation : operation = Act.answering c.body act .header) :
      d.after.header = h ∧ d.after.mutex.holding ≠ .orphaned := by
    subst hoperation
    obtain ⟨s', hafter, ⟨a, hresult, hreply⟩ | ⟨failure, -, -, hreply⟩⟩ := hends.answering
    · cases hreply
      obtain ⟨rfl, rfl⟩ := hact h s' hresult
      rw [hafter]
      exact ⟨rfl, howned⟩
    · cases hreply
  have hrole := (hordered.settled id c hclient).role
  simp only [Client.operation] at hoperation
  split at hoperation
  · refine hsame (fun a s' hresult => ?_) (Option.some.inj hoperation).symm
    cases (Act.load_ok _).symm.trans hresult
    exact ⟨rfl, rfl⟩
  · next hbody =>
    refine hsame (fun a s' hresult => ?_) (Option.some.inj hoperation).symm
    have hreader : (d.before.site d.thread c.book).book.machine.role = .reader := by
      refine hrole.trans ?_
      cases hkind : c.body with
      | writer w => exact absurd hkind (hbody w)
      | _ => rfl
    have hyields := Reader.metadata_yields hreader
    rw [hresult] at hyields
    cases hyields with
    | ok heffect => exact heffect

/-- The header came out of this step, through the object with this number: a reader has copied it,
or it was looked at under a guard. -/
def Sees (d : Deed) (id : Nat) (h : Header) : Prop :=
  d.captured id = some h ∨ d.move = .call id .metadata ∧ d.answer = .header h

/-- Nobody sees a header by dying. -/
theorem Dies.not_sees {h : Header} (hdies : d.Dies) : ¬d.Sees id h := by
  rintro (hcaptured | ⟨hmove, -⟩)
  · rw [captured_other hdies.not_call] at hcaptured
    cases hcaptured
  · exact hdies.not_call _ hmove

/-- A death shows nothing. -/
theorem Dies.not_gets {snapshot : Snapshot} (hdies : d.Dies) : ¬d.Gets id snapshot := by
  rintro ⟨copier, calls, hmove, -⟩
  exact hdies.not_call _ hmove

/-- What is seen in a step is in the region after it, and the lock was not left behind. -/
theorem Valid.sees_current {h : Header} (hvalid : d.Valid) (hordered : d.before.Ordered)
    (hsees : d.Sees id h) : d.after.header = h ∧ d.after.mutex.holding ≠ .orphaned := by
  rcases hsees with hcaptured | ⟨hmove, hanswer⟩
  · exact hvalid.captured_current hordered hcaptured
  · exact hvalid.header_current hordered hmove hanswer

/-- What a read through a cache has shown and kept. -/
theorem Valid.serves {snapshot : Snapshot} (hvalid : d.Valid) (hordered : d.before.Ordered)
    (hgets : d.Gets id snapshot) : ∃ c cached number c' cached',
      d.before.clients.get? id = some c ∧ c.body = .cached cached number ∧
      d.after.clients.get? id = some c' ∧ c'.body = .cached cached' number ∧
      cached.Serves (d.captured id) snapshot cached' ∧
      cached'.reader.session = ((d.captured id).map Header.session).getD cached.reader.session := by
  obtain ⟨copier, calls, hmove, hanswer⟩ := hgets
  have hstep : d.before.step d.thread (.call id (.get copier)) =
      some (.shown snapshot calls, d.after) := hmove ▸ hanswer ▸ hvalid
  obtain ⟨-, other, operation, hsame, -, hoperation, -⟩ := Exchange.step_ends hstep
  obtain ⟨c, body, s', token, hclient, hafter, hlearns⟩ := hordered.step_learns hstep
  obtain rfl : other = c := Option.some.inj (hsame.symm.trans hclient)
  rw [← captured_call hmove hclient] at hlearns
  cases hlearns with
  | nothing _ hshows => cases hshows
  | read _ hbody => simp [Client.operation, hbody] at hoperation
  | get _ _ hbody hserves hfollows =>
    exact ⟨other, _, _, _, _, hclient, hbody, by rw [hafter, Exchange.get?_put, if_pos rfl], rfl,
      hserves, hfollows.session⟩
  | getMetadata _ hcall => cases hcall

/-- A frame that is shown is in the cache after the step. -/
theorem Valid.keeps {snapshot : Snapshot} (hvalid : d.Valid) (hordered : d.before.Ordered)
    (hgets : d.Gets id snapshot) (hframe : snapshot.isValid = true) : ∃ c cached number,
      d.after.clients.get? id = some c ∧ c.body = .cached cached number ∧
      cached.cache = snapshot := by
  obtain ⟨_, _, number, c, cached, _, _, hclient, hbody, hserves, _⟩ :=
    hvalid.serves hordered hgets
  exact ⟨c, cached, number, hclient, hbody, hserves.cache_eq hframe⟩

/-- Where a cached reader that is there after a step comes from. -/
theorem Valid.tends {c' : Client} {cached' : CachedReader} {number : Nat} (hvalid : d.Valid)
    (hordered : d.before.Ordered) (hafter : d.after.clients.get? id = some c')
    (hbody : c'.body = .cached cached' number) :
    (cached'.cache = .empty ∧ d.captured id = none ∧ ∀ snapshot, ¬d.Gets id snapshot) ∨
      ∃ c cached number, d.before.clients.get? id = some c ∧ c.body = .cached cached number ∧
        d.Tends id cached cached' := by
  have hhappens := (Exchange.happens hordered.settled hordered.length hvalid).2
  by_cases hmove : ∃ call, d.move = .call id call
  · obtain ⟨call, hmove⟩ := hmove
    have hstep : d.before.step d.thread (.call id call) = some (d.answer, d.after) := hmove ▸ hvalid
    obtain ⟨c, body, s', token, hclient, hy, hlearns⟩ := hordered.step_learns hstep
    rw [hy, Exchange.get?_put, if_pos rfl] at hafter
    cases hafter
    rw [← captured_call hmove hclient] at hlearns
    replace hbody : body = .cached cached' number := hbody
    have hhidden {answer : Answer} (hanswer : d.answer = answer) (hshows : answer.shows = false)
        (snapshot : Snapshot) : ¬d.Gets id snapshot := by
      rintro ⟨copier, calls, -, hshown⟩
      rw [← hanswer, hshown] at hshows
      cases hshows
    right
    generalize hanswer : d.answer = answer at hlearns
    cases hlearns with
    | nothing hnone hshows =>
      exact ⟨c, cached', number, hclient, hbody, .same hnone (hhidden hanswer hshows)⟩
    | read => cases hbody
    | restart gpu length hbefore hnone =>
      cases hbody
      exact ⟨c, _, number, hclient, hbefore, .restarted gpu length hnone (hhidden hanswer rfl)⟩
    | get calls hcall hbefore hserves hfollows =>
      cases hbody
      subst hcall
      exact ⟨c, _, number, hclient, hbefore, .served ⟨_, calls, hmove, hanswer⟩ hserves
        hfollows.session⟩
    | getMetadata _ hcall hbefore hfollows =>
      cases hbody
      refine ⟨c, _, number, hclient, hbefore, .looked ?_ hfollows.session⟩
      rintro snapshot ⟨copier, calls, hget, -⟩
      rw [hmove, hcall] at hget
      cases hget
  · have hother (call : Call) : d.move ≠ .call id call := fun heq => hmove ⟨call, heq⟩
    have hnever (snapshot : Snapshot) : ¬d.Gets id snapshot := by
      rintro ⟨copier, calls, hget, -⟩
      exact hother _ hget
    cases hhappens.comes hafter with
    | kept hbefore =>
      exact .inr ⟨c', cached', number, hbefore, hbody, .same (captured_other hother) hnever⟩
    | called hcall => exact absurd hcall (hother _)
    | attached => cases hbody
    | openedReader => cases hbody
    | openedCached =>
      cases hbody
      exact .inl ⟨rfl, captured_other hother, hnever⟩

end Deed

end FrameExchange
