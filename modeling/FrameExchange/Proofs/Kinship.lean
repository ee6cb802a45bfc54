import FrameExchange.Proofs.Blindness
import FrameExchange.Proofs.Capturing

/-!
# Readers that will be the same

A reader that copies a header follows it: in a new session it drops the handles that it has. Whether
it did so some reads ago or does it now, it is the same reader afterwards. So two readers that agree
on every header of the current session cannot be told apart by what they show.

- `Reader.Akin` — the same reader once a header of this session was seen.
- `Reader.read_akin`, `CachedReader.get_akin` — reads of such readers show the same and make the
  same calls.
- `Client.Akin`, `Client.operation_akin` — the same for every call of an object.
-/

namespace FrameExchange

open Act

namespace Reader

variable {r r' r'' : Reader} {session : UInt64} {h h' : Header} {mode : LockMode} {s s' t : Site}

/-! ## Readers -/

/-- What a reader makes of a header depends on the header's session. -/
theorem follow_congr (r : Reader) (hsession : h.session = h'.session) :
    r.follow h = r.follow h' := by
  rw [follow, follow, hsession]

/-- To follow a header of the session that the reader is in changes nothing. -/
theorem follow_self (hsession : h.session = r.session) : r.follow h = r := if_pos hsession

/-- A reader that has followed one header of a session has followed them all. -/
theorem follow_follow (hsession : h.session = h'.session) :
    (r.follow h).follow h' = r.follow h' := by
  rw [follow_self (hsession.symm.trans (r.session_follow h).symm), follow_congr r hsession]

/-- Two readers that are the same once they have seen a header of this session. -/
def Akin (session : UInt64) (r r' : Reader) : Prop :=
  ∀ h : Header, h.session = session → r.follow h = r'.follow h

namespace Akin

theorem refl (session : UInt64) (r : Reader) : r.Akin session r := fun _ _ => rfl

/-- One of the two may have seen such a header already. -/
theorem follow_left (hakin : Akin session r r') (hsession : h.session = session) :
    Akin session (r.follow h) r' := by
  intro other hother
  rw [follow_follow (hsession.trans hother.symm), hakin other hother]

/-- A session that neither of them has seen makes them forget whatever they knew. -/
theorem of_unseen (hleft : r.session ≠ session) (hright : r'.session ≠ session) :
    Akin session r r' := by
  intro h hsession
  rw [follow, follow, if_neg, if_neg]
  · rw [hsession]
    exact fun heq => hright heq.symm
  · rw [hsession]
    exact fun heq => hleft heq.symm

end Akin

/-! ## Headers that were caught -/

/-- A reader between two calls, while the owner of the lock, if it has one, lives. -/
structure Calm (s : Site) : Prop extends Tidy s where
  living : s.mutex.holding ≠ .orphaned

theorem Calm.still (hcalm : Calm s) (hstill : s.Still s') : Calm s' := by
  refine ⟨hcalm.toTidy.still hstill, ?_⟩
  rw [hstill.mutex]
  exact hcalm.living

/-- What is copied then is the header that was there before. -/
theorem header_calm (hcalm : Calm s) (hheader : header mode s = .ok (some h) t) :
    h = Memory.load s.memory := by
  have hglimpses := glimpses mode hcalm.toTidy
  rw [hheader] at hglimpses
  cases hglimpses with
  | seen => rfl
  | recovered _ _ horphaned => exact absurd horphaned hcalm.living

/-- What two readers have made of the same header: whoever can use it is the same as the other. -/
structure Caught (session : UInt64) (caught caught' : Capture × Reader) : Prop where
  capture : caught.1 = caught'.1
  akin : caught.2.Akin session caught'.2
  frame : ∀ h, caught.1 = .frame h → caught.2 = caught'.2

/-- Two readers that are alike catch the same header. -/
theorem captureOrEmpty_akin (hcalm : Calm s) (hstill : s.Still s')
    (hakin : Akin (Memory.load s.memory).session r r') :
    Alike (Caught (Memory.load s.memory).session) (r.captureOrEmpty mode s)
      (r'.captureOrEmpty mode s') := by
  have halike := header_blind mode s s' hstill
  generalize hheader : header mode s = result at halike
  generalize hheader' : header mode s' = result' at halike
  cases halike with
  | @ok found _ t t' hsame hstill' =>
    subst hsame
    cases found with
    | none =>
      have hbusy {r : Reader} {s t : Site} (hheader : header mode s = .ok none t) :
          r.captureOrEmpty mode s = .ok (.busy, r) t := by
        have hcapture : r.capture mode s = .ok (.busy, r) t := by
          rw [capture, bind_ok hheader]
          rfl
        rw [captureOrEmpty, bind_ok (attempt_ok hcapture)]
        rfl
      rw [hbusy hheader, hbusy hheader']
      exact .ok ⟨rfl, hakin, fun h heq => by cases heq⟩ hstill'
    | some h =>
      obtain rfl := header_calm hcalm hheader
      obtain ⟨u, hu, hcases⟩ := r.captureOrEmpty_seen hheader
      obtain ⟨u', hu', hcases'⟩ := r'.captureOrEmpty_seen hheader'
      have hends : u.Still u' := hu.symm.trans (hstill'.trans hu')
      have hsame := hakin _ rfl
      rcases hcases with ⟨husable, heq⟩ | ⟨husable, heq⟩
      · obtain ⟨-, heq'⟩ := hcases'.resolve_right fun hnot => hnot.1 husable
        rw [heq, heq', hsame]
        exact .ok ⟨rfl, .refl _ _, fun _ _ => rfl⟩ hends
      · obtain ⟨-, heq'⟩ := hcases'.resolve_left fun hyes => husable hyes.1
        rw [heq, heq', hsame]
        exact .ok ⟨rfl, .refl _ _, fun _ _ => rfl⟩ hends
  | @error failure t t' hstill' =>
    have hcapture {r : Reader} {s t : Site} (hheader : header mode s = .error failure t) :
        r.capture mode s = .error failure t := by rw [capture, bind_error hheader]
    rw [captureOrEmpty, captureOrEmpty, bind_ok (attempt_error (hcapture hheader)),
      bind_ok (attempt_error (hcapture hheader'))]
    cases failure with
    | error e =>
      refine .ok ⟨rfl, hakin, fun h heq => by cases heq⟩ ⟨hstill'.host.report_both _ _, ?_⟩
      rw [hstill'.rest]
    | violation v => exact .error hstill'
    | blocked => exact .error hstill'

/-! ## Whole reads -/

/-- What two readers have shown: the same, with the same calls. -/
structure Shown (session : UInt64) (shown shown' : Snapshot × Reader × Copier) : Prop where
  snapshot : shown.1 = shown'.1
  copier : shown.2.2 = shown'.2.2
  akin : shown.2.1.Akin session shown'.2.1

/-- Values that are the same belong together. -/
theorem Shown.of_eq {shown shown' : Snapshot × Reader × Copier} (heq : shown = shown') :
    Shown session shown shown' := by
  subst heq
  exact ⟨rfl, rfl, .refl _ _⟩

/-- Two readers that are alike read the same. -/
theorem read_akin (kind : ConsumerKind) (gpu : UInt64) (target : Nat) (copier : Copier)
    (hcalm : Calm s) (hstill : s.Still s') (hakin : Akin (Memory.load s.memory).session r r') :
    Alike (Shown (Memory.load s.memory).session) (r.read kind gpu target copier s)
      (r'.read kind gpu target copier s') := by
  rw [read, read, bind_ok (see_ok kind s), bind_ok (see_ok kind s')]
  have hsee := see_still kind s
  have hseen : ({ s with host := s.host.see s.caller.pid kind } : Site).Still
      { s' with host := s'.host.see s'.caller.pid kind } :=
    hsee.symm.trans (hstill.trans (see_still kind s'))
  refine (captureOrEmpty_akin (hcalm.still hsee) hseen hakin).bind ?_
  rintro ⟨capture, r₁⟩ ⟨capture', r₁'⟩ t t' - ⟨hcapture, hakin', hframe⟩ hends
  cases hcapture
  cases capture with
  | frame h =>
    cases hframe h rfl
    refine Alike.imp ?_ fun _ _ => Shown.of_eq
    refine Blind.bind (r₁.prepare_blind gpu h) (fun prepared => ?_) t t' hends
    split
    · exact .pure _
    · exact finish_blind _ _ _ _ _
  | busy => exact .ok ⟨rfl, rfl, hakin'⟩ hends
  | empty => exact .ok ⟨rfl, rfl, hakin'⟩ hends

/-- Two readers that are alike find the same frame without its pixels. -/
theorem metadataSnapshot_akin (hcalm : Calm s) (hstill : s.Still s')
    (hakin : Akin (Memory.load s.memory).session r r') :
    Alike (fun a b => a.1 = b.1 ∧ a.2.Akin (Memory.load s.memory).session b.2)
      (r.metadataSnapshot mode s) (r'.metadataSnapshot mode s') := by
  rw [metadataSnapshot, metadataSnapshot]
  refine (captureOrEmpty_akin hcalm hstill hakin).bind ?_
  rintro ⟨capture, r₁⟩ ⟨capture', r₁'⟩ t t' - ⟨hcapture, hakin', -⟩ hends
  cases hcapture
  cases capture with
  | frame h => exact .ok ⟨rfl, hakin'⟩ hends
  | busy => exact .ok ⟨rfl, hakin'⟩ hends
  | empty => exact .ok ⟨rfl, hakin'⟩ hends

/-- The same with the consumer remembered before. -/
theorem seen_akin (kind : ConsumerKind) (hcalm : Calm s) (hstill : s.Still s')
    (hakin : Akin (Memory.load s.memory).session r r') :
    Alike (fun a b => a.1 = b.1 ∧ a.2.Akin (Memory.load s.memory).session b.2)
      ((do see kind; r.metadataSnapshot mode) s) ((do see kind; r'.metadataSnapshot mode) s') := by
  rw [bind_ok (see_ok kind s), bind_ok (see_ok kind s')]
  have hsee := see_still kind s
  exact metadataSnapshot_akin (hcalm.still hsee)
    (hsee.symm.trans (hstill.trans (see_still kind s'))) hakin

end Reader

/-! ## Cached readers -/

namespace CachedReader

open Reader

variable {c c' : CachedReader} {session : UInt64} {s s' : Site}

/-- Two cached readers that differ in nothing but readers that are alike. -/
structure Akin (session : UInt64) (c c' : CachedReader) : Prop where
  reader : c.reader.Akin session c'.reader
  rest : c' = { c with reader := c'.reader }

/-- What two cached readers have shown and kept. -/
structure Shown (session : UInt64) (shown shown' : Snapshot × CachedReader × Copier) : Prop where
  snapshot : shown.1 = shown'.1
  copier : shown.2.2 = shown'.2.2
  akin : shown.2.1.Akin session shown'.2.1

theorem Akin.refl (session : UInt64) (c : CachedReader) : c.Akin session c :=
  ⟨.refl _ _, rfl⟩

theorem Shown.of_eq {shown shown' : Snapshot × CachedReader × Copier} (heq : shown = shown') :
    Shown session shown shown' := by
  subst heq
  exact ⟨rfl, rfl, .refl _ _⟩

/-- A frame that is looked at is the same for both, and so is what becomes of it. -/
theorem look_akin (copier : Copier) (hcalm : Calm s) (hstill : s.Still s')
    (hakin : c.Akin (Memory.load s.memory).session c') :
    Alike (Shown (Memory.load s.memory).session) (c.look copier s) (c'.look copier s') := by
  obtain ⟨hreader, hrest⟩ := hakin
  rw [look, look, captureFrame, captureFrame, bind_assoc, bind_assoc]
  refine (captureOrEmpty_akin hcalm hstill hreader).bind ?_
  rintro ⟨capture, r₁⟩ ⟨capture', r₁'⟩ t t' - ⟨hcapture, hakin', hframe⟩ hends
  cases hcapture
  rw [hrest]
  cases capture with
  | frame h =>
    cases hframe h rfl
    refine Alike.imp ?_ fun _ _ => Shown.of_eq
    refine Blind.bind (resolve_blind { c with reader := r₁ } h copier) (fun _ => ?_) t t' hends
    exact .bind (settle_blind _ _) fun _ => .pure _
  | busy => exact .ok ⟨rfl, rfl, hakin', rfl⟩ hends
  | empty => exact .ok ⟨rfl, rfl, hakin', rfl⟩ hends

/-- Two cached readers that are alike show the same, and keep the same. -/
theorem get_akin (copier : Copier) (hcalm : Calm s) (hstill : s.Still s')
    (hakin : c.Akin (Memory.load s.memory).session c') :
    Alike (Shown (Memory.load s.memory).session) (c.get copier s) (c'.get copier s') := by
  have hpeek (s : Site) : peekAttached s = .ok (Memory.peekAttached s.memory) s := rfl
  have hrest := hakin.rest
  rw [get, get, bind_ok (hpeek s), bind_ok (hpeek s'), hstill.memory]
  by_cases hattached : (!Memory.peekAttached s.memory) = true
  · rw [if_pos hattached, if_pos hattached, hrest]
    exact .ok ⟨rfl, rfl, hakin.reader, rfl⟩ hstill
  · rw [if_neg hattached, if_neg hattached]
    have hring : c'.ring = c.ring := by rw [hrest]
    have hcache : c'.cache = c.cache := by rw [hrest]
    have hkind : c'.kind = c.kind := by rw [hrest]
    rw [hring, hcache, hkind]
    by_cases hnone : c.ring.isEmpty = true
    · rw [if_pos hnone, if_pos hnone]
      refine (Blind.report .noRing s s' hstill).bind ?_
      rintro ⟨⟩ ⟨⟩ t t' - - hends
      exact .ok ⟨rfl, rfl, hakin⟩ hends
    · rw [if_neg hnone, if_neg hnone]
      have hkey : Reader.key c.kind s = .ok (Memory.peekKey s.memory)
          { s with host := s.host.see s.caller.pid c.kind } := rfl
      have hkey' : Reader.key c.kind s' = .ok (Memory.peekKey s.memory)
          { s' with host := s'.host.see s'.caller.pid c.kind } := by
        rw [← hstill.memory]
        rfl
      rw [bind_ok hkey, bind_ok hkey']
      have hsee := see_still c.kind s
      have hseen := hsee.symm.trans (hstill.trans (see_still c.kind s'))
      by_cases hhit : (c.cache.isValid && c.cache.key == Memory.peekKey s.memory) = true
      · rw [if_pos hhit, if_pos hhit]
        exact .ok ⟨rfl, rfl, hakin⟩ hseen
      · rw [if_neg hhit, if_neg hhit]
        exact look_akin copier (hcalm.still hsee) hseen hakin

end CachedReader

/-! ## Objects -/

/-- Two objects that nobody can tell apart by what they do in this session: writers are the same,
and readers differ in nothing but what they know of earlier sessions. -/
inductive Body.Akin (session : UInt64) : Body → Body → Prop where
  | writer (w : Writer) : Akin session (.writer w) (.writer w)
  | reader {r r' : Reader} : r.Akin session r' → Akin session (.reader r) (.reader r')
  | cached {c c' : CachedReader} (number : Nat) : c.Akin session c' →
      Akin session (.cached c number) (.cached c' number)

/-- The same for objects with their guards. -/
structure Client.Akin (session : UInt64) (c c' : Client) : Prop where
  body : c.body.Akin session c'.body
  book : c'.book = c.book
  token : c'.token = c.token

/-- Two objects that are like a third are alike. -/
theorem Client.Akin.join {session : UInt64} {a b c : Client} (ha : a.Akin session c)
    (hb : b.Akin session c) : a.Akin session b := by
  refine ⟨?_, hb.book.symm.trans ha.book, hb.token.symm.trans ha.token⟩
  obtain ⟨ha, -, -⟩ := ha
  obtain ⟨hb, -, -⟩ := hb
  generalize a.body = left at ha ⊢
  generalize b.body = right at hb ⊢
  generalize c.body = body at ha hb
  cases ha with
  | writer w =>
    cases hb
    exact .writer w
  | reader ha =>
    cases hb with
    | reader hb => exact .reader fun h hsession => (ha h hsession).trans (hb h hsession).symm
  | @cached left third number ha =>
    cases hb with
    | @cached right _ _ hb =>
      refine .cached number ⟨fun h hsession => ?_, ?_⟩
      · exact (ha.reader h hsession).trans (hb.reader h hsession).symm
      · calc
          right = { { right with reader := third.reader } with reader := right.reader } := rfl
          _ = { { left with reader := third.reader } with reader := right.reader } := by
            rw [← hb.rest, ← ha.rest]
          _ = { left with reader := right.reader } := rfl

namespace Client

open Reader

variable {c c' : Client} {session : UInt64} {s s' : Site}

/-- What two objects have answered, and what became of them. -/
structure Answered (session : UInt64) (answered answered' : Answer × Body) : Prop where
  answer : answered.1 = answered'.1
  body : answered.2.Akin session answered'.2

/-- An operation that leaves the object as it is. -/
theorem answering_akin {α : Type} {operation : Act α} (answer : α → Answer) {body body' : Body}
    (hblind : operation.Blind) (hakin : body.Akin session body') (hstill : s.Still s') :
    Alike (Answered session) (Act.answering body operation answer s)
      (Act.answering body' operation answer s') := by
  refine (hblind s s' hstill).bind ?_
  rintro a _ t t' - rfl hends
  exact .ok ⟨rfl, hakin⟩ hends

/-- Two objects that are alike can do the same, and it comes to the same. -/
inductive Operations (session : UInt64) (s s' : Site) :
    Option (Act (Answer × Body)) → Option (Act (Answer × Body)) → Prop where
  | none : Operations session s s' none none
  | some {operation operation' : Act (Answer × Body)} :
      Alike (Answered session) (operation s) (operation' s') →
      Operations session s s' (some operation) (some operation')

/-- Calls of a writer do not depend on the log. -/
theorem operation_writer (w : Writer) (book book' : LockBook) (token : Option NextFrame)
    (hstill : s.Still s') (call : Call) :
    Operations session s s' ((⟨.writer w, book, token⟩ : Client).operation call)
      ((⟨.writer w, book', token⟩ : Client).operation call) := by
  have hsame : Body.Akin session (.writer w) (.writer w) := .writer w
  cases call with
  | lock mode => exact .some (answering_akin _ (w.lock_blind mode) hsame hstill)
  | release unwinding => exact .some (answering_akin _ (.release unwinding) hsame hstill)
  | metadata => exact .some (answering_akin _ .load hsame hstill)
  | beginFrame => exact .some (answering_akin _ Writer.beginFrame_blind hsame hstill)
  | submit frame =>
    cases token with
    | none => exact .none
    | some next => exact .some (answering_akin _ (w.submit_blind frame) hsame hstill)
  | abandon =>
    cases token with
    | none => exact .none
    | some next => exact .some (answering_akin _ (.throw _) hsame hstill)
  | submitEmpty => exact .some (answering_akin _ w.submitEmpty_blind hsame hstill)
  | detach => exact .some (answering_akin _ w.detach_blind hsame hstill)
  | key kind => exact .some (answering_akin _ (key_blind kind) hsame hstill)
  | _ => exact .none

/-- Calls of readers that are alike. -/
theorem operation_reader {r r' : Reader} (book book' : LockBook) (token : Option NextFrame)
    (hreader : r.Akin (Memory.load s.memory).session r') (hstill : s.Still s') (hcalm : Calm s)
    (call : Call) : Operations (Memory.load s.memory).session s s'
      ((⟨.reader r, book, token⟩ : Client).operation call)
      ((⟨.reader r', book', token⟩ : Client).operation call) := by
  have hsame : Body.Akin _ (.reader r) (.reader r') := .reader hreader
  cases call with
  | lock mode => exact .some (answering_akin _ (Reader.lock_blind mode) hsame hstill)
  | release unwinding => exact .some (answering_akin _ (.release unwinding) hsame hstill)
  | metadata => exact .some (answering_akin _ metadata_blind hsame hstill)
  | key kind => exact .some (answering_akin _ (key_blind kind) hsame hstill)
  | read kind gpu target copier =>
    refine .some ((read_akin kind gpu target copier.looked hcalm hstill hreader).bind ?_)
    rintro ⟨snapshot, r₁, copier₁⟩ ⟨snapshot', r₁', copier₁'⟩ t t' -
      ⟨hsnapshot, hcopier, hakin⟩ hends
    cases hsnapshot
    cases hcopier
    exact .ok ⟨rfl, .reader hakin⟩ hends
  | readMetadata kind =>
    refine .some ((seen_akin kind hcalm hstill hreader).bind ?_)
    rintro ⟨snapshot, r₁⟩ ⟨snapshot', r₁'⟩ t t' - ⟨hsnapshot, hakin⟩ hends
    cases hsnapshot
    exact .ok ⟨rfl, .reader hakin⟩ hends
  | _ => exact .none

/-- Calls of cached readers that are alike. -/
theorem operation_cached {c c' : CachedReader} (number : Nat) (book book' : LockBook)
    (token : Option NextFrame) (hcached : c.Akin (Memory.load s.memory).session c')
    (hstill : s.Still s') (hcalm : Calm s) (call : Call) :
    Operations (Memory.load s.memory).session s s'
      ((⟨.cached c number, book, token⟩ : Client).operation call)
      ((⟨.cached c' number, book', token⟩ : Client).operation call) := by
  have hsame : Body.Akin _ (.cached c number) (.cached c' number) := .cached number hcached
  cases call with
  | lock mode => exact .some (answering_akin _ (Reader.lock_blind mode) hsame hstill)
  | release unwinding => exact .some (answering_akin _ (.release unwinding) hsame hstill)
  | metadata => exact .some (answering_akin _ metadata_blind hsame hstill)
  | key kind => exact .some (answering_akin _ (key_blind kind) hsame hstill)
  | restart gpu length =>
    refine .some (.ok ⟨rfl, .cached number ⟨hcached.reader, ?_⟩⟩ hstill)
    rw [hcached.rest]
    rfl
  | get copier =>
    refine .some ((CachedReader.get_akin copier.looked hcalm hstill hcached).bind ?_)
    rintro ⟨snapshot, c₁, copier₁⟩ ⟨snapshot', c₁', copier₁'⟩ t t' -
      ⟨hsnapshot, hcopier, hakin⟩ hends
    cases hsnapshot
    cases hcopier
    exact .ok ⟨rfl, .cached number hakin⟩ hends
  | getMetadata =>
    refine .some ?_
    rw [CachedReader.answerMetadata_eq, CachedReader.answerMetadata_eq]
    have hkind : c'.kind = c.kind := by rw [hcached.rest]
    rw [hkind]
    refine (seen_akin c.kind hcalm hstill hcached.reader).bind ?_
    rintro ⟨snapshot, r₁⟩ ⟨snapshot', r₁'⟩ t t' - ⟨hsnapshot, hakin⟩ hends
    cases hsnapshot
    refine .ok ⟨rfl, .cached number ⟨hakin, ?_⟩⟩ hends
    rw [hcached.rest]
  | _ => exact .none

/-- Two objects that are alike can make the same calls, with the same answers. -/
theorem operation_akin (hakin : c.Akin (Memory.load s.memory).session c') (hstill : s.Still s')
    (hcalm : c.body.role = .reader → Calm s) (call : Call) :
    Operations (Memory.load s.memory).session s s' (c.operation call) (c'.operation call) := by
  obtain ⟨body, book, token⟩ := c
  obtain ⟨body', book', token'⟩ := c'
  obtain ⟨hbody, -, htoken⟩ := hakin
  cases htoken
  cases hbody with
  | writer w => exact operation_writer w book book' token hstill call
  | reader hreader => exact operation_reader book book' token hreader hstill (hcalm rfl) call
  | cached number hcached =>
    exact operation_cached number book book' token hcached hstill (hcalm rfl) call

end Client

end FrameExchange
