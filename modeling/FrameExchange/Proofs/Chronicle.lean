import FrameExchange.Proofs.Content
import FrameExchange.Proofs.Log
import FrameExchange.Proofs.Timeline

/-!
# The order of publication

All sessions that are begun on a region and all frames that are published there form one sequence of
keys. Whoever copies the header finds the last key of this sequence, and what a cached reader shows
never goes back in it.

- `chronicle` — the sequence.
- `Course.reached`, `Course.timeline` — the header is at its end, and it is in order.
- `Course.kept` — the snapshot in a cache is not older than anything that was shown.
- `Course.inPublicationOrder` — all of this together.
-/

namespace FrameExchange

/-! ## Assumptions -/

/-- What was true of all sessions is true of the first ones. -/
theorem FreshSessions.append_left {x : Exchange} {first second : List Deed}
    (hfresh : FreshSessions x (first ++ second)) : FreshSessions x first := by
  rw [FreshSessions, List.flatMap_append, ← List.cons_append, List.nodup_append] at hfresh
  exact hfresh.1

/-- What was true of all frames is true of the first ones. -/
theorem Unwrapped.append_left {first second : List Deed}
    (hunwrapped : Unwrapped (first ++ second)) :
    Unwrapped first :=
  fun part hpart => hunwrapped part (hpart.trans (List.prefix_append first second).isInfix)

/-- A number that is not the last one is followed by the next. -/
theorem toNat_ofNat_succ {count : Nat} (hbound : count + 1 < UInt64.size) :
    (UInt64.ofNat count + 1).toNat = (UInt64.ofNat count).toNat + 1 := by
  have hcount : count < UInt64.size := Nat.lt_of_succ_lt hbound
  rw [UInt64.toNat_add, UInt64.toNat_ofNat', Nat.mod_eq_of_lt hcount]
  exact Nat.mod_eq_of_lt hbound

/-! ## The sequence -/

/-- The keys that come with a step: one for each session it begins, and that of the frame it
publishes. -/
def Deed.marks (d : Deed) : List FrameKey :=
  d.drawn.map (⟨·, 0⟩) ++ if d.publishes then [d.after.header.key] else []

/-- The keys of a region from its beginning. -/
def chronicle (x : Exchange) (deeds : List Deed) : List FrameKey :=
  x.header.key :: deeds.flatMap Deed.marks

section

variable {x : Exchange} {d : Deed}

theorem chronicle_append (x : Exchange) (first second : List Deed) :
    chronicle x (first ++ second) = chronicle x first ++ second.flatMap Deed.marks := by
  rw [chronicle, List.flatMap_append]
  rfl

theorem chronicle_concat (x : Exchange) (deeds : List Deed) (d : Deed) :
    chronicle x (deeds ++ [d]) = chronicle x deeds ++ d.marks := by
  rw [chronicle_append, List.flatMap_singleton]

theorem Deed.marks_quiet (hquiet : d.Quiet) : d.marks = [] := by
  rw [marks, hquiet.1, hquiet.2]
  rfl

/-- Steps with a key of their own are those that are not quiet. -/
theorem Deed.quiet_of_marks (hmarks : d.marks = []) : d.Quiet := by
  rw [marks, List.append_eq_nil_iff, List.map_eq_nil_iff] at hmarks
  refine ⟨?_, hmarks.1⟩
  by_contra hpublishes
  rw [if_pos (Bool.not_eq_false _ ▸ hpublishes)] at hmarks
  cases hmarks.2

theorem Deed.marks_drawn (hpublishes : d.publishes = false) : d.marks = d.drawn.map (⟨·, 0⟩) := by
  rw [marks, hpublishes, if_neg (by decide), List.append_nil]

theorem Deed.marks_publishes (hdrawn : d.drawn = []) (hpublishes : d.publishes = true) :
    d.marks = [d.after.header.key] := by
  rw [marks, hdrawn, if_pos hpublishes]
  rfl

/-- The last session that a step draws. -/
theorem Deed.getLast_drawn {k : Nat} (hfirst : d.before.host.entropy.used ≤ k)
    (hlast : d.after.host.entropy.used = k + 1) :
    d.drawn.getLast? = some (Host.sessionOf d.thread.pid (d.before.host.entropy.draw k)) := by
  obtain ⟨n, rfl⟩ := Nat.exists_eq_add_of_le hfirst
  have hcount : d.before.host.entropy.used + n + 1 - d.before.host.entropy.used = n + 1 := by omega
  rw [drawn, hlast, hcount, List.range'_1_concat, List.map_append]
  exact List.getLast?_concat ..

end

/-! ## The end of the sequence -/

/-- The header is that of the last key, and its frames are counted since the session was begun. -/
structure Exchange.Reached (y x : Exchange) (deeds : List Deed) : Prop where
  last : (chronicle x deeds).getLast? = some y.header.key
  counted : y.header.frame = UInt64.ofNat ((sinceSession deeds).countP Deed.publishes)

namespace Deed

variable {x : Exchange} {deeds : List Deed} {d : Deed}

/-- A step that begins a session is at the end of the sequence, whatever was there before. -/
theorem Valid.reached_drawn (hvalid : d.Valid) (hordered : d.before.Ordered)
    (hdrawn : d.drawn ≠ []) : d.after.Reached x (deeds ++ [d]) := by
  have hrewrites := hvalid.rewritten hordered
  have hpublishes : d.publishes = false :=
    Bool.eq_false_iff.mpr fun hpublishes => hdrawn (hrewrites.counts hpublishes).1
  obtain ⟨gpu, k, hfirst, hlast, hheader⟩ := hrewrites.begins hdrawn
  constructor
  case last =>
    rw [chronicle_concat, marks_drawn hpublishes, List.getLast?_append, List.getLast?_map,
      getLast_drawn hfirst hlast, hheader]
    rfl
  case counted =>
    rw [sinceSession_drawn hdrawn, hheader]
    rfl

/-- A step with a key of its own is at the end of the sequence. -/
theorem Valid.reached_loud (hvalid : d.Valid) (hordered : d.before.Ordered) (hloud : ¬d.Quiet)
    (hbefore : d.before.mutex.holding = .orphaned ∨ d.before.Reached x deeds) :
    d.after.Reached x (deeds ++ [d]) := by
  by_cases hdrawn : d.drawn = []
  · have hpublishes : d.publishes = true := by
      by_contra hnot
      exact hloud ⟨Bool.eq_false_iff.mpr hnot, hdrawn⟩
    -- whoever publishes has the lock, so that nobody has left it behind
    have hreached := hbefore.resolve_left (hvalid.owned_of_publishes hordered hpublishes)
    obtain ⟨-, -, hframe⟩ := (hvalid.rewritten hordered).counts hpublishes
    constructor
    case last =>
      rw [chronicle_concat, marks_publishes hdrawn hpublishes]
      exact List.getLast?_concat ..
    case counted =>
      rw [sinceSession_steady hdrawn, List.countP_append, List.countP_singleton,
        if_pos hpublishes, hframe, hreached.counted, UInt64.ofNat_add]
      rfl
  · exact hvalid.reached_drawn hordered hdrawn

/-- Every step but one that finds the lock of a dead owner keeps to the end of the sequence. -/
theorem Valid.reached (hvalid : d.Valid) (hordered : d.before.Ordered)
    (hbefore : d.before.mutex.holding = .orphaned ∨ d.before.Reached x deeds) :
    d.after.mutex.holding = .orphaned ∨ d.after.Reached x (deeds ++ [d]) := by
  by_cases hquiet : d.Quiet
  · rcases hbefore with horphaned | hreached
    · exact .inl (hvalid.orphaned hordered horphaned hquiet.2).1
    · have hkey := ((hvalid.rewritten hordered).sameFrame hquiet).key
      refine .inr ⟨?_, ?_⟩
      · rw [chronicle_concat, marks_quiet hquiet, List.append_nil, hkey]
        exact hreached.last
      · rw [sinceSession_steady hquiet.2, List.countP_append, List.countP_singleton,
          if_neg (by rw [hquiet.1]; decide), Nat.add_zero, ← hreached.counted]
        exact congrArg FrameKey.frame hkey
  · exact .inr (hvalid.reached_loud hordered hquiet hbefore)

end Deed

/-- The first key of a region has number zero. -/
theorem Exchange.frame_start (names : RegionNames) (host : Host) :
    (start names host).header.frame = 0 := by
  show (Memory.load (Bytes.zeros Header.byteSize)).frame = 0
  decide +kernel

namespace Course

variable {names : RegionNames} {host : Host} {y : Exchange} {deeds : List Deed}

/-- The header is at the end of the sequence, unless its last owner died. -/
theorem reached (hcourse : Course (.start names host) deeds y) :
    y.mutex.holding = .orphaned ∨ y.Reached (.start names host) deeds := by
  induction hcourse with
  | nil => exact .inr ⟨rfl, Exchange.frame_start names host⟩
  | step hcourse hvalid ih => exact hvalid.reached hcourse.ordered ih
  | death _ hdies => exact .inl hdies.orphaned

/-- An entry adds the sessions that are drawn in it, or the next frame of the session that there
is. -/
theorem marks {d : Deed} (hcourse : Course (.start names host) deeds d.before)
    (hentry : d.Valid ∨ d.Dies) : d.marks = d.drawn.map (⟨·, 0⟩) ∨
      d.publishes = true ∧ d.drawn = [] ∧ d.marks = [d.after.header.key] ∧
        d.before.Reached (.start names host) deeds ∧
        d.after.header.session = d.before.header.session ∧
        d.after.header.frame = d.before.header.frame + 1 := by
  cases hpublishes : d.publishes with
  | false => exact .inl (Deed.marks_drawn hpublishes)
  | true =>
    rcases hentry with hvalid | hdies
    · have hordered := hcourse.ordered
      obtain ⟨hdrawn, hsession, hframe⟩ := (hvalid.rewritten hordered).counts hpublishes
      have hreached := hcourse.reached.resolve_left (hvalid.owned_of_publishes hordered hpublishes)
      exact .inr ⟨rfl, hdrawn, Deed.marks_publishes hdrawn hpublishes, hreached, hsession, hframe⟩
    · rw [hdies.publishes] at hpublishes
      cases hpublishes

/-- The sessions of the sequence are those that were drawn, and the one that was there at first. -/
theorem session_mem (hcourse : Course (.start names host) deeds y) {key : FrameKey}
    (hmem : key ∈ chronicle (.start names host) deeds) :
    key.session ∈ (Exchange.start names host).header.session :: deeds.flatMap Deed.drawn := by
  induction deeds using List.reverseRecOn generalizing y key with
  | nil =>
    rw [List.mem_singleton.mp hmem]
    exact List.mem_cons_self ..
  | append_singleton deeds d ih =>
    obtain ⟨hcourse, hentry, -⟩ := snoc_iff.mp hcourse
    rw [List.flatMap_append, List.flatMap_singleton, ← List.cons_append, List.mem_append]
    rw [chronicle_concat, List.mem_append] at hmem
    rcases hmem with hearlier | hadded
    · exact .inl (ih hcourse hearlier)
    · rcases hcourse.marks hentry with hmarks | ⟨-, -, hmarks, hreached, hsession, -⟩
      · rw [hmarks] at hadded
        obtain ⟨session, hdrawn, rfl⟩ := List.mem_map.mp hadded
        exact .inr hdrawn
      · rw [hmarks] at hadded
        have hlast := ih hcourse (List.mem_of_getLast? hreached.last)
        rw [List.mem_singleton.mp hadded, show d.after.header.key.session = _ from hsession]
        exact .inl hlast

/-- The sequence is in order. -/
theorem timeline (hcourse : Course (.start names host) deeds y)
    (hfresh : FreshSessions (.start names host) deeds) (hunwrapped : Unwrapped deeds) :
    Timeline (chronicle (.start names host) deeds) := by
  induction deeds using List.reverseRecOn generalizing y with
  | nil => exact .singleton _
  | append_singleton deeds d ih =>
    obtain ⟨hcourse, hentry, -⟩ := snoc_iff.mp hcourse
    have htimeline := ih hcourse hfresh.append_left hunwrapped.append_left
    rw [chronicle_concat]
    rcases hcourse.marks hentry with
      hmarks | ⟨hpublishes, hdrawn, hmarks, hreached, hsession, hframe⟩
    · rw [FreshSessions, List.flatMap_append, List.flatMap_singleton, ← List.cons_append,
        List.nodup_append] at hfresh
      rw [hmarks]
      refine htimeline.starts hfresh.2.1 fun key hmem hdrawn => ?_
      exact hfresh.2.2 _ (hcourse.session_mem hmem) _ hdrawn rfl
    · -- there are not so many frames that the number comes to its end
      have hbound := hunwrapped.count_lt
      rw [sinceSession_steady hdrawn, List.countP_append, List.countP_singleton,
        if_pos hpublishes] at hbound
      rw [hmarks]
      refine htimeline.frame hreached.last hsession ?_
      show d.after.header.frame.toNat = d.before.header.frame.toNat + 1
      rw [hframe, hreached.counted]
      exact toNat_ofNat_succ hbound

/-! ## What is seen -/

/-- What is seen of a header is the last key of the sequence. -/
theorem last_of_sees {earlier later : List Deed} {d : Deed} {id : Nat} {h : Header}
    (hcourse : Course (.start names host) (earlier ++ d :: later) y) (hsees : d.Sees id h) :
    (chronicle (.start names host) (earlier ++ [d])).getLast? = some h.key := by
  obtain ⟨hearlier, hvalid | hdies, -⟩ := hcourse.deed
  · obtain ⟨rfl, hnot⟩ := hvalid.sees_current hearlier.ordered hsees
    exact ((Course.step hearlier hvalid).reached.resolve_left hnot).last
  · exact absurd hsees hdies.not_sees

end Course

/-- A frame with this key was shown in these steps by the cached reader with this number. -/
def WasShown (deeds : List Deed) (id : Nat) (key : FrameKey) : Prop :=
  ∃ d ∈ deeds, ∃ snapshot, d.Gets id snapshot ∧ snapshot.isValid = true ∧ snapshot.key = key

/-- What a cached reader has shown is in the sequence, and not after what it keeps. -/
structure Exchange.Remembers (y x : Exchange) (deeds : List Deed) (id : Nat) : Prop where
  shown : ∀ key, WasShown deeds id key → key ∈ chronicle x deeds
  kept : ∀ c cached number, y.clients.get? id = some c → c.body = .cached cached number →
    cached.cache.isValid = true → cached.cache.key ∈ chronicle x deeds ∧
      ∀ key, WasShown deeds id key → InOrder (chronicle x deeds) key cached.cache.key

/-- The number of a snapshot is that in its key. -/
theorem Snapshot.frame_key (snapshot : Snapshot) : snapshot.key.frame = snapshot.sequence := by
  cases snapshot <;> rfl

namespace Deed

variable {x : Exchange} {deeds : List Deed} {d : Deed} {id : Nat} {key : FrameKey}

theorem wasShown_concat (hshown : WasShown (deeds ++ [d]) id key) : WasShown deeds id key ∨
    ∃ snapshot, d.Gets id snapshot ∧ snapshot.isValid = true ∧ snapshot.key = key := by
  obtain ⟨e, hmem, hgets⟩ := hshown
  rcases List.mem_append.mp hmem with hearlier | hlast
  · exact .inl ⟨e, hearlier, hgets⟩
  · exact .inr (List.mem_singleton.mp hlast ▸ hgets)

/-- A death leaves all caches. -/
theorem Dies.remembers (hdies : d.Dies) (hbefore : d.before.Remembers x deeds id) :
    d.after.Remembers x (deeds ++ [d]) id := by
  obtain ⟨hshown, hkept⟩ := hbefore
  have hearlier {key : FrameKey} (h : WasShown (deeds ++ [d]) id key) : WasShown deeds id key := by
    rcases wasShown_concat h with h | ⟨snapshot, hgets, -⟩
    · exact h
    · exact absurd hgets hdies.not_gets
  constructor
  case shown =>
    intro key h
    rw [chronicle_concat]
    exact List.mem_append_left _ (hshown key (hearlier h))
  case kept =>
    intro c' cached number hclient hbody hvalid
    obtain ⟨c, hbefore, hsame⟩ := hdies.client hclient
    obtain ⟨hmem, horder⟩ := hkept c cached number hbefore (hsame ▸ hbody) hvalid
    rw [chronicle_concat]
    exact ⟨List.mem_append_left _ hmem, fun key h => (horder key (hearlier h)).append⟩

/-- A step shows nothing that is older than what was kept, and keeps what it shows. -/
theorem Valid.remembers (hvalid : d.Valid) (hordered : d.before.Ordered)
    (hnodup : (chronicle x (deeds ++ [d])).Nodup)
    (hlast : ∀ h, d.captured id = some h →
      (chronicle x (deeds ++ [d])).getLast? = some h.key)
    (hbefore : d.before.Remembers x deeds id) : d.after.Remembers x (deeds ++ [d]) id := by
  obtain ⟨hshown, hkept⟩ := hbefore
  -- what is kept after the step is the last key, or was there before and is not older than all
  -- that was shown
  have hafter {c : Client} {cached : CachedReader} {number : Nat}
      (hclient : d.after.clients.get? id = some c) (hbody : c.body = .cached cached number)
      (hframe : cached.cache.isValid = true) : cached.cache.key ∈ chronicle x (deeds ++ [d]) ∧
        ∀ key, WasShown deeds id key →
          InOrder (chronicle x (deeds ++ [d])) key cached.cache.key := by
    rcases hvalid.tends hordered hclient hbody with
      ⟨hempty, -⟩ | ⟨c₀, before, n, hold, hwas, htends⟩
    · rw [hempty] at hframe
      cases hframe
    · rcases htends.cache hframe with heq | ⟨h, hcaptured, hheader⟩
      · rw [heq] at hframe ⊢
        obtain ⟨hmem, horder⟩ := hkept c₀ before n hold hwas hframe
        rw [chronicle_concat]
        exact ⟨List.mem_append_left _ hmem, fun key h => (horder key h).append⟩
      · rw [Snapshot.key_of_header hheader]
        have hend := hlast h hcaptured
        refine ⟨List.mem_of_getLast? hend, fun key hwas => .of_last hnodup hend ?_⟩
        rw [chronicle_concat]
        exact List.mem_append_left _ (hshown key hwas)
  constructor
  case shown =>
    intro key h
    rcases wasShown_concat h with h | ⟨snapshot, hgets, hframe, rfl⟩
    · rw [chronicle_concat]
      exact List.mem_append_left _ (hshown key h)
    · obtain ⟨c', cached', number, hclient, hbody, rfl⟩ := hvalid.keeps hordered hgets hframe
      exact (hafter hclient hbody hframe).1
  case kept =>
    intro c' cached' number hclient hbody hframe
    obtain ⟨hmem, horder⟩ := hafter hclient hbody hframe
    refine ⟨hmem, fun key h => ?_⟩
    rcases wasShown_concat h with h | ⟨snapshot, hgets, hshows, rfl⟩
    · exact horder key h
    · obtain ⟨c₁, cached₁, n, hclient₁, hbody₁, rfl⟩ := hvalid.keeps hordered hgets hshows
      cases hclient₁.symm.trans hclient
      cases hbody₁.symm.trans hbody
      exact .refl hmem

end Deed

namespace Course

variable {names : RegionNames} {host : Host} {y : Exchange} {deeds : List Deed} {id : Nat}

/-- What a cached reader keeps is not older than anything it has shown. -/
theorem remembers (id : Nat) (hcourse : Course (.start names host) deeds y)
    (hfresh : FreshSessions (.start names host) deeds) (hunwrapped : Unwrapped deeds) :
    y.Remembers (.start names host) deeds id := by
  induction hcourse with
  | nil =>
    refine ⟨fun key hshown => ?_, fun c cached number hclient => ?_⟩
    · obtain ⟨d, hmem, -⟩ := hshown
      cases hmem
    · cases hclient
  | step hcourse hvalid ih =>
    have htimeline := (Course.step hcourse hvalid).timeline hfresh hunwrapped
    refine hvalid.remembers hcourse.ordered htimeline.nodup (fun h hcaptured => ?_)
      (ih hfresh.append_left hunwrapped.append_left)
    exact (Course.step hcourse hvalid).last_of_sees (.inl hcaptured)
  | death hcourse hdies ih => exact hdies.remembers (ih hfresh.append_left hunwrapped.append_left)

section

variable {earlier between : List Deed} {d e : Deed} {id' : Nat} {h h' : Header}
  {snapshot snapshot' : Snapshot}

/-- Two looks at the header, one after the other. -/
theorem sees_inOrder (hcourse : Course (.start names host) (earlier ++ d :: between ++ [e]) y)
    (hfresh : FreshSessions (.start names host) (earlier ++ d :: between ++ [e]))
    (hunwrapped : Unwrapped (earlier ++ d :: between ++ [e])) (hsees : d.Sees id h)
    (hsees' : e.Sees id' h') :
    InOrder (chronicle (.start names host) (earlier ++ d :: between ++ [e])) h.key h'.key := by
  refine .of_last (hcourse.timeline hfresh hunwrapped).nodup (hcourse.last_of_sees hsees') ?_
  rw [List.append_assoc, List.cons_append] at hcourse ⊢
  rw [List.append_cons, chronicle_append]
  exact List.mem_append_left _ (List.mem_of_getLast? (hcourse.last_of_sees hsees))

/-- Two frames that are shown, one after the other. -/
theorem gets_inOrder (hcourse : Course (.start names host) (earlier ++ d :: between ++ [e]) y)
    (hfresh : FreshSessions (.start names host) (earlier ++ d :: between ++ [e]))
    (hunwrapped : Unwrapped (earlier ++ d :: between ++ [e])) (hgets : d.Gets id snapshot)
    (hgets' : e.Gets id snapshot') (hframe : snapshot.isValid = true)
    (hframe' : snapshot'.isValid = true) :
    InOrder (chronicle (.start names host) (earlier ++ d :: between ++ [e])) snapshot.key
      snapshot'.key := by
  have hremembers := hcourse.remembers id hfresh hunwrapped
  obtain ⟨hearlier, hentry, rfl⟩ := snoc_iff.mp hcourse
  have hvalid := hentry.resolve_right fun hdies => hdies.not_gets hgets'
  obtain ⟨c, cached, number, hclient, hbody, rfl⟩ := hvalid.keeps hearlier.ordered hgets' hframe'
  refine (hremembers.kept c cached number hclient hbody hframe').2 _ ?_
  exact ⟨d, by simp, snapshot, hgets, hframe, rfl⟩

/-- A cached reader never copies a frame that is behind the one it keeps. -/
theorem not_behind {c : Client} {cached : CachedReader} {number : Nat}
    (hcourse : Course (.start names host) (earlier ++ [d]) y)
    (hfresh : FreshSessions (.start names host) (earlier ++ [d]))
    (hunwrapped : Unwrapped (earlier ++ [d])) (hclient : d.before.clients.get? id = some c)
    (hbody : c.body = .cached cached number) (hcaptured : d.captured id = some h) :
    ¬cached.Behind h := by
  rintro ⟨hframe, hsession, hlt⟩
  have htimeline := hcourse.timeline hfresh hunwrapped
  have hlast := hcourse.last_of_sees (.inl hcaptured)
  have hearlier := (snoc_iff.mp hcourse).1
  have hremembers := hearlier.remembers id hfresh.append_left hunwrapped.append_left
  have hkept := hremembers.kept c cached number hclient hbody hframe
  rw [chronicle_concat] at htimeline hlast
  have hle : cached.cache.key.frame ≤ h.frame :=
    htimeline.le_last hlast (List.mem_append_left _ hkept.1) hsession.symm
  rw [cached.cache.frame_key] at hle
  exact absurd hlt (UInt64.not_lt.mpr hle)

end

end Course

/-! ## All of it -/

/-- All sessions and frames come in one sequence, and everybody sees them in its order. -/
structure InPublicationOrder (x : Exchange) (deeds : List Deed) : Prop where
  /-- No key comes twice. -/
  distinct : (chronicle x deeds).Nodup
  /-- A session begins with number zero, and its frames are counted one by one. -/
  counted : x.header.frame = 0 ∧ (chronicle x deeds).IsChain FrameKey.Next
  /-- Writers that are opened, detach or end with the lock begin a session that was never there
  before, and so does whoever takes the lock of a dead owner. -/
  starts : ∀ earlier d later, deeds = earlier ++ d :: later → d.Starts →
    d.Resets ∧ ∀ key ∈ chronicle x earlier, key.session ≠ d.after.header.session
  /-- No other step begins a session. -/
  begun : ∀ earlier d later, deeds = earlier ++ d :: later → d.Valid →
    (d.Starts ↔ d.drawn ≠ [])
  /-- Whoever copies the header finds the last key of the sequence. -/
  current : ∀ earlier d later id h, deeds = earlier ++ d :: later → d.Sees id h →
    (chronicle x (earlier ++ [d])).getLast? = some h.key
  /-- No reader goes back, nor does one reader find less than another one before it. -/
  captures : ∀ earlier d between e later id id' h h',
    deeds = earlier ++ d :: between ++ e :: later → d.Sees id h → e.Sees id' h' →
      InOrder (chronicle x deeds) h.key h'.key
  /-- A cached reader never shows an older frame than before. -/
  shows : ∀ earlier d between e later id snapshot snapshot',
    deeds = earlier ++ d :: between ++ e :: later → d.Gets id snapshot → e.Gets id snapshot' →
      snapshot.isValid = true → snapshot'.isValid = true →
      InOrder (chronicle x deeds) snapshot.key snapshot'.key
  /-- No object warns that frame numbers went backwards. -/
  silent : ∀ earlier d later, deeds = earlier ++ d :: later → d.Valid →
    (∀ processes clock opened events, d.move ≠ .elapse processes clock opened events) →
      d.before.host.Logs Event.Onward d.after.host

/-- On every region, whoever publishes, detaches, takes over or dies. -/
theorem Course.inPublicationOrder {names : RegionNames} {host : Host} {y : Exchange}
    {deeds : List Deed} (hcourse : Course (.start names host) deeds y)
    (hfresh : FreshSessions (.start names host) deeds) (hunwrapped : Unwrapped deeds) :
    InPublicationOrder (.start names host) deeds := by
  have htimeline := hcourse.timeline hfresh hunwrapped
  constructor
  case distinct => exact htimeline.nodup
  case counted => exact ⟨Exchange.frame_start names host, htimeline.chain⟩
  case starts =>
    rintro earlier d later rfl hstarts
    obtain ⟨hresets, hnever⟩ := hcourse.starts hfresh hstarts
    exact ⟨hresets, fun key hmem heq => hnever (heq ▸ hcourse.deed.1.session_mem hmem)⟩
  case begun =>
    rintro earlier d later rfl hvalid
    exact hvalid.starts_iff hcourse.deed.1.ordered
  case current =>
    rintro earlier d later id h rfl hsees
    exact hcourse.last_of_sees hsees
  case captures =>
    intro earlier d between e later id id' h h' heq hsees hsees'
    rw [List.append_cons] at heq
    subst heq
    obtain ⟨z, hfirst, -⟩ := append_iff.mp hcourse
    rw [chronicle_append]
    exact (hfirst.sees_inOrder hfresh.append_left hunwrapped.append_left hsees hsees').append
  case shows =>
    intro earlier d between e later id snapshot snapshot' heq hgets hgets' hframe hframe'
    rw [List.append_cons] at heq
    subst heq
    obtain ⟨z, hfirst, -⟩ := append_iff.mp hcourse
    rw [chronicle_append]
    exact (hfirst.gets_inOrder hfresh.append_left hunwrapped.append_left hgets hgets' hframe
      hframe').append
  case silent =>
    rintro earlier d later rfl hvalid helapsed
    have hearlier := hcourse.deed.1
    rw [List.append_cons] at hfresh hunwrapped
    refine hearlier.ordered.logs hvalid helapsed ?_
    intro id c cached number h hclient hbody hcaptured
    exact (Course.step hearlier hvalid).not_behind hfresh.append_left hunwrapped.append_left hclient
      hbody hcaptured

/-- A writer publishes, another one takes over and publishes, and begins one more frame. A cached
reader looks on. -/
def Exchange.takeoverScript : List (Thread × Move) :=
  let look : Thread × Move := (⟨7, 0⟩, .call 2 (.get .fresh))
  [(⟨7, 0⟩, .openWriter 0 5), (⟨7, 0⟩, .openCached 2 .viewer), (⟨7, 0⟩, .call 2 (.restart 5 2))] ++
    turn ⟨7, 0⟩ 0 ++ [look, (⟨7, 0⟩, .call 0 (.lock .blocking)), (⟨7, 0⟩, .call 0 .submitEmpty),
      (⟨7, 0⟩, .call 0 (.release false)), look, (⟨7, 1⟩, .openWriter 1 5), look] ++
    turn ⟨7, 1⟩ 1 ++ [look, (⟨7, 1⟩, .call 1 (.lock .blocking)), (⟨7, 1⟩, .call 1 .beginFrame)]

/-- The first writer goes on after the second one has died. -/
def Exchange.aftermathScript : List (Thread × Move) :=
  [(⟨7, 0⟩, .call 2 (.get .fresh))] ++ turn ⟨7, 0⟩ 0 ++ [(⟨7, 0⟩, .call 2 (.get .fresh))]

/-- The second writer dies in the middle of a frame, and leaves a header with more layers than
fit. -/
theorem Course.inPublicationOrder_torn : ∃ first x second y,
    Exchange.sample.play Exchange.takeoverScript = some (first, x) ∧
    ∃ torn, torn = x.broken ⟨7, 1⟩ (Header.codec.encode (.forged 1 200)) x.host ∧
    torn.play Exchange.aftermathScript = some (second, y) ∧
    ∃ deeds, deeds = first ++ ⟨x, ⟨7, 1⟩, .die, .done, torn⟩ :: second ∧
    Course Exchange.sample deeds y ∧ FreshSessions Exchange.sample deeds ∧ Unwrapped deeds ∧
    (chronicle Exchange.sample deeds).map FrameKey.frame = [0, 0, 1, 2, 0, 1, 0, 1] ∧
    InPublicationOrder Exchange.sample deeds := by
  have hplayed : ((Exchange.sample.play Exchange.takeoverScript).bind fun (first, x) =>
      let torn := x.broken ⟨7, 1⟩ (Header.codec.encode (.forged 1 200)) x.host
      (torn.play Exchange.aftermathScript).map fun (second, _) =>
        let deeds := first ++ ⟨x, ⟨7, 1⟩, .die, .done, torn⟩ :: second
        ((x.dead, x.mutex.holding, x.memory.length), decide (FreshSessions Exchange.sample deeds),
          deeds.length, (chronicle Exchange.sample deeds).map FrameKey.frame)) =
      some (([], .held ⟨7, 1⟩, Header.byteSize), true, 28, [0, 0, 1, 2, 0, 1, 0, 1]) := by
    decide +kernel
  obtain ⟨⟨first, x⟩, hfirst, hrest⟩ := Option.bind_eq_some_iff.mp hplayed
  obtain ⟨⟨second, y⟩, hsecond, hfacts⟩ := Option.map_eq_some_iff.mp hrest
  obtain ⟨hstate, hfacts⟩ := Prod.mk.inj hfacts
  obtain ⟨hdead, hstate⟩ := Prod.mk.inj hstate
  obtain ⟨hheld, hlength⟩ := Prod.mk.inj hstate
  obtain ⟨hfresh, hfacts⟩ := Prod.mk.inj hfacts
  obtain ⟨hcount, hkeys⟩ := Prod.mk.inj hfacts
  have halive : (⟨7, 1⟩ : Thread) ∉ x.dead := by
    rw [show x.dead = [] from hdead]
    exact List.not_mem_nil
  have hcourse := Course.of_torn hfirst halive hheld
    ((Codec.length_encode ..).trans hlength.symm) hsecond
  have hfresh := of_decide_eq_true hfresh
  have hunwrapped := unwrapped_of_length (by rw [hcount]; decide)
  exact ⟨first, x, second, y, hfirst, _, rfl, hsecond, _, rfl, hcourse, hfresh, hunwrapped, hkeys,
    Course.inPublicationOrder hcourse hfresh hunwrapped⟩

end FrameExchange
