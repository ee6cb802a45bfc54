import FrameExchange.Proofs.Capturing

/-!
# Frames of sessions that are over

A frame that a cached reader shows is a picture of the header it has copied in this call, or in an
earlier one. Since then the reader may have copied headers of which it made no picture, because they
were of no use, or could not be shown, or only their metadata was asked for. These change the
session of the reader, but not the frame that it shows.

- `headersCopied`, `sessionAfter` — what a reader has copied, and the session it knows then.
- `Pictures` — when a snapshot was made, and what the reader has done since.
- `Course.pictures` — every snapshot in a cache was made in this way.
- `Course.sessionShown` — the snapshot is of the reader's session exactly if the reader has not
  copied a header of another session since.
-/

namespace FrameExchange

/-! ## Copies -/

/-- The headers that the reader with this number has copied in these steps. -/
def headersCopied (deeds : List Deed) (id : Nat) : List Header := deeds.filterMap (·.captured id)

/-- The session of a reader after these steps, if it was this one before. -/
def sessionAfter (deeds : List Deed) (id : Nat) (session : UInt64) : UInt64 :=
  ((headersCopied deeds id).getLast?.map Header.session).getD session

theorem sessionAfter_concat (deeds : List Deed) (d : Deed) (id : Nat) (session : UInt64) :
    sessionAfter (deeds ++ [d]) id session =
      ((d.captured id).map Header.session).getD (sessionAfter deeds id session) := by
  rw [sessionAfter, headersCopied, List.filterMap_append]
  cases hcaptured : d.captured id with
  | none =>
    simp only [List.filterMap_cons, hcaptured, List.filterMap_nil, List.append_nil]
    rfl
  | some h =>
    simp only [List.filterMap_cons, hcaptured, List.filterMap_nil, List.getLast?_concat]
    rfl

/-- The session is another one only where the last header that was copied is of another one. -/
theorem sessionAfter_eq_iff {deeds : List Deed} {id : Nat} {session : UInt64} :
    session = sessionAfter deeds id session ↔
      ∀ h, (headersCopied deeds id).getLast? = some h → h.session = session := by
  rw [sessionAfter]
  cases (headersCopied deeds id).getLast? with
  | none =>
    constructor
    · intro _ h heq
      cases heq
    · intro _
      rfl
  | some last =>
    constructor
    · intro hsession h heq
      cases heq
      exact hsession.symm
    · intro hlast
      exact (hlast last rfl).symm

/-! ## Pictures -/

namespace Deed

/-- The reader has made no newer picture in this step. If it has copied a header, this was for the
metadata, or the header was of no use, or it could not be shown. -/
structure Passes (d : Deed) (id : Nat) (snapshot : Snapshot) : Prop where
  again : ∀ other, d.Gets id other → other.isValid = true → other = snapshot
  missed : ∀ h, d.captured id = some h → (∀ other, ¬d.Gets id other) ∨ ¬h.Usable ∨
    ∃ other, d.Gets id other ∧ other.isValid = false

variable {d : Deed} {id : Nat} {snapshot other : Snapshot} {c c' : CachedReader}

/-- A step shows one snapshot. -/
theorem Gets.unique (hgets : d.Gets id snapshot) (hother : d.Gets id other) : other = snapshot := by
  obtain ⟨_, _, _, hanswer⟩ := hgets
  obtain ⟨_, _, _, hanswer'⟩ := hother
  cases hanswer.symm.trans hanswer'
  rfl

/-- What a step makes of the session of a cached reader. -/
theorem Tends.session (htends : d.Tends id c c') :
    c'.reader.session = ((d.captured id).map Header.session).getD c.reader.session := by
  cases htends with
  | same hnone => rw [hnone]; rfl
  | restarted gpu length hnone => rw [hnone]; rfl
  | looked _ hsession => exact hsession
  | served _ _ hsession => exact hsession

/-- A frame that is kept after a step was kept before, or it is a picture that was made in it. -/
theorem Tends.picture (htends : d.Tends id c c') (hkept : c'.cache.isValid = true) :
    c'.cache = c.cache ∧ d.Passes id c.cache ∨
      d.Gets id c'.cache ∧ ∃ h, d.captured id = some h ∧ c'.cache.header? = some h := by
  have hunseen (hnone : d.captured id = none) (h : Header) (hcaptured : d.captured id = some h) :
      (∀ other, ¬d.Gets id other) ∨ ¬h.Usable ∨
        ∃ other, d.Gets id other ∧ other.isValid = false := by
    rw [hnone] at hcaptured
    cases hcaptured
  cases htends with
  | same hnone hnever =>
    exact .inl ⟨rfl, fun other hgets => absurd hgets (hnever other), hunseen hnone⟩
  | restarted => cases hkept
  | looked hnever =>
    exact .inl ⟨rfl, fun other hgets => absurd hgets (hnever other), fun _ _ => .inl hnever⟩
  | @served snapshot _ hgets hserves =>
    have hthis (hinvalid : snapshot.isValid = false) (other : Snapshot) (hother : d.Gets id other)
        (hframe : other.isValid = true) : other = c.cache := by
      rw [hgets.unique hother, hinvalid] at hframe
      cases hframe
    generalize hfound : d.captured id = found at hserves
    cases hserves with
    | detached => cases hkept
    | noRing hnone => exact .inl ⟨rfl, hthis rfl, hunseen (hfound.trans hnone)⟩
    | again hnone =>
      exact .inl ⟨rfl, fun other hother _ => hgets.unique hother, hunseen (hfound.trans hnone)⟩
    | useless hseen husable =>
      refine .inl ⟨rfl, fun other hother _ => hgets.unique hother, fun h hcaptured => ?_⟩
      cases (hfound.trans hseen).symm.trans hcaptured
      exact .inr (.inl husable)
    | @fresh h snapshot reader ring hseen _ _ _ hpicture =>
      rw [CachedReader.cache_after] at hkept ⊢
      cases hvalid : snapshot.isValid with
      | true => exact .inr ⟨hgets, h, hseen, hpicture hvalid⟩
      | false =>
        refine .inl ⟨rfl, hthis hvalid, fun _ _ => ?_⟩
        exact .inr (.inr ⟨snapshot, hgets, hvalid⟩)

/-- Nobody makes a picture by dying. -/
theorem Dies.passes (hdies : d.Dies) : d.Passes id snapshot :=
  ⟨fun _ hgets => absurd hgets hdies.not_gets, fun _ _ => .inl fun _ => hdies.not_gets⟩

end Deed

/-- The snapshot was made in this step, and the reader has come to this session since. -/
structure Pictures (id : Nat) (snapshot : Snapshot) (made : Deed) (since : List Deed)
    (session : UInt64) : Prop where
  shown : made.Gets id snapshot
  /-- It is a picture of the header that was copied in the step. -/
  picture : ∃ h, made.captured id = some h ∧ snapshot.header? = some h
  passed : ∀ d ∈ since, d.Passes id snapshot
  session : session = sessionAfter since id snapshot.key.session

namespace Course

variable {names : RegionNames} {host : Host} {y : Exchange} {deeds : List Deed} {id : Nat}

/-- Every snapshot in a cache was made in one of the steps. -/
theorem pictures {c : Client} {cached : CachedReader} {number : Nat}
    (hcourse : Course (.start names host) deeds y) (hclient : y.clients.get? id = some c)
    (hbody : c.body = .cached cached number) (hkept : cached.cache.isValid = true) :
    ∃ before made since, deeds = before ++ made :: since ∧
      Pictures id cached.cache made since cached.reader.session := by
  induction hcourse generalizing c cached number with
  | nil => cases hclient
  | @step deeds d hcourse hvalid ih =>
    rcases hvalid.tends hcourse.ordered hclient hbody with
      ⟨hempty, -⟩ | ⟨c₀, old, n, hbefore, hwas, htends⟩
    · rw [hempty] at hkept
      cases hkept
    · rcases htends.picture hkept with ⟨hsame, hpasses⟩ | ⟨hgets, h, hcaptured, hheader⟩
      · rw [hsame] at hkept ⊢
        obtain ⟨before, made, since, rfl, hshown, hpicture, hpassed, hsession⟩ :=
          ih hbefore hwas hkept
        refine ⟨before, made, since ++ [d], by simp, hshown, hpicture, ?_, ?_⟩
        · rw [List.forall_mem_append]
          exact ⟨hpassed, fun e hmem => List.mem_singleton.mp hmem ▸ hpasses⟩
        · rw [sessionAfter_concat, ← hsession]
          exact htends.session
      · have hnone : ∀ e ∈ ([] : List Deed), e.Passes id cached.cache := List.forall_mem_nil _
        refine ⟨deeds, d, [], rfl, hgets, ⟨h, hcaptured, hheader⟩, hnone, ?_⟩
        rw [htends.session, hcaptured, Snapshot.key_of_header hheader]
        rfl
  | @death deeds d hcourse hdies ih =>
    obtain ⟨c₀, hbefore, hsame⟩ := hdies.client hclient
    obtain ⟨before, made, since, rfl, hshown, hpicture, hpassed, hsession⟩ :=
      ih hbefore (hsame ▸ hbody) hkept
    refine ⟨before, made, since ++ [d], by simp, hshown, hpicture, ?_, ?_⟩
    · rw [List.forall_mem_append]
      exact ⟨hpassed, fun e hmem => List.mem_singleton.mp hmem ▸ hdies.passes⟩
    · rw [sessionAfter_concat, ← hsession, Deed.captured_other hdies.not_call]
      rfl

/-- A frame that a cached reader shows is a picture of the header it has copied in this call or in
an earlier one. It is of the session that the reader knows if and only if the last header that the
reader has copied since, if there is one, is of the same session. -/
theorem sessionShown {earlier later : List Deed} {d : Deed} {snapshot : Snapshot}
    (hcourse : Course (.start names host) (earlier ++ d :: later) y) (hgets : d.Gets id snapshot)
    (hframe : snapshot.isValid = true) : ∃ before made since c cached number,
      earlier ++ [d] = before ++ made :: since ∧ d.after.clients.get? id = some c ∧
      c.body = .cached cached number ∧ Pictures id snapshot made since cached.reader.session ∧
      (snapshot.key.session = cached.reader.session ↔
        ∀ h, (headersCopied since id).getLast? = some h → h.session = snapshot.key.session) := by
  obtain ⟨hearlier, hentry, -⟩ := hcourse.deed
  have hvalid := hentry.resolve_right fun hdies => hdies.not_gets hgets
  obtain ⟨c, cached, number, hclient, hbody, rfl⟩ := hvalid.keeps hearlier.ordered hgets hframe
  obtain ⟨before, made, since, heq, hpictures⟩ :=
    (Course.step hearlier hvalid).pictures hclient hbody hframe
  refine ⟨before, made, since, c, cached, number, heq, hclient, hbody, hpictures, ?_⟩
  rw [hpictures.session]
  exact sessionAfter_eq_iff

end Course

/-- A cached reader has shown a frame. While it does nothing the next frame is published, and then
another thread dies with the lock. -/
def Exchange.staleScript : List (Thread × Move) :=
  [(⟨7, 0⟩, .openWriter 0 5), (⟨7, 0⟩, .openCached 1 .viewer), (⟨7, 0⟩, .call 1 (.restart 5 2))] ++
    turn ⟨7, 0⟩ 0 ++ [(⟨7, 0⟩, .call 1 (.get .fresh))] ++ turn ⟨7, 0⟩ 0 ++
    [(⟨7, 1⟩, .openReader 2), (⟨7, 1⟩, .call 2 (.lock .blocking)), (⟨7, 1⟩, .die)]

/-- The session of the snapshot in an answer. -/
def Answer.session? : Answer → Option UInt64
  | .shown snapshot _ => if snapshot.isValid then some snapshot.key.session else none
  | _ => none

/-- The next read takes the lock, which begins a session, and still shows the frame of the last
one. -/
theorem Course.sessionShown_stale : ∃ earlier d snapshot,
    Exchange.sample.play Exchange.staleScript = some (earlier, d.before) ∧
    Course Exchange.sample (earlier ++ [d]) d.after ∧ d.Gets 1 snapshot ∧
    snapshot.isValid = true ∧ ∃ before made since c cached number,
      earlier ++ [d] = before ++ made :: since ∧ d.after.clients.get? 1 = some c ∧
      c.body = .cached cached number ∧ Pictures 1 snapshot made since cached.reader.session ∧
      (snapshot.key.session = cached.reader.session ↔
        ∀ h, (headersCopied since 1).getLast? = some h → h.session = snapshot.key.session) ∧
      snapshot.key.session ≠ cached.reader.session := by
  have hplayed : ((Exchange.sample.play Exchange.staleScript).bind fun (_, x) =>
      (x.step ⟨7, 0⟩ (.call 1 (.get .fresh))).map fun (answer, y) =>
        (answer.session?, (y.clients.get? 1).bind fun c => c.body.reader?.map Reader.session)) =
      some (some 30064771073, some 30064771074) := by
    decide +kernel
  obtain ⟨⟨earlier, x⟩, hplay, hrest⟩ := Option.bind_eq_some_iff.mp hplayed
  obtain ⟨⟨answer, y⟩, hstep, hfacts⟩ := Option.map_eq_some_iff.mp hrest
  obtain ⟨hshown, hknown⟩ := Prod.mk.inj hfacts
  obtain ⟨snapshot, calls, rfl⟩ : ∃ snapshot calls, answer = .shown snapshot calls := by
    cases answer with
    | shown snapshot calls => exact ⟨snapshot, calls, rfl⟩
    | _ => cases hshown
  obtain ⟨hframe, hsession⟩ : snapshot.isValid = true ∧ snapshot.key.session = 30064771073 := by
    replace hshown : (if snapshot.isValid then some snapshot.key.session else none) = _ := hshown
    split at hshown
    · next hframe => exact ⟨hframe, Option.some.inj hshown⟩
    · cases hshown
  have hcourse := Course.step (d := ⟨x, ⟨7, 0⟩, .call 1 (.get .fresh), .shown snapshot calls, y⟩)
    (of_run (Run.of_play hplay)) hstep
  obtain ⟨before, made, since, c, cached, number, heq, hclient, hbody, hpictures, hiff⟩ :=
    Course.sessionShown hcourse ⟨_, calls, rfl, rfl⟩ hframe
  refine ⟨earlier, _, snapshot, hplay, hcourse, ⟨_, calls, rfl, rfl⟩, hframe, before, made, since,
    c, cached, number, heq, hclient, hbody, hpictures, hiff, ?_⟩
  have hreader : cached.reader.session = 30064771074 := by
    rw [show y.clients.get? 1 = some c from hclient, Option.bind_some, hbody] at hknown
    exact Option.some.inj hknown
  rw [hsession, hreader]
  decide

end FrameExchange
