import FrameExchange.Proofs.History

/-!
# What readers ask copiers for

A read asks for at most one copy, and only where its reader trusts the header. The copy is made out
of the handles that the reader keeps for the slot of the frame; how they got there is what every
call does to the handles of a reader.

- `copiesIn`, `Answer.copies` — the copies among the calls of a copier, and in a step.
- `Reader.Finds` — the handles of a header: those at hand, or fresh duplicates.
- `Deed.Copies`, `Deed.Valid.copies` — the one kind of step that copies.
- `Reader.Vouched`, `Exchange.Happens.vouched` — what holds of handles when they are duplicated
  holds as long as they are kept.
-/

namespace FrameExchange

/-! ## Calls of a copier -/

/-- The copy that a call asks for, if it asks for one. -/
def CopierCall.request? : CopierCall → Option CopyRequest
  | .create .. => none
  | .copy request => some request

/-- The copies that were asked for, in their order. -/
def copiesIn (calls : List CopierCall) : List CopyRequest := calls.filterMap CopierCall.request?

/-- The copies that were asked for in a step with this answer. -/
def Answer.copies : Answer → List CopyRequest
  | .shown _ calls => copiesIn calls
  | _ => []

namespace Copier

/-- Every copy is recorded, however it ends. -/
theorem calls_copy (c : Copier) (request : CopyRequest) :
    (c.copy request).2.calls = c.calls ++ [.copy request] := by
  unfold copy
  cases c.copyFault with
  | none => rfl
  | some fault => cases hdespite : copiesDespite fault <;> simp [hdespite]

theorem copiesIn_copy (c : Copier) (request : CopyRequest) :
    copiesIn (c.copy request).2.calls = copiesIn c.calls ++ [request] := by
  rw [calls_copy, copiesIn, List.filterMap_append]
  rfl

/-- To make a texture is no copy. -/
theorem copiesIn_create (c : Copier) (index : Nat) (size : PixelSize) :
    copiesIn (c.create index size).2.calls = copiesIn c.calls := by
  have hcalls : (c.create index size).2.calls = c.calls ++ [.create index size] := by
    unfold create
    cases c.createFault with
    | none => rfl
    | some fault => rfl
  rw [hcalls, copiesIn, List.filterMap_append]
  exact List.append_nil _

end Copier

/-! ## Files of a process -/

namespace Host

variable {host : Host} {opened : OpenedProcess} {caller pid : UInt32} {raw : UInt64}

/-- The file that the process with the number `pid` has under the handle `raw` now. -/
def holds (host : Host) (pid : UInt32) (raw : UInt64) : Option OpenFile :=
  if largestDescriptor < raw.toNat then none
  else (host.running? pid).bind fun process => process.descriptors.get? raw.toNat

/-- What is duplicated is what the process has open. -/
theorem holds_of_duplicate {file : OpenFile} (h : host.duplicate opened raw = .ok file) :
    host.holds opened.pid raw = some file := by
  unfold duplicate opened? at h
  split at h
  · cases h
  · next hnumber =>
    split at h
    · cases h
    · next process hprocess =>
      obtain ⟨hrunning, -⟩ := Option.filter_eq_some_iff.mp hprocess
      rw [holds, if_neg hnumber, hrunning, Option.bind_some]
      split at h
      · next hfile =>
        cases h
        exact hfile
      · cases h

/-- A process that was opened has the number it was asked for by. -/
theorem pid_openProcess (h : host.openProcess caller pid = .ok opened) : opened.pid = pid := by
  unfold openProcess at h
  split at h
  · cases h
    rfl
  · split at h
    · cases h
    · split at h
      · cases h
      · split at h
        · cases h
          rfl
        · cases h

end Host

/-! ## Copies -/

/-- A destination that is found or made without a copy. -/
def Reader.Destination.Plain (destination : Reader.Destination) : Prop :=
  ∀ copier, copiesIn (destination copier).2.calls = copiesIn copier.calls

/-- A place in a ring is found or made without a copy. -/
theorem CachedReader.destination_plain (c : CachedReader) (h : Header) :
    (c.destination h).Plain := by
  intro copier
  show copiesIn (place c.ring c.next h.config.textureSize copier).2.2.calls = _
  unfold place
  split
  · rfl
  · split
    · rfl
    · split
      · rfl
      · have hcreate := copier.copiesIn_create c.next h.config.textureSize
        split
        · next hresult => rw [hresult] at hcreate; exact hcreate
        · next hresult => rw [hresult] at hcreate; exact hcreate

namespace Reader

variable {r r' : Reader} {host : Host} {caller : UInt32} {h : Header} {handles : SlotHandles}

/-! ## Handles -/

/-- The reader has the feeder of this header open, or it has not, and can open it. -/
def Reaches (r : Reader) (host : Host) (caller : UInt32) (h : Header) (feeder : OpenedProcess) :
    Prop :=
  (r.feeder = some feeder ∧ feeder.pid = h.feederPid) ∨
    (∀ other, r.feeder = some other → other.pid ≠ h.feederPid) ∧
      host.openProcess caller h.feederPid = .ok feeder

/-- How a reader comes by the handles of a header. -/
inductive Finds (r : Reader) (host : Host) (h : Header) : SlotHandles → Reader → Prop where
  | known {handles : SlotHandles} : r.slots.get h.slot = some handles → handles.matches h = true →
      Finds r host h handles r
  | duplicated {feeder : OpenedProcess} {texture fence : OpenFile} :
      (∀ known, r.slots.get h.slot = some known → known.matches h = false) →
      host.holds h.feederPid h.texture = some texture →
      host.holds h.feederPid h.fence = some fence →
      Finds r host h ⟨h.texture, h.fence, texture, fence⟩ { r with
        feeder := some feeder
        slots := r.slots.set h.slot (some ⟨h.texture, h.fence, texture, fence⟩) h.slot_lt }

theorem reach_eq_ok_iff {feeder : OpenedProcess} :
    r.reach host caller h = .ok feeder ↔ r.Reaches host caller h feeder := by
  unfold reach Reaches
  cases hfeeder : r.feeder with
  | none => simp
  | some other =>
    by_cases hpid : other.pid = h.feederPid
    · simp only [if_pos hpid, Except.ok.injEq, Option.some.injEq]
      constructor
      · rintro rfl
        exact .inl ⟨rfl, hpid⟩
      · rintro (⟨rfl, -⟩ | ⟨hother, -⟩)
        · rfl
        · exact absurd hpid (hother other rfl)
    · simp only [if_neg hpid, Option.some.injEq]
      constructor
      · intro hopen
        refine .inr ⟨?_, hopen⟩
        rintro _ rfl
        exact hpid
      · rintro (⟨rfl, hsame⟩ | ⟨-, hopen⟩)
        · exact absurd hsame hpid
        · exact hopen

/-- The feeder that is reached is the one that the header names. -/
theorem Reaches.pid {feeder : OpenedProcess} (hreaches : r.Reaches host caller h feeder) :
    feeder.pid = h.feederPid := by
  rcases hreaches with ⟨-, hpid⟩ | ⟨-, hopen⟩
  · exact hpid
  · exact Host.pid_openProcess hopen

/-- Fresh duplicates are of the header's own handles, which the feeder has open. -/
theorem duplicateHandles_eq_ok_iff {feeder : OpenedProcess} :
    r.duplicateHandles host caller h = .ok (feeder, handles) ↔
      r.Reaches host caller h feeder ∧
        ∃ texture fence, host.duplicate feeder h.texture = .ok texture ∧
          host.duplicate feeder h.fence = .ok fence ∧
          handles = ⟨h.texture, h.fence, texture, fence⟩ := by
  rw [← reach_eq_ok_iff, duplicateHandles]
  simp only [bind_eq_ok_iff]
  constructor
  · rintro ⟨_, hreach, texture, htexture, fence, hfence, hfound⟩
    cases hfound
    exact ⟨hreach, texture, fence, htexture, hfence, rfl⟩
  · rintro ⟨hreach, texture, fence, htexture, hfence, rfl⟩
    exact ⟨feeder, hreach, texture, htexture, fence, hfence, rfl⟩

/-- Handles that a reader has found. -/
theorem finds (hfound : r.handles host caller h = .ok (handles, r')) :
    r.Finds host h handles r' := by
  have hfresh (hunknown : ∀ known, r.slots.get h.slot = some known → known.matches h = false)
      (hfresh : Reader.handles.fresh r host caller h = .ok (handles, r')) :
      r.Finds host h handles r' := by
    unfold Reader.handles.fresh at hfresh
    cases hnew : r.duplicateHandles host caller h with
    | error fault => rw [hnew] at hfresh; cases hfresh
    | ok found =>
      obtain ⟨feeder, new⟩ := found
      rw [hnew] at hfresh
      obtain ⟨hreaches, texture, fence, htexture, hfence, rfl⟩ :=
        duplicateHandles_eq_ok_iff.mp hnew
      cases hfresh
      have hpid := hreaches.pid
      exact .duplicated hunknown (hpid ▸ Host.holds_of_duplicate htexture)
        (hpid ▸ Host.holds_of_duplicate hfence)
  unfold Reader.handles at hfound
  split at hfound
  · next known hknown =>
    by_cases hmatches : known.matches h = true
    · rw [if_pos hmatches] at hfound
      cases hfound
      exact .known hknown hmatches
    · rw [if_neg hmatches] at hfound
      refine hfresh (fun other hother => ?_) hfound
      cases hknown.symm.trans hother
      exact Bool.eq_false_iff.mpr hmatches
  · next hnone =>
    refine hfresh (fun other hother => ?_) hfound
    cases hnone.symm.trans hother

/-- The handles that were found are in the slot of the header. -/
theorem Finds.slot (hfinds : r.Finds host h handles r') : r'.slots.get h.slot = some handles := by
  cases hfinds with
  | known hknown => exact hknown
  | duplicated => exact Vector.getElem_set_self _

/-- The handles that were found have the numbers that the header says. -/
theorem Finds.raw (hfinds : r.Finds host h handles r') :
    handles.rawTexture = h.texture ∧ handles.rawFence = h.fence := by
  cases hfinds with
  | known _ hmatches =>
    rw [SlotHandles.matches, Bool.and_eq_true, beq_iff_eq, beq_iff_eq] at hmatches
    exact hmatches
  | duplicated => exact ⟨rfl, rfl⟩

/-! ## Copies -/

/-- What becomes of a header with at most one copy, out of handles that the reader has found. -/
theorem Resolves.copies {gpu : UInt64} {destination : Destination} {copier copier' : Copier}
    {snapshot : Snapshot} (hplain : destination.Plain)
    (hresolves : Resolves r host caller gpu h destination copier snapshot r' copier') :
    copiesIn copier'.calls = copiesIn copier.calls ∨
      h.layers ≠ [] ∧ ∃ handles found target, r.handles host caller h = .ok (handles, found) ∧
        copiesIn copier'.calls = copiesIn copier.calls ++ [request handles h target] := by
  have hcopied {handles : SlotHandles} {found : Reader} {target : Nat} {copier₁ : Copier}
      {outcome : Except CopyFault Unit} (hlayers : h.layers ≠ [])
      (hfound : r.handles host caller h = .ok (handles, found))
      (hdestination : destination copier = (.ok target, copier₁))
      (hcopy : copier₁.copy (request handles h target) = (outcome, copier')) :
      h.layers ≠ [] ∧ ∃ handles found target, r.handles host caller h = .ok (handles, found) ∧
        copiesIn copier'.calls = copiesIn copier.calls ++ [request handles h target] := by
    refine ⟨hlayers, handles, found, target, hfound, ?_⟩
    have hasked := copier₁.copiesIn_copy (request handles h target)
    have hmade := hplain copier
    rw [hcopy] at hasked
    rw [hdestination] at hmade
    exact hasked.trans (congrArg (· ++ _) hmade)
  cases hresolves with
  | incorrectGpu => exact .inl rfl
  | noLayers => exact .inl rfl
  | noHandles => exact .inl rfl
  | noDestination _ _ _ hdestination =>
    have hmade := hplain copier
    rw [hdestination] at hmade
    exact .inl hmade
  | copied _ hlayers hfound hdestination hcopy =>
    exact .inr (hcopied hlayers hfound hdestination hcopy)
  | notCopied _ hlayers hfound hdestination hcopy =>
    exact .inr (hcopied hlayers hfound hdestination hcopy)

end Reader

/-! ## Steps that copy -/

/-- The reader of an object that has one. -/
def Body.reader? : Body → Option Reader
  | .writer _ => none
  | .reader r => some r
  | .cached c _ => some c.reader

/-- The step is a call of an object with this reader. -/
def Deed.Uses (d : Deed) (r : Reader) : Prop :=
  ∃ id call c, d.move = .call id call ∧ d.before.clients.get? id = some c ∧
    c.body.reader? = some r

/-- The step is a read through the object with this number, and has asked for a copy. The reader
trusts the header, and found the handles that it copied from. -/
structure Deed.Copies (d : Deed) (id : Nat) (handles : SlotHandles) (request : CopyRequest) :
    Prop where
  call : ∃ call, d.move = .call id call
  usable : d.before.header.Usable
  layers : d.before.header.layers ≠ []
  found : ∃ c r r', d.before.clients.get? id = some c ∧ c.body.reader? = some r ∧
    (r.follow d.before.header).handles d.before.host d.thread.pid d.before.header =
      .ok (handles, r')
  request : ∃ target, request = Reader.request handles d.before.header target

/-- A read for which a copy was asked. -/
theorem Body.Becomes.copies {s s' : Site} {before after : Body} {call : Call} {snapshot : Snapshot}
    {calls : List CopierCall} {request : CopyRequest}
    (h : before.Becomes s call (.shown snapshot calls) after s')
    (hmem : request ∈ copiesIn calls) :
    (Memory.load s.memory).Usable ∧ (Memory.load s.memory).layers ≠ [] ∧
      ∃ r r' handles target, before.reader? = some r ∧
        (r.follow (Memory.load s.memory)).handles s.host s.caller.pid (Memory.load s.memory) =
          .ok (handles, r') ∧
        request = Reader.request handles (Memory.load s.memory) target := by
  have hresolved {r r' : Reader} {gpu : UInt64} {destination : Reader.Destination}
      {copier copier' : Copier} (hplain : destination.Plain)
      (hresolves : (r.follow (Memory.load s.memory)).Resolves s.host s.caller.pid gpu
        (Memory.load s.memory) destination copier.looked snapshot r' copier')
      (hmem : request ∈ copiesIn copier'.calls) : (Memory.load s.memory).layers ≠ [] ∧
        ∃ r' handles target,
          (r.follow (Memory.load s.memory)).handles s.host s.caller.pid (Memory.load s.memory) =
            .ok (handles, r') ∧
          request = Reader.request handles (Memory.load s.memory) target := by
    rcases hresolves.copies hplain with hsame | ⟨hlayers, handles, found, target, hfound, hcalls⟩
    · rw [hsame] at hmem
      cases hmem
    · rw [hcalls] at hmem
      exact ⟨hlayers, found, handles, target, hfound, List.mem_singleton.mp hmem⟩
  cases h with
  | same _ _ hshows => cases hshows
  | readMetadata => cases hmem
  | getMetadata => cases hmem
  | read hreads =>
    cases hreads with
    | missed => cases hmem
    | unusable => cases hmem
    | recovered => cases hmem
    | frame _ husable hresolves =>
      obtain ⟨hlayers, r', handles, target, hfound, hrequest⟩ :=
        hresolved (fun _ => rfl) hresolves hmem
      exact ⟨husable, hlayers, _, r', handles, target, rfl, hfound, hrequest⟩
  | get hgets =>
    cases hgets with
    | detached => cases hmem
    | noRing => cases hmem
    | hit => cases hmem
    | missed => cases hmem
    | unusable => cases hmem
    | recovered => cases hmem
    | frame _ _ husable hresolves =>
      obtain ⟨hlayers, r', handles, target, hfound, hrequest⟩ :=
        hresolved (CachedReader.destination_plain _ _) hresolves hmem
      exact ⟨husable, hlayers, _, r', handles, target, rfl, hfound, hrequest⟩

/-- A step in which a copy was asked for is such a read. -/
theorem Deed.Valid.copies {d : Deed} {request : CopyRequest} (hvalid : d.Valid)
    (hsound : d.before.Sound) (hmem : request ∈ d.answer.copies) :
    ∃ id handles, d.Copies id handles request := by
  obtain ⟨snapshot, calls, hanswer⟩ : ∃ snapshot calls, d.answer = .shown snapshot calls := by
    cases hanswer : d.answer with
    | shown snapshot calls => exact ⟨snapshot, calls, rfl⟩
    | _ => rw [hanswer] at hmem; cases hmem
  have hhappens := (Exchange.happens hsound.settled hsound.length hvalid).2
  rw [hanswer] at hhappens hmem
  generalize hmove : d.move = move at hhappens
  generalize d.after = y at hhappens
  cases hhappens with
  | called hclient _ _ hbecomes =>
    obtain ⟨husable, hlayers, r, r', handles, target, hreader, hfound, hrequest⟩ :=
      hbecomes.copies hmem
    exact ⟨_, handles, ⟨_, hmove⟩, husable, hlayers, ⟨_, r, r', hclient, hreader, hfound⟩,
      ⟨target, hrequest⟩⟩
  | closed _ _ hdone =>
    rcases hdone with hdone | ⟨failure, hfailed⟩
    · cases hdone
    · cases hfailed

/-! ## Handles that are kept -/

namespace Reader

/-- All handles that a reader keeps have some property of its session, their slot and them. -/
def Vouched (r : Reader) (P : UInt64 → Slot → SlotHandles → Prop) : Prop :=
  ∀ slot handles, r.slots.get slot = some handles → P r.session slot handles

variable {r r' : Reader} {P : UInt64 → Slot → SlotHandles → Prop} {host : Host} {h : Header}

/-- A reader without handles. -/
theorem vouched_replicate {r : Reader} (hslots : r.slots = Vector.replicate 2 none) :
    r.Vouched P := by
  intro slot handles hkept
  rw [hslots] at hkept
  have hnone : (Vector.replicate 2 (none : Option SlotHandles)).get slot = none :=
    Vector.getElem_replicate _
  rw [hnone] at hkept
  cases hkept

theorem session_follow (r : Reader) (h : Header) : (r.follow h).session = h.session := by
  unfold follow
  by_cases hsession : h.session = r.session
  · rw [if_pos hsession]
    exact hsession.symm
  · rw [if_neg hsession]

/-- To follow a header either changes nothing or drops all handles. -/
theorem Vouched.follow (hvouched : r.Vouched P) (h : Header) : (r.follow h).Vouched P := by
  unfold Reader.follow
  by_cases hsession : h.session = r.session
  · rw [if_pos hsession]
    exact hvouched
  · rw [if_neg hsession]
    exact vouched_replicate rfl

/-- Handles in one slot more or less. -/
theorem Vouched.set (hvouched : r.Vouched P) (feeder : Option OpenedProcess) (slot : Slot)
    (kept : Option SlotHandles)
    (hkept : ∀ handles, kept = some handles → P r.session slot handles) :
    Vouched { r with feeder, slots := r.slots.set slot kept slot.lt } P := by
  intro other handles hother
  by_cases heq : slot = other
  · subst heq
    have hself : (r.slots.set slot kept slot.lt).get slot = kept := Vector.getElem_set_self _
    exact hkept handles (hself.symm.trans hother)
  · have hne : (r.slots.set slot kept slot.lt).get other = r.slots.get other :=
      Vector.getElem_set_ne _ _ fun hval => heq (Fin.ext hval)
    exact hvouched other handles (hne.symm.trans hother)

/-- Handles are vouched for when they are duplicated. -/
theorem Finds.vouched {handles : SlotHandles} (hfinds : r.Finds host h handles r')
    (hvouched : r.Vouched P) (hnew : ∀ texture fence,
      host.holds h.feederPid h.texture = some texture →
      host.holds h.feederPid h.fence = some fence →
      P r.session h.slot ⟨h.texture, h.fence, texture, fence⟩) : r'.Vouched P := by
  cases hfinds with
  | known => exact hvouched
  | duplicated _ htexture hfence =>
    refine hvouched.set _ h.slot _ fun handles heq => ?_
    cases heq
    exact hnew _ _ htexture hfence

theorem Finds.session {handles : SlotHandles} (hfinds : r.Finds host h handles r') :
    r'.session = r.session := by
  cases hfinds with
  | known => rfl
  | duplicated => rfl

/-- Resolving a header keeps handles vouched for. -/
theorem Resolves.vouched {caller : UInt32} {gpu : UInt64} {destination : Destination}
    {copier copier' : Copier} {snapshot : Snapshot}
    (hresolves : Resolves r host caller gpu h destination copier snapshot r' copier')
    (hvouched : r.Vouched P) (hnew : h.layers ≠ [] → ∀ texture fence,
      host.holds h.feederPid h.texture = some texture →
      host.holds h.feederPid h.fence = some fence →
      P r.session h.slot ⟨h.texture, h.fence, texture, fence⟩) : r'.Vouched P := by
  cases hresolves with
  | incorrectGpu => exact hvouched
  | noLayers => exact hvouched
  | noHandles => exact hvouched
  | noDestination _ hlayers hfound => exact (finds hfound).vouched hvouched (hnew hlayers)
  | copied _ hlayers hfound => exact (finds hfound).vouched hvouched (hnew hlayers)
  | notCopied _ hlayers hfound =>
    have hkept := (finds hfound).vouched hvouched (hnew hlayers)
    exact hkept.set _ h.slot none fun handles heq => by cases heq

end Reader

/-- Whether or not the snapshot is kept, the reader is. -/
theorem CachedReader.reader_after (c : CachedReader) (reader : Reader)
    (ring : List (Option RingTexture)) (snapshot : Snapshot) :
    (c.after reader ring snapshot).reader = reader := by
  unfold after
  by_cases hvalid : snapshot.isValid = true
  · rw [if_pos hvalid]
    rfl
  · rw [if_neg hvalid]

/-- A call keeps the handles of its reader vouched for. -/
theorem Body.Becomes.vouched {s s' : Site} {before after : Body} {call : Call} {answer : Answer}
    {P : UInt64 → Slot → SlotHandles → Prop} (h : before.Becomes s call answer after s')
    (hvouched : ∀ r, before.reader? = some r → r.Vouched P)
    (hnew : (Memory.load s.memory).Usable → (Memory.load s.memory).layers ≠ [] →
      ∀ texture fence,
        s.host.holds (Memory.load s.memory).feederPid (Memory.load s.memory).texture =
          some texture →
        s.host.holds (Memory.load s.memory).feederPid (Memory.load s.memory).fence =
          some fence →
        P (Memory.load s.memory).session (Memory.load s.memory).slot
          ⟨(Memory.load s.memory).texture, (Memory.load s.memory).fence, texture, fence⟩)
    (r : Reader) (hreader : after.reader? = some r) : r.Vouched P := by
  have hmetadata {r₀ r : Reader} {mode : LockMode} {snapshot : Snapshot} {s' : Site}
      (hvouched : r₀.Vouched P) (hreads : r₀.ReadsMetadata mode s (.ok (snapshot, r) s')) :
      r.Vouched P := by
    cases hreads with
    | missed => exact hvouched
    | unusable => exact hvouched.follow _
    | frame => exact hvouched.follow _
    | recovered => exact hvouched.follow _
  have hresolved {r₀ r : Reader} {gpu : UInt64} {destination : Reader.Destination}
      {copier copier' : Copier} {snapshot : Snapshot} (hvouched : r₀.Vouched P)
      (husable : (Memory.load s.memory).Usable)
      (hresolves : (r₀.follow (Memory.load s.memory)).Resolves s.host s.caller.pid gpu
        (Memory.load s.memory) destination copier snapshot r copier') : r.Vouched P := by
    refine hresolves.vouched (hvouched.follow _) fun hlayers texture fence htexture hfence => ?_
    rw [Reader.session_follow]
    exact hnew husable hlayers texture fence htexture hfence
  cases h with
  | same => exact hvouched r hreader
  | failed => exact hvouched r hreader
  | restart => exact hvouched r hreader
  | readMetadata hreads =>
    cases hreader
    exact hmetadata (hvouched _ rfl) hreads
  | getMetadata hreads =>
    cases hreader
    exact hmetadata (hvouched _ rfl) hreads
  | read hreads =>
    cases hreader
    cases hreads with
    | missed => exact hvouched _ rfl
    | unusable => exact (hvouched _ rfl).follow _
    | recovered => exact (hvouched _ rfl).follow _
    | frame _ husable hresolves => exact hresolved (hvouched _ rfl) husable hresolves
  | get hgets =>
    cases hreader
    cases hgets with
    | detached => exact hvouched _ rfl
    | noRing => exact hvouched _ rfl
    | hit => exact hvouched _ rfl
    | missed => exact hvouched _ rfl
    | unusable => exact (hvouched _ rfl).follow _
    | recovered => exact (hvouched _ rfl).follow _
    | frame _ _ husable hresolves =>
      rw [CachedReader.reader_after]
      exact hresolved (hvouched _ rfl) husable hresolves

/-- A step keeps the handles of all readers vouched for. -/
theorem Exchange.Happens.vouched {x y : Exchange} {caller : Thread} {move : Move} {answer : Answer}
    {P : UInt64 → Slot → SlotHandles → Prop} (h : x.Happens caller move answer y)
    (hvouched : ∀ id c r, x.clients.get? id = some c → c.body.reader? = some r → r.Vouched P)
    (hnew : x.header.Usable → x.header.layers ≠ [] → ∀ texture fence,
      x.host.holds x.header.feederPid x.header.texture = some texture →
      x.host.holds x.header.feederPid x.header.fence = some fence →
      P x.header.session x.header.slot ⟨x.header.texture, x.header.fence, texture, fence⟩)
    (id : Nat) (c : Client) (r : Reader) (hclient : y.clients.get? id = some c)
    (hreader : c.body.reader? = some r) : r.Vouched P := by
  cases h.comes hclient with
  | kept hbefore => exact hvouched id c r hbefore hreader
  | called _ hbefore _ _ hbecomes =>
    exact hbecomes.vouched (fun r hreader => hvouched id _ r hbefore hreader) hnew r hreader
  | attached => cases hreader
  | openedReader =>
    cases hreader
    exact Reader.vouched_replicate rfl
  | openedCached =>
    cases hreader
    exact Reader.vouched_replicate rfl

end FrameExchange
