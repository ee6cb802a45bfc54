import FrameExchange.Proofs.Copying

/-!
# The files that are copied

A reader duplicates a feeder's handles once for each slot, and tells by their numbers alone whether
the duplicates still do. So it copies out of the files of some frame with the same handles, which
need not be the frame that it shows: numbers that a feeder has closed come again, and two feeders
can use the same ones.

- `Exchange.files` — what the feeder of a header has open under its handles.
- `KeepsFiles` — feeders keep their files as long as a frame is shown.
- `Reader.UpToDate` — what a reader has kept is what it takes it for.
- `Run.filesCopied` — whose files are copied, and exactly when they are the right ones.
- `Run.filesCopied_reused` — feeders can keep their promise and still be shown the wrong picture.
-/

namespace FrameExchange

/-! ## Files -/

/-- The files that the feeder of the header has open under the header's texture and fence. -/
def Exchange.files (x : Exchange) : Option (OpenFile × OpenFile) :=
  match x.host.holds x.header.feederPid x.header.texture,
    x.host.holds x.header.feederPid x.header.fence with
  | some texture, some fence => some (texture, fence)
  | _, _ => none

/-- Texture and fence are both open. -/
theorem Exchange.files_eq_some {x : Exchange} {texture fence : OpenFile}
    (htexture : x.host.holds x.header.feederPid x.header.texture = some texture)
    (hfence : x.host.holds x.header.feederPid x.header.fence = some fence) :
    x.files = some (texture, fence) := by
  rw [files, htexture, hfence]

/-- What feeders promise: as long as a frame is shown its handles stay open and refer to the same
files. That a feeder ends, and its handles with it, breaks no promise here. -/
def KeepsFiles (deeds : List Deed) : Prop :=
  ∀ d ∈ deeds, d.Quiet → d.before.header.layers ≠ [] →
    d.after.files = none ∨ d.after.files = d.before.files

instance (deeds : List Deed) : Decidable (KeepsFiles deeds) :=
  inferInstanceAs (Decidable (∀ d ∈ deeds, _))

/-- Two headers of the same session with the same slot and the same handles. A reader that has
duplicates for the one uses them for the other. -/
structure Header.SameHandles (h h' : Header) : Prop where
  session : h.session = h'.session
  slot : h.slot = h'.slot
  texture : h.texture = h'.texture
  fence : h.fence = h'.fence

/-- If the reader has handles that it takes for those of the header, they are of these files. -/
def Reader.UpToDate (r : Reader) (h : Header) (files : Option (OpenFile × OpenFile)) : Prop :=
  ∀ known, r.slots.get h.slot = some known → known.matches h = true →
    files = some (known.texture, known.fence)

/-- Handles are those of the right files exactly when a reader that has some already is up to
date. -/
theorem Reader.Finds.upToDate_iff {r r' : Reader} {host : Host} {h : Header}
    {handles : SlotHandles} {files : Option (OpenFile × OpenFile)}
    (hfinds : r.Finds host h handles r')
    (hopen : ∀ texture fence, host.holds h.feederPid h.texture = some texture →
      host.holds h.feederPid h.fence = some fence → files = some (texture, fence)) :
    files = some (handles.texture, handles.fence) ↔ r.UpToDate h files := by
  cases hfinds with
  | known hknown hmatches =>
    constructor
    · intro hright known hkept _
      cases hknown.symm.trans hkept
      exact hright
    · intro hright
      exact hright _ hknown hmatches
  | duplicated hunknown htexture hfence =>
    constructor
    · intro _ known hkept hmatches
      rw [hunknown known hkept] at hmatches
      cases hmatches
    · intro _
      exact hopen _ _ htexture hfence

/-- Handles like these were published in a step, for these files. -/
def Published (deeds : List Deed) (session : UInt64) (slot : Slot) (handles : SlotHandles) : Prop :=
  ∃ d ∈ deeds, (∃ id frame, d.Submits id frame) ∧ d.after.header.session = session ∧
    d.after.header.slot = slot ∧ d.after.header.texture = handles.rawTexture ∧
    d.after.header.fence = handles.rawFence ∧
    d.after.files = some (handles.texture, handles.fence)

/-- What was published stays published. -/
theorem Published.mono {deeds : List Deed} {session : UInt64} {slot : Slot} {handles : SlotHandles}
    (h : Published deeds session slot handles) (more : List Deed) :
    Published (deeds ++ more) session slot handles := by
  obtain ⟨d, hmem, hpublished⟩ := h
  exact ⟨d, List.mem_append_left more hmem, hpublished⟩

namespace Run

variable {names : RegionNames} {host : Host} {deeds : List Deed} {x y : Exchange}

/-- Files that are open at the end of quiet steps were open at their start. -/
theorem files_of_quiet (hrun : Run x deeds y) (hsound : x.Sound) (hkeeps : KeepsFiles deeds)
    (hquiet : ∀ d ∈ deeds, d.Quiet) (hlayers : x.header.layers ≠ [])
    {files : OpenFile × OpenFile} (hfiles : y.files = some files) : x.files = some files := by
  -- from the end: files that are still open were not lost in the last step
  induction hrun with
  | nil => exact hfiles
  | @snoc deeds d hrun hvalid ih =>
    rw [List.forall_mem_append] at hquiet
    have hmem : d ∈ deeds ++ [d] := List.mem_append_right _ (List.mem_singleton.mpr rfl)
    have hshown : d.before.header.layers ≠ [] := by
      rw [(hrun.sameFrame hsound hquiet.1).layers]
      exact hlayers
    rcases hkeeps d hmem (hquiet.2 d (List.mem_singleton.mpr rfl)) hshown with hnone | hsame
    · rw [hnone] at hfiles
      cases hfiles
    · rw [hsame] at hfiles
      exact ih (fun e he => hkeeps e (List.mem_append_left _ he)) hquiet.1 hfiles

/-- The frame that was submitted last is the one in the header, and so are its files, as far as
they are open. -/
theorem latest {d : Deed} (hrun : Run x deeds y) (hsound : x.Sound) (hkeeps : KeepsFiles deeds)
    (hlatest : Latest deeds d) : d.after.header.SameFrame y.header ∧
      ∀ files, y.files = some files → d.after.files = some files := by
  obtain ⟨earlier, later, id, frame, rfl, hsubmits, hlayers, hquiet⟩ := hlatest
  obtain ⟨hearlier, hvalid, hlater⟩ := hrun.deed
  have hbefore := hearlier.sound hsound
  have hafter : d.after.Sound := hbefore.step hvalid
  refine ⟨hlater.sameFrame hafter hquiet, fun files hfiles => ?_⟩
  refine hlater.files_of_quiet hafter (fun e he => hkeeps e ?_) hquiet ?_ hfiles
  · exact List.mem_append_right _ (List.mem_cons_of_mem _ he)
  · rw [hvalid.layers_submitted hbefore hsubmits]
    exact hlayers

/-- Whatever can be duplicated now was published: the header shows some frame, and its files
are those that its feeder had when it submitted it. -/
theorem published (hrun : Run (.start names host) deeds y) (hkeeps : KeepsFiles deeds)
    (hlayers : y.header.layers ≠ []) {texture fence : OpenFile}
    (htexture : y.host.holds y.header.feederPid y.header.texture = some texture)
    (hfence : y.host.holds y.header.feederPid y.header.fence = some fence) :
    Published deeds y.header.session y.header.slot
      ⟨y.header.texture, y.header.fence, texture, fence⟩ := by
  have hstart : (Exchange.start names host).Sound := .start names host
  obtain ⟨d, hlatest⟩ := hrun.origin hstart (Exchange.layers_start names host) hlayers
  obtain ⟨hsame, hfiles⟩ := hrun.latest hstart hkeeps hlatest
  obtain ⟨earlier, later, id, frame, rfl, hsubmits, -, -⟩ := hlatest
  refine ⟨d, List.mem_append_right _ (List.mem_cons_self ..), ⟨id, frame, hsubmits⟩,
    ?_, hsame.slot.symm, ?_, ?_, hfiles _ (Exchange.files_eq_some htexture hfence)⟩
  · rw [hsame.rest]
  · rw [hsame.rest]
  · rw [hsame.rest]

/-- All handles that readers keep were published. -/
theorem handles_published (hrun : Run (.start names host) deeds y) (hkeeps : KeepsFiles deeds)
    (id : Nat) (c : Client) (r : Reader) (hclient : y.clients.get? id = some c)
    (hreader : c.body.reader? = some r) : r.Vouched (Published deeds) := by
  induction hrun generalizing id c r with
  | nil => cases hclient
  | @snoc deeds d hrun hvalid ih =>
    have hsound := hrun.sound (.start names host)
    have hearlier : KeepsFiles deeds := fun e he => hkeeps e (List.mem_append_left _ he)
    have hhappens := (Exchange.happens hsound.settled hsound.length hvalid).2
    -- kept handles were published before, and new ones are of the frame that is shown
    refine hhappens.vouched (fun id c r hclient hreader slot handles hkept => ?_) ?_ id c r hclient
      hreader
    · exact (ih hearlier id c r hclient hreader slot handles hkept).mono [d]
    · intro _ hlayers texture fence htexture hfence
      exact (hrun.published hearlier hlayers htexture hfence).mono [d]

/-- Whose files a read copies. It is the right picture exactly when the reader, in the session and
the slot of the frame that is shown, has not kept duplicates with the same numbers of other files.
What it copies are in any case the files of a frame that was submitted before, in this session and
this slot and with the same handles; so it is the right picture wherever all frames like these had
the same files. -/
theorem filesCopied {before rest : List Deed} {r : Deed} {request : CopyRequest}
    (hrun : Run (.start names host) deeds y) (hkeeps : KeepsFiles deeds)
    (hdeeds : deeds = before ++ r :: rest) (hmem : request ∈ r.answer.copies) :
    ∃ d reader source, Latest before d ∧ d.after.header.SameFrame r.before.header ∧
      r.Uses reader ∧ (d.after.files = some (request.texture, request.fence) ↔
        (reader.follow r.before.header).UpToDate r.before.header d.after.files) ∧
      source ∈ before ∧ (∃ id frame, source.Submits id frame) ∧
      source.after.header.SameHandles d.after.header ∧
      source.after.files = some (request.texture, request.fence) ∧
      ((∀ e ∈ before, (∃ id frame, e.Submits id frame) →
          e.after.header.SameHandles d.after.header → e.after.files = d.after.files) →
        d.after.files = some (request.texture, request.fence)) := by
  subst hdeeds
  have hstart : (Exchange.start names host).Sound := .start names host
  obtain ⟨hbefore, hvalid, -⟩ := hrun.deed
  have hearlier : KeepsFiles before := fun e he => hkeeps e (List.mem_append_left _ he)
  obtain ⟨id, handles, hcopies⟩ := hvalid.copies (hbefore.sound hstart) hmem
  obtain ⟨c, reader, reader', hclient, hreader, hfound⟩ := hcopies.found
  obtain ⟨target, rfl⟩ := hcopies.request
  obtain ⟨d, hlatest⟩ := hbefore.origin hstart (Exchange.layers_start names host) hcopies.layers
  obtain ⟨hsame, hfilesOf⟩ := hbefore.latest hstart hearlier hlatest
  obtain ⟨call, hmove⟩ := hcopies.call
  -- at hand or duplicated for this read, the handles of the slot were published
  have hfinds := Reader.finds hfound
  have hvouched : reader'.Vouched (Published before) := by
    have hkept := hbefore.handles_published hearlier id c reader hclient hreader
    refine hfinds.vouched (hkept.follow r.before.header) fun texture fence htexture hfence => ?_
    rw [Reader.session_follow]
    exact hbefore.published hearlier hcopies.layers htexture hfence
  obtain ⟨source, hsource, hsubmitted, hsession, hslot, htexture, hfence, hfiles⟩ :=
    hvouched _ handles hfinds.slot
  rw [hfinds.session, Reader.session_follow] at hsession
  obtain ⟨hrawTexture, hrawFence⟩ := hfinds.raw
  have hhandles : source.after.header.SameHandles d.after.header := by
    constructor
    case session => rw [hsession, hsame.rest]
    case slot => rw [hslot, hsame.slot]
    case texture => rw [htexture, hrawTexture, hsame.rest]
    case fence => rw [hfence, hrawFence, hsame.rest]
  refine ⟨d, reader, source, hlatest, hsame, ⟨id, call, c, hmove, hclient, hreader⟩, ?_, hsource,
    hsubmitted, hhandles, hfiles, ?_⟩
  · refine hfinds.upToDate_iff fun texture fence htexture hfence => ?_
    exact hfilesOf _ (Exchange.files_eq_some htexture hfence)
  · intro hall
    exact (hall source hsource hsubmitted hhandles).symm.trans hfiles

end Run

/-- Three frames of the sample, read after the first and after the third. Between the second and
the third one, which is in the slot of the first again, the texture of the first is closed, and a
new one is opened under its number. -/
def Exchange.reuseScript : List (Thread × Move) :=
  let opened := sample.host.openFile 7 902 "second"
  let reopened := (opened.closeFile 7 900).openFile 7 900 "third"
  let publish (frame : Frame) : List (Thread × Move) :=
    [(⟨7, 0⟩, .call 0 (.lock .blocking)), (⟨7, 0⟩, .call 0 .beginFrame),
      (⟨7, 0⟩, .call 0 (.submit frame)), (⟨7, 0⟩, .call 0 (.release false))]
  sampleScript ++ [(⟨7, 0⟩, .elapse opened.processes 0 3 [])] ++
    publish { sampleFrame with texture := 902 } ++
    [(⟨7, 0⟩, .elapse reopened.processes 0 4 [])] ++ publish sampleFrame ++
    [(⟨7, 0⟩, .call 1 (.read .viewer 5 1 .fresh))]

/-- The promise is kept, and the third frame is shown with the texture of the first. -/
theorem Run.filesCopied_reused : ∃ deeds y before r d source request,
    Exchange.sample.play Exchange.reuseScript = some (deeds, y) ∧ KeepsFiles deeds ∧
    deeds = before ++ [r] ∧ request ∈ r.answer.copies ∧ Latest before d ∧ source ∈ before ∧
    source.after.header.SameHandles d.after.header ∧
    source.after.files = some (⟨0, "texture"⟩, ⟨1, "fence"⟩) ∧
    d.after.files = some (⟨3, "third"⟩, ⟨1, "fence"⟩) ∧
    request.texture = ⟨0, "texture"⟩ := by
  have hplayed : (Exchange.sample.play Exchange.reuseScript).map (fun played =>
      (decide (KeepsFiles played.1), played.1.getLast?.map fun r =>
        (r.answer.copies, r.before.files))) =
      some (true, some ([⟨⟨0, "texture"⟩, ⟨1, "fence"⟩, 2, 1⟩],
        some (⟨3, "third"⟩, ⟨1, "fence"⟩))) := by
    decide +kernel
  obtain ⟨⟨deeds, y⟩, hplay, hfacts⟩ := Option.map_eq_some_iff.mp hplayed
  obtain ⟨hkeeps, hlast⟩ := Prod.mk.inj hfacts
  obtain ⟨r, hr, hread⟩ := Option.map_eq_some_iff.mp hlast
  obtain ⟨hcopies, hnow⟩ := Prod.mk.inj hread
  obtain ⟨before, rfl⟩ := List.getLast?_eq_some_iff.mp hr
  have hkeeps : KeepsFiles (before ++ [r]) := of_decide_eq_true hkeeps
  have hrun := Run.of_play hplay
  have hmem : ⟨⟨0, "texture"⟩, ⟨1, "fence"⟩, 2, 1⟩ ∈ r.answer.copies := by
    rw [hcopies]
    exact List.mem_singleton.mpr rfl
  obtain ⟨d, reader, source, hlatest, -, -, -, hsource, -, hhandles, hfiles, -⟩ :=
    hrun.filesCopied hkeeps rfl hmem
  have hbefore := (Run.deed hrun).1
  have hright := (hbefore.latest (.start _ _) (fun e he => hkeeps e (List.mem_append_left _ he))
    hlatest).2 _ hnow
  exact ⟨_, y, before, r, d, source, _, hplay, hkeeps, rfl, hmem, hlatest, hsource, hhandles,
    hfiles, hright, rfl⟩

end FrameExchange
