import FrameExchange.Proofs.Invariant

/-!
# What a run has done to the header

Between two moments of a run the header either still shows the same frame, or frames were published
in its session, or a session was begun. So what is in the header was put there by one of the steps.

- `Header.SameFrame` — two headers that no reader can tell apart.
- `Run.sameFrame`, `Run.steady`, `Run.session_mem` — steps that leave the frame, steps that leave
  the session, and the sessions that there can be.
- `FreshSessions`, `Unwrapped` — sessions and frame numbers that do not come again.
- `Begun`, `Latest`, `Run.origin` — where a frame that is shown comes from.
-/

namespace FrameExchange

/-! ## The same frame -/

namespace Header

/-- Two headers that show the same frame. They may differ in fence values, but not in the one of
the frame's slot. -/
structure SameFrame (h h' : Header) : Prop where
  rest : h' = { h with fenceValues := h'.fenceValues }
  ready : h'.fenceValue h.slot = h.fenceValue h.slot

namespace SameFrame

variable {h h' h'' : Header}

theorem refl (h : Header) : h.SameFrame h := ⟨rfl, rfl⟩

/-- The frame is in the same slot. -/
theorem slot (hsame : h.SameFrame h') : h'.slot = h.slot := by
  rw [hsame.rest]
  rfl

theorem symm (hsame : h.SameFrame h') : h'.SameFrame h := by
  refine ⟨?_, ?_⟩
  · rw [hsame.rest]
  · rw [hsame.slot]
    exact hsame.ready.symm

theorem trans (first : h.SameFrame h') (second : h'.SameFrame h'') : h.SameFrame h'' := by
  refine ⟨?_, ?_⟩
  · rw [second.rest, first.rest]
  · rw [← first.slot, second.ready, first.slot]
    exact first.ready

/-- To begin the next frame does not touch the current one. -/
theorem raise (h : Header) : h.SameFrame (h.raise h.nextSlot) := by
  refine ⟨rfl, ?_⟩
  rw [fenceValue_raise, if_neg h.nextSlot_ne_slot]

theorem key (hsame : h.SameFrame h') : h'.key = h.key := by
  rw [hsame.rest]
  rfl

theorem layers (hsame : h.SameFrame h') : h'.layers = h.layers := by
  rw [hsame.rest]
  rfl

end SameFrame

end Header

/-! ## Steps -/

namespace Deed

/-- The step has published a frame. -/
def publishes (d : Deed) : Bool := d.move.publishes d.answer

/-- The sessions that were drawn in a step. -/
def drawn (d : Deed) : List UInt64 :=
  (List.range' d.before.host.entropy.used
      (d.after.host.entropy.used - d.before.host.entropy.used)).map fun k =>
    Host.sessionOf d.thread.pid (d.before.host.entropy.draw k)

/-- The step has neither published a frame nor begun a session. -/
def Quiet (d : Deed) : Prop := d.publishes = false ∧ d.drawn = []

/-- The step has published this frame through the writer with this number. -/
def Submits (d : Deed) (id : Nat) (frame : Frame) : Prop :=
  d.move = .call id (.submit frame) ∧ d.answer = .done

instance (d : Deed) : Decidable d.Quiet := inferInstanceAs (Decidable (_ ∧ _))

variable {d : Deed}

/-- A step that drew nothing left the source of sessions as it was. -/
theorem drawn_eq_nil (h : d.after.host.entropy = d.before.host.entropy) : d.drawn = [] := by
  rw [drawn, h, Nat.sub_self]
  rfl

/-- The last session that a step drew is one of those it drew. -/
theorem mem_drawn {k : Nat} (hfirst : d.before.host.entropy.used ≤ k)
    (hlast : d.after.host.entropy.used = k + 1) :
    Host.sessionOf d.thread.pid (d.before.host.entropy.draw k) ∈ d.drawn := by
  refine List.mem_map_of_mem (f := fun k => Host.sessionOf _ (d.before.host.entropy.draw k)) ?_
  rw [List.mem_range'_1]
  omega

/-- What the step does to the header is known. -/
def Rewrites (d : Deed) : Prop := d.before.Rewrites d.thread d.move d.answer d.after

namespace Rewrites

/-- A quiet step leaves the frame. -/
theorem sameFrame (hrewrites : d.Rewrites) (hquiet : d.Quiet) :
    d.before.header.SameFrame d.after.header := by
  obtain ⟨hpublishes, hdrawn⟩ := hquiet
  unfold Deed.Rewrites at hrewrites
  unfold publishes at hpublishes
  generalize hmove : d.move = move at hrewrites hpublishes
  generalize hanswer : d.answer = answer at hrewrites hpublishes
  generalize hafter : d.after = y at hrewrites ⊢
  cases hrewrites with
  | kept _ _ hheader => rw [hheader]; exact .refl _
  | raised hheader => rw [hheader]; exact .raise _
  | published => cases hpublishes
  | emptied => cases hpublishes
  | restarted _ _ hfirst hentropy =>
    subst hafter
    have hmem := mem_drawn hfirst (by rw [hentropy])
    rw [hdrawn] at hmem
    cases hmem

/-- A step that publishes a frame counts it, in the session that there is. -/
theorem counts (hrewrites : d.Rewrites) (hpublishes : d.publishes = true) :
    d.drawn = [] ∧ d.after.header.session = d.before.header.session ∧
      d.after.header.frame = d.before.header.frame + 1 := by
  unfold Deed.Rewrites at hrewrites
  unfold publishes at hpublishes
  generalize hmove : d.move = move at hrewrites hpublishes
  generalize hanswer : d.answer = answer at hrewrites hpublishes
  generalize hafter : d.after = y at hrewrites ⊢
  cases hrewrites with
  | kept hnot => rw [hnot] at hpublishes; cases hpublishes
  | raised => cases hpublishes
  | published _ _ _ _ _ hheader hentropy =>
    subst hafter
    rw [hheader]
    exact ⟨drawn_eq_nil hentropy, rfl, rfl⟩
  | emptied _ _ hheader hentropy =>
    subst hafter
    rw [hheader]
    exact ⟨drawn_eq_nil hentropy, rfl, rfl⟩
  | restarted hnot => rw [hnot] at hpublishes; cases hpublishes

/-- A step that draws sessions leaves the header of the last of them. -/
theorem begins (hrewrites : d.Rewrites) (hdrawn : d.drawn ≠ []) :
    ∃ gpu k, d.before.host.entropy.used ≤ k ∧ d.after.host.entropy.used = k + 1 ∧
      d.after.header =
        .ofSession gpu (Host.sessionOf d.thread.pid (d.before.host.entropy.draw k)) := by
  unfold Deed.Rewrites at hrewrites
  generalize d.move = move at hrewrites
  generalize d.answer = answer at hrewrites
  generalize hafter : d.after = y at hrewrites ⊢
  subst hafter
  cases hrewrites with
  | kept _ _ _ hentropy => exact absurd (drawn_eq_nil hentropy) hdrawn
  | raised _ hentropy => exact absurd (drawn_eq_nil hentropy) hdrawn
  | published _ _ _ _ _ _ hentropy => exact absurd (drawn_eq_nil hentropy) hdrawn
  | emptied _ _ _ hentropy => exact absurd (drawn_eq_nil hentropy) hdrawn
  | restarted _ _ hfirst hentropy hheader => exact ⟨_, _, hfirst, by rw [hentropy], hheader⟩

end Rewrites

namespace Valid

/-- What a step of a run does to the header. -/
theorem rewrites (hvalid : d.Valid) (hsound : d.before.Sound) :
    d.before.Rewrites d.thread d.move d.answer d.after :=
  (Exchange.happens hsound.settled hsound.length hvalid).2.rewrites hsound.length

/-- A quiet step leaves the frame. -/
theorem sameFrame (hvalid : d.Valid) (hsound : d.before.Sound) (hquiet : d.Quiet) :
    d.before.header.SameFrame d.after.header :=
  Rewrites.sameFrame (hvalid.rewrites hsound) hquiet

/-- A step that publishes a frame counts it, in the session that there is. -/
theorem counts (hvalid : d.Valid) (hsound : d.before.Sound) (hpublishes : d.publishes = true) :
    d.drawn = [] ∧ d.after.header.session = d.before.header.session ∧
      d.after.header.frame = d.before.header.frame + 1 :=
  Rewrites.counts (hvalid.rewrites hsound) hpublishes

/-- A step that draws sessions leaves the header of the last of them. -/
theorem begins (hvalid : d.Valid) (hsound : d.before.Sound) (hdrawn : d.drawn ≠ []) :
    ∃ gpu k, d.before.host.entropy.used ≤ k ∧ d.after.host.entropy.used = k + 1 ∧
      d.after.header =
        .ofSession gpu (Host.sessionOf d.thread.pid (d.before.host.entropy.draw k)) :=
  Rewrites.begins (hvalid.rewrites hsound) hdrawn

/-- After a step that drew sessions there is one of them. -/
theorem session_mem (hvalid : d.Valid) (hsound : d.before.Sound) (hdrawn : d.drawn ≠ []) :
    d.after.header.session ∈ d.drawn := by
  obtain ⟨gpu, k, hfirst, hlast, hheader⟩ := hvalid.begins hsound hdrawn
  rw [hheader]
  exact mem_drawn hfirst hlast

/-- After a step that left frame or session there are layers only where a frame was submitted. -/
theorem submits (hvalid : d.Valid) (hsound : d.before.Sound) (hloud : ¬d.Quiet)
    (hlayers : d.after.header.layers ≠ []) : ∃ id frame, d.Submits id frame := by
  have hrewrites := hvalid.rewrites hsound
  unfold Quiet publishes at hloud
  unfold Submits
  generalize hmove : d.move = move at hrewrites hloud ⊢
  generalize hanswer : d.answer = answer at hrewrites hloud ⊢
  generalize hafter : d.after = y at hrewrites hlayers
  subst hafter
  cases hrewrites with
  | kept hnot _ _ hentropy => exact absurd ⟨hnot, drawn_eq_nil hentropy⟩ hloud
  | raised _ hentropy => exact absurd ⟨rfl, drawn_eq_nil hentropy⟩ hloud
  | @published id c w frame => exact ⟨id, frame, rfl, rfl⟩
  | emptied _ _ hheader => rw [hheader] at hlayers; exact absurd rfl hlayers
  | restarted _ _ _ _ hheader => rw [hheader] at hlayers; exact absurd rfl hlayers

/-- A frame is submitted by the writer that has begun it, which has the lock. -/
theorem submitted {id : Nat} {frame : Frame} (hvalid : d.Valid) (hsound : d.before.Sound)
    (hsubmits : d.Submits id frame) : ∃ c w next, d.before.clients.get? id = some c ∧
      c.body = .writer w ∧ c.GuardOf d.thread ∧ c.token = some next ∧ frame.check = .ok () ∧
      d.after.header = Memory.stored (d.before.header.publish w.gpu w.pid frame.config
        frame.layers frame.texture frame.fence) ∧
      d.after.host.entropy = d.before.host.entropy := by
  obtain ⟨hmove, hanswer⟩ := hsubmits
  have hrewrites := hvalid.rewrites hsound
  rw [hmove, hanswer] at hrewrites
  generalize d.after = y at hrewrites ⊢
  cases hrewrites with
  | kept hnot => cases hnot
  | restarted hnot => cases hnot
  | @published _ c w _ next _ hclient hbody hguard htoken hcheck hheader hentropy =>
    exact ⟨c, w, next, hclient, hbody, hguard, htoken, hcheck, hheader, hentropy⟩

/-- The layers of a frame that was submitted are in the header. -/
theorem layers_submitted {id : Nat} {frame : Frame} (hvalid : d.Valid) (hsound : d.before.Sound)
    (hsubmits : d.Submits id frame) : d.after.header.layers = frame.layers := by
  obtain ⟨c, w, next, -, -, -, -, hcheck, hheader, -⟩ := hvalid.submitted hsound hsubmits
  rw [hheader]
  exact Header.layers_publish d.before.header w.gpu w.pid frame.config frame.layers frame.texture
    frame.fence (frame.check_eq_ok_iff.mp hcheck).1

end Valid

end Deed

/-! ## Runs -/

namespace Run

variable {x y z : Exchange} {deeds : List Deed}

/-- Every step of a run was made in a sound state. -/
theorem deed {earlier later : List Deed} {d : Deed} (hrun : Run x (earlier ++ d :: later) y) :
    Run x earlier d.before ∧ d.Valid ∧ Run d.after later y := by
  rw [List.append_cons, append_iff] at hrun
  obtain ⟨z, hfirst, hrest⟩ := hrun
  obtain ⟨hearlier, hvalid, rfl⟩ := snoc_iff.mp hfirst
  exact ⟨hearlier, hvalid, hrest⟩

/-- Quiet steps leave the frame. -/
theorem sameFrame (hrun : Run x deeds y) (hsound : x.Sound) (hquiet : ∀ d ∈ deeds, d.Quiet) :
    x.header.SameFrame y.header := by
  induction hrun with
  | nil => exact .refl _
  | @snoc deeds d hrun hvalid ih =>
    rw [List.forall_mem_append] at hquiet
    have hlast := hquiet.2 d (List.mem_singleton.mpr rfl)
    exact (ih hquiet.1).trans (hvalid.sameFrame (hrun.sound hsound) hlast)

/-- Where no session is begun, the frames are counted. -/
theorem steady (hrun : Run x deeds y) (hsound : x.Sound) (hnone : ∀ d ∈ deeds, d.drawn = []) :
    y.header.session = x.header.session ∧
      y.header.frame = x.header.frame + UInt64.ofNat (deeds.countP Deed.publishes) := by
  induction hrun with
  | nil => exact ⟨rfl, (UInt64.add_zero _).symm⟩
  | @snoc deeds d hrun hvalid ih =>
    rw [List.forall_mem_append] at hnone
    obtain ⟨hsession, hframe⟩ := ih hnone.1
    have hdrawn := hnone.2 d (List.mem_singleton.mpr rfl)
    rw [List.countP_append, List.countP_singleton]
    -- a step that publishes counts one, and any other leaves the key
    cases hpublishes : d.publishes with
    | false =>
      have hsame := hvalid.sameFrame (hrun.sound hsound) ⟨hpublishes, hdrawn⟩
      have hkey : d.after.header.key = d.before.header.key := hsame.key
      rw [Header.key, Header.key, FrameKey.mk.injEq] at hkey
      exact ⟨hkey.1.trans hsession, hkey.2.trans hframe⟩
    | true =>
      obtain ⟨-, hsame, hnext⟩ := hvalid.counts (hrun.sound hsound) hpublishes
      refine ⟨hsame.trans hsession, ?_⟩
      rw [hnext, hframe, if_pos rfl, UInt64.ofNat_add, UInt64.add_assoc]
      rfl

/-- Once a session was begun in a run, it is one of those that were drawn. -/
theorem session_mem (hrun : Run x deeds y) (hsound : x.Sound) (hsome : ∃ d ∈ deeds, d.drawn ≠ []) :
    y.header.session ∈ deeds.flatMap Deed.drawn := by
  induction hrun with
  | nil =>
    obtain ⟨d, hmem, -⟩ := hsome
    cases hmem
  | @snoc deeds d hrun hvalid ih =>
    rw [List.flatMap_append, List.mem_append]
    -- it is the last step's session, or stays what it was before this step
    by_cases hdrawn : d.drawn = []
    · left
      obtain ⟨e, hmem, he⟩ := hsome
      rcases List.mem_append.mp hmem with hearlier | hlast
      · have hsteady := (Run.steady (x := d.before) (.snoc .nil hvalid) (hrun.sound hsound)
          (by simpa using hdrawn)).1
        rw [hsteady]
        exact ih ⟨e, hearlier, he⟩
      · rw [List.mem_singleton.mp hlast] at he
        exact absurd hdrawn he
    · right
      rw [List.flatMap_singleton]
      exact hvalid.session_mem (hrun.sound hsound) hdrawn

end Run

/-! ## Keys -/

/-- No session was drawn twice, nor the one that was there at first. -/
def FreshSessions (x : Exchange) (deeds : List Deed) : Prop :=
  (x.header.session :: deeds.flatMap Deed.drawn).Nodup

/-- In no session were there so many frames that their numbers came again. -/
def Unwrapped (deeds : List Deed) : Prop :=
  ∀ part, part <:+: deeds → (∀ d ∈ part, d.drawn = []) → part.countP Deed.publishes < UInt64.size

instance (x : Exchange) (deeds : List Deed) : Decidable (FreshSessions x deeds) :=
  inferInstanceAs (Decidable (List.Nodup _))

/-- In a run that is not too long no number comes again. -/
theorem unwrapped_of_length {deeds : List Deed} (hlength : deeds.length < UInt64.size) :
    Unwrapped deeds := by
  intro part hpart _
  calc part.countP Deed.publishes ≤ part.length := List.countP_le_length
    _ ≤ deeds.length := hpart.length_le
    _ < UInt64.size := hlength

/-- A number of frames that has not come again is zero only where there are none. -/
theorem ofNat_eq_zero_iff {count : Nat} (hbound : count < UInt64.size) :
    UInt64.ofNat count = 0 ↔ count = 0 := by
  constructor
  · intro hzero
    have hval := congrArg UInt64.toNat hzero
    rw [UInt64.toNat_ofNat', Nat.mod_eq_of_lt hbound] at hval
    exact hval
  · rintro rfl
    rfl

namespace Run

variable {x y : Exchange} {deeds : List Deed}

/-- The session of a header is one of those that were drawn, or the one that was there at first. -/
theorem session_mem_cons (hrun : Run x deeds y) (hsound : x.Sound) :
    y.header.session ∈ x.header.session :: deeds.flatMap Deed.drawn := by
  by_cases hsome : ∃ d ∈ deeds, d.drawn ≠ []
  · exact List.mem_cons_of_mem _ (hrun.session_mem hsound hsome)
  · rw [(hrun.steady hsound fun d hmem =>
      Decidable.not_not.mp fun hne => hsome ⟨d, hmem, hne⟩).1]
    exact List.mem_cons_self ..

end Run

/-! ## Origins -/

/-- Of the frames that were begun through an object this is the last one, and it was not
submitted. -/
def Begun (deeds : List Deed) (id : Nat) (next : NextFrame) : Prop :=
  ∃ earlier b later, deeds = earlier ++ b :: later ∧ b.move = .call id .beginFrame ∧
    b.answer = .next next ∧ ∀ e ∈ later, (∀ frame, e.move ≠ .call id (.submit frame)) ∧
      (e.move = .call id .beginFrame → ∀ other, e.answer ≠ .next other)

/-- A region that nobody has used shows nothing. -/
theorem Exchange.layers_start (names : RegionNames) (host : Host) :
    (start names host).header.layers = [] := by
  rw [← Header.layerCount_eq_zero_iff]
  show (Memory.load (Bytes.zeros Header.byteSize)).layerCount = 0
  decide +kernel

/-- The frame that was submitted in this step is shown: it has layers, and nothing was published
since. -/
def Latest (deeds : List Deed) (d : Deed) : Prop :=
  ∃ earlier later id frame, deeds = earlier ++ d :: later ∧ d.Submits id frame ∧
    frame.layers ≠ [] ∧ ∀ e ∈ later, e.Quiet

namespace Run

variable {x y : Exchange} {deeds : List Deed}

/-- A frame with layers that is in the header was submitted. -/
theorem origin (hrun : Run x deeds y) (hsound : x.Sound) (hstart : x.header.layers = [])
    (hlayers : y.header.layers ≠ []) : ∃ d, Latest deeds d := by
  induction hrun with
  | nil => exact absurd hstart hlayers
  | @snoc deeds d hrun hvalid ih =>
    -- after a quiet step the layers are older; any other step has submitted them
    by_cases hquiet : d.Quiet
    · have hsame := hvalid.sameFrame (hrun.sound hsound) hquiet
      rw [hsame.layers] at hlayers
      obtain ⟨e, earlier, later, id, frame, heq, hsubmits, hframe, hrest⟩ := ih hlayers
      refine ⟨e, earlier, later ++ [d], id, frame, ?_, hsubmits, hframe, ?_⟩
      · rw [heq, List.append_assoc, List.cons_append]
      · rw [List.forall_mem_append]
        exact ⟨hrest, fun e hmem => List.mem_singleton.mp hmem ▸ hquiet⟩
    · obtain ⟨id, frame, hsubmits⟩ := hvalid.submits (hrun.sound hsound) hquiet hlayers
      rw [hvalid.layers_submitted (hrun.sound hsound) hsubmits] at hlayers
      exact ⟨d, deeds, [], id, frame, rfl, hsubmits, hlayers, fun e hmem => by cases hmem⟩

end Run

end FrameExchange
