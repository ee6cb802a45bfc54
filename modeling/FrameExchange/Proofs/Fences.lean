import FrameExchange.Proofs.Capturing
import FrameExchange.Proofs.Slots

/-!
# The fence values of a slot

A writer is told a slot and a fence value when it begins a frame. The values for a slot are counted
in the header, and the header is replaced when a session is begun. So the values rise as long as the
session lasts, through whatever is begun, submitted or dropped, and start again at one with the
next session.

- `valuesFor` — the values that were handed out for a slot.
- `Session` — a session, cut out of a course.
- `Course.counts` — in a session the values are counted, and the header has the last of them.
- `Course.fencesRise` — the values of a session rise, and readers wait for the last one.
-/

namespace FrameExchange

/-! ## Values -/

/-- What a writer was told about the frame that it has begun in this step. -/
def Deed.begun? (d : Deed) : Option NextFrame :=
  match d.answer with
  | .next next => some next
  | _ => none

/-- The fence values that were handed out for a slot. -/
def valuesFor (deeds : List Deed) (slot : Slot) : List UInt64 :=
  ((deeds.filterMap Deed.begun?).filter (·.slot = slot)).map NextFrame.fenceValue

section

variable {first second deeds : List Deed} {d : Deed} {slot : Slot} {next : NextFrame}

theorem valuesFor_append : valuesFor (first ++ second) slot =
    valuesFor first slot ++ valuesFor second slot := by
  simp only [valuesFor, List.filterMap_append, List.filter_append, List.map_append]

/-- Where no frame is begun no value is handed out. -/
theorem valuesFor_quiet (hnone : d.begun? = none) :
    valuesFor (deeds ++ [d]) slot = valuesFor deeds slot := by
  rw [valuesFor_append]
  simp [valuesFor, hnone]

/-- A frame that is begun gets a value. -/
theorem valuesFor_begun (hbegun : d.begun? = some next) : valuesFor (deeds ++ [d]) next.slot =
    valuesFor deeds next.slot ++ [next.fenceValue] := by
  rw [valuesFor_append]
  simp [valuesFor, hbegun]

/-- No value is handed out for any other slot. -/
theorem valuesFor_other (hbegun : d.begun? = some next) (hslot : next.slot ≠ slot) :
    valuesFor (deeds ++ [d]) slot = valuesFor deeds slot := by
  rw [valuesFor_append]
  simp [valuesFor, hbegun, hslot]

/-- There were not so many frames that their values came again. -/
def FewFrames (deeds : List Deed) : Prop := (deeds.filterMap Deed.begun?).length < UInt64.size

/-- Then there were not so many in any part. -/
theorem FewFrames.part (hfew : FewFrames deeds) (hpart : first <:+: deeds) : FewFrames first :=
  Nat.lt_of_le_of_lt (hpart.filterMap Deed.begun?).length_le hfew

/-- Nor were there up to one of the steps. -/
theorem FewFrames.through (hfew : FewFrames (first ++ d :: second)) : FewFrames (first ++ [d]) := by
  rw [List.append_cons] at hfew
  exact hfew.part (List.prefix_append _ _).isInfix

/-- There are no more values than frames. -/
theorem FewFrames.values (hfew : FewFrames deeds) (slot : Slot) :
    (valuesFor deeds slot).length < UInt64.size := by
  rw [valuesFor, List.length_map]
  exact Nat.lt_of_le_of_lt (List.length_filter_le _ _) hfew

end

/-! ## Steps -/

namespace Deed

variable {d : Deed}

/-- Either nothing is begun and all fence values stay, or the next frame is begun, and the value of
its slot is raised. -/
theorem Rewrites.fences (hrewrites : d.Rewrites) (hdrawn : d.drawn = []) :
    (d.begun? = none ∧ ∀ slot, d.after.header.fenceValue slot = d.before.header.fenceValue slot) ∨
      (d.begun? = some (Writer.upcoming d.before.header) ∧
        d.after.header = d.before.header.raise d.before.header.nextSlot) := by
  have hquiet {answer : Answer} (hanswer : d.answer = answer)
      (hnever : ∀ next, answer ≠ .next next) : d.begun? = none := by
    rw [begun?, hanswer]
    cases answer with
    | next told => exact absurd rfl (hnever told)
    | _ => rfl
  unfold Deed.Rewrites at hrewrites
  generalize d.move = move at hrewrites
  generalize hanswer : d.answer = answer at hrewrites
  generalize hafter : d.after = y at hrewrites ⊢
  cases hrewrites with
  | kept _ hnever hheader => exact .inl ⟨hquiet hanswer hnever, fun slot => by rw [hheader]⟩
  | raised hheader => exact .inr ⟨by rw [begun?, hanswer], hheader⟩
  | published _ _ _ _ _ hheader =>
    exact .inl ⟨hquiet hanswer fun _ h => (by cases h), fun slot => by rw [hheader]; rfl⟩
  | emptied _ _ hheader =>
    exact .inl ⟨hquiet hanswer fun _ h => (by cases h), fun slot => by rw [hheader]; rfl⟩
  | restarted _ _ hfirst hentropy =>
    subst hafter
    have hmem := mem_drawn hfirst (by rw [hentropy])
    rw [hdrawn] at hmem
    cases hmem

/-- Nobody begins a frame and dies in the same call, as far as anybody is told. -/
theorem Dies.begun? (hdies : d.Dies) : d.begun? = none := by
  rw [Deed.begun?, hdies.2.1]

/-- Frames are begun by calls, and what a writer is told is in the header before. -/
theorem Valid.upcoming {next : NextFrame} (hvalid : d.Valid) (hordered : d.before.Ordered)
    (hbegun : d.begun? = some next) :
    (∃ id, d.move = .call id .beginFrame) ∧ next = Writer.upcoming d.before.header := by
  have hanswer : d.answer = .next next := by
    unfold Deed.begun? at hbegun
    split at hbegun
    · next heq => rw [heq, Option.some.inj hbegun]
    · cases hbegun
  have hrewrites := hvalid.rewritten hordered
  unfold Deed.Rewrites at hrewrites
  rw [hanswer] at hrewrites
  generalize d.move = move at hrewrites ⊢
  generalize d.after = y at hrewrites
  cases hrewrites with
  | kept _ hnever => exact absurd rfl (hnever next)
  | raised => exact ⟨⟨_, rfl⟩, rfl⟩
  | restarted _ hnever => exact absurd rfl (hnever next)

/-- Nobody begins a frame while the lock waits to be taken from a dead owner. -/
theorem Valid.begun_of_orphaned (hvalid : d.Valid) (hordered : d.before.Ordered)
    (horphaned : d.before.mutex.holding = .orphaned) : d.begun? = none := by
  by_contra hbegun
  obtain ⟨next, hnext⟩ := Option.ne_none_iff_exists'.mp hbegun
  obtain ⟨⟨id, hmove⟩, -⟩ := hvalid.upcoming hordered hnext
  exact hvalid.owned hordered hmove rfl horphaned

end Deed

/-! ## Sessions -/

/-- The second entries are those of one session: the last of the first ones has begun it, unless
there is none, and no session is begun in them. -/
structure Session (earlier part : List Deed) : Prop where
  begun : ∀ d, earlier.getLast? = some d → d.Starts
  steady : ∀ d ∈ part, ¬d.Starts

/-- At any time there is a session that was begun last. -/
theorem exists_session (deeds : List Deed) : ∃ earlier part,
    deeds = earlier ++ part ∧ Session earlier part := by
  induction deeds using List.reverseRecOn with
  | nil => exact ⟨[], [], rfl, fun d h => (by cases h), fun d h => (by cases h)⟩
  | append_singleton deeds d ih =>
    by_cases hstarts : d.Starts
    · refine ⟨deeds ++ [d], [], (List.append_nil _).symm, fun e h => ?_, fun e h => (by cases h)⟩
      rw [List.getLast?_concat] at h
      cases h
      exact hstarts
    · obtain ⟨earlier, part, rfl, hsession⟩ := ih
      refine ⟨earlier, part ++ [d], List.append_assoc .., hsession.begun, ?_⟩
      rw [List.forall_mem_append]
      exact ⟨hsession.steady, fun e hmem => List.mem_singleton.mp hmem ▸ hstarts⟩

/-- A session goes on where none is begun. -/
theorem Session.append {earlier part more : List Deed} (hsession : Session earlier part)
    (hmore : ∀ d ∈ more, ¬d.Starts) : Session earlier (part ++ more) := by
  refine ⟨hsession.begun, ?_⟩
  rw [List.forall_mem_append]
  exact ⟨hsession.steady, hmore⟩

/-- A session up to some moment. -/
theorem Session.left {earlier part more : List Deed} (hsession : Session earlier (part ++ more)) :
    Session earlier part :=
  ⟨hsession.begun, fun d hmem => hsession.steady d (List.mem_append_left _ hmem)⟩

/-- The numbers from one on. -/
def countedTo (count : Nat) : List UInt64 := (List.range' 1 count).map UInt64.ofNat

theorem countedTo_succ (count : Nat) :
    countedTo (count + 1) = countedTo count ++ [UInt64.ofNat count + 1] := by
  rw [countedTo, List.range'_1_concat, List.map_append, List.map_singleton, Nat.add_comm 1 count,
    UInt64.ofNat_add]
  rfl

/-- As long as they fit, the numbers rise. -/
theorem pairwise_countedTo {count : Nat} (hbound : count < UInt64.size) :
    (countedTo count).Pairwise (· < ·) := by
  rw [countedTo, List.pairwise_map]
  refine List.Pairwise.imp_of_mem ?_ (List.pairwise_lt_range' 1)
  intro a b ha hb hlt
  rw [List.mem_range'_1] at ha hb
  rw [UInt64.lt_iff_toNat_lt, UInt64.toNat_ofNat_of_lt' (by omega),
    UInt64.toNat_ofNat_of_lt' (by omega)]
  exact hlt

namespace Course

variable {names : RegionNames} {host : Host} {y : Exchange} {earlier part rest deeds : List Deed}
  {d : Deed} {slot : Slot}

/-- Every session begins with fence values of zero, and so does the region. -/
theorem fences_begun (hcourse : Course (.start names host) earlier y)
    (hbegun : ∀ d, earlier.getLast? = some d → d.Starts) (slot : Slot) :
    y.header.fenceValue slot = 0 := by
  cases hcourse with
  | nil =>
    have hzeros : ∀ slot, (Memory.load (Bytes.zeros Header.byteSize)).fenceValue slot = 0 := by
      decide +kernel
    exact hzeros slot
  | step hcourse hvalid =>
    have hresets : Deed.Resets _ :=
      hcourse.ordered.resets_of_starts hvalid (hbegun _ List.getLast?_concat)
    exact hresets.blank.fences slot
  | death _ hdies => exact absurd (hbegun _ List.getLast?_concat) hdies.not_starts

/-- The values of a session are counted from one on. Unless an owner of the lock has died since, the
header knows how many there were. -/
theorem counts (hcourse : Course (.start names host) (earlier ++ part) y)
    (hsession : Session earlier part) (slot : Slot) :
    valuesFor part slot = countedTo (valuesFor part slot).length ∧
      (y.mutex.holding ≠ .orphaned →
        y.header.fenceValue slot = UInt64.ofNat (valuesFor part slot).length) := by
  induction part using List.reverseRecOn generalizing y with
  | nil =>
    rw [List.append_nil] at hcourse
    exact ⟨rfl, fun _ => hcourse.fences_begun hsession.begun slot⟩
  | append_singleton part d ih =>
    rw [← List.append_assoc] at hcourse
    obtain ⟨hearlier, hentry, rfl⟩ := snoc_iff.mp hcourse
    have hordered := hearlier.ordered
    obtain ⟨hcounted, hheader⟩ := ih hearlier hsession.left
    have hsteady := hsession.steady d (List.mem_append_right _ (List.mem_singleton.mpr rfl))
    rcases hentry with hvalid | hdies
    · have hdrawn := hvalid.drawn_of_steady hordered hsteady
      by_cases horphaned : d.before.mutex.holding = .orphaned
      · rw [valuesFor_quiet (hvalid.begun_of_orphaned hordered horphaned)]
        have hleft := (hvalid.orphaned hordered horphaned hdrawn).1
        exact ⟨hcounted, fun howned => absurd hleft howned⟩
      · have hvalue := hheader horphaned
        rcases (hvalid.rewritten hordered).fences hdrawn with ⟨hnone, hsame⟩ | ⟨hbegun, hraised⟩
        · rw [valuesFor_quiet hnone]
          exact ⟨hcounted, fun _ => (hsame slot).trans hvalue⟩
        · rw [hraised, Header.fenceValue_raise]
          by_cases hslot : d.before.header.nextSlot = slot
          · -- the value that is handed out is one more than the last one
            subst hslot
            have hvalues : valuesFor (part ++ [d]) d.before.header.nextSlot =
                valuesFor part d.before.header.nextSlot ++
                  [d.before.header.fenceValue d.before.header.nextSlot + 1] :=
              valuesFor_begun hbegun
            rw [if_pos rfl, hvalues, hvalue, List.length_append, List.length_singleton,
              countedTo_succ, ← hcounted]
            exact ⟨rfl, fun _ => (UInt64.ofNat_add ..).symm⟩
          · rw [if_neg hslot, valuesFor_other hbegun hslot]
            exact ⟨hcounted, fun _ => hvalue⟩
    · rw [valuesFor_quiet hdies.begun?]
      exact ⟨hcounted, fun howned => absurd hdies.orphaned howned⟩

/-- As long as not too many frames are begun no writer is told the fence value zero. -/
theorem told_ne_zero {next : NextFrame} (hcourse : Course (.start names host) deeds y)
    (hfew : FewFrames deeds) (hmem : d ∈ deeds) (hbegun : d.begun? = some next) :
    next.fenceValue ≠ 0 := by
  obtain ⟨front, rest, rfl⟩ := List.append_of_mem hmem
  obtain ⟨hfront, hentry, -⟩ := hcourse.deed
  rcases hentry with hvalid | hdies
  · obtain ⟨⟨id, hmove⟩, rfl⟩ := hvalid.upcoming hfront.ordered hbegun
    obtain ⟨earlier, part, rfl, hsession⟩ := exists_session front
    obtain ⟨-, hheader⟩ := hfront.counts hsession d.before.header.nextSlot
    -- the value is the number of a frame of the session, and there are not too many frames
    have hthrough := hfew.through
    rw [List.append_assoc] at hthrough
    have hcount := (hthrough.part (List.suffix_append _ _).isInfix).values d.before.header.nextSlot
    rw [show valuesFor (part ++ [d]) d.before.header.nextSlot = _ from valuesFor_begun hbegun,
      List.length_append, List.length_singleton] at hcount
    show d.before.header.fenceValue d.before.header.nextSlot + 1 ≠ 0
    rw [hheader (hvalid.owned hfront.ordered hmove rfl),
      show (1 : UInt64) = UInt64.ofNat 1 from rfl, ← UInt64.ofNat_add]
    exact fun hzero => absurd ((ofNat_eq_zero_iff hcount).mp hzero) (Nat.succ_ne_zero _)
  · rw [hdies.begun?] at hbegun
    cases hbegun

/-- A frame that is begun was begun in one of the steps. -/
theorem told {id : Nat} {c : Client} {next : NextFrame}
    (hcourse : Course (.start names host) deeds y) (hclient : y.clients.get? id = some c)
    (htoken : c.token = some next) : ∃ d ∈ deeds, d.begun? = some next := by
  induction hcourse generalizing c with
  | nil => cases hclient
  | @step deeds d hcourse hvalid ih =>
    have hearlier {c : Client} (hwas : d.before.clients.get? id = some c)
        (hbefore : c.token = some next) : ∃ e ∈ deeds ++ [d], e.begun? = some next := by
      obtain ⟨e, hmem, hbegun⟩ := ih hwas hbefore
      exact ⟨e, List.mem_append_left _ hmem, hbegun⟩
    have hordered := hcourse.ordered
    have hcomes := (Exchange.happens hordered.settled hordered.length hvalid).2.comes hclient
    generalize hmove : d.move = move at hcomes
    generalize hanswer : d.answer = answer at hcomes
    cases hcomes with
    | kept hwas => exact hearlier hwas htoken
    | called _ hwas =>
      obtain ⟨-, ⟨-, rfl⟩ | ⟨hbefore, -⟩⟩ := Client.tokenAfter_eq_some htoken
      · refine ⟨d, List.mem_append_right _ (List.mem_singleton.mpr rfl), ?_⟩
        rw [Deed.begun?, hanswer]
      · exact hearlier hwas hbefore
    | attached => cases htoken
    | openedReader => cases htoken
    | openedCached => cases htoken
  | death _ hdies ih =>
    obtain ⟨c₀, hwas, hbefore⟩ := hdies.token hclient htoken
    obtain ⟨e, hmem, hbegun⟩ := ih hwas hbefore
    exact ⟨e, List.mem_append_left _ hmem, hbegun⟩

/-- A frame that is submitted has the fence value that its writer was told, and this is not zero. -/
theorem submitted {id : Nat} {frame : Frame} (hcourse : Course (.start names host) (deeds ++ [d]) y)
    (hfew : FewFrames (deeds ++ [d])) (hsubmits : d.Submits id frame) : ∃ c next,
      d.before.clients.get? id = some c ∧ c.token = some next ∧ next.slot = y.header.slot ∧
      y.header.fenceValue y.header.slot = next.fenceValue ∧ next.fenceValue ≠ 0 := by
  obtain ⟨hearlier, hentry, rfl⟩ := snoc_iff.mp hcourse
  have hvalid := hentry.resolve_right fun hdies => hdies.not_call _ hsubmits.1
  have hsound := hearlier.sound (hvalid.owned hearlier.ordered hsubmits.1 rfl)
  obtain ⟨c, next, hclient, htoken, hslot, hvalue⟩ := hvalid.submitted_next hsound hsubmits
  obtain ⟨b, hmem, hbegun⟩ := hearlier.told hclient htoken
  have hvalue' : d.after.header.fenceValue d.after.header.slot = next.fenceValue := by
    rw [← hvalue, hslot]
    rfl
  exact ⟨c, next, hclient, htoken, hslot, hvalue',
    hcourse.told_ne_zero hfew (List.mem_append_left _ hmem) hbegun⟩

/-- What a reader finds of a frame with layers is a value that was handed out. -/
theorem ready_ne_zero (hcourse : Course (.start names host) deeds y)
    (hfew : FewFrames deeds) (howned : y.mutex.holding ≠ .orphaned)
    (hlayers : y.header.layers ≠ []) : y.header.fenceValue y.header.slot ≠ 0 := by
  induction hcourse with
  | nil => exact absurd (Exchange.layers_start names host) hlayers
  | @step deeds d hcourse hvalid ih =>
    by_cases horphaned : d.before.mutex.holding = .orphaned
    · -- whoever takes the lock of a dead owner leaves no layers
      rcases hcourse.ordered.resets horphaned hvalid with ⟨hleft, -⟩ | ⟨-, hresets⟩
      · exact absurd hleft howned
      · exact absurd hresets.blank.layers.2 hlayers
    · have hsound := hcourse.sound horphaned
      by_cases hquiet : d.Quiet
      · have hsame := hvalid.sameFrame hsound hquiet
        rw [hsame.layers] at hlayers
        rw [hsame.slot, hsame.ready]
        exact ih (hfew.part (List.prefix_append _ _).isInfix) horphaned hlayers
      · obtain ⟨id, frame, hsubmits⟩ := hvalid.submits hsound hquiet hlayers
        obtain ⟨c, next, -, -, -, hvalue, hnot⟩ :=
          (Course.step hcourse hvalid).submitted hfew hsubmits
        rw [hvalue]
        exact hnot
  | death _ hdies => exact absurd hdies.orphaned howned

/-- A value that is in the header is the last one that was handed out. -/
theorem last_value (hcourse : Course (.start names host) (earlier ++ part) y)
    (hsession : Session earlier part) (howned : y.mutex.holding ≠ .orphaned)
    (hvalue : y.header.fenceValue slot ≠ 0) :
    (valuesFor part slot).getLast? = some (y.header.fenceValue slot) := by
  obtain ⟨hcounted, hheader⟩ := hcourse.counts hsession slot
  rw [hheader howned] at hvalue ⊢
  generalize (valuesFor part slot).length = count at hcounted hvalue ⊢
  cases count with
  | zero => exact absurd rfl hvalue
  | succ count =>
    rw [hcounted, countedTo_succ, List.getLast?_concat, UInt64.ofNat_add]
    rfl

/-- A step that begins neither a session nor a frame leaves the values as they were. -/
theorem last_value_before (hcourse : Course (.start names host) (earlier ++ part ++ d :: rest) y)
    (hsession : Session earlier part) (hsteady : ¬d.Starts) (hnone : d.begun? = none)
    (howned : d.after.mutex.holding ≠ .orphaned) (hvalue : d.after.header.fenceValue slot ≠ 0) :
    (valuesFor part slot).getLast? = some (d.after.header.fenceValue slot) := by
  obtain ⟨hearlier, hentry, -⟩ := hcourse.deed
  have hthrough := snoc_iff.mpr ⟨hearlier, hentry, rfl⟩
  rw [List.append_assoc] at hthrough
  have hmore : ∀ e ∈ [d], ¬e.Starts := fun e hmem => List.mem_singleton.mp hmem ▸ hsteady
  rw [← valuesFor_quiet hnone]
  exact hthrough.last_value (hsession.append hmore) howned hvalue

end Course

/-! ## Whole courses -/

/-- The fence values of one session. -/
structure FencesRise (deeds : List Deed) : Prop where
  /-- The values for a slot are the numbers from one on. -/
  counted : ∀ earlier part rest, deeds = earlier ++ part ++ rest → Session earlier part →
    ∀ slot, valuesFor part slot = countedTo (valuesFor part slot).length
  /-- As long as no session is begun every value for a slot is greater than all before. -/
  rising : ∀ earlier part rest, deeds = earlier ++ part ++ rest → (∀ d ∈ part, ¬d.Starts) →
    ∀ slot, (valuesFor part slot).Pairwise (· < ·)
  /-- A frame is submitted with the last value for its slot, and the writer was told this value. -/
  submitted : ∀ earlier part d rest id frame, deeds = earlier ++ part ++ d :: rest →
    Session earlier part → d.Submits id frame → ∃ c next,
      d.before.clients.get? id = some c ∧ c.token = some next ∧
      next.slot = d.after.header.slot ∧
      (valuesFor part next.slot).getLast? = some next.fenceValue
  /-- A reader that copies a frame waits for the last value for the slot of the frame. -/
  awaited : ∀ earlier part d rest, deeds = earlier ++ part ++ d :: rest → Session earlier part →
    ∀ request ∈ d.answer.copies, ∃ id h, d.captured id = some h ∧
      (valuesFor part h.slot).getLast? = some request.value

/-- On every region the fence values of a session rise, whoever publishes, drops frames or dies. -/
theorem Course.fencesRise {names : RegionNames} {host : Host} {y : Exchange} {deeds : List Deed}
    (hcourse : Course (.start names host) deeds y) (hfew : FewFrames deeds) :
    FencesRise deeds := by
  constructor
  case counted =>
    rintro earlier part rest rfl hsession slot
    obtain ⟨z, hfirst, -⟩ := append_iff.mp hcourse
    exact (hfirst.counts hsession slot).1
  case rising =>
    rintro front part rest rfl hsteady slot
    -- the part belongs to a session, and its values are the last ones of the session
    obtain ⟨earlier, begun, rfl, hsession⟩ := exists_session front
    rw [List.append_assoc earlier] at hcourse hfew
    obtain ⟨z, hfirst, -⟩ := append_iff.mp hcourse
    have hpairwise : (valuesFor (begun ++ part) slot).Pairwise (· < ·) := by
      rw [(hfirst.counts (hsession.append hsteady) slot).1]
      exact pairwise_countedTo ((hfew.part ⟨earlier, rest, rfl⟩).values slot)
    rw [valuesFor_append] at hpairwise
    exact (List.pairwise_append.mp hpairwise).2.1
  case submitted =>
    rintro earlier part d rest id frame rfl hsession hsubmits
    obtain ⟨hearlier, hentry, -⟩ := hcourse.deed
    have hvalid := hentry.resolve_right fun hdies => hdies.not_call _ hsubmits.1
    have hordered := hearlier.ordered
    obtain ⟨c, next, hclient, htoken, hslot, hvalue, hnot⟩ :=
      (Course.step hearlier hvalid).submitted hfew.through hsubmits
    have hpublishes : d.publishes = true := by
      rw [Deed.publishes, hsubmits.1, hsubmits.2]
      rfl
    have howned := hvalid.owned hordered hsubmits.1 rfl
    -- to submit the frame does not change its value, which is the last one before
    obtain ⟨hdrawn, -, -⟩ := (hvalid.rewritten hordered).counts hpublishes
    rcases (hvalid.rewritten hordered).fences hdrawn with ⟨-, hsame⟩ | ⟨hbegun, -⟩
    · rw [hsame, ← hslot] at hvalue
      refine ⟨c, next, hclient, htoken, hslot, ?_⟩
      rw [← hvalue]
      exact hearlier.last_value hsession howned (hvalue ▸ hnot)
    · rw [Deed.begun?, hsubmits.2] at hbegun
      cases hbegun
  case awaited =>
    rintro earlier part d rest rfl hsession request hmem
    obtain ⟨hearlier, hentry, -⟩ := hcourse.deed
    have hvalid := hentry.resolve_right fun hdies => by
      rw [hdies.2.1] at hmem
      cases hmem
    obtain ⟨id, h, hcaptured, -, hlayers, hvalue⟩ := hvalid.asks hearlier.ordered hmem
    obtain ⟨rfl, howned⟩ := hvalid.captured_current hearlier.ordered hcaptured
    have hnot := (Course.step hearlier hvalid).ready_ne_zero hfew.through howned hlayers
    have hsteady : ¬d.Starts := by
      intro hstarts
      have hresets : Deed.Resets _ := hearlier.ordered.resets_of_starts hvalid hstarts
      exact hlayers hresets.blank.layers.2
    have hnone : d.begun? = none := by
      cases hanswer : d.answer with
      | next => rw [hanswer] at hmem; cases hmem
      | _ => rw [Deed.begun?, hanswer]
    refine ⟨id, _, hcaptured, ?_⟩
    rw [hvalue]
    exact hcourse.last_value_before hsession hsteady hnone howned hnot

/-- A writer publishes three frames, and then a reader takes the lock. -/
def Exchange.readerScript : List (Thread × Move) :=
  [(⟨7, 0⟩, .openWriter 0 5), (⟨7, 1⟩, .openReader 1)] ++ turn ⟨7, 0⟩ 0 ++ turn ⟨7, 0⟩ 0 ++
    turn ⟨7, 0⟩ 0 ++ [(⟨7, 1⟩, .call 1 (.lock .blocking))]

/-- The reader dies in the middle of a call. The writer goes on, and the values start again. -/
theorem Course.fencesRise_torn : ∃ first x second y,
    Exchange.sample.play Exchange.readerScript = some (first, x) ∧
    ∃ torn, torn = x.broken ⟨7, 1⟩ x.memory x.host ∧
    torn.play (Exchange.turn ⟨7, 0⟩ 0) = some (second, y) ∧
    ∃ deeds, deeds = first ++ ⟨x, ⟨7, 1⟩, .die, .done, torn⟩ :: second ∧
    Course Exchange.sample deeds y ∧ FewFrames deeds ∧ valuesFor deeds 0 = [1] ∧
    valuesFor deeds 1 = [1, 2, 1] ∧ FencesRise deeds := by
  have hplayed : ((Exchange.sample.play Exchange.readerScript).bind fun (first, x) =>
      let torn := x.broken ⟨7, 1⟩ x.memory x.host
      (torn.play (Exchange.turn ⟨7, 0⟩ 0)).map fun (second, _) =>
        let deeds := first ++ ⟨x, ⟨7, 1⟩, .die, .done, torn⟩ :: second
        ((x.dead, x.mutex.holding), (deeds.filterMap Deed.begun?).length, valuesFor deeds 0,
          valuesFor deeds 1)) = some (([], .held ⟨7, 1⟩), 4, [1], [1, 2, 1]) := by
    decide +kernel
  obtain ⟨⟨first, x⟩, hfirst, hrest⟩ := Option.bind_eq_some_iff.mp hplayed
  obtain ⟨⟨second, y⟩, hsecond, hfacts⟩ := Option.map_eq_some_iff.mp hrest
  obtain ⟨hstate, hfacts⟩ := Prod.mk.inj hfacts
  obtain ⟨hdead, hheld⟩ := Prod.mk.inj hstate
  obtain ⟨hcount, hfacts⟩ := Prod.mk.inj hfacts
  obtain ⟨heven, hodd⟩ := Prod.mk.inj hfacts
  have halive : (⟨7, 1⟩ : Thread) ∉ x.dead := by
    rw [show x.dead = [] from hdead]
    exact List.not_mem_nil
  have hcourse := Course.of_torn hfirst halive hheld rfl hsecond
  have hfew : FewFrames (first ++ ⟨x, ⟨7, 1⟩, .die, .done, x.broken ⟨7, 1⟩ x.memory x.host⟩ ::
      second) := by
    rw [FewFrames, hcount]
    decide
  exact ⟨first, x, second, y, hfirst, _, rfl, hsecond, _, rfl, hcourse, hfew, heven, hodd,
    Course.fencesRise hcourse hfew⟩

/-- A writer publishes a frame and detaches, and publishes one more. A reader looks on. -/
def Exchange.detachScript : List (Thread × Move) :=
  let look : Thread × Move := (⟨7, 0⟩, .call 1 (.read .viewer 5 1 .fresh))
  [(⟨7, 0⟩, .openWriter 0 5), (⟨7, 0⟩, .openReader 1)] ++ turn ⟨7, 0⟩ 0 ++
    [look, (⟨7, 0⟩, .call 0 (.lock .blocking)), (⟨7, 0⟩, .call 0 .detach),
      (⟨7, 0⟩, .call 0 (.release false))] ++ turn ⟨7, 0⟩ 0 ++ [look]

/-- Over the end of a session the values do not rise: the only writer is told the same value for
the same slot again, and the reader waits for it again. -/
theorem Course.fences_repeat : ∃ deeds y,
    Exchange.sample.play Exchange.detachScript = some (deeds, y) ∧ Course Exchange.sample deeds y ∧
    FewFrames deeds ∧ valuesFor deeds 1 = [1, 1] ∧ ¬(valuesFor deeds 1).Pairwise (· < ·) ∧
    (deeds.flatMap (·.answer.copies)).map CopyRequest.value = [1, 1] := by
  have hplayed : (Exchange.sample.play Exchange.detachScript).map (fun (deeds, _) =>
      ((deeds.filterMap Deed.begun?).length, valuesFor deeds 1,
        (deeds.flatMap (·.answer.copies)).map CopyRequest.value)) =
      some (2, [1, 1], [1, 1]) := by
    decide +kernel
  obtain ⟨⟨deeds, y⟩, hplay, hfacts⟩ := Option.map_eq_some_iff.mp hplayed
  obtain ⟨hcount, hfacts⟩ := Prod.mk.inj hfacts
  obtain ⟨hvalues, hcopies⟩ := Prod.mk.inj hfacts
  refine ⟨deeds, y, hplay, of_run (Run.of_play hplay), ?_, hvalues, ?_, hcopies⟩
  · rw [FewFrames, hcount]
    decide
  · rw [hvalues]
    decide

end FrameExchange
