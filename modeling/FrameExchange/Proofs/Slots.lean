import FrameExchange.Proofs.Capturing

/-!
# Slots and fence values

A writer learns where to render a frame, and which fence value to signal, when it begins the frame;
a reader works both out again from the header, when the frame has its number. They agree, whatever
happens in between, and wherever a thread dies: a header that was left half written is replaced
before anybody can copy it.

- `Deed.Valid.submitted_next` — the frame that was begun gets the number whose slot it has.
- `Deed.Valid.began` — the frame that is begun is never the one that is shown.
- `Course.begun`, `Course.origin` — where a frame that is begun comes from, and one that is shown.
- `SlotsAgree`, `Course.slotsAgree` — both of a whole course, with all the copies that readers ask
  for.
-/

namespace FrameExchange

namespace Deed

variable {d : Deed}

/-! ## Steps -/

/-- A frame that is submitted was begun, for the slot of its number and with the fence value that
readers will find there. -/
theorem Valid.submitted_next {id : Nat} {frame : Frame} (hvalid : d.Valid) (hsound : d.before.Sound)
    (hsubmits : d.Submits id frame) : ∃ c next, d.before.clients.get? id = some c ∧
      c.token = some next ∧ next.slot = Header.slotOf d.after.header.frame ∧
      d.after.header.fenceValue next.slot = next.fenceValue := by
  have halive := (Exchange.happens hsound.settled hsound.length hvalid).1
  obtain ⟨c, w, next, hclient, -, hguard, htoken, -, hheader, -⟩ := hvalid.submitted hsound hsubmits
  obtain ⟨hslot, hvalue⟩ := hsound.begun id c d.thread next hclient hguard.2 halive htoken
  refine ⟨c, next, hclient, htoken, ?_, ?_⟩
  · rw [hheader]
    exact hslot
  · rw [hheader, hvalue, hslot]
    rfl

/-- A frame that is begun gets a slot other than the current frame's, which stays as it is. -/
theorem Valid.began {id : Nat} {next : NextFrame} (hvalid : d.Valid) (hsound : d.before.Sound)
    (hmove : d.move = .call id .beginFrame) (hanswer : d.answer = .next next) :
    next.slot ≠ d.before.header.slot ∧ d.before.header.SameFrame d.after.header := by
  have hrewrites := hvalid.rewrites hsound
  rw [hmove, hanswer] at hrewrites
  generalize d.after = y at hrewrites ⊢
  cases hrewrites with
  | kept _ hnever => exact absurd rfl (hnever next)
  | restarted _ hnever => exact absurd rfl (hnever next)
  | raised hheader =>
    refine ⟨d.before.header.nextSlot_ne_slot, ?_⟩
    rw [hheader]
    exact .raise _

/-- A copy that waits for the fence value of a frame that was begun, out of the handles that the
reader keeps for the frame's slot when it asks for the copy. -/
structure CopiesFor (d : Deed) (next : NextFrame) (request : CopyRequest) : Prop where
  value : request.value = next.fenceValue
  handles : ∃ id c r handles r', d.before.clients.get? id = some c ∧ c.body.reader? = some r ∧
    (r.follow d.before.header).handles d.before.host d.thread.pid d.before.header =
      .ok (handles, r') ∧
    r'.slots[next.slot] = some handles ∧ request.texture = handles.texture ∧
    request.fence = handles.fence

/-- The dead have begun nothing that was not begun before. -/
theorem Dies.token {id : Nat} {c' : Client} {next : NextFrame} (hdies : d.Dies)
    (hafter : d.after.clients.get? id = some c') (htoken : c'.token = some next) :
    ∃ c, d.before.clients.get? id = some c ∧ c.token = some next := by
  obtain ⟨-, -, hbreaks⟩ := hdies
  generalize d.after = y at hbreaks hafter
  cases hbreaks with
  | alone => exact ⟨c', hafter, htoken⟩
  | through =>
    rw [Exchange.get?_put] at hafter
    split at hafter
    · cases hafter
      cases htoken
    · exact ⟨c', hafter, htoken⟩

/-- Nobody copies a frame by dying. -/
theorem Dies.copies (hdies : d.Dies) : d.answer.copies = [] := by
  rw [hdies.2.1]
  rfl

/-- A copy is made for a frame that is in the region already, by whoever gets the lock and does not
get it from a dead owner. -/
theorem Valid.owned_of_copies {request : CopyRequest} (hvalid : d.Valid)
    (hordered : d.before.Ordered) (hmem : request ∈ d.answer.copies) :
    d.before.mutex.holding ≠ .orphaned := by
  intro horphaned
  obtain ⟨id, h, hcaptured, -, hlayers, -⟩ := hvalid.asks hordered hmem
  obtain ⟨rfl, howned⟩ := hvalid.captured_current hordered hcaptured
  -- whoever takes the lock of a dead owner leaves no layers
  rcases hordered.resets horphaned hvalid with ⟨hleft, -⟩ | ⟨-, hresets⟩
  · exact howned hleft
  · exact hlayers hresets.blank.layers.2

end Deed

/-! ## Courses -/

namespace Course

variable {names : RegionNames} {host : Host} {x y : Exchange} {deeds more : List Deed}

/-- Where somebody has the lock in the end and neither a frame was published nor a session begun,
the frame is the same. -/
theorem sameFrame (hcourse : Course (.start names host) deeds x) (hmore : Course x more y)
    (hquiet : ∀ d ∈ more, d.Quiet) (howned : y.mutex.holding ≠ .orphaned) :
    x.header.SameFrame y.header ∧ x.mutex.holding ≠ .orphaned := by
  induction hmore with
  | nil => exact ⟨.refl _, howned⟩
  | @step more d hmore hvalid ih =>
    rw [List.forall_mem_append] at hquiet
    have hlast := hquiet.2 d (List.mem_singleton.mpr rfl)
    have hordered := (append_iff.mpr ⟨x, hcourse, hmore⟩).ordered
    -- a quiet step leaves the lock to be taken
    have hbefore : d.before.mutex.holding ≠ .orphaned := fun horphaned =>
      howned (hvalid.orphaned hordered horphaned hlast.2).1
    obtain ⟨hsame, hfirst⟩ := ih hquiet.1 hbefore
    exact ⟨hsame.trans ((hvalid.rewritten hordered).sameFrame hlast), hfirst⟩
  | death _ hdies => exact absurd hdies.orphaned howned

/-- A frame with layers that is in the header was submitted, if somebody could have copied it. -/
theorem origin (hcourse : Course (.start names host) deeds y)
    (howned : y.mutex.holding ≠ .orphaned) (hlayers : y.header.layers ≠ []) :
    ∃ d, Latest deeds d := by
  induction hcourse with
  | nil => exact absurd (Exchange.layers_start names host) hlayers
  | @step deeds d hcourse hvalid ih =>
    by_cases horphaned : d.before.mutex.holding = .orphaned
    · rcases hcourse.ordered.resets horphaned hvalid with ⟨hleft, -⟩ | ⟨-, hresets⟩
      · exact absurd hleft howned
      · exact absurd hresets.blank.layers.2 hlayers
    · have hsound := hcourse.sound horphaned
      -- after a quiet step the layers are older; any other step has submitted them
      by_cases hquiet : d.Quiet
      · rw [(hvalid.sameFrame hsound hquiet).layers] at hlayers
        obtain ⟨e, earlier, later, id, frame, rfl, hsubmits, hframe, hrest⟩ := ih horphaned hlayers
        refine ⟨e, earlier, later ++ [d], id, frame, by simp, hsubmits, hframe, ?_⟩
        rw [List.forall_mem_append]
        exact ⟨hrest, fun e hmem => List.mem_singleton.mp hmem ▸ hquiet⟩
      · obtain ⟨id, frame, hsubmits⟩ := hvalid.submits hsound hquiet hlayers
        rw [hvalid.layers_submitted hsound hsubmits] at hlayers
        exact ⟨d, deeds, [], id, frame, rfl, hsubmits, hlayers, List.forall_mem_nil _⟩
  | death _ hdies => exact absurd hdies.orphaned howned

/-- A frame that is begun was begun through the same object, and not submitted since. -/
theorem begun {id : Nat} {c : Client} {next : NextFrame}
    (hcourse : Course (.start names host) deeds y) (hclient : y.clients.get? id = some c)
    (htoken : c.token = some next) : Begun deeds id next := by
  have hlater {deeds : List Deed} {d : Deed} (hbegun : Begun deeds id next)
      (hsubmit : ∀ frame, d.move ≠ .call id (.submit frame))
      (hbegin : d.move = .call id .beginFrame → ∀ other, d.answer ≠ .next other) :
      Begun (deeds ++ [d]) id next := by
    obtain ⟨earlier, b, later, rfl, hmove, hanswer, hrest⟩ := hbegun
    refine ⟨earlier, b, later ++ [d], by simp, hmove, hanswer, ?_⟩
    rw [List.forall_mem_append]
    exact ⟨hrest, fun e hmem => List.mem_singleton.mp hmem ▸ ⟨hsubmit, hbegin⟩⟩
  induction hcourse generalizing c with
  | nil => cases hclient
  | @step deeds d hcourse hvalid ih =>
    have hordered := hcourse.ordered
    have hcomes := (Exchange.happens hordered.settled hordered.length hvalid).2.comes hclient
    generalize hmove : d.move = move at hcomes
    generalize hanswer : d.answer = answer at hcomes
    cases hcomes with
    | kept hsame hother =>
      subst hmove
      exact hlater (ih hsame htoken) (fun _ => hother _) fun hbegins => absurd hbegins (hother _)
    | @called c' call body s' hcall hsame =>
      subst hcall
      obtain ⟨-, ⟨rfl, rfl⟩ | ⟨htoken', hsubmit, hbegin⟩⟩ := Client.tokenAfter_eq_some htoken
      · exact ⟨deeds, d, [], rfl, hmove, hanswer, List.forall_mem_nil _⟩
      · refine hlater (ih hsame htoken') (fun frame hsubmits => ?_) fun hbegins other hnext => ?_
        · cases hmove.symm.trans hsubmits
          exact hsubmit frame rfl
        · cases hmove.symm.trans hbegins
          exact hbegin rfl other (hanswer.symm.trans hnext)
    | attached => cases htoken
    | openedReader => cases htoken
    | openedCached => cases htoken
  | death _ hdies ih =>
    obtain ⟨c₀, hbefore, htoken₀⟩ := hdies.token hclient htoken
    exact hlater (ih hbefore htoken₀) (fun _ => hdies.not_call _) fun hbegins =>
      absurd hbegins (hdies.not_call _)

/-- A copy is made for the frame that was submitted last, out of the handles for its slot and with
its fence value. -/
theorem copiesFor {r : Deed} {next : NextFrame} {request : CopyRequest}
    (hcourse : Course (.start names host) deeds x) (hmore : Course x more r.before)
    (hquiet : ∀ e ∈ more, e.Quiet) (hentry : r.Valid ∨ r.Dies) (hslot : next.slot = x.header.slot)
    (hvalue : x.header.fenceValue next.slot = next.fenceValue)
    (hmem : request ∈ r.answer.copies) : r.CopiesFor next request := by
  have hvalid := hentry.resolve_right fun hdies => by
    rw [hdies.copies] at hmem
    cases hmem
  have hwhole := append_iff.mpr ⟨x, hcourse, hmore⟩
  have howned := hvalid.owned_of_copies hwhole.ordered hmem
  obtain ⟨hsame, -⟩ := hcourse.sameFrame hmore hquiet howned
  have hnow : r.before.header.slot = next.slot := hsame.slot.trans hslot.symm
  obtain ⟨id, handles, hcopies⟩ := hvalid.copies (hwhole.sound howned) hmem
  obtain ⟨c, reader, reader', hclient, hreader, hfound⟩ := hcopies.found
  obtain ⟨target, rfl⟩ := hcopies.request
  have hkept := (Reader.finds hfound).slot
  simp only [hnow] at hkept
  refine ⟨?_, id, c, reader, handles, reader', hclient, hreader, hfound, hkept, rfl, rfl⟩
  show r.before.header.fenceValue r.before.header.slot = next.fenceValue
  rw [hsame.slot, hsame.ready, ← hslot]
  exact hvalue

end Course

/-- In this course feeders and consumers agree on slots and fence values. -/
structure SlotsAgree (deeds : List Deed) : Prop where
  /-- A frame that is submitted as number `n` was begun for slot `n` modulo two. As long as it is
  shown, every copy waits for the value that its feeder was told, out of handles for its slot. -/
  published : ∀ earlier d later id frame, deeds = earlier ++ d :: later → d.Submits id frame →
    ∃ next, Begun earlier id next ∧ next.slot.val = d.after.header.frame.toNat % 2 ∧
      ∀ between r rest, later = between ++ r :: rest → (∀ e ∈ between, e.Quiet) →
        ∀ request ∈ r.answer.copies, r.CopiesFor next request
  /-- Copies are made of nothing but frames that were submitted, with layers, and are still
  shown. -/
  copied : ∀ before r rest, deeds = before ++ r :: rest → r.answer.copies ≠ [] →
    ∃ d, Latest before d
  /-- To begin a frame touches neither the slot nor the fence value of the one that is shown. -/
  begun : ∀ d ∈ deeds, ∀ id next, d.move = .call id .beginFrame → d.answer = .next next →
    next.slot.val ≠ d.before.header.frame.toNat % 2 ∧
      d.after.header.frame = d.before.header.frame ∧
      d.after.header.fenceValue d.before.header.slot =
        d.before.header.fenceValue d.before.header.slot

/-- Feeders and consumers agree on slots and fence values, wherever threads die. -/
theorem Course.slotsAgree {names : RegionNames} {host : Host} {deeds : List Deed} {y : Exchange}
    (hcourse : Course (.start names host) deeds y) : SlotsAgree deeds := by
  constructor
  case published =>
    rintro earlier d later id frame rfl hsubmits
    obtain ⟨hearlier, hentry, hlater⟩ := hcourse.deed
    have hvalid := hentry.resolve_right fun hdies => hdies.not_call _ hsubmits.1
    have hsound := hearlier.sound (hvalid.owned hearlier.ordered hsubmits.1 rfl)
    obtain ⟨c, next, hclient, htoken, hslot, hvalue⟩ := hvalid.submitted_next hsound hsubmits
    refine ⟨next, hearlier.begun hclient htoken, congrArg Fin.val hslot, ?_⟩
    rintro between r rest rfl hquiet request hmem
    obtain ⟨hbetween, hread, -⟩ := hlater.deed
    exact (Course.step hearlier hvalid).copiesFor hbetween hquiet hread hslot hvalue hmem
  case copied =>
    rintro before r rest rfl hcopies
    obtain ⟨hbefore, hentry, -⟩ := hcourse.deed
    obtain ⟨request, hmem⟩ := List.exists_mem_of_ne_nil _ hcopies
    have hvalid := hentry.resolve_right fun hdies => hcopies hdies.copies
    have howned := hvalid.owned_of_copies hbefore.ordered hmem
    obtain ⟨id, handles, hcopies⟩ := hvalid.copies (hbefore.sound howned) hmem
    exact hbefore.origin howned hcopies.layers
  case begun =>
    intro d hmem id next hmove hanswer
    obtain ⟨earlier, later, rfl⟩ := List.append_of_mem hmem
    obtain ⟨hearlier, hentry, -⟩ := hcourse.deed
    have hvalid := hentry.resolve_right fun hdies => hdies.not_call _ hmove
    have hsound := hearlier.sound (hvalid.owned hearlier.ordered hmove rfl)
    obtain ⟨hslot, hsame⟩ := hvalid.began hsound hmove hanswer
    exact ⟨fun heq => hslot (Fin.ext heq), congrArg FrameKey.frame hsame.key, hsame.ready⟩

/-- A frame is published and read, and another thread begins the next one. -/
def Exchange.beginScript : List (Thread × Move) :=
  sampleScript ++ [(⟨7, 1⟩, .call 0 (.lock .blocking)), (⟨7, 1⟩, .call 0 .beginFrame)]

/-- Another writer publishes a frame, which is read. -/
def Exchange.rereadScript : List (Thread × Move) :=
  let look : Thread × Move := (⟨7, 0⟩, .call 1 (.read .viewer 5 1 .fresh))
  [look, (⟨7, 0⟩, .openWriter 2 5)] ++ turn ⟨7, 0⟩ 2 ++ [look]

/-- The thread that has begun the second frame dies in the middle of a call, and leaves a header
with more layers than fit. The next read makes no copy of it. The frames before and after have
number one in their sessions, and so they are begun for slot one with fence value one, and are
copied when that value is reached. -/
theorem Course.slotsAgree_torn : ∃ first x second y,
    Exchange.sample.play Exchange.beginScript = some (first, x) ∧
    ∃ torn, torn = x.broken ⟨7, 1⟩ (Header.codec.encode (.forged 1 200)) x.host ∧
    torn.play Exchange.rereadScript = some (second, y) ∧
    ∃ deeds, deeds = first ++ ⟨x, ⟨7, 1⟩, .die, .done, torn⟩ :: second ∧
    Course Exchange.sample deeds y ∧
    deeds.flatMap (·.answer.copies) = [⟨⟨0, "texture"⟩, ⟨1, "fence"⟩, 1, 1⟩,
      ⟨⟨0, "texture"⟩, ⟨1, "fence"⟩, 1, 1⟩] ∧ SlotsAgree deeds := by
  have hplayed : ((Exchange.sample.play Exchange.beginScript).bind fun (first, x) =>
      let torn := x.broken ⟨7, 1⟩ (Header.codec.encode (.forged 1 200)) x.host
      (torn.play Exchange.rereadScript).map fun (second, _) =>
        let deeds := first ++ ⟨x, ⟨7, 1⟩, .die, .done, torn⟩ :: second
        ((x.dead, x.mutex.holding, x.memory.length), deeds.flatMap (·.answer.copies))) =
      some (([], .held ⟨7, 1⟩, Header.byteSize), [⟨⟨0, "texture"⟩, ⟨1, "fence"⟩, 1, 1⟩,
        ⟨⟨0, "texture"⟩, ⟨1, "fence"⟩, 1, 1⟩]) := by
    decide +kernel
  obtain ⟨⟨first, x⟩, hfirst, hrest⟩ := Option.bind_eq_some_iff.mp hplayed
  obtain ⟨⟨second, y⟩, hsecond, hfacts⟩ := Option.map_eq_some_iff.mp hrest
  obtain ⟨hstate, hcopies⟩ := Prod.mk.inj hfacts
  obtain ⟨hdead, hstate⟩ := Prod.mk.inj hstate
  obtain ⟨hheld, hlength⟩ := Prod.mk.inj hstate
  have halive : (⟨7, 1⟩ : Thread) ∉ x.dead := by
    rw [show x.dead = [] from hdead]
    exact List.not_mem_nil
  have hcourse := Course.of_torn hfirst halive hheld
    ((Codec.length_encode ..).trans hlength.symm) hsecond
  exact ⟨first, x, second, y, hfirst, _, rfl, hsecond, _, rfl, hcourse, hcopies,
    Course.slotsAgree hcourse⟩

end FrameExchange
