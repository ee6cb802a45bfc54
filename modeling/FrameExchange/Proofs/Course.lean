import FrameExchange.Proofs.Recovery

/-!
# The whole course of a region

Steps, and deaths at any time: between two calls, which are steps themselves, and in the middle of a
call. What a thread leaves behind in the middle of a call is an entry like any other, so that all
that was ever drawn or published is found by looking at the entries.

- `Deed.Dies`, `Course` — steps and deaths one after the other.
- `Course.deed` — a course is cut at one of its entries.
- `Course.ordered` — the invariant that holds in spite of all deaths.
- `Deed.Valid.owned` — whoever works under a guard has the lock.
- `Course.sound` — the whole invariant, except while the lock of a dead owner waits to be taken.
-/

namespace FrameExchange

/-- The thread has died in the middle of a call. -/
def Deed.Dies (d : Deed) : Prop :=
  d.move = .die ∧ d.answer = .done ∧ d.before.Breaks d.thread d.after

/-- Steps and deaths one after the other. -/
inductive Course (x : Exchange) : List Deed → Exchange → Prop where
  | nil : Course x [] x
  | step {deeds : List Deed} {d : Deed} : Course x deeds d.before → d.Valid →
      Course x (deeds ++ [d]) d.after
  | death {deeds : List Deed} {d : Deed} : Course x deeds d.before → d.Dies →
      Course x (deeds ++ [d]) d.after

/-- Steps keep to the states of a region on which threads die, and so do deaths. -/
theorem Mortal.course {x y : Exchange} {deeds : List Deed} (hmortal : Mortal x)
    (hcourse : Course x deeds y) : Mortal y := by
  induction hcourse with
  | nil => exact hmortal
  | step _ hvalid ih => exact .step ih hvalid
  | death _ hdies ih => exact .broken ih hdies.2.2

namespace Course

variable {x y z : Exchange} {deeds first second : List Deed} {d : Deed}

/-- Where nothing happens everything stays. -/
theorem nil_iff : Course x [] y ↔ y = x := by
  constructor
  · intro h
    generalize hnone : ([] : List Deed) = none at h
    cases h with
    | nil => rfl
    | step => exact absurd hnone (by simp)
    | death => exact absurd hnone (by simp)
  · rintro rfl
    exact .nil

/-- The last entry of a course. -/
theorem snoc_iff :
    Course x (deeds ++ [d]) z ↔ Course x deeds d.before ∧ (d.Valid ∨ d.Dies) ∧ z = d.after := by
  constructor
  · intro h
    generalize hall : deeds ++ [d] = all at h
    cases h with
    | nil => exact absurd hall (by simp)
    | step hcourse hvalid =>
      obtain ⟨rfl, hlast⟩ := List.append_inj' hall rfl
      cases hlast
      exact ⟨hcourse, .inl hvalid, rfl⟩
    | death hcourse hdies =>
      obtain ⟨rfl, hlast⟩ := List.append_inj' hall rfl
      cases hlast
      exact ⟨hcourse, .inr hdies, rfl⟩
  · rintro ⟨hcourse, hvalid | hdies, rfl⟩
    · exact .step hcourse hvalid
    · exact .death hcourse hdies

/-- A course can be cut between any two entries. -/
theorem append_iff : Course x (first ++ second) z ↔
    ∃ y, Course x first y ∧ Course y second z := by
  constructor
  · intro h
    induction second using List.reverseRecOn generalizing z with
    | nil => exact ⟨z, List.append_nil first ▸ h, .nil⟩
    | append_singleton rest d ih =>
      rw [← List.append_assoc] at h
      obtain ⟨hcourse, hentry, rfl⟩ := snoc_iff.mp h
      obtain ⟨y, hfirst, hrest⟩ := ih hcourse
      exact ⟨y, hfirst, snoc_iff.mpr ⟨hrest, hentry, rfl⟩⟩
  · rintro ⟨y, hfirst, hsecond⟩
    induction hsecond with
    | nil => exact (List.append_nil first).symm ▸ hfirst
    | step _ hvalid ih => exact List.append_assoc .. ▸ Course.step ih hvalid
    | death _ hdies ih => exact List.append_assoc .. ▸ Course.death ih hdies

/-- Every entry of a course is a step or a death, and the course goes on from it. -/
theorem deed {earlier later : List Deed} (hcourse : Course x (earlier ++ d :: later) y) :
    Course x earlier d.before ∧ (d.Valid ∨ d.Dies) ∧ Course d.after later y := by
  rw [List.append_cons, append_iff] at hcourse
  obtain ⟨z, hfirst, hrest⟩ := hcourse
  obtain ⟨hearlier, hentry, rfl⟩ := snoc_iff.mp hfirst
  exact ⟨hearlier, hentry, hrest⟩

/-- A run is a course in which nobody dies in the middle of a call. -/
theorem of_run (hrun : Run x deeds y) : Course x deeds y := by
  induction hrun with
  | nil => exact .nil
  | snoc _ hvalid ih => exact .step ih hvalid

/-- A course leads to such states only. -/
theorem mortal {names : RegionNames} {host : Host} (hcourse : Course (.start names host) deeds y) :
    Mortal y := by
  have hstart : Mortal (.start names host) :=
    .start names _ host (Exchange.Sound.start names host).length
  exact hstart.course hcourse

/-- The invariant holds wherever a course has come to. -/
theorem ordered {names : RegionNames} {host : Host} (hcourse : Course (.start names host) deeds y) :
    y.Ordered := hcourse.mortal.ordered

/-- A course in which the owner of the lock dies in the middle of a call, and leaves these bytes. -/
theorem of_torn {script rest : List (Thread × Move)} {more : List Deed} {thread : Thread}
    {memory : Bytes} (hplay : x.play script = some (deeds, y)) (halive : thread ∉ y.dead)
    (hheld : y.mutex.holding = .held thread) (hlength : memory.length = y.memory.length)
    (hrest : (y.broken thread memory y.host).play rest = some (more, z)) :
    Course x (deeds ++ ⟨y, thread, .die, .done, y.broken thread memory y.host⟩ :: more) z := by
  have hfirst := of_run (Run.of_play hplay)
  have hbroken := Course.death (d := ⟨y, thread, .die, .done, y.broken thread memory y.host⟩) hfirst
    ⟨rfl, rfl, .alone memory y.host halive (.inl hheld) hlength⟩
  rw [List.append_cons]
  exact append_iff.mpr ⟨_, hbroken, of_run (Run.of_play hrest)⟩

end Course

/-- The steps of a thread that publishes the frame of the sample. -/
def Exchange.turn (thread : Thread) (id : Nat) : List (Thread × Move) :=
  [(thread, .call id (.lock .blocking)), (thread, .call id .beginFrame),
    (thread, .call id (.submit sampleFrame)), (thread, .call id (.release false))]

/-! ## Entries -/

namespace Deed

variable {d : Deed}

/-- Nobody dies in the middle of publishing a frame and has published it. -/
theorem Dies.publishes (hdies : d.Dies) : d.publishes = false := by
  rw [Deed.publishes, hdies.1]
  rfl

/-- To die is no call. -/
theorem Dies.not_call {id : Nat} (hdies : d.Dies) (call : Call) : d.move ≠ .call id call := by
  rw [hdies.1]
  exact fun heq => by cases heq

/-- The dead leave the lock to whoever takes it next. -/
theorem Dies.orphaned (hdies : d.Dies) : d.after.mutex.holding = .orphaned := hdies.2.2.orphaned

/-- The dead leave all objects as they are, but for their guards. -/
theorem Dies.client {id : Nat} {c' : Client} (hdies : d.Dies)
    (hafter : d.after.clients.get? id = some c') :
    ∃ c, d.before.clients.get? id = some c ∧ c'.body = c.body := by
  obtain ⟨-, -, hbreaks⟩ := hdies
  generalize d.after = y at hbreaks hafter
  cases hbreaks with
  | alone => exact ⟨c', hafter, rfl⟩
  | @through held c memory host _ _ hclient =>
    rw [Exchange.get?_put] at hafter
    split at hafter
    · next heq =>
      cases hafter
      exact ⟨c, heq ▸ hclient, rfl⟩
    · exact ⟨c', hafter, rfl⟩

namespace Valid

/-- What a step does to the header, whatever deaths there were. -/
theorem rewritten (hvalid : d.Valid) (hordered : d.before.Ordered) : d.Rewrites :=
  (Exchange.happens hordered.settled hordered.length hvalid).2.rewrites hordered.length

/-- Who makes a call under a guard has the lock, so nobody has left it behind. -/
theorem owned {id : Nat} {call : Call} (hvalid : d.Valid) (hordered : d.before.Ordered)
    (hmove : d.move = .call id call) (hunder : call.underGuard = true) :
    d.before.mutex.holding ≠ .orphaned := by
  have hstep : d.before.step d.thread (.call id call) = some (d.answer, d.after) := hmove ▸ hvalid
  obtain ⟨halive, c, -, hclient, hguard, -⟩ := Exchange.step_ends hstep
  exact fun horphaned => hordered.not_guardOf horphaned halive hclient (hguard hunder)

/-- Whoever publishes a frame has the lock. -/
theorem owned_of_publishes (hvalid : d.Valid) (hordered : d.before.Ordered)
    (hpublishes : d.publishes = true) : d.before.mutex.holding ≠ .orphaned := by
  unfold Deed.publishes at hpublishes
  generalize hmove : d.move = move at hpublishes
  generalize d.answer = answer at hpublishes
  have hunder : ∃ id call, move = .call id call ∧ call.underGuard = true := by
    cases move with
    | call id call =>
      refine ⟨id, call, rfl, ?_⟩
      cases call <;> first | rfl | cases hpublishes
    | _ => cases hpublishes
  obtain ⟨id, call, rfl, hunder⟩ := hunder
  exact hvalid.owned hordered hmove hunder

end Valid

end Deed

/-! ## Deaths leave nothing behind -/

namespace Exchange

variable {x y : Exchange} {thread : Thread} {move : Move} {answer : Answer}

/-- While the lock of a dead owner is taken, no living thread has begun a frame. -/
theorem Ordered.not_begun {id : Nat} {c : Client} {t : Thread} (hordered : x.Ordered)
    (horphaned : x.mutex.holding = .orphaned) (hstep : x.step thread move = some (answer, y))
    (hclient : y.clients.get? id = some c) (hholder : c.book.holder = some t)
    (hliving : t ∉ y.dead) : c.token = none := by
  obtain ⟨halive, hhappens⟩ := happens hordered.settled hordered.length hstep
  have hnever {c₀ : Client} (hwas : x.clients.get? id = some c₀)
      (hheld : c₀.book.holder = some t) : False :=
    hordered.exclusive.not_hasLock (.inr horphaned) id t ⟨c₀, hwas, hheld, hhappens.living hliving⟩
  cases hhappens.comes hclient with
  | kept hwas => exact (hnever hwas hholder).elim
  | @called c₀ call body s' _ hwas hguard heffect =>
    by_contra htoken
    obtain ⟨next, hnext⟩ := Option.ne_none_iff_exists'.mp htoken
    obtain ⟨-, ⟨rfl, -⟩ | ⟨hkept, -⟩⟩ := Client.tokenAfter_eq_some hnext
    · exact hordered.not_guardOf horphaned halive hwas (hguard rfl)
    · -- what was begun before was begun under guards, and their owner is dead
      have hdepth := ((hordered.settled id c₀ hwas).begun (by simp [hkept])).1
      have hrebooks := Client.rebooks heffect
      dsimp only at hholder
      generalize s'.book = book at hrebooks hholder
      cases hrebooks with
      | first hzero => exact absurd hzero (Nat.pos_iff_ne_zero.mp hdepth)
      | last => cases hholder
      | _ => exact hnever hwas hholder
  | attached => rfl
  | openedReader => rfl
  | openedCached => rfl

/-- Whoever takes the lock of a dead owner puts everything in order. -/
theorem Ordered.sound_of_taken (hordered : x.Ordered) (horphaned : x.mutex.holding = .orphaned)
    (hstep : x.step thread move = some (answer, y)) (htaken : y.mutex.holding ≠ .orphaned) :
    y.Sound := by
  rcases hordered.resets horphaned hstep with ⟨hleft, -⟩ | ⟨-, hresets⟩
  · exact absurd hleft htaken
  · have hafter := hordered.step hstep
    have hblank : y.header.Blank (x.adapter move) := hresets.blank
    constructor
    case length => exact hafter.length
    case exclusive => exact hafter.exclusive
    case settled => exact hafter.settled
    case trusted =>
      intro hfeeder
      rw [hblank.detached] at hfeeder
      cases hfeeder
    case magic =>
      intro _ _ _ _ _
      exact hblank.magic
    case begun =>
      intro id c t next hclient hholder hliving htoken
      rw [hordered.not_begun horphaned hstep hclient hholder hliving] at htoken
      cases htoken

end Exchange

/-- Everything is in order, except while the lock of a dead owner waits to be taken. -/
theorem Course.sound {names : RegionNames} {host : Host} {deeds : List Deed} {y : Exchange}
    (hcourse : Course (.start names host) deeds y) (howned : y.mutex.holding ≠ .orphaned) :
    y.Sound := by
  induction hcourse with
  | nil => exact .start names host
  | @step deeds d hcourse hvalid ih =>
    by_cases horphaned : d.before.mutex.holding = .orphaned
    · exact hcourse.ordered.sound_of_taken horphaned hvalid howned
    · exact (ih horphaned).step hvalid
  | death _ hdies => exact absurd hdies.orphaned howned

end FrameExchange
