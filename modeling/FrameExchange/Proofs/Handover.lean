import FrameExchange.Proofs.Sessions

/-!
# A writer that ends after another one has taken over

A writer does not look at the header before it ends the session there. So a writer that detaches, or
that ends and gets the lock, ends the session of whoever has taken over from it. There is no feeder
then, until a frame is published, which is the first one of yet another session.

- `Course.key_kept` — the key stays until a session is begun or a frame is published.
- `Deed.Vacates` — what a writer that ends does to the region.
- `Course.writersEnd` — all ways in which writers end.
-/

namespace FrameExchange

open Exchange

/-! ## Until something happens -/

/-- Unless the lock is left behind, the key stays until a session is begun or a frame is
published. -/
theorem Course.key_kept {x y : Exchange} {deeds : List Deed} (hmortal : Mortal x)
    (hcourse : Course x deeds y) (hnone : ∀ d ∈ deeds, ¬d.Starts ∧ d.publishes = false) :
    y.mutex.holding = .orphaned ∨ y.header.key = x.header.key := by
  induction hcourse with
  | nil => exact .inr rfl
  | @step deeds d hcourse hvalid ih =>
    rw [List.forall_mem_append] at hnone
    have hordered := (hmortal.course hcourse).ordered
    obtain ⟨hsteady, hpublishes⟩ := hnone.2 d (List.mem_singleton.mpr rfl)
    have hdrawn := hvalid.drawn_of_steady hordered hsteady
    by_cases horphaned : d.before.mutex.holding = .orphaned
    · exact .inl (hvalid.orphaned hordered horphaned hdrawn).1
    · have hkey := (ih hnone.1).resolve_left horphaned
      exact .inr (((hvalid.rewritten hordered).sameFrame ⟨hpublishes, hdrawn⟩).key.trans hkey)
  | death _ hdies => exact .inl hdies.orphaned

/-! ## The end of a writer -/

/-- The step has begun a session for nobody, after the earlier ones. -/
structure Deed.Vacates (d : Deed) (gpu : UInt64) (x : Exchange) (earlier : List Deed) : Prop where
  /-- There is no feeder and no frame, and all fence values are zero. -/
  blank : d.after.header.Blank gpu
  /-- The session was never there before. -/
  fresh : d.after.header.session ∉ x.header.session :: earlier.flatMap Deed.drawn
  /-- In particular it is none that was begun before. -/
  other : ∀ b ∈ earlier, b.Starts → b.after.header.session ≠ d.after.header.session
  /-- Reads are empty until a frame is published. -/
  empty : ∀ y thread id c call, d.after.Unlit y → thread ∉ y.dead → y.clients.get? id = some c →
    call.uncached = true → (c.operation call).isSome = true → y.ReadsEmpty thread id c call
  /-- This is frame one of the session, whichever writer publishes it. -/
  resumed : ∀ (between : List Deed) (p : Deed), Course d.after between p.before →
    (∀ e ∈ between, ¬e.Starts ∧ e.publishes = false) → p.Valid → p.publishes = true →
      p.after.header.key = ⟨d.after.header.session, 1⟩

/-- How writers end, and what becomes of the header, whichever session it shows. -/
structure WritersEnd (x : Exchange) (deeds : List Deed) : Prop where
  /-- To detach begins another session, or it fails and does nothing. -/
  detached : ∀ earlier d later id c w, deeds = earlier ++ d :: later →
    d.move = .call id .detach → d.before.clients.get? id = some c → c.body = .writer w →
      (d.answer = .done ∧ d.Vacates w.gpu x earlier) ∨
        (d.answer ≠ .done ∧ d.after.header = d.before.header)
  /-- A writer that ends while nobody has the lock begins another session. Only if its own thread
  has the lock through another object, or it was left in the middle of something, it does
  nothing. -/
  closed : ∀ earlier d later id c w, deeds = earlier ++ d :: later → d.move = .close id →
    d.before.clients.get? id = some c → c.body = .writer w →
      (c.book.machine.phase = .unlocked ∧ d.before.Unowned ∧ d.Vacates w.gpu x earlier) ∨
        ((c.book.machine.phase ≠ .unlocked ∨ d.before.mutex.holding = .held d.thread) ∧
          d.after.header = d.before.header)

namespace Course

variable {names : RegionNames} {host : Host} {y : Exchange} {earlier later deeds : List Deed}
  {d : Deed}

/-- Whoever begins a session for nobody vacates the region. -/
theorem vacates {gpu : UInt64}
    (hcourse : Course (.start names host) (earlier ++ d :: later) y)
    (hfresh : FreshSessions (.start names host) (earlier ++ d :: later)) (hstarts : d.Starts)
    (hgpu : d.before.adapter d.move = gpu) : d.Vacates gpu (.start names host) earlier := by
  obtain ⟨hresets, hnever⟩ := hcourse.starts hfresh hstarts
  obtain ⟨hearlier, hentry, -⟩ := hcourse.deed
  have hmortal : Mortal d.after := mortal (snoc_iff.mpr ⟨hearlier, hentry, rfl⟩)
  constructor
  case blank => exact hgpu ▸ hresets.blank
  case fresh => exact hnever
  case other =>
    intro b hmem hbegun hsame
    obtain ⟨front, rest, rfl⟩ := List.append_of_mem hmem
    obtain ⟨hfront, hvalid | hdies, -⟩ := hearlier.deed
    · have hdrawn : Deed.Resets b := hfront.ordered.resets_of_starts hvalid hbegun
      refine hnever (List.mem_cons_of_mem _ (List.mem_flatMap.mpr ⟨b, hmem, ?_⟩))
      exact hsame ▸ hdrawn.drawn
    · exact hdies.not_starts hbegun
  case empty =>
    intro y thread id c call hunlit halive hclient hcall hoperation
    have hdark : d.after.Dark := .inl hresets.blank.detached
    obtain ⟨hlater, hstays⟩ := hdark.unlit hmortal.ordered hunlit
    exact hlater.readsEmpty hstays halive hclient hcall hoperation
  case resumed =>
    intro between p hbetween hnone hvalid hpublishes
    have hordered := (hmortal.course hbetween).ordered
    have howned := hvalid.owned_of_publishes hordered hpublishes
    have hkey := (key_kept hmortal hbetween hnone).resolve_left howned
    obtain ⟨-, hsession, hframe⟩ := (hvalid.rewritten hordered).counts hpublishes
    rw [Header.key, Header.key, FrameKey.mk.injEq, hresets.blank.frame] at hkey
    rw [Header.key, hsession, hframe, hkey.1, hkey.2]
    rfl

/-- However a writer ends, it ends the session that there is, or does nothing. -/
theorem writersEnd (hcourse : Course (.start names host) deeds y)
    (hfresh : FreshSessions (.start names host) deeds) : WritersEnd (.start names host) deeds := by
  constructor
  case detached =>
    rintro earlier d later id c w rfl hmove hclient hbody
    obtain ⟨hearlier, hentry, -⟩ := hcourse.deed
    have hordered := hearlier.ordered
    have hvalid := hentry.resolve_right fun hdies => hdies.not_call _ hmove
    by_cases hdone : d.answer = .done
    · refine .inl ⟨hdone, hcourse.vacates hfresh (.detached id hmove hdone) ?_⟩
      rw [hmove, adapter_of_client hclient (.inr ⟨_, rfl⟩), hbody]
      rfl
    · -- nobody else can have left the lock behind, so a writer that is refused begins nothing
      have hdrawn : d.drawn = [] := hvalid.drawn_of_steady hordered fun hstarts => by
        cases hstarts with
        | detached _ _ hanswer => exact hdone hanswer
        | opened id gpu hopen => rw [hmove] at hopen; cases hopen
        | closed id c w hclose => rw [hmove] at hclose; cases hclose
        | recovered horphaned => exact hvalid.owned hordered hmove rfl horphaned
      have hpublishes : d.publishes = false := by
        rw [Deed.publishes, hmove]
        rfl
      refine .inr ⟨hdone, (hvalid.rewritten hordered).header_eq hdrawn hpublishes fun other h => ?_⟩
      rw [hmove] at h
      cases h
  case closed =>
    rintro earlier d later id c w rfl hmove hclient hbody
    obtain ⟨hearlier, hentry, -⟩ := hcourse.deed
    have hvalid := hentry.resolve_right fun hdies => by
      rw [hdies.1] at hmove
      cases hmove
    have hstep : d.before.step d.thread (.close id) = some (d.answer, d.after) := hmove ▸ hvalid
    obtain ⟨s', hafter, ⟨htakes, hphase, hunowned, -⟩ | ⟨-, hwhy, hstill⟩⟩ :=
      step_close (hearlier.ordered.settled id c hclient) hclient hbody hstep
    · have hstarts : d.Starts := .closed id c w hmove hclient hbody htakes
      refine .inl ⟨hphase, hunowned, hcourse.vacates hfresh hstarts ?_⟩
      rw [hmove, adapter_of_client hclient (.inl rfl), hbody]
      rfl
    · refine .inr ⟨hwhy, ?_⟩
      rw [hafter]
      exact congrArg Memory.load hstill.memory

end Course

/-- A second writer takes over from a first one, and publishes a frame. -/
def Exchange.handoverScript : List (Thread × Move) :=
  [(⟨7, 0⟩, .openWriter 0 5), (⟨7, 1⟩, .openWriter 1 5)] ++ turn ⟨7, 1⟩ 1

/-- The first writer detaches late, and the second one publishes again. Then the second one has the
lock while the first one ends. -/
def Exchange.lateScript : List (Thread × Move) :=
  handoverScript ++ [(⟨7, 0⟩, .call 0 (.lock .blocking)), (⟨7, 0⟩, .call 0 .detach),
    (⟨7, 0⟩, .call 0 (.release false))] ++ turn ⟨7, 1⟩ 1 ++
    [(⟨7, 1⟩, .call 1 (.lock .blocking)), (⟨7, 1⟩, .close 0)]

/-- To detach has begun a session, and to end has not. -/
theorem Course.writersEnd_late : ∃ deeds y,
    Exchange.sample.play Exchange.lateScript = some (deeds, y) ∧ Course Exchange.sample deeds y ∧
    FreshSessions Exchange.sample deeds ∧ (deeds.flatMap Deed.drawn).length = 3 ∧
    y.header.hasFeeder = true ∧ y.header.frame = 1 ∧ WritersEnd Exchange.sample deeds := by
  have hplayed : (Exchange.sample.play Exchange.lateScript).map (fun (deeds, y) =>
      (decide (FreshSessions Exchange.sample deeds), (deeds.flatMap Deed.drawn).length,
        y.header.hasFeeder, y.header.frame)) = some (true, 3, true, 1) := by
    decide +kernel
  obtain ⟨⟨deeds, y⟩, hplay, hfacts⟩ := Option.map_eq_some_iff.mp hplayed
  obtain ⟨hfresh, hfacts⟩ := Prod.mk.inj hfacts
  obtain ⟨hcount, hfacts⟩ := Prod.mk.inj hfacts
  obtain ⟨hfeeder, hframe⟩ := Prod.mk.inj hfacts
  have hcourse := Course.of_run (Run.of_play hplay)
  have hfresh := of_decide_eq_true hfresh
  exact ⟨deeds, y, hplay, hcourse, hfresh, hcount, hfeeder, hframe,
    Course.writersEnd hcourse hfresh⟩

/-- The first writer ends late, and with it ends the session of the second one: its frame is gone,
and there is no feeder. -/
theorem Course.handover_lost : ∃ deeds x y,
    Exchange.sample.play Exchange.handoverScript = some (deeds, x) ∧
    x.step ⟨7, 0⟩ (.close 0) = some (.done, y) ∧
    x.header.hasFeeder = true ∧ x.header.frame = 1 ∧ x.header.layers ≠ [] ∧
    y.header.session ≠ x.header.session ∧ y.header.hasFeeder = false ∧ y.header.frame = 0 ∧
    y.header.layers = [] := by
  have hplayed : (Exchange.sample.play Exchange.handoverScript).bind (fun (_, x) =>
      (x.step ⟨7, 0⟩ (.close 0)).map fun (answer, y) => (answer,
        decide (x.header.hasFeeder = true ∧ x.header.frame = 1 ∧ x.header.layers ≠ [] ∧
          y.header.session ≠ x.header.session ∧ y.header.hasFeeder = false ∧
          y.header.frame = 0 ∧ y.header.layers = []))) = some (.done, true) := by
    decide +kernel
  obtain ⟨⟨deeds, x⟩, hplay, hrest⟩ := Option.bind_eq_some_iff.mp hplayed
  obtain ⟨⟨answer, y⟩, hstep, hfacts⟩ := Option.map_eq_some_iff.mp hrest
  obtain ⟨hanswer, hheaders⟩ := Prod.mk.inj hfacts
  have hdone : answer = .done := hanswer
  exact ⟨deeds, x, y, hplay, hdone ▸ hstep, of_decide_eq_true hheaders⟩

end FrameExchange
