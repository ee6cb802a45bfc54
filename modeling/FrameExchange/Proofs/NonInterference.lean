import FrameExchange.Proofs.Aside
import FrameExchange.Proofs.Chronicle

/-!
# Readers do not interfere

Two runs that make the same steps, but for steps of other readers, come to the same: every answer is
the same, a copier has made the same calls and has the same textures afterwards, and a reader knows
the same. The same goes for a cached reader's own reads without pixels.

- `Deed.Orderly` — nobody dies with the lock, nobody keeps a guard while another object is used.
- `Exchange.Knows`, `Run.knows` — readers remember sessions that there were.
- `Run.pruned` — a run without the steps that make no difference.
- `Run.readsApart` — what is the same with and without them.
-/

namespace FrameExchange

open Act

/-! ## Sessions that readers remember -/

/-- A call leaves its reader with a session that it remembered before, or with the one that there
is. -/
theorem Body.Becomes.session {s s' : Site} {before after : Body} {call : Call} {answer : Answer}
    {r : Reader} (hnot : s.mutex.holding ≠ .orphaned) (h : before.Becomes s call answer after s')
    (hreader : after.reader? = some r) : r.session = (Memory.load s.memory).session ∨
      ∃ r₀, before.reader? = some r₀ ∧ r.session = r₀.session := by
  have hmetadata {r₀ r : Reader} {mode : LockMode} {snapshot : Snapshot} {s' : Site}
      (hreads : r₀.ReadsMetadata mode s (.ok (snapshot, r) s')) :
      r.session = (Memory.load s.memory).session ∨ r = r₀ := by
    cases hreads with
    | missed => exact .inr rfl
    | unusable => exact .inl (r₀.session_follow _)
    | frame => exact .inl (r₀.session_follow _)
    | recovered _ _ horphaned => exact absurd horphaned hnot
  cases h with
  | same => exact .inr ⟨r, hreader, rfl⟩
  | failed => exact .inr ⟨r, hreader, rfl⟩
  | restart => exact .inr ⟨r, hreader, rfl⟩
  | readMetadata hreads =>
    cases hreader
    exact (hmetadata hreads).imp_right fun heq => ⟨_, rfl, by rw [heq]⟩
  | getMetadata hreads =>
    cases hreader
    exact (hmetadata hreads).imp_right fun heq => ⟨_, rfl, by rw [heq]⟩
  | @read r₀ _ _ _ _ _ _ _ _ hreads =>
    cases hreader
    cases hreads with
    | missed => exact .inr ⟨r, rfl, rfl⟩
    | unusable => exact .inl (r₀.session_follow _)
    | frame _ _ hresolves => exact .inl (hresolves.session.trans (r₀.session_follow _))
    | recovered _ _ horphaned => exact absurd horphaned hnot
  | @get c _ _ _ _ _ _ hgets =>
    cases hreader
    cases hgets with
    | detached => exact .inr ⟨_, rfl, rfl⟩
    | noRing => exact .inr ⟨_, rfl, rfl⟩
    | hit => exact .inr ⟨_, rfl, rfl⟩
    | missed => exact .inr ⟨_, rfl, rfl⟩
    | unusable => exact .inl (c.reader.session_follow _)
    | frame _ _ _ hresolves =>
      rw [CachedReader.reader_after]
      exact .inl (hresolves.session.trans (c.reader.session_follow _))
    | recovered _ _ _ horphaned => exact absurd horphaned hnot

/-! ## Copiers -/

namespace Act

variable {α : Type}

/-- The value of an operation that does not fail. -/
def value? (operation : Act α) (s : Site) : Option α :=
  match operation s with
  | .ok a _ => some a
  | .error .. => none

/-- Operations that end alike have values that belong together. -/
theorem value?_rel {β : Type} {P : α → β → Prop} {operation : Act α} {operation' : Act β}
    {s s' : Site} (halike : Alike P (operation s) (operation' s')) :
    Option.Rel P (operation.value? s) (operation'.value? s') := by
  rw [value?, value?]
  generalize operation s = result at halike
  generalize operation' s' = result' at halike
  cases halike with
  | ok hvalues => exact .some hvalues
  | error => exact .none

end Act

namespace Client

variable {c c' : Client} {s s' : Site}

/-- The copier after a read with pixels, with its calls and its textures. -/
def copierAfter (c : Client) (call : Call) (s : Site) : Option Copier :=
  match call, c.body with
  | .read kind gpu target copier, .reader r =>
    ((r.read kind gpu target copier.looked).value? s).map fun shown => shown.2.2
  | .get copier, .cached cached _ =>
    ((cached.get copier.looked).value? s).map fun shown => shown.2.2
  | _, _ => none

/-- Objects that are alike leave the same copier. -/
theorem copierAfter_akin (hakin : c.Akin (Memory.load s.memory).session c') (hstill : s.Still s')
    (hcalm : c.body.role = .reader → Reader.Calm s) (call : Call) :
    c'.copierAfter call s' = c.copierAfter call s := by
  have hsame {α β : Type} {found : Option α} {found' : Option β} {P : α → β → Prop}
      {copier : α → Copier} {copier' : β → Copier} (hfound : Option.Rel P found found')
      (hcopier : ∀ a b, P a b → copier a = copier' b) : found'.map copier' = found.map copier := by
    cases hfound with
    | none => rfl
    | some h => exact congrArg some (hcopier _ _ h).symm
  obtain ⟨body, book, token⟩ := c
  obtain ⟨body', book', token'⟩ := c'
  obtain ⟨hbody, -, -⟩ := hakin
  cases hbody with
  | writer w => cases call <;> rfl
  | reader hreader =>
    cases call with
    | read kind gpu target copier =>
      exact hsame (Act.value?_rel (Reader.read_akin kind gpu target copier.looked (hcalm rfl) hstill
        hreader)) fun _ _ hshown => hshown.copier
    | _ => rfl
  | cached number hcached =>
    cases call with
    | get copier =>
      exact hsame (Act.value?_rel (CachedReader.get_akin copier.looked (hcalm rfl) hstill hcached))
        fun _ _ hshown => hshown.copier
    | _ => rfl

end Client

namespace Exchange

variable {x y x' y' : Exchange} {caller : Thread} {move : Move} {answer : Answer} {id given : Nat}
  {known more : List UInt64} {session : UInt64}

/-- Every reader remembers one of these sessions. -/
def Knows (x : Exchange) (known : List UInt64) : Prop :=
  ∀ id c r, x.clients.get? id = some c → c.body.reader? = some r → r.session ∈ known

/-- A step shows readers the session that there is. -/
theorem Knows.step (hknows : x.Knows known) (hsession : x.header.session ∈ known)
    (hfresh : Reader.fresh.session ∈ known) (hsound : x.Sound)
    (hnot : x.mutex.holding ≠ .orphaned) (h : x.step caller move = some (answer, y)) :
    y.Knows known := by
  intro id c r hclient hreader
  cases (happens hsound.settled hsound.length h).2.comes hclient with
  | kept hbefore => exact hknows id c r hbefore hreader
  | @called before call _ s' _ hbefore _ _ hbecomes =>
    rcases hbecomes.session hnot hreader with heq | ⟨r₀, hreader₀, heq⟩
    · rw [heq]
      exact hsession
    · rw [heq]
      exact hknows id before r₀ hbefore hreader₀
  | attached => cases hreader
  | openedReader =>
    cases hreader
    exact hfresh
  | openedCached =>
    cases hreader
    exact hfresh

/-- A session that no reader remembers makes no difference between two that were alike before. -/
theorem Apart.renew {new : UInt64} (hapart : x.Apart given session y) (hx : x.Knows known)
    (hy : y.Knows known) (hnew : new ∉ known) : x.Apart given new y := by
  refine { hapart with clients := fun id => ?_ }
  have hid := hapart.clients id
  have hleft (c : Client) (r : Reader) (hview : x.view given id = some c)
      (hreader : c.body.reader? = some r) : r.session ≠ new := by
    rintro rfl
    exact hnew (hx id c r (Option.filter_eq_some_iff.mp hview).1 hreader)
  have hright (c : Client) (r : Reader) (hclient : y.clients.get? id = some c)
      (hreader : c.body.reader? = some r) : r.session ≠ new := by
    rintro rfl
    exact hnew (hy id c r hclient hreader)
  generalize x.view given id = left at hid hleft
  generalize y.clients.get? id = right at hid hright
  cases hid with
  | none => exact .none
  | @some c c' hakin =>
    obtain ⟨body, book, token⟩ := c
    obtain ⟨body', book', token'⟩ := c'
    obtain ⟨hbody, hbook, htoken⟩ := hakin
    refine .some ⟨?_, hbook, htoken⟩
    cases hbody with
    | writer w => exact .writer w
    | reader => exact .reader (.of_unseen (hleft _ _ rfl rfl) (hright _ _ rfl rfl))
    | cached number hcached =>
      exact .cached number ⟨.of_unseen (hleft _ _ rfl rfl) (hright _ _ rfl rfl), hcached.rest⟩

/-! ## Orderly steps -/

/-- The thread does not die with the lock, and it uses no object while another one has guards. -/
structure Orderly (x : Exchange) (thread : Thread) (move : Move) : Prop where
  living : move = .die → x.mutex.holding ≠ .held thread
  brief : ∀ id, move.object? = some id → ∀ other c, x.clients.get? other = some c →
    0 < c.book.depth → other = id

instance (move : Move) : Decidable (move = .die) :=
  match move with
  | .die => isTrue rfl
  | .openWriter .. | .openReader .. | .openCached .. | .close .. | .call .. | .elapse .. =>
    isFalse fun heq => by cases heq

/-- Guards are found among the entries of the table. -/
theorem orderly_iff {thread : Thread} : x.Orderly thread move ↔
    (move = .die → x.mutex.holding ≠ .held thread) ∧ ∀ entry ∈ x.clients.entries,
      ∀ c ∈ x.clients.get? entry.1, 0 < c.book.depth → ∀ id ∈ move.object?, entry.1 = id := by
  constructor
  · rintro ⟨hliving, hbrief⟩
    exact ⟨hliving, fun entry _ c hclient hdepth id hid => hbrief id hid entry.1 c hclient hdepth⟩
  · rintro ⟨hliving, hbrief⟩
    exact ⟨hliving, fun id hid other c hclient hdepth =>
      hbrief (other, c) (Table.mem_entries hclient) c hclient hdepth id hid⟩

instance (x : Exchange) (thread : Thread) (move : Move) : Decidable (x.Orderly thread move) :=
  decidable_of_iff _ orderly_iff.symm

/-- Whoever opens an object has a number for it that nobody else has. -/
theorem step_opened (h : x.step caller move = some (answer, y)) (id : Nat)
    (hopened : move.opened? = some id) : x.clients.get? id = none := by
  have hfree {result : Option (Answer × Exchange)}
      (h : (if (x.clients.get? id).isSome = true then none else result) = some (answer, y)) :
      x.clients.get? id = none := by
    split at h
    · cases h
    · next hnone => simpa using hnone
  rw [Exchange.step.eq_def] at h
  split at h
  · cases h
  · cases move with
    | openWriter =>
      cases hopened
      exact hfree h
    | openReader =>
      cases hopened
      exact hfree h
    | openCached =>
      cases hopened
      exact hfree h
    | _ => cases hopened

/-- No other reader has guards while an object is used that stays. -/
theorem Orderly.free (horderly : x.Orderly caller move)
    (hreader : ∀ id, x.readerOf? move = some id → id = given)
    (hnone : ∀ id, move.opened? = some id → x.clients.get? id = none)
    (hobject : move.object?.isSome = true) : ¬x.Occupied given := by
  rintro ⟨other, c, hclient, haway, hdepth⟩
  obtain ⟨id, hid⟩ := Option.isSome_iff_exists.mp hobject
  obtain rfl := horderly.brief id hid other c hclient hdepth
  have hopened (hopened : move.opened? = some other) : False := by
    cases hclient.symm.trans (hnone other hopened)
  have hused (hused : move = .close other ∨ ∃ call, move = .call other call) : False :=
    Bool.eq_false_iff.mp haway (stays_of_used hreader hused hclient)
  cases move with
  | openWriter => exact hopened hid
  | openReader => exact hopened hid
  | openCached => exact hopened hid
  | close =>
    cases hid
    exact hused (.inl rfl)
  | call _ call =>
    cases hid
    exact hused (.inr ⟨call, rfl⟩)
  | die => cases hid
  | elapse => cases hid

/-- What is orderly with all readers is so without the other ones. -/
theorem Orderly.apart (horderly : x.Orderly caller move) (hapart : x.Apart given session y) :
    y.Orderly caller move where
  living hdies := hapart.not_held (horderly.living hdies)
  brief id hid other c hclient hdepth := by
    have hother := hapart.clients other
    rw [hclient] at hother
    generalize hview : x.view given other = found at hother
    cases hother with
    | some hakin =>
      rw [hakin.book] at hdepth
      exact horderly.brief id hid other _ (Option.filter_eq_some_iff.mp hview).1 hdepth

end Exchange

/-! ## Steps with all that comes of them -/

namespace Deed

variable {d : Deed} {given : Nat} {own : Bool}

/-- The copier after the step, if it was a read with pixels. -/
def copier? (d : Deed) : Option Copier :=
  match d.move with
  | .call id call =>
    (d.before.clients.get? id).bind fun c =>
      c.copierAfter call (d.before.site d.thread c.book)
  | _ => none

/-- Who made which step. -/
def entry (d : Deed) : Thread × Move := (d.thread, d.move)

/-- What came of it: the answer, which has a snapshot, a header or a key in it, and the copier. -/
def result (d : Deed) : Answer × Option Copier := (d.answer, d.copier?)

/-- A step that the given reader may notice. -/
def matters (given : Nat) (own : Bool) (d : Deed) : Bool := !d.before.aside given own d.move

/-- The step was an orderly one. -/
def Orderly (d : Deed) : Prop := d.before.Orderly d.thread d.move

instance (d : Deed) : Decidable d.Orderly :=
  inferInstanceAs (Decidable (d.before.Orderly d.thread d.move))

/-- What a step does that matters is possible without the steps that do not. -/
theorem readerOf_matters (hmatters : d.matters given own = true) (id : Nat)
    (hreader : d.before.readerOf? d.move = some id) : id = given := by
  rw [matters, Exchange.aside, hreader, Bool.not_eq_true', Bool.or_eq_false_iff] at hmatters
  simpa using hmatters.1

/-- Steps at alike objects of regions that are apart leave the same copier. -/
theorem copier?_apart {e : Deed} (hvalid : d.Valid) (hsound : d.before.Sound)
    (hnot : d.before.mutex.holding ≠ .orphaned) (horderly : d.Orderly)
    (hmatters : d.matters given own = true) (hentry : e.entry = d.entry)
    (hapart : d.before.Apart given d.before.header.session e.before) : e.copier? = d.copier? := by
  obtain ⟨hthread, hmove⟩ := Prod.mk.inj hentry
  rw [copier?, copier?, hthread, hmove]
  generalize hcall : d.move = move
  cases move with
  | call id call =>
    have hstep := hvalid
    rw [Valid, hcall] at hstep
    obtain ⟨-, c, -, hclient, -⟩ := Exchange.step_ends hstep
    have hreader := readerOf_matters hmatters
    obtain ⟨c', hclient', hakin⟩ := hapart.present hclient
      (Exchange.stays_of_used hreader (.inr ⟨call, hcall⟩) hclient)
    have hfree := horderly.free hreader (Exchange.step_opened hvalid) (by rw [hcall]; rfl)
    dsimp only
    rw [hclient, hclient', Option.bind_some, Option.bind_some, hakin.book]
    have hstill := hapart.site hfree d.thread c.book
    exact Client.copierAfter_akin (s := d.before.site d.thread c.book) hakin hstill
      (fun hrole => ⟨(hsound.settled id c hclient).tidy rfl hrole, hnot⟩) call
  | _ => rfl

end Deed

/-! ## Runs -/

namespace Run

variable {x y z : Exchange} {deeds : List Deed} {names : RegionNames} {host : Host}

/-- Where nobody dies with the lock it is never left behind. -/
theorem not_orphaned (hrun : Run (.start names host) deeds y) (horderly : ∀ d ∈ deeds, d.Orderly) :
    y.mutex.holding ≠ .orphaned := by
  induction hrun with
  | nil => exact fun heq => by cases heq
  | @snoc deeds d hrun hvalid ih =>
    rw [List.forall_mem_append] at horderly
    have hsound := hrun.sound (.start names host)
    exact (Exchange.happens hsound.settled hsound.length hvalid).2.not_orphaned
      (horderly.2 d (List.mem_singleton.mpr rfl)).living (ih horderly.1)

/-- A step shows readers a session that there was. -/
theorem knows_step {d : Deed} (hrun : Run (.start names host) deeds d.before) (hvalid : d.Valid)
    (horderly : ∀ e ∈ deeds, e.Orderly)
    (hknows : d.before.Knows
      ((Exchange.start names host).header.session :: deeds.flatMap Deed.drawn)) :
    d.after.Knows ((Exchange.start names host).header.session :: deeds.flatMap Deed.drawn) := by
  have hstart : (Exchange.start names host).Sound := .start names host
  have hzero : (Memory.load (Bytes.zeros Header.byteSize)).session = 0 := by decide +kernel
  exact hknows.step (hrun.session_mem_cons hstart) (List.mem_cons.mpr (.inl hzero.symm))
    (hrun.sound hstart) (hrun.not_orphaned horderly) hvalid

/-- A reader remembers a session that there was, or the zero of a region without one. -/
theorem knows (hrun : Run (.start names host) deeds y) (horderly : ∀ d ∈ deeds, d.Orderly) :
    y.Knows ((Exchange.start names host).header.session :: deeds.flatMap Deed.drawn) := by
  induction hrun with
  | nil => exact fun _ _ _ hclient => by cases hclient
  | @snoc deeds d hrun hvalid ih =>
    rw [List.forall_mem_append] at horderly
    intro id c r hclient hreader
    rw [List.flatMap_append, ← List.cons_append]
    exact List.mem_append_left _
      (hrun.knows_step hvalid horderly.1 (ih horderly.1) id c r hclient hreader)

end Run

/-- The second run is the first one without the steps that make no difference to the given reader:
the others are all there, the same comes of them, and they leave what the first run leaves. -/
structure Prunes (x : Exchange) (given : Nat) (own : Bool) (deeds : List Deed) (y : Exchange)
    (base : List Deed) (z : Exchange) : Prop where
  run : Run x base z
  entries : base.map Deed.entry = (deeds.filter (Deed.matters given own)).map Deed.entry
  results : base.map Deed.result = (deeds.filter (Deed.matters given own)).map Deed.result
  drawn : base.flatMap Deed.drawn = deeds.flatMap Deed.drawn
  orderly : ∀ d ∈ base, d.Orderly
  apart : y.Apart given y.header.session z

namespace Prunes

variable {x z : Exchange} {given : Nat} {own : Bool} {deeds base : List Deed} {d : Deed}
  {names : RegionNames} {host : Host}

/-- A step that makes no difference is passed over. -/
theorem pass (h : Prunes x given own deeds d.before base z) (hvalid : d.Valid)
    (hsound : d.before.Sound) (hnot : d.before.mutex.holding ≠ .orphaned)
    (haside : d.matters given own = false) : Prunes x given own (deeds ++ [d]) d.after base z := by
  have hpassed : d.after.Apart given d.before.header.session z :=
    h.apart.passed hsound hnot (by simpa [Deed.matters] using haside) hvalid
  have hmemory : d.after.memory = d.before.memory := hpassed.memory.symm.trans h.apart.memory
  have hdrawn : d.drawn = [] :=
    Deed.drawn_eq_nil (hpassed.host.entropy.symm.trans h.apart.host.entropy)
  have hfilter : (deeds ++ [d]).filter (Deed.matters given own) =
      deeds.filter (Deed.matters given own) := by
    rw [List.filter_append, List.filter_cons_of_neg (Bool.eq_false_iff.mp haside)]
    exact List.append_nil _
  refine ⟨h.run, by rw [hfilter]; exact h.entries, by rw [hfilter]; exact h.results, ?_, h.orderly,
    ?_⟩
  · rw [List.flatMap_append, List.flatMap_singleton, hdrawn, List.append_nil]
    exact h.drawn
  · rw [Exchange.header, hmemory]
    exact hpassed

/-- Any other step is possible after both runs or after neither. -/
theorem step {x : Exchange} {thread : Thread} {move : Move}
    (h : Prunes (.start names host) given own deeds x base z)
    (hrun : Run (.start names host) deeds x) (horderly : ∀ e ∈ deeds, e.Orderly)
    (hnext : x.Orderly thread move) (hreader : ∀ id, x.readerOf? move = some id → id = given)
    (hopened : ∀ id, move.opened? = some id → x.clients.get? id = none) :
    Option.Rel (Exchange.Apart.Both given x.header.session) (x.step thread move)
      (z.step thread move) := by
  have hsound := hrun.sound (.start names host)
  exact h.apart.step hsound (hrun.not_orphaned horderly) hreader hopened
    (hnext.free hreader hopened) hnext.living

/-- Any other step is made in both runs. -/
theorem follow (h : Prunes (.start names host) given own deeds d.before base z)
    (hrun : Run (.start names host) deeds d.before) (hvalid : d.Valid)
    (horderly : ∀ e ∈ deeds ++ [d], e.Orderly)
    (hfresh : FreshSessions (.start names host) (deeds ++ [d]))
    (hmatters : d.matters given own = true) :
    ∃ base z, Prunes (.start names host) given own (deeds ++ [d]) d.after base z := by
  rw [List.forall_mem_append, List.forall_mem_singleton] at horderly
  obtain ⟨horderly, hlast⟩ := horderly
  have hsound := hrun.sound (.start names host)
  have hnot := hrun.not_orphaned horderly
  have hboth := h.step hrun horderly hlast (Deed.readerOf_matters hmatters)
    (Exchange.step_opened hvalid)
  rw [show d.before.step d.thread d.move = some (d.answer, d.after) from hvalid] at hboth
  generalize hstep : z.step d.thread d.move = result at hboth
  cases hboth with
  | @some _ q hsame =>
    obtain ⟨answer, z'⟩ := q
    obtain ⟨hanswer, hapart⟩ := hsame
    cases hanswer
    let e : Deed := ⟨z, d.thread, d.move, d.answer, z'⟩
    have hvalid' : e.Valid := hstep
    have hcopier : e.copier? = d.copier? :=
      Deed.copier?_apart hvalid hsound hnot hlast hmatters rfl h.apart
    have hdrawn : e.drawn = d.drawn := by
      rw [Deed.drawn, Deed.drawn, h.apart.host.entropy, hapart.host.entropy]
    have hfilter : (deeds ++ [d]).filter (Deed.matters given own) =
        deeds.filter (Deed.matters given own) ++ [d] := by
      rw [List.filter_append, List.filter_cons_of_pos hmatters]
      rfl
    -- readers in either run know the sessions that were drawn before this step
    have hleft := hrun.knows_step hvalid horderly (hrun.knows horderly)
    have hright := h.run.knows_step (d := e) hvalid' h.orderly (h.run.knows h.orderly)
    rw [h.drawn] at hright
    refine ⟨base ++ [e], z', .snoc (d := e) h.run hvalid', ?_, ?_, ?_, ?_, ?_⟩
    · rw [hfilter, List.map_append, List.map_append, h.entries]
      rfl
    · rw [hfilter, List.map_append, List.map_append, h.results, List.map_singleton,
        List.map_singleton, Deed.result, Deed.result, hcopier]
    · rw [List.flatMap_append, List.flatMap_append, h.drawn, List.flatMap_singleton,
        List.flatMap_singleton, hdrawn]
    · rw [List.forall_mem_append, List.forall_mem_singleton]
      exact ⟨h.orderly, hlast.apart h.apart⟩
    · by_cases hquiet : d.drawn = []
      · rw [(Run.steady (x := d.before) (.snoc .nil hvalid) hsound (by simpa using hquiet)).1]
        exact hapart
      · refine hapart.renew hleft hright fun hknown => ?_
        rw [FreshSessions, List.flatMap_append, List.flatMap_singleton, ← List.cons_append,
          List.nodup_append] at hfresh
        exact hfresh.2.2 _ hknown _ (hvalid.session_mem hsound hquiet) rfl

end Prunes

/-- The steps that make no difference can be left out of every run. -/
theorem Run.pruned {names : RegionNames} {host : Host} {deeds : List Deed} {y : Exchange}
    (hrun : Run (.start names host) deeds y) (horderly : ∀ d ∈ deeds, d.Orderly)
    (hfresh : FreshSessions (.start names host) deeds) (given : Nat) (own : Bool) :
    ∃ base z, Prunes (.start names host) given own deeds y base z := by
  induction hrun with
  | nil =>
    refine ⟨[], _, .nil, rfl, rfl, rfl, fun _ hmem => absurd hmem List.not_mem_nil, ?_⟩
    refine ⟨rfl, rfl, rfl, .refl _, fun id => .none, fun _ => rfl, ?_⟩
    rintro ⟨_, _, hclient, -⟩
    cases hclient
  | @snoc deeds d hrun hvalid ih =>
    have hearlier := (List.forall_mem_append.mp horderly).1
    obtain ⟨base, z, hprunes⟩ := ih hearlier hfresh.append_left
    cases hmatters : d.matters given own with
    | true => exact hprunes.follow hrun hvalid horderly hfresh hmatters
    | false =>
      exact ⟨base, z, hprunes.pass hvalid (hrun.sound (.start names host))
        (hrun.not_orphaned hearlier) hmatters⟩

/-- A run is known by who makes which steps. -/
theorem Run.unique {x y z : Exchange} {deeds others : List Deed} (hrun : Run x deeds y)
    (hother : Run x others z) (hsame : others.map Deed.entry = deeds.map Deed.entry) :
    others = deeds ∧ z = y := by
  induction hrun generalizing others z with
  | nil =>
    have hnil := List.map_eq_nil_iff.mp hsame
    cases hother with
    | nil => exact ⟨rfl, rfl⟩
    | snoc => exact absurd hnil (by simp)
  | @snoc deeds d hrun hvalid ih =>
    rw [List.map_append, List.map_singleton] at hsame
    obtain ⟨first, last, rfl, hfirst, hlast⟩ := List.map_eq_append_iff.mp hsame
    obtain ⟨e, rest, rfl, hentry, hnil⟩ := List.map_eq_cons_iff.mp hlast
    obtain rfl := List.map_eq_nil_iff.mp hnil
    obtain ⟨hrun', hvalid', rfl⟩ := snoc_iff.mp hother
    obtain ⟨rfl, hbefore⟩ := ih hrun' hfirst
    obtain ⟨before, thread, move, answer, after⟩ := d
    obtain ⟨before', thread', move', answer', after'⟩ := e
    cases hentry
    cases hbefore
    cases hvalid'.symm.trans hvalid
    exact ⟨rfl, rfl⟩

/-! ## Non-interference -/

/-- Two runs make the same steps, but for those that make no difference to the given reader. -/
def SameBut (given : Nat) (own : Bool) (deeds others : List Deed) : Prop :=
  (others.filter (Deed.matters given own)).map Deed.entry =
    (deeds.filter (Deed.matters given own)).map Deed.entry

/-- What readers do is nothing to each other. With `own` the given reader's own reads without pixels
through its cache count among the steps that make no difference. -/
structure ReadsApart (x : Exchange) (given : Nat) (own : Bool) (deeds : List Deed) (y : Exchange) :
    Prop where
  /-- No step of any reader writes a byte. -/
  unwritten : ∀ d ∈ deeds, d.before.readerOf? d.move ≠ none → d.after.memory = d.before.memory
  /-- All steps that make no difference can be left out; the same comes of the others, and the given
  reader is left with what it would have. -/
  deleted : ∃ base z, Run x base z ∧ (∀ d ∈ base, d.Orderly) ∧ FreshSessions x base ∧
    base.map Deed.entry = (deeds.filter (Deed.matters given own)).map Deed.entry ∧
    base.map Deed.result = (deeds.filter (Deed.matters given own)).map Deed.result ∧
    Option.Rel (Client.Akin y.header.session) (y.clients.get? given) (z.clients.get? given)
  /-- The same comes of the others in every run with more, fewer or other steps that make no
  difference. -/
  agreed : ∀ others z, Run x others z → (∀ d ∈ others, d.Orderly) → FreshSessions x others →
    SameBut given own deeds others →
    (others.filter (Deed.matters given own)).map Deed.result =
        (deeds.filter (Deed.matters given own)).map Deed.result ∧
      Option.Rel (Client.Akin y.header.session) (y.clients.get? given) (z.clients.get? given)
  /-- Nor does a run come to a halt by such steps: the next of the others is always possible, unless
  another reader has guards or has the number of an object that is to be opened. -/
  possible : ∀ earlier d later, deeds = earlier ++ d :: later → d.matters given own = true →
    ∀ others z, Run x others z → (∀ e ∈ others, e.Orderly) → FreshSessions x others →
      SameBut given own earlier others → z.Orderly d.thread d.move →
      (∀ id, d.move.opened? = some id → z.clients.get? id = none) →
      ∃ z', z.step d.thread d.move = some (d.answer, z')

section

variable {x y z u v : Exchange} {given : Nat} {own : Bool} {deeds others base base' : List Deed}

/-- Two runs with the same steps that matter come to one without any others. -/
theorem Prunes.same (h : Prunes x given own deeds y base u)
    (hother : Prunes x given own others z base' v) (hsame : SameBut given own deeds others) :
    base' = base ∧ v = u :=
  h.run.unique hother.run (hother.entries.trans (hsame.trans h.entries.symm))

/-- The given reader is alike in both regions. -/
theorem Exchange.Apart.reader {session : UInt64} (hapart : y.Apart given session z) :
    Option.Rel (Client.Akin session) (y.clients.get? given) (z.clients.get? given) := by
  have hview : y.view given given = y.clients.get? given := by
    rw [view]
    cases y.clients.get? given with
    | none => rfl
    | some c =>
      rw [Option.filter_some, c.stays_given]
      rfl
  rw [← hview]
  exact hapart.clients given

/-- It is alike in all regions that are apart from one. -/
theorem Exchange.Apart.joined (hleft : y.Apart given y.header.session u)
    (hright : z.Apart given z.header.session u) :
    Option.Rel (Client.Akin y.header.session) (y.clients.get? given) (z.clients.get? given) := by
  have hheader : z.header.session = y.header.session := by
    rw [header, header, ← hleft.memory, ← hright.memory]
  have hgiven := hright.reader
  rw [hheader] at hgiven
  have hgiven' := hleft.reader
  generalize y.clients.get? given = left at hgiven' ⊢
  generalize z.clients.get? given = right at hgiven ⊢
  generalize u.clients.get? given = both at hgiven hgiven'
  cases hgiven with
  | none =>
    cases hgiven'
    exact .none
  | some hakin =>
    cases hgiven' with
    | some hakin' => exact .some (hakin'.join hakin)

end

/-- Whatever other readers do in a run in which nobody dies with the lock and nobody keeps a guard
while another object is used, and however often a cached reader reads without pixels: nothing comes
of it for a reader, if no session comes twice. -/
theorem Run.readsApart {names : RegionNames} {host : Host} {deeds : List Deed} {y : Exchange}
    (hrun : Run (.start names host) deeds y) (horderly : ∀ d ∈ deeds, d.Orderly)
    (hfresh : FreshSessions (.start names host) deeds) (given : Nat) (own : Bool) :
    ReadsApart (.start names host) given own deeds y := by
  have hstart : (Exchange.start names host).Sound := .start names host
  constructor
  case unwritten =>
    intro d hmem hreader
    obtain ⟨id, hid⟩ := Option.ne_none_iff_exists'.mp hreader
    obtain ⟨earlier, later, rfl⟩ := List.append_of_mem hmem
    obtain ⟨hearlier, hvalid, -⟩ := hrun.deed
    exact Exchange.step_memory (hearlier.sound hstart)
      (hearlier.not_orphaned (List.forall_mem_append.mp horderly).1) hid hvalid
  case deleted =>
    obtain ⟨base, z, h⟩ := hrun.pruned horderly hfresh given own
    refine ⟨base, z, h.run, h.orderly, ?_, h.entries, h.results, h.apart.reader⟩
    rw [FreshSessions, h.drawn]
    exact hfresh
  case agreed =>
    intro others z hother horderly' hfresh' hsame
    obtain ⟨base, u, h⟩ := hrun.pruned horderly hfresh given own
    obtain ⟨base', u', h'⟩ := hother.pruned horderly' hfresh' given own
    obtain ⟨rfl, rfl⟩ := h.same h' hsame
    exact ⟨h'.results.symm.trans h.results, h.apart.joined h'.apart⟩
  case possible =>
    rintro earlier d later rfl hmatters others z hother horderly' hfresh' hsame hnext hnumber
    obtain ⟨hearlier, hvalid, -⟩ := hrun.deed
    rw [List.forall_mem_append, List.forall_mem_cons] at horderly
    obtain ⟨base, u, h⟩ := hearlier.pruned horderly.1 hfresh.append_left given own
    obtain ⟨base', u', h'⟩ := hother.pruned horderly' hfresh' given own
    obtain ⟨rfl, rfl⟩ := h.same h' hsame
    -- the step is possible in the region that both are apart from, and so in the other one
    have hreader := Deed.readerOf_matters hmatters
    have hboth := h.step hearlier horderly.1 horderly.2.1 hreader (Exchange.step_opened hvalid)
    rw [show d.before.step d.thread d.move = some (d.answer, d.after) from hvalid] at hboth
    generalize hstep : u'.step d.thread d.move = result at hboth
    cases hboth with
    | @some _ q hsame =>
      have hreader' := h'.apart.readerOf (h'.run.sound hstart) hstep fun hopened id hid =>
        hreader id ((Exchange.readerOf?_opened d.before z hopened).trans hid)
      have hboth' := h'.step hother horderly' hnext hreader' hnumber
      rw [hstep] at hboth'
      generalize z.step d.thread d.move = result at hboth'
      cases hboth' with
      | @some p _ hsame' =>
        obtain ⟨answer, z'⟩ := p
        cases hsame'.1.trans hsame.1.symm
        exact ⟨z', rfl⟩

/-- A cached reader looks on while frames are published in two sessions, and another reader comes,
reads and goes. -/
def Exchange.crowdScript : List (Thread × Move) :=
  let given (call : Call) : Thread × Move := (⟨7, 0⟩, .call 1 call)
  let other (call : Call) : Thread × Move := (⟨7, 1⟩, .call 2 call)
  [(⟨7, 0⟩, .openWriter 0 5), (⟨7, 0⟩, .openCached 1 .viewer), given (.restart 5 2),
    (⟨7, 1⟩, .openReader 2)] ++ turn ⟨7, 0⟩ 0 ++
  [given .getMetadata, given (.get .fresh), other (.read .viewer 5 1 .fresh),
    (⟨7, 0⟩, .call 0 (.lock .blocking)), (⟨7, 0⟩, .call 0 .detach),
    (⟨7, 0⟩, .call 0 (.release false)), given .getMetadata, other (.key .viewer)] ++
  turn ⟨7, 0⟩ 0 ++
  [other (.lock .blocking), other .metadata, other (.release false), given .getMetadata,
    given (.get .fresh), (⟨7, 1⟩, .close 2)]

/-- Of its steps ten make no difference to the cached reader. -/
theorem Run.readsApart_crowd : ∃ deeds y,
    Exchange.sample.play Exchange.crowdScript = some (deeds, y) ∧
    (∀ d ∈ deeds, d.Orderly) ∧ FreshSessions Exchange.sample deeds ∧
    (deeds.map (Deed.matters 1 true)).count false = 10 ∧
    ReadsApart Exchange.sample 1 true deeds y := by
  have hplayed : (Exchange.sample.play Exchange.crowdScript).map (fun played =>
      (decide (∀ d ∈ played.1, d.Orderly), decide (FreshSessions Exchange.sample played.1),
        (played.1.map (Deed.matters 1 true)).count false)) = some (true, true, 10) := by
    decide +kernel
  obtain ⟨⟨deeds, y⟩, hplay, hfacts⟩ := Option.map_eq_some_iff.mp hplayed
  obtain ⟨horderly, hfacts⟩ := Prod.mk.inj hfacts
  obtain ⟨hfresh, hcount⟩ := Prod.mk.inj hfacts
  have horderly := of_decide_eq_true horderly
  have hfresh := of_decide_eq_true hfresh
  exact ⟨deeds, y, hplay, horderly, hfresh, hcount,
    Run.readsApart (Run.of_play hplay) horderly hfresh 1 true⟩

end FrameExchange
