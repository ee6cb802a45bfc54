import FrameExchange.Proofs.Sequence

/-!
# Worlds on a region are runs

Programs open and close objects on a region and use them, processes come and go around it, threads
die. All that is one run of the exchange of the region, so whatever holds in every state that can be
reached holds in the worlds of programs.

- `World.Mirrors.openWriter`, `World.Mirrors.openReader`, `World.Mirrors.close` — objects.
- `World.Mirrors.elapsed`, `World.Mirrors.dies` — what happens around the region.
- `World.Admits` — the commands of a program on one region.
- `World.Story.run` — whatever threads do is a run, with the answers that they were given.
- `World.Story.reachable` — on a new region it can be reached.
- `World.Story.trusted`, `World.Story.exclusive` — so headers of a feeder can be trusted there, and
  all guards of the living are of one thread.
-/

namespace FrameExchange

namespace World

variable {w w' : World} {r : OpenRegion} {number : String → Nat} {x y : Exchange}
  {caller : Thread} {id token : String} {o : Object} {reply : Reply} {α : Type}

/-! ## Objects that begin and end -/

/-- Somebody opens the region. -/
theorem Mirrors.attach {config : RegionConfig} (h : w.Mirrors r number x)
    (hnames : r.names = .ofConfig config) (role : Role) : ∃ s,
      attach config role w = (.ok { r with book := .fresh role }, { w with system := s }) ∧
        ({ w with system := s } : World).Mirrors r number x := by
  have hlen : Header.byteSize ≤ (w.system.store.file r.mapping).bytes.length := by
    have hlength := h.ordered.length
    rw [← h.exchange] at hlength
    exact hlength
  obtain ⟨s, hattach, hfound, hhost, hfiles⟩ := h.found.attach hnames hlen role
  refine ⟨s, ?_, h.around h.ordered hfound ?_ rfl⟩
  · show ((w.system.attach config role).1, { w with system := (w.system.attach config role).2 }) = _
    rw [hattach]
  · rw [show s.exchange r x.clients x.dead = w.system.exchange r x.clients x.dead by
      unfold System.exchange
      rw [hfiles, hfiles, hhost]]
    exact h.exchange

/-- A name for an object that is new: nothing of the name is kept. -/
def NewName (w : World) (id : String) : Prop :=
  w.objects.get? id = none ∧ ∀ g ∈ w.guards.entries, g.2.object ≠ id

theorem addObject_new (hnew : w.objects.get? id = none) : addObject caller id o w =
    ((), { w with objects := w.objects.insert id o }) := by
  unfold addObject
  rw [bind_apply, get_apply]
  dsimp only
  rw [hnew]
  rfl

/-- A new object is put into the world, and its client into the exchange. -/
theorem Mirrors.added {n : Nat} {s : System} (h : w.Mirrors r number x) (hnew : w.NewName id)
    (hfree : x.clients.get? n = none) (hregion : o.region = { r with book := o.region.book })
    (hordered : (y.put n ⟨o.body.unnumbered, o.region.book, none⟩).Ordered) (hfound : s.Found r)
    (hexchange : s.exchange r y.clients y.dead = y) (hclients : y.clients = x.clients) :
    ({ w with system := s, objects := w.objects.insert id o } : World).Mirrors r
      (Function.update number id n) (y.put n ⟨o.body.unnumbered, o.region.book, none⟩) := by
  have hnumber : Function.update number id n id = n := Function.update_self id n number
  have hputs : w.Puts id o none
      ({ w with system := s, objects := w.objects.insert id o } : World) :=
    ⟨rfl, h.distinct.2, kept_none hnew.2 _ _, fun _ _ _ _ hkept => hkept⟩
  refine (h.renumber hnew.1 n).placed hputs hordered hfound ?_ ?_ hregion
    fun id' o' hobject heq => ?_
  · show (s.exchange r y.clients y.dead).put _ _ = _
    rw [hexchange]
  · rw [hnumber, ← hclients]
    rfl
  · by_contra hother
    rw [hnumber, Function.update_of_ne hother] at heq
    obtain ⟨-, c, hclient, -⟩ := h.objects id' o' hobject
    rw [heq, hfree] at hclient
    cases hclient

/-- A new writer. -/
theorem Mirrors.openWriter {config : RegionConfig} {gpu : UInt64} (h : w.Mirrors r number x)
    (halive : caller ∉ x.dead) (hnames : r.names = .ofConfig config) (hnew : w.NewName id)
    (hplay : openWriter caller id config gpu w = (reply, w')) (hended : reply ≠ .failed .blocked) :
    Played r x caller reply w' := by
  obtain ⟨s, hattach, hmirrors⟩ := h.attach hnames .writer
  obtain ⟨n, hfree⟩ := Table.exists_get?_eq_none x.clients
  unfold World.openWriter at hplay
  rw [bind_apply, hattach] at hplay
  dsimp only at hplay
  rw [bind_apply, get_apply] at hplay
  dsimp only at hplay
  obtain ⟨⟨outcome, r', s'⟩, hact⟩ : ∃ result, s.act caller { r with book := .fresh .writer }
    (⟨gpu, caller.pid⟩ : Writer).attach = result := ⟨_, rfl⟩
  rw [hact, bind_apply] at hplay
  obtain ⟨hfound, hregion⟩ := hmirrors.found.act hact rfl rfl
  have hne : ({ r with book := .fresh .writer } : OpenRegion).mapping ≠ r.lock :=
    hmirrors.found.apart
  -- only the book of the object has changed, which the exchange does not see
  have hopens {answer : Answer} {clients : Table Nat Client}
      (hopen : (s.exchange { r with book := .fresh .writer } x.clients x.dead).openWriter caller n
        gpu = some (answer, { s'.exchange r' x.clients x.dead with clients })) :
      x.step caller (.openWriter n gpu) = some (answer,
        { s'.exchange r x.clients x.dead with clients }) := by
    rw [hregion, show s.exchange { r with book := .fresh .writer } x.clients x.dead = x from
      hmirrors.exchange] at hopen
    rw [Exchange.step, if_neg halive]
    exact hopen
  cases outcome with
  | ok =>
    have hstep := hopens (System.openWriter_act hne hfree rfl hact)
    have hadd : addObject caller id ⟨caller, r', .writer ⟨gpu, caller.pid⟩⟩
      { w with system := s' } = _ := addObject_new hnew.1
    replace hplay : (Reply.done, (addObject caller id ⟨caller, r', .writer ⟨gpu, caller.pid⟩⟩
      { w with system := s' }).2) = (reply, w') := hplay
    rw [hadd] at hplay
    cases hplay
    exact .step hstep rfl .done (h.added hnew hfree (by rw [hregion]) (h.ordered.step hstep) hfound
      rfl rfl)
  | error failure =>
    cases hplay
    have hstep := hopens (System.openWriter_act_error hne hfree rfl hact
      fun hblocked => hended (congrArg Reply.failed hblocked))
    exact .step hstep rfl (.failed failure) (h.around (h.ordered.step hstep) hfound rfl rfl)

/-- A new reader of some kind. -/
theorem Mirrors.openReader {config : RegionConfig} {body : Body} {move : Nat → Move}
    (h : w.Mirrors r number x) (hnames : r.names = .ofConfig config) (hnew : w.NewName id)
    (hrole : body.role = .reader)
    (hmove : ∀ n, x.step caller (move n) = x.openReader n body.unnumbered)
    (hplay : openReader caller id config body w = (reply, w')) : reply = .done ∧
      Played r x caller reply w' := by
  obtain ⟨s, hattach, hmirrors⟩ := h.attach hnames .reader
  obtain ⟨n, hfree⟩ := Table.exists_get?_eq_none x.clients
  unfold World.openReader at hplay
  rw [bind_apply, hattach] at hplay
  dsimp only at hplay
  obtain ⟨s', hs'⟩ : ∃ s', s' = { s with host := s.host.report (.readerOpened r.names.mapping) } :=
    ⟨_, rfl⟩
  have hadd : addObject caller id ⟨caller, { r with book := .fresh .reader }, body⟩
    { w with system := s' } = _ := addObject_new hnew.1
  replace hplay : (Reply.done, (addObject caller id
      ⟨caller, { r with book := .fresh .reader }, body⟩ { w with system := s' }).2) =
      (reply, w') := by
    rw [hs']
    exact hplay
  rw [hadd] at hplay
  cases hplay
  have hhere : s.exchange r x.clients x.dead = x := hmirrors.exchange
  have hnames' : x.names = r.names := congrArg Exchange.names hhere.symm
  have hstep : x.step caller (move n) = some (.done,
      ({ x with host := x.host.report (.readerOpened x.names.mapping) } : Exchange).put n
        ⟨body.unnumbered, .fresh .reader, none⟩) := by
    rw [hmove, Exchange.openReader, if_neg (by rw [hfree]; decide), Client.opened,
      Body.role_unnumbered, hrole]
  refine ⟨rfl, .step hstep rfl .done (h.added hnew hfree rfl (h.ordered.step hstep) ?_ ?_ rfl)⟩
  · rw [hs']
    exact hmirrors.found.around _
  · rw [hs', ← hnames']
    exact congrArg (fun z : Exchange =>
      { z with host := z.host.report (.readerOpened x.names.mapping) }) hhere

/-- A new cached reader with a copier of its own. -/
theorem Mirrors.openCached {config : RegionConfig} {kind : ConsumerKind} (h : w.Mirrors r number x)
    (halive : caller ∉ x.dead) (hnames : r.names = .ofConfig config) (hnew : w.NewName id)
    (hplay : openCached caller id config kind w = (reply, w')) : Played r x caller reply w' := by
  unfold World.openCached at hplay
  rw [bind_apply, get_apply] at hplay
  dsimp only at hplay
  obtain ⟨⟨opened, v⟩, hopen⟩ : ∃ result, World.openReader caller id config
    (.cached (.fresh kind) w.nextCopier) w = result := ⟨_, rfl⟩
  have hmove (n : Nat) : x.step caller (.openCached n kind) =
      x.openReader n (Body.cached (.fresh kind) w.nextCopier).unnumbered := by
    rw [Exchange.step, if_neg halive]
    rfl
  obtain ⟨rfl, hplayed⟩ := h.openReader hnames hnew rfl hmove hopen
  rw [bind_apply, hopen] at hplay
  dsimp only at hplay
  rw [if_pos rfl] at hplay
  cases hplay
  obtain ⟨number', deeds, y, hrun, hdead, htells, hmirrors⟩ := hplayed
  exact ⟨number', deeds, y, hrun, hdead, htells, hmirrors.same ⟨rfl, rfl, rfl, rfl⟩⟩

/-- An operation of an object does to the system what it does there. -/
theorem act_eq {operation : Act α} {outcome : Except Failure α} {r' : OpenRegion} {s' : System}
    (hact : w.system.act caller o.region operation = (outcome, r', s')) :
    act caller id o operation w = (outcome, { w with
      system := s', objects := w.objects.adjust id fun o => { o with region := r' } }) := by
  unfold System.act at hact
  rw [act_apply]
  cases hresult : operation (w.system.site caller o.region) with
  | ok a site =>
    rw [hresult] at hact
    cases hact
    rfl
  | error failure site =>
    rw [hresult] at hact
    cases hact
    rfl

/-- An object is taken out of the world, and its client out of the exchange. -/
theorem Mirrors.removed {s : System} (h : w.Mirrors r number x)
    (hobject : w.objects.get? id = some o)
    (hordered : (s.exchange r (x.clients.erase (number id)) x.dead).Ordered) (hfound : s.Found r) :
    ({ w with system := s, objects := w.objects.erase id } : World).Mirrors r number
      (s.exchange r (x.clients.erase (number id)) x.dead) := by
  have hbefore {id' : String} {o' : Object} (hother : (w.objects.erase id).get? id' = some o') :
      id ≠ id' ∧ w.objects.get? id' = some o' := by
    rw [Table.get?_erase] at hother
    split at hother
    · cases hother
    · next hne => exact ⟨hne, hother⟩
  constructor
  case ordered => exact hordered
  case found => exact hfound
  case exchange => rfl
  case objects =>
    intro id' o' hother
    obtain ⟨hne, hobject'⟩ := hbefore hother
    obtain ⟨hregion, c, hclient, hbody, hbook, hkept⟩ := h.objects id' o' hobject'
    refine ⟨hregion, c, ?_, hbody, hbook, hkept⟩
    show (x.clients.erase (number id)).get? (number id') = some c
    rw [Table.get?_erase, if_neg fun heq => hne (h.apart id id' o o' hobject hobject' heq)]
    exact hclient
  case apart =>
    intro id₁ id₂ o₁ o₂ h₁ h₂ heq
    exact h.apart id₁ id₂ o₁ o₂ (hbefore h₁).2 (hbefore h₂).2 heq
  case distinct => exact ⟨h.distinct.1.sublist List.filter_sublist, h.distinct.2⟩

/-- An object without guards ends. -/
theorem Mirrors.close (h : w.Mirrors r number x) (halive : caller ∉ x.dead)
    (hidle : ∀ o, w.objects.get? id = some o → o.region.book.depth = 0)
    (hplay : close caller id w = (reply, w')) (hknown : reply ≠ .unknown)
    (hended : reply ≠ .failed .blocked) : Played r x caller reply w' := by
  obtain ⟨o, hobject, hplay⟩ := of_withObject hknown hplay
  obtain ⟨hregion, c, hclient, hlikens⟩ := h.objects id o hobject
  have hdepth := hidle o hobject
  have hclosed {s : System} {answer : Answer} (hclose : x.close caller (number id) =
      some (answer, s.exchange r (x.clients.erase (number id)) x.dead)) (hfound : s.Found r)
      (hmeans : reply.Means answer)
      (hsame : ({ w with system := s, objects := w.objects.erase id } : World).Same w') :
      Played r x caller reply w' := by
    have hstep : x.step caller (.close (number id)) =
        some (answer, s.exchange r (x.clients.erase (number id)) x.dead) := by
      rw [Exchange.step, if_neg halive]
      exact hclose
    exact .step hstep rfl hmeans ((h.removed hobject (h.ordered.step hstep) hfound).same hsame)
  have hhere : w.system.exchange o.region x.clients x.dead = x := by
    rw [hregion]
    exact h.exchange
  -- readers have nothing to do when they end
  have hreader (hrole : ∀ writer, c.body ≠ .writer writer)
      (hfinish : finish caller id o w = (.ok (), w)) : Played r x caller reply w' := by
    rw [bind_apply, hfinish] at hplay
    cases hplay
    refine hclosed (s := w.system) ?_ h.found .closed ⟨rfl, rfl, rfl, rfl⟩
    unfold Exchange.close
    rw [hclient]
    dsimp only
    rw [hlikens.book, if_neg (by omega)]
    have hgone : w.system.exchange r (x.clients.erase (number id)) x.dead =
        { x with clients := x.clients.erase (number id) } :=
      congrArg (fun z : Exchange => { z with clients := x.clients.erase (number id) }) h.exchange
    rw [hgone]
    split
    · next writer hwriter => exact absurd hwriter (hrole writer)
    · rfl
  cases hbody : o.body with
  | reader reader =>
    have hclientBody : c.body = .reader reader := hlikens.body.trans (by rw [hbody]; rfl)
    exact hreader (by rw [hclientBody]; rintro writer ⟨⟩) (by rw [finish, hbody]; rfl)
  | cached cached copier =>
    have hclientBody : c.body = .cached cached 0 := hlikens.body.trans (by rw [hbody]; rfl)
    exact hreader (by rw [hclientBody]; rintro writer ⟨⟩) (by rw [finish, hbody]; rfl)
  | writer writer =>
    have hclientBody : c.body = .writer writer := hlikens.body.trans (by rw [hbody]; rfl)
    obtain ⟨⟨outcome, r', s'⟩, hact⟩ : ∃ result,
      w.system.act caller o.region writer.close = result := ⟨_, rfl⟩
    have hne : o.region.mapping ≠ o.region.lock := by
      rw [hregion]
      exact h.found.apart
    obtain ⟨hfound, hbook⟩ := h.found.act hact (by rw [hregion]) (by rw [hregion])
    have hafter : s'.exchange r' (x.clients.erase (number id)) x.dead =
        s'.exchange r (x.clients.erase (number id)) x.dead := by
      rw [hbook, hregion]
      rfl
    have hfinish : finish caller id o w = (outcome, { w with
        system := s', objects := w.objects.adjust id fun o => { o with region := r' } }) := by
      rw [finish, hbody]
      exact act_eq hact
    rw [bind_apply, hfinish] at hplay
    have hsame : ({ w with system := s', objects := w.objects.erase id } : World).Same
        { w with
          system := s'
          objects := (w.objects.adjust id fun o => { o with region := r' }).erase id } :=
      ⟨rfl, Table.erase_adjust .., rfl, rfl⟩
    cases outcome with
    | ok =>
      have hclose : (w.system.exchange o.region x.clients x.dead).close caller (number id) =
        some _ := System.close_act hne hclient hlikens.book hclientBody hdepth hact
      rw [hhere, hafter] at hclose
      cases hplay
      exact hclosed hclose hfound .closed hsame
    | error failure =>
      cases hplay
      have hclose : (w.system.exchange o.region x.clients x.dead).close caller (number id) =
        some _ := System.close_act_error hne hclient hlikens.book hclientBody hdepth hact
          fun hblocked => hended (congrArg Reply.failed hblocked)
      rw [hhere, hafter] at hclose
      exact hclosed hclose hfound (.failed failure) hsame

/-! ## Around the region -/

/-- Time passes, and processes do something else. -/
theorem Mirrors.elapsed (host : Host) (h : w.Mirrors r number x) (halive : caller ∉ x.dead)
    (hentropy : host.entropy = w.system.host.entropy) (hmeans : reply.Means .done)
    (hsame : ({ w with system := { w.system with host } } : World).Same w') :
    Played r x caller reply w' := by
  obtain ⟨y, hy⟩ : ∃ y : Exchange, y = { x with host } := ⟨_, rfl⟩
  have hstep : x.step caller (.elapse host.processes host.clock host.opened host.events) =
      some (.done, y) := by
    have hhost : x.host = w.system.host := congrArg Exchange.host h.exchange.symm
    have hsame : ({ x.host with
        processes := host.processes
        clock := host.clock
        opened := host.opened
        events := host.events } : Host) = host := by
      rw [hhost]
      dsimp only
      rw [← hentropy]
    rw [Exchange.step, if_neg halive, hy, ← hsame]
  refine .step hstep (by rw [hy]) hmeans (Mirrors.same (h.around (h.ordered.step hstep)
    (h.found.around host) ?_ (by rw [hy])) hsame)
  rw [hy]
  exact congrArg (fun z : Exchange => { z with host }) h.exchange

/-- A child process is ended. -/
theorem Mirrors.kill {child : String} (h : w.Mirrors r number x) (halive : caller ∉ x.dead)
    (hplay : kill child w = (reply, w')) (hknown : reply ≠ .unknown) :
    Played r x caller reply w' := by
  rw [World.kill, bind_apply, get_apply] at hplay
  dsimp only at hplay
  cases hpid : w.childPid? child with
  | none =>
    rw [hpid] at hplay
    exact absurd (congrArg Prod.fst hplay).symm hknown
  | some pid =>
    rw [hpid] at hplay
    cases hplay
    exact h.elapsed (w.system.host.kill pid) halive rfl .done ⟨rfl, rfl, rfl, rfl⟩

/-- The death of a thread: the objects that it opened are gone, and its guards. -/
theorem Mirrors.dies {thread : Thread} (h : w.Mirrors r number x) (halive : thread ∉ x.dead)
    (hends : endThread thread true w = ((), w')) : ∃ y, x.step thread .die = some (.done, y) ∧
      y.dead = thread :: x.dead ∧ w'.Mirrors r number y := by
  have hstep : (w.system.exchange r x.clients x.dead).step thread .die = some _ :=
    System.step_threadDies halive
  rw [h.exchange] at hstep
  refine ⟨_, hstep, rfl, ?_⟩
  have hdead := h.around (h.ordered.step hstep) (h.found.dies thread) rfl rfl
  cases hends
  exact hdead.forget rfl List.filter_sublist List.filter_sublist List.filter_sublist

/-- A command that only looks. -/
theorem Mirrors.looked (h : w.Mirrors r number x) (hsame : w.Same w') :
    Played r x caller reply w' := .still (h.same hsame)

section Looking

variable {name : String} {config : RegionConfig}

theorem Same.refl (w : World) : w.Same w := ⟨rfl, rfl, rfl, rfl⟩

theorem nextFrame_same (hplay : nextFrame token w = (reply, w')) : w.Same w' := by
  rw [nextFrame, bind_apply, get_apply] at hplay
  dsimp only at hplay
  cases htoken : w.tokens.get? token
  all_goals
    rw [htoken] at hplay
    cases hplay
    exact .refl w

theorem describe_same (hplay : describe id w = (reply, w')) (hknown : reply ≠ .unknown) :
    w.Same w' := by
  obtain ⟨o, hobject, hplay⟩ := of_withObject hknown hplay
  cases hbody : o.body
  all_goals
    rw [hbody] at hplay
    cases hplay
    exact .refl w

theorem makeDestination_same {size : PixelSize}
    (hplay : makeDestination name size w = (reply, w')) : w.Same w' := by
  rw [makeDestination, bind_apply, get_apply] at hplay
  dsimp only at hplay
  obtain ⟨⟨result, after⟩, hcreate⟩ : ∃ made, (w.copier sharedCopier).create 0 size = made :=
    ⟨_, rfl⟩
  rw [hcreate] at hplay
  cases result
  all_goals
    cases hplay
    exact ⟨rfl, rfl, rfl, rfl⟩

theorem showAgain_same (hplay : showAgain name w = (reply, w')) : w.Same w' := by
  rw [showAgain, bind_apply, get_apply] at hplay
  dsimp only at hplay
  cases hkept : w.snapshots.get? name
  all_goals
    rw [hkept] at hplay
    cases hplay
    exact .refl w

theorem setFaults_same {name : Option String} {create copy : Option CopyFault}
    (hplay : setFaults name create copy w = (reply, w')) (hknown : reply ≠ .unknown) :
    w.Same w' := by
  cases name with
  | none =>
    cases hplay
    exact ⟨rfl, rfl, rfl, rfl⟩
  | some id =>
    obtain ⟨o, cached, copier, hobject, hbody, hplay⟩ := of_withCached hknown hplay
    cases hplay
    exact ⟨rfl, rfl, rfl, rfl⟩

theorem memory_same (hplay : memory config w = (reply, w')) : w.Same w' := by
  rw [memory, bind_apply, get_apply] at hplay
  dsimp only at hplay
  cases hfile : w.fileOf? config .mapping
  all_goals
    rw [hfile] at hplay
    cases hplay
    exact .refl w

end Looking

/-! ## Programs -/

/-- Whether a command is one of a program on this region. A name stands for one object or guard at
a time, an object ends when its guards are gone, only readers are asked for a header, and the calls
of the copiers were looked at. Nobody writes to the files of the region past its objects, and the
tool, which opens a region of its own, is left out. -/
def Admits (w : World) (r : OpenRegion) : Command → Prop
  | .openWriter id config _ | .openReader id config | .openCached id config _ =>
    r.names = .ofConfig config ∧ w.NewName id
  | .close id => ∀ o, w.objects.get? id = some o → o.region.book.depth = 0
  | .lock _ guard _ => w.guards.get? guard = none ∧ ∀ t ∈ w.tokens.entries, t.2.guard ≠ guard
  | .read .. | .get .. => ∀ number, (w.copier number).calls = []
  | .header id _ => ∀ o, w.objects.get? id = some o → o.body.role = .reader
  | .write .. | .squat .. | .unlink .. | .inspect .. => False
  | _ => True

/-- What a command comes to in a world, it comes to in the exchange. -/
theorem Mirrors.performed {command : Command} (h : w.Mirrors r number x) (halive : caller ∉ x.dead)
    (hadmits : w.Admits r command) (hplay : perform caller command w = (reply, w'))
    (hknown : reply ≠ .unknown) (hended : reply ≠ .failed .blocked) :
    Played r x caller reply w' := by
  cases command with
  | openWriter id config gpu => exact h.openWriter halive hadmits.1 hadmits.2 hplay hended
  | openReader id config =>
    have hmove (n : Nat) : x.step caller (.openReader n) =
        x.openReader n (Body.reader .fresh).unnumbered := by
      rw [Exchange.step, if_neg halive]
      rfl
    exact (h.openReader hadmits.1 hadmits.2 rfl hmove hplay).2
  | openCached id config kind => exact h.openCached halive hadmits.1 hadmits.2 hplay
  | close id => exact h.close halive hadmits hplay hknown hended
  | lock id guard mode => exact h.lock halive hadmits.1 hadmits.2 hplay hknown hended
  | unlock guard => exact h.unlock halive hplay hknown hended
  | metadata guard => exact h.metadata halive hplay hknown hended
  | beginFrame guard token => exact h.beginFrame halive hplay hknown hended
  | nextFrame token => exact h.looked (nextFrame_same hplay)
  | submit token frame =>
    exact h.consume (.submit frame) halive rfl (fun _ _ _ => rfl) hplay hknown hended
  | abandon token =>
    exact h.consume .abandon halive rfl (fun _ _ _ => rfl) hplay hknown hended
  | submitEmpty guard =>
    exact h.underGuard .submitEmpty halive rfl rfl (fun _ _ _ => rfl) .submitted hplay
      hknown hended
  | detach guard =>
    exact h.underGuard .detach halive rfl rfl (fun _ _ _ => rfl) .detached hplay hknown
      hended
  | describe id => exact h.looked (describe_same hplay hknown)
  | key id kind => exact h.key halive hplay hknown hended
  | readMetadata id kind => exact h.readMetadata halive hplay hknown hended
  | makeDestination name size => exact h.looked (makeDestination_same hplay)
  | read id kind gpu destination keep =>
    exact h.read halive (hadmits sharedCopier) hplay hknown hended
  | restartCache id gpu length => exact h.restartCache halive hplay hknown
  | get id keep => exact h.get halive hadmits hplay hknown hended
  | getMetadata id => exact h.getMetadata halive hplay hknown hended
  | showAgain snapshot => exact h.looked (showAgain_same hplay)
  | setFaults id create copy => exact h.looked (setFaults_same hplay hknown)
  | openFile descriptor name =>
    cases hplay
    exact h.elapsed (w.system.host.openFile caller.pid descriptor name) halive rfl .done
      ⟨rfl, rfl, rfl, rfl⟩
  | closeFile descriptor =>
    cases hplay
    exact h.elapsed (w.system.host.closeFile caller.pid descriptor) halive rfl .done
      ⟨rfl, rfl, rfl, rfl⟩
  | fork child =>
    cases hplay
    exact h.elapsed (w.system.host.fork caller.pid w.nextPid) halive rfl .done ⟨rfl, rfl, rfl, rfl⟩
  | kill child => exact h.kill halive hplay hknown
  | sleep ns =>
    cases hplay
    exact h.elapsed (w.system.host.sleep ns) halive rfl .done ⟨rfl, rfl, rfl, rfl⟩
  | see kind =>
    cases hplay
    exact h.elapsed (w.system.host.see caller.pid kind) halive rfl .done ⟨rfl, rfl, rfl, rfl⟩
  | forgetConsumers =>
    cases hplay
    exact h.elapsed (w.system.host.setConsumers caller.pid .empty) halive rfl .done
      ⟨rfl, rfl, rfl, rfl⟩
  | keepConsumers =>
    cases hplay
    exact h.looked ⟨rfl, rfl, rfl, rfl⟩
  | consumers kept window =>
    cases hplay
    exact h.elapsed (w.system.host.sleep 1) halive rfl (.asked ..) ⟨rfl, rfl, rfl, rfl⟩
  | memory config => exact h.looked (memory_same hplay)
  | list =>
    cases hplay
    exact h.looked ⟨rfl, rfl, rfl, rfl⟩
  | publish id mode frame => exact h.publish halive hplay hknown hended
  | publishEmpty id mode =>
    exact h.onWriter halive (fun writer => Exchange.made_call .submitEmpty halive
      (fun _ _ => rfl) (fun _ => .submitted) rfl rfl) hplay hknown hended
  | publishDetach id mode =>
    exact h.onWriter halive (fun writer => Exchange.made_call .detach halive
      (fun _ _ => rfl) (fun _ => .detached) rfl rfl) hplay hknown hended
  | beginOnly id mode => exact h.beginOnly halive hplay hknown hended
  | header id mode => exact h.header halive hadmits hplay hknown hended
  | write | squat | unlink | inspect => exact hadmits.elim

/-- What threads do on a region: they perform commands of programs, or die. A command that would
have to wait, or one with a name that stands for nothing, is not performed. -/
inductive Story (r : OpenRegion) (w : World) :
    List (Thread × Reply) → List Thread → World → Prop where
  | nil : Story r w [] [] w
  | performed {said : List (Thread × Reply)} {dead : List Thread} {v v' : World} {caller : Thread}
      {command : Command} {reply : Reply} : Story r w said dead v → caller ∉ dead →
      v.Admits r command → perform caller command v = (reply, v') → reply ≠ .unknown →
      reply ≠ .failed .blocked → Story r w (said ++ [(caller, reply)]) dead v'
  | died {said : List (Thread × Reply)} {dead : List Thread} {v v' : World} {thread : Thread} :
      Story r w said dead v → thread ∉ dead → endThread thread true v = ((), v') →
      Story r w (said ++ [(thread, .done)]) (thread :: dead) v'

/-- The steps of an exchange are those that were made for the commands, one command after the
other. -/
def Told (said : List (Thread × Reply)) (deeds : List Deed) : Prop :=
  ∃ groups : List (List Deed), groups.flatten = deeds ∧ List.Forall₂ Tells said groups

variable {said : List (Thread × Reply)} {dead : List Thread} {deeds more : List Deed}

theorem Told.append (h : Told said deeds) (htells : Tells (caller, reply) more) :
    Told (said ++ [(caller, reply)]) (deeds ++ more) := by
  obtain ⟨groups, rfl, hall⟩ := h
  refine ⟨groups ++ [more], by simp, List.rel_append hall (.cons htells .nil)⟩

/-- Whatever threads do on a region is a run of its exchange. -/
theorem Story.run (hstory : Story r w said dead w') (h : w.Mirrors r number x)
    (hliving : x.dead = []) : ∃ number' deeds y, Run x deeds y ∧ Told said deeds ∧
      y.dead = dead ∧ w'.Mirrors r number' y := by
  induction hstory with
  | nil => exact ⟨number, [], x, .nil, ⟨[], rfl, .nil⟩, hliving, h⟩
  | performed _ halive hadmits hplay hknown hended ih =>
    obtain ⟨_, deeds, y, hrun, htold, hdead, hmirrors⟩ := ih
    obtain ⟨number', more, z, hmore, hsame, htells, hafter⟩ :=
      hmirrors.performed (hdead ▸ halive) hadmits hplay hknown hended
    exact ⟨number', deeds ++ more, z, Run.append_iff.mpr ⟨y, hrun, hmore⟩, htold.append htells,
      hsame.trans hdead, hafter⟩
  | @died _ _ _ _ thread _ halive hends ih =>
    obtain ⟨number', deeds, y, hrun, htold, hdead, hmirrors⟩ := ih
    obtain ⟨z, hstep, hafter, hmirrors'⟩ := hmirrors.dies (hdead ▸ halive) hends
    exact ⟨number', deeds ++ [⟨y, thread, .die, .done, z⟩], z,
      hrun.snoc (d := ⟨y, thread, .die, .done, z⟩) hstep,
      htold.append (tells_singleton rfl .done), by rw [hafter, hdead], hmirrors'⟩

/-! ## New regions -/

section NewRegion

variable {config : RegionConfig} {role : Role} {s : System} {name name' : String} {g g' : Guard}
  {o' : Object}

/-- A world without objects, where the two names of a region stand for nothing. -/
structure Unused (w : World) (config : RegionConfig) : Prop where
  objects : w.objects = ∅
  guards : w.guards = ∅
  mapping : ∃ name, osName (RegionNames.ofConfig config).mapping = .ok name ∧
    w.system.store.entries.get? name = none
  lock : ∃ name, osName (RegionNames.ofConfig config).lock = .ok name ∧
    w.system.store.entries.get? name = none

/-- A region that nobody has opened before is an exchange that nobody has used. -/
theorem Unused.mirrors (hunused : w.Unused config)
    (hattach : w.system.attach config role = (.ok r, s)) :
    ({ w with system := s } : World).Mirrors r (fun _ => 0)
      (.start (.ofConfig config) w.system.host) := by
  obtain ⟨hobjects, hguards, ⟨mapping, hmapping, hnomapping⟩, lock, hlock, hnolock⟩ := hunused
  have hother : mapping ≠ lock := by
    rw [osName_ok hmapping, osName_ok hlock]
    exact RegionNames.flatMapping_ne_flatLock
  have hmade := System.attach_made hmapping hlock hother hnomapping hnolock role
  cases hattach.symm.trans hmade
  have hnone (id : String) : w.objects.get? id = none := by
    rw [hobjects]
    rfl
  constructor
  case ordered =>
    exact (Mortal.start _ (Bytes.zeros Header.byteSize) _ (by simp [Bytes.zeros])).ordered
  case found => exact System.found_made _ hmapping hlock hother
  case exchange => exact System.exchange_made ..
  case objects =>
    intro id o hobject
    cases (hnone id).symm.trans hobject
  case apart =>
    intro id id' o o' hobject
    cases (hnone id).symm.trans hobject
  case distinct =>
    show w.objects.Distinct ∧ w.guards.Distinct
    rw [hobjects, hguards]
    exact ⟨List.nodup_nil, List.nodup_nil⟩

/-- Whatever threads do on a new region can be reached in its exchange. -/
theorem Story.reachable (hstory : Story r { w with system := s } said dead w')
    (hunused : w.Unused config) (hattach : w.system.attach config role = (.ok r, s)) :
    ∃ number y, Reachable y ∧ y.dead = dead ∧ w'.Mirrors r number y := by
  obtain ⟨number, deeds, y, hrun, -, hdead, hafter⟩ := hstory.run (hunused.mirrors hattach) rfl
  exact ⟨number, y, ⟨_, _, deeds, hrun⟩, hdead, hafter⟩

/-- Whoever reads the header of a feeder in the mapping can trust it. -/
theorem Story.trusted (hstory : Story r { w with system := s } said dead w')
    (hunused : w.Unused config) (hattach : w.system.attach config role = (.ok r, s))
    (hobject : w'.objects.get? id = some o) (hfeeder : (w'.headerOf o).hasFeeder = true) :
    (w'.headerOf o).validate = .ok () := by
  obtain ⟨number, y, hreachable, -, hmirrors⟩ := hstory.reachable hunused hattach
  have hheader : w'.headerOf o = y.header := by
    rw [headerOf, (hmirrors.objects id o hobject).1]
    exact congrArg Exchange.header hmirrors.exchange
  rw [hheader] at hfeeder ⊢
  exact hreachable.sound.trusted hfeeder

/-- A guard of a living thread is one of its client in the exchange. -/
theorem Mirrors.hasLock (h : w.Mirrors r number x) (hguard : w.guards.get? name = some g)
    (hobject : w.objects.get? g.object = some o) (halive : g.thread ∉ x.dead) :
    x.HasLock (number g.object) g.thread := by
  obtain ⟨-, c, hclient, hlikens⟩ := h.objects g.object o hobject
  exact ⟨c, hclient, (hlikens.guardOf hguard rfl).2, halive⟩

/-- At any time one thread has all the guards of the living, and all of one object. -/
theorem Story.exclusive (hstory : Story r { w with system := s } said dead w')
    (hunused : w.Unused config) (hattach : w.system.attach config role = (.ok r, s))
    (hguard : w'.guards.get? name = some g) (hguard' : w'.guards.get? name' = some g')
    (hobject : w'.objects.get? g.object = some o) (hobject' : w'.objects.get? g'.object = some o')
    (halive : g.thread ∉ dead) (halive' : g'.thread ∉ dead) :
    g.thread = g'.thread ∧ g.object = g'.object := by
  obtain ⟨number, y, hreachable, rfl, hmirrors⟩ := hstory.reachable hunused hattach
  have hexclusive := hreachable.sound.exclusive
  have hhas := hmirrors.hasLock hguard hobject halive
  have hhas' := hmirrors.hasLock hguard' hobject' halive'
  have hheld := (hexclusive.owned _ _ hhas).symm.trans (hexclusive.owned _ _ hhas')
  exact ⟨Holding.held.inj hheld,
    hmirrors.apart _ _ o o' hobject hobject' (hexclusive.eq hhas hhas')⟩

end NewRegion

/-- A region that was just made. -/
def sampleStart : World :=
  { RegionNames.unvisited with
    system := RegionNames.unvisited.system.made "/com.framefeed.overlay_0.2.0.0-s580"
      "/com.framefeed.overlay_0.2.0.0-s580.mutex" }

/-- A writer comes and publishes a frame under a guard of its own. -/
example : ∃ r s w', Unused RegionNames.unvisited .default ∧
    RegionNames.unvisited.system.attach .default .writer = (.ok r, s) ∧
    Story r { RegionNames.unvisited with system := s }
      [(⟨7, 0⟩, .done), (⟨7, 0⟩, .next ⟨1, 1⟩)] [] w' ∧
    (w'.objects.get? "writer").map (fun o => (w'.headerOf o).hasFeeder) = some true := by
  have hmapping : osName (RegionNames.ofConfig .default).mapping =
      .ok "/com.framefeed.overlay_0.2.0.0-s580" := by
    decide +kernel
  have hlock : osName (RegionNames.ofConfig .default).lock =
      .ok "/com.framefeed.overlay_0.2.0.0-s580.mutex" := by
    decide +kernel
  have hunused : Unused RegionNames.unvisited .default :=
    ⟨rfl, rfl, ⟨_, hmapping, rfl⟩, _, hlock, rfl⟩
  have hattach := System.attach_made (s := RegionNames.unvisited.system) hmapping hlock (by decide)
    rfl rfl .writer
  have hopened : Story ⟨.ofConfig .default, 0, 1, .fresh .writer⟩ sampleStart
      ([] ++ [(⟨7, 0⟩, .done)]) []
      (perform ⟨7, 0⟩ (.openWriter "writer" .default 5) sampleStart).2 :=
    .performed .nil (by decide)
      (show Admits _ _ (.openWriter "writer" .default 5) from ⟨rfl, by decide +kernel, List.forall_mem_nil _⟩)
      (Prod.ext (by decide +kernel) rfl) (by decide) (by decide)
  have hpublished := hopened.performed (by decide)
    (show Admits _ _ (.publish "writer" .blocking Exchange.sampleFrame) from trivial)
    (Prod.ext (show (perform ⟨7, 0⟩ _ _).1 = .next ⟨1, 1⟩ by decide +kernel) rfl) (by decide)
    (by decide)
  exact ⟨_, _, _, hunused, hattach, hpublished, by decide +kernel⟩

end World

end FrameExchange
