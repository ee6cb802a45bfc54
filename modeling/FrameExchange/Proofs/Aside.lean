import FrameExchange.Proofs.Kinship

/-!
# Steps that make no difference

Take away all readers but one. What is left of a region is what it would be if they had never been
there: their steps change nothing of it but the log, and any other step is possible with them as
without them, and comes to the same.

- `Exchange.readerOf?`, `Exchange.aside` — steps of readers, and those of them that make no
  difference to a given reader.
- `Exchange.step_reader` — a call of a reader writes no byte of the memory.
- `Exchange.Apart` — a region with all its readers, and the same region with the given one alone.
- `Apart.passed`, `Apart.step` — the two stay apart where one step is passed over in the second
  region, and where the same step is made in both.
-/

namespace FrameExchange

open Act

/-! ## Steps of readers -/

/-- The object that a step opens, uses or ends. -/
def Move.object? : Move → Option Nat
  | .openWriter id _ | .openReader id | .openCached id _ | .close id | .call id _ => some id
  | .die | .elapse .. => none

/-- The number that a step gives to a new object. -/
def Move.opened? : Move → Option Nat
  | .openWriter id _ | .openReader id | .openCached id _ => some id
  | _ => none

/-- Whether a step reads through this cached reader without pixels. -/
def Move.glances (id : Nat) : Move → Bool
  | .call other .getMetadata => other = id
  | _ => false

/-- The reader that a step opens, uses or ends. -/
def Exchange.readerOf? (x : Exchange) : Move → Option Nat
  | .openReader id | .openCached id _ => some id
  | .close id | .call id _ =>
    if (x.clients.get? id).any (·.body.role = .reader) then some id else none
  | .openWriter .. | .die | .elapse .. => none

/-- The steps that should make no difference to the reader `given`: those of all other readers, and,
if that is what `own` says, its own reads without pixels through its cache. -/
def Exchange.aside (x : Exchange) (given : Nat) (own : Bool) (move : Move) : Bool :=
  (x.readerOf? move).any (· ≠ given) || (own && move.glances given)

/-- An object that stays when all readers but one are taken away. -/
def Client.stays (given id : Nat) (c : Client) : Bool := id = given || c.body.role = .writer

/-- A reader other than the given one, with guards. -/
def Client.Occupies (given id : Nat) (c : Client) : Prop :=
  c.stays given id = false ∧ 0 < c.book.depth

theorem Client.stays_given (given : Nat) (c : Client) : c.stays given given = true := by
  simp [Client.stays]

theorem Client.not_stays {given id : Nat} {c : Client} (hreader : c.body.role = .reader)
    (hne : id ≠ given) : c.stays given id = false := by
  simp [Client.stays, hne, hreader]

namespace Exchange

variable {x y x' y' : Exchange} {caller : Thread} {move : Move} {answer : Answer} {id given : Nat}
  {c : Client} {call : Call}

/-- What a call of a reader does to the lock and to its own guards. -/
inductive Regards (x : Exchange) (caller : Thread) (c : Client) (s : Site) : Prop where
  | kept : s.mutex = x.mutex → (0 < s.book.depth ↔ 0 < c.book.depth) → Regards x caller c s
  | taken : s.mutex = { x.mutex with holding := .held caller } → x.mutex.holding = .free →
      0 < s.book.depth → Regards x caller c s
  | freed : s.mutex = { x.mutex with holding := .free } → 0 < c.book.depth → s.book.depth = 0 →
      Regards x caller c s

/-- What a call leaves that only looks: the memory as it was, and the host but for its log. -/
structure OnlyLooks (x : Exchange) (caller : Thread) (c : Client) (s : Site) : Prop where
  memory : s.memory = x.memory
  host : x.host.Still s.host
  lock : x.Regards caller c s

/-- How a call of a reader ends: it has only looked. -/
def Looks (x : Exchange) (caller : Thread) (id : Nat) (c : Client) (call : Call) (answer : Answer)
    (y : Exchange) : Prop :=
  ∃ body s, y = (x.leave s).put id ⟨body, s.book, c.tokenAfter call answer s.book⟩ ∧
    c.body.Becomes (x.site caller c.book) call answer body s ∧ x.OnlyLooks caller c s

/-- A reader can always give back its guards. -/
theorem looks_release {unwinding : Bool} (hsound : x.Sound) (hclient : x.clients.get? id = some c)
    (hreader : c.body.role = .reader)
    (h : x.step caller (.call id (.release unwinding)) = some (answer, y)) :
    x.Looks caller id c (.release unwinding) answer y := by
  have halive := (step_ends h).1
  obtain ⟨c', s', result, hclient', hguard, hy, hreleases, hresult⟩ := step_release h
  cases hclient.symm.trans hclient'
  have hphase : c.book.machine.phase = .locked :=
    (hsound.settled id c hclient).reading hreader hguard.1
  have hlock : x.HasLock id caller := ⟨c, hclient, hguard.2, halive⟩
  rcases hresult with ⟨rfl, rfl⟩ | ⟨failure, rfl, rfl⟩
  · refine ⟨c.body, s', hy, .same c.body rfl rfl, ?_⟩
    cases hreleases with
    | inner hmany =>
      have hmany : 1 < c.book.depth := hmany
      refine ⟨rfl, .refl _, .kept rfl ?_⟩
      show 0 < c.book.depth - 1 ↔ _
      omega
    | freed => exact ⟨rfl, .refl _, .freed rfl hguard.1 rfl⟩
    | kept reason _ _ hrelease => cases hrelease.symm.trans (hsound.exclusive.release hlock)
  · cases hreleases with
    | refused _ _ hother => exact absurd hphase hother

/-- While nobody has died with the lock, a call of a reader only looks. -/
theorem step_reader (hsound : x.Sound) (hnot : x.mutex.holding ≠ .orphaned)
    (hclient : x.clients.get? id = some c) (hreader : c.body.role = .reader)
    (h : x.step caller (.call id call) = some (answer, y)) :
    x.Looks caller id c call answer y := by
  have hhappens := (happens hsound.settled hsound.length h).2
  have hwriter {w : Writer} (hbody : c.body = .writer w) : False := by
    rw [hbody] at hreader
    cases hreader
  cases hhappens with
  | called hclient' hguard heffect hbecomes =>
    cases hclient.symm.trans hclient'
    cases heffect with
    | still _ _ hstill =>
      have hbook := hstill.book
      refine ⟨_, _, rfl, hbecomes, hstill.memory, hstill.host, .kept hstill.mutex ?_⟩
      rw [hbook]
      rfl
    | recovered _ _ _ horphaned => exact absurd horphaned hnot
    | nested hdepth =>
      have hsame : 0 < c.book.depth + 1 ↔ 0 < c.book.depth :=
        ⟨fun _ => hdepth, fun _ => Nat.succ_pos _⟩
      exact ⟨_, _, rfl, hbecomes, rfl, .refl _, .kept rfl hsame⟩
    | gained _ hfree => exact ⟨_, _, rfl, hbecomes, rfl, .refl _, .taken rfl hfree Nat.one_pos⟩
    | inherited _ horphaned => exact absurd horphaned hnot
    -- that the lock is free after the last guard is more than an effect says
    | inner => exact looks_release hsound hclient hreader h
    | freed => exact looks_release hsound hclient hreader h
    | kept => exact looks_release hsound hclient hreader h
    | refused => exact looks_release hsound hclient hreader h
    | begun hbody => exact (hwriter hbody).elim
    | submitted hbody => exact (hwriter hbody).elim
    | emptied hbody => exact (hwriter hbody).elim
    | detached hbody => exact (hwriter hbody).elim

/-- The steps of one reader. -/
inductive OfReader (x : Exchange) (id : Nat) : Move → Prop where
  | openReader : OfReader x id (.openReader id)
  | openCached (kind : ConsumerKind) : OfReader x id (.openCached id kind)
  | close {c : Client} : x.clients.get? id = some c → c.body.role = .reader →
      OfReader x id (.close id)
  | call {c : Client} (call : Call) : x.clients.get? id = some c → c.body.role = .reader →
      OfReader x id (.call id call)

/-- An object that is used or ended stays, if it is no reader but the given one. -/
theorem stays_of_used (hreader : ∀ id, x.readerOf? move = some id → id = given)
    (hused : move = .close id ∨ ∃ call, move = .call id call)
    (hclient : x.clients.get? id = some c) : c.stays given id = true := by
  have hgiven (hrole : c.body.role = .reader) : c.stays given id = true := by
    have heq : id = given := hreader id (by
      rcases hused with rfl | ⟨call, rfl⟩ <;> simp [readerOf?, hclient, hrole])
    rw [heq]
    exact c.stays_given given
  cases hbody : c.body with
  | writer w => simp [Client.stays, hbody, Body.role]
  | reader => exact hgiven (by rw [hbody]; rfl)
  | cached => exact hgiven (by rw [hbody]; rfl)

/-- Whether a step opens a reader does not depend on the region. -/
theorem readerOf?_opened (x y : Exchange) (hopened : move.opened?.isSome = true) :
    x.readerOf? move = y.readerOf? move := by
  cases move with
  | openWriter => rfl
  | openReader => rfl
  | openCached => rfl
  | _ => cases hopened

/-- What a step does of which `readerOf?` tells the reader. -/
theorem ofReader (h : x.readerOf? move = some id) : x.OfReader id move := by
  have hused {used : Nat}
      (h : (if (x.clients.get? used).any (·.body.role = .reader) then some used else none) =
        some id) : used = id ∧ ∃ c, x.clients.get? id = some c ∧ c.body.role = .reader := by
    split at h
    · next hany =>
      cases h
      obtain ⟨c, hclient, hreader⟩ := (Option.any_eq_true ..).mp hany
      exact ⟨rfl, c, hclient, of_decide_eq_true hreader⟩
    · cases h
  cases move with
  | openReader =>
    cases h
    exact .openReader
  | openCached _ kind =>
    cases h
    exact .openCached kind
  | close =>
    obtain ⟨rfl, c, hclient, hreader⟩ := hused h
    exact .close hclient hreader
  | call _ call =>
    obtain ⟨rfl, c, hclient, hreader⟩ := hused h
    exact .call call hclient hreader
  | openWriter => cases h
  | die => cases h
  | elapse => cases h

/-- No step of a reader writes a byte, while nobody has died with the lock. -/
theorem step_memory (hsound : x.Sound) (hnot : x.mutex.holding ≠ .orphaned)
    (hreader : x.readerOf? move = some id) (h : x.step caller move = some (answer, y)) :
    y.memory = x.memory := by
  cases ofReader hreader with
  | openReader =>
    cases (happens hsound.settled hsound.length h).2
    rfl
  | openCached =>
    cases (happens hsound.settled hsound.length h).2
    rfl
  | close hclient hrole =>
    rw [step_close_reader hclient (fun w hbody => by rw [hbody] at hrole; cases hrole) h]
  | call _ hclient hrole =>
    obtain ⟨_, s, rfl, -, hlooks⟩ := step_reader hsound hnot hclient hrole h
    exact hlooks.memory

/-! ## Regions with and without the other readers -/

/-- The object under this number, if it stays when all readers but the given one are taken away. -/
def view (x : Exchange) (given id : Nat) : Option Client :=
  (x.clients.get? id).filter (Client.stays given id)

/-- A reader other than the given one has guards. -/
def Occupied (x : Exchange) (given : Nat) : Prop :=
  ∃ id c, x.clients.get? id = some c ∧ c.Occupies given id

/-- The second region is the first one without the readers other than the given one: what is left is
the same but for the log, and the given reader is alike. The lock is free where one of the others
has it. -/
structure Apart (x : Exchange) (given : Nat) (session : UInt64) (y : Exchange) : Prop where
  names : y.names = x.names
  memory : y.memory = x.memory
  dead : y.dead = x.dead
  host : x.host.Still y.host
  clients : ∀ id, Option.Rel (Client.Akin session) (x.view given id) (y.clients.get? id)
  idle : ¬x.Occupied given → y.mutex = x.mutex
  busy : x.Occupied given → y.mutex = { x.mutex with holding := .free }

/-! ### Objects that are replaced -/

theorem view_put (x : Exchange) (given id other : Nat) (c : Client) :
    (x.put id c).view given other =
      if id = other then (some c).filter (Client.stays given id) else x.view given other := by
  rw [view, get?_put]
  split
  · next heq => rw [heq]
  · rfl

theorem view_erase (x : Exchange) (given id other : Nat) :
    ({ x with clients := x.clients.erase id } : Exchange).view given other =
      if id = other then none else x.view given other := by
  rw [view, Table.get?_erase]
  split <;> rfl

theorem view_eq_none (hclient : x.clients.get? id = some c) (haway : c.stays given id = false) :
    x.view given id = none := by
  rw [view, hclient, Option.filter_some, haway]
  rfl

/-- An object that is away leaves no trace, before and after. -/
theorem view_put_away (hview : x.view given id = none) (haway : c.stays given id = false)
    (other : Nat) : (x.put id c).view given other = x.view given other := by
  rw [view_put]
  split
  · next heq =>
    rw [← heq, hview, Option.filter_some, haway]
    rfl
  · rfl

theorem view_erase_away (hview : x.view given id = none) (other : Nat) :
    ({ x with clients := x.clients.erase id } : Exchange).view given other =
      x.view given other := by
  rw [view_erase]
  split
  · next heq => rw [← heq, hview]
  · rfl

theorem occupied_put {c' : Client} (hsame : c'.Occupies given id ↔
    ∃ c, x.clients.get? id = some c ∧ c.Occupies given id) :
    (x.put id c').Occupied given ↔ x.Occupied given := by
  constructor
  · rintro ⟨other, c, hclient, hoccupies⟩
    rw [get?_put] at hclient
    split at hclient
    · next heq =>
      cases hclient
      subst heq
      exact ⟨id, hsame.mp hoccupies⟩
    · exact ⟨other, c, hclient, hoccupies⟩
  · rintro ⟨other, c, hclient, hoccupies⟩
    by_cases heq : id = other
    · subst heq
      exact ⟨id, c', by rw [get?_put, if_pos rfl], hsame.mpr ⟨c, hclient, hoccupies⟩⟩
    · exact ⟨other, c, by rw [get?_put, if_neg heq]; exact hclient, hoccupies⟩

/-- Objects that stay do not count. -/
theorem occupied_put_stays {c' : Client}
    (hstays : ∀ c, x.clients.get? id = some c → c.stays given id = true)
    (hstays' : c'.stays given id = true) :
    (x.put id c').Occupied given ↔ x.Occupied given := by
  refine occupied_put ⟨fun h => ?_, ?_⟩
  · exact absurd hstays' (Bool.eq_false_iff.mp h.1)
  · rintro ⟨c, hclient, hoccupies⟩
    exact absurd (hstays c hclient) (Bool.eq_false_iff.mp hoccupies.1)

theorem occupied_erase (given : Nat) (hclient : x.clients.get? id = some c)
    (hdepth : c.book.depth = 0) :
    ({ x with clients := x.clients.erase id } : Exchange).Occupied given ↔ x.Occupied given := by
  constructor
  · rintro ⟨other, d, hd, hoccupies⟩
    rw [Table.get?_erase] at hd
    split at hd
    · cases hd
    · exact ⟨other, d, hd, hoccupies⟩
  · rintro ⟨other, d, hd, hoccupies⟩
    refine ⟨other, d, ?_, hoccupies⟩
    rw [Table.get?_erase, if_neg]
    · exact hd
    · rintro rfl
      cases hclient.symm.trans hd
      exact absurd hoccupies.2 (Nat.not_lt.mpr (Nat.le_of_eq hdepth))

/-! ### Steps that are passed over -/

namespace Apart

variable {session : UInt64} {s : Site}

/-- The lock after a call of a reader that is away. -/
theorem lock {c' : Client} (hapart : x.Apart given session y) (hclient : x.clients.get? id = some c)
    (haway : c.stays given id = false) (haway' : c'.stays given id = false)
    (hbook : c'.book = s.book) (hregards : x.Regards caller c s) :
    (¬((x.leave s).put id c').Occupied given → y.mutex = s.mutex) ∧
      (((x.leave s).put id c').Occupied given → y.mutex = { s.mutex with holding := .free }) := by
  cases hregards with
  | kept hmutex hdepth =>
    have hsame : ((x.leave s).put id c').Occupied given ↔ x.Occupied given := by
      refine occupied_put (x := x.leave s) ⟨fun h => ⟨c, hclient, haway, ?_⟩, ?_⟩
      · exact hdepth.mp (hbook ▸ h.2)
      · rintro ⟨d, hd, hoccupies⟩
        cases hclient.symm.trans hd
        exact ⟨haway', hbook ▸ hdepth.mpr hoccupies.2⟩
    rw [hsame, hmutex]
    exact ⟨hapart.idle, hapart.busy⟩
  | taken hmutex hfree hdepth =>
    have hoccupied : ((x.leave s).put id c').Occupied given :=
      ⟨id, c', by rw [get?_put, if_pos rfl], haway', hbook ▸ hdepth⟩
    refine ⟨fun hidle => absurd hoccupied hidle, fun _ => ?_⟩
    rw [hmutex]
    by_cases hbefore : x.Occupied given
    · exact hapart.busy hbefore
    · rw [hapart.idle hbefore, ← hfree]
  | freed hmutex hdepth =>
    have hfree := hapart.busy ⟨id, c, hclient, haway, hdepth⟩
    rw [hmutex]
    exact ⟨fun _ => hfree, fun _ => hfree⟩

/-- A reader that is away is opened. -/
theorem opened_away {body : Body} (event : Event) (hapart : x.Apart given session y)
    (hnone : x.clients.get? id = none) (haway : (Client.opened body).stays given id = false) :
    ({ x with host := x.host.report event }.put id (.opened body)).Apart given session y := by
  have hsame : ({ x with host := x.host.report event }.put id (.opened body)).Occupied given ↔
      x.Occupied given := by
    refine occupied_put (x := { x with host := x.host.report event }) ⟨fun h => ?_, ?_⟩
    · exact absurd h.2 (Nat.lt_irrefl 0)
    · rintro ⟨c, hclient, -⟩
      cases hnone.symm.trans hclient
  have hview : ({ x with host := x.host.report event } : Exchange).view given id = none := by
    rw [view, hnone]
    rfl
  refine ⟨hapart.names, hapart.memory, hapart.dead, ?_, fun other => ?_,
    fun h => hapart.idle (mt hsame.mpr h), fun h => hapart.busy (hsame.mp h)⟩
  · exact (Host.Still.report x.host event).symm.trans hapart.host
  · rw [view_put_away hview haway]
    exact hapart.clients other

/-- A reader that is away makes a call. -/
theorem called_away (hapart : x.Apart given session y) (hclient : x.clients.get? id = some c)
    (haway : c.stays given id = false) (hlooks : x.Looks caller id c call answer x') :
    x'.Apart given session y := by
  obtain ⟨body, s, rfl, hbecomes, hmemory, hhost, hregards⟩ := hlooks
  have haway' : (⟨body, s.book, c.tokenAfter call answer s.book⟩ : Client).stays given id =
      false := by
    rw [← haway, Client.stays, Client.stays, Client.role_becomes hbecomes]
  have hview : (x.leave s).view given id = none := view_eq_none (x := x.leave s) hclient haway
  obtain ⟨hidle, hbusy⟩ := hapart.lock hclient haway haway' rfl hregards
  refine ⟨hapart.names, hapart.memory.trans hmemory.symm, hapart.dead, ?_, fun other => ?_, hidle,
    hbusy⟩
  · exact hhost.symm.trans hapart.host
  · rw [view_put_away hview haway']
    exact hapart.clients other

/-- A reader that is away ends. -/
theorem closed_away (hapart : x.Apart given session y) (hclient : x.clients.get? id = some c)
    (hdepth : c.book.depth = 0) (haway : c.stays given id = false) :
    ({ x with clients := x.clients.erase id } : Exchange).Apart given session y := by
  have hsame := occupied_erase given hclient hdepth
  refine ⟨hapart.names, hapart.memory, hapart.dead, hapart.host, fun other => ?_,
    fun h => hapart.idle (mt hsame.mpr h), fun h => hapart.busy (hsame.mp h)⟩
  rw [view_erase_away (view_eq_none hclient haway)]
  exact hapart.clients other

/-- A reader that has read without pixels is still like one that has not. -/
theorem body_glanced {body body' other : Body} {site : Site}
    (hnot : site.mutex.holding ≠ .orphaned)
    (h : body.Becomes site .getMetadata answer body' s)
    (hakin : body.Akin (Memory.load site.memory).session other) :
    body'.Akin (Memory.load site.memory).session other := by
  cases h with
  | same _ hlearns => cases hlearns
  | failed => exact hakin
  | @getMetadata c number reader _ _ hreads =>
    cases hakin with
    | @cached _ other _ hcached =>
      obtain ⟨hreader, hrest⟩ := hcached
      have hfollows : reader.Akin (Memory.load site.memory).session other.reader := by
        cases hreads with
        | missed => exact hreader
        | unusable => exact hreader.follow_left rfl
        | frame => exact hreader.follow_left rfl
        | recovered _ _ horphaned => exact absurd horphaned hnot
      exact .cached number ⟨hfollows, hrest⟩

/-- A read through the cache without pixels leaves whatever frame was begun. -/
theorem token_glanced (hsettled : c.Settled) (answer : Answer) :
    c.tokenAfter .getMetadata answer c.book = c.token := by
  rw [Client.tokenAfter.eq_def]
  split
  · next hzero =>
    by_contra hne
    have hbegun := hsettled.begun fun hnone => hne hnone.symm
    exact absurd hzero (Nat.pos_iff_ne_zero.mp hbegun.1)
  · rfl

/-- The given reader reads without pixels, through its cache. -/
theorem glanced (hapart : x.Apart given x.header.session y) (hsound : x.Sound)
    (hnot : x.mutex.holding ≠ .orphaned)
    (h : x.step caller (.call given .getMetadata) = some (answer, x')) :
    x'.Apart given x.header.session y := by
  cases (happens hsound.settled hsound.length h).2 with
  | @called _ c _ _ body s hclient hguard heffect hbecomes =>
    cases heffect with
    | recovered _ _ _ horphaned => exact absurd horphaned hnot
    | still _ _ hstill =>
      have hbook : s.book = c.book := by
        rw [hstill.book]
        rfl
      rw [hbook, token_glanced (hsound.settled given c hclient)]
      have hstays (d : Client) : d.stays given given = true := d.stays_given given
      have hsame : ((x.leave s).put given ⟨body, c.book, c.token⟩).Occupied given ↔
          x.Occupied given :=
        occupied_put_stays (x := x.leave s) (fun d _ => hstays d) (hstays _)
      refine ⟨hapart.names, hapart.memory.trans hstill.memory.symm, hapart.dead, ?_,
        fun other => ?_, fun h => ?_, fun h => ?_⟩
      · exact hstill.host.symm.trans hapart.host
      · have hother := hapart.clients other
        rw [view_put]
        split
        · next heq =>
          rw [← heq, view, hclient, Option.filter_some, hstays, if_pos rfl] at hother
          rw [← heq, Option.filter_some, hstays, if_pos rfl]
          generalize y.clients.get? given = found at hother
          cases hother with
          | some hakin =>
            exact .some ⟨body_glanced hnot hbecomes hakin.body, hakin.book, hakin.token⟩
        · exact hother
      · exact (hapart.idle (mt hsame.mpr h)).trans hstill.mutex.symm
      · have hmutex : s.mutex = x.mutex := hstill.mutex
        exact (hapart.busy (hsame.mp h)).trans (by rw [← hmutex]; rfl)

/-- A step that makes no difference may be passed over. -/
theorem passed {own : Bool} (hapart : x.Apart given x.header.session y) (hsound : x.Sound)
    (hnot : x.mutex.holding ≠ .orphaned) (haside : x.aside given own move = true)
    (h : x.step caller move = some (answer, x')) : x'.Apart given x.header.session y := by
  rw [aside, Bool.or_eq_true, Bool.and_eq_true, Option.any_eq_true] at haside
  rcases haside with ⟨id, hreader, hne⟩ | ⟨-, hglances⟩
  · have hne : id ≠ given := of_decide_eq_true hne
    have hopened {body : Body} (hrole : body.role = .reader) :
        (Client.opened body).stays given id = false := Client.not_stays hrole hne
    cases ofReader hreader with
    | openReader =>
      cases (happens hsound.settled hsound.length h).2 with
      | openedReader event hnone => exact hapart.opened_away event hnone (hopened rfl)
    | openCached =>
      cases (happens hsound.settled hsound.length h).2 with
      | openedCached event hnone => exact hapart.opened_away event hnone (hopened rfl)
    | @close c hclient hrole =>
      have hdepth : c.book.depth = 0 := by
        cases (happens hsound.settled hsound.length h).2 with
        | closed hclient' hdepth => exact Option.some.inj (hclient.symm.trans hclient') ▸ hdepth
      rw [step_close_reader hclient (fun w hbody => by rw [hbody] at hrole; cases hrole) h]
      exact hapart.closed_away hclient hdepth (Client.not_stays hrole hne)
    | call call hclient hrole =>
      exact hapart.called_away hclient (Client.not_stays hrole hne)
        (step_reader hsound hnot hclient hrole h)
  · cases move with
    | call id call =>
      cases call with
      | getMetadata =>
        obtain rfl : id = given := of_decide_eq_true hglances
        exact hapart.glanced hsound hnot h
      | _ => cases hglances
    | _ => cases hglances

/-! ### Steps in both regions -/

section

variable {c' : Client} {s' : Site}

/-- A number that nobody has in the first region nobody has in the second. -/
theorem absent (hapart : x.Apart given session y) (hnone : x.clients.get? id = none) :
    y.clients.get? id = none := by
  have hid := hapart.clients id
  rw [view, hnone] at hid
  generalize y.clients.get? id = found at hid
  cases hid
  rfl

/-- An object that stays is in both. -/
theorem present (hapart : x.Apart given session y) (hclient : x.clients.get? id = some c)
    (hstays : c.stays given id = true) : ∃ c', y.clients.get? id = some c' ∧ c.Akin session c' := by
  have hid := hapart.clients id
  rw [view, hclient, Option.filter_some, hstays, if_pos rfl] at hid
  generalize y.clients.get? id = found at hid
  cases hid with
  | some hakin => exact ⟨_, rfl, hakin⟩

theorem site (hapart : x.Apart given session y) (hfree : ¬x.Occupied given) (caller : Thread)
    (book : LockBook) : (x.site caller book).Still (y.site caller book) := by
  refine ⟨hapart.host, ?_⟩
  rw [Exchange.site, Exchange.site, hapart.names, hapart.memory, hapart.idle hfree]

theorem leave (hapart : x.Apart given session y) (hfree : ¬x.Occupied given) (hstill : s.Still s') :
    (x.leave s).Apart given session (y.leave s') where
  names := hapart.names
  memory := hstill.memory
  dead := hapart.dead
  host := hstill.host
  clients := hapart.clients
  idle _ := hstill.mutex
  busy hoccupied := absurd hoccupied hfree

theorem put (hapart : x.Apart given session y) (hfree : ¬x.Occupied given)
    (hbefore : ∀ d, x.clients.get? id = some d → d.stays given id = true)
    (hstays : c.stays given id = true) (hakin : c.Akin session c') :
    (x.put id c).Apart given session (y.put id c') where
  names := hapart.names
  memory := hapart.memory
  dead := hapart.dead
  host := hapart.host
  clients other := by
    rw [view_put, get?_put]
    split
    · rw [Option.filter_some, hstays]
      exact .some hakin
    · exact hapart.clients other
  idle _ := hapart.idle hfree
  busy hoccupied := absurd ((occupied_put_stays hbefore hstays).mp hoccupied) hfree

theorem erase (hapart : x.Apart given session y) (hfree : ¬x.Occupied given)
    (hclient : x.clients.get? id = some c) (hdepth : c.book.depth = 0) :
    ({ x with clients := x.clients.erase id } : Exchange).Apart given session
      { y with clients := y.clients.erase id } where
  names := hapart.names
  memory := hapart.memory
  dead := hapart.dead
  host := hapart.host
  clients other := by
    rw [view_erase, Table.get?_erase]
    split
    · exact .none
    · exact hapart.clients other
  idle _ := hapart.idle hfree
  busy hoccupied := absurd ((occupied_erase given hclient hdepth).mp hoccupied) hfree

end

/-- The same answer in both regions, which stay apart. -/
def Both (given : Nat) (session : UInt64) (p q : Answer × Exchange) : Prop :=
  p.1 = q.1 ∧ p.2.Apart given session q.2

/-- Operations that end alike are settled alike. -/
theorem settle {α β : Type} {P : α → β → Prop} {result : EStateM.Result Failure Site α}
    {result' : EStateM.Result Failure Site β} {ok : α → Site → Answer × Exchange}
    {ok' : β → Site → Answer × Exchange} {failed failed' : Failure → Site → Exchange}
    (halike : Alike P result result')
    (hok : ∀ a b s s', result = .ok a s → P a b → s.Still s' →
      Both given session (ok a s) (ok' b s'))
    (hfailed : ∀ failure s s', s.Still s' →
      (failed failure s).Apart given session (failed' failure s')) :
    Option.Rel (Both given session) (Exchange.settle result ok failed)
      (Exchange.settle result' ok' failed') := by
  cases halike with
  | ok hvalues hstill => exact .some (hok _ _ _ _ rfl hvalues hstill)
  | @error failure _ _ hstill =>
    cases failure with
    | blocked => exact .none
    | error e => exact .some ⟨rfl, hfailed _ _ _ hstill⟩
    | violation v => exact .some ⟨rfl, hfailed _ _ _ hstill⟩

theorem openWriter (hapart : x.Apart given session y) (hfree : ¬x.Occupied given)
    (hnone : x.clients.get? id = none) (caller : Thread) (gpu : UInt64) :
    Option.Rel (Both given session) (x.openWriter caller id gpu) (y.openWriter caller id gpu) := by
  rw [Exchange.openWriter, Exchange.openWriter, hnone, hapart.absent hnone]
  refine settle (Writer.attach_blind _ _ _ (hapart.site hfree caller _)) ?_ ?_
  · rintro _ _ s s' - rfl hstill
    refine ⟨rfl, (hapart.leave hfree hstill).put hfree ?_ ?_ ⟨.writer _, ?_, rfl⟩⟩
    · exact fun d hd => absurd (hnone.symm.trans hd) (by simp)
    · simp [Client.stays, Body.role]
    · rw [hstill.book]
  · exact fun failure s s' hstill => hapart.leave hfree hstill

theorem openReader {body : Body} (hapart : x.Apart given session y) (hfree : ¬x.Occupied given)
    (hnone : x.clients.get? given = none) (hakin : body.Akin session body) :
    Option.Rel (Both given session) (x.openReader given body) (y.openReader given body) := by
  rw [Exchange.openReader, Exchange.openReader, hnone, hapart.absent hnone]
  have hopened : ({ x with host := x.host.report (.readerOpened x.names.mapping) } :
      Exchange).Apart given session
      { y with host := y.host.report (.readerOpened y.names.mapping) } :=
    { hapart with host := hapart.host.report_both _ _ }
  refine .some ⟨rfl, hopened.put hfree ?_ (Client.stays_given _ _) ⟨hakin, rfl, rfl⟩⟩
  exact fun d hd => absurd (hnone.symm.trans hd) (by simp)

theorem close (hapart : x.Apart given session y) (hfree : ¬x.Occupied given)
    (hstays : ∀ c, x.clients.get? id = some c → c.stays given id = true) (caller : Thread) :
    Option.Rel (Both given session) (x.close caller id) (y.close caller id) := by
  rw [Exchange.close, Exchange.close]
  cases hclient : x.clients.get? id with
  | none =>
    rw [hapart.absent hclient]
    exact .none
  | some c =>
    obtain ⟨c', hclient', hbody, hbook, -⟩ := hapart.present hclient (hstays c hclient)
    rw [hclient']
    dsimp only
    rw [hbook]
    by_cases hdepth : 0 < c.book.depth
    · rw [if_pos hdepth, if_pos hdepth]
      exact .none
    · rw [if_neg hdepth, if_neg hdepth]
      have hgone := hapart.erase hfree hclient (Nat.eq_zero_of_not_pos hdepth)
      have hfree' := mt (occupied_erase given hclient (Nat.eq_zero_of_not_pos hdepth)).mp hfree
      obtain ⟨body, book, token⟩ := c
      obtain ⟨body', book', token'⟩ := c'
      cases hbody with
      | writer w =>
        refine settle (w.close_blind _ _ (hapart.site hfree caller book)) ?_ ?_
        · exact fun _ _ s s' _ _ hstill => ⟨rfl, hgone.leave hfree' hstill⟩
        · exact fun failure s s' hstill => hgone.leave hfree' hstill
      | reader => exact .some ⟨rfl, hgone⟩
      | cached => exact .some ⟨rfl, hgone⟩

theorem called (hapart : x.Apart given x.header.session y) (hfree : ¬x.Occupied given)
    (hsound : x.Sound) (hnot : x.mutex.holding ≠ .orphaned)
    (hstays : ∀ c, x.clients.get? id = some c → c.stays given id = true) (caller : Thread)
    (call : Call) :
    Option.Rel (Both given x.header.session) (x.call caller id call) (y.call caller id call) := by
  rw [Exchange.call, Exchange.call]
  cases hclient : x.clients.get? id with
  | none =>
    rw [hapart.absent hclient]
    exact .none
  | some c =>
    obtain ⟨c', hclient', hakin⟩ := hapart.present hclient (hstays c hclient)
    have hguard : (call.underGuard = true ∧ ¬c'.GuardOf caller) ↔
        call.underGuard = true ∧ ¬c.GuardOf caller := by
      rw [Client.GuardOf, Client.GuardOf, hakin.book]
    rw [hclient']
    dsimp only
    by_cases hrefused : call.underGuard = true ∧ ¬c.GuardOf caller
    · rw [if_pos hrefused, if_pos (hguard.mpr hrefused)]
      exact .none
    · rw [if_neg hrefused, if_neg (mt hguard.mp hrefused), hakin.book]
      have hsettled := hsound.settled id c hclient
      have hoperations := Client.operation_akin (s := x.site caller c.book) hakin
        (hapart.site hfree caller c.book) (fun hreader => ⟨hsettled.tidy rfl hreader, hnot⟩) call
      generalize hoperation : c.operation call = operation at hoperations
      generalize c'.operation call = operation' at hoperations
      cases hoperations with
      | none => exact .none
      | some halike =>
        have hput {answer : Answer} {body body' : Body} {s s' : Site} (hstill : s.Still s')
            (hrole : body.role = c.body.role) (hbody : body.Akin x.header.session body') :
            ((x.leave s).put id ⟨body, s.book, c.tokenAfter call answer s.book⟩).Apart given
              x.header.session
              ((y.leave s').put id ⟨body', s'.book, c'.tokenAfter call answer s'.book⟩) := by
          refine (hapart.leave hfree hstill).put hfree hstays ?_ ⟨hbody, ?_, ?_⟩
          · rw [← hstays c hclient, Client.stays, Client.stays, hrole]
          · rw [hstill.book]
          · rw [hstill.book, Client.tokenAfter.eq_def, Client.tokenAfter.eq_def, hakin.token]
        refine settle halike ?_ ?_
        · rintro ⟨answer, body⟩ ⟨answer', body'⟩ s s' hresult ⟨hanswer, hbody⟩ hstill
          cases hanswer
          refine ⟨rfl, hput hstill ?_ hbody⟩
          have heffects := Client.effects (s := x.site caller c.book) hsettled rfl hsound.length
            hoperation
          rw [hresult] at heffects
          cases heffects with
          | ok _ hbecomes => exact Client.role_becomes hbecomes
        · exact fun failure s s' hstill => hput hstill rfl hakin.body

/-- Nobody has the lock in the second region who has not got it in the first. -/
theorem not_held (hapart : x.Apart given session y) (hnot : x.mutex.holding ≠ .held caller) :
    y.mutex.holding ≠ .held caller := by
  by_cases hoccupied : x.Occupied given
  · rw [hapart.busy hoccupied]
    exact fun heq => by cases heq
  · rw [hapart.idle hoccupied]
    exact hnot

theorem die (hapart : x.Apart given session y) (hspared : x.mutex.holding ≠ .held caller) :
    ({ x with mutex := x.mutex.ownerDies caller, dead := caller :: x.dead } : Exchange).Apart given
      session { y with mutex := y.mutex.ownerDies caller, dead := caller :: y.dead } := by
  have hsame {m : Mutex} (hm : m.holding ≠ .held caller) : m.ownerDies caller = m := by
    simp [Mutex.ownerDies, Mutex.knowsOwner, hm]
  rw [hsame hspared, hsame (hapart.not_held hspared), hapart.dead]
  exact { hapart with dead := rfl }

/-- Any other step is possible in both regions or in neither, and comes to the same, if no other
reader has guards. -/
theorem step (hapart : x.Apart given x.header.session y) (hsound : x.Sound)
    (hnot : x.mutex.holding ≠ .orphaned) (hreader : ∀ id, x.readerOf? move = some id → id = given)
    (hnone : ∀ id, move.opened? = some id → x.clients.get? id = none)
    (hfree : move.object?.isSome = true → ¬x.Occupied given)
    (hspared : move = .die → x.mutex.holding ≠ .held caller) :
    Option.Rel (Both given x.header.session) (x.step caller move) (y.step caller move) := by
  have hsame : caller ∈ y.dead ↔ caller ∈ x.dead := by rw [hapart.dead]
  rw [Exchange.step.eq_def, Exchange.step.eq_def]
  by_cases hdead : caller ∈ x.dead
  · rw [if_pos hdead, if_pos (hsame.mpr hdead)]
    exact .none
  · rw [if_neg hdead, if_neg (mt hsame.mp hdead)]
    cases move with
    | openWriter id gpu => exact hapart.openWriter (hfree rfl) (hnone id rfl) caller gpu
    | openReader id =>
      cases hreader id rfl
      exact hapart.openReader (hfree rfl) (hnone given rfl) (.reader (.refl _ _))
    | openCached id kind =>
      cases hreader id rfl
      exact hapart.openReader (hfree rfl) (hnone given rfl) (.cached 0 (.refl _ _))
    | close id =>
      exact hapart.close (hfree rfl) (fun _ => stays_of_used hreader (.inl rfl)) caller
    | call id call =>
      have hstays (c : Client) := stays_of_used (c := c) hreader (.inr ⟨call, rfl⟩)
      exact hapart.called (hfree rfl) hsound hnot hstays caller call
    | die => exact .some ⟨rfl, hapart.die (hspared rfl)⟩
    | elapse processes clock opened events =>
      exact .some ⟨rfl, { hapart with host := ⟨hapart.host.entropy, fun _ => rfl⟩ }⟩

/-- A step that is possible in the second region is none of another reader in the first. -/
theorem readerOf (hapart : x.Apart given session y) (hsound : y.Sound)
    (h : y.step caller move = some (answer, y'))
    (hopened : move.opened?.isSome = true → ∀ id, x.readerOf? move = some id → id = given)
    (id : Nat) (hreader : x.readerOf? move = some id) : id = given := by
  have hhappens := (happens hsound.settled hsound.length h).2
  have hgiven {c d : Client} (hclient : x.clients.get? id = some c) (hrole : c.body.role = .reader)
      (hother : y.clients.get? id = some d) : id = given := by
    have hid := hapart.clients id
    rw [hother] at hid
    generalize hview : x.view given id = found at hid
    cases hid with
    | some hakin =>
      obtain ⟨hclient', hstays⟩ := Option.filter_eq_some_iff.mp hview
      cases hclient.symm.trans hclient'
      simpa [Client.stays, hrole] using hstays
  cases ofReader hreader with
  | openReader => exact hopened rfl id hreader
  | openCached => exact hopened rfl id hreader
  | close hclient hrole =>
    cases hhappens with
    | closed hother => exact hgiven hclient hrole hother
  | call _ hclient hrole =>
    cases hhappens with
    | called hother => exact hgiven hclient hrole hother

end Apart

end Exchange

end FrameExchange
