import FrameExchange.Proofs.Agreement
import FrameExchange.Proofs.Polling
import Mathlib.Data.List.Destutter

/-!
# A tool that goes on looking

The tool compares keys only, and prints a report when the key is another one than that of the report
it printed last. This is as good as comparing whole reports: a key is never used for two frames, and
one that is gone does not come back, whatever happens on the region between two looks. Even where
the tool itself finds the lock of a dead owner, it puts a new session in place of whatever was left.

- `Report.Depicts` — a report that says what is in a header, field by field.
- `Watching` — looks of a tool, and everything else that happens on its region.
- `Candid`, `Faithful` — what is printed is what was in the region, each time that it was something
  else.
- `Watching.faithful` — this holds of all looks, and only a thread with the lock can delay the next.
- `Scene`, `Turn` — looks and everything else can be played.
-/

namespace FrameExchange

/-! ## Reports and keys -/

/-- The report says what is in the header. -/
structure Report.Depicts (r : Report) (names : RegionNames) (h : Header) : Prop where
  names : r.names = names
  attached : r.attached = h.hasFeeder
  session : r.key.session = h.session
  frame : r.key.frame = h.frame
  gpu : r.gpu = h.gpu
  feederPid : r.feederPid = h.feederPid
  config : r.config = h.config
  layers : r.layers = h.layers

theorem Report.depicts (names : RegionNames) (h : Header) : (of names h).Depicts names h :=
  ⟨rfl, rfl, rfl, rfl, rfl, rfl, rfl, rfl⟩

/-- There is nothing else in a report. -/
theorem Report.Depicts.unique {r r' : Report} {names : RegionNames} {h : Header}
    (hfirst : r.Depicts names h) (hsecond : r'.Depicts names h) : r = r' := by
  obtain ⟨_, _, ⟨_, _⟩, _, _, _, _⟩ := r
  obtain ⟨_, _, ⟨_, _⟩, _, _, _, _⟩ := r'
  rw [Report.mk.injEq, FrameKey.mk.injEq]
  refine ⟨hfirst.names.trans hsecond.names.symm, hfirst.attached.trans hsecond.attached.symm,
    ⟨hfirst.session.trans hsecond.session.symm, hfirst.frame.trans hsecond.frame.symm⟩,
    hfirst.gpu.trans hsecond.gpu.symm, hfirst.feederPid.trans hsecond.feederPid.symm,
    hfirst.config.trans hsecond.config.symm, hfirst.layers.trans hsecond.layers.symm⟩

/-- Headers that show the same frame make the same report. -/
theorem Header.SameFrame.report {h h' : Header} (hsame : h.SameFrame h') (names : RegionNames) :
    Report.of names h' = Report.of names h := by
  rw [hsame.rest]
  rfl

/-! ## What is printed -/

/-- One look of a tool. -/
structure Look where
  /-- What was in the region. -/
  header : Header
  /-- The report on it. -/
  found : Report
  /-- What was printed, if anything. -/
  printed : Option Report
  deriving DecidableEq, Repr

/-- Everything that was printed, in order. -/
def prints (looks : List Look) : List Report := looks.filterMap Look.printed

/-- What was found is printed each time, unless it was also what was printed last. -/
def Candid (looks : List Look) : Prop :=
  ∀ earlier look later, looks = earlier ++ look :: later → look.printed =
    if (prints earlier).getLast? = some look.found then none else some look.found

section

variable {looks : List Look} {look : Look}

theorem prints_concat (looks : List Look) (look : Look) :
    prints (looks ++ [look]) = prints looks ++ look.printed.toList := by
  rw [prints, List.filterMap_append, List.filterMap_cons]
  cases look.printed <;> rfl

/-- What is candid stays so with one more look that is. -/
theorem Candid.concat (hcandid : Candid looks) (hlook : look.printed =
    if (prints looks).getLast? = some look.found then none else some look.found) :
    Candid (looks ++ [look]) := by
  intro earlier other later heq
  rcases List.eq_nil_or_concat later with rfl | ⟨front, last, rfl⟩
  · obtain ⟨rfl, hlast⟩ := List.append_inj' heq rfl
    cases hlast
    exact hlook
  · rw [List.concat_eq_append, ← List.cons_append, ← List.append_assoc] at heq
    exact hcandid earlier other front (List.append_inj' heq rfl).1

theorem Candid.front (hcandid : Candid (looks ++ [look])) : Candid looks := by
  rintro earlier other later rfl
  exact hcandid earlier other (later ++ [look]) (by simp)

/-- To add the element that is there last adds nothing to a list without repetitions, and any other
is kept. -/
theorem destutter_concat {α : Type} [DecidableEq α] (l : List α) (a : α) :
    (l ++ [a]).destutter (· ≠ ·) =
      if l.getLast? = some a then l.destutter (· ≠ ·) else l.destutter (· ≠ ·) ++ [a] := by
  cases l with
  | nil => rfl
  | cons first l =>
    rw [List.cons_append, List.destutter_cons', List.destutter_cons']
    induction l generalizing first with
    | nil =>
      rw [List.nil_append, List.destutter'_singleton]
      by_cases heq : first = a
      · simp [heq]
      · simp [heq]
    | cons b l ih =>
      rw [List.cons_append, List.getLast?_cons_cons]
      by_cases heq : first = b
      · subst heq
        rw [List.destutter'_cons_neg _ (by simp), List.destutter'_cons_neg _ (by simp), ih first]
      · rw [List.destutter'_cons_pos _ heq, List.destutter'_cons_pos _ heq, ih b]
        split
        · rfl
        · rfl

/-- What is printed last is what was found last. -/
theorem Candid.last (hcandid : Candid looks) :
    (prints looks).getLast? = looks.getLast?.map Look.found := by
  rcases List.eq_nil_or_concat looks with rfl | ⟨front, look, rfl⟩
  · rfl
  · rw [List.concat_eq_append] at hcandid ⊢
    have hlook := hcandid front look [] rfl
    rw [prints_concat, hlook, List.getLast?_concat]
    split
    · next heq =>
      rw [Option.toList_none, List.append_nil, heq]
      rfl
    · rw [Option.toList_some, List.getLast?_concat]
      rfl

/-- Whoever prints like this prints what was found, without the repetitions. -/
theorem Candid.prints_eq (hcandid : Candid looks) :
    prints looks = (looks.map Look.found).destutter (· ≠ ·) := by
  induction looks using List.reverseRecOn with
  | nil => rfl
  | append_singleton looks look ih =>
    have hfront := hcandid.front
    have hlook := hcandid looks look [] rfl
    rw [prints_concat, ih hfront, List.map_append, List.map_singleton, destutter_concat, hlook,
      hfront.last, List.getLast?_map]
    split
    · rw [Option.toList_none, List.append_nil]
    · rfl

end

/-! ## Looks, and what happens between them -/

/-- A tool at work on a region on which these things have happened. It has made these looks; the
system, the tool and the exchange are as they are now. Between two looks anything can happen on the
region that does not use the tool's own reader, and anything elsewhere. -/
inductive Watching (config : RegionConfig) (host : Host) (seat : Nat) :
    List Deed → List Look → System → InspectTool → Exchange → Prop where
  /-- The tool has started on a region with a past. -/
  | started {deeds : List Deed} {before s : System} {t : InspectTool} {x : Exchange} :
      InspectTool.start before config = (.ok t, s) → t.region.mapping ≠ t.region.lock →
      Course (.start (.ofConfig config) host) deeds x →
      x.clients.get? seat = some InspectTool.resting →
      s.exchange t.region x.clients x.dead = x → Watching config host seat deeds [] s t x
  | meanwhile {deeds : List Deed} {looks : List Look} {s s' : System} {t : InspectTool} {d : Deed} :
      Watching config host seat deeds looks s t d.before → d.Valid ∨ d.Dies →
      d.after.clients.get? seat = d.before.clients.get? seat →
      s'.exchange t.region d.after.clients d.after.dead = d.after →
      Watching config host seat (deeds ++ [d]) looks s' t d.after
  /-- A look, with the steps that it consists of. -/
  | looked {deeds more : List Deed} {looks : List Look} {s s' : System} {t t' : InspectTool}
      {x y : Exchange} {caller : Thread} {printed : Option Report} :
      Watching config host seat deeds looks s t x → caller ∉ x.dead →
      t.poll s caller = (.ok printed, t', s') →
      x.play (InspectTool.steps seat caller s'.host) = some (more, y) →
      Watching config host seat (deeds ++ more)
        (looks ++ [⟨y.header, Report.of t.region.names y.header, printed⟩]) s' t' y

/-- A tool that has started has printed nothing, and its reader is not in use. -/
theorem InspectTool.start_ok {s s' : System} {config : RegionConfig} {t : InspectTool}
    (hstart : start s config = (.ok t, s')) :
    t.watch = .start ∧ t.region.names = .ofConfig config ∧ t.region.book = resting.book := by
  unfold start silently System.attach at hstart
  cases hopened : s.openRegion (.ofConfig config) config.lockTimeout with
  | mk outcome after =>
    cases outcome with
    | error error => simp [hopened] at hstart
    | ok files =>
      simp only [hopened, Prod.mk.injEq, Except.ok.injEq] at hstart
      obtain ⟨rfl, -⟩ := hstart
      exact ⟨rfl, rfl, rfl⟩

namespace Watching

variable {config : RegionConfig} {host : Host} {seat : Nat} {deeds : List Deed} {looks : List Look}
  {s : System} {t : InspectTool} {x : Exchange}

/-- The tool stays on its region. -/
theorem seated (hwatching : Watching config host seat deeds looks s t x) :
    InspectTool.Seated x seat s t ∧ t.region.names = .ofConfig config := by
  induction hwatching with
  | started hstart hfiles _ hclient hagrees =>
    obtain ⟨-, hnames, hbook⟩ := InspectTool.start_ok hstart
    exact ⟨⟨hagrees, hfiles, hclient, hbook⟩, hnames⟩
  | meanwhile _ _ hclient hagrees ih =>
    obtain ⟨hseated, hnames⟩ := ih
    exact ⟨⟨hagrees, hseated.files, hclient.trans hseated.client, hseated.book⟩, hnames⟩
  | looked _ halive hpoll hplay ih =>
    obtain ⟨hseated, hnames⟩ := ih
    obtain ⟨hpolls, -, rfl⟩ := hseated.polled halive hpoll hplay
    exact ⟨⟨hpolls.seated.agrees, hpolls.seated.files, hpolls.seated.client, hpolls.seated.book⟩,
      hnames⟩

/-- What happens on the region is a course, the looks included. -/
theorem course (hwatching : Watching config host seat deeds looks s t x) :
    Course (.start (.ofConfig config) host) deeds x := by
  induction hwatching with
  | started _ _ hcourse => exact hcourse
  | meanwhile _ hentry _ _ ih => exact Course.snoc_iff.mpr ⟨ih, hentry, rfl⟩
  | looked _ _ _ hplay ih => exact Course.append_iff.mpr ⟨_, ih, .of_run (Run.of_play hplay)⟩

end Watching

/-- What a tool has printed so far fits to what has happened on its region: it is in the order of
publication, each key once, and the last of it is right as long as its key is there. -/
structure Told (config : RegionConfig) (host : Host) (deeds : List Deed) (looks : List Look)
    (t : InspectTool) (x : Exchange) : Prop where
  candid : Candid looks
  last : t.watch.last = (prints looks).getLast?.map Report.key
  order : ∀ r ∈ prints looks, ∀ last ∈ (prints looks).getLast?,
    InOrder (chronicle (.start (.ofConfig config) host) deeds) r.key last.key
  keys : ((prints looks).map Report.key).Nodup
  recalls : ∀ last ∈ (prints looks).getLast?,
    x.Recalls deeds last.key (Report.of (.ofConfig config) · = last)

namespace Told

variable {config : RegionConfig} {host : Host} {deeds more : List Deed} {looks : List Look}
  {t : InspectTool} {x y : Exchange}

/-- A tool that has just started has printed nothing. -/
theorem start (hwatch : t.watch = .start) : Told config host deeds [] t x where
  candid earlier look later heq := by simp at heq
  last := by
    rw [hwatch]
    rfl
  order _ hmem := absurd hmem List.not_mem_nil
  keys := List.nodup_nil
  recalls _ hlast := by cases hlast

/-- All that was printed has a key of the region. -/
theorem mem (htold : Told config host deeds looks t x) {r : Report} (hmem : r ∈ prints looks) :
    r.key ∈ chronicle (.start (.ofConfig config) host) deeds := by
  have hsome := List.getLast?_eq_some_getLast (List.ne_nil_of_mem hmem)
  exact (htold.order r hmem _ hsome).1

/-- Whatever happens between two looks. -/
theorem advance (htold : Told config host deeds looks t x)
    (hcourse : Course (.start (.ofConfig config) host) deeds x) (hmore : Course x more y)
    (hnodup : (chronicle (.start (.ofConfig config) host) (deeds ++ more)).Nodup) :
    Told config host (deeds ++ more) looks t y := by
  refine ⟨htold.candid, htold.last, fun r hmem last hlast => ?_, htold.keys, fun last hlast => ?_⟩
  · rw [chronicle_append]
    exact (htold.order r hmem last hlast).append
  · -- a report is about the frame and nothing else
    exact hcourse.recalls (fun _ _ hsame hright => (hsame.report _).trans hright) hmore hnodup
      (htold.mem (List.mem_of_getLast? hlast)) (htold.recalls last hlast)

/-- A look at the header while nobody has the lock. -/
theorem look (htold : Told config host deeds looks t x)
    (hcourse : Course (.start (.ofConfig config) host) deeds x)
    (hnodup : (chronicle (.start (.ofConfig config) host) deeds).Nodup)
    (howned : x.mutex.holding ≠ .orphaned) :
    Told config host deeds
      (looks ++ [⟨x.header, Report.of (.ofConfig config) x.header,
        (t.watch.poll (.ofConfig config) x.header).1⟩])
      { t with watch := (t.watch.poll (.ofConfig config) x.header).2 } x := by
  have hend := (hcourse.reached.resolve_left howned).last
  have hwhole : ¬Torn deeds := fun htorn => howned (hcourse.orphaned_of_torn htorn)
  by_cases hkey : t.watch.last = some x.header.key
  · -- the key is that of what was printed last, so all the rest is
    have hpoll : t.watch.poll (.ofConfig config) x.header = (none, t.watch) := if_pos hkey
    rw [hpoll]
    obtain ⟨last, hlast, hsame⟩ := Option.map_eq_some_iff.mp (htold.last.symm.trans hkey)
    have hright : Report.of (.ofConfig config) x.header = last :=
      (htold.recalls last hlast).resolve_left hwhole hsame.symm
    have hprints : prints (looks ++ [⟨x.header, Report.of (.ofConfig config) x.header, none⟩]) =
        prints looks := (prints_concat ..).trans (List.append_nil _)
    refine ⟨htold.candid.concat ?_, ?_, ?_, ?_, ?_⟩
    · rw [hlast, hright, if_pos rfl]
    all_goals rw [hprints]
    · exact htold.last
    · exact htold.order
    · exact htold.keys
    · exact htold.recalls
  · have hpoll : t.watch.poll (.ofConfig config) x.header =
        (some (.of (.ofConfig config) x.header), ⟨some x.header.key⟩) := if_neg hkey
    rw [hpoll]
    generalize hfound : Report.of (.ofConfig config) x.header = found
    have hthis : found.key = x.header.key := by rw [← hfound]; rfl
    have hother {last : Report} (hlast : (prints looks).getLast? = some last) :
        last.key ≠ found.key := by
      rw [htold.last, hlast] at hkey
      rw [hthis]
      exact fun heq => hkey (congrArg some heq)
    have hprints : prints (looks ++ [⟨x.header, found, some found⟩]) = prints looks ++ [found] :=
      prints_concat ..
    refine ⟨htold.candid.concat ?_, ?_, ?_, ?_, ?_⟩
    · rw [if_neg fun heq => hother heq rfl]
    all_goals rw [hprints]
    · rw [List.getLast?_concat, ← hthis]
      rfl
    · rw [List.getLast?_concat]
      rintro r hmem last ⟨⟩
      rw [hthis]
      rcases List.mem_append.mp hmem with hearlier | hnow
      · exact .of_last hnodup hend (htold.mem hearlier)
      · rw [List.mem_singleton.mp hnow, hthis]
        exact .refl (List.mem_of_getLast? hend)
    · rw [List.map_append, List.nodup_append]
      refine ⟨htold.keys, List.nodup_singleton _, ?_⟩
      intro key hmem other hnow heq
      obtain ⟨r, hr, hsame⟩ := List.mem_map.mp hmem
      have hreturns : r.key = x.header.key := by
        rw [hsame, heq, List.mem_singleton.mp hnow, hthis]
      -- the key would have come back after the one that was printed last
      have hlast := List.getLast?_eq_some_getLast (List.ne_nil_of_mem hr)
      have hforth := htold.order r hr _ hlast
      rw [hreturns] at hforth
      exact hother hlast ((hforth.antisymm (.of_last hnodup hend hforth.2.1)).symm.trans hthis.symm)
    · rw [List.getLast?_concat]
      rintro last ⟨⟩
      exact .inr fun _ => hfound

end Told

/-- In sessions that are fresh and not too long, what was printed fits to what has happened. -/
theorem Watching.told {config : RegionConfig} {host : Host} {seat : Nat} {deeds : List Deed}
    {looks : List Look} {s : System} {t : InspectTool} {x : Exchange}
    (hwatching : Watching config host seat deeds looks s t x)
    (hfresh : FreshSessions (.start (.ofConfig config) host) deeds)
    (hunwrapped : Unwrapped deeds) : Told config host deeds looks t x := by
  have hnodup {deeds : List Deed} {x : Exchange}
      (hcourse : Course (.start (.ofConfig config) host) deeds x)
      (hfresh : FreshSessions (.start (.ofConfig config) host) deeds)
      (hunwrapped : Unwrapped deeds) :
      (chronicle (.start (.ofConfig config) host) deeds).Nodup :=
    (hcourse.timeline hfresh hunwrapped).nodup
  induction hwatching with
  | started hstart => exact .start (InspectTool.start_ok hstart).1
  | @meanwhile deeds _ _ _ _ d hbefore hentry _ _ ih =>
    have hmore : Course d.before ([] ++ [d]) d.after := Course.snoc_iff.mpr ⟨.nil, hentry, rfl⟩
    have hcourse := Course.snoc_iff.mpr ⟨hbefore.course, hentry, rfl⟩
    exact (ih hfresh.append_left hunwrapped.append_left).advance hbefore.course hmore
      (hnodup hcourse hfresh hunwrapped)
  | looked hbefore halive hpoll hplay ih =>
    obtain ⟨hseated, hnames⟩ := hbefore.seated
    obtain ⟨hpolls, rfl, rfl⟩ := hseated.polled halive hpoll hplay
    have hcourse := (Watching.looked hbefore halive hpoll hplay).course
    have htold := (ih hfresh.append_left hunwrapped.append_left).advance hbefore.course
      (.of_run (Run.of_play hplay)) (hnodup hcourse hfresh hunwrapped)
    rw [hnames]
    refine htold.look hcourse (hnodup hcourse hfresh hunwrapped) ?_
    rw [hpolls.free]
    decide

/-! ## All looks -/

/-- In one of these steps the reader of the tool has copied the header of the look out of the
region, under the lock, and the report of the look says what is in it. -/
structure Look.Reads (look : Look) (names : RegionNames) (seat : Nat) (deeds : List Deed) :
    Prop where
  copied : ∃ d ∈ deeds, d.move = .call seat .metadata ∧ d.answer = .header look.header ∧
    d.before.header = look.header ∧ d.before.mutex.holding = .held d.thread
  depicts : look.found.Depicts names look.header

/-- Later steps do not change what was read. -/
theorem Look.Reads.append {look : Look} {names : RegionNames} {seat : Nat} {deeds : List Deed}
    (hreads : look.Reads names seat deeds) (more : List Deed) :
    look.Reads names seat (deeds ++ more) := by
  obtain ⟨⟨d, hmem, hcopied⟩, hdepicts⟩ := hreads
  exact ⟨⟨d, List.mem_append_left more hmem, hcopied⟩, hdepicts⟩

/-- Every look has read the header. -/
theorem Watching.reads {config : RegionConfig} {host : Host} {seat : Nat} {deeds : List Deed}
    {looks : List Look} {s : System} {t : InspectTool} {x : Exchange}
    (hwatching : Watching config host seat deeds looks s t x) :
    ∀ look ∈ looks, look.Reads (.ofConfig config) seat deeds := by
  induction hwatching with
  | started => exact fun look hmem => absurd hmem List.not_mem_nil
  | meanwhile _ _ _ _ ih => exact fun look hmem => (ih look hmem).append _
  | looked hbefore halive hpoll hplay ih =>
    obtain ⟨hseated, hnames⟩ := hbefore.seated
    obtain ⟨hpolls, -, -⟩ := hseated.polled halive hpoll hplay
    intro look hmem
    rcases List.mem_append.mp hmem with hearlier | hnow
    · exact (ih look hearlier).append _
    · obtain ⟨d, hd, hcopied⟩ := hpolls.copied
      rw [List.mem_singleton.mp hnow, hnames]
      exact ⟨⟨d, List.mem_append_right _ hd, hcopied⟩, Report.depicts _ _⟩

/-- What a tool prints that goes on looking. -/
structure Faithful (names : RegionNames) (seat : Nat) (deeds : List Deed) (looks : List Look)
    (s : System) (t : InspectTool) (x : Exchange) : Prop where
  /-- Each look has read what was in the region, and its report says so. -/
  polled : ∀ look ∈ looks, look.Reads names seat deeds
  /-- So does what it has printed. -/
  printed : ∀ look ∈ looks, ∀ r, look.printed = some r → r.Depicts names look.header
  /-- The reports that are printed are those that were found, each one that is equal to the one
  before it left out. -/
  exact : prints looks = (looks.map Look.found).destutter (· ≠ ·)
  /-- The first look is always printed. -/
  first : ∀ look later, looks = look :: later → look.printed = some look.found
  /-- A look is left out exactly when everything that it has found is as it was printed last, -/
  candid : Candid looks
  /-- which is when what was printed last says what is in the region now. -/
  omitted : ∀ earlier look later, looks = earlier ++ look :: later → (look.printed = none ↔
    ∃ last, (prints earlier).getLast? = some last ∧ last.Depicts names look.header)
  /-- No report is printed twice. -/
  once : (prints looks).Nodup
  /-- A living thread can look again, unless a living thread has the lock. -/
  again : ∀ caller, caller ∉ x.dead → x.Unowned → ∃ printed t' s' more y,
    t.poll s caller = (.ok printed, t', s') ∧
    x.play (InspectTool.steps seat caller s'.host) = some (more, y)
  /-- If another thread has the lock, the look waits. -/
  waits : ∀ caller owner, x.mutex.holding = .held owner → owner ≠ caller →
    (t.poll s caller).1 = .error .blocked

/-- Whatever happens on the region between two looks, a tool misses nothing that it sees and repeats
nothing. -/
theorem Watching.faithful {config : RegionConfig} {host : Host} {seat : Nat} {deeds : List Deed}
    {looks : List Look} {s : System} {t : InspectTool} {x : Exchange}
    (hwatching : Watching config host seat deeds looks s t x)
    (hfresh : FreshSessions (.start (.ofConfig config) host) deeds)
    (hunwrapped : Unwrapped deeds) : Faithful (.ofConfig config) seat deeds looks s t x := by
  have htold := hwatching.told hfresh hunwrapped
  have hseated := hwatching.seated.1
  have hreads := hwatching.reads
  constructor
  case polled => exact hreads
  case printed =>
    intro look hmem r hprinted
    obtain ⟨earlier, later, rfl⟩ := List.append_of_mem hmem
    have hlook := htold.candid earlier look later rfl
    rw [hprinted] at hlook
    split at hlook
    · cases hlook
    · rw [Option.some.inj hlook]
      exact (hreads look hmem).depicts
  case exact => exact htold.candid.prints_eq
  case first =>
    rintro look later rfl
    exact htold.candid [] look later rfl
  case candid => exact htold.candid
  case omitted =>
    rintro earlier look later rfl
    have hfound := (hreads look (List.mem_append_right _ List.mem_cons_self)).depicts
    rw [htold.candid earlier look later rfl]
    constructor
    · intro hnone
      split at hnone
      · next hlast => exact ⟨look.found, hlast, hfound⟩
      · cases hnone
    · rintro ⟨last, hlast, hdepicts⟩
      rw [hlast, hdepicts.unique hfound, if_pos rfl]
  case once => exact htold.keys.of_map
  case again =>
    intro caller halive hunowned
    obtain ⟨s', more, y, hpolls⟩ := hseated.polls halive hunowned
    exact ⟨_, _, s', more, y, hpolls.result, hpolls.played⟩
  case waits =>
    intro caller owner hheld hother
    obtain ⟨failure, hpoll, hblocked⟩ := hseated.waits caller hheld
    rw [hpoll, hblocked (by simp [Mutex.knowsOwner, hheld, hother])]

/-! ## Looks that are played -/

/-- A tool at work, with all that has happened. -/
structure Scene where
  deeds : List Deed
  looks : List Look
  system : System
  tool : InspectTool
  exchange : Exchange

/-- What can be next. -/
inductive Turn where
  | step (thread : Thread) (move : Move)
  /-- The owner of the lock dies in the middle of a call, and leaves these bytes. -/
  | torn (thread : Thread) (memory : Bytes)
  | look (caller : Thread)

namespace Scene

/-- A scene in which everything has happened by the rules. -/
def Real (config : RegionConfig) (host : Host) (seat : Nat) (scene : Scene) : Prop :=
  Watching config host seat scene.deeds scene.looks scene.system scene.tool scene.exchange

/-- The scene after something that does not concern the tool. -/
def after (seat : Nat) (scene : Scene) (d : Deed) : Option Scene :=
  if d.after.names = scene.tool.region.names ∧
      d.after.clients.get? seat = d.before.clients.get? seat then
    some { scene with
      deeds := scene.deeds ++ [d]
      system := scene.system.leave scene.tool.region
        (d.after.site d.thread scene.tool.region.book)
      exchange := d.after }
  else none

/-- The next scene, if there is one. -/
def next (seat : Nat) (scene : Scene) : Turn → Option Scene
  | .step thread move =>
    match scene.exchange.step thread move with
    | none => none
    | some (answer, y) => scene.after seat ⟨scene.exchange, thread, move, answer, y⟩
  | .torn thread memory =>
    if thread ∉ scene.exchange.dead ∧ scene.exchange.mutex.holding = .held thread ∧
        memory.length = scene.exchange.memory.length then
      scene.after seat ⟨scene.exchange, thread, .die, .done,
        scene.exchange.broken thread memory scene.exchange.host⟩
    else none
  | .look caller =>
    match scene.tool.poll scene.system caller with
    | (.error _, _, _) => none
    | (.ok printed, tool, system) =>
      match scene.exchange.play (InspectTool.steps seat caller system.host) with
      | none => none
      | some (more, y) =>
        if caller ∈ scene.exchange.dead then none
        else some
          { deeds := scene.deeds ++ more
            looks := scene.looks ++
              [⟨y.header, Report.of scene.tool.region.names y.header, printed⟩]
            system, tool, exchange := y }

variable {config : RegionConfig} {host : Host} {seat : Nat} {scene scene' : Scene}

theorem Real.after {d : Deed} (hreal : scene.Real config host seat)
    (hbefore : d.before = scene.exchange) (hentry : d.Valid ∨ d.Dies)
    (hafter : scene.after seat d = some scene') : scene'.Real config host seat := by
  unfold Scene.after at hafter
  split at hafter
  · next hsame =>
    cases hafter
    rw [Real, ← hbefore] at hreal
    refine .meanwhile hreal hentry hsame.2 ?_
    -- other files are of no interest, so any system will do in which this region looks like that
    have hleave := System.exchange_leave (s := scene.system) d.after.clients d.after.dead
      hreal.seated.1.files (d.after.site d.thread scene.tool.region.book)
    rw [hleave]
    unfold System.exchange Exchange.leave
    rw [← hsame.1]
    rfl
  · cases hafter

/-- Whatever comes next is by the rules. -/
theorem Real.next {turn : Turn} (hreal : scene.Real config host seat)
    (hnext : scene.next seat turn = some scene') : scene'.Real config host seat := by
  cases turn with
  | step thread move =>
    dsimp only [Scene.next] at hnext
    split at hnext
    · cases hnext
    · next answer y hstep =>
      exact hreal.after (d := ⟨scene.exchange, thread, move, answer, y⟩) rfl (.inl hstep) hnext
  | torn thread memory =>
    dsimp only [Scene.next] at hnext
    split at hnext
    · next htorn =>
      obtain ⟨halive, hheld, hlength⟩ := htorn
      exact hreal.after rfl
        (.inr ⟨rfl, rfl, .alone memory scene.exchange.host halive (.inl hheld) hlength⟩) hnext
    · cases hnext
  | look caller =>
    dsimp only [Scene.next] at hnext
    split at hnext
    · cases hnext
    · next hpoll =>
      split at hnext
      · cases hnext
      · next hplay =>
        split at hnext
        · cases hnext
        · next halive =>
          cases hnext
          exact .looked hreal halive hpoll hplay

/-- So are all turns one after the other. -/
theorem Real.turns {turns : List Turn} (hreal : scene.Real config host seat)
    (hturns : turns.foldlM (Scene.next seat) scene = some scene') :
    scene'.Real config host seat := by
  induction turns generalizing scene with
  | nil =>
    cases hturns
    exact hreal
  | cons turn turns ih =>
    obtain ⟨between, hnext, hrest⟩ := Option.bind_eq_some_iff.mp hturns
    exact ih (hreal.next hnext) hrest

/-- Where the names of a region stand for nothing, a tool makes the region and opens its reader
there. -/
theorem real_start {s : System} {config : RegionConfig} {mapping lock : String} (seat : Nat)
    (caller : Thread) (hmapping : osName (RegionNames.ofConfig config).mapping = .ok mapping)
    (hlock : osName (RegionNames.ofConfig config).lock = .ok lock) (hother : mapping ≠ lock)
    (hnomapping : s.store.entries.get? mapping = none)
    (hnolock : s.store.entries.get? lock = none) : ∃ t s' deeds x,
    InspectTool.start s config = (.ok t, s') ∧
    (Exchange.start (.ofConfig config) s.host).play [(caller, .openReader seat),
      (caller, .elapse s.host.processes s.host.clock s.host.opened s.host.events)] =
      some (deeds, x) ∧
    Real config s.host seat ⟨deeds, [], s', t, x⟩ := by
  have hopened : ∃ r s', s.attach config .reader = (.ok r, s') ∧ r.mapping ≠ r.lock ∧
      r.book = .fresh .reader ∧ s'.exchange r ∅ [] = .start (.ofConfig config) s.host :=
    System.attach_fresh hmapping hlock hother hnomapping hnolock
  obtain ⟨r, s', hattach, hfiles, -, hexchange⟩ := hopened
  have hstart : InspectTool.start s config = (.ok ⟨r, .start⟩,
      { s' with host := { s'.host with events := s.host.events } }) := by
    unfold InspectTool.start InspectTool.silently
    simp only [hattach]
  have hplay : (Exchange.start (.ofConfig config) s.host).play [(caller, .openReader seat),
      (caller, .elapse s.host.processes s.host.clock s.host.opened s.host.events)] =
      some (_, (Exchange.start (.ofConfig config) s.host).put seat InspectTool.resting) := rfl
  refine ⟨_, _, _, _, hstart, hplay, .started hstart hfiles (.of_run (Run.of_play hplay)) ?_ ?_⟩
  · exact (Table.get?_insert ..).trans (if_pos rfl)
  · obtain ⟨hnames, hmemory, hmutex, hhost, -, -⟩ := (Exchange.mk.injEq ..).mp hexchange
    unfold System.exchange
    rw [hnames, hmemory, hmutex, show s'.host = s.host from hhost]
    rfl

end Scene

/-- A tool looks at a region before and after a writer comes, twice each time, and after a frame.
Then the writer begins another frame and dies with the lock, and leaves a header with more layers
than fit. The tool looks twice again. -/
def Scene.sampleTurns : List Turn :=
  let look : Turn := .look ⟨9, 0⟩
  let writer : Thread := ⟨7, 0⟩
  [look, look, .step writer (.openWriter 1 5), look, look] ++
    (Exchange.turn writer 1).map (fun entry => .step entry.1 entry.2) ++
    [look, .step writer (.call 1 (.lock .blocking)), .step writer (.call 1 .beginFrame),
      .torn writer (Header.codec.encode (.forged 1 200)), look, look]

/-- Before there was any region. -/
def Scene.sampleSystem : System := ⟨.empty, Exchange.sample.host⟩

/-- All of it, from the start of the tool. -/
def Scene.sample : Option Scene :=
  let host := sampleSystem.host
  match InspectTool.start sampleSystem .default with
  | (.ok t, s) =>
    ((Exchange.start (.ofConfig .default) host).play [(⟨9, 0⟩, .openReader 0),
      (⟨9, 0⟩, .elapse host.processes host.clock host.opened host.events)]).bind fun (deeds, x) =>
        sampleTurns.foldlM (Scene.next 0) ⟨deeds, [], s, t, x⟩
  | (.error _, _) => none

/-- Four of the seven looks are printed. -/
theorem Watching.faithful_torn : ∃ deeds looks s t x,
    Watching .default Exchange.sample.host 0 deeds looks s t x ∧
    FreshSessions (.start (.ofConfig .default) Exchange.sample.host) deeds ∧ Unwrapped deeds ∧
    looks.map (fun look => look.printed.isSome) = [true, false, true, false, true, true, false] ∧
    (prints looks).map
        (fun r => [r.attached.toNat, r.gpu.toNat, r.feederPid.toNat, r.layers.length]) =
      [[0, 0, 0, 0], [0, 5, 0, 0], [1, 5, 7, 1], [0, 5, 0, 0]] ∧
    Faithful (.ofConfig .default) 0 deeds looks s t x := by
  have hplayed : Scene.sample.map (fun scene =>
      (decide (FreshSessions (.start (.ofConfig .default) Exchange.sample.host) scene.deeds),
        scene.deeds.length, scene.looks.map fun look => look.printed.isSome,
        (prints scene.looks).map fun r =>
          [r.attached.toNat, r.gpu.toNat, r.feederPid.toNat, r.layers.length])) =
      some (true, 38, [true, false, true, false, true, true, false],
        [[0, 0, 0, 0], [0, 5, 0, 0], [1, 5, 7, 1], [0, 5, 0, 0]]) := by
    decide +kernel
  have hmapping : osName (RegionNames.ofConfig .default).mapping =
      .ok "/com.framefeed.overlay_0.2.0.0-s580" := by
    decide +kernel
  have hlock : osName (RegionNames.ofConfig .default).lock =
      .ok "/com.framefeed.overlay_0.2.0.0-s580.mutex" := by
    decide +kernel
  obtain ⟨t₀, s₀, first, x₀, hstart, hplay, hreal⟩ := Scene.real_start (s := Scene.sampleSystem) 0
    ⟨9, 0⟩ hmapping hlock (by decide) rfl rfl
  obtain ⟨scene, hscene, hfacts⟩ := Option.map_eq_some_iff.mp hplayed
  obtain ⟨hfresh, hfacts⟩ := Prod.mk.inj hfacts
  obtain ⟨hcount, hfacts⟩ := Prod.mk.inj hfacts
  obtain ⟨hprinted, hreports⟩ := Prod.mk.inj hfacts
  have hturns : Scene.sampleTurns.foldlM (Scene.next 0) ⟨first, [], s₀, t₀, x₀⟩ = some scene := by
    unfold Scene.sample at hscene
    rw [hstart] at hscene
    dsimp only at hscene
    rw [hplay] at hscene
    exact hscene
  have hwatching : Watching .default Exchange.sample.host 0 scene.deeds scene.looks scene.system
    scene.tool scene.exchange := hreal.turns hturns
  have hfresh := of_decide_eq_true hfresh
  have hunwrapped := unwrapped_of_length (by rw [hcount]; decide)
  exact ⟨scene.deeds, scene.looks, scene.system, scene.tool, scene.exchange, hwatching, hfresh,
    hunwrapped, hprinted, hreports, Watching.faithful hwatching hfresh hunwrapped⟩

end FrameExchange
