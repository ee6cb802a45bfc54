import FrameExchange.Header
import Mathlib.Data.List.Basic
import Mathlib.Data.List.Chain

/-!
# Keys in the order of their frames

A list of keys in which sessions follow one another: a session begins with number zero, its frames
are counted one by one, and no key comes twice.

- `FrameKey.Next`, `FrameKey.Rises`, `Timeline` — such lists.
- `Timeline.frame`, `Timeline.start` — they are continued by a frame, and by a session.
- `InOrder` — one key comes before another, or they are the same.
-/

namespace FrameExchange

/-- One key comes right after another: it is of the next frame of the session, or another session
begins. -/
def FrameKey.Next (key next : FrameKey) : Prop :=
  next.session = key.session ∧ next.frame.toNat = key.frame.toNat + 1 ∨
    next.session ≠ key.session ∧ next.frame = 0

/-- In a session the numbers rise. -/
def FrameKey.Rises (key later : FrameKey) : Prop :=
  later.session = key.session → key.frame < later.frame

/-- Keys one after the other, in the order of their frames. -/
structure Timeline (keys : List FrameKey) : Prop where
  chain : keys.IsChain FrameKey.Next
  rising : keys.Pairwise FrameKey.Rises

namespace Timeline

variable {keys front : List FrameKey} {last key next : FrameKey} {sessions : List UInt64}
  {session : UInt64}

theorem singleton (key : FrameKey) : Timeline [key] :=
  ⟨List.isChain_singleton key, List.pairwise_singleton _ key⟩

/-- No key comes twice. -/
theorem nodup (htimeline : Timeline keys) : keys.Nodup := by
  refine htimeline.rising.imp fun {key later} hrises heq => ?_
  subst heq
  exact absurd (hrises rfl) (UInt64.lt_irrefl _)

theorem concat (htimeline : Timeline keys)
    (hlast : ∀ last, keys.getLast? = some last → last.Next next)
    (hrising : ∀ key ∈ keys, key.Rises next) : Timeline (keys ++ [next]) := by
  constructor
  case chain =>
    refine List.isChain_append.mpr ⟨htimeline.chain, List.isChain_singleton next, ?_⟩
    intro last hmem first hfirst
    cases hfirst
    exact hlast last hmem
  case rising =>
    refine List.pairwise_append.mpr ⟨htimeline.rising, List.pairwise_singleton _ next, ?_⟩
    intro key hmem other hother
    rw [List.mem_singleton.mp hother]
    exact hrising key hmem

/-- In its session the last key has the largest number. -/
theorem le_last (htimeline : Timeline keys) (hlast : keys.getLast? = some last) (hmem : key ∈ keys)
    (hsession : last.session = key.session) : key.frame ≤ last.frame := by
  obtain ⟨front, rfl⟩ := List.getLast?_eq_some_iff.mp hlast
  rcases List.mem_append.mp hmem with hfront | hsame
  · have hrises := (List.pairwise_append.mp htimeline.rising).2.2 key hfront last
      (List.mem_singleton.mpr rfl)
    exact UInt64.le_of_lt (hrises hsession)
  · rw [List.mem_singleton.mp hsame]
    exact UInt64.le_refl _

/-- The next frame of the session. -/
theorem frame (htimeline : Timeline keys) (hlast : keys.getLast? = some last)
    (hsession : next.session = last.session) (hframe : next.frame.toNat = last.frame.toNat + 1) :
    Timeline (keys ++ [next]) := by
  refine htimeline.concat (fun other hother => ?_) fun key hmem hsame => ?_
  · rw [hlast] at hother
    cases hother
    exact .inl ⟨hsession, hframe⟩
  · have hle := htimeline.le_last hlast hmem (hsession.symm.trans hsame)
    rw [UInt64.le_iff_toNat_le] at hle
    rw [UInt64.lt_iff_toNat_lt]
    omega

/-- A session that was not there begins. -/
theorem start (htimeline : Timeline keys) (hfresh : ∀ key ∈ keys, key.session ≠ session) :
    Timeline (keys ++ [⟨session, 0⟩]) := by
  refine htimeline.concat (fun last hlast => ?_) fun key hmem hsame => ?_
  · exact .inr ⟨(hfresh last (List.mem_of_getLast? hlast)).symm, rfl⟩
  · exact absurd hsame.symm (hfresh key hmem)

/-- Sessions that were not there begin one after the other. -/
theorem starts (htimeline : Timeline keys) (hnodup : sessions.Nodup)
    (hfresh : ∀ key ∈ keys, key.session ∉ sessions) :
    Timeline (keys ++ sessions.map (⟨·, 0⟩)) := by
  induction sessions generalizing keys with
  | nil =>
    rw [List.map_nil, List.append_nil]
    exact htimeline
  | cons session sessions ih =>
    obtain ⟨hnot, hnodup⟩ := List.nodup_cons.mp hnodup
    have hstart := htimeline.start fun key hmem heq =>
      hfresh key hmem (heq ▸ List.mem_cons_self ..)
    rw [List.map_cons, List.append_cons]
    refine ih hstart hnodup fun key hmem => ?_
    rcases List.mem_append.mp hmem with hmem | hmem
    · exact fun hagain => hfresh key hmem (List.mem_cons_of_mem _ hagain)
    · rw [List.mem_singleton.mp hmem]
      exact hnot

end Timeline

/-! ## Order -/

/-- The first key comes before the second one, or they are the same. -/
def InOrder (keys : List FrameKey) (first second : FrameKey) : Prop :=
  first ∈ keys ∧ second ∈ keys ∧ keys.idxOf first ≤ keys.idxOf second

namespace InOrder

variable {keys more : List FrameKey} {first second : FrameKey}

theorem refl (hmem : first ∈ keys) : InOrder keys first first := ⟨hmem, hmem, Nat.le_refl _⟩

/-- Two keys that come before each other are the same. -/
theorem antisymm (hforth : InOrder keys first second) (hback : InOrder keys second first) :
    first = second :=
  (List.idxOf_inj hforth.1).mp (Nat.le_antisymm hforth.2.2 hback.2.2)

/-- Keys that come later do not matter. -/
theorem append (h : InOrder keys first second) : InOrder (keys ++ more) first second := by
  obtain ⟨hfirst, hsecond, hle⟩ := h
  refine ⟨List.mem_append_left _ hfirst, List.mem_append_left _ hsecond, ?_⟩
  rw [List.idxOf_append_of_mem hfirst, List.idxOf_append_of_mem hsecond]
  exact hle

/-- Of keys that come only once the last one is after all others. -/
theorem of_last {last : FrameKey} (hnodup : keys.Nodup) (hlast : keys.getLast? = some last)
    (hmem : first ∈ keys) :
    InOrder keys first last := by
  refine ⟨hmem, List.mem_of_getLast? hlast, ?_⟩
  obtain ⟨front, rfl⟩ := List.getLast?_eq_some_iff.mp hlast
  have hnot : last ∉ front := fun hfront =>
    (List.nodup_append.mp hnodup).2.2 last hfront last (List.mem_singleton.mpr rfl) rfl
  rw [List.idxOf_append_of_notMem hnot, List.idxOf_cons_self]
  have hlt := List.idxOf_lt_length_of_mem hmem
  rw [List.length_append, List.length_singleton] at hlt
  omega

end InOrder

end FrameExchange
