import FrameExchange.Proofs.Capturing

/-!
# The ring of textures

A cached reader copies its pictures into the places of a ring, one after the other. A place that is
written next holds none of the pictures that are still in use, however reads end in between: what
fails, what has no pixels and what is shown again does not move the ring on.

- `Snapshot.pictures` — the distinct snapshots with a texture that were shown, the latest first.
- `CachedReader.Placed` — the texture for the next copy, and what becomes of the ring.
- `CachedReader.Turns` — everything that can become of a ring in a read.
- `CachedReader.Loop` — a ring since it was set up, with everything that was shown.
- `CachedReader.Wound` — the pictures lie behind the place of the next copy, in the order in which
  they were shown (`CachedReader.Loop.wound`).
- `CachedReader.Loop.sparesPictures` — what the next read does to textures, ring and place.
-/

namespace FrameExchange

/-! ## Pictures -/

namespace Snapshot

/-- The distinct snapshots with a texture among those that were shown, the latest first. One that
was shown again is where it was shown last. -/
def pictures : List Snapshot → List Snapshot
  | [] => []
  | s :: shown => if s.hasTexture then s :: (pictures shown).filter (· ≠ s) else pictures shown

theorem pictures_of_hasTexture {s : Snapshot} (shown : List Snapshot)
    (htexture : s.hasTexture = true) :
    pictures (s :: shown) = s :: (pictures shown).filter (· ≠ s) := if_pos htexture

/-- What has no texture is no picture. -/
theorem pictures_skip {s : Snapshot} (shown : List Snapshot) (htexture : s.hasTexture = false) :
    pictures (s :: shown) = pictures shown := if_neg (by rw [htexture]; decide)

theorem nodup_pictures (shown : List Snapshot) : (pictures shown).Nodup := by
  induction shown with
  | nil => exact List.nodup_nil
  | cons s shown ih =>
    cases htexture : s.hasTexture with
    | true =>
      rw [pictures_of_hasTexture shown htexture]
      exact List.nodup_cons.mpr ⟨fun hmem => by simp at hmem, ih.filter _⟩
    | false =>
      rw [pictures_skip shown htexture]
      exact ih

/-- To show the latest picture again makes no other picture. -/
theorem pictures_again {s : Snapshot} {shown : List Snapshot} (htexture : s.hasTexture = true)
    (hlatest : (pictures shown).head? = some s) : pictures (s :: shown) = pictures shown := by
  rw [pictures_of_hasTexture shown htexture]
  have hnodup := nodup_pictures shown
  cases hpictures : pictures shown with
  | nil =>
    rw [hpictures] at hlatest
    cases hlatest
  | cons first rest =>
    rw [hpictures] at hlatest hnodup
    cases hlatest
    have hnew : ∀ p ∈ rest, p ≠ s := fun p hp heq =>
      (List.nodup_cons.mp hnodup).1 (heq ▸ hp)
    rw [List.filter_cons_of_neg (by simp),
      List.filter_eq_self.mpr fun p hp => decide_eq_true (hnew p hp)]

end Snapshot

/-- Where everything up to some place passes a test, leaving out the rest changes nothing there. -/
theorem getElem?_filter_of_prefix {α : Type} {p : α → Bool} {l : List α} {k : Nat}
    (hpass : ∀ j a, j ≤ k → l[j]? = some a → p a = true) : (l.filter p)[k]? = l[k]? := by
  induction l generalizing k with
  | nil => rfl
  | cons b rest ih =>
    have hfirst : p b = true := hpass 0 b (Nat.zero_le k) rfl
    rw [List.filter_cons_of_pos hfirst]
    cases k with
    | zero => rfl
    | succ k =>
      rw [List.getElem?_cons_succ, List.getElem?_cons_succ]
      exact ih fun j a hj ha => hpass (j + 1) a (Nat.succ_le_succ hj) ha

/-! ## Textures of a copier -/

namespace Copier

variable {c c' : Copier} {id index : Nat} {size : PixelSize}

/-- Textures are numbered from one in the order in which they were made. -/
def Numbered (c : Copier) : Prop := ∀ i t, c.textures[i]? = some t → t.id = i + 1

/-- A texture with this number was made for this place, with this size. -/
def Has (c : Copier) (id index : Nat) (size : PixelSize) : Prop :=
  ∃ t ∈ c.textures, t.id = id ∧ t.index = index ∧ t.size = size

/-- A texture was made for one place, with one size. -/
theorem Has.unique (hnumbered : c.Numbered) {index' : Nat} {size' : PixelSize}
    (h : c.Has id index size) (h' : c.Has id index' size') : index = index' ∧ size = size' := by
  obtain ⟨t, hmem, hid, hindex, hsize⟩ := h
  obtain ⟨t', hmem', hid', hindex', hsize'⟩ := h'
  obtain ⟨i, hi⟩ := List.getElem?_of_mem hmem
  obtain ⟨i', hi'⟩ := List.getElem?_of_mem hmem'
  have hsame : i = i' := by
    have := hnumbered i t hi
    have := hnumbered i' t' hi'
    omega
  subst hsame
  cases hi.symm.trans hi'
  exact ⟨hindex.symm.trans hindex', hsize.symm.trans hsize'⟩

/-- The copier after another texture was made. -/
def made (c : Copier) (index : Nat) (size : PixelSize) : Copier :=
  { c with
    calls := c.calls ++ [.create index size]
    textures := c.textures ++ [⟨c.textures.length + 1, index, size, none⟩] }

theorem create_ok (index : Nat) (size : PixelSize) (hfault : c.createFault = none) :
    c.create index size = (.ok (c.textures.length + 1), c.made index size) := by
  obtain ⟨createFault, copyFault, textures, calls⟩ := c
  cases hfault
  rfl

theorem create_error (index : Nat) (size : PixelSize) {fault : CopyFault}
    (hfault : c.createFault = some fault) : c.create index size =
      (.error fault, { c with calls := c.calls ++ [.create index size] }) := by
  obtain ⟨createFault, copyFault, textures, calls⟩ := c
  cases hfault
  rfl

theorem Numbered.made (hnumbered : c.Numbered) (index : Nat) (size : PixelSize) :
    (c.made index size).Numbered := by
  intro i t hi
  rcases Nat.lt_or_ge i c.textures.length with hold | hnew
  · refine hnumbered i t ?_
    rw [← hi]
    exact (List.getElem?_append_left hold).symm
  · have hlast : ([⟨c.textures.length + 1, index, size, none⟩] : List Texture)[
        i - c.textures.length]? = some t := (List.getElem?_append_right hnew).symm.trans hi
    rw [List.getElem?_singleton] at hlast
    split at hlast
    · cases hlast
      show c.textures.length + 1 = i + 1
      omega
    · cases hlast

theorem has_made (c : Copier) (index : Nat) (size : PixelSize) :
    (c.made index size).Has (c.textures.length + 1) index size :=
  ⟨_, List.mem_append_right _ List.mem_cons_self, rfl, rfl, rfl⟩

theorem Has.made (h : c.Has id index size) (index' : Nat) (size' : PixelSize) :
    (c.made index' size').Has id index size := by
  obtain ⟨t, hmem, hfacts⟩ := h
  exact ⟨t, List.mem_append_left _ hmem, hfacts⟩

/-- The textures after a copy: those from before, as far as number, place and size go. -/
theorem textures_copy (c : Copier) (request : CopyRequest) : ∃ f : Texture → Texture,
    (c.copy request).2.textures = c.textures.map f ∧
      ∀ t, (f t).id = t.id ∧ (f t).index = t.index ∧ (f t).size = t.size := by
  have hwritten (t : Texture) :
      let t' := if t.id = request.target then { t with last := some request } else t
      t'.id = t.id ∧ t'.index = t.index ∧ t'.size = t.size := by
    by_cases htarget : t.id = request.target
    · rw [if_pos htarget]
      exact ⟨rfl, rfl, rfl⟩
    · rw [if_neg htarget]
      exact ⟨rfl, rfl, rfl⟩
  unfold copy
  cases c.copyFault with
  | none => exact ⟨_, rfl, hwritten⟩
  | some fault =>
    dsimp only
    split
    · exact ⟨_, rfl, hwritten⟩
    · exact ⟨id, (List.map_id _).symm, fun t => ⟨rfl, rfl, rfl⟩⟩

theorem Numbered.copy (hnumbered : c.Numbered) (request : CopyRequest) :
    (c.copy request).2.Numbered := by
  obtain ⟨f, htextures, hsame⟩ := c.textures_copy request
  intro i t hi
  rw [htextures, List.getElem?_map, Option.map_eq_some_iff] at hi
  obtain ⟨t', hi, rfl⟩ := hi
  rw [(hsame t').1]
  exact hnumbered i t' hi

theorem Has.copy (h : c.Has id index size) (request : CopyRequest) :
    (c.copy request).2.Has id index size := by
  obtain ⟨f, htextures, hsame⟩ := c.textures_copy request
  obtain ⟨t, hmem, hid, hindex, hsize⟩ := h
  obtain ⟨hid', hindex', hsize'⟩ := hsame t
  refine ⟨f t, ?_, hid'.trans hid, hindex'.trans hindex, hsize'.trans hsize⟩
  rw [htextures]
  exact List.mem_map_of_mem hmem

/-- What was made does not depend on faults and calls. -/
theorem Has.of_textures (h : c.Has id index size) (hsame : c'.textures = c.textures) :
    c'.Has id index size := by
  rw [Has, hsame]
  exact h

theorem Numbered.of_textures (h : c.Numbered) (hsame : c'.textures = c.textures) :
    c'.Numbered := by
  rw [Numbered, hsame]
  exact h

end Copier

namespace CachedReader

open Act Reader

/-! ## The place of the next copy -/

/-- The texture in a place of a ring for frames of this size: the one that is there, or a new one
where there is none or one of another size. -/
inductive Placed (ring : List (Option RingTexture)) (index : Nat) (size : PixelSize)
    (copier : Copier) : Except CopyFault Nat → List (Option RingTexture) → Copier → Prop where
  | found {texture : Nat} : ring[index]? = some (some ⟨size, texture⟩) →
      Placed ring index size copier (.ok texture) ring copier
  | made : (∀ held, ring[index]? = some (some held) → held.size ≠ size) →
      copier.createFault = none →
      Placed ring index size copier (.ok (copier.textures.length + 1))
        (ring.set index (some ⟨size, copier.textures.length + 1⟩)) (copier.made index size)
  | refused {fault : CopyFault} :
      (∀ held, ring[index]? = some (some held) → held.size ≠ size) →
      copier.createFault = some fault →
      Placed ring index size copier (.error fault) ring
        { copier with calls := copier.calls ++ [.create index size] }

/-- In a place of the ring that a byte can count there is never another reason to have no texture
than that the copier makes none. -/
theorem placed {ring : List (Option RingTexture)} {index : Nat} (size : PixelSize)
    (copier : Copier) (hindex : index < ring.length) (hbyte : index ≤ 255) :
    Placed ring index size copier (place ring index size copier).1
      (place ring index size copier).2.1 (place ring index size copier).2.2 := by
  unfold place
  rw [List.getElem?_eq_getElem hindex]
  dsimp only
  cases hsame : ring[index].filter (·.size = size) with
  | some same =>
    obtain ⟨hheld, hsize⟩ := Option.filter_eq_some_iff.mp hsame
    refine .found ?_
    rw [List.getElem?_eq_getElem hindex, hheld, ← of_decide_eq_true hsize]
  | none =>
    have hother : ∀ held, ring[index]? = some (some held) → held.size ≠ size := by
      intro held hheld hsize
      rw [List.getElem?_eq_getElem hindex, Option.some.injEq] at hheld
      rw [hheld] at hsame
      simp [hsize] at hsame
    dsimp only
    rw [if_neg (Nat.not_lt.mpr hbyte)]
    cases hfault : copier.createFault with
    | some fault =>
      rw [Copier.create_error index size hfault]
      exact .refused hother hfault
    | none =>
      rw [Copier.create_ok index size hfault]
      exact .made hother hfault

/-! ## Reads -/

/-- What becomes of the ring where a header is made into a snapshot: one that has no pixels, or that
cannot be opened, asks for no texture; for any other one there is a place, and if there is a texture
in it, a copy. -/
inductive Fills (ring : List (Option RingTexture)) (next : Nat) (h : Header) (copier : Copier) :
    Snapshot → List (Option RingTexture) → Copier → Prop where
  | without {snapshot : Snapshot} : snapshot.hasTexture = false →
      Fills ring next h copier snapshot ring copier
  | noTexture {fault : CopyFault} {ring' : List (Option RingTexture)} {copier' : Copier} :
      place ring next h.config.textureSize copier = (.error fault, ring', copier') →
      Fills ring next h copier .ipcHandleError ring' copier'
  | copied {snapshot : Snapshot} {request : CopyRequest} {ring' : List (Option RingTexture)}
      {copier' : Copier} :
      place ring next h.config.textureSize copier = (.ok request.target, ring', copier') →
      snapshot = .withTexture h request.target ∨ snapshot = .ipcHandleError →
      Fills ring next h copier snapshot ring' (copier'.copy request).2

theorem fills (c : CachedReader) (h : Header) (copier : Copier) (s : Site) :
    ∃ snapshot reader ring copier' s', snapshot ≠ .empty ∧
      Fills c.ring c.next h copier snapshot ring copier' ∧
      c.resolve h copier s = .ok (snapshot, { c with reader, ring }, copier') s' := by
  have hprepares := c.reader.prepares c.gpu h s
  generalize hprepare : c.reader.prepare c.gpu h s = result at hprepares
  cases hprepares with
  | @settled snapshot r' s' hstill hresolves =>
    have hnothing := hresolves (fun copier => (.error (.notImported ""), copier)) copier
    refine ⟨snapshot, r', c.ring, copier, s', hnothing.ne_empty, .without ?_, ?_⟩
    · cases hnothing with
      | copied _ _ _ hdestination => cases hdestination
      | _ => rfl
    · rw [resolve, bind_ok hprepare]
      rfl
  | ready hgpu hlayers hhandles =>
    obtain ⟨snapshot, r', copier', s', -, hresolves, hfinish⟩ :=
      c.reader.finishes (c.destination h) copier s hgpu hlayers hhandles
    generalize hplace : place c.ring c.next h.config.textureSize copier = found
    obtain ⟨destination, ring, between⟩ := found
    have hdestination : c.destination h copier = (destination, between) := by
      show ((place c.ring c.next h.config.textureSize copier).1, _) = _
      rw [hplace]
    refine ⟨snapshot, r', ring, copier', s', hresolves.ne_empty, ?_, ?_⟩
    · cases hresolves with
      | incorrectGpu hother => exact absurd hgpu hother
      | noLayers _ hnone => exact absurd hnone hlayers
      | noHandles _ _ hfault => cases hfault.symm.trans hhandles
      | noDestination _ _ _ hfault =>
        cases hdestination.symm.trans hfault
        exact .noTexture hplace
      | @copied handles _ target _ _ _ _ _ _ hmade hcopy =>
        cases hdestination.symm.trans hmade
        have hcopied : Fills c.ring c.next h copier _ ring
            (between.copy (request handles h target)).2 :=
          .copied hplace (.inl rfl)
        rw [hcopy] at hcopied
        exact hcopied
      | @notCopied handles _ target _ _ _ _ _ _ hmade hcopy =>
        cases hdestination.symm.trans hmade
        have hcopied : Fills c.ring c.next h copier _ ring
            (between.copy (request handles h target)).2 :=
          .copied hplace (.inr rfl)
        rw [hcopy] at hcopied
        exact hcopied
    · rw [hdestination] at hfinish
      rw [resolve, bind_ok hprepare]
      dsimp only
      rw [hplace]
      exact bind_ok hfinish

/-- What becomes of a cached reader and its copier in a read that has copied this header, or
none. -/
inductive Turns (c : CachedReader) (found : Option Header) (copier : Copier) :
    Snapshot → CachedReader → Copier → Prop where
  | detached : Turns c found copier .empty { c with cache := .empty } copier
  | noRing : c.ring = [] → Turns c found copier .empty c copier
  | again (reader : Reader) : Turns c found copier c.cache { c with reader } copier
  | fresh {h : Header} {snapshot : Snapshot} (reader : Reader) {ring : List (Option RingTexture)}
      {copier' : Copier} : c.ring ≠ [] → found = some h →
      Fills c.ring c.next h copier snapshot ring copier' →
      Turns c found copier snapshot (c.after reader ring snapshot) copier'

variable {c c' : CachedReader} {copier copier' : Copier} {snapshot : Snapshot} {s s' : Site}

theorem look_turns (hring : c.ring ≠ [])
    (hlook : c.look copier s = .ok (snapshot, c', copier') s') :
    c.Turns (headerOf (Reader.header .attempt s)) copier snapshot c' copier' := by
  cases hcapture : c.reader.captureOrEmpty .attempt s with
  | error failure t =>
    rw [look, captureFrame, bind_error (bind_error hcapture)] at hlook
    cases hlook
  | ok caught t =>
    obtain ⟨capture, reader⟩ := caught
    have hnone (hno : ∀ h, capture ≠ .frame h) :
        c.Turns (headerOf (Reader.header .attempt s)) copier snapshot c' copier' := by
      rw [look, bind_ok (c.captureFrame_none hcapture hno)] at hlook
      cases hlook
      exact .again reader
    cases grasps hcapture with
    | nothing _ hno => exact hnone hno
    | useless => exact hnone fun h heq => by cases heq
    | @frame h t' hheader _ _ =>
      have hfound : headerOf (Reader.header .attempt s) = some h := by rw [hheader]; rfl
      obtain ⟨shown, reader', ring, copier'', u, hne, hfills, hresolve⟩ :=
        fills { c with reader := c.reader.follow h } h copier t
      obtain ⟨v, -, hsettle⟩ := settle_ok { c with reader := reader', ring } hne u
      rw [look, bind_ok (c.captureFrame_frame hcapture)] at hlook
      replace hlook : (resolve { c with reader := c.reader.follow h } h copier >>= _) t = _ := hlook
      rw [bind_ok hresolve] at hlook
      dsimp only at hlook
      rw [bind_ok hsettle] at hlook
      cases hlook
      have hfresh : c.Turns _ copier shown (c.after reader' ring shown) _ :=
        .fresh reader' hring hfound hfills
      exact hfresh

theorem get_turns (hget : c.get copier s = .ok (snapshot, c', copier') s') :
    c.Turns (c.copied s) copier snapshot c' copier' := by
  have hpeeks := c.peeks copier s
  generalize c.get copier s = result at hget hpeeks
  cases hpeeks with
  | detached =>
    cases hget
    exact .detached
  | noRing hring =>
    cases hget
    exact .noRing hring
  | hit =>
    cases hget
    exact .again c.reader
  | looks hfeeder hring hmiss =>
    rw [copied_eq hfeeder hring hmiss]
    exact look_turns hring hget

/-! ## One read, on a ring that was set up -/

/-- Every texture in a ring was made for its place, with the size that is written beside it. -/
def Filled (ring : List (Option RingTexture)) (copier : Copier) : Prop :=
  ∀ i held, ring[i]? = some (some held) → copier.Has held.texture i held.size

/-- The texture for the next copy is in its place, and everything else is as it was. -/
structure Fitted (ring : List (Option RingTexture)) (next : Nat) (size : PixelSize)
    (copier : Copier) (made : List CopierCall) (target : Nat)
    (ring' : List (Option RingTexture)) (copier' : Copier) : Prop where
  calls : copier'.calls = copier.calls ++ made
  /-- A texture is made only where there is none, or one of another size. -/
  created : ∀ call ∈ made, call = .create next size ∧ copier.createFault = none ∧
    ∀ held, ring[next]? = some (some held) → held.size ≠ size
  here : ring'[next]? = some (some ⟨size, target⟩)
  others : ∀ i, i ≠ next → ring'[i]? = ring[i]?
  length : ring'.length = ring.length
  numbered : copier.Numbered → copier'.Numbered
  kept : ∀ {id index : Nat} {size' : PixelSize}, copier.Has id index size' →
    copier'.Has id index size'
  filled : Filled ring copier → Filled ring' copier'

/-- Whatever is found or made for the next copy fits. -/
theorem Placed.fitted {ring ring' : List (Option RingTexture)} {next target : Nat}
    {size : PixelSize} (hnext : next < ring.length)
    (hplaced : Placed ring next size copier (.ok target) ring' copier') :
    ∃ made, Fitted ring next size copier made target ring' copier' := by
  cases hplaced with
  | found hfound =>
    exact ⟨[], (List.append_nil _).symm, fun call hmem => absurd hmem (by simp), hfound,
      fun _ _ => rfl, rfl, id, id, id⟩
  | made hother hfault =>
    refine ⟨[.create next size], rfl, fun call hmem => ?_, ?_, fun i hi => ?_, List.length_set,
      fun hnumbered => hnumbered.made next size, fun hhas => hhas.made next size,
      fun hfilled i held hheld => ?_⟩
    · exact ⟨List.mem_singleton.mp hmem, hfault, hother⟩
    · exact List.getElem?_set_self hnext
    · exact List.getElem?_set_ne (Ne.symm hi)
    · by_cases hi : next = i
      · subst hi
        rw [List.getElem?_set_self hnext] at hheld
        cases hheld
        exact copier.has_made next size
      · rw [List.getElem?_set_ne hi] at hheld
        exact (hfilled i held hheld).made next size

namespace Fitted

variable {ring ring' : List (Option RingTexture)} {next : Nat} {size : PixelSize}
  {made : List CopierCall} {request other : CopyRequest}

/-- The only copy is the one that the texture was made for. -/
theorem copy_eq (h : Fitted ring next size copier made request.target ring' copier')
    (hmem : .copy other ∈ made ++ [CopierCall.copy request]) : other = request := by
  rcases List.mem_append.mp hmem with hearlier | hlast
  · cases (h.created _ hearlier).1
  · cases List.mem_singleton.mp hlast
    rfl

/-- A texture is made for the next place, before the copy. -/
theorem create_eq (h : Fitted ring next size copier made request.target ring' copier')
    {index : Nat} {size' : PixelSize}
    (hmem : .create index size' ∈ made ++ [CopierCall.copy request]) :
    index = next ∧ size' = size ∧ copier.createFault = none ∧
      ∀ held, ring[next]? = some (some held) → held.size ≠ size := by
  rcases List.mem_append.mp hmem with hearlier | hlast
  · obtain ⟨heq, hrest⟩ := h.created _ hearlier
    cases heq
    exact ⟨rfl, rfl, hrest⟩
  · cases List.mem_singleton.mp hlast

theorem calls_copy (h : Fitted ring next size copier made request.target ring' copier') :
    (copier'.copy request).2.calls = copier.calls ++ (made ++ [.copy request]) := by
  rw [Copier.calls_copy, h.calls, List.append_assoc]

end Fitted

/-- What becomes of ring, place and snapshot in a read that has copied this header, or none, and of
the copier, which is called like this. -/
inductive Winds (c : CachedReader) (found : Option Header) (copier : Copier) :
    List CopierCall → Snapshot → CachedReader → Copier → Prop where
  /-- The copier is left alone. -/
  | quiet {snapshot : Snapshot} {c' : CachedReader} : c'.ring = c.ring → c'.next = c.next →
      snapshot.hasTexture = false ∨ snapshot = c.cache →
      c'.cache.hasTexture = false ∨ c'.cache = c.cache →
      Winds c found copier [] snapshot c' copier
  /-- The copier makes no texture. -/
  | refused {h : Header} {fault : CopyFault} {c' : CachedReader} : found = some h →
      (∀ held, c.ring[c.next]? = some (some held) → held.size ≠ h.config.textureSize) →
      copier.createFault = some fault → c'.ring = c.ring → c'.next = c.next → c'.cache = c.cache →
      Winds c found copier [.create c.next h.config.textureSize] .ipcHandleError c'
        { copier with calls := copier.calls ++ [.create c.next h.config.textureSize] }
  /-- There is a copy, which is shown and kept, or no good. -/
  | copied {h : Header} {made : List CopierCall} {request : CopyRequest} {snapshot : Snapshot}
      {c' : CachedReader} {between : Copier} : found = some h →
      Fitted c.ring c.next h.config.textureSize copier made request.target c'.ring between →
      snapshot = .withTexture h request.target ∧ c'.next = (c.next + 1) % c.ring.length ∧
          c'.cache = snapshot ∨
        snapshot = .ipcHandleError ∧ c'.next = c.next ∧ c'.cache = c.cache →
      Winds c found copier (made ++ [.copy request]) snapshot c' (between.copy request).2

/-- What is kept after a snapshot without pixels, if anything, has none either. -/
theorem after_without (c : CachedReader) (reader : Reader) (ring : List (Option RingTexture))
    (htexture : snapshot.hasTexture = false) :
    (c.after reader ring snapshot).ring = ring ∧ (c.after reader ring snapshot).next = c.next ∧
      ((c.after reader ring snapshot).cache.hasTexture = false ∨
        (c.after reader ring snapshot).cache = c.cache) := by
  unfold after
  by_cases hvalid : snapshot.isValid = true
  · rw [if_pos hvalid]
    refine ⟨rfl, ?_, .inl htexture⟩
    show (if snapshot.hasTexture then _ else c.next) = c.next
    rw [htexture, if_neg (by decide)]
  · rw [if_neg hvalid]
    exact ⟨rfl, rfl, .inr rfl⟩

theorem Turns.winds {found : Option Header} (hturns : c.Turns found copier snapshot c' copier')
    (hnext : c.ring ≠ [] → c.next < c.ring.length) (hlength : c.ring.length ≤ 255) :
    ∃ made, c.Winds found copier made snapshot c' copier' := by
  cases hturns with
  | detached => exact ⟨[], .quiet rfl rfl (.inl rfl) (.inl rfl)⟩
  | noRing => exact ⟨[], .quiet rfl rfl (.inl rfl) (.inr rfl)⟩
  | again reader => exact ⟨[], .quiet rfl rfl (.inr rfl) (.inr rfl)⟩
  | @fresh h snapshot reader ring copier' hring hfound hfills =>
    have hplaced := placed h.config.textureSize copier (hnext hring) (by have := hnext hring; omega)
    cases hfills with
    | without htexture =>
      obtain ⟨hsame, hstays, hcache⟩ := c.after_without reader c.ring htexture
      exact ⟨[], .quiet hsame hstays (.inl htexture) hcache⟩
    | noTexture hplace =>
      rw [hplace] at hplaced
      generalize hfault : (Except.error _ : Except CopyFault Nat) = outcome at hplaced
      cases hplaced with
      | found => cases hfault
      | made => cases hfault
      | refused hother hcreate => exact ⟨_, .refused hfound hother hcreate rfl rfl rfl⟩
    | @copied _ request ring' between hplace hsnapshot =>
      rw [hplace] at hplaced
      obtain ⟨made, hfitted⟩ := hplaced.fitted (hnext hring)
      have hlength := hfitted.length
      rcases hsnapshot with rfl | rfl
      · refine ⟨_, .copied hfound hfitted (.inl ⟨rfl, ?_, rfl⟩)⟩
        show (c.next + 1) % ring.length = _
        rw [hlength]
      · exact ⟨_, .copied hfound hfitted (.inr ⟨rfl, rfl, rfl⟩)⟩

/-! ## All reads since the ring was set up -/

/-- A cached reader since its ring was set up with `n` places, with all snapshots that it has given
since, the latest first, and its copier. Between two reads anything can happen to the region, and
the copier can begin or cease to fail. -/
inductive Loop (n : UInt8) : List Snapshot → CachedReader → Copier → Prop where
  | start (c : CachedReader) (gpu : UInt64) {copier : Copier} : copier.Numbered →
      Loop n [] (c.restart gpu n) copier
  | get {shown : List Snapshot} {c c' : CachedReader} {copier copier' copier'' : Copier}
      {snapshot : Snapshot} {s s' : Site} : Loop n shown c copier →
      copier'.textures = copier.textures → c.get copier' s = .ok (snapshot, c', copier'') s' →
      Loop n (snapshot :: shown) c' copier''
  | getMetadata {shown : List Snapshot} {c c' : CachedReader} {copier : Copier}
      {snapshot : Snapshot} {s s' : Site} : Loop n shown c copier →
      c.getMetadata s = .ok (snapshot, c') s' → Loop n (snapshot :: shown) c' copier

/-- Where everything is in a ring of `n` places after these snapshots were shown: the latest
pictures are one behind the other before the place of the next copy, as many as there are places
but that one. -/
structure Wound (n : Nat) (shown : List Snapshot) (c : CachedReader) (copier : Copier) : Prop where
  length : c.ring.length = n
  next : 0 < n → c.next < n
  numbered : copier.Numbered
  filled : Filled c.ring copier
  pictures : ∀ k p, k + 1 < n → (Snapshot.pictures shown)[k]? = some p →
    ∃ id index size, p.texture? = some id ∧ copier.Has id index size ∧ (index + k + 1) % n = c.next
  latest : c.cache.hasTexture = true → (Snapshot.pictures shown).head? = some c.cache

namespace Wound

variable {n : Nat} {shown : List Snapshot} {found : Option Header} {made : List CopierCall}

/-- What the copier is called, and whether it fails, does not matter. -/
theorem of_textures (h : Wound n shown c copier) (hsame : copier'.textures = copier.textures) :
    Wound n shown c copier' where
  length := h.length
  next := h.next
  numbered := h.numbered.of_textures hsame
  filled i held hheld := (h.filled i held hheld).of_textures hsame
  pictures k p hk hp := by
    obtain ⟨id, index, size, hid, hhas, hindex⟩ := h.pictures k p hk hp
    exact ⟨id, index, size, hid, hhas.of_textures hsame, hindex⟩
  latest := h.latest

/-- A snapshot that is shown without a copy is no new picture. -/
theorem quiet (h : Wound n shown c copier) (hring : c'.ring = c.ring) (hnext : c'.next = c.next)
    (hsnapshot : snapshot.hasTexture = false ∨ snapshot = c.cache)
    (hcache : c'.cache.hasTexture = false ∨ c'.cache = c.cache) :
    Wound n (snapshot :: shown) c' copier := by
  have hsame : Snapshot.pictures (snapshot :: shown) = Snapshot.pictures shown := by
    cases htexture : snapshot.hasTexture with
    | false => exact Snapshot.pictures_skip shown htexture
    | true =>
      rcases hsnapshot with hnone | rfl
      · rw [hnone] at htexture
        cases htexture
      · exact Snapshot.pictures_again htexture (h.latest htexture)
  constructor
  · rw [hring]
    exact h.length
  · rw [hnext]
    exact h.next
  · exact h.numbered
  · rw [hring]
    exact h.filled
  · rw [hsame, hnext]
    exact h.pictures
  · intro hkept
    rw [hsame]
    rcases hcache with hnone | hkeeps
    · rw [hnone] at hkept
      cases hkept
    · rw [hkeeps] at hkept ⊢
      exact h.latest hkept

/-- A picture that is in use is in another place than that of the next copy. -/
theorem elsewhere (h : Wound n shown c copier) {k : Nat} {p : Snapshot} (hk : k + 1 < n)
    (hp : (Snapshot.pictures shown)[k]? = some p) {id : Nat} {size : PixelSize}
    (hhas : copier.Has id c.next size) : p.texture? ≠ some id := by
  obtain ⟨id', index, size', hid, hhas', hindex⟩ := h.pictures k p hk hp
  intro heq
  cases hid.symm.trans heq
  obtain ⟨rfl, -⟩ := hhas'.unique h.numbered hhas
  -- going round less than once does not come back to the same place
  have hlt := h.next (by omega)
  rcases Nat.lt_or_ge (c.next + k + 1) n with hbefore | hbehind
  · rw [Nat.mod_eq_of_lt hbefore] at hindex
    omega
  · rw [Nat.mod_eq_sub_mod hbehind, Nat.mod_eq_of_lt (by omega)] at hindex
    omega

/-- A copy into a texture makes no other texture of it. -/
theorem copy (h : Wound n shown c copier) (request : CopyRequest) :
    Wound n shown c (copier.copy request).2 where
  length := h.length
  next := h.next
  numbered := h.numbered.copy request
  filled i held hheld := (h.filled i held hheld).copy request
  pictures k p hk hp := by
    obtain ⟨id, index, size, hid, hhas, hindex⟩ := h.pictures k p hk hp
    exact ⟨id, index, size, hid, hhas.copy request, hindex⟩
  latest := h.latest

/-- A texture that is made for the next copy is in nobody's way. -/
theorem fitted (h : Wound n shown c copier) {size : PixelSize} {target : Nat}
    (hfitted : Fitted c.ring c.next size copier made target c'.ring copier')
    (hnext : c'.next = c.next) (hcache : c'.cache = c.cache) : Wound n shown c' copier' where
  length := hfitted.length.trans h.length
  next := by
    rw [hnext]
    exact h.next
  numbered := hfitted.numbered h.numbered
  filled := hfitted.filled h.filled
  pictures k p hk hp := by
    obtain ⟨id, index, size', hid, hhas, hindex⟩ := h.pictures k p hk hp
    exact ⟨id, index, size', hid, hfitted.kept hhas, hindex.trans hnext.symm⟩
  latest := by
    rw [hcache]
    exact h.latest

/-- A new picture is the latest, and the others are one place further behind. -/
theorem new_picture (h : Wound n shown c copier) {header : Header} {target : Nat} {size : PixelSize}
    (hhas : copier.Has target c.next size) (hpos : 0 < n) (hring : c'.ring = c.ring)
    (hnext : c'.next = (c.next + 1) % n) (hcache : c'.cache = .withTexture header target) :
    Wound n (.withTexture header target :: shown) c' copier := by
  have hpictures := Snapshot.pictures_of_hasTexture (s := .withTexture header target) shown rfl
  constructor
  · rw [hring]
    exact h.length
  · intro _
    rw [hnext]
    exact Nat.mod_lt _ hpos
  · exact h.numbered
  · rw [hring]
    exact h.filled
  · intro k p hk hp
    rw [hpictures] at hp
    cases k with
    | zero =>
      cases hp
      exact ⟨target, c.next, size, rfl, hhas, hnext.symm⟩
    | succ k =>
      have hothers : ∀ j q, j ≤ k → (Snapshot.pictures shown)[j]? = some q →
          decide (q ≠ .withTexture header target) = true := by
        intro j q hj hq
        refine decide_eq_true fun heq => ?_
        refine h.elsewhere (by omega) hq hhas ?_
        rw [heq]
        rfl
      rw [List.getElem?_cons_succ, getElem?_filter_of_prefix hothers] at hp
      obtain ⟨id, index, size', hid, hhas', hindex⟩ := h.pictures k p (by omega) hp
      refine ⟨id, index, size', hid, hhas', ?_⟩
      rw [hnext, ← hindex, Nat.mod_add_mod]
      rfl
  · intro _
    rw [hpictures, hcache]
    rfl

/-- Whatever a read comes to, the pictures stay in their order behind the next place. -/
theorem winds (h : Wound n shown c copier)
    (hwinds : c.Winds found copier made snapshot c' copier') :
    Wound n (snapshot :: shown) c' copier' := by
  cases hwinds with
  | quiet hring hnext hsnapshot hcache => exact h.quiet hring hnext hsnapshot hcache
  | @refused header _ _ _ _ _ hring hnext hcache =>
    have hwound : Wound n shown c { copier with
        calls := copier.calls ++ [.create c.next header.config.textureSize] } := h.of_textures rfl
    exact hwound.quiet hring hnext (.inl rfl) (.inr hcache)
  | @copied header made request _ _ between _ hfitted houtcome =>
    have hwound : Wound n shown { c with ring := c'.ring } between := h.fitted hfitted rfl rfl
    rcases houtcome with ⟨rfl, hnext, hcache⟩ | ⟨rfl, hnext, hcache⟩
    · have hpos : 0 < n := by
        have := (List.getElem?_eq_some_iff.mp hfitted.here).1
        have hlength : c'.ring.length = n := hwound.length
        omega
      rw [h.length] at hnext
      have hshown : Wound n (.withTexture header request.target :: shown) c' between :=
        hwound.new_picture (hwound.filled _ _ hfitted.here) hpos rfl hnext hcache
      exact hshown.copy request
    · have hquiet : Wound n (.ipcHandleError :: shown) c' between :=
        hwound.quiet rfl hnext (.inl rfl) (.inr hcache)
      exact hquiet.copy request

end Wound

/-- A ring that was just set up. -/
theorem wound_restart (c : CachedReader) (gpu : UInt64) (n : UInt8)
    (hnumbered : copier.Numbered) : Wound n.toNat [] (c.restart gpu n) copier where
  length := List.length_replicate
  next hpos := hpos
  numbered := hnumbered
  filled i held hheld := by
    have hnone := List.eq_of_mem_replicate (List.mem_of_getElem? hheld)
    cases hnone
  pictures k p _ hp := by
    cases hp
  latest hkept := by
    cases hkept

/-- What a read without pixels gives has no texture. -/
theorem getMetadata_ok (hget : c.getMetadata s = .ok (snapshot, c') s') :
    snapshot.hasTexture = false ∧ ∃ reader, c' = { c with reader } := by
  rw [getMetadata, bind_ok (see_ok c.kind s)] at hget
  obtain ⟨⟨snapshot', reader⟩, t, hread, hlast⟩ := of_bind hget
  cases hlast
  refine ⟨?_, reader, rfl⟩
  rw [metadataSnapshot] at hread
  obtain ⟨⟨capture, reader'⟩, u, -, hrest⟩ := of_bind hread
  cases capture with
  | busy =>
    cases hrest
    rfl
  | empty =>
    cases hrest
    rfl
  | frame h =>
    cases hrest
    rfl

/-- A read of a cached reader whose ring was set up. -/
theorem Wound.get {n : UInt8} {shown : List Snapshot} (h : Wound n.toNat shown c copier)
    (hget : c.get copier s = .ok (snapshot, c', copier') s') :
    ∃ made, c.Winds (c.copied s) copier made snapshot c' copier' := by
  have hbyte := n.toNat_lt
  refine (get_turns hget).winds (fun hring => ?_) ?_
  · rw [h.length]
    refine h.next ?_
    rw [← h.length]
    exact List.length_pos_iff.mpr hring
  · rw [h.length]
    omega

theorem Loop.wound {n : UInt8} {shown : List Snapshot} (hloop : Loop n shown c copier) :
    Wound n.toNat shown c copier := by
  induction hloop with
  | start c gpu hnumbered => exact c.wound_restart gpu n hnumbered
  | get _ hsame hget ih =>
    obtain ⟨made, hwinds⟩ := (ih.of_textures hsame).get hget
    exact (ih.of_textures hsame).winds hwinds
  | getMetadata _ hget ih =>
    obtain ⟨htexture, reader, rfl⟩ := getMetadata_ok hget
    exact ih.quiet rfl rfl (.inl htexture) (.inr rfl)

/-! ## The result -/

/-- What a read that has copied this header, or none, does to the textures of a cached reader after
these snapshots were shown, where the copier is called like this. -/
structure Spares (n : Nat) (shown : List Snapshot) (found : Option Header) (c : CachedReader)
    (copier : Copier) (made : List CopierCall) (snapshot : Snapshot) (c' : CachedReader)
    (copier' : Copier) : Prop where
  calls : copier'.calls = copier.calls ++ made
  /-- No copy goes into the texture of the snapshot that is kept, nor of one of the pictures that
  were shown last, be the copy good or not. -/
  unused : 2 ≤ n → ∀ request, .copy request ∈ made → c.cache.texture? ≠ some request.target ∧
    ∀ p ∈ (Snapshot.pictures shown).take (n - 1), p.texture? ≠ some request.target
  /-- A copy goes into the next place of the ring. The texture there was made for this place, and is
  as large as the header says. -/
  destination : ∀ request, .copy request ∈ made → ∃ h, found = some h ∧
    c'.ring[c.next]? = some (some ⟨h.config.textureSize, request.target⟩) ∧
    copier'.Has request.target c.next h.config.textureSize
  /-- A texture is made only for this place, where there is none or one of another size. -/
  created : ∀ index size, .create index size ∈ made → index = c.next ∧
    (∃ h, found = some h ∧ size = h.config.textureSize) ∧
    ∀ held, c.ring[c.next]? = some (some held) → held.size ≠ size
  /-- Where none is made the ring is as it was, and nothing is copied. -/
  refused : ∀ index size fault, .create index size ∈ made → copier.createFault = some fault →
    c'.ring = c.ring ∧ (∀ request, .copy request ∉ made) ∧ snapshot = .ipcHandleError
  others : ∀ i, i ≠ c.next → c'.ring[i]? = c.ring[i]?
  /-- The ring moves on with a snapshot whose pixels were just copied, -/
  moves : (∃ request, .copy request ∈ made ∧ snapshot.texture? = some request.target) →
    c'.next = (c.next + 1) % n
  /-- and only then. -/
  stays : ¬(∃ request, .copy request ∈ made ∧ snapshot.texture? = some request.target) →
    c'.next = c.next
  /-- The next place is one of the ring, which a byte can count. -/
  bounded : 0 < n → c'.ring.length = n ∧ c'.next < n ∧ c'.next ≤ 255
  /-- So the only reason to have no texture is that the copier makes none. -/
  placed : 0 < n → ∀ size fault, (place c.ring c.next size copier).1 = .error fault →
    copier.createFault = some fault

/-- A copy goes to a place without a picture that is in use. -/
theorem Wound.unused {n : Nat} {shown : List Snapshot} (h : Wound n shown c copier) (hn : 2 ≤ n)
    {id : Nat} {size : PixelSize} (hhas : copier.Has id c.next size) :
    c.cache.texture? ≠ some id ∧
      ∀ p ∈ (Snapshot.pictures shown).take (n - 1), p.texture? ≠ some id := by
  have hothers : ∀ p ∈ (Snapshot.pictures shown).take (n - 1), p.texture? ≠ some id := by
    intro p hp
    obtain ⟨k, hk⟩ := List.getElem?_of_mem hp
    rw [List.getElem?_take] at hk
    split at hk
    · exact h.elsewhere (by omega) hk hhas
    · cases hk
  refine ⟨fun hsame => ?_, hothers⟩
  -- the snapshot that is kept is the latest picture
  have hlatest := h.latest (by rw [Snapshot.hasTexture, hsame]; rfl)
  rw [List.head?_eq_getElem?] at hlatest
  exact h.elsewhere (by omega) hlatest hhas hsame

theorem Wound.spares {n : Nat} {shown : List Snapshot} {found : Option Header}
    {made : List CopierCall} (h : Wound n shown c copier) (hn : n ≤ 255)
    (hwinds : c.Winds found copier made snapshot c' copier') :
    Spares n shown found c copier made snapshot c' copier' := by
  have hbounded : 0 < n → c'.ring.length = n ∧ c'.next < n ∧ c'.next ≤ 255 := by
    intro hpos
    have hwound := h.winds hwinds
    have := hwound.next hpos
    exact ⟨hwound.length, this, by omega⟩
  have hplaced : 0 < n → ∀ size fault, (place c.ring c.next size copier).1 = .error fault →
      copier.createFault = some fault := by
    intro hpos size fault hfault
    have hnext := h.next hpos
    have hplaced := placed size copier (by rw [h.length]; exact hnext) (by omega)
    generalize place c.ring c.next size copier = result at hplaced hfault
    obtain ⟨outcome, ring, between⟩ := result
    cases hplaced with
    | found => cases hfault
    | made => cases hfault
    | refused _ hcreate =>
      cases hfault
      exact hcreate
  cases hwinds with
  | quiet hring hnext =>
    have hnone : ∀ call, call ∉ ([] : List CopierCall) := fun call hmem => by cases hmem
    constructor
    · exact (List.append_nil _).symm
    · exact fun _ request hmem => absurd hmem (hnone _)
    · exact fun request hmem => absurd hmem (hnone _)
    · exact fun index size hmem => absurd hmem (hnone _)
    · exact fun index size fault hmem => absurd hmem (hnone _)
    · exact fun i _ => by rw [hring]
    · rintro ⟨request, hmem, -⟩
      exact absurd hmem (hnone _)
    · exact fun _ => hnext
    · exact hbounded
    · exact hplaced
  | @refused header fault c' hfound hother hfault hring hnext hcache =>
    have hcall {call : CopierCall} (hmem : call ∈ [.create c.next header.config.textureSize]) :
        call = .create c.next header.config.textureSize := List.mem_singleton.mp hmem
    constructor
    · rfl
    · exact fun _ request hmem => by cases hcall hmem
    · exact fun request hmem => by cases hcall hmem
    · intro index size hmem
      cases hcall hmem
      exact ⟨rfl, ⟨header, hfound, rfl⟩, hother⟩
    · exact fun _ _ _ _ _ => ⟨hring, (fun request hmem => by cases hcall hmem), rfl⟩
    · exact fun i _ => by rw [hring]
    · rintro ⟨request, hmem, -⟩
      cases hcall hmem
    · exact fun _ => hnext
    · exact hbounded
    · exact hplaced
  | @copied header made request _ _ between hfound hfitted houtcome =>
    have hhas : between.Has request.target c.next header.config.textureSize :=
      hfitted.filled h.filled _ _ hfitted.here
    have hwound : Wound n shown { c with ring := c'.ring } between := h.fitted hfitted rfl rfl
    constructor
    · exact hfitted.calls_copy
    · intro hmany other hmem
      rw [hfitted.copy_eq hmem]
      exact hwound.unused hmany hhas
    · intro other hmem
      rw [hfitted.copy_eq hmem]
      exact ⟨header, hfound, hfitted.here, hhas.copy request⟩
    · intro index size hmem
      obtain ⟨rfl, rfl, -, hother⟩ := hfitted.create_eq hmem
      exact ⟨rfl, ⟨header, hfound, rfl⟩, hother⟩
    · intro index size fault hmem hfault
      obtain ⟨-, -, hnone, -⟩ := hfitted.create_eq hmem
      rw [hnone] at hfault
      cases hfault
    · exact hfitted.others
    · rintro ⟨other, -, htexture⟩
      rcases houtcome with ⟨rfl, hnext, -⟩ | ⟨rfl, -, -⟩
      · rw [hnext, h.length]
      · cases htexture
    · intro hnot
      rcases houtcome with ⟨rfl, -, -⟩ | ⟨rfl, hnext, -⟩
      · exact absurd ⟨request, List.mem_append_right _ List.mem_cons_self, rfl⟩ hnot
      · exact hnext
    · exact hbounded
    · exact hplaced

/-- A site on which the frame with this number is to be read. -/
def sampleSite (frame : UInt64) : Site where
  caller := ⟨8, 0⟩
  names := ⟨"region", "lock"⟩
  book := .fresh .reader
  memory := Header.codec.encode { (Header.ofSession 5 1).publish 5 7 Exchange.sampleFrame.config
    Exchange.sampleFrame.layers 900 901 with frame }
  mutex := .fresh .checked
  host := Exchange.sample.host

/-- Reads on these sites, the latest first, since a ring was set up. -/
def rounds (n : UInt8) : List Site → Option (List Snapshot × CachedReader × Copier)
  | [] => some ([], (fresh .viewer).restart 5 n, .fresh)
  | s :: earlier => do
    let (shown, c, copier) ← rounds n earlier
    match c.get copier s with
    | .ok (snapshot, c, copier) _ => some (snapshot :: shown, c, copier)
    | .error _ _ => none

theorem Loop.of_rounds {n : UInt8} {sites : List Site} {shown : List Snapshot}
    (hrounds : rounds n sites = some (shown, c, copier)) : Loop n shown c copier := by
  induction sites generalizing shown c copier with
  | nil =>
    cases hrounds
    exact .start _ 5 fun i t hi => by cases hi
  | cons s earlier ih =>
    obtain ⟨⟨shown', c₀, copier₀⟩, hearlier, hlast⟩ := Option.bind_eq_some_iff.mp hrounds
    dsimp only at hlast
    split at hlast
    · next hget =>
      cases hlast
      exact .get (ih hearlier) rfl hget
    · cases hlast

/-- The next read spares the pictures that are in use. -/
theorem Loop.sparesPictures {n : UInt8} {shown : List Snapshot} {copier'' : Copier}
    (hloop : Loop n shown c copier) (hsame : copier'.textures = copier.textures)
    (hget : c.get copier' s = .ok (snapshot, c', copier'') s') :
    ∃ made, Spares n.toNat shown (c.copied s) c copier' made snapshot c' copier'' := by
  have hwound := hloop.wound.of_textures hsame
  have hbyte := n.toNat_lt
  obtain ⟨made, hwinds⟩ := hwound.get hget
  exact ⟨made, hwound.spares (by omega) hwinds⟩

/-- In a ring of two the third frame is copied over the first, while the second is shown. -/
theorem Loop.sparesPictures_third : ∃ shown c copier snapshot c' copier',
    Loop 2 shown c copier ∧ c.cache.texture? = some 2 ∧ snapshot.texture? = some 1 ∧
      Spares 2 shown (c.copied (sampleSite 3)) c copier.looked copier'.calls snapshot c'
        copier' := by
  have hplayed : ((rounds 2 [sampleSite 2, sampleSite 1]).bind fun (_, c, copier) =>
      match c.get copier.looked (sampleSite 3) with
      | .ok (snapshot, _, _) _ => some (c.cache.texture?, snapshot.texture?)
      | .error _ _ => none) = some (some 2, some 1) := by
    decide +kernel
  obtain ⟨⟨shown, c, copier⟩, hrounds, hrest⟩ := Option.bind_eq_some_iff.mp hplayed
  have hloop := Loop.of_rounds hrounds
  dsimp only at hrest
  split at hrest
  · next snapshot c' copier' s' hget =>
    rw [Option.some.injEq, Prod.mk.injEq] at hrest
    have hsame : copier.looked.textures = copier.textures := rfl
    obtain ⟨made, hspares⟩ := hloop.sparesPictures hsame hget
    have hmade : copier'.calls = made := hspares.calls
    rw [← hmade] at hspares
    exact ⟨shown, c, copier, snapshot, c', copier', hloop, hrest.1, hrest.2, hspares⟩
  · cases hrest

end CachedReader

end FrameExchange
